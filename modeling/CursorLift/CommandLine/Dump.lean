import CursorLift.CommandLine.Arguments
import CursorLift.Node.Dump
import CursorLift.Session.Basic

/-! # The dump program

Lifts one file and prints the dump of its node. Notices go to the error stream: only
warnings, bare, or with the verbose option all of them with their channels.
-/

namespace CursorLift.CommandLine

def program : String := "dump_ast.py"

def usage : String :=
  "usage: " ++ program ++ " [-h] [--working-dir WORKING_DIR] [--show-diagnostics]\n"
    ++ "                   [--verbose]\n"
    ++ "                   file ...\n"

def help : String :=
  usage ++ "\n"
    ++ "Dump a typed clang AST as JSON\n"
    ++ "\n"
    ++ "positional arguments:\n"
    ++ "  file                  Source file to parse\n"
    ++ "  clang_args            Compiler arguments after '--'\n"
    ++ "\n"
    ++ "options:\n"
    ++ "  -h, --help            show this help message and exit\n"
    ++ "  --working-dir WORKING_DIR, -C WORKING_DIR\n"
    ++ "                        Directory the source path is resolved against\n"
    ++ "                        (default: .)\n"
    ++ "  --show-diagnostics    Let libclang print its diagnostics to stderr\n"
    ++ "  --verbose, -v         Enable debug logging\n"

/-- How the program ended. -/
inductive Ending where
  | status (code : Nat)
  /-- A failure that the program does not report on. -/
  | broke (failure : Failure)
  deriving Repr, DecidableEq

/-- All that can be seen of one run of the program. -/
structure Performance where
  ending : Ending
  output : String := ""
  errors : String := ""
  trace : List Event := []

/-- The lines that the notices of a trace make on the error stream. -/
def noticeLines (verbose : Bool) (trace : List Event) : String :=
  let lines :=
    if verbose then (Event.notices .debug trace).map Notice.onChannel
    else (Event.notices .warning trace).map Notice.text
  String.join (lines.map (· ++ "\n"))

/-- Lifts the file of a request. Without a directory to take it relative to, that fails as
soon as there is a session. -/
def liftRequested (frontend : Frontend) (options : Options) (file : String)
    (compilerArguments : List String) : Run Node :=
  let settings : Settings := { displayDiagnostics := options.showDiagnostics }
  match options.workingDirectory with
  | some directory =>
    frontend.liftFile { settings with workingDirectory := directory } file compilerArguments
  | none => frontend.inSession settings fun s => (s, Run.fail .directoryNotText)

def present (verbose : Bool) (ran : Run Node) : Performance :=
  let notices := noticeLines verbose ran.trace
  match ran.outcome.bind fun node => node.dump (some Node.defaultIndent) with
  | .ok text =>
    { ending := .status 0, output := text ++ "\n", errors := notices, trace := ran.trace }
  | .error failure =>
    if failure.isConstruction then
      { ending := .status 1, errors := notices ++ "error: " ++ failure.message ++ "\n",
        trace := ran.trace }
    else { ending := .broke failure, errors := notices, trace := ran.trace }

/-- Whether the program, with these arguments, comes to load a unit. -/
def loadsUnit (arguments : List String) : Bool :=
  match request arguments with
  | .ok (.dump ..) => true
  | _ => false

/-- Runs the program with its arguments. -/
def perform (frontend : Frontend) (arguments : List String) : Performance :=
  match request arguments with
  | .error refusal =>
    { ending := .status 2
      errors := usage ++ program ++ ": error: " ++ refusal.message ++ "\n" }
  | .ok .help => { ending := .status 0, output := help }
  | .ok (.dump options file compilerArguments) =>
    present options.verbose (liftRequested frontend options file compilerArguments)

end CursorLift.CommandLine
