import CursorLift.Text.Basic

/-! # Command-line arguments

Options come first, then a file, and everything after the file is for the compiler. A
long option may be shortened as long as it stays the only one of its beginning, and may
have its value after an equals sign; short options without a value may be written
together. A lone pair of dashes ends the options.

What each argument is, is settled for all of them before any is obeyed.
-/

namespace CursorLift.CommandLine

inductive Flag where
  | help
  | workingDirectory
  | showDiagnostics
  | verbose
  deriving Repr, DecidableEq

namespace Flag

/-- The ways to write an option, in the order of their declaration. -/
def spellings : List (String × Flag) := [
  ("-h", .help), ("--help", .help),
  ("--working-dir", .workingDirectory), ("-C", .workingDirectory),
  ("--show-diagnostics", .showDiagnostics),
  ("--verbose", .verbose), ("-v", .verbose)]

/-- How messages name an option: by all of its spellings. -/
def name (flag : Flag) : String :=
  "/".intercalate ((spellings.filter fun entry => entry.2 == flag).map Prod.fst)

def takesValue : Flag → Bool
  | .workingDirectory => true
  | _ => false

def ofSpelling? (spelling : List Char) : Option Flag :=
  spellings.lookup (String.ofList spelling)

end Flag

/-- Why arguments are refused. -/
inductive Refusal where
  | ambiguous (argument : String) (candidates : List String)
  | valueIgnored (flag : Flag) (value : String)
  | valueMissing (flag : Flag)
  | fileMissing
  | unrecognized (arguments : List String)
  deriving Repr, DecidableEq

namespace Refusal

def message : Refusal → String
  | .ambiguous argument candidates =>
    "ambiguous option: " ++ argument ++ " could match " ++ ", ".intercalate candidates
  | .valueIgnored flag value =>
    "argument " ++ flag.name ++ ": ignored explicit argument " ++ Text.quoted value
  | .valueMissing flag => "argument " ++ flag.name ++ ": expected one argument"
  | .fileMissing => "the following arguments are required: file, clang_args"
  | .unrecognized arguments => "unrecognized arguments: " ++ " ".intercalate arguments

end Refusal

/-- What an argument is, before it is obeyed. -/
inductive Role where
  /-- A file, or the value of an option. -/
  | operand
  /-- The pair of dashes that ends the options. -/
  | separator
  /-- An option, with the text that is attached to it; short when it has a single dash. -/
  | option (flag : Flag) (short : Bool) (attached : Option (List Char))
  /-- It looks like an option and is none. -/
  | stranger
  deriving Repr, DecidableEq

/-- A text before its first equals sign, and what follows the sign. -/
def splitValue (text : List Char) : List Char × Option (List Char) :=
  (text.takeWhile (· ≠ '='), ((text.dropWhile (· ≠ '=')).tail?))

def isDigits (text : List Char) : Bool := !text.isEmpty && text.all Text.isDecimalDigit

/-- Whether a text is a negative number, perhaps with a line end after it. Such a text is
no option. -/
def isNegativeNumber (text : List Char) : Bool :=
  let line := if text.getLast? = some '\n' then text.dropLast else text
  match line with
  | '-' :: number =>
    isDigits number ||
      match number.dropWhile Text.isDecimalDigit with
      | '.' :: fraction => isDigits fraction
      | _ => false
  | _ => false

/-- The role of an argument with a single dash that is not an option as it stands: an option
with text attached, or else something that only looks like one. -/
def shortRole (text : List Char) : Role :=
  match Flag.ofSpelling? (text.take 2) with
  | some flag => .option flag true (some (text.drop 2))
  | none => if isNegativeNumber text || text.contains ' ' then .operand else .stranger

/-- The role of an argument with two dashes that is not an option as it stands: a shortened
option, unless several options begin that way. -/
def longRole (text : List Char) : Except Refusal Role :=
  let (start, value) := splitValue text
  let candidates := Flag.spellings.filter fun entry => start.isPrefixOf entry.1.toList
  match candidates with
  | [] => .ok (if text.contains ' ' then .operand else .stranger)
  | [(_, flag)] => .ok (.option flag false value)
  | _ => .error (.ambiguous (String.ofList text) (candidates.map Prod.fst))

def role (text : List Char) : Except Refusal Role :=
  match text with
  | '-' :: second :: _ =>
    let (spelling, value) := splitValue text
    let short := second ≠ '-'
    match Flag.ofSpelling? text, Flag.ofSpelling? spelling with
    | some flag, _ => .ok (.option flag short none)
    | none, some flag => .ok (.option flag short value)
    | none, none => if short then .ok (shortRole text) else longRole text
  | _ => .ok .operand

/-- The roles of all arguments: after the separator all are operands. -/
def roles : List String → Except Refusal (List (String × Role))
  | [] => .ok []
  | argument :: rest =>
    if argument = "--" then
      .ok ((argument, .separator) :: rest.map fun operand => (operand, .operand))
    else do
      let first ← role argument.toList
      let others ← roles rest
      return (argument, first) :: others

/-- The options that text attached to a short option stands for: those without a value, the
last one, and the value attached to it. -/
def cluster (flag : Flag) : List Char → Except Refusal (List Flag × Flag × Option (List Char))
  | [] => if flag.takesValue then .ok ([], flag, some []) else .error (.valueIgnored flag "")
  | c :: rest =>
    if flag.takesValue then .ok ([], flag, some (c :: rest))
    else match Flag.ofSpelling? ['-', c] with
      | none => .error (.valueIgnored flag (String.ofList (c :: rest)))
      | some next =>
        if rest.isEmpty then .ok ([flag], next, none)
        else do
          let (flags, last, value) ← cluster next rest
          return (flag :: flags, last, value)

/-- The options that one argument stands for. -/
def expand (flag : Flag) (short : Bool) (attached : Option (List Char)) :
    Except Refusal (List Flag × Flag × Option (List Char)) :=
  match attached with
  | none => .ok ([], flag, none)
  | some text =>
    if short then cluster flag text
    else if flag.takesValue then .ok ([], flag, some text)
    else .error (.valueIgnored flag (String.ofList text))

structure Options where
  /-- The directory that the file is relative to; none when its value was dropped. -/
  workingDirectory : Option String := some "."
  showDiagnostics : Bool := false
  verbose : Bool := false
  deriving Repr, DecidableEq

def Options.set (options : Options) : Flag → Options
  | .showDiagnostics => { options with showDiagnostics := true }
  | .verbose => { options with verbose := true }
  | _ => options

/-- The options with a value attached for the working directory. A pair of dashes is dropped
wherever it stands, so as a value it leaves none. -/
def Options.attach (options : Options) (value : List Char) : Options :=
  { options with
    workingDirectory := if value = ['-', '-'] then none else some (String.ofList value) }

/-- What the arguments ask for. -/
inductive Request where
  | help
  | dump (options : Options) (file : String) (compilerArguments : List String)
  deriving Repr, DecidableEq

/-- The request for a file with what follows it. Separators are not for the compiler. -/
def conclude (options : Options) (strangers : List String) (file : String)
    (rest : List String) : Except Refusal Request :=
  if strangers.isEmpty then .ok (.dump options file (rest.filter (· ≠ "--")))
  else .error (.unrecognized strangers)

/-- Obeys arguments one after the other, up to the file. -/
def obey (options : Options) (strangers : List String) :
    List (String × Role) → Except Refusal Request
  | [] => .error .fileMissing
  | (file, .operand) :: rest => conclude options strangers file (rest.map Prod.fst)
  | (_, .separator) :: [] => .error .fileMissing
  | (_, .separator) :: (file, _) :: rest => conclude options strangers file (rest.map Prod.fst)
  | (argument, .stranger) :: rest => obey options (strangers ++ [argument]) rest
  | (_, .option flag short attached) :: rest => do
    let (flags, last, value) ← expand flag short attached
    let before := flags.foldl Options.set options
    if last.takesValue then
      match value with
      | some text =>
        if flags.contains .help then return .help
        else obey (before.attach text) strangers rest
      | none =>
        match rest with
        | (text, .operand) :: rest =>
          if flags.contains .help then return .help
          else obey { before with workingDirectory := some text } strangers rest
        | _ => throw (.valueMissing last)
    else if flags.contains .help || last = .help then return .help
    else obey (before.set last) strangers rest

/-- What arguments ask for, or why they are refused. -/
def request (arguments : List String) : Except Refusal Request := do
  let roles ← roles arguments
  obey {} [] roles

end CursorLift.CommandLine
