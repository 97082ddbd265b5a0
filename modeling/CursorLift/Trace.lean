import CursorLift.Literal.Basic

/-! # Runs and their traces

A run is what an operation did and how it ended. What it did is a list of events in
order: calls to the engine, and notices for whoever follows along. A run that fails
keeps the events up to its failure.
-/

namespace CursorLift

/-- A call to the engine that reports show. -/
inductive Call where
  | createIndex (excludeFromPch displayDiagnostics : Bool)
  | loadUnit (index : Nat) (path : String) (arguments : List String)
      (unsaved : Option (List (String × String))) (options : Int)
  /-- Asks for the token at a cursor's location in a unit. -/
  | findToken (unit : Option Nat) (cursor : Option String)
  /-- Gives back tokens that the engine handed out. -/
  | releaseTokens (count : Nat)
  /-- Splits the source at a cursor's location into tokens. -/
  | splitAtLocation (cursor : Option String)
  /-- Splits the extent of a cursor into tokens. -/
  | splitExtent (cursor : Option String)
  | disposeIndex (index : Nat)
  | stopThreads
  deriving Repr, DecidableEq

/-- How much a notice matters. -/
inductive Level where
  | debug
  | info
  | warning
  deriving Repr, DecidableEq

namespace Level

def name : Level → String
  | .debug => "DEBUG"
  | .info => "INFO"
  | .warning => "WARNING"

/-- The place of a level among the levels, from the least. -/
def rank : Level → Nat
  | .debug => 0
  | .info => 1
  | .warning => 2

def reaches (level threshold : Level) : Bool := threshold.rank ≤ level.rank

end Level

/-- Something worth telling that is no failure. -/
inductive Notice where
  | registered (kind : Kind)
  | unwrapping (kind : Kind)
  | building (kind : Kind)
  | degenerate (form : Literal.Form) (text : String)
  | loading (path : String) (arguments : List String)
  | closed
  | creatingIndex (excludeFromPch displayDiagnostics : Bool)
  | releasingIndex
  | noThreads
  | noInitializerLookup
  | textGiven (length : Nat) (name : String)
  deriving Repr, DecidableEq

namespace Notice

def level : Notice → Level
  | .degenerate .. => .warning
  | .loading .. => .info
  | _ => .debug

def channel : Notice → String
  | .registered _ => "cursorast.registry"
  | .unwrapping _ => "cursorast.builder"
  | .building _ => "cursorast.builder"
  | .degenerate .. => "cursorast.nodes"
  | .loading .. => "cursorast.session"
  | .closed => "cursorast.session"
  | .creatingIndex .. => "cursorast.native"
  | .releasingIndex => "cursorast.native"
  | .noThreads => "cursorast.native"
  | .noInitializerLookup => "cursorast.native"
  | .textGiven .. => "cursorast.api"

/-- How notices show a truth value. -/
def flag : Bool → String
  | true => "True"
  | false => "False"

/-- The words of a notice. -/
def text : Notice → String
  | .registered kind => "Registered constructor for " ++ kind.shown
  | .unwrapping kind => "Unwrapping " ++ kind.shown
  | .building kind => "Building " ++ kind.shown
  | .degenerate form text =>
    "Degenerate " ++ form.name ++ " literal token " ++ Text.quoted text ++ " parsed as NaN"
  | .loading path arguments =>
    "Parsing " ++ path ++ " (args=" ++ Text.quotedList arguments ++ ")"
  | .closed => "Parser session closed"
  | .creatingIndex excludeFromPch displayDiagnostics =>
    "Creating index (exclude_decls_from_pch=" ++ flag excludeFromPch
      ++ ", display_diagnostics=" ++ flag displayDiagnostics ++ ")"
  | .releasingIndex => "Releasing index <Index>"
  | .noThreads => "No native worker threads to terminate"
  | .noInitializerLookup => "libclang lacks clang_Cursor_getVarDeclInitializer"
  | .textGiven length name =>
    "Parsing " ++ Text.decimal length ++ " bytes of in-memory source as " ++ name

/-- A notice with its channel in front. -/
def onChannel (notice : Notice) : String := notice.channel ++ ": " ++ notice.text

def line (notice : Notice) : String := notice.level.name ++ " " ++ notice.onChannel

end Notice

/-- One thing that happened in a run. -/
inductive Event where
  | call (call : Call)
  | notice (notice : Notice)
  deriving Repr, DecidableEq

namespace Event

/-- The engine calls of a trace. -/
def calls (trace : List Event) : List Call :=
  trace.filterMap fun
    | .call c => some c
    | .notice _ => none

/-- The notices of a trace that reach a level. -/
def notices (threshold : Level) (trace : List Event) : List Notice :=
  trace.filterMap fun
    | .call _ => none
    | .notice n => if n.level.reaches threshold then some n else none

end Event

/-- What an operation did, and its result or its failure. -/
structure Run (α : Type) where
  trace : List Event
  outcome : Except Failure α

namespace Run

variable {α β : Type}

protected def pure (a : α) : Run α := ⟨[], .ok a⟩

/-- One run and then another that depends on its value. -/
protected def bind (x : Run α) (f : α → Run β) : Run β :=
  match x.outcome with
  | .error failure => ⟨x.trace, .error failure⟩
  | .ok a =>
    let y := f a
    ⟨x.trace ++ y.trace, y.outcome⟩

instance : Monad Run where
  pure := Run.pure
  bind := Run.bind

def fail (failure : Failure) : Run α := ⟨[], .error failure⟩

def call (c : Call) : Run Unit := ⟨[.call c], .ok ()⟩

def note (n : Notice) : Run Unit := ⟨[.notice n], .ok ()⟩

/-- A run that does nothing and ends as given. -/
def ofExcept (outcome : Except Failure α) : Run α := ⟨[], outcome⟩

/-- One run and then another that takes place however the first one ended. A failure of
the second stands before that of the first. -/
def andFinally (x : Run α) (y : Run β) : Run α :=
  ⟨x.trace ++ y.trace,
    match y.outcome with
    | .error failure => .error failure
    | .ok _ => x.outcome⟩

@[simp] theorem pure_trace (a : α) : (pure a : Run α).trace = [] := rfl

@[simp] theorem pure_outcome (a : α) : (pure a : Run α).outcome = .ok a := rfl

/-- After a run that gave a value, binding appends the trace of the next. -/
theorem bind_of_ok {x : Run α} {a : α} (h : x.outcome = .ok a) (f : α → Run β) :
    x >>= f = ⟨x.trace ++ (f a).trace, (f a).outcome⟩ := by
  show Run.bind x f = _
  simp only [Run.bind, h]

/-- After a run that failed, binding changes nothing. -/
theorem bind_of_error {x : Run α} {failure : Failure} (h : x.outcome = .error failure)
    (f : α → Run β) : x >>= f = ⟨x.trace, .error failure⟩ := by
  show Run.bind x f = _
  simp only [Run.bind, h]

end Run

end CursorLift
