import CursorLift.Cursor
import CursorLift.Trace

/-! # Engines

An engine loads units and answers questions about their cursors. There are two: one
that holds everything in memory and can be told which of its operations fail, and the
library of a front end, of which older versions lack some exports.

What an answer is and what asking does are kept apart: functions such as `kindOf` give
the answer, and functions that return a run make the calls, give the notices and meet
the faults.
-/

namespace CursorLift

/-- The operations of an engine that can fail. -/
inductive Operation where
  | createIndex
  | disposeIndex
  | loadUnit
  | unitRoot
  | stopThreads
  | kind
  | spelling
  | token
  | initializer
  deriving Repr, DecidableEq

/-- What a front end's library offers beyond what every version of it has. -/
structure Exports where
  /-- The token at a location can be asked for. -/
  tokens : Bool := true
  /-- The initializer of a declaration can be asked for. -/
  initializers : Bool := true
  deriving Repr, DecidableEq

inductive Engine where
  /-- Everything in memory; each operation listed fails with its message. -/
  | memory (faults : List (Operation × String))
  /-- The library of a front end. -/
  | library (exports : Exports)
  deriving Repr, DecidableEq

/-- A unit that an engine can load: its root cursor, and the tokens of some places. -/
structure SourceUnit where
  root : Cursor
  tokens : List (String × String) := []

/-- A unit that was loaded, with its place among the units of the engine. -/
structure ActiveUnit where
  serial : Nat
  source : SourceUnit

namespace Engine

def fault? : Engine → Operation → Option String
  | .memory faults, operation => faults.lookup operation
  | .library _, _ => none

/-- Attempts an operation that has nothing to show but whether it fails. -/
def attempt (engine : Engine) (operation : Operation) : Run Unit :=
  match engine.fault? operation with
  | some message => Run.fail (.engineFault message)
  | none => pure ()

/-- What an engine knows a cursor as. A library knows kinds by number, so a number of the
table is the kind that the table lists. -/
def kindOf : Engine → Cursor → Except Failure Kind
  | .memory _, c => .ok c.facts.kind
  | .library _, c =>
    match c.facts.kind.identify? with
    | some kind => .ok kind
    | none => .error .outsideTable

/-- What an engine knows the type of a cursor as. A library fails where a number is not listed. -/
def typeKindOf (engine : Engine) (c : Cursor) : Except Failure String :=
  match engine, c.facts.typeKind with
  | _, .listed name => .ok name
  | .memory _, .number id => .ok (Text.decimal id)
  | .library _, .number id => .error (.unlisted id)

def kind (engine : Engine) (c : Cursor) : Run Kind := do
  engine.attempt .kind
  Run.ofExcept (engine.kindOf c)

/-- The token at a cursor's location. In memory, a cursor may leave it to the unit that
is active. -/
def tokenOf? : Engine → Option ActiveUnit → Cursor → Option String
  | .memory _, unit, c =>
    match c.facts.place with
    | none => c.facts.token
    | some place => unit.bind fun active => active.source.tokens.lookup place
  | .library _, _, c => c.facts.token

/-- Asks for the token at a cursor's location. A library hands the token out and gets it
back at once; without that export the source of the active unit is split at the location. -/
def token (engine : Engine) (unit : Option ActiveUnit) (c : Cursor) : Run (Option String) := do
  match engine with
  | .memory _ =>
    Run.call (.findToken (unit.map ActiveUnit.serial) c.facts.label)
    engine.attempt .token
  | .library exports =>
    if exports.tokens then
      Run.call (.findToken (unit.map ActiveUnit.serial) c.facts.label)
      if (engine.tokenOf? unit c).isSome then Run.call (.releaseTokens 1)
    else match unit with
      | some _ => Run.call (.splitAtLocation c.facts.label)
      | none => Run.fail .noUnit
  return engine.tokenOf? unit c

def isExpression (engine : Engine) (c : Cursor) : Bool :=
  match engine.kindOf c with
  | .ok (.listed kind) => kind.isExpression
  | _ => false

/-- Why a cursor has no kind of the table, when it has none. -/
def unlisted? (engine : Engine) (c : Cursor) : Option Failure :=
  match engine.kindOf c with
  | .error failure => some failure
  | .ok (.number id) => some (.unlisted id)
  | .ok _ => none

/-- Whether the text of a declaration has an equals sign, after which the initializer stands. -/
def assigns (c : Cursor) : Bool := c.extentLexemes.contains "="

/-- The initializer of a declaration; a null cursor is none. A library without that export
takes the last expression among the children, if there is an equals sign. -/
def initializerOf? (engine : Engine) (c : Cursor) : Option Cursor :=
  let candidate := match engine with
    | .library { initializers := false, .. } =>
      if assigns c then (c.children.filter engine.isExpression).getLast? else none
    | _ => c.initializer
  candidate.filter fun d => !d.facts.isNull

/-- Asks for the initializer of a declaration. Looking for it among the children, the
engine fails at the first that has no kind of the table. -/
def seekInitializer (engine : Engine) (c : Cursor) : Run Unit :=
  match engine with
  | .library { initializers := false, .. } => do
    Run.note .noInitializerLookup
    Run.call (.splitExtent (if c.facts.hasExtent then c.facts.label else none))
    if assigns c then
      match c.children.findSome? engine.unlisted? with
      | some failure => Run.fail failure
      | none => pure ()
  | _ => engine.attempt .initializer

/-- A text as an engine receives it: a library reads it up to the first null character. -/
def received : Engine → String → String
  | .memory _, text => text
  | .library _, text => String.ofList (text.toList.takeWhile (· ≠ '\x00'))

/-- The call that loads a unit. The path is handed over as it is, and all other texts as the
engine receives them. -/
def loadCall (engine : Engine) (index : Nat) (path : String) (arguments : List String)
    (unsaved : Option (List (String × String))) (options : Int) : Call :=
  .loadUnit index path (arguments.map engine.received)
    (unsaved.map fun files =>
      files.map fun (name, text) => (engine.received name, engine.received text))
    options

def createIndex (engine : Engine) (excludeFromPch displayDiagnostics : Bool) : Run Unit := do
  match engine with
  | .memory _ => pure ()
  | .library _ => Run.note (.creatingIndex excludeFromPch displayDiagnostics)
  Run.call (.createIndex excludeFromPch displayDiagnostics)
  engine.attempt .createIndex

/-- Gives up an index. A library frees it by itself later. -/
def disposeIndex (engine : Engine) (index : Nat) : Run Unit :=
  match engine with
  | .memory _ => do
    Run.call (.disposeIndex index)
    engine.attempt .disposeIndex
  | .library _ => Run.note .releasingIndex

/-- Stops the threads of an engine. A library has none. -/
def stopThreads (engine : Engine) : Run Unit :=
  match engine with
  | .memory _ => do
    Run.call .stopThreads
    engine.attempt .stopThreads
  | .library _ => Run.note .noThreads

/-- The unit that an engine loads after it has served some: the next one, and the last one
again and again when there are no more. -/
def serve? (supply : List (Option SourceUnit)) (served : Nat) : Option ActiveUnit :=
  let serial := if served < supply.length then served else supply.length - 1
  (supply[serial]?.join).map fun source => ⟨serial, source⟩

def rootOf (engine : Engine) (unit : ActiveUnit) : Run Cursor := do
  engine.attempt .unitRoot
  return unit.source.root

end Engine

/-! ## Choosing a library file

The file of a front end's library can be chosen until the library is loaded. The last
choice counts, and an empty one is none.
-/

namespace Library

/-- The file after one more engine was made with a choice or without. -/
def choose (loaded : Bool) (chosen : Option String) (file : Option String) : Option String :=
  match file with
  | some name => if name.isEmpty || loaded then chosen else some name
  | none => chosen

/-- The file after engines were made one after the other. -/
def chosen? (loaded : Bool) (files : List (Option String)) : Option String :=
  files.foldl (choose loaded) none

end Library

end CursorLift
