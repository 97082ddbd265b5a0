import CursorLift.Lift

/-! # Sessions

A session owns one index of an engine from its creation until it is closed. Loading a
unit makes it the active one, from which tokens are read. Closing gives the index up
and stops the engine's threads, once, whatever fails; a closed session loads nothing.

One unit alone is lifted in a session of its own, which is closed on every way out. The
nodes stay readable after that.
-/

namespace CursorLift

/-! ## Paths

An absolute path stands for itself, an empty directory adds nothing, and one slash stands
between directory and path.
-/

namespace Path

/-- A path below a directory, as characters. -/
def joinChars (directory path : List Char) : List Char :=
  if path.head? = some '/' ∨ directory = [] then path
  else if directory.getLast? = some '/' then directory ++ path
  else directory ++ '/' :: path

def join (directory path : String) : String :=
  String.ofList (joinChars directory.toList path.toList)

end Path

/-! ## Sessions -/

/-- How a session creates its index and loads its units. -/
structure Settings where
  excludeFromPch : Bool := true
  displayDiagnostics : Bool := false
  /-- Options for the engine's parser. -/
  options : Int := 0
  /-- Compiler arguments that come before those of each unit. -/
  arguments : List String := []
  /-- The directory that paths are taken relative to. -/
  workingDirectory : String := "."
  deriving Repr, DecidableEq

/-- A front end: an engine with the units that it loads one after the other. There is
nothing where a unit cannot be loaded. -/
structure Frontend where
  engine : Engine
  supply : List (Option SourceUnit)

/-- The state of a session with a front end. -/
structure Session extends Frontend where
  settings : Settings
  catalogue : Catalogue
  /-- The index, while the session holds one. -/
  index : Option Nat
  /-- The unit that was loaded last. -/
  unit : Option ActiveUnit := none
  /-- How many units of the supply were used up. -/
  served : Nat := 0
  closed : Bool := false

namespace Session

/-- Opens a session: the catalogue is made first, and then the index. -/
def create (frontend : Frontend) (settings : Settings) (catalogue : Run Catalogue) :
    Run Session := do
  let catalogue ← catalogue
  frontend.engine.createIndex settings.excludeFromPch settings.displayDiagnostics
  return { frontend with settings, catalogue, index := some 1 }

def resolve (s : Session) (path : String) : String := Path.join s.settings.workingDirectory path

def context (s : Session) : Context := ⟨s.engine, s.unit, s.catalogue⟩

/-- Loads the next unit of the supply. A fault of the engine uses none up. -/
def fetch (s : Session) (path : String) (arguments : List String)
    (unsaved : Option (List (String × String))) : Session × Run ActiveUnit :=
  let call := Run.call
    (s.engine.loadCall (s.index.getD 0) path arguments unsaved s.settings.options)
  match s.engine.fault? .loadUnit with
  | some message => (s, call >>= fun _ => Run.fail (.engineFault message))
  | none =>
    match Engine.serve? s.supply s.served with
    | none => ({ s with served := s.served + 1 }, call >>= fun _ => Run.fail .unitNotLoaded)
    | some unit =>
      ({ s with served := s.served + 1, unit := some unit }, call >>= fun _ => pure unit)

/-- Loads a unit and lifts its root. The unit is active as soon as it is loaded, also when
its root cannot be lifted. -/
def load (s : Session) (path : String) (arguments : List String)
    (unsaved : Option (List (String × String))) : Session × Run Node :=
  if s.closed then (s, Run.fail .sessionClosed)
  else
    let path := s.resolve path
    let arguments := s.settings.arguments ++ arguments
    let (loaded, fetched) := s.fetch path arguments unsaved
    (loaded, do
      Run.note (.loading path arguments)
      let unit ← fetched
      let root ← s.engine.rootOf unit
      loaded.context.lift root)

/-- Gives up what a session holds. The threads are stopped even if the index cannot be
disposed of; if they cannot be stopped, the session is closed and yet keeps its index
and its unit. -/
def close (s : Session) : Session × Run Unit :=
  if s.closed then (s, pure ())
  else
    let disposed := s.engine.disposeIndex (s.index.getD 0)
    let stopped := s.engine.stopThreads
    let released := match stopped.outcome with
      | .ok _ => { s with closed := true, index := none, unit := none }
      | .error _ => { s with closed := true }
    (released, do
      disposed.andFinally stopped
      Run.note .closed)

/-- Does something with a session and then closes it, however that ended. -/
def within {α : Type} (s : Session) (body : Session → Session × Run α) : Session × Run α :=
  let (after, ran) := body s
  let (released, closing) := after.close
  (released, ran.andFinally closing)

end Session

/-! ## One unit at a time -/

namespace Frontend

/-- Does something in a session of its own. -/
def inSession {α : Type} (frontend : Frontend) (settings : Settings)
    (body : Session → Session × Run α) : Run α := do
  let s ← Session.create frontend settings Catalogue.basic
  (s.within body).2

/-- Lifts the unit that a front end makes of a file. -/
def liftFile (frontend : Frontend) (settings : Settings) (path : String)
    (arguments : List String) : Run Node :=
  frontend.inSession settings fun s => s.load path arguments none

def defaultName : String := "input.c"

/-- Lifts the unit that a front end makes of a text, as if a file of the given name held it. -/
def liftText (frontend : Frontend) (settings : Settings) (text name : String)
    (arguments : List String) : Run Node := do
  Run.note (.textGiven text.length name)
  frontend.inSession settings fun s => s.load name arguments (some [(s.resolve name, text)])

end Frontend

end CursorLift
