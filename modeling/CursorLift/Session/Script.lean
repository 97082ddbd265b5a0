import CursorLift.Node.Dump
import CursorLift.Session.Basic
import CursorLift.View

/-! # Scripts

A script is a list of steps on one session. Each step has a report: how it ended, what
it did, and what the session holds after it. Steps run one by one, each whatever became
of the one before, or all within one block, which the first failure ends and which
closes the session.
-/

namespace CursorLift

/-- A question or change to the catalogue of a session. -/
inductive CatalogueStep where
  | register (request : Registration)
  | lookup (kind : Kind)
  | holds (kind : Kind)
  | kinds
  | size
  deriving Repr, DecidableEq

/-- One step on a session. -/
inductive Step where
  | load (path : String) (arguments : List String) (unsaved : Option (List (String × String)))
  /-- Lifts a cursor, perhaps with wrapper kinds of its own. -/
  | lift (cursor : Cursor) (wrappers : Option (List Kind))
  | close
  | enter
  | resolve (path : String)
  /-- Dumps the node that was lifted last. -/
  | dump (indent : Option Int)
  /-- Asks about a node below the one that was lifted last. -/
  | inspect (path : List Node.Selector) (queries : List Query)
  | catalogue (step : CatalogueStep)

/-- What a step gives. -/
inductive Answer where
  | done
  | node (node : Node)
  | flag (value : Bool)
  | text (text : String)
  | count (value : Nat)
  | shape (shape : Shape)
  | kinds (kinds : List Kind)
  | readings (readings : List (Except Failure Reading))

namespace CatalogueStep

/-- Does a step on a catalogue. -/
def perform (catalogue : Catalogue) : CatalogueStep → Catalogue × Run Answer
  | .register request =>
    let ran := catalogue.registerNoted request
    match ran.outcome with
    | .ok extended => (extended, ⟨ran.trace, .ok .done⟩)
    | .error failure => (catalogue, ⟨ran.trace, .error failure⟩)
  | .lookup kind => (catalogue, Run.ofExcept ((catalogue.lookup kind).map .shape))
  | .holds kind => (catalogue, pure (.flag (catalogue.holds kind)))
  | .kinds => (catalogue, pure (.kinds catalogue.kinds))
  | .size => (catalogue, pure (.count catalogue.size))

def performAll (catalogue : Catalogue) : List CatalogueStep → List (Run Answer)
  | [] => []
  | step :: steps =>
    let (next, ran) := step.perform catalogue
    ran :: performAll next steps

end CatalogueStep

/-- A session with the node that was lifted last. -/
structure Bench where
  session : Session
  latest : Option Node := none

/-- What a session holds, as reports show it. -/
structure Snapshot where
  closed : Bool
  hasIndex : Bool
  unit : Option Nat
  deriving Repr, DecidableEq

def Session.snapshot (s : Session) : Snapshot :=
  ⟨s.closed, s.index.isSome, s.unit.map ActiveUnit.serial⟩

/-- How a step or a block ended, what it did, and what the session holds after it. -/
structure Report where
  ran : Run Answer
  snapshot : Snapshot

namespace Bench

def keep (bench : Bench) (session : Session) (ran : Run Node) : Bench × Run Answer :=
  match ran.outcome with
  | .ok node => (⟨session, some node⟩, ⟨ran.trace, .ok (.node node)⟩)
  | .error failure => (⟨session, bench.latest⟩, ⟨ran.trace, .error failure⟩)

def node (bench : Bench) : Except Failure Node :=
  match bench.latest with
  | some node => .ok node
  | none => .error .noNode

/-- The answers to questions about a node below the one that was lifted last. -/
def inspect (bench : Bench) (path : List Node.Selector) (queries : List Query) :
    Except Failure Answer := do
  match (← bench.node).descend? path with
  | some node =>
    let view : View := ⟨bench.session.engine, some node.cursor⟩
    return .readings (queries.map view.ask)
  | none => throw .noNode

def perform (bench : Bench) : Step → Bench × Run Answer
  | .load path arguments unsaved =>
    let (session, ran) := bench.session.load path arguments unsaved
    bench.keep session ran
  | .lift cursor none => bench.keep bench.session (bench.session.context.lift cursor)
  | .lift cursor (some wrappers) =>
    bench.keep bench.session (bench.session.context.liftThrough wrappers cursor)
  | .close =>
    let (session, ran) := bench.session.close
    ({ bench with session }, do ran; return .done)
  | .enter => (bench, pure (.flag true))
  | .resolve path => (bench, pure (.text (bench.session.resolve path)))
  | .dump indent =>
    (bench, Run.ofExcept (bench.node.bind fun node => (node.dump indent).map .text))
  | .inspect path queries => (bench, Run.ofExcept (bench.inspect path queries))
  | .catalogue step =>
    let (catalogue, ran) := step.perform bench.session.catalogue
    ({ bench with session := { bench.session with catalogue } }, ran)

/-- Does steps one by one, each whatever became of the one before. -/
def runEach (bench : Bench) : List Step → List Report
  | [] => []
  | step :: steps =>
    let (next, ran) := bench.perform step
    ⟨ran, next.session.snapshot⟩ :: next.runEach steps

/-- Does steps up to the first that fails. That one has no report: what it did is left for
the end of the block. -/
def runUntilFailure (bench : Bench) : List Step → List Report × Bench × Run Answer
  | [] => ([], bench, pure .done)
  | step :: steps =>
    let (next, ran) := bench.perform step
    match ran.outcome with
    | .error _ => ([], next, ran)
    | .ok _ =>
      let (reports, last, ended) := next.runUntilFailure steps
      (⟨ran, next.session.snapshot⟩ :: reports, last, ended)

/-- Does steps within one block, and reports on each good step and on the block's end. -/
def runWithin (bench : Bench) (steps : List Step) : List Report × Report :=
  let (reports, last, ended) := bench.runUntilFailure steps
  let (session, closing) := last.session.close
  (reports, ⟨ended.andFinally closing, session.snapshot⟩)

end Bench

end CursorLift
