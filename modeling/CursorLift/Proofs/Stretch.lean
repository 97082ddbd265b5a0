import CursorLift.Proofs.Session

/-! # Runs in stretches

A run is any number of stretches, each of steps one by one or of steps within one block. A
block does what its steps up to the first failure do one by one, and then a close, so that
what is kept by each step is kept by every run.
-/

namespace CursorLift

/-- A part of a run: steps one by one, or steps within one block. -/
inductive Stretch where
  | each (steps : List Step)
  | block (steps : List Step)

/-- Whether a stretch closes the session, which the end of a block always does. -/
def Stretch.closes : Stretch → Bool
  | .each steps => steps.any Step.closes
  | .block _ => true

namespace Bench

def after (bench : Bench) : List Step → Bench
  | [] => bench
  | step :: steps => (bench.perform step).1.after steps

def events (bench : Bench) (steps : List Step) : List Event :=
  (bench.runEach steps).flatMap fun report => report.ran.trace

def afterStretch (bench : Bench) : Stretch → Bench
  | .each steps => bench.after steps
  | .block steps =>
    let last := (bench.runUntilFailure steps).2.1
    { last with session := last.session.close.1 }

def eventsOf (bench : Bench) : Stretch → List Event
  | .each steps => bench.events steps
  | .block steps =>
    (bench.runWithin steps).1.flatMap (fun report => report.ran.trace)
      ++ (bench.runWithin steps).2.ran.trace

/-- The bench after stretches one after the other. -/
def afterAll (bench : Bench) : List Stretch → Bench
  | [] => bench
  | stretch :: stretches => (bench.afterStretch stretch).afterAll stretches

def eventsOfAll (bench : Bench) : List Stretch → List Event
  | [] => []
  | stretch :: stretches =>
    bench.eventsOf stretch ++ (bench.afterStretch stretch).eventsOfAll stretches

/-! ## A block as steps one by one -/

/-- The steps of a block that take place: up to the first that fails, and that one too. -/
def upToFailure (bench : Bench) : List Step → List Step
  | [] => []
  | step :: steps =>
    step :: match (bench.perform step).2.outcome with
      | .ok _ => (bench.perform step).1.upToFailure steps
      | .error _ => []

theorem runEach_cons (bench : Bench) (step : Step) (steps : List Step) :
    bench.runEach (step :: steps) =
      ⟨(bench.perform step).2, (bench.perform step).1.session.snapshot⟩
        :: (bench.perform step).1.runEach steps := rfl

theorem events_cons (bench : Bench) (step : Step) (steps : List Step) :
    bench.events (step :: steps) =
      (bench.perform step).2.trace ++ (bench.perform step).1.events steps := rfl

theorem after_append (bench : Bench) (early late : List Step) :
    bench.after (early ++ late) = (bench.after early).after late := by
  induction early generalizing bench with
  | nil => rfl
  | cons step early ih => exact ih _

theorem events_append (bench : Bench) (early late : List Step) :
    bench.events (early ++ late) = bench.events early ++ (bench.after early).events late := by
  induction early generalizing bench with
  | nil => rfl
  | cons step early ih =>
      rw [List.cons_append, events_cons, events_cons, ih, List.append_assoc]
      rfl

theorem runUntilFailure_bench (bench : Bench) (steps : List Step) :
    (bench.runUntilFailure steps).2.1 = bench.after (bench.upToFailure steps) := by
  induction steps generalizing bench with
  | nil => rfl
  | cons step steps ih =>
      simp only [runUntilFailure, upToFailure]
      split
      · next h => rw [h]; rfl
      · next h => rw [h]; exact ih _

theorem runUntilFailure_events (bench : Bench) (steps : List Step) :
    (bench.runUntilFailure steps).1.flatMap (fun report => report.ran.trace)
        ++ (bench.runUntilFailure steps).2.2.trace =
      bench.events (bench.upToFailure steps) := by
  induction steps generalizing bench with
  | nil => rfl
  | cons step steps ih =>
      simp only [runUntilFailure, upToFailure]
      split
      · next h =>
          rw [h, events_cons]
          exact (List.append_nil _).symm
      · next h =>
          rw [h, events_cons, ← ih]
          simp

theorem afterStretch_block (bench : Bench) (steps : List Step) :
    bench.afterStretch (.block steps) = bench.after (bench.upToFailure steps ++ [.close]) := by
  rw [after_append, ← runUntilFailure_bench]
  rfl

theorem eventsOf_block (bench : Bench) (steps : List Step) :
    bench.eventsOf (.block steps) = bench.events (bench.upToFailure steps ++ [.close]) := by
  rw [events_append, ← runUntilFailure_events, ← runUntilFailure_bench, events_cons,
    perform_close.2]
  simp only [eventsOf, runWithin, Run.andFinally_trace, List.append_assoc]
  exact congrArg _ (congrArg _ (List.append_nil _).symm)

theorem after_engine (bench : Bench) (steps : List Step) :
    (bench.after steps).session.engine = bench.session.engine := by
  induction steps generalizing bench with
  | nil => rfl
  | cons step steps ih => exact (ih _).trans (perform_engine bench step)

theorem afterStretch_engine (bench : Bench) (stretch : Stretch) :
    (bench.afterStretch stretch).session.engine = bench.session.engine := by
  cases stretch with
  | each steps => exact after_engine bench steps
  | block steps =>
      rw [afterStretch_block]
      exact after_engine bench _

/-! ## What every step keeps -/

section Kept

variable (kept : Bench → List Event → Prop) {bench : Bench} {past : List Event}

theorem kept_after
    (each : ∀ bench past step, kept bench past →
      kept (bench.perform step).1 (past ++ (bench.perform step).2.trace))
    (steps : List Step) (holds : kept bench past) :
    kept (bench.after steps) (past ++ bench.events steps) := by
  induction steps generalizing bench past with
  | nil => rwa [show bench.events [] = [] from rfl, List.append_nil]
  | cons step steps ih =>
      rw [events_cons, ← List.append_assoc]
      exact ih (each bench past step holds)

theorem kept_afterStretch
    (each : ∀ bench past step, kept bench past →
      kept (bench.perform step).1 (past ++ (bench.perform step).2.trace))
    (stretch : Stretch) (holds : kept bench past) :
    kept (bench.afterStretch stretch) (past ++ bench.eventsOf stretch) := by
  cases stretch with
  | each steps => exact kept_after kept each steps holds
  | block steps =>
      rw [afterStretch_block, eventsOf_block]
      exact kept_after kept each _ holds

/-- What every step keeps of a bench and its past is kept by every run. -/
theorem kept_afterAll (past : List Event)
    (each : ∀ bench past step, kept bench past →
      kept (bench.perform step).1 (past ++ (bench.perform step).2.trace))
    (stretches : List Stretch) (holds : kept bench past) :
    kept (bench.afterAll stretches) (past ++ bench.eventsOfAll stretches) := by
  induction stretches generalizing bench past with
  | nil => rwa [eventsOfAll, List.append_nil]
  | cons stretch stretches ih =>
      rw [eventsOfAll, ← List.append_assoc]
      exact ih _ (kept_afterStretch kept each stretch holds)

end Kept

/-! ## What reports show -/

theorem runUntilFailure_prefix (bench : Bench) (steps : List Step) :
    (bench.runUntilFailure steps).1 <+: bench.runEach steps := by
  induction steps generalizing bench with
  | nil => exact List.nil_prefix
  | cons step steps ih =>
      simp only [runUntilFailure, runEach]
      split
      · exact List.nil_prefix
      · exact List.prefix_cons_inj _ |>.mpr (ih _)

/-- The report on a step shows what the session holds after it. -/
theorem runEach_snapshot {bench : Bench} {steps : List Step} {i : Nat} {report : Report}
    (shown : (bench.runEach steps)[i]? = some report) :
    report.snapshot = (bench.after (steps.take (i + 1))).session.snapshot := by
  induction steps generalizing bench i with
  | nil => cases shown
  | cons step steps ih =>
      rw [runEach_cons] at shown
      cases i with
      | zero => rw [← Option.some.inj shown]; rfl
      | succ i => exact ih shown

theorem runWithin_snapshot {bench : Bench} {steps : List Step} {i : Nat} {report : Report}
    (shown : (bench.runWithin steps).1[i]? = some report) :
    report.snapshot = (bench.after (steps.take (i + 1))).session.snapshot := by
  obtain ⟨inside, rfl⟩ := List.getElem?_eq_some_iff.mp shown
  exact runEach_snapshot
    (List.prefix_iff_getElem?.mp (bench.runUntilFailure_prefix steps) i inside)

end Bench

end CursorLift
