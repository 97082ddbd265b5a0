import CursorLift.Proofs.Release

/-! # What a closed session holds

Closing takes the index and the unit from a session, even if the index cannot be disposed of. Only
an engine that cannot stop its threads keeps it from that: the session is closed then and holds
its index for good. Which of the two it is depends on the engine alone, not on the run.
-/

namespace CursorLift

/-- What a session holds of the index that it was opened with. -/
structure Possession (faults : List (Operation × String)) (index : Nat) (s : Session) : Prop where
  memory : s.engine = .memory faults
  held : s.closed = false → s.index = some index
  released : s.closed = true → faults.lookup .stopThreads = none → s.index = none ∧ s.unit = none
  stuck : s.closed = true → faults.lookup .stopThreads ≠ none → s.index = some index

namespace Possession

variable {faults : List (Operation × String)} {index : Nat} {s : Session}

theorem close (h : Possession faults index s) : Possession faults index s.close.1 := by
  cases closed : s.closed with
  | true => rwa [Session.close_of_closed closed]
  | false =>
      rw [Session.close_session h.memory closed]
      cases fault : faults.lookup .stopThreads with
      | none => exact ⟨h.memory, nofun, fun _ _ => ⟨rfl, rfl⟩, fun _ faulty => absurd fault faulty⟩
      | some message =>
          refine ⟨h.memory, nofun, fun _ sound => ?_, fun _ _ => h.held closed⟩
          rw [sound] at fault
          cases fault

theorem step {bench : Bench} (h : Possession faults index bench.session) (step : Step) :
    Possession faults index (bench.perform step).1.session := by
  cases closes : step.closes with
  | true =>
      obtain rfl := Step.eq_close closes
      rw [Bench.perform_close.1]
      exact h.close
  | false =>
      cases loads : step.loads with
      | false =>
          obtain ⟨catalogue, same⟩ := bench.perform_session closes loads
          rw [same]
          exact ⟨h.memory, h.held, h.released, h.stuck⟩
      | true =>
          obtain ⟨path, arguments, unsaved, rfl⟩ := Step.eq_load loads
          cases closed : bench.session.closed with
          | true => rwa [Bench.perform_load_of_closed closed]
          | false =>
              -- The unit is a new one, but only a closed session has to be without.
              have same := bench.perform_holding closes
              simp only [Session.holding, Prod.mk.injEq, closed] at same
              obtain ⟨engine, holds, opened⟩ := same
              refine ⟨engine.trans h.memory, fun _ => holds.trans (h.held closed), ?_, ?_⟩
              · simp [opened]
              · simp [opened]

theorem all {bench : Bench} (h : Possession faults index bench.session)
    (stretches : List Stretch) :
    Possession faults index (bench.afterAll stretches).session := by
  have each (later : Bench) (_ : List Event) (step : Step)
      (h : Possession faults index later.session) :
      Possession faults index (later.perform step).1.session := h.step step
  exact Bench.kept_afterAll (fun later _ => Possession faults index later.session) [] each
    stretches h

theorem after {bench : Bench} (h : Possession faults index bench.session) (steps : List Step) :
    Possession faults index (bench.after steps).session := h.all [.each steps]

theorem empty_iff (h : Possession faults index s) (closed : s.closed = true) :
    (s.index = none ∧ s.unit = none) ↔ faults.lookup .stopThreads = none := by
  refine ⟨fun ⟨empty, _⟩ => ?_, h.released closed⟩
  apply Classical.byContradiction
  intro faulty
  rw [h.stuck closed faulty] at empty
  cases empty

end Possession

/-- Until it is closed a session holds the index that was created for it. From then on it holds
nothing, if and only if the engine can stop its threads. -/
theorem closed_holds_nothing_iff (faults : List (Operation × String))
    (supply : List (Option SourceUnit)) (settings : Settings) (start : Catalogue)
    (requests : List Registration) {s : Session}
    (created : (Session.create ⟨.memory faults, supply⟩ settings
      (start.registerAll requests)).outcome = .ok s) :
    ∃ index, s.index = some index ∧
      (∀ stretches : List Stretch,
        let last := ((⟨s, none⟩ : Bench).afterAll stretches).session
        (stretches.any Stretch.closes = false → last.index = some index) ∧
          (stretches.any Stretch.closes = true →
            ((last.index = none ∧ last.unit = none) ↔ faults.lookup .stopThreads = none))) ∧
      ∀ (stretches : List Stretch) (steps : List Step) (i : Nat) (report : Report),
        (((⟨s, none⟩ : Bench).afterAll stretches).runEach steps)[i]? = some report ∨
          (((⟨s, none⟩ : Bench).afterAll stretches).runWithin steps).1[i]? = some report →
        (report.snapshot.closed = false → report.snapshot.hasIndex = true) ∧
          (report.snapshot.closed = true →
            ((report.snapshot.hasIndex = false ∧ report.snapshot.unit = none) ↔
              faults.lookup .stopThreads = none)) := by
  obtain ⟨memory, holds, opened, -⟩ := Session.create_ok created
  have start : Possession faults 1 (⟨s, none⟩ : Bench).session := by
    refine ⟨memory, fun _ => holds, ?_, ?_⟩
    · simp [opened]
    · simp [opened]
  refine ⟨1, holds, fun stretches => ?_, ?_⟩
  · have last := start.all stretches
    have flag := Bench.afterAll_closed ⟨s, none⟩ stretches
    rw [opened, Bool.false_or] at flag
    rw [← flag]
    exact ⟨last.held, last.empty_iff⟩
  · intro stretches steps i report shown
    have reached := (start.all stretches).after (steps.take (i + 1))
    have snapshot := shown.elim Bench.runEach_snapshot Bench.runWithin_snapshot
    rw [snapshot]
    refine ⟨fun closed => ?_, fun closed => ?_⟩
    · simp only [Session.snapshot, reached.held closed, Option.isSome_some]
    · rw [← reached.empty_iff closed]
      simp [Session.snapshot]

/-- A session whose threads cannot be stopped is closed and yet holds its index and its unit. -/
theorem closed_and_yet_holds_unit :
    let source : SourceUnit := { root := { facts := { kind := .translationUnit } } }
    ∃ s, (Session.create ⟨.memory [(.stopThreads, "busy")], [some source]⟩ {}
        Catalogue.basic).outcome = .ok s ∧
      let last := ((⟨s, none⟩ : Bench).after [.load "a.c" [] none, .close]).session
      last.closed = true ∧ last.index = some 1 ∧ last.unit = some ⟨0, source⟩ := by
  refine ⟨_, rfl, ?_⟩
  simp only [Bench.after, Bench.perform_close, Bench.perform_load, Bench.keep_session]
  exact ⟨rfl, rfl, rfl⟩

theorem closed_holds_nothing_after_failed_disposal :
    ∃ s, (Session.create ⟨.memory [(.disposeIndex, "busy")], []⟩ {}
        (Catalogue.registerAll {} [])).outcome = .ok s ∧
      let last := ((⟨s, none⟩ : Bench).afterAll
        [.each [.enter, .load "a.c" [] none], .block [.close, .close]]).session
      last.index = none ∧ last.unit = none := by
  refine ⟨_, rfl, ?_⟩
  obtain ⟨index, -, runs, -⟩ :=
    closed_holds_nothing_iff [(.disposeIndex, "busy")] [] {} {} [] rfl
  exact ((runs [.each [.enter, .load "a.c" [] none], .block [.close, .close]]).2 rfl).mpr rfl

end CursorLift
