import CursorLift.Proofs.Stretch

/-! # An index is released once

A session that was opened over an engine in memory is followed through any number of
stretches, each of steps one by one or of steps within one block. Its calls always stand
in a ledger: work on the index while it is open, then the release, then lookups only.
-/

namespace CursorLift

/-- The calls on an index up to some moment, and whether it was released by then: work on the
index, and after that at most one release, with nothing but lookups behind it. -/
inductive Ledger (index : Nat) : Bool → List Call → Prop where
  | held {work : List Call} (onIndex : ∀ call ∈ work, call.IsWork index) : Ledger index false work
  | released {work late : List Call} (onIndex : ∀ call ∈ work, call.IsWork index)
      (lookups : ∀ call ∈ late, call.IsLookup) :
      Ledger index true (work ++ .disposeIndex index :: .stopThreads :: late)

namespace Ledger

variable {index : Nat} {calls more : List Call}

theorem work (h : Ledger index false calls) (onIndex : ∀ call ∈ more, call.IsWork index) :
    Ledger index false (calls ++ more) := by
  cases h with
  | held before =>
      refine .held ?_
      intro call member
      exact (List.mem_append.mp member).elim (before call) (onIndex call)

theorem release (h : Ledger index false calls) :
    Ledger index true (calls ++ [.disposeIndex index, .stopThreads]) := by
  cases h with
  | held before => exact .released before (by simp)

theorem lookup (h : Ledger index true calls) (lookups : ∀ call ∈ more, call.IsLookup) :
    Ledger index true (calls ++ more) := by
  cases h with
  | released onIndex before =>
      rw [List.append_assoc]
      refine .released onIndex ?_
      intro call member
      exact (List.mem_append.mp member).elim (before call) (lookups call)

end Ledger

/-! ## What is kept by every run -/

/-- What holds of a bench after some calls on the index of its session. -/
structure Account (faults : List (Operation × String)) (index : Nat) (bench : Bench)
    (calls : List Call) : Prop where
  memory : bench.session.engine = .memory faults
  holds : bench.session.closed = false → bench.session.index = some index
  ledger : Ledger index bench.session.closed calls

namespace Account

variable {faults : List (Operation × String)} {index : Nat} {bench : Bench} {calls : List Call}

theorem opening {s : Session} (memory : s.engine = .memory faults) (holds : s.index = some index)
    (opened : s.closed = false) : Account faults index ⟨s, none⟩ [] := by
  refine ⟨memory, fun _ => holds, ?_⟩
  rw [opened]
  exact .held nofun

theorem step (h : Account faults index bench calls) (step : Step) :
    Account faults index (bench.perform step).1
      (calls ++ Event.calls (bench.perform step).2.trace) := by
  obtain ⟨memory, holds, ledger⟩ := h
  cases other : step.closes with
  | false =>
      -- Any other step leaves what is owned, so the ledger only grows at its open end.
      have same := bench.perform_holding other
      obtain ⟨works, looks⟩ := Bench.perform_callsOnly memory other
      simp only [Session.holding, Prod.mk.injEq] at same
      refine ⟨same.1.trans memory, ?_, ?_⟩
      · rw [same.2.1, same.2.2]
        exact holds
      · rw [same.2.2]
        cases closed : bench.session.closed with
        | false =>
            rw [holds closed] at works
            rw [closed] at ledger
            exact ledger.work works
        | true =>
            rw [closed] at ledger
            exact ledger.lookup (looks closed)
  | true =>
      obtain rfl := Step.eq_close other
      cases closed : bench.session.closed with
      | true =>
          rw [Bench.perform_close_of_closed closed, Run.pure_trace, Event.calls_nil,
            List.append_nil]
          exact ⟨memory, holds, ledger⟩
      | false =>
          obtain ⟨left, made⟩ := bench.perform_close
          rw [closed] at ledger
          rw [made, Session.close_calls memory closed, holds closed]
          refine ⟨?_, ?_, ?_⟩
          · rw [left, Session.close_engine, memory]
          · rw [left, Session.close_closed]
            nofun
          · rw [left, Session.close_closed]
            exact ledger.release

/-- What holds of a bench holds after every run. -/
theorem all (h : Account faults index bench calls) (stretches : List Stretch) :
    Account faults index (bench.afterAll stretches)
      (calls ++ Event.calls (bench.eventsOfAll stretches)) := by
  have each (later : Bench) (past : List Event) (step : Step)
      (h : Account faults index later (calls ++ Event.calls past)) :
      Account faults index (later.perform step).1
        (calls ++ Event.calls (past ++ (later.perform step).2.trace)) := by
    rw [Event.calls_append, ← List.append_assoc]
    exact h.step step
  have start : Account faults index bench (calls ++ Event.calls []) := by
    rwa [Event.calls_nil, List.append_nil]
  exact Bench.kept_afterAll
    (fun later past => Account faults index later (calls ++ Event.calls past)) [] each stretches
    start

end Account

namespace Bench

theorem after_closed (bench : Bench) (steps : List Step) :
    (bench.after steps).session.closed = (bench.session.closed || steps.any Step.closes) := by
  induction steps generalizing bench with
  | nil => simp [after]
  | cons step steps ih =>
      rw [after, ih, perform_closed, List.any_cons, Bool.or_assoc]

/-- A report shows the session closed exactly when some step has closed it by then. -/
theorem runEach_closed {bench : Bench} {steps : List Step} {i : Nat} {report : Report}
    (h : (bench.runEach steps)[i]? = some report) :
    report.snapshot.closed = (bench.session.closed || (steps.take (i + 1)).any Step.closes) := by
  rw [runEach_snapshot h]
  exact after_closed bench _

theorem runWithin_closed {bench : Bench} {steps : List Step} {i : Nat} {report : Report}
    (h : (bench.runWithin steps).1[i]? = some report) :
    report.snapshot.closed = (bench.session.closed || (steps.take (i + 1)).any Step.closes) := by
  rw [runWithin_snapshot h]
  exact after_closed bench _

theorem afterAll_closed (bench : Bench) (stretches : List Stretch) :
    (bench.afterAll stretches).session.closed =
      (bench.session.closed || stretches.any Stretch.closes) := by
  induction stretches generalizing bench with
  | nil => simp [afterAll]
  | cons stretch stretches ih =>
      rw [afterAll, ih, List.any_cons, ← Bool.or_assoc]
      congr 1
      cases stretch with
      | each steps => exact after_closed bench steps
      | block steps =>
          rw [afterStretch, Stretch.closes, Bool.or_true]
          exact Session.close_closed _

end Bench

/-! ## The release -/

namespace Session

variable {faults : List (Operation × String)} {supply : List (Option SourceUnit)}
  {settings : Settings}

theorem createIndex_outcome (excludeFromPch displayDiagnostics : Bool) :
    ((Engine.memory faults).createIndex excludeFromPch displayDiagnostics).outcome =
      match faults.lookup .createIndex with
      | some message => .error (.engineFault message)
      | none => .ok () :=
  attempt_outcome .createIndex

theorem createIndex_calls (excludeFromPch displayDiagnostics : Bool) :
    Event.calls ((Engine.memory faults).createIndex excludeFromPch displayDiagnostics).trace =
      [.createIndex excludeFromPch displayDiagnostics] := by
  show Event.calls (_ :: ((Engine.memory faults).attempt .createIndex).trace) = _
  rw [Context.attempt_trace]
  rfl

theorem create_outcome (catalogue : Run Catalogue) :
    (create ⟨.memory faults, supply⟩ settings catalogue).outcome =
      catalogue.outcome.bind fun known =>
        match faults.lookup .createIndex with
        | some message => .error (.engineFault message)
        | none => .ok { engine := .memory faults, supply, settings, catalogue := known,
                        index := some 1 } := by
  simp only [create, Run.bind_outcome, createIndex_outcome]
  congr 1
  funext known
  cases faults.lookup .createIndex <;> rfl

theorem create_calls {catalogue : Run Catalogue} {known : Catalogue}
    (made : catalogue.outcome = .ok known) (silent : Event.calls catalogue.trace = []) :
    Event.calls (create ⟨.memory faults, supply⟩ settings catalogue).trace =
      [.createIndex settings.excludeFromPch settings.displayDiagnostics] := by
  rw [create, Run.bind_of_ok made, Event.calls_append, silent, List.nil_append, Run.map_trace]
  exact createIndex_calls _ _

theorem eq_of_create {catalogue : Run Catalogue} {s : Session}
    (created : (create ⟨.memory faults, supply⟩ settings catalogue).outcome = .ok s) :
    ∃ known, catalogue.outcome = .ok known ∧
      s = { engine := .memory faults, supply, settings, catalogue := known, index := some 1 } := by
  rw [create_outcome] at created
  obtain ⟨known, made, created⟩ := Outcome.bind_eq_ok.mp created
  refine ⟨known, made, ?_⟩
  cases fault : faults.lookup .createIndex with
  | some message => rw [fault] at created; cases created
  | none => rw [fault] at created; exact (Except.ok.inj created).symm

theorem create_ok {start : Catalogue} {requests : List Registration} {s : Session}
    (created : (create ⟨.memory faults, supply⟩ settings (start.registerAll requests)).outcome =
      .ok s) :
    s.engine = .memory faults ∧ s.index = some 1 ∧ s.closed = false ∧
      Event.calls (create ⟨.memory faults, supply⟩ settings (start.registerAll requests)).trace =
        [.createIndex settings.excludeFromPch settings.displayDiagnostics] := by
  obtain ⟨known, made, rfl⟩ := eq_of_create created
  exact ⟨rfl, rfl, rfl, create_calls made (Catalogue.registerAll_calls start requests)⟩

end Session

/-- Every run of a session that was opened releases the index at most once, when it is first
closed and whatever fails then. Before that there is only work on the index, after it there
are only lookups; a session that was closed loads nothing and closes no more. -/
theorem index_released_once (faults : List (Operation × String))
    (supply : List (Option SourceUnit)) (settings : Settings) (start : Catalogue)
    (requests : List Registration) {s : Session}
    (created : (Session.create ⟨.memory faults, supply⟩ settings
      (start.registerAll requests)).outcome = .ok s) :
    ∃ index, s.index = some index ∧
      (∀ stretches : List Stretch, ∃ calls,
        Event.calls
            ((Session.create ⟨.memory faults, supply⟩ settings (start.registerAll requests)).trace
              ++ (⟨s, none⟩ : Bench).eventsOfAll stretches) =
          .createIndex settings.excludeFromPch settings.displayDiagnostics :: calls ∧
        Ledger index (stretches.any Stretch.closes) calls) ∧
      (∀ stretches : List Stretch,
        ((⟨s, none⟩ : Bench).afterAll stretches).session.closed = stretches.any Stretch.closes) ∧
      (∀ (stretches : List Stretch) (steps : List Step) (i : Nat) (report : Report),
        (((⟨s, none⟩ : Bench).afterAll stretches).runEach steps)[i]? = some report ∨
          (((⟨s, none⟩ : Bench).afterAll stretches).runWithin steps).1[i]? = some report →
        report.snapshot.closed =
          (stretches.any Stretch.closes || (steps.take (i + 1)).any Step.closes)) ∧
      (∀ bench : Bench, bench.session.closed = true →
        (∀ path arguments unsaved,
          bench.perform (.load path arguments unsaved) = (bench, Run.fail .sessionClosed)) ∧
        bench.perform .close = (bench, pure .done)) := by
  obtain ⟨memory, holds, opened, creating⟩ := Session.create_ok created
  have flag (stretches : List Stretch) :
      ((⟨s, none⟩ : Bench).afterAll stretches).session.closed = stretches.any Stretch.closes := by
    rw [Bench.afterAll_closed, opened, Bool.false_or]
  refine ⟨1, holds, fun stretches => ?_, flag, ?_, fun bench closed => ?_⟩
  · refine ⟨_, by rw [Event.calls_append, creating]; rfl, ?_⟩
    have ledger := ((Account.opening memory holds opened).all stretches).ledger
    rwa [flag, List.nil_append] at ledger
  · intro stretches steps i report shown
    rw [← flag]
    exact shown.elim Bench.runEach_closed Bench.runWithin_closed
  · exact ⟨Bench.perform_load_of_closed closed, Bench.perform_close_of_closed closed⟩

theorem index_released_once_despite_fault :
    ∃ s, (Session.create ⟨.memory [(.disposeIndex, "busy")], []⟩ {}
        (Catalogue.registerAll {} [])).outcome = .ok s ∧
      ∃ index, s.index = some index ∧ ∃ calls,
        Event.calls
            ((Session.create ⟨.memory [(.disposeIndex, "busy")], []⟩ {}
                (Catalogue.registerAll {} [])).trace
              ++ (⟨s, none⟩ : Bench).eventsOfAll
                [.each [.load "a.c" [] none], .block [.close, .enter], .each [.close]]) =
          .createIndex true false :: calls ∧
        Ledger index true calls := by
  refine ⟨_, rfl, ?_⟩
  obtain ⟨index, holds, runs, -⟩ :=
    index_released_once [(.disposeIndex, "busy")] [] {} {} [] rfl
  exact ⟨index, holds, runs [.each [.load "a.c" [] none], .block [.close, .enter], .each [.close]]⟩

end CursorLift
