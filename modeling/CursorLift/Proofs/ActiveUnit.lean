import CursorLift.Proofs.Release

/-! # The active unit

A front end answers every call for a unit with one or with none. The active unit of an open
session is the last that it was given so far, whatever became of the steps, and tokens are looked
up in the unit that is active at that moment.
-/

namespace CursorLift

open Run (CallsOnly)
open Context (Lookup)

namespace Frontend

/-- The last unit that a front end gives in so many calls. -/
def latest? (frontend : Frontend) (count : Nat) : Option ActiveUnit :=
  ((List.range count).filterMap frontend.loaded?).getLast?

theorem latest?_succ (frontend : Frontend) (count : Nat) :
    frontend.latest? (count + 1) = (frontend.loaded? count).or (frontend.latest? count) := by
  rw [latest?, List.range_succ, List.filterMap_append, List.getLast?_append]
  cases found : frontend.loaded? count <;> simp [found, latest?]

end Frontend

/-! ## Loading a unit -/

namespace Session

variable {faults : List (Operation × String)} {s : Session}

/-- A unit that is given is active from then on, and tokens are looked up in it alone. -/
theorem load_of_loaded (memory : s.engine = .memory faults) (opened : s.closed = false)
    {unit : ActiveUnit} (found : s.loaded? s.served = some unit) (path : String)
    (arguments : List String) (unsaved : Option (List (String × String))) :
    (s.load path arguments unsaved).1 = { s with served := s.served + 1, unit := some unit } ∧
      ∃ lookups, Event.calls (s.load path arguments unsaved).2.trace =
          s.loadCall path arguments unsaved :: lookups ∧
        ∀ call ∈ lookups, Lookup (some unit) call := by
  have sound : s.engine.fault? .loadUnit = none := by
    cases fault : s.engine.fault? .loadUnit with
    | none => rfl
    | some message => rw [Frontend.loaded?_of_fault fault] at found; cases found
  refine ⟨?_, _, load_calls opened path arguments unsaved, ?_⟩
  · rw [load_session opened]
    simp [answered, found, sound]
  · rw [found]
    exact liftLoaded_lookups memory (some unit)

/-- When no unit is given, the session keeps the one that it has. -/
theorem load_of_refused (opened : s.closed = false) (refused : s.loaded? s.served = none)
    (path : String) (arguments : List String) (unsaved : Option (List (String × String))) :
    (∃ served, (s.load path arguments unsaved).1 = { s with served } ∧
        (s.engine.fault? .loadUnit = none → served = s.served + 1)) ∧
      (s.load path arguments unsaved).2.outcome = .error s.refusal ∧
      Event.calls (s.load path arguments unsaved).2.trace =
        [s.loadCall path arguments unsaved] := by
  refine ⟨⟨s.answered.served, ?_, fun sound => ?_⟩, ?_, ?_⟩
  · rw [load_session opened]
    simp [answered, refused]
  · simp [answered, sound]
  · rw [load_run opened, refused]
    rfl
  · rw [load_calls opened, refused]
    rfl

end Session

/-! ## Looking up tokens -/

namespace Call

theorem loads_of_lookups {unit : Option ActiveUnit} {calls : List Call}
    (lookups : ∀ call ∈ calls, Lookup unit call) : loads calls = 0 := by
  rw [loads, List.countP_eq_zero]
  intro call member
  obtain ⟨label, rfl⟩ := lookups call member
  simp [isLoad]

end Call

/-- Whether the tokens of some calls are looked up in the unit that was given last, as long as
the threads are not stopped. -/
def ReadsLatest (frontend : Frontend) (calls : List Call) : Prop :=
  ∀ before unit label late, calls = before ++ .findToken unit label :: late →
    .stopThreads ∉ before →
    unit = (frontend.latest? (Call.loads before)).map ActiveUnit.serial

namespace ReadsLatest

variable {frontend : Frontend} {calls : List Call}

theorem snoc (h : ReadsLatest frontend calls) {call : Call}
    (last : ∀ unit label, call = .findToken unit label → .stopThreads ∉ calls →
      unit = (frontend.latest? (Call.loads calls)).map ActiveUnit.serial) :
    ReadsLatest frontend (calls ++ [call]) := by
  intro before unit label late split running
  rcases List.eq_nil_or_concat late with rfl | ⟨middle, final, rfl⟩
  · obtain ⟨rfl, same⟩ := List.append_inj' split rfl
    exact last unit label (List.singleton_inj.mp same) running
  · rw [List.concat_eq_append, ← List.cons_append, ← List.append_assoc] at split
    exact h before unit label middle (List.append_inj' split rfl).1 running

theorem others (h : ReadsLatest frontend calls) {more : List Call}
    (free : ∀ unit label, .findToken unit label ∉ more) : ReadsLatest frontend (calls ++ more) := by
  induction more generalizing calls with
  | nil => rwa [List.append_nil]
  | cons call more ih =>
      rw [← List.singleton_append, ← List.append_assoc]
      refine ih (h.snoc ?_) fun unit label member => free unit label (.tail _ member)
      rintro unit label rfl
      exact absurd List.mem_cons_self (free unit label)

theorem lookups (h : ReadsLatest frontend calls) {unit : Option ActiveUnit} {more : List Call}
    (active : .stopThreads ∉ calls → unit = frontend.latest? (Call.loads calls))
    (lookups : ∀ call ∈ more, Lookup unit call) : ReadsLatest frontend (calls ++ more) := by
  induction more generalizing calls with
  | nil => rwa [List.append_nil]
  | cons call more ih =>
      obtain ⟨label, rfl⟩ := lookups call List.mem_cons_self
      rw [← List.singleton_append, ← List.append_assoc]
      refine ih (h.snoc ?_) (fun running => ?_) fun call member => lookups call (.tail _ member)
      · intro other _ same running
        cases same
        rw [active running]
      · rw [active fun member => running (List.mem_append_left _ member)]
        simp [Call.loads, Call.isLoad]

end ReadsLatest

/-! ## What is kept by every run -/

/-- What ties a session to the answers that its front end gave in the past. -/
structure Tracks (faults : List (Operation × String)) (supply : List (Option SourceUnit))
    (s : Session) (past : List Call) : Prop where
  frontend : s.toFrontend = ⟨.memory faults, supply⟩
  served : faults.lookup .loadUnit = none → s.served = Call.loads past
  stopped : s.closed = true → .stopThreads ∈ past
  active : s.closed = false →
    s.unit = Frontend.latest? ⟨.memory faults, supply⟩ (Call.loads past)
  reads : ReadsLatest ⟨.memory faults, supply⟩ past

namespace Tracks

variable {faults : List (Operation × String)} {supply : List (Option SourceUnit)} {s : Session}
  {bench : Bench} {past : List Call}

theorem memory (h : Tracks faults supply s past) : s.engine = .memory faults :=
  congrArg Frontend.engine h.frontend

theorem opening {settings : Settings} {catalogue : Run Catalogue}
    (created : (Session.create ⟨.memory faults, supply⟩ settings catalogue).outcome = .ok s) :
    Tracks faults supply s [] := by
  obtain ⟨known, -, rfl⟩ := Session.eq_of_create created
  exact ⟨rfl, fun _ => rfl, nofun, fun _ => rfl, by simp [ReadsLatest]⟩

theorem next (h : Tracks faults supply s past) :
    s.loaded? s.served = Frontend.loaded? ⟨.memory faults, supply⟩ (Call.loads past) := by
  rw [h.frontend]
  cases fault : faults.lookup .loadUnit with
  | none => rw [h.served fault]
  | some message => simp only [Frontend.loaded?, Engine.fault?, fault]

theorem idle (h : Tracks faults supply bench.session past) {step : Step}
    (stays : step.closes = false) (idle : step.loads = false) :
    Tracks faults supply (bench.perform step).1.session
      (past ++ Event.calls (bench.perform step).2.trace) := by
  obtain ⟨catalogue, same⟩ := bench.perform_session stays idle
  have looks := Bench.perform_callsOnly_of_idle h.memory stays idle
  have count := Call.loads_of_lookups looks
  rw [same]
  refine ⟨h.frontend, ?_, ?_, ?_, h.reads.lookups (fun running => h.active ?_) looks⟩
  · rw [Call.loads_append, count]
    exact h.served
  · exact fun closed => List.mem_append_left _ (h.stopped closed)
  · rw [Call.loads_append, count]
    exact h.active
  · exact Bool.eq_false_iff.mpr fun closed => running (h.stopped closed)

theorem close (h : Tracks faults supply s past) :
    Tracks faults supply s.close.1 (past ++ Event.calls s.close.2.trace) := by
  cases closed : s.closed with
  | true =>
      rw [Session.close_of_closed closed, Run.pure_trace, Event.calls_nil, List.append_nil]
      exact h
  | false =>
      have reads : ReadsLatest ⟨.memory faults, supply⟩
          (past ++ [.disposeIndex (s.index.getD 0), .stopThreads]) := h.reads.others (by simp)
      have count : Call.loads [.disposeIndex (s.index.getD 0), .stopThreads] = 0 := rfl
      rw [Session.close_calls h.memory closed, Session.close_session h.memory closed]
      cases faults.lookup .stopThreads with
      | none => exact ⟨h.frontend, by simpa [count] using h.served, by simp, nofun, reads⟩
      | some message => exact ⟨h.frontend, by simpa [count] using h.served, by simp, nofun, reads⟩

theorem load (h : Tracks faults supply s past) (path : String) (arguments : List String)
    (unsaved : Option (List (String × String))) :
    Tracks faults supply (s.load path arguments unsaved).1
      (past ++ Event.calls (s.load path arguments unsaved).2.trace) := by
  cases closed : s.closed with
  | true =>
      rw [Session.load_of_closed closed, Run.fail_trace, Event.calls_nil, List.append_nil]
      exact h
  | false =>
      have asked : Call.loads [s.loadCall path arguments unsaved] = 1 := rfl
      have reads : ReadsLatest ⟨.memory faults, supply⟩
          (past ++ [s.loadCall path arguments unsaved]) :=
        h.reads.others (by simp [Session.loadCall, Engine.loadCall])
      cases found : s.loaded? s.served with
      | none =>
          obtain ⟨⟨served, left, more⟩, -, made⟩ :=
            Session.load_of_refused closed found path arguments unsaved
          rw [left, made]
          refine ⟨h.frontend, ?_, ?_, ?_, reads⟩
          · intro sound
            rw [Call.loads_append, asked, ← h.served sound]
            exact more (by rw [h.memory]; exact sound)
          · exact fun shut => by simp [closed] at shut
          · intro _
            rw [Call.loads_append, asked, Frontend.latest?_succ, ← h.next, found]
            exact h.active closed
      | some unit =>
          obtain ⟨left, lookups, made, looks⟩ :=
            Session.load_of_loaded h.memory closed found path arguments unsaved
          have latest : some unit =
              Frontend.latest? ⟨.memory faults, supply⟩ (Call.loads past + 1) := by
            rw [Frontend.latest?_succ, ← h.next, found]
            rfl
          have count := Call.loads_of_lookups looks
          rw [left, made, ← List.singleton_append, ← List.append_assoc]
          refine ⟨h.frontend, ?_, ?_, ?_, reads.lookups (fun _ => ?_) looks⟩
          · intro sound
            simp only [Call.loads_append, asked, count, h.served sound]
          · exact fun shut => by simp [closed] at shut
          · intro _
            simp only [Call.loads_append, asked, count]
            exact latest
          · rw [Call.loads_append, asked]
            exact latest

theorem step (h : Tracks faults supply bench.session past) (step : Step) :
    Tracks faults supply (bench.perform step).1.session
      (past ++ Event.calls (bench.perform step).2.trace) := by
  cases closes : step.closes with
  | true =>
      obtain rfl := Step.eq_close closes
      rw [Bench.perform_close.1, Bench.perform_close.2]
      exact h.close
  | false =>
      cases loads : step.loads with
      | false => exact h.idle closes loads
      | true =>
          obtain ⟨path, arguments, unsaved, rfl⟩ := Step.eq_load loads
          rw [Bench.perform_load, Bench.keep_session, Bench.keep_trace]
          exact h.load path arguments unsaved

theorem keeps (bench : Bench) (past : List Event) (step : Step)
    (h : Tracks faults supply bench.session (Event.calls past)) :
    Tracks faults supply (bench.perform step).1.session
      (Event.calls (past ++ (bench.perform step).2.trace)) := by
  rw [Event.calls_append]
  exact h.step step

theorem after {past : List Event} (h : Tracks faults supply bench.session (Event.calls past))
    (steps : List Step) :
    Tracks faults supply (bench.after steps).session
      (Event.calls (past ++ bench.events steps)) :=
  Bench.kept_after (fun later past => Tracks faults supply later.session (Event.calls past)) keeps
    steps h

theorem all (h : Tracks faults supply bench.session []) (stretches : List Stretch) :
    Tracks faults supply (bench.afterAll stretches).session
      (Event.calls (bench.eventsOfAll stretches)) :=
  Bench.kept_afterAll (fun later past => Tracks faults supply later.session (Event.calls past)) []
    keeps stretches h

theorem perform_load_of_given (h : Tracks faults supply bench.session past)
    (opened : bench.session.closed = false) {unit : ActiveUnit}
    (given : Frontend.loaded? ⟨.memory faults, supply⟩ (Call.loads past) = some unit)
    (path : String) (arguments : List String) (unsaved : Option (List (String × String))) :
    (bench.perform (.load path arguments unsaved)).1.session.unit = some unit ∧
      ∃ request lookups,
        Event.calls (bench.perform (.load path arguments unsaved)).2.trace = request :: lookups ∧
          request.isLoad = true ∧ ∀ call ∈ lookups, Lookup (some unit) call := by
  obtain ⟨left, lookups, made, looks⟩ :=
    Session.load_of_loaded h.memory opened (h.next.trans given) path arguments unsaved
  rw [Bench.perform_load, Bench.keep_session, Bench.keep_trace, left]
  exact ⟨rfl, bench.session.loadCall path arguments unsaved, lookups, made, rfl, looks⟩

theorem perform_load_of_refused (h : Tracks faults supply bench.session past)
    (opened : bench.session.closed = false)
    (refused : Frontend.loaded? ⟨.memory faults, supply⟩ (Call.loads past) = none)
    (path : String) (arguments : List String) (unsaved : Option (List (String × String))) :
    (bench.perform (.load path arguments unsaved)).2.outcome =
        .error (Frontend.refusal ⟨.memory faults, supply⟩) ∧
      (bench.perform (.load path arguments unsaved)).1.session.index = bench.session.index ∧
      (bench.perform (.load path arguments unsaved)).1.session.unit = bench.session.unit ∧
      (bench.perform (.load path arguments unsaved)).1.session.closed = bench.session.closed := by
  obtain ⟨⟨served, left, -⟩, failed, -⟩ :=
    Session.load_of_refused opened (h.next.trans refused) path arguments unsaved
  rw [h.frontend] at failed
  rw [Bench.perform_load, Bench.keep_of_error failed, left]
  exact ⟨rfl, rfl, rfl, rfl⟩

end Tracks

/-- In every run of an open session the active unit is the last that the front end gave, and every
token is looked up in the unit that is active then. A load that is given a unit looks tokens up in
that one alone, and a load that is given none changes nothing. Lifting leaves the session as it
is. -/
theorem tokens_read_from_active_unit (faults : List (Operation × String))
    (supply : List (Option SourceUnit)) (settings : Settings) (start : Catalogue)
    (requests : List Registration) {s : Session}
    (created : (Session.create ⟨.memory faults, supply⟩ settings
      (start.registerAll requests)).outcome = .ok s) (stretches : List Stretch) :
    let frontend : Frontend := ⟨.memory faults, supply⟩
    let bench := (⟨s, none⟩ : Bench).afterAll stretches
    let calls := Event.calls ((⟨s, none⟩ : Bench).eventsOfAll stretches)
    (bench.session.closed = false →
      bench.session.unit = frontend.latest? (Call.loads calls)) ∧
      ReadsLatest frontend calls ∧
      (∀ (steps : List Step) (i : Nat) (report : Report),
        (bench.runEach steps)[i]? = some report ∨ (bench.runWithin steps).1[i]? = some report →
        report.snapshot.closed = false →
        report.snapshot.unit =
          (frontend.latest? (Call.loads
            (calls ++ Event.calls (bench.events (steps.take (i + 1)))))).map ActiveUnit.serial) ∧
      (∀ path arguments unsaved, bench.session.closed = false →
        let loading := bench.perform (.load path arguments unsaved)
        match frontend.loaded? (Call.loads calls) with
        | some unit =>
          loading.1.session.unit = some unit ∧
            ∃ request lookups, Event.calls loading.2.trace = request :: lookups ∧
              request.isLoad = true ∧ ∀ call ∈ lookups, Lookup (some unit) call
        | none =>
          loading.2.outcome = .error frontend.refusal ∧
            loading.1.session.index = bench.session.index ∧
            loading.1.session.unit = bench.session.unit ∧
            loading.1.session.closed = bench.session.closed) ∧
      ∀ cursor wrappers,
        let lifting := bench.perform (.lift cursor wrappers)
        lifting.1.session = bench.session ∧ lifting.2.CallsOnly (Lookup bench.session.unit) := by
  intro frontend bench calls
  have reached : Tracks faults supply bench.session calls :=
    (Tracks.opening created).all stretches
  refine ⟨reached.active, reached.reads, ?_, ?_, ?_⟩
  · intro steps i report shown opened
    rw [shown.elim Bench.runEach_snapshot Bench.runWithin_snapshot] at opened ⊢
    have later := reached.after (steps.take (i + 1))
    rw [Event.calls_append] at later
    exact congrArg (Option.map ActiveUnit.serial) (later.active opened)
  · intro path arguments unsaved opened loading
    cases answer : frontend.loaded? (Call.loads calls) with
    | some unit => exact reached.perform_load_of_given opened answer path arguments unsaved
    | none => exact reached.perform_load_of_refused opened answer path arguments unsaved
  · intro cursor wrappers lifting
    have same : lifting = bench.keep _ _ := Bench.perform_lift cursor wrappers
    refine ⟨?_, Bench.perform_lift_callsOnly reached.memory cursor wrappers⟩
    rw [same, Bench.keep_session]

/-- The root of the first unit cannot be had and the second unit not be loaded, and yet tokens are
looked up in the first. -/
theorem tokens_read_from_first_unit :
    let source : SourceUnit := { root := { facts := {} } }
    let literal : Cursor := { facts := { kind := .integerLiteral } }
    let frontend : Frontend := ⟨.memory [(.unitRoot, "lost")], [some source, none]⟩
    ∃ s, (Session.create frontend {} (Catalogue.registerAll {} [])).outcome = .ok s ∧
      let bench := (⟨s, none⟩ : Bench).afterAll
        [.each [.load "a.c" [] none, .load "b.c" [] none]]
      bench.session.unit = frontend.loaded? 0 ∧
        (bench.perform (.lift literal (some [.varDecl]))).2.CallsOnly
          (Lookup (frontend.loaded? 0)) := by
  intro source literal frontend
  refine ⟨_, rfl, ?_⟩
  obtain ⟨active, -, -, -, lifting⟩ := tokens_read_from_active_unit [(.unitRoot, "lost")]
    [some source, none] {} {} [] rfl
    [.each [.load "a.c" [] none, .load "b.c" [] none]]
  have first := (active rfl).trans (show _ = frontend.loaded? 0 from rfl)
  refine ⟨first, ?_⟩
  rw [← first]
  exact (lifting literal (some [.varDecl])).2

end CursorLift
