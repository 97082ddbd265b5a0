import CursorLift.Proofs.Release
import CursorLift.Session.Basic

/-! # Released on every way out

What is done in a session of its own stands in a bracket: an index is created before it and
released behind it, whatever happens in between. Lifting one file or one text does so, and so does
a block of steps. How the whole ends is settled from the outside in: the threads before the index,
and both before what was done.
-/

namespace CursorLift

def Call.isDisposal : Call → Bool
  | .disposeIndex _ => true
  | _ => false

namespace Ledger

variable {index : Nat} {calls : List Call}

theorem disposals (h : Ledger index true calls) :
    calls.filter Call.isDisposal = [.disposeIndex index] := by
  cases h with
  | @released work late onIndex lookups =>
      have before : work.filter Call.isDisposal = [] := by
        rw [List.filter_eq_nil_iff]
        intro call member disposal
        have works := onIndex call member
        cases call <;> simp [Call.isDisposal, Call.IsWork] at disposal works
      have behind : late.filter Call.isDisposal = [] := by
        rw [List.filter_eq_nil_iff]
        intro call member disposal
        have looks := lookups call member
        cases call <;> simp [Call.isDisposal, Call.IsLookup] at disposal looks
      simp [List.filter_cons, before, behind, Call.isDisposal]

theorem stops (h : Ledger index true calls) : calls.count .stopThreads = 1 := by
  cases h with
  | @released work late onIndex lookups =>
      have before : Call.stopThreads ∉ work := fun member => onIndex _ member
      have behind : Call.stopThreads ∉ late := fun member => lookups _ member
      simp [List.count_eq_zero_of_not_mem before, List.count_eq_zero_of_not_mem behind]

end Ledger

/-! ## How a bracket ends -/

section Exit

variable {α : Type} {faults : List (Operation × String)} {s : Session}

/-- How something ends once the session that it was done in is closed behind it. -/
def exitOutcome (faults : List (Operation × String)) (body : Except Failure α) :
    Except Failure α :=
  match faults.lookup .stopThreads, faults.lookup .disposeIndex with
  | some message, _ => .error (.engineFault message)
  | none, some message => .error (.engineFault message)
  | none, none => body

theorem Session.close_outcome (memory : s.engine = .memory faults) (opened : s.closed = false) :
    s.close.2.outcome = exitOutcome faults (.ok ()) := by
  rw [close, if_neg (by simp [opened]), memory]
  simp only [exitOutcome, Run.bind_outcome, Run.andFinally, disposeIndex_outcome,
    stopThreads_outcome]
  cases faults.lookup .stopThreads <;> cases faults.lookup .disposeIndex <;> rfl

theorem Session.andFinally_close_outcome (memory : s.engine = .memory faults)
    (opened : s.closed = false) (ran : Run α) :
    (ran.andFinally s.close.2).outcome = exitOutcome faults ran.outcome := by
  simp only [Run.andFinally, close_outcome memory opened, exitOutcome]
  cases faults.lookup .stopThreads <;> cases faults.lookup .disposeIndex <;> rfl

/-- What a session and a run come to with the release around them, if the body by itself comes to
`body` and all in all to `whole`. -/
structure Bracket (faults : List (Operation × String)) (index : Nat)
    (body whole : Session × Run α) : Prop where
  closed : whole.1.closed = true
  disposed : (Event.calls whole.2.trace).filter Call.isDisposal = [.disposeIndex index]
  stopped : (Event.calls whole.2.trace).count .stopThreads = 1
  byExit : body.1.closed = false →
    Event.calls whole.2.trace =
        Event.calls body.2.trace ++ [.disposeIndex index, .stopThreads] ∧
      whole.2.outcome = exitOutcome faults body.2.outcome
  byStep : body.1.closed = true →
    Event.calls whole.2.trace = Event.calls body.2.trace ∧ whole.2.outcome = body.2.outcome

/-- A body that keeps account of the index is bracketed by a close behind it. -/
theorem Account.bracket {index : Nat} {last : Bench} {body : Session × Run α}
    (h : Account faults index last (Event.calls body.2.trace)) (same : last.session = body.1) :
    Bracket faults index body (body.1.close.1, body.2.andFinally body.1.close.2) := by
  obtain ⟨memory, holds, ledger⟩ := h
  rw [same] at memory holds ledger
  -- Whoever closed the session, its ledger stands released behind the close.
  have ledger : Ledger index true (Event.calls (body.2.andFinally body.1.close.2).trace) := by
    rw [Run.andFinally_trace, Event.calls_append]
    cases closed : body.1.closed with
    | false =>
        rw [closed] at ledger
        rw [Session.close_calls memory closed, holds closed]
        exact ledger.release
    | true =>
        rw [closed] at ledger
        rwa [Session.close_of_closed closed, Run.pure_trace, Event.calls_nil, List.append_nil]
  refine ⟨Session.close_closed _, ledger.disposals, ledger.stops, fun opened => ⟨?_, ?_⟩,
    fun closed => ?_⟩
  · rw [Run.andFinally_trace, Event.calls_append, Session.close_calls memory opened, holds opened]
    rfl
  · exact Session.andFinally_close_outcome memory opened body.2
  · rw [Session.close_of_closed closed]
    exact ⟨by simp, rfl⟩

end Exit

/-! ## A block and its body -/

/-- The first failure that reports show. -/
def Report.firstFailure? (reports : List Report) : Option Failure :=
  reports.findSome? fun report => Outcome.failure? report.ran.outcome

namespace Bench

/-- Steps within one block end as the first of them does that fails, and are done if none does. -/
theorem runUntilFailure_outcome (bench : Bench) (steps : List Step) :
    (bench.runUntilFailure steps).2.2.outcome =
      match Report.firstFailure? (bench.runEach steps) with
      | some failure => .error failure
      | none => .ok .done := by
  induction steps generalizing bench with
  | nil => rfl
  | cons step steps ih =>
      simp only [runUntilFailure, runEach, Report.firstFailure?, List.findSome?_cons]
      split
      · next failure failed => simp only [failed, Outcome.failure?]
      · next answer done =>
          simp only [done, Outcome.failure?]
          exact ih _

end Bench

namespace Session

/-- Does steps up to the first that fails, and ends as that one. -/
def untilFailure (s : Session) (steps : List Step) : Session × Run Answer :=
  let bench : Bench := ⟨s, none⟩
  let taken := bench.upToFailure steps
  ((bench.after taken).session,
    ⟨bench.events taken,
      match Report.firstFailure? (bench.runEach steps) with
      | some failure => .error failure
      | none => .ok .done⟩)

def block (s : Session) (steps : List Step) : Session × Run Answer :=
  let bench : Bench := ⟨s, none⟩
  ((bench.afterStretch (.block steps)).session,
    ⟨bench.eventsOf (.block steps), (bench.runWithin steps).2.ran.outcome⟩)

theorem block_eq (s : Session) (steps : List Step) :
    s.block steps = s.within (untilFailure · steps) := by
  have left := Bench.runUntilFailure_bench ⟨s, none⟩ steps
  have happened := Bench.runUntilFailure_events ⟨s, none⟩ steps
  have ended := Bench.runUntilFailure_outcome ⟨s, none⟩ steps
  simp only [block, within, untilFailure, Bench.afterStretch, Bench.eventsOf, Bench.runWithin,
    Run.andFinally, ← left, ← happened, ← ended, List.append_assoc]

end Session

/-- Does steps within one block in a session of its own. -/
def Frontend.runBlock (frontend : Frontend) (settings : Settings) (catalogue : Run Catalogue)
    (steps : List Step) : Run Answer := do
  let s ← Session.create frontend settings catalogue
  (s.block steps).2

/-! ## The bracket -/

section Bracketed

variable {α : Type} {faults : List (Operation × String)} {supply : List (Option SourceUnit)}
  {settings : Settings}

/-- Whether a run creates an index, and then does `whole`, which brackets `body`, in a session with
it. A run that cannot create one does nothing else. -/
def Bracketed (faults : List (Operation × String)) (supply : List (Option SourceUnit))
    (settings : Settings) (catalogue : Run Catalogue) (body whole : Session → Session × Run α)
    (run : Run α) : Prop :=
  let creation : Call := .createIndex settings.excludeFromPch settings.displayDiagnostics
  match faults.lookup .createIndex with
  | some message =>
    Event.calls run.trace = [creation] ∧ run.outcome = .error (.engineFault message)
  | none =>
    ∃ s index,
      (Session.create ⟨.memory faults, supply⟩ settings catalogue).outcome = .ok s ∧
        s.index = some index ∧
        s.closed = false ∧
        Event.calls run.trace = creation :: Event.calls (whole s).2.trace ∧
        run.outcome = (whole s).2.outcome ∧
        Bracket faults index (body s) (whole s)

theorem bracketed_of_create {catalogue : Run Catalogue} {known : Catalogue}
    (made : catalogue.outcome = .ok known) (silent : Event.calls catalogue.trace = [])
    {body whole : Session → Session × Run α}
    (each : ∀ s : Session, Account faults 1 ⟨s, none⟩ [] →
      Bracket faults 1 (body s) (whole s)) :
    Bracketed faults supply settings catalogue body whole
      (Session.create ⟨.memory faults, supply⟩ settings catalogue >>= fun s => (whole s).2) := by
  have calls : Event.calls (Session.create ⟨.memory faults, supply⟩ settings catalogue).trace =
      [.createIndex settings.excludeFromPch settings.displayDiagnostics] :=
    Session.create_calls made silent
  have ended : (Session.create ⟨.memory faults, supply⟩ settings catalogue).outcome = _ :=
    Session.create_outcome catalogue
  rw [made, Outcome.ok_bind] at ended
  unfold Bracketed
  cases fault : faults.lookup .createIndex with
  | some message =>
      rw [fault] at ended
      rw [Run.bind_of_error ended]
      exact ⟨calls, rfl⟩
  | none =>
      rw [fault] at ended
      rw [Run.bind_of_ok ended, Event.calls_append, calls]
      exact ⟨_, 1, ended, rfl, rfl, rfl, rfl, each _ (Account.opening rfl rfl rfl)⟩

theorem bracket_load {index : Nat} {s : Session} (start : Account faults index ⟨s, none⟩ [])
    (path : String) (arguments : List String) (unsaved : Option (List (String × String))) :
    Bracket faults index (s.load path arguments unsaved)
      (s.within fun s => s.load path arguments unsaved) := by
  have loaded := start.step (.load path arguments unsaved)
  rw [Bench.perform_load, Bench.keep_trace] at loaded
  exact loaded.bracket (Bench.keep_session _ _)

theorem bracket_block {index : Nat} {s : Session} (start : Account faults index ⟨s, none⟩ [])
    (steps : List Step) : Bracket faults index (s.untilFailure steps) (s.block steps) := by
  rw [Session.block_eq]
  have taken := start.all [.each ((⟨s, none⟩ : Bench).upToFailure steps)]
  simp only [Bench.afterAll, Bench.eventsOfAll, Bench.afterStretch, Bench.eventsOf,
    List.append_nil, List.nil_append] at taken
  exact taken.bracket rfl

end Bracketed

/-- Lifting a file, lifting a text and a block of steps are brackets: the index that they create is
disposed of once and the threads are stopped once, on every way out. If it is the exit that closes
the session, a fault in stopping the threads stands before one in disposing of the index, and that
one before the first failure of the body. If a step has closed it, the exit does nothing. -/
theorem released_on_every_way_out (faults : List (Operation × String))
    (supply : List (Option SourceUnit)) (settings : Settings) :
    let frontend : Frontend := ⟨.memory faults, supply⟩
    (∀ path arguments,
      Bracketed faults supply settings Catalogue.basic
        (fun s => s.load path arguments none)
        (fun s => s.within fun s => s.load path arguments none)
        (frontend.liftFile settings path arguments)) ∧
      (∀ text name arguments,
        Bracketed faults supply settings Catalogue.basic
          (fun s => s.load name arguments (some [(s.resolve name, text)]))
          (fun s => s.within fun s => s.load name arguments (some [(s.resolve name, text)]))
          (frontend.liftText settings text name arguments)) ∧
      (∀ (s : Session) path arguments unsaved,
        (s.load path arguments unsaved).1.closed = s.closed) ∧
      ∀ (start : Catalogue) (requests : List Registration) (known : Catalogue),
        (start.registerAll requests).outcome = .ok known →
        ∀ steps,
          Bracketed faults supply settings (start.registerAll requests)
            (fun s => s.untilFailure steps) (fun s => s.block steps)
            (frontend.runBlock settings (start.registerAll requests) steps) := by
  intro frontend
  have silent := Catalogue.registerAll_calls {} Catalogue.basicRegistrations
  refine ⟨?_, ?_, ?_, ?_⟩
  · intro path arguments
    exact bracketed_of_create rfl silent fun s start => bracket_load start _ _ _
  · intro text name arguments
    -- The notice that comes first is no call and has no part in how the run ends.
    exact bracketed_of_create rfl silent fun s start => bracket_load start _ _ _
  · intro s path arguments unsaved
    exact congrArg (fun holding => holding.2.2) (Session.load_holding path arguments unsaved)
  · intro start requests known made steps
    exact bracketed_of_create made (Catalogue.registerAll_calls start requests)
      fun s start => bracket_block start steps

/-- The unit cannot be loaded, the index not disposed of and the threads not stopped: the last of
these is what comes out. -/
theorem block_released_despite_faults :
    let frontend : Frontend := ⟨.memory [(.disposeIndex, "busy"), (.stopThreads, "stuck")], []⟩
    let run := frontend.runBlock {} (Catalogue.registerAll {} []) [.enter, .load "a.c" [] none]
    (Catalogue.registerAll {} []).outcome = .ok {} ∧
      run.outcome = .error (.engineFault "stuck") ∧
      Event.calls run.trace =
        [.createIndex true false, .loadUnit 1 "./a.c" [] none 0, .disposeIndex 1,
          .stopThreads] := by
  intro frontend run
  obtain ⟨-, -, -, blocks⟩ :=
    released_on_every_way_out [(.disposeIndex, "busy"), (.stopThreads, "stuck")] [] {}
  obtain ⟨s, index, created, holds, -, calls, ended, bracket⟩ :=
    blocks {} [] {} rfl [.enter, .load "a.c" [] none]
  cases created
  cases holds
  obtain ⟨exitCalls, exitEnd⟩ := bracket.byExit rfl
  refine ⟨rfl, ended.trans exitEnd, calls.trans ?_⟩
  rw [exitCalls]
  rfl

end CursorLift
