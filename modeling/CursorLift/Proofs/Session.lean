import CursorLift.Proofs.Loading
import CursorLift.Session.Script

/-! # What one step does to a session

Each step of a script is brought to what it does to the session and what it calls for.
Only closing touches what a session owns, and a session that was closed looks up tokens
at most.
-/

namespace CursorLift

open Run (CallsOnly)

/-- Whether a call works on an index: it loads a unit into it, or looks up a token. -/
def Call.IsWork (index : Nat) : Call → Prop
  | .loadUnit into .. => into = index
  | .findToken .. => True
  | _ => False

def Call.IsLookup : Call → Prop
  | .findToken .. => True
  | _ => False

theorem Call.isWork_of_lookup {index : Nat} {unit : Option ActiveUnit} {call : Call}
    (h : Context.Lookup unit call) : call.IsWork index := by
  obtain ⟨label, rfl⟩ := h
  trivial

theorem Call.isLookup_of_lookup {unit : Option ActiveUnit} {call : Call}
    (h : Context.Lookup unit call) : call.IsLookup := by
  obtain ⟨label, rfl⟩ := h
  trivial

def Step.closes : Step → Bool
  | .close => true
  | _ => false

theorem Step.eq_close {step : Step} (h : step.closes = true) : step = .close := by
  cases step with
  | close => rfl
  | _ => cases h

def Step.loads : Step → Bool
  | .load .. => true
  | _ => false

theorem Step.eq_load {step : Step} (h : step.loads = true) :
    ∃ path arguments unsaved, step = .load path arguments unsaved := by
  cases step with
  | load path arguments unsaved => exact ⟨path, arguments, unsaved, rfl⟩
  | _ => cases h

namespace Catalogue

theorem registerNoted_calls (catalogue : Catalogue) (request : Registration) :
    Event.calls (catalogue.registerNoted request).trace = [] := by
  unfold registerNoted
  cases h : catalogue.register request <;> rfl

theorem registerAll_calls (catalogue : Catalogue) (requests : List Registration) :
    Event.calls (catalogue.registerAll requests).trace = [] := by
  induction requests generalizing catalogue with
  | nil => rfl
  | cons request requests ih =>
      rw [registerAll]
      cases h : (catalogue.registerNoted request).outcome with
      | ok extended =>
          rw [Run.bind_of_ok h, Event.calls_append, registerNoted_calls, ih extended]
          rfl
      | error failure =>
          rw [Run.bind_of_error h]
          exact registerNoted_calls catalogue request

end Catalogue

namespace Session

variable {faults : List (Operation × String)} {s : Session}

theorem context_inMemory (memory : s.engine = .memory faults) :
    s.context = Context.inMemory faults s.unit s.catalogue := by
  rw [context, memory]
  rfl

theorem close_of_closed (closed : s.closed = true) : s.close = (s, pure ()) := by
  rw [close, if_pos closed]

theorem load_callsOnly (memory : s.engine = .memory faults) (path : String)
    (arguments : List String) (unsaved : Option (List (String × String))) :
    (s.load path arguments unsaved).2.CallsOnly (Call.IsWork (s.index.getD 0)) := by
  cases closed : s.closed with
  | true =>
      rw [load_of_closed closed]
      exact .of_silent rfl
  | false =>
      have asked : (s.loadCall path arguments unsaved).IsWork (s.index.getD 0) := rfl
      rw [load_run closed]
      refine (CallsOnly.note _).bind fun _ => (CallsOnly.call asked).bind fun _ => ?_
      exact (liftLoaded_lookups memory _).mono fun _ => Call.isWork_of_lookup

theorem disposeIndex_calls (index : Nat) :
    Event.calls ((Engine.memory faults).disposeIndex index).trace = [.disposeIndex index] := by
  show Event.calls (Run.call _ >>= fun _ => Engine.attempt _ _).trace = _
  rw [Run.call_bind_trace, Context.attempt_trace]
  rfl

theorem stopThreads_calls :
    Event.calls ((Engine.memory faults).stopThreads).trace = [.stopThreads] := by
  show Event.calls (Run.call _ >>= fun _ => Engine.attempt _ _).trace = _
  rw [Run.call_bind_trace, Context.attempt_trace]
  rfl

theorem attempt_outcome (operation : Operation) :
    ((Engine.memory faults).attempt operation).outcome =
      match faults.lookup operation with
      | some message => .error (.engineFault message)
      | none => .ok () := by
  simp only [Engine.attempt, Engine.fault?]
  cases faults.lookup operation <;> rfl

theorem disposeIndex_outcome (index : Nat) :
    ((Engine.memory faults).disposeIndex index).outcome =
      match faults.lookup .disposeIndex with
      | some message => .error (.engineFault message)
      | none => .ok () :=
  attempt_outcome .disposeIndex

theorem stopThreads_outcome :
    ((Engine.memory faults).stopThreads).outcome =
      match faults.lookup .stopThreads with
      | some message => .error (.engineFault message)
      | none => .ok () :=
  attempt_outcome .stopThreads

theorem close_closed (s : Session) : s.close.1.closed = true := by
  unfold close
  split
  · next closed => exact closed
  · dsimp only
    split <;> rfl

theorem close_engine (s : Session) : s.close.1.engine = s.engine := by
  unfold close
  split
  · rfl
  · dsimp only
    split <;> rfl

/-- An open session that is closed gives up what it holds if the threads can be stopped, and
nothing of it otherwise. -/
theorem close_session (memory : s.engine = .memory faults) (opened : s.closed = false) :
    s.close.1 =
      match faults.lookup .stopThreads with
      | some _ => { s with closed := true }
      | none => { s with closed := true, index := none, unit := none } := by
  rw [close, if_neg (by simp [opened]), memory]
  simp only [stopThreads_outcome]
  cases faults.lookup .stopThreads <;> rfl

theorem close_calls (memory : s.engine = .memory faults) (opened : s.closed = false) :
    Event.calls s.close.2.trace = [.disposeIndex (s.index.getD 0), .stopThreads] := by
  rw [close, if_neg (by simp [opened]), memory, Run.calls_bind_note, Run.andFinally_trace,
    Event.calls_append, disposeIndex_calls, stopThreads_calls]
  rfl

end Session

/-! ## What one step does to a bench -/

namespace Bench

variable {faults : List (Operation × String)} {bench : Bench}

theorem keep_session (session : Session) (ran : Run Node) :
    (bench.keep session ran).1.session = session := by
  unfold keep
  cases ran.outcome <;> rfl

theorem keep_trace (session : Session) (ran : Run Node) :
    (bench.keep session ran).2.trace = ran.trace := by
  unfold keep
  cases ran.outcome <;> rfl

theorem keep_of_error {ran : Run Node} {failure : Failure} (failed : ran.outcome = .error failure)
    (session : Session) :
    bench.keep session ran = (⟨session, bench.latest⟩, ⟨ran.trace, .error failure⟩) := by
  simp only [keep, failed]

theorem callsOnly_keep {sort : Call → Prop} {session : Session} {ran : Run Node}
    (h : ran.CallsOnly sort) : (bench.keep session ran).2.CallsOnly sort := by
  rw [CallsOnly, keep_trace]
  exact h

theorem catalogueStep_calls (step : CatalogueStep) (catalogue : Catalogue) :
    Event.calls (step.perform catalogue).2.trace = [] := by
  cases step with
  | register request =>
      rw [CatalogueStep.perform]
      split <;> exact Catalogue.registerNoted_calls catalogue request
  | lookup | holds | kinds | size => rfl

theorem perform_load (path : String) (arguments : List String)
    (unsaved : Option (List (String × String))) :
    bench.perform (.load path arguments unsaved) =
      bench.keep (bench.session.load path arguments unsaved).1
        (bench.session.load path arguments unsaved).2 := rfl

theorem perform_close :
    (bench.perform .close).1.session = bench.session.close.1 ∧
      (bench.perform .close).2.trace = bench.session.close.2.trace :=
  ⟨rfl, Run.map_trace _ _⟩

theorem perform_load_of_closed (closed : bench.session.closed = true) (path : String)
    (arguments : List String) (unsaved : Option (List (String × String))) :
    bench.perform (.load path arguments unsaved) = (bench, Run.fail .sessionClosed) := by
  rw [perform_load, Session.load_of_closed closed]
  rfl

theorem perform_close_of_closed (closed : bench.session.closed = true) :
    bench.perform .close = (bench, pure .done) := by
  rw [perform, Session.close_of_closed closed]
  rfl

theorem perform_lift (cursor : Cursor) (wrappers : Option (List Kind)) :
    bench.perform (.lift cursor wrappers) =
      bench.keep bench.session
        (bench.session.context.liftThrough (wrappers.getD defaultWrappers) cursor) := by
  cases wrappers <;> rfl

/-- A step that neither loads nor closes leaves the session as it is but for its catalogue. -/
theorem perform_session (bench : Bench) {step : Step} (stays : step.closes = false)
    (idle : step.loads = false) :
    ∃ catalogue, (bench.perform step).1.session = { bench.session with catalogue } := by
  cases step with
  | close => cases stays
  | load => cases idle
  | lift cursor wrappers => exact ⟨_, by rw [perform_lift, keep_session]⟩
  | enter | resolve | dump | inspect | catalogue => exact ⟨_, rfl⟩

theorem perform_holding (bench : Bench) {step : Step} (other : step.closes = false) :
    (bench.perform step).1.session.holding = bench.session.holding := by
  cases loads : step.loads with
  | true =>
      obtain ⟨path, arguments, unsaved, rfl⟩ := Step.eq_load loads
      rw [perform_load, keep_session]
      exact Session.load_holding path arguments unsaved
  | false =>
      obtain ⟨catalogue, same⟩ := bench.perform_session other loads
      rw [same]
      rfl

theorem perform_engine (bench : Bench) (step : Step) :
    (bench.perform step).1.session.engine = bench.session.engine := by
  cases other : step.closes with
  | true =>
      obtain rfl : step = .close := Step.eq_close other
      rw [perform_close.1, Session.close_engine]
  | false => exact congrArg (fun holding => holding.1) (perform_holding bench other)

/-- The session is closed after a step exactly when it was before or the step closes it. -/
theorem perform_closed (bench : Bench) (step : Step) :
    (bench.perform step).1.session.closed = (bench.session.closed || step.closes) := by
  cases other : step.closes with
  | true =>
      obtain rfl : step = .close := Step.eq_close other
      rw [perform_close.1, Session.close_closed, Bool.or_true]
  | false =>
      rw [Bool.or_false]
      exact congrArg (fun holding => holding.2.2) (perform_holding bench other)

theorem perform_lift_callsOnly (memory : bench.session.engine = .memory faults) (cursor : Cursor)
    (wrappers : Option (List Kind)) :
    (bench.perform (.lift cursor wrappers)).2.CallsOnly (Context.Lookup bench.session.unit) := by
  rw [perform_lift, Session.context_inMemory memory]
  exact callsOnly_keep (Context.liftThrough_callsOnly _ cursor)

theorem perform_callsOnly_of_idle (memory : bench.session.engine = .memory faults) {step : Step}
    (stays : step.closes = false) (idle : step.loads = false) :
    (bench.perform step).2.CallsOnly (Context.Lookup bench.session.unit) := by
  cases step with
  | close => cases stays
  | load => cases idle
  | lift cursor wrappers => exact perform_lift_callsOnly memory cursor wrappers
  | catalogue step =>
      intro call member
      rw [perform, catalogueStep_calls] at member
      cases member
  | enter | resolve | dump | inspect => exact .of_silent rfl

/-- A step that does not close works on the session's index, and looks up tokens at most
once the session is closed. -/
theorem perform_callsOnly (memory : bench.session.engine = .memory faults) {step : Step}
    (other : step.closes = false) :
    (bench.perform step).2.CallsOnly (Call.IsWork (bench.session.index.getD 0)) ∧
      (bench.session.closed = true → (bench.perform step).2.CallsOnly Call.IsLookup) := by
  cases loads : step.loads with
  | true =>
      obtain ⟨path, arguments, unsaved, rfl⟩ := Step.eq_load loads
      rw [perform_load]
      refine ⟨callsOnly_keep (Session.load_callsOnly memory _ _ _), fun closed => ?_⟩
      rw [Session.load_of_closed closed]
      exact callsOnly_keep (.of_silent rfl)
  | false =>
      have looks := perform_callsOnly_of_idle memory other loads
      exact ⟨looks.mono fun _ => Call.isWork_of_lookup,
        fun _ => looks.mono fun _ => Call.isLookup_of_lookup⟩

end Bench

end CursorLift
