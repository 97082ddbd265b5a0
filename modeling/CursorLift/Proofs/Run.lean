import CursorLift.Trace

/-! # Laws of runs

Runs form a lawful monad. Two ways of speaking about whole runs are used throughout: a
run *calls* only for some sort of thing, and two runs *agree* when they show the same kept
events and end alike. Both are closed under binding, so a statement about a recursion
of runs needs to look at its leaves only.
-/

namespace CursorLift

namespace Event

@[simp] theorem calls_append (early late : List Event) :
    calls (early ++ late) = calls early ++ calls late :=
  List.filterMap_append

@[simp] theorem calls_nil : calls [] = [] := rfl

@[simp] theorem calls_call (c : Call) (trace : List Event) :
    calls (.call c :: trace) = c :: calls trace := rfl

@[simp] theorem calls_notice (n : Notice) (trace : List Event) :
    calls (.notice n :: trace) = calls trace := rfl

end Event

namespace Outcome

variable {α β : Type}

@[simp] theorem ok_bind (a : α) (f : α → Except Failure β) :
    (Except.ok a : Except Failure α).bind f = f a := rfl

@[simp] theorem error_bind (failure : Failure) (f : α → Except Failure β) :
    (Except.error failure : Except Failure α).bind f = .error failure := rfl

theorem bind_eq_ok {x : Except Failure α} {f : α → Except Failure β} {b : β} :
    x.bind f = .ok b ↔ ∃ a, x = .ok a ∧ f a = .ok b := by
  cases x with
  | ok a => exact ⟨fun h => ⟨a, rfl, h⟩, fun ⟨_, same, h⟩ => by cases same; exact h⟩
  | error failure => exact ⟨nofun, nofun⟩

theorem bind_eq_error {x : Except Failure α} {f : α → Except Failure β} {failure : Failure} :
    x.bind f = .error failure ↔ x = .error failure ∨ ∃ a, x = .ok a ∧ f a = .error failure := by
  cases x <;> simp

theorem bind_congr {x : Except Failure α} {f g : α → Except Failure β}
    (each : ∀ a, x = .ok a → f a = g a) : x.bind f = x.bind g := by
  cases x with
  | ok a => exact each a rfl
  | error failure => rfl

theorem map_eq_ok {x : Except Failure α} {f : α → β} {b : β} :
    x.map f = .ok b ↔ ∃ a, x = .ok a ∧ f a = b := by
  cases x with
  | ok a =>
      refine ⟨fun h => ⟨a, rfl, Except.ok.inj h⟩, fun ⟨_, same, h⟩ => ?_⟩
      cases same
      exact congrArg Except.ok h
  | error failure => exact ⟨nofun, nofun⟩

def failure? : Except Failure α → Option Failure
  | .ok _ => none
  | .error failure => some failure

theorem failure?_eq_some {x : Except Failure α} {failure : Failure} :
    failure? x = some failure ↔ x = .error failure := by
  cases x <;> simp [failure?]

theorem failure?_map (x : Except Failure α) (f : α → β) : failure? (x.map f) = failure? x := by
  cases x <;> rfl

end Outcome

namespace Run

variable {α β γ δ : Type}

attribute [ext] Run

@[simp] theorem note_trace (n : Notice) : (note n).trace = [.notice n] := rfl

@[simp] theorem note_outcome (n : Notice) : (note n).outcome = .ok () := rfl

@[simp] theorem call_trace (c : Call) : (call c).trace = [.call c] := rfl

@[simp] theorem call_outcome (c : Call) : (call c).outcome = .ok () := rfl

@[simp] theorem fail_trace (failure : Failure) : (fail failure : Run α).trace = [] := rfl

@[simp] theorem fail_outcome (failure : Failure) :
    (fail failure : Run α).outcome = .error failure := rfl

@[simp] theorem ofExcept_outcome (outcome : Except Failure α) :
    (ofExcept outcome).outcome = outcome := rfl

@[simp] theorem ofExcept_ok (a : α) : ofExcept (.ok a) = (pure a : Run α) := rfl

@[simp] theorem bind_outcome (x : Run α) (f : α → Run β) :
    (x >>= f).outcome = x.outcome.bind fun a => (f a).outcome := by
  cases h : x.outcome with
  | ok a => rw [bind_of_ok h]; rfl
  | error failure => rw [bind_of_error h]; rfl

theorem bind_congr {x : Run α} {f g : α → Run β} (each : ∀ a, x.outcome = .ok a → f a = g a) :
    x >>= f = x >>= g := by
  cases h : x.outcome with
  | ok a => rw [bind_of_ok h, bind_of_ok h, each a h]
  | error failure => rw [bind_of_error h, bind_of_error h]

theorem map_outcome (x : Run α) (f : α → β) :
    (x >>= fun a => pure (f a)).outcome = x.outcome.map f := by
  rw [bind_outcome]
  cases x.outcome <;> rfl

theorem map_trace (x : Run α) (f : α → β) : (x >>= fun a => pure (f a)).trace = x.trace := by
  cases h : x.outcome with
  | ok a => rw [bind_of_ok h, pure_trace, List.append_nil]
  | error failure => rw [bind_of_error h]

@[simp] theorem andFinally_trace (x : Run α) (y : Run β) :
    (x.andFinally y).trace = x.trace ++ y.trace := rfl

theorem calls_bind_note (x : Run α) (n : Notice) :
    Event.calls (x >>= fun _ => note n).trace = Event.calls x.trace := by
  cases h : x.outcome with
  | ok a => rw [bind_of_ok h, Event.calls_append, note_trace]; simp
  | error failure => rw [bind_of_error h]

@[simp] theorem note_bind_trace (n : Notice) (x : Run α) :
    (note n >>= fun _ => x).trace = .notice n :: x.trace := rfl

@[simp] theorem call_bind_trace (c : Call) (x : Run α) :
    (call c >>= fun _ => x).trace = .call c :: x.trace := rfl

protected theorem map_id (x : Run α) : id <$> x = x := by
  show x >>= (fun a => pure a) = x
  cases h : x.outcome with
  | ok a =>
      rw [bind_of_ok h]
      ext1
      · simp
      · exact h.symm
  | error failure =>
      rw [bind_of_error h]
      ext1
      · rfl
      · exact h.symm

protected theorem pure_bind (a : α) (f : α → Run β) : pure a >>= f = f a := by
  rw [bind_of_ok (pure_outcome a)]
  rfl

protected theorem bind_assoc (x : Run α) (f : α → Run β) (g : β → Run γ) :
    x >>= f >>= g = x >>= fun a => f a >>= g := by
  cases h : x.outcome with
  | error failure =>
      rw [bind_of_error h, bind_of_error h]
      rfl
  | ok a =>
      rw [bind_of_ok h (fun a => f a >>= g)]
      cases k : (f a).outcome with
      | error failure =>
          have first : (x >>= f).outcome = .error failure := by rw [bind_of_ok h]; exact k
          rw [bind_of_error first, bind_of_error k, bind_of_ok h]
      | ok b =>
          have first : (x >>= f).outcome = .ok b := by rw [bind_of_ok h]; exact k
          rw [bind_of_ok first, bind_of_ok k, bind_of_ok h, List.append_assoc]

instance : LawfulMonad Run := .mk' Run Run.map_id Run.pure_bind Run.bind_assoc

/-! ## What a run calls for -/

/-- Whether a sort of calls one after the other is that of none, and of two pieces of its sort one
behind the other. -/
structure Sequential (sort : List Call → Prop) : Prop where
  nil : sort []
  append : ∀ {early late : List Call}, sort early → sort late → sort (early ++ late)

def CallsAs (sort : List Call → Prop) (x : Run α) : Prop := sort (Event.calls x.trace)

abbrev Silent (x : Run α) : Prop := CallsAs (· = []) x

/-- Every call of a run is of some sort. -/
def CallsOnly (sort : Call → Prop) (x : Run α) : Prop := ∀ call ∈ Event.calls x.trace, sort call

theorem sequential_nil : Sequential (· = []) := ⟨rfl, fun early late => by rw [early, late]; rfl⟩

theorem sequential_only (sort : Call → Prop) : Sequential fun calls => ∀ call ∈ calls, sort call :=
  ⟨nofun, fun first second call member =>
    (List.mem_append.mp member).elim (first call) (second call)⟩

namespace CallsAs

variable {sort : List Call → Prop} {x : Run α}

theorem bind (seq : Sequential sort) {f : α → Run β} (first : CallsAs sort x)
    (second : ∀ a, CallsAs sort (f a)) : CallsAs sort (x >>= f) := by
  cases h : x.outcome with
  | ok a =>
      rw [CallsAs, bind_of_ok h, Event.calls_append]
      exact seq.append first (second a)
  | error failure =>
      rw [CallsAs, bind_of_error h]
      exact first

theorem of_silent (seq : Sequential sort) (silent : Silent x) : CallsAs sort x := by
  have silent : Event.calls x.trace = [] := silent
  rw [CallsAs, silent]
  exact seq.nil

end CallsAs

theorem calls_bind_of_ok {x : Run α} {a : α} (given : x.outcome = .ok a) (f : α → Run β) :
    Event.calls (x >>= f).trace = Event.calls x.trace ++ Event.calls (f a).trace := by
  rw [bind_of_ok given, Event.calls_append]

theorem calls_bind_of_error {x : Run α} {failure : Failure} (failed : x.outcome = .error failure)
    (f : α → Run β) : Event.calls (x >>= f).trace = Event.calls x.trace := by
  rw [bind_of_error failed]

theorem calls_map (x : Run α) (f : α → β) :
    Event.calls (x >>= fun a => pure (f a)).trace = Event.calls x.trace :=
  congrArg Event.calls (map_trace x f)

theorem calls_bind_of_silent {x : Run α} {f : α → Run β} (silent : ∀ a, (f a).Silent) :
    Event.calls (x >>= f).trace = Event.calls x.trace := by
  cases ended : x.outcome with
  | ok a =>
      have silent : Event.calls (f a).trace = [] := silent a
      rw [calls_bind_of_ok ended, silent, List.append_nil]
  | error failure => exact calls_bind_of_error ended f

namespace CallsOnly

variable {sort : Call → Prop} {x : Run α}

theorem of_silent (silent : x.trace = []) : CallsOnly sort x := by
  intro call member
  rw [silent] at member
  cases member

theorem note (n : Notice) : CallsOnly sort (Run.note n) := nofun

theorem call {c : Call} (h : sort c) : CallsOnly sort (Run.call c) := by
  intro call member
  rw [List.mem_singleton.mp member]
  exact h

theorem mono {wider : Call → Prop} (h : CallsOnly sort x) (le : ∀ call, sort call → wider call) :
    CallsOnly wider x :=
  fun call member => le call (h call member)

theorem bind {f : α → Run β} (first : CallsOnly sort x) (second : ∀ a, CallsOnly sort (f a)) :
    CallsOnly sort (x >>= f) :=
  CallsAs.bind (sequential_only sort) first second

end CallsOnly

/-! ## Runs that agree -/

/-- Whether an event is a call, or a notice that reaches a level. -/
def reaches (threshold : Level) : Event → Bool
  | .call _ => true
  | .notice n => n.level.reaches threshold

theorem calls_filter_reaches (threshold : Level) (trace : List Event) :
    Event.calls (trace.filter (reaches threshold)) = Event.calls trace := by
  induction trace with
  | nil => rfl
  | cons event trace ih =>
      cases event with
      | call c => simp [List.filter_cons, reaches, ih]
      | notice n => cases h : n.level.reaches threshold <;> simp [reaches, h, ih]

theorem notices_filter_reaches (threshold : Level) (trace : List Event) :
    Event.notices threshold (trace.filter (reaches threshold)) = Event.notices threshold trace := by
  induction trace with
  | nil => rfl
  | cons event trace ih =>
      cases event with
      | call c => simpa [List.filter_cons, reaches, Event.notices] using ih
      | notice n =>
          cases h : n.level.reaches threshold <;>
            simpa [List.filter_cons, reaches, Event.notices, h] using ih

/-- Two outcomes that are the same failure, or values that are related. -/
inductive EndAlike (related : α → β → Prop) : Except Failure α → Except Failure β → Prop where
  | ok {a : α} {b : β} (h : related a b) : EndAlike related (.ok a) (.ok b)
  | error (failure : Failure) : EndAlike related (.error failure) (.error failure)

theorem EndAlike.mono {related wider : α → β → Prop} {p : Except Failure α} {q : Except Failure β}
    (h : EndAlike related p q) (le : ∀ a b, related a b → wider a b) : EndAlike wider p q := by
  cases h with
  | ok same => exact .ok (le _ _ same)
  | error failure => exact .error failure

theorem EndAlike.map_eq {view : α → γ} {p q : Except Failure α}
    (h : EndAlike (fun a b => view a = view b) p q) : p.map view = q.map view := by
  cases h with
  | ok same => exact congrArg Except.ok same
  | error failure => rfl

theorem EndAlike.error_iff {related : α → β → Prop} {p : Except Failure α} {q : Except Failure β}
    (h : EndAlike related p q) {failure : Failure} : p = .error failure ↔ q = .error failure := by
  cases h with
  | ok same => exact ⟨nofun, nofun⟩
  | error other => exact ⟨fun h => by cases h; rfl, fun h => by cases h; rfl⟩

/-- Two runs that end alike and have the same events among those that are kept. -/
structure Agree (keep : Event → Bool) (related : α → β → Prop) (x : Run α) (y : Run β) : Prop where
  events : x.trace.filter keep = y.trace.filter keep
  ends : EndAlike related x.outcome y.outcome

namespace Agree

variable {keep : Event → Bool} {related : α → β → Prop} {x : Run α} {y : Run β}

theorem pure {a : α} {b : β} (h : related a b) :
    Agree keep related (Pure.pure a : Run α) (Pure.pure b) :=
  ⟨rfl, .ok h⟩

theorem fail (failure : Failure) :
    Agree keep related (Run.fail failure : Run α) (Run.fail failure : Run β) :=
  ⟨rfl, .error failure⟩

theorem refl (x : Run α) : Agree keep Eq x x := by
  refine ⟨rfl, ?_⟩
  cases x.outcome with
  | ok a => exact .ok rfl
  | error failure => exact .error failure

theorem mono {wider : α → β → Prop} (h : Agree keep related x y)
    (le : ∀ a b, related a b → wider a b) : Agree keep wider x y := by
  obtain ⟨events, ends⟩ := h
  exact ⟨events, ends.mono le⟩

/-- Runs that agree can be followed by runs that agree on related values. -/
theorem bind {further : γ → δ → Prop} {f : α → Run γ} {g : β → Run δ}
    (first : Agree keep related x y)
    (second : ∀ a b, related a b → Agree keep further (f a) (g b)) :
    Agree keep further (x >>= f) (y >>= g) := by
  obtain ⟨events, ends⟩ := first
  -- Both fail or both give values, so two of the four cases are void.
  cases hx : x.outcome with
  | error failure =>
      rw [hx] at ends
      cases hy : y.outcome with
      | ok b => rw [hy] at ends; cases ends
      | error other =>
          rw [hy] at ends
          cases ends
          rw [bind_of_error hx, bind_of_error hy]
          exact ⟨events, .error failure⟩
  | ok a =>
      rw [hx] at ends
      cases hy : y.outcome with
      | error other => rw [hy] at ends; cases ends
      | ok b =>
          rw [hy] at ends
          cases ends with
          | ok same =>
              rw [bind_of_ok hx, bind_of_ok hy]
              have next := second a b same
              refine ⟨?_, next.ends⟩
              rw [List.filter_append, List.filter_append, events, next.events]

/-- Both runs may be preceded by one and the same run. -/
theorem after (z : Run γ) {f : γ → Run α} {g : γ → Run β}
    (second : ∀ c, Agree keep related (f c) (g c)) :
    Agree keep related (z >>= f) (z >>= g) :=
  bind (refl z) fun _ _ same => same ▸ second _

theorem note_left {n : Notice} (dropped : keep (.notice n) = false)
    (h : Agree keep related x y) : Agree keep related (Run.note n >>= fun _ => x) y := by
  refine ⟨?_, h.ends⟩
  rw [note_bind_trace, List.filter_cons_of_neg (by simp [dropped])]
  exact h.events

end Agree

end Run

end CursorLift
