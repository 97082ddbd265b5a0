import CursorLift.Proofs.Counterpart

/-! # Runs with other calls

Two runs may differ in what their calls say and in nothing else. One is then the other with each
of its calls turned into another call. Turning calls into others respects binding, and leaves how
a run ends and what it gives notice of.
-/

namespace CursorLift

def Event.mapCall (f : Call → Call) : Event → Event
  | .call c => .call (f c)
  | .notice n => .notice n

theorem Event.calls_map (f : Call → Call) (trace : List Event) :
    calls (trace.map (mapCall f)) = (calls trace).map f := by
  induction trace with
  | nil => rfl
  | cons event trace ih =>
      cases event with
      | call c => exact congrArg (f c :: ·) ih
      | notice n => exact ih

theorem Event.notices_map (f : Call → Call) (threshold : Level) (trace : List Event) :
    notices threshold (trace.map (mapCall f)) = notices threshold trace := by
  rw [notices, List.filterMap_map]
  congr 1
  funext event
  cases event <;> rfl

namespace Run

variable {α β : Type} {f : Call → Call}

/-- A run with each of its calls turned into another. -/
def mapCalls (f : Call → Call) (x : Run α) : Run α := ⟨x.trace.map (Event.mapCall f), x.outcome⟩

theorem mapCalls_bind (f : Call → Call) (x : Run α) (g : α → Run β) :
    (x >>= g).mapCalls f = x.mapCalls f >>= fun a => (g a).mapCalls f := by
  cases h : x.outcome with
  | ok a =>
      have same : (x.mapCalls f).outcome = .ok a := h
      rw [bind_of_ok h, bind_of_ok same, mapCalls, List.map_append]
      rfl
  | error failure =>
      have same : (x.mapCalls f).outcome = .error failure := h
      rw [bind_of_error h, bind_of_error same]
      rfl

theorem mapCalls_andFinally (f : Call → Call) (x : Run α) (y : Run β) :
    (x.andFinally y).mapCalls f = (x.mapCalls f).andFinally (y.mapCalls f) := by
  simp only [mapCalls, andFinally, List.map_append]

/-- A run none of whose calls is changed is the same as before. -/
theorem mapCalls_of_callsOnly {x : Run α} (h : x.CallsOnly fun call => f call = call) :
    x.mapCalls f = x := by
  obtain ⟨trace, outcome⟩ := x
  have same : trace.map (Event.mapCall f) = trace := by
    induction trace with
    | nil => rfl
    | cons event trace ih =>
        cases event with
        | call c =>
            rw [List.map_cons, Event.mapCall, h c List.mem_cons_self,
              ih fun call member => h call (List.mem_cons_of_mem c member)]
        | notice n => rw [List.map_cons, Event.mapCall, ih h]
  rw [mapCalls, same]

theorem mapCalls_of_silent {x : Run α} (silent : x.Silent) : x.mapCalls f = x :=
  mapCalls_of_callsOnly (CallsAs.of_silent (sequential_only _) silent)

theorem congruence_mapCalls (f : Call → Call) :
    Congruence fun (α : Type) (x y : Run α) => x = y.mapCalls f := by
  refine ⟨fun silent => (mapCalls_of_silent silent).symm, ?_⟩
  intro α β x y g h same each
  rw [mapCalls_bind, ← same]
  exact bind_congr each

end Run

end CursorLift
