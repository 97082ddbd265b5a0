import CursorLift.Engine
import CursorLift.Visit

/-! # Concrete cursors

A front end wraps some expressions in cursors that say nothing of their own. What such
a wrapper stands for is the first concrete cursor below it, found depth first in the
order of the children and going down through wrappers only.
-/

namespace CursorLift

namespace Cursor

mutual

/-- The concrete cursor that stands for a cursor: itself unless it is a wrapper. -/
def standIn? (isWrapper : Cursor → Bool) : Cursor → Option Cursor
  | ⟨facts, children, initializer, arguments, definition, referenced⟩ =>
    let c : Cursor := ⟨facts, children, initializer, arguments, definition, referenced⟩
    if isWrapper c then firstConcrete? isWrapper children else some c

/-- The first concrete cursor among some cursors and what their wrappers hide. -/
def firstConcrete? (isWrapper : Cursor → Bool) : List Cursor → Option Cursor
  | [] => none
  | c :: rest =>
    match standIn? isWrapper c with
    | some found => some found
    | none => firstConcrete? isWrapper rest

end

/-- A stand-in is the cursor itself or what its wrapper hides first. -/
theorem standIn?_eq (isWrapper : Cursor → Bool) (c : Cursor) :
    standIn? isWrapper c =
      if isWrapper c then firstConcrete? isWrapper c.children else some c := by
  cases c
  rw [standIn?]

mutual

theorem sizeOf_le_of_standIn? {isWrapper : Cursor → Bool} {found : Cursor} :
    ∀ c, standIn? isWrapper c = some found → sizeOf found ≤ sizeOf c
  | ⟨facts, children, initializer, arguments, definition, referenced⟩, h => by
    rw [standIn?_eq] at h
    split at h
    · have := sizeOf_lt_of_firstConcrete? children h
      simp only [Cursor.mk.sizeOf_spec]
      omega
    · obtain rfl := Option.some.inj h
      exact Nat.le_refl _

theorem sizeOf_lt_of_firstConcrete? {isWrapper : Cursor → Bool} {found : Cursor} :
    ∀ cursors, firstConcrete? isWrapper cursors = some found → sizeOf found < sizeOf cursors
  | [], h => by simp [firstConcrete?] at h
  | c :: rest, h => by
    rw [firstConcrete?] at h
    simp only [List.cons.sizeOf_spec]
    split at h
    · next hc =>
      obtain rfl := Option.some.inj h
      have := sizeOf_le_of_standIn? c hc
      omega
    · have := sizeOf_lt_of_firstConcrete? rest h
      omega

end

end Cursor

namespace Engine

def isWrapper (engine : Engine) (wrappers : List Kind) (c : Cursor) : Bool :=
  match engine.kindOf c with
  | .ok kind => wrappers.contains kind
  | .error _ => false

/-- Whether an engine knows a cursor at all. A search ends at one that it does not know, and
has found nothing then. -/
def isKnown (engine : Engine) (c : Cursor) : Bool := (engine.kindOf c).isOk

/-- The concrete cursor that stands for a cursor, as an engine knows the kinds. -/
def standIn? (engine : Engine) (wrappers : List Kind) (c : Cursor) : Option Cursor :=
  (Cursor.standIn? (engine.isWrapper wrappers) c).filter engine.isKnown

/-- How a visit in search of a concrete cursor goes on: down through wrappers, up to the first
other cursor, which is kept. A cursor of which the engine does not know the kind ends the search
as well, and is not kept. -/
def seek (engine : Engine) (wrappers : List Kind) (c : Cursor) (found : List Cursor) :
    Visit × List Cursor :=
  match engine.kindOf c with
  | .error _ => (.stop, found)
  | .ok kind => if wrappers.contains kind then (.descend, found) else (.stop, found ++ [c])

def concreteBelow? (engine : Engine) (wrappers : List Kind) (c : Cursor) : Option Cursor :=
  (c.visit (engine.seek wrappers) []).2.head?

/-- Looks below a cursor for the first concrete one. -/
def unwrap (engine : Engine) (wrappers : List Kind) (c : Cursor) : Run Cursor := do
  engine.attempt .kind
  match engine.concreteBelow? wrappers c with
  | some found => return found
  | none =>
    let kind ← Run.ofExcept (engine.kindOf c)
    Run.fail (.barrenWrapper kind)

theorem sizeOf_le_of_standIn? {engine : Engine} {wrappers : List Kind} {c found : Cursor}
    (h : engine.standIn? wrappers c = some found) : sizeOf found ≤ sizeOf c :=
  Cursor.sizeOf_le_of_standIn? c (Option.filter_eq_some_iff.mp h).1

theorem sizeOf_lt_of_initializerOf? {engine : Engine} {c found : Cursor}
    (h : engine.initializerOf? c = some found) : sizeOf found < sizeOf c := by
  unfold initializerOf? at h
  obtain ⟨h, -⟩ := Option.filter_eq_some_iff.mp h
  split at h
  · split at h
    · have := List.mem_of_getLast? h
      exact Cursor.sizeOf_lt_of_mem_children (List.mem_filter.mp this).1
    · simp at h
  · exact Cursor.sizeOf_lt_of_initializer h

end Engine

end CursorLift
