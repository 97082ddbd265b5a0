import CursorLift.Lift

/-! # Walks through wrappers

A walk meets cursors depth first, in the order of the children, and goes down through
wrappers only. The first concrete cursor that it meets is the one that the search for
a stand-in finds, so the search can be spoken of without its backtracking.
-/

namespace CursorLift.Cursor

/-- Whether a cursor is of one of some wrapper kinds. -/
def wraps (wrappers : List Kind) (c : Cursor) : Bool := wrappers.contains c.facts.kind

theorem wraps_congr {c d : Cursor} (facts : d.facts = c.facts) (wrappers : List Kind) :
    d.wraps wrappers = c.wraps wrappers := by
  rw [wraps, facts, wraps]

theorem wraps_defaultWrappers {c : Cursor} :
    c.wraps defaultWrappers = true ↔ c.facts.kind = .unexposedExpr := by
  simp [wraps, defaultWrappers]

theorem wraps_eq_false {c : Cursor} (kind : c.facts.kind ≠ .unexposedExpr) :
    c.wraps defaultWrappers = false := by
  rw [Bool.eq_false_iff]
  exact fun wrapper => kind (wraps_defaultWrappers.mp wrapper)

mutual

/-- A cursor and all that is met below it going down through wrappers only. -/
def walk (isWrapper : Cursor → Bool) : Cursor → List Cursor
  | ⟨facts, children, initializer, arguments, definition, referenced⟩ =>
    let c : Cursor := ⟨facts, children, initializer, arguments, definition, referenced⟩
    c :: if isWrapper c then walkAll isWrapper children else []

def walkAll (isWrapper : Cursor → Bool) : List Cursor → List Cursor
  | [] => []
  | c :: rest => walk isWrapper c ++ walkAll isWrapper rest

end

theorem walk_eq (isWrapper : Cursor → Bool) (c : Cursor) :
    walk isWrapper c = c :: if isWrapper c then walkAll isWrapper c.children else [] := by
  cases c
  rw [walk]

/-- The first concrete cursor that is met among some cursors and below their wrappers. -/
def firstMet? (isWrapper : Cursor → Bool) (cursors : List Cursor) : Option Cursor :=
  (walkAll isWrapper cursors).find? fun c => !isWrapper c

mutual

/-- What stands in for a cursor is the first concrete cursor that a walk from it meets. -/
theorem standIn?_eq_find? (isWrapper : Cursor → Bool) : ∀ c,
    standIn? isWrapper c = (walk isWrapper c).find? fun d => !isWrapper d
  | ⟨facts, children, initializer, arguments, definition, referenced⟩ => by
    rw [standIn?_eq, walk_eq]
    split
    · next h => simp [h, firstConcrete?_eq_firstMet? isWrapper children, firstMet?]
    · next h => simp [h]

/-- The search for a concrete cursor finds the first that is met. -/
theorem firstConcrete?_eq_firstMet? (isWrapper : Cursor → Bool) : ∀ cursors,
    firstConcrete? isWrapper cursors = firstMet? isWrapper cursors
  | [] => rfl
  | c :: rest => by
    rw [firstConcrete?, standIn?_eq_find? isWrapper c,
      firstConcrete?_eq_firstMet? isWrapper rest, firstMet?, firstMet?, walkAll,
      List.find?_append]
    cases (walk isWrapper c).find? fun d => !isWrapper d <;> rfl

end

theorem not_isWrapper_of_firstConcrete? {isWrapper : Cursor → Bool} {cursors : List Cursor}
    {found : Cursor} (h : firstConcrete? isWrapper cursors = some found) :
    isWrapper found = false := by
  rw [firstConcrete?_eq_firstMet?] at h
  simpa using List.find?_some h

theorem sizeOf_lt_of_firstMet? {isWrapper : Cursor → Bool} {cursors : List Cursor}
    {found : Cursor} (h : firstMet? isWrapper cursors = some found) :
    sizeOf found < sizeOf cursors :=
  sizeOf_lt_of_firstConcrete? cursors (by rwa [firstConcrete?_eq_firstMet?])

theorem sizeOf_children_lt (c : Cursor) : sizeOf c.children < sizeOf c := by
  cases c
  simp only [Cursor.mk.sizeOf_spec]
  omega

theorem standIn?_of_not_isWrapper {isWrapper : Cursor → Bool} {c : Cursor}
    (h : isWrapper c = false) : standIn? isWrapper c = some c := by
  rw [standIn?_eq, if_neg (by simp [h])]

theorem standIn?_of_isWrapper {isWrapper : Cursor → Bool} {c : Cursor}
    (h : isWrapper c = true) : standIn? isWrapper c = firstConcrete? isWrapper c.children := by
  rw [standIn?_eq, if_pos h]

/-- What is found among some cursors is what stands in for the first of them that has a
stand-in. -/
theorem firstConcrete?_eq_findSome? (isWrapper : Cursor → Bool) (cursors : List Cursor) :
    firstConcrete? isWrapper cursors = cursors.findSome? (standIn? isWrapper) := by
  induction cursors with
  | nil => rfl
  | cons c rest ih =>
      rw [firstConcrete?, List.findSome?_cons, ih]
      cases standIn? isWrapper c <;> rfl

theorem of_standIn? {handed : Cursor → Prop}
    (down : ∀ c, handed c → ∀ d ∈ c.children, handed d) {isWrapper : Cursor → Bool}
    {c concrete : Cursor} (holds : handed c) (h : standIn? isWrapper c = some concrete) :
    handed concrete := by
  rw [standIn?_eq] at h
  split at h
  · rw [firstConcrete?_eq_findSome?] at h
    obtain ⟨d, member, h⟩ := List.exists_of_findSome?_eq_some h
    have := sizeOf_lt_of_mem_children member
    exact of_standIn? down (down c holds d member) h
  · cases h
    exact holds
termination_by sizeOf c

/-! ## What a wrapper hides -/

/-- What a wrapper stands for, when there is a concrete cursor below it. -/
def hidden? (c : Cursor) : Option Cursor :=
  if c.wraps defaultWrappers then firstMet? (wraps defaultWrappers) c.children else none

theorem sizeOf_lt_of_hidden? {c concrete : Cursor} (h : c.hidden? = some concrete) :
    sizeOf concrete < sizeOf c := by
  unfold hidden? at h
  split at h
  · have := sizeOf_lt_of_firstMet? h
    have := sizeOf_children_lt c
    omega
  · cases h

section Hidden

variable {c concrete : Cursor}

theorem hidden?_of_concrete (h : c.wraps defaultWrappers = false) : c.hidden? = none := by
  rw [hidden?, if_neg (by simp [h])]

theorem hidden?_of_wrapper (h : c.wraps defaultWrappers = true) :
    c.hidden? = firstConcrete? (wraps defaultWrappers) c.children := by
  rw [hidden?, if_pos h, firstConcrete?_eq_firstMet?]

theorem concrete_of_hidden? (h : c.hidden? = some concrete) :
    concrete.wraps defaultWrappers = false := by
  unfold hidden? at h
  split at h
  · rw [← firstConcrete?_eq_firstMet?] at h
    exact not_isWrapper_of_firstConcrete? h
  · cases h

end Hidden

end CursorLift.Cursor
