import CursorLift.Proofs.Agreement

/-! # Surroundings

A cursor is lifted among others: as a child, or as the initializer, of a cursor that is
itself lifted among others. Cursors that say the same of themselves, and that stand for
cursors which lift alike, can take each other's place in any surroundings.
-/

namespace CursorLift

open Run (Agree)

/-- One cursor around a place that lifting may come to. -/
inductive Frame where
  /-- The place is among the children. -/
  | child (parent : Cursor) (before after : List Cursor)
  /-- The place is that of the initializer. -/
  | initializer (parent : Cursor)

def Frame.plug : Frame → Cursor → Cursor
  | .child parent before after, c => { parent with children := before ++ c :: after }
  | .initializer parent, c => { parent with initializer := some c }

/-- The whole tree around a cursor, with the frames given from the outermost. -/
def Cursor.within (c : Cursor) (surroundings : List Frame) : Cursor :=
  surroundings.foldr Frame.plug c

namespace Context

variable {keep : Event → Bool} {unit : Option ActiveUnit} {catalogue : Catalogue} {c d : Cursor}

/-- Two cursors that can take each other's place: their own facts are the same, and so is
whether they stand for a cursor, and how that one is lifted. -/
structure Exchangeable (keep : Event → Bool) (unit : Option ActiveUnit) (catalogue : Catalogue)
    (c d : Cursor) : Prop where
  facts : d.facts = c.facts
  standIn : Option.Rel (LiftAlike keep unit catalogue)
    (Cursor.standIn? (Cursor.wraps defaultWrappers) c)
    (Cursor.standIn? (Cursor.wraps defaultWrappers) d)

theorem liftAlike_rel_refl (found : Option Cursor) :
    Option.Rel (LiftAlike keep unit catalogue) found found := by
  cases found with
  | none => exact .none
  | some e => exact .some (.refl e)

namespace Exchangeable

theorem of_concrete (concrete : c.wraps defaultWrappers = false) (facts : d.facts = c.facts)
    (alike : LiftAlike keep unit catalogue c d) : Exchangeable keep unit catalogue c d := by
  have other := (Cursor.wraps_congr facts defaultWrappers).trans concrete
  refine ⟨facts, ?_⟩
  rw [Cursor.standIn?_of_not_isWrapper concrete, Cursor.standIn?_of_not_isWrapper other]
  exact .some alike

theorem of_wrapper (wrapper : c.wraps defaultWrappers = true) (facts : d.facts = c.facts)
    (found : Option.Rel (LiftAlike keep unit catalogue)
      (Cursor.firstConcrete? (Cursor.wraps defaultWrappers) c.children)
      (Cursor.firstConcrete? (Cursor.wraps defaultWrappers) d.children)) :
    Exchangeable keep unit catalogue c d := by
  have other := (Cursor.wraps_congr facts defaultWrappers).trans wrapper
  refine ⟨facts, ?_⟩
  rwa [Cursor.standIn?_of_isWrapper wrapper, Cursor.standIn?_of_isWrapper other]

theorem liftAlike (h : Exchangeable keep unit catalogue c d) :
    LiftAlike keep unit catalogue c d := by
  obtain ⟨facts, standIn⟩ := h
  cases wrapper : c.wraps defaultWrappers with
  | false =>
      have other := (Cursor.wraps_congr facts defaultWrappers).trans wrapper
      rw [Cursor.standIn?_of_not_isWrapper wrapper,
        Cursor.standIn?_of_not_isWrapper other] at standIn
      cases standIn with
      | some alike => exact alike
  | true =>
      have other := (Cursor.wraps_congr facts defaultWrappers).trans wrapper
      rw [Cursor.standIn?_of_isWrapper wrapper, Cursor.standIn?_of_isWrapper other] at standIn
      rw [LiftAlike, lift_of_wrapper wrapper, lift_of_wrapper other, facts]
      refine Agree.after _ fun _ => ?_
      generalize Cursor.firstConcrete? (Cursor.wraps defaultWrappers) c.children = found,
        Cursor.firstConcrete? (Cursor.wraps defaultWrappers) d.children = shown at standIn ⊢
      cases standIn with
      | none => exact .fail _
      | some alike => exact alike

theorem firstConcrete?_rel (h : Exchangeable keep unit catalogue c d)
    (before after : List Cursor) :
    Option.Rel (LiftAlike keep unit catalogue)
      (Cursor.firstConcrete? (Cursor.wraps defaultWrappers) (before ++ c :: after))
      (Cursor.firstConcrete? (Cursor.wraps defaultWrappers) (before ++ d :: after)) := by
  simp only [Cursor.firstConcrete?_eq_findSome?, List.findSome?_append, List.findSome?_cons]
  cases before.findSome? (Cursor.standIn? (Cursor.wraps defaultWrappers)) with
  | some earlier => exact liftAlike_rel_refl _
  | none =>
      have standIn := h.standIn
      generalize Cursor.standIn? (Cursor.wraps defaultWrappers) c = found,
        Cursor.standIn? (Cursor.wraps defaultWrappers) d = shown at standIn ⊢
      cases standIn with
      | none => exact liftAlike_rel_refl _
      | some alike => exact .some alike

theorem properInitializer?_rel (h : Exchangeable keep unit catalogue c d) (parent : Cursor) :
    Option.Rel (LiftAlike keep unit catalogue)
      (Cursor.properInitializer? { parent with initializer := some c })
      (Cursor.properInitializer? { parent with initializer := some d }) := by
  simp only [Cursor.properInitializer?, Option.filter_some, h.facts]
  cases c.facts.isNull with
  | true => exact .none
  | false => exact .some h.liftAlike

/-- Exchangeable cursors stay so inside one more cursor. -/
theorem plug (h : Exchangeable keep unit catalogue c d) (frame : Frame) :
    Exchangeable keep unit catalogue (frame.plug c) (frame.plug d) := by
  have siblings (beside : List Cursor) :
      List.Forall₂ (LiftAlike keep unit catalogue) beside beside :=
    List.forall₂_same.mpr fun e _ => .refl e
  cases frame with
  | child parent before after =>
      cases wrapper : parent.wraps defaultWrappers with
      | false =>
          refine of_concrete wrapper rfl (liftAlike_of_concrete wrapper rfl ?_ ?_)
          · exact List.rel_append (siblings before) (.cons h.liftAlike (siblings after))
          · exact liftAlike_rel_refl parent.properInitializer?
      | true => exact of_wrapper wrapper rfl (h.firstConcrete?_rel before after)
  | initializer parent =>
      cases wrapper : parent.wraps defaultWrappers with
      | false =>
          refine of_concrete wrapper rfl (liftAlike_of_concrete wrapper rfl ?_ ?_)
          · exact siblings parent.children
          · exact h.properInitializer?_rel parent
      | true =>
          -- A wrapper has no use for its initializer.
          exact of_wrapper wrapper rfl (liftAlike_rel_refl _)

/-- Exchangeable cursors can take each other's place in any surroundings. -/
theorem within (h : Exchangeable keep unit catalogue c d) (surroundings : List Frame) :
    Exchangeable keep unit catalogue (c.within surroundings) (d.within surroundings) := by
  induction surroundings with
  | nil => exact h
  | cons frame _ ih => exact ih.plug frame

end Exchangeable

end Context

end CursorLift
