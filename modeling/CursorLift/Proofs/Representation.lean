import CursorLift.Proofs.Lift
import Mathlib.Data.List.Forall2

/-! # Which nodes represent a cursor

The relation between cursors and nodes is given by rules, one for each shape and one for
wrappers, with no order of evaluation and no engine in it. Lifting where nothing fails
gives exactly the nodes that the rules derive.
-/

namespace CursorLift

open Context

/-- A node represents a cursor, with tokens read from a unit and shapes from a catalogue. -/
inductive Represents (unit : Option ActiveUnit) (catalogue : Catalogue) :
    Cursor → Node → Prop where
  /-- A wrapper is represented as the first concrete cursor that is met below it. -/
  | wrapper {c concrete : Cursor} {node : Node}
      (kind : c.facts.kind = .unexposedExpr)
      (first : Cursor.firstMet? (Cursor.wraps defaultWrappers) c.children = some concrete)
      (below : Represents unit catalogue concrete node) :
      Represents unit catalogue c node
  /-- The body has one node for each child, in the order of the children. -/
  | translationUnit {c : Cursor} {body : List Node}
      (kind : c.facts.kind ≠ .unexposedExpr)
      (shape : catalogue.lookup c.facts.kind = .ok .translationUnit)
      (each : List.Forall₂ (Represents unit catalogue) c.children body) :
      Represents unit catalogue c (.translationUnit c body)
  | integerLiteral {c : Cursor} {value : Number}
      (kind : c.facts.kind ≠ .unexposedExpr)
      (shape : catalogue.lookup c.facts.kind = .ok .integerLiteral)
      (read : Literal.readInteger (leadingText unit c) = .ok value) :
      Represents unit catalogue c (.integerLiteral c value)
  | floatingLiteral {c : Cursor}
      (kind : c.facts.kind ≠ .unexposedExpr)
      (shape : catalogue.lookup c.facts.kind = .ok .floatingLiteral) :
      Represents unit catalogue c (.floatingLiteral c (Literal.readFloating (leadingText unit c)))
  | stringLiteral {c : Cursor}
      (kind : c.facts.kind ≠ .unexposedExpr)
      (shape : catalogue.lookup c.facts.kind = .ok .stringLiteral) :
      Represents unit catalogue c (.stringLiteral c (leadingText unit c))
  /-- A variable that has no initializer, or a null one, has no value. -/
  | plainVarDecl {c : Cursor}
      (kind : c.facts.kind ≠ .unexposedExpr)
      (shape : catalogue.lookup c.facts.kind = .ok .varDecl)
      (absent : ∀ d, c.initializer = some d → d.facts.isNull = true) :
      Represents unit catalogue c
        (.varDecl c (c.facts.spelling.getD "") (c.facts.typeSpelling.getD "") none)
  /-- The value of any other variable represents its initializer. -/
  | varDecl {c initializer : Cursor} {value : Node}
      (kind : c.facts.kind ≠ .unexposedExpr)
      (shape : catalogue.lookup c.facts.kind = .ok .varDecl)
      (link : c.initializer = some initializer)
      (present : initializer.facts.isNull = false)
      (below : Represents unit catalogue initializer value) :
      Represents unit catalogue c
        (.varDecl c (c.facts.spelling.getD "") (c.facts.typeSpelling.getD "") (some value))

variable {unit : Option ActiveUnit} {catalogue : Catalogue}

/-! ## Induction along the rules -/

section Induct

variable {motive : ∀ c node, Represents unit catalogue c node → Prop}
  (wrapper : ∀ {c concrete : Cursor} {node : Node} (kind : c.facts.kind = .unexposedExpr)
    (first : Cursor.firstMet? (Cursor.wraps defaultWrappers) c.children = some concrete)
    (below : Represents unit catalogue concrete node), motive concrete node below →
      motive c node (.wrapper kind first below))
  (translationUnit : ∀ {c : Cursor} {body : List Node} (kind : c.facts.kind ≠ .unexposedExpr)
    (shape : catalogue.lookup c.facts.kind = .ok .translationUnit)
    (each : List.Forall₂ (Represents unit catalogue) c.children body),
      List.Forall₂ (fun d node => ∃ h, motive d node h) c.children body →
        motive c (.translationUnit c body) (.translationUnit kind shape each))
  (integerLiteral : ∀ {c : Cursor} {value : Number} (kind : c.facts.kind ≠ .unexposedExpr)
    (shape : catalogue.lookup c.facts.kind = .ok .integerLiteral)
    (read : Literal.readInteger (leadingText unit c) = .ok value),
      motive c (.integerLiteral c value) (.integerLiteral kind shape read))
  (floatingLiteral : ∀ {c : Cursor} (kind : c.facts.kind ≠ .unexposedExpr)
    (shape : catalogue.lookup c.facts.kind = .ok .floatingLiteral),
      motive c _ (.floatingLiteral kind shape))
  (stringLiteral : ∀ {c : Cursor} (kind : c.facts.kind ≠ .unexposedExpr)
    (shape : catalogue.lookup c.facts.kind = .ok .stringLiteral),
      motive c _ (.stringLiteral kind shape))
  (plainVarDecl : ∀ {c : Cursor} (kind : c.facts.kind ≠ .unexposedExpr)
    (shape : catalogue.lookup c.facts.kind = .ok .varDecl)
    (absent : ∀ d, c.initializer = some d → d.facts.isNull = true),
      motive c _ (.plainVarDecl kind shape absent))
  (varDecl : ∀ {c initializer : Cursor} {value : Node} (kind : c.facts.kind ≠ .unexposedExpr)
    (shape : catalogue.lookup c.facts.kind = .ok .varDecl)
    (link : c.initializer = some initializer) (present : initializer.facts.isNull = false)
    (below : Represents unit catalogue initializer value), motive initializer value below →
      motive c _ (.varDecl kind shape link present below))

include wrapper translationUnit integerLiteral floatingLiteral stringLiteral plainVarDecl varDecl

/-- Induction in which what is shown of a body is shown of each of its nodes. -/
theorem Represents.induct {c : Cursor} {node : Node} (h : Represents unit catalogue c node) :
    motive c node h := by
  cases h with
  | wrapper kind first below =>
      have := Cursor.sizeOf_lt_of_firstMet? first
      have := Cursor.sizeOf_children_lt c
      exact wrapper kind first below (Represents.induct below)
  | translationUnit kind shape each =>
      refine translationUnit kind shape each
        (List.forall₂_iff_get.mpr ⟨each.length_eq, fun i inside within => ?_⟩)
      have := Cursor.sizeOf_lt_of_mem_children (List.get_mem c.children ⟨i, inside⟩)
      exact ⟨each.get inside within, Represents.induct (each.get inside within)⟩
  | integerLiteral kind shape read => exact integerLiteral kind shape read
  | floatingLiteral kind shape => exact floatingLiteral kind shape
  | stringLiteral kind shape => exact stringLiteral kind shape
  | plainVarDecl kind shape absent => exact plainVarDecl kind shape absent
  | varDecl kind shape link present below =>
      have := Cursor.sizeOf_lt_of_initializer link
      exact varDecl kind shape link present below (Represents.induct below)
termination_by sizeOf c

end Induct

/-! ## Lifting gives nodes that represent their cursors -/

mutual

theorem represents_of_lift {c : Cursor} {node : Node}
    (h : ((faultless unit catalogue).lift c).outcome = .ok node) :
    Represents unit catalogue c node := by
  by_cases kind : c.facts.kind = .unexposedExpr
  · rw [lift_outcome_of_wrapper kind] at h
    cases first : Cursor.firstMet? (Cursor.wraps defaultWrappers) c.children with
    | none => simp [first] at h
    | some concrete =>
        have := Cursor.sizeOf_lt_of_firstMet? first
        have := Cursor.sizeOf_children_lt c
        simp only [first] at h
        exact .wrapper kind first (represents_of_lift h)
  · rw [lift_outcome_of_concrete kind] at h
    obtain ⟨shape, found, h⟩ := Outcome.bind_eq_ok.mp h
    rw [liftAs_outcome] at h
    cases shape with
    | translationUnit =>
        obtain ⟨body, each, rfl⟩ := Outcome.map_eq_ok.mp h
        have := Cursor.sizeOf_children_lt c
        exact .translationUnit kind found (represents_of_liftAll each)
    | literal => cases h
    | integerLiteral =>
        obtain ⟨value, read, rfl⟩ := Outcome.map_eq_ok.mp h
        exact .integerLiteral kind found read
    | floatingLiteral =>
        cases h
        exact .floatingLiteral kind found
    | stringLiteral =>
        cases h
        exact .stringLiteral kind found
    | varDecl =>
        cases link : c.properInitializer? with
        | none =>
            simp only [link] at h
            cases h
            exact .plainVarDecl kind found (Cursor.properInitializer?_eq_none.mp link)
        | some d =>
            simp only [link] at h
            obtain ⟨value, below, rfl⟩ := Outcome.map_eq_ok.mp h
            obtain ⟨link, present⟩ := Cursor.properInitializer?_eq_some.mp link
            have := Cursor.sizeOf_lt_of_initializer link
            exact .varDecl kind found link present (represents_of_lift below)
termination_by sizeOf c

theorem represents_of_liftAll {cursors : List Cursor} {nodes : List Node}
    (h : ((faultless unit catalogue).liftAll cursors).outcome = .ok nodes) :
    List.Forall₂ (Represents unit catalogue) cursors nodes := by
  cases cursors with
  | nil =>
      rw [liftAll_nil] at h
      cases h
      exact .nil
  | cons d rest =>
      rw [liftAll_outcome_cons] at h
      obtain ⟨node, head, h⟩ := Outcome.bind_eq_ok.mp h
      obtain ⟨tail, others, rfl⟩ := Outcome.map_eq_ok.mp h
      exact .cons (represents_of_lift head) (represents_of_liftAll others)
termination_by sizeOf cursors

end

/-! ## Every node that represents a cursor is given -/

mutual

theorem lift_of_represents {c : Cursor} {node : Node} (h : Represents unit catalogue c node) :
    ((faultless unit catalogue).lift c).outcome = .ok node := by
  cases h with
  | @wrapper _ concrete _ kind first below =>
      have := Cursor.sizeOf_lt_of_firstMet? first
      have := Cursor.sizeOf_children_lt c
      rw [lift_outcome_of_wrapper kind, first]
      exact lift_of_represents below
  | translationUnit kind shape each =>
      have := Cursor.sizeOf_children_lt c
      rw [lift_outcome_of_concrete kind, shape, Outcome.ok_bind, liftAs_outcome]
      simp only [liftAll_of_represents each, Except.map]
  | integerLiteral kind shape read =>
      rw [lift_outcome_of_concrete kind, shape, Outcome.ok_bind, liftAs_outcome]
      simp only [read, Except.map]
  | floatingLiteral kind shape =>
      rw [lift_outcome_of_concrete kind, shape, Outcome.ok_bind, liftAs_outcome]
  | stringLiteral kind shape =>
      rw [lift_outcome_of_concrete kind, shape, Outcome.ok_bind, liftAs_outcome]
  | plainVarDecl kind shape absent =>
      have absent := Cursor.properInitializer?_eq_none.mpr absent
      rw [lift_outcome_of_concrete kind, shape, Outcome.ok_bind, liftAs_outcome]
      simp only [absent, variableNode]
  | @varDecl _ initializer value kind shape link present below =>
      have := Cursor.sizeOf_lt_of_initializer link
      have proper := Cursor.properInitializer?_eq_some.mpr ⟨link, present⟩
      rw [lift_outcome_of_concrete kind, shape, Outcome.ok_bind, liftAs_outcome]
      simp only [proper, lift_of_represents below, Except.map, Function.comp_apply, variableNode]
termination_by sizeOf c

theorem liftAll_of_represents {cursors : List Cursor} {nodes : List Node}
    (h : List.Forall₂ (Represents unit catalogue) cursors nodes) :
    ((faultless unit catalogue).liftAll cursors).outcome = .ok nodes := by
  cases h with
  | nil =>
      rw [liftAll_nil]
      rfl
  | cons head others =>
      rw [liftAll_outcome_cons, lift_of_represents head, Outcome.ok_bind,
        liftAll_of_represents others]
      rfl
termination_by sizeOf cursors

end

/-- Where nothing fails, lifting gives exactly the nodes that represent the cursor. -/
theorem lift_eq_ok_iff_represents (unit : Option ActiveUnit) (catalogue : Catalogue)
    (c : Cursor) (node : Node) :
    ((faultless unit catalogue).lift c).outcome = .ok node ↔ Represents unit catalogue c node :=
  ⟨represents_of_lift, lift_of_represents⟩

end CursorLift
