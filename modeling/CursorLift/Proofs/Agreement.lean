import CursorLift.Proofs.Lift
import Mathlib.Data.List.Forall2

/-! # Cursors that lift alike

Two cursors that say the same of themselves lift alike when what is below them does. Nodes
are compared without the cursors that theirs lead to, since these may differ; events are
compared as far as they are kept.
-/

namespace CursorLift

open Run (Agree)
open Context

namespace Cursor

/-- A cursor cut off from all others. -/
def bare (c : Cursor) : Cursor := { facts := c.facts }

end Cursor

namespace Node

mutual

/-- A tree whose nodes keep no more of their cursors than what these say of themselves. -/
def bare : Node → Node
  | .translationUnit cursor body => .translationUnit cursor.bare (bareAll body)
  | .integerLiteral cursor value => .integerLiteral cursor.bare value
  | .floatingLiteral cursor value => .floatingLiteral cursor.bare value
  | .varDecl cursor name typeName none => .varDecl cursor.bare name typeName none
  | .varDecl cursor name typeName (some value) =>
    .varDecl cursor.bare name typeName (some value.bare)
  | .stringLiteral cursor text => .stringLiteral cursor.bare text

def bareAll : List Node → List Node
  | [] => []
  | node :: rest => node.bare :: bareAll rest

end

end Node

/-- Two trees that are the same but for the cursors that theirs lead to. -/
def Node.SameBare (m n : Node) : Prop := m.bare = n.bare

namespace Context

variable {keep : Event → Bool} {unit : Option ActiveUnit} {catalogue : Catalogue} {c d : Cursor}

/-- Two cursors that agree on how they are lifted. -/
def LiftAlike (keep : Event → Bool) (unit : Option ActiveUnit) (catalogue : Catalogue)
    (c d : Cursor) : Prop :=
  Agree keep Node.SameBare ((faultless unit catalogue).lift c) ((faultless unit catalogue).lift d)

theorem LiftAlike.refl (c : Cursor) : LiftAlike keep unit catalogue c c :=
  (Agree.refl _).mono fun _ _ same => congrArg Node.bare same

theorem tokenText_congr (facts : d.facts = c.facts) :
    (faultless unit catalogue).tokenText d = (faultless unit catalogue).tokenText c := by
  rw [tokenText_faultless, tokenText_faultless]
  simp only [lookups, leadingText, Engine.tokenOf?, facts]

theorem liftLeaf_agree (facts : d.facts = c.facts) {read other : String → Run Node}
    (each : ∀ text, Agree keep Node.SameBare (read text) (other text)) :
    Agree keep Node.SameBare ((faultless unit catalogue).liftLeaf c read)
      ((faultless unit catalogue).liftLeaf d other) := by
  rw [liftLeaf, liftLeaf, tokenText_congr facts]
  exact Agree.after _ each

theorem integerNode_agree (facts : d.facts = c.facts) (text : String) :
    Agree keep Node.SameBare (integerNode c text) (integerNode d text) := by
  refine Agree.after _ ?_
  intro value
  refine .pure ?_
  simp only [Node.SameBare, Node.bare, Cursor.bare, facts]

theorem floatingNode_agree (facts : d.facts = c.facts) (text : String) :
    Agree keep Node.SameBare (floatingNode c text) (floatingNode d text) := by
  refine Agree.after _ fun _ => .pure ?_
  simp only [Node.SameBare, Node.bare, Cursor.bare, facts]

theorem liftAll_agree {cursors others : List Cursor}
    (each : List.Forall₂ (LiftAlike keep unit catalogue) cursors others) :
    Agree keep (fun body other => Node.bareAll body = Node.bareAll other)
      ((faultless unit catalogue).liftAll cursors) ((faultless unit catalogue).liftAll others) := by
  induction each with
  | nil =>
      rw [liftAll_nil]
      exact .pure rfl
  | cons head _ ih =>
      rw [liftAll_cons, liftAll_cons]
      refine head.bind ?_
      intro m n same
      refine ih.bind ?_
      intro body other rest
      refine .pure ?_
      rw [Node.bareAll, Node.bareAll, same, rest]

theorem liftAs_agree (facts : d.facts = c.facts)
    (children : List.Forall₂ (LiftAlike keep unit catalogue) c.children d.children)
    (initializer : Option.Rel (LiftAlike keep unit catalogue) c.properInitializer?
      d.properInitializer?)
    (shape : Shape) :
    Agree keep Node.SameBare ((faultless unit catalogue).liftAs c shape)
      ((faultless unit catalogue).liftAs d shape) := by
  cases shape with
  | translationUnit =>
      refine (liftAll_agree children).bind ?_
      intro body other same
      refine .pure ?_
      simp only [Node.SameBare, Node.bare, Cursor.bare, facts, same]
  | literal => exact liftLeaf_agree facts fun _ => .fail _
  | integerLiteral => exact liftLeaf_agree facts (integerNode_agree facts)
  | floatingLiteral => exact liftLeaf_agree facts (floatingNode_agree facts)
  | stringLiteral =>
      refine liftLeaf_agree facts ?_
      intro text
      refine .pure ?_
      simp only [Node.SameBare, Node.bare, Cursor.bare, facts]
  | varDecl =>
      simp only [liftAs, askVariable_faultless, pure_bind, initializerOf?_faultless]
      generalize c.properInitializer? = value, d.properInitializer? = other at initializer ⊢
      cases initializer with
      | none =>
          refine .pure ?_
          simp only [Node.SameBare, Node.bare, variableNode, Cursor.bare, facts]
      | some alike =>
          refine Agree.bind alike ?_
          intro m n same
          have same : m.bare = n.bare := same
          refine .pure ?_
          simp only [Node.SameBare, Node.bare, variableNode, Cursor.bare, facts, same]

/-- Two concrete cursors lift alike when they say the same and what they lead to lifts alike. -/
theorem liftAlike_of_concrete (concrete : c.wraps defaultWrappers = false)
    (facts : d.facts = c.facts)
    (children : List.Forall₂ (LiftAlike keep unit catalogue) c.children d.children)
    (initializer : Option.Rel (LiftAlike keep unit catalogue) c.properInitializer?
      d.properInitializer?) :
    LiftAlike keep unit catalogue c d := by
  have other := (Cursor.wraps_congr facts defaultWrappers).trans concrete
  rw [LiftAlike, lift_of_concrete concrete, lift_of_concrete other, facts]
  apply Agree.after
  intro shape
  apply Agree.after
  intro _
  exact liftAs_agree facts children initializer shape

end Context

end CursorLift
