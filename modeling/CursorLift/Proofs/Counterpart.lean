import CursorLift.Proofs.Lift

/-! # Lifting in two contexts

What lifting does depends on its context at three points only: the shape of a concrete cursor's
kind, the token of a literal, and what is asked about a variable. So what relates two contexts of
one engine at these points relates whole liftings in them, for every relation between runs that
binding respects.
-/

namespace CursorLift

/-- A relation that a run without calls has with itself and that binding respects. -/
structure Run.Congruence (related : (α : Type) → Run α → Run α → Prop) : Prop where
  refl : ∀ {α : Type} {x : Run α}, x.Silent → related α x x
  bind : ∀ {α β : Type} {x y : Run α} {f g : α → Run β}, related α x y →
    (∀ a, x.outcome = .ok a → related β (f a) (g a)) → related β (x >>= f) (y >>= g)

theorem Cursor.not_isWrapper_of_standIn? {isWrapper : Cursor → Bool} {c concrete : Cursor}
    (h : standIn? isWrapper c = some concrete) : isWrapper concrete = false := by
  rw [standIn?_eq_find?] at h
  simpa using List.find?_some h

namespace Context

theorem ne_unexposedExpr_of_standIn? {engine : Engine} {c concrete : Cursor} {kind : Kind}
    (found : engine.standIn? defaultWrappers c = some concrete)
    (known : engine.kindOf concrete = .ok kind) : kind ≠ .unexposedExpr := by
  obtain ⟨found, -⟩ := Option.filter_eq_some_iff.mp found
  have plain := Cursor.not_isWrapper_of_standIn? found
  simpa [Engine.isWrapper, known, defaultWrappers] using plain

/-- Two contexts of one engine that are related at each point where lifting depends on them. The
shape of wrappers is not one of these. -/
structure Counterparts (related : (α : Type) → Run α → Run α → Prop) (ctx other : Context) :
    Prop where
  engine : other.engine = ctx.engine
  shape : ∀ kind, kind ≠ .unexposedExpr →
    related _ (Run.ofExcept (ctx.catalogue.lookup kind))
      (Run.ofExcept (other.catalogue.lookup kind))
  text : ∀ c, related _ (ctx.tokenText c) (other.tokenText c)
  declaration : ∀ c, related _ (ctx.askVariable c) (other.askVariable c)

section Counterparts

variable {related : (α : Type) → Run α → Run α → Prop} {ctx other : Context}

theorem liftAll_related (congruence : Run.Congruence related) {cursors : List Cursor}
    (each : ∀ d ∈ cursors, related _ (ctx.lift d) (other.lift d)) :
    related _ (ctx.liftAll cursors) (other.liftAll cursors) := by
  induction cursors with
  | nil =>
      rw [liftAll_nil, liftAll_nil]
      exact congruence.refl rfl
  | cons d rest ih =>
      rw [liftAll_cons, liftAll_cons]
      apply congruence.bind (each d List.mem_cons_self)
      intro node _
      apply congruence.bind (ih fun e member => each e (List.mem_cons_of_mem d member))
      intro nodes _
      exact congruence.refl rfl

theorem liftLeaf_related (congruence : Run.Congruence related) {c : Cursor}
    (text : related _ (ctx.tokenText c) (other.tokenText c)) {read : String → Run Node}
    (silent : ∀ text, (read text).Silent) :
    related _ (ctx.liftLeaf c read) (other.liftLeaf c read) := by
  apply congruence.bind text
  intro text _
  exact congruence.refl (silent text)

theorem liftAs_related (congruence : Run.Congruence related)
    (counterparts : Counterparts related ctx other) {c : Cursor}
    (children : ∀ d ∈ c.children, related _ (ctx.lift d) (other.lift d))
    (initializer : ∀ d, ctx.engine.initializerOf? c = some d →
      related _ (ctx.lift d) (other.lift d))
    (shape : Shape) : related _ (ctx.liftAs c shape) (other.liftAs c shape) := by
  have text := counterparts.text c
  cases shape with
  | translationUnit =>
      apply congruence.bind (liftAll_related congruence children)
      intro body _
      exact congruence.refl rfl
  | literal => exact liftLeaf_related congruence text fun _ => rfl
  | integerLiteral => exact liftLeaf_related congruence text (integerNode_silent c)
  | floatingLiteral => exact liftLeaf_related congruence text (floatingNode_silent c)
  | stringLiteral => exact liftLeaf_related congruence text fun _ => rfl
  | varDecl =>
      apply congruence.bind (counterparts.declaration c)
      intro _ _
      simp only [counterparts.engine]
      cases found : ctx.engine.initializerOf? c with
      | none => exact congruence.refl rfl
      | some d =>
          apply congruence.bind (initializer d found)
          intro value _
          exact congruence.refl rfl

/-- Lifting is related in contexts that are related where it depends on them. -/
theorem lift_related (congruence : Run.Congruence related)
    (counterparts : Counterparts related ctx other) (c : Cursor) :
    related _ (ctx.lift c) (other.lift c) := by
  have engine := counterparts.engine
  have approached : other.approach defaultWrappers c = ctx.approach defaultWrappers c := by
    rw [approach, approach, engine]
  rw [lift, lift, liftThrough_eq, liftThrough_eq, approached, engine]
  apply congruence.bind (congruence.refl (approach_silent defaultWrappers c))
  intro kind _
  cases found : ctx.engine.standIn? defaultWrappers c with
  | none => exact congruence.refl rfl
  | some concrete =>
      dsimp only
      -- The stand-in may be the cursor itself; sizes go down only below it.
      have size := Engine.sizeOf_le_of_standIn? found
      rw [liftConcrete_eq, liftConcrete_eq]
      have shaped : related _ (ctx.shapeOf concrete) (other.shapeOf concrete) := by
        rw [shapeOf, shapeOf, engine]
        apply congruence.bind (congruence.refl (kind_silent ctx.engine concrete))
        intro kind asked
        apply congruence.bind (counterparts.shape kind _)
        · intro shape _
          exact congruence.refl rfl
        · exact ne_unexposedExpr_of_standIn? found (kind_eq_ok.mp asked).2
      apply congruence.bind shaped
      intro shape _
      apply liftAs_related congruence counterparts
      · intro d member
        have := Cursor.sizeOf_lt_of_mem_children member
        exact lift_related congruence counterparts d
      · intro d link
        have := Engine.sizeOf_lt_of_initializerOf? link
        exact lift_related congruence counterparts d
termination_by sizeOf c

end Counterparts

end Context

end CursorLift
