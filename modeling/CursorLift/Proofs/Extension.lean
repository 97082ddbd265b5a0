import CursorLift.Proofs.Counterpart
import CursorLift.Proofs.History
import CursorLift.Proofs.Interchange
import CursorLift.Proofs.Representation

/-! # Larger catalogues

Lifting meets its catalogue at one point only, where the shape of a concrete cursor's kind is
looked up. So what relates the lookups in two catalogues relates whole liftings by them, for every
relation that binding respects. Two such relations are equality, and doing the same on success.
-/

namespace CursorLift

namespace Run

/-- A relation that every run has with itself and that binding respects. -/
structure Respected (related : (α : Type) → Run α → Run α → Prop) : Prop where
  refl : ∀ {α : Type} (x : Run α), related α x x
  bind : ∀ {α β : Type} {x y : Run α} {f g : α → Run β}, related α x y →
    (∀ a, x.outcome = .ok a → related β (f a) (g a)) → related β (x >>= f) (y >>= g)

theorem Respected.congruence {related : (α : Type) → Run α → Run α → Prop}
    (h : Respected related) : Congruence related :=
  ⟨fun _ => h.refl _, h.bind⟩

/-- Whether a run does the same as another one if that one succeeds. -/
def Repeats (α : Type) (x y : Run α) : Prop := ∀ a, x.outcome = .ok a → y = x

theorem respected_eq : Respected fun (α : Type) (x y : Run α) => y = x := by
  refine ⟨fun _ => rfl, ?_⟩
  intro α β x y f g same each
  subst same
  exact bind_congr each

theorem respected_repeats : Respected Repeats := by
  refine ⟨fun _ _ _ => rfl, ?_⟩
  intro α β x y f g first second b ended
  rw [bind_outcome] at ended
  obtain ⟨a, given, reached⟩ := Outcome.bind_eq_ok.mp ended
  obtain rfl := first a given
  rw [bind_of_ok given, bind_of_ok given, second a given b reached]

end Run

namespace Catalogue

/-- Whether a catalogue has every shape that another one has. -/
def Extends (larger smaller : Catalogue) : Prop :=
  ∀ kind shape, smaller.lookup kind = .ok shape → larger.lookup kind = .ok shape

theorem Extends.repeats {larger smaller : Catalogue} (h : larger.Extends smaller) (kind : Kind) :
    Run.Repeats Shape (Run.ofExcept (smaller.lookup kind)) (Run.ofExcept (larger.lookup kind)) := by
  intro shape known
  rw [h kind shape known, ← known]
  rfl

theorem lookup_put_of_ne {catalogue : Catalogue} {kind other : Kind} {shape : Option Shape}
    (ne : other ≠ kind) : (catalogue.put kind shape).lookup other = catalogue.lookup other := by
  rw [lookup, lookup, lookup_entries_put, if_neg ne]

theorem lookup_perform_register_of_ne {catalogue : Catalogue} {request : Registration} {kind : Kind}
    (ne : kind ≠ request.kind) :
    ((CatalogueStep.register request).perform catalogue).1.lookup kind = catalogue.lookup kind := by
  rw [perform_register]
  cases answer : catalogue.register request with
  | ok next =>
      obtain rfl := eq_put_of_register answer
      exact lookup_put_of_ne ne
  | error failure => rfl

end Catalogue

/-- Whatever relates what two catalogues say of every kind but that of wrappers relates what
lifting by them does. -/
theorem Session.lift_related {related : (α : Type) → Run α → Run α → Prop}
    (respected : Run.Respected related) (s : Session) {other : Catalogue}
    (lookups : ∀ kind, kind ≠ .unexposedExpr →
      related _ (Run.ofExcept (s.catalogue.lookup kind)) (Run.ofExcept (other.lookup kind)))
    (c : Cursor) :
    related _ (s.context.lift c) ({ s with catalogue := other }.context.lift c) := by
  have counterparts : Context.Counterparts related s.context
      { s with catalogue := other }.context :=
    ⟨rfl, lookups, fun _ => respected.refl _, fun _ => respected.refl _⟩
  exact Context.lift_related respected.congruence counterparts c

/-- What a session lifts, it lifts as well with every larger catalogue, to the same node with the
same calls and notices. What is registered for wrappers has no part in lifting at all. -/
theorem lift_by_larger_catalogue :
    (∀ (s : Session) (other : Catalogue), other.Extends s.catalogue →
      ∀ (c : Cursor) (node : Node), (s.context.lift c).outcome = .ok node →
        { s with catalogue := other }.context.lift c = s.context.lift c) ∧
    ∀ (bench : Bench) (request : Registration), request.kind = .unexposedExpr →
      ∀ c : Cursor,
        ((bench.perform (.catalogue (.register request))).1.perform (.lift c none)).2 =
          (bench.perform (.lift c none)).2 := by
  constructor
  · intro s other larger c node lifted
    exact s.lift_related Run.respected_repeats (fun kind _ => larger.repeats kind) c node lifted
  · intro bench request wrapper c
    let other := ((CatalogueStep.register request).perform bench.session.catalogue).1
    have same : { bench.session with catalogue := other }.context.lift c =
        bench.session.context.lift c := by
      apply bench.session.lift_related Run.respected_eq
      intro kind plain
      rw [← wrapper] at plain
      rw [Catalogue.lookup_perform_register_of_ne plain]
    show (Bench.keep _ _ ({ bench.session with catalogue := other }.context.lift c)).2 =
      (Bench.keep _ _ (bench.session.context.lift c)).2
    rw [same]
    simp only [Bench.keep]
    cases (bench.session.context.lift c).outcome <;> rfl

theorem lift_by_larger_catalogue_through_wrapper :
    let number : Cursor := { facts := { kind := .integerLiteral, token := some "42u" } }
    let c : Cursor := { facts := { kind := .unexposedExpr }, children := [number] }
    let other : Catalogue := ⟨[(.word "x", some .literal), (.integerLiteral, some .integerLiteral),
      (.unexposedExpr, some .varDecl)]⟩
    let request : Registration :=
      { kind := .unexposedExpr, shape := some .literal, replace := true }
    ∃ s, (Session.create ⟨.memory [], []⟩ {} (Catalogue.registerAll {}
        [⟨.integerLiteral, some .integerLiteral, false⟩])).outcome = .ok s ∧
      (s.context.lift c).outcome = .ok (.integerLiteral number (.integer 42)) ∧
      { s with catalogue := other }.context.lift c = s.context.lift c ∧
      ∀ latest, (((⟨s, latest⟩ : Bench).perform (.catalogue (.register request))).1.perform
        (.lift c none)).2 = ((⟨s, latest⟩ : Bench).perform (.lift c none)).2 := by
  intro number c other request
  refine ⟨_, rfl, ?_⟩
  let smaller : Catalogue := ⟨[(.integerLiteral, some .integerLiteral)]⟩
  have lifted : ((Context.faultless none smaller).lift c).outcome =
      .ok (.integerLiteral number (.integer 42)) := by
    apply lift_of_represents
    refine .wrapper rfl ?_ (.integerLiteral (by decide) rfl ?_)
    · rfl
    · decide
  refine ⟨lifted, ?_, ?_⟩
  · refine lift_by_larger_catalogue.1 _ other ?_ c _ lifted
    intro kind shape known
    have held := Catalogue.mem_of_lookup known
    obtain ⟨rfl, rfl⟩ : kind = .integerLiteral ∧ shape = .integerLiteral := by
      simpa [Catalogue.put, Catalogue.holds] using held
    rfl
  · intro latest
    exact lift_by_larger_catalogue.2 _ request rfl c

end CursorLift
