import CursorLift.Proofs.Surroundings

/-! # The first failure ends lifting

Lifting comes to cursors depth first, and some cursors have a fault of their own. It fails
exactly when it comes to one with a fault, and then as the first of them says. What stands
after that one among its siblings is never looked at.
-/

namespace CursorLift

open Context

/-! ## The order of lifting -/

namespace Cursor

/-- The cursors that lifting one goes on to: what a wrapper hides, the children of
a translation unit, the initializer of a variable. -/
def leadsTo (catalogue : Catalogue) (c : Cursor) : List Cursor :=
  if c.wraps defaultWrappers then c.hidden?.toList
  else match catalogue.lookup c.facts.kind with
    | .ok .translationUnit => c.children
    | .ok .varDecl => c.properInitializer?.toList
    | _ => []

theorem sizeOf_lt_of_mem_leadsTo {catalogue : Catalogue} {c d : Cursor}
    (h : d ∈ c.leadsTo catalogue) : sizeOf d < sizeOf c := by
  unfold leadsTo at h
  split at h
  · exact sizeOf_lt_of_hidden? (Option.mem_toList.mp h)
  · split at h
    · exact sizeOf_lt_of_mem_children h
    · exact sizeOf_lt_of_initializer (properInitializer?_eq_some.mp (Option.mem_toList.mp h)).1
    · cases h

/-- All cursors that lifting one comes to unless it fails before, depth first. -/
def liftOrder (catalogue : Catalogue) (c : Cursor) : List Cursor :=
  c :: (c.leadsTo catalogue).attach.flatMap fun ⟨d, _member⟩ => d.liftOrder catalogue
termination_by sizeOf c
decreasing_by exact sizeOf_lt_of_mem_leadsTo _member

variable {catalogue : Catalogue} {c : Cursor}

theorem liftOrder_eq :
    c.liftOrder catalogue = c :: (c.leadsTo catalogue).flatMap (liftOrder catalogue) := by
  rw [liftOrder]
  simp [List.flatMap]

theorem leadsTo_of_wrapper (kind : c.facts.kind = .unexposedExpr) :
    c.leadsTo catalogue = (firstMet? (wraps defaultWrappers) c.children).toList := by
  rw [leadsTo, hidden?, if_pos (wraps_defaultWrappers.mpr kind),
    if_pos (wraps_defaultWrappers.mpr kind)]

theorem leadsTo_of_concrete (kind : c.facts.kind ≠ .unexposedExpr) :
    c.leadsTo catalogue =
      match catalogue.lookup c.facts.kind with
      | .ok .translationUnit => c.children
      | .ok .varDecl => c.properInitializer?.toList
      | _ => [] := by
  rw [leadsTo, if_neg (by simp [wraps_eq_false kind])]

theorem mem_liftOrder_trans {root p : Cursor} (reached : c ∈ root.liftOrder catalogue)
    (further : p ∈ c.liftOrder catalogue) : p ∈ root.liftOrder catalogue := by
  rw [liftOrder_eq] at reached
  cases reached with
  | head => exact further
  | tail _ below =>
      obtain ⟨d, member, below⟩ := List.mem_flatMap.mp below
      have := sizeOf_lt_of_mem_leadsTo member
      rw [liftOrder_eq]
      apply List.mem_cons_of_mem
      exact List.mem_flatMap.mpr ⟨d, member, mem_liftOrder_trans below further⟩
termination_by sizeOf root

end Cursor

/-! ## Faults -/

/-- What is wrong with a cursor by itself, and the words for it. -/
inductive Fault (unit : Option ActiveUnit) (catalogue : Catalogue) :
    Cursor → Failure → String → Prop where
  | unhandledKind {c : Cursor}
      (kind : c.facts.kind ≠ .unexposedExpr)
      (unknown : ∀ shape, catalogue.lookup c.facts.kind ≠ .ok shape) :
      Fault unit catalogue c (.unhandledKind c.facts.kind)
        ("Cursor kind not implemented: " ++ c.facts.kind.named)
  | barrenWrapper {c : Cursor}
      (kind : c.facts.kind = .unexposedExpr)
      (barren : ∀ d ∈ Cursor.walkAll (Cursor.wraps defaultWrappers) c.children,
        d.facts.kind = .unexposedExpr) :
      Fault unit catalogue c (.barrenWrapper .unexposedExpr)
        "Unknown expression: no concrete cursor under CursorKind.UNEXPOSED_EXPR"
  | tooManyDigits {c : Cursor} {numeral : Literal.Integer}
      (kind : c.facts.kind ≠ .unexposedExpr)
      (shape : catalogue.lookup c.facts.kind = .ok .integerLiteral)
      (written : Literal.Integer.scan? (Text.dropBlanks (leadingText unit c).toList) = some numeral)
      (long : 4300 < numeral.digits.length) :
      Fault unit catalogue c (.tooManyDigits numeral.digits.length)
        ("Exceeds the limit (4300 digits) for integer string conversion: value has "
          ++ Text.decimal numeral.digits.length
          ++ " digits; use sys.set_int_max_str_digits() to increase the limit")
  | formless {c : Cursor}
      (kind : c.facts.kind ≠ .unexposedExpr)
      (shape : catalogue.lookup c.facts.kind = .ok .literal) :
      Fault unit catalogue c (.unknownForm "") "''"

theorem Catalogue.lookup_eq_error {catalogue : Catalogue} {kind : Kind} {failure : Failure}
    (h : catalogue.lookup kind = .error failure) : failure = .unhandledKind kind := by
  unfold lookup at h
  split at h
  · cases h
  · cases h
    rfl

theorem Literal.readInteger_eq_error {text : String} {failure : Failure} :
    Literal.readInteger text = .error failure ↔
      ∃ numeral, Literal.Integer.scan? (Text.dropBlanks text.toList) = some numeral ∧
        4300 < numeral.digits.length ∧ failure = .tooManyDigits numeral.digits.length := by
  unfold Literal.readInteger
  cases Literal.Integer.scan? (Text.dropBlanks text.toList) with
  | none => simp
  | some numeral =>
      dsimp only
      split
      · next short =>
          refine ⟨nofun, ?_⟩
          rintro ⟨_, same, long, -⟩
          cases same
          exact absurd long (Nat.not_lt.mpr short)
      · next long =>
          constructor
          · intro h
            cases h
            exact ⟨numeral, rfl, Nat.not_le.mp long, rfl⟩
          · rintro ⟨_, same, -, rfl⟩
            cases same
            rfl

open Outcome (failure?)

variable {unit : Option ActiveUnit} {catalogue : Catalogue}

namespace Cursor

/-- The failure that a cursor by itself makes of lifting. -/
def fault? (unit : Option ActiveUnit) (catalogue : Catalogue) (c : Cursor) : Option Failure :=
  if c.facts.kind = .unexposedExpr then
    match firstMet? (wraps defaultWrappers) c.children with
    | none => some (.barrenWrapper .unexposedExpr)
    | some _ => none
  else match catalogue.lookup c.facts.kind with
    | .error failure => some failure
    | .ok .literal => some (.unknownForm "")
    | .ok .integerLiteral => failure? (Literal.readInteger (leadingText unit c))
    | .ok _ => none

variable {c : Cursor}

theorem firstMet?_eq_none {cursors : List Cursor} :
    firstMet? (wraps defaultWrappers) cursors = none ↔
      ∀ d ∈ walkAll (wraps defaultWrappers) cursors, d.facts.kind = .unexposedExpr := by
  simp [firstMet?, wraps_defaultWrappers]

theorem fault_of_fault? {failure : Failure} (h : c.fault? unit catalogue = some failure) :
    Fault unit catalogue c failure failure.message := by
  unfold fault? at h
  split at h
  · next kind =>
      split at h
      · next barren =>
          cases h
          exact .barrenWrapper kind (firstMet?_eq_none.mp barren)
      · cases h
  · next kind =>
      split at h
      · next unknown =>
          cases h
          rw [Catalogue.lookup_eq_error unknown]
          exact .unhandledKind kind fun shape known => by simp [known] at unknown
      · next shape =>
          cases h
          exact .formless kind shape
      · next shape =>
          obtain ⟨numeral, written, long, rfl⟩ :=
            Literal.readInteger_eq_error.mp (Outcome.failure?_eq_some.mp h)
          exact .tooManyDigits kind shape written long
      · cases h

theorem fault?_of_fault {failure : Failure} {message : String}
    (h : Fault unit catalogue c failure message) : c.fault? unit catalogue = some failure := by
  unfold fault?
  cases h with
  | unhandledKind kind unknown =>
      rw [if_neg kind]
      cases shape : catalogue.lookup c.facts.kind with
      | ok shape' => exact absurd shape (unknown shape')
      | error failure => rw [Catalogue.lookup_eq_error shape]
  | barrenWrapper kind barren => rw [if_pos kind, firstMet?_eq_none.mpr barren]
  | tooManyDigits kind shape written long =>
      rw [if_neg kind, shape]
      have tooLong := Literal.readInteger_eq_error.mpr ⟨_, written, long, rfl⟩
      exact Outcome.failure?_eq_some.mpr tooLong
  | formless kind shape => rw [if_neg kind, shape]

end Cursor

/-! ## Lifting fails as the first fault says -/

theorem failure?_liftAll {cursors : List Cursor}
    (each : ∀ d ∈ cursors, failure? ((faultless unit catalogue).lift d).outcome =
      (d.liftOrder catalogue).findSome? (Cursor.fault? unit catalogue)) :
    failure? ((faultless unit catalogue).liftAll cursors).outcome =
      (cursors.flatMap (Cursor.liftOrder catalogue)).findSome? (Cursor.fault? unit catalogue) := by
  induction cursors with
  | nil =>
      rw [liftAll_nil]
      rfl
  | cons d rest ih =>
      rw [liftAll_outcome_cons, List.flatMap_cons, List.findSome?_append,
        ← each d List.mem_cons_self, ← ih fun e member => each e (List.mem_cons_of_mem d member)]
      cases ((faultless unit catalogue).lift d).outcome with
      | error failure => rfl
      | ok node => exact Outcome.failure?_map _ _

/-- Lifting fails with what the first cursor in its order that has a fault says. -/
theorem failure?_lift (c : Cursor) :
    failure? ((faultless unit catalogue).lift c).outcome =
      (c.liftOrder catalogue).findSome? (Cursor.fault? unit catalogue) := by
  -- The cursor itself comes first; having a fault, it leads nowhere.
  rw [Cursor.liftOrder_eq, List.findSome?_cons]
  by_cases kind : c.facts.kind = .unexposedExpr
  · rw [lift_outcome_of_wrapper kind, Cursor.leadsTo_of_wrapper kind, Cursor.fault?, if_pos kind]
    cases first : Cursor.firstMet? (Cursor.wraps defaultWrappers) c.children with
    | none => rfl
    | some concrete =>
        have := Cursor.sizeOf_lt_of_firstMet? first
        have := Cursor.sizeOf_children_lt c
        simpa using failure?_lift concrete
  · rw [lift_outcome_of_concrete kind, Cursor.leadsTo_of_concrete kind, Cursor.fault?, if_neg kind]
    cases catalogue.lookup c.facts.kind with
    | error failure => rfl
    | ok shape =>
        rw [Outcome.ok_bind, liftAs_outcome]
        cases shape with
        | translationUnit =>
            rw [Outcome.failure?_map]
            refine failure?_liftAll fun d member => ?_
            have := Cursor.sizeOf_lt_of_mem_children member
            exact failure?_lift d
        | literal => rfl
        | integerLiteral =>
            rw [Outcome.failure?_map]
            cases Literal.readInteger (leadingText unit c) <;> rfl
        | floatingLiteral => rfl
        | stringLiteral => rfl
        | varDecl =>
            cases link : c.properInitializer? with
            | none => rfl
            | some d =>
                have link := (Cursor.properInitializer?_eq_some.mp link).1
                have := Cursor.sizeOf_lt_of_initializer link
                simpa [Outcome.failure?_map] using failure?_lift d
termination_by sizeOf c

theorem lift_eq_error_iff {c : Cursor} {failure : Failure} :
    ((faultless unit catalogue).lift c).outcome = .error failure ↔
      ∃ before p after, c.liftOrder catalogue = before ++ p :: after ∧
        (∀ q ∈ before, ∀ other message, ¬ Fault unit catalogue q other message) ∧
        Fault unit catalogue p failure failure.message := by
  rw [← Outcome.failure?_eq_some, failure?_lift, List.findSome?_eq_some_iff]
  constructor
  · rintro ⟨before, p, after, order, fault, sound⟩
    refine ⟨before, p, after, order, ?_, Cursor.fault_of_fault? fault⟩
    intro q member other message wrong
    have wrong := Cursor.fault?_of_fault wrong
    rw [sound q member] at wrong
    cases wrong
  · rintro ⟨before, p, after, order, sound, fault⟩
    refine ⟨before, p, after, order, Cursor.fault?_of_fault fault, ?_⟩
    intro q member
    cases wrong : q.fault? unit catalogue with
    | none => rfl
    | some other => exact absurd (Cursor.fault_of_fault? wrong) (sound q member _ _)

theorem lift_fails_of_mem_liftOrder {root c : Cursor} {failure : Failure}
    (reached : c ∈ root.liftOrder catalogue)
    (fails : ((faultless unit catalogue).lift c).outcome = .error failure) :
    ∃ earlier, ((faultless unit catalogue).lift root).outcome = .error earlier := by
  obtain ⟨before, p, after, order, -, fault⟩ := lift_eq_error_iff.mp fails
  have further : p ∈ c.liftOrder catalogue := by simp [order]
  have member := Cursor.mem_liftOrder_trans reached further
  have found : ((root.liftOrder catalogue).findSome? (Cursor.fault? unit catalogue)).isSome := by
    rw [List.findSome?_isSome_iff]
    exact ⟨p, member, by rw [Cursor.fault?_of_fault fault]; rfl⟩
  obtain ⟨earlier, found⟩ := Option.isSome_iff_exists.mp found
  rw [← failure?_lift] at found
  exact ⟨earlier, Outcome.failure?_eq_some.mp found⟩

/-! ## What stands after the first failure -/

namespace Cursor

def withChildren (c : Cursor) (children : List Cursor) : Cursor := { c with children := children }

@[simp] theorem withChildren_children (c : Cursor) (children : List Cursor) :
    (c.withChildren children).children = children := rfl

@[simp] theorem withChildren_facts (c : Cursor) (children : List Cursor) :
    (c.withChildren children).facts = c.facts := rfl

end Cursor

/-- A translation unit with some children that are lifted and a next one that fails, whatever
children come after it. -/
structure FailsAt (unit : Option ActiveUnit) (catalogue : Catalogue) (c : Cursor)
    (xs : List Cursor) (b : Cursor) (failure : Failure) : Prop where
  kind : c.facts.kind ≠ .unexposedExpr
  shape : catalogue.lookup c.facts.kind = .ok .translationUnit
  early : ∀ x ∈ xs, ∃ node, ((faultless unit catalogue).lift x).outcome = .ok node
  fails : ((faultless unit catalogue).lift b).outcome = .error failure

namespace FailsAt

variable {c b : Cursor} {xs : List Cursor} {failure : Failure}

theorem liftAll_append (h : FailsAt unit catalogue c xs b failure) (ys : List Cursor) :
    (faultless unit catalogue).liftAll (xs ++ b :: ys) =
      (faultless unit catalogue).liftAll (xs ++ [b]) := by
  obtain ⟨-, -, -, fails⟩ := h
  induction xs with
  | nil =>
      rw [List.nil_append, List.nil_append, liftAll_cons, liftAll_cons, Run.bind_of_error fails,
        Run.bind_of_error fails]
  | cons x rest ih => rw [List.cons_append, List.cons_append, liftAll_cons, liftAll_cons, ih]

theorem liftAll_outcome (h : FailsAt unit catalogue c xs b failure) (ys : List Cursor) :
    ((faultless unit catalogue).liftAll (xs ++ b :: ys)).outcome = .error failure := by
  obtain ⟨-, -, early, fails⟩ := h
  induction xs with
  | nil =>
      rw [List.nil_append, liftAll_outcome_cons, fails]
      rfl
  | cons x rest ih =>
      obtain ⟨node, lifted⟩ := early x List.mem_cons_self
      rw [List.cons_append, liftAll_outcome_cons, lifted, Outcome.ok_bind,
        ih fun y member => early y (List.mem_cons_of_mem x member)]
      rfl

/-- The translation unit fails as that child does, and shows nothing of those after it. -/
theorem lift_eq (h : FailsAt unit catalogue c xs b failure) (ys : List Cursor) :
    (faultless unit catalogue).lift (c.withChildren (xs ++ b :: ys)) =
      ⟨.notice (.building c.facts.kind) :: ((faultless unit catalogue).liftAll (xs ++ [b])).trace,
        .error failure⟩ := by
  have concrete : (c.withChildren (xs ++ b :: ys)).wraps defaultWrappers = false :=
    Cursor.wraps_eq_false h.kind
  rw [lift_of_concrete concrete, Cursor.withChildren_facts, h.shape, Run.ofExcept_ok, pure_bind,
    liftAs, Cursor.withChildren_children, Run.bind_of_error (h.liftAll_outcome ys),
    h.liftAll_append]
  rfl

theorem exchangeable (h : FailsAt unit catalogue c xs b failure) (keep : Event → Bool)
    (ys ys' : List Cursor) :
    Exchangeable keep unit catalogue (c.withChildren (xs ++ b :: ys))
      (c.withChildren (xs ++ b :: ys')) := by
  refine .of_concrete (Cursor.wraps_eq_false h.kind) rfl ?_
  rw [LiftAlike, h.lift_eq, h.lift_eq]
  exact ⟨rfl, .error failure⟩

end FailsAt

/-- Lifting fails exactly when a cursor in its order has a fault, and as the first of them
says. The children of a translation unit after the first one to fail have no part in the run,
whatever surrounds the translation unit; a cursor from which lifting comes to it gives no node. -/
theorem lift_fails_at_first_fault (unit : Option ActiveUnit) (catalogue : Catalogue) :
    (∀ (c : Cursor) (failure : Failure),
      ((faultless unit catalogue).lift c).outcome = .error failure ↔
        ∃ before p after, c.liftOrder catalogue = before ++ p :: after ∧
          (∀ q ∈ before, ∀ other message, ¬ Fault unit catalogue q other message) ∧
          Fault unit catalogue p failure failure.message) ∧
      ∀ (c : Cursor) (xs : List Cursor) (b : Cursor) (failure : Failure),
        FailsAt unit catalogue c xs b failure → ∀ ys ys' : List Cursor,
          ((faultless unit catalogue).lift (c.withChildren (xs ++ b :: ys))).outcome =
              .error failure ∧
            (∀ surroundings : List Frame,
              let before := (c.withChildren (xs ++ b :: ys)).within surroundings
              let after := (c.withChildren (xs ++ b :: ys')).within surroundings
              ((faultless unit catalogue).lift after).trace =
                  ((faultless unit catalogue).lift before).trace ∧
                ∀ other, ((faultless unit catalogue).lift after).outcome = .error other ↔
                  ((faultless unit catalogue).lift before).outcome = .error other) ∧
            ∀ root : Cursor, c.withChildren (xs ++ b :: ys) ∈ root.liftOrder catalogue →
              ∃ earlier, ((faultless unit catalogue).lift root).outcome = .error earlier := by
  refine ⟨fun c failure => lift_eq_error_iff, ?_⟩
  intro c xs b failure h ys ys'
  have stops := congrArg Run.outcome (h.lift_eq ys)
  refine ⟨stops, ?_, fun root reached => lift_fails_of_mem_liftOrder reached stops⟩
  intro surroundings
  have same := h.exchangeable (fun _ => true) ys ys'
  obtain ⟨events, ends⟩ := (same.within surroundings).liftAlike
  exact ⟨by simpa using events.symm, fun other => ends.error_iff.symm⟩

theorem lift_fails_at_unknown_child :
    let ctx := faultless none ⟨[(.translationUnit, some .translationUnit),
      (.word "text", some .stringLiteral)]⟩
    let c : Cursor := { facts := { kind := .translationUnit } }
    let text : Cursor := { facts := { kind := .word "text", token := some "a" } }
    let unknown : Cursor := { facts := { kind := .word "?" } }
    let before := (c.withChildren [text, unknown]).within [.child c [] []]
    let after := (c.withChildren [text, unknown, unknown]).within [.child c [] []]
    (ctx.lift (c.withChildren [text, unknown])).outcome =
        .error (.unhandledKind (.word "?")) ∧
      (ctx.lift after).trace = (ctx.lift before).trace := by
  intro ctx c text unknown before after
  have h : FailsAt none ctx.catalogue c [text] unknown (.unhandledKind (.word "?")) := by
    refine ⟨by decide, rfl, ?_, ?_⟩
    · simp only [List.forall_mem_singleton]
      refine ⟨.stringLiteral text "a", ?_⟩
      rw [lift_outcome_of_concrete (by decide)]
      exact liftAs_outcome .stringLiteral
    · rw [lift_outcome_of_concrete (by decide)]
      rfl
  obtain ⟨stops, same, -⟩ :=
    (lift_fails_at_first_fault none ctx.catalogue).2 c [text] unknown _ h [] [unknown]
  exact ⟨stops, (same [.child c [] []]).1⟩

end CursorLift
