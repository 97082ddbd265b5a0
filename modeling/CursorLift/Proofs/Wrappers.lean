import CursorLift.Proofs.Effects
import CursorLift.Proofs.FirstFailure
import CursorLift.Proofs.Frontier
import CursorLift.Session.Basic

/-! # How far wrapper kinds reach

Lifting can be told to look through kinds of its own choice. These are in force down to the first
concrete cursor only: what is found there is lifted as a session lifts any cursor, and below it
every kind but the usual wrapper goes by the catalogue.
-/

namespace CursorLift

open Context

variable {unit : Option ActiveUnit} {catalogue : Catalogue} {wrappers : List Kind} {c : Cursor}

/-! ## Down to the first concrete cursor -/

theorem unwrap_inMemory (wrappers : List Kind) (c : Cursor) :
    ((Engine.memory []).unwrap wrappers c).outcome =
      match Cursor.firstConcrete? (Cursor.wraps wrappers) c.children with
      | some found => .ok found
      | none => .error (.barrenWrapper c.facts.kind) := by
  have below : (Engine.memory []).concreteBelow? wrappers c =
      Cursor.firstConcrete? (Cursor.wraps wrappers) c.children := by
    rw [Engine.concreteBelow?_eq_head?, Cursor.frontier_eq, Cursor.head?_frontierAll]
    show (Cursor.firstConcrete? (Cursor.wraps wrappers) c.children).filter (fun _ => true) = _
    cases Cursor.firstConcrete? (Cursor.wraps wrappers) c.children <;> rfl
  rw [Engine.unwrap_outcome rfl, below]
  rfl

/-- A cursor of none of the kinds in force is lifted as usual, if the usual one is among them. -/
theorem liftThrough_of_kind_not_mem (usual : .unexposedExpr ∈ wrappers)
    (concrete : c.facts.kind ∉ wrappers) :
    (faultless unit catalogue).liftThrough wrappers c = (faultless unit catalogue).lift c := by
  have other : c.facts.kind ≠ .unexposedExpr := by
    intro same
    rw [same] at concrete
    exact concrete usual
  rw [lift, liftThrough_of_concrete (by simpa [Cursor.wraps] using concrete),
    liftThrough_of_concrete (Cursor.wraps_eq_false other)]

theorem liftThrough_of_unwrap_ok (usual : .unexposedExpr ∈ wrappers)
    (wrapper : c.facts.kind ∈ wrappers) {concrete : Cursor}
    (found : ((Engine.memory []).unwrap wrappers c).outcome = .ok concrete) :
    (faultless unit catalogue).liftThrough wrappers c = (do
      Run.note (.unwrapping c.facts.kind)
      (faultless unit catalogue).lift concrete) := by
  rw [unwrap_inMemory] at found
  rw [liftThrough_of_wrapper (by simpa [Cursor.wraps] using wrapper)]
  cases first : Cursor.firstConcrete? (Cursor.wraps wrappers) c.children with
  | none =>
      rw [first] at found
      cases found
  | some other =>
      rw [first] at found
      cases found
      have plain := Cursor.not_isWrapper_of_firstConcrete? first
      have outside : concrete.facts.kind ∉ wrappers := by simpa [Cursor.wraps] using plain
      rw [← liftThrough_of_kind_not_mem usual outside, liftThrough_of_concrete plain]

theorem liftThrough_of_unwrap_error (wrapper : c.facts.kind ∈ wrappers) {failure : Failure}
    (barren : ((Engine.memory []).unwrap wrappers c).outcome = .error failure) :
    failure = .barrenWrapper c.facts.kind ∧
      (faultless unit catalogue).liftThrough wrappers c = (do
        Run.note (.unwrapping c.facts.kind)
        Run.fail failure) := by
  rw [unwrap_inMemory] at barren
  rw [liftThrough_of_wrapper (by simpa [Cursor.wraps] using wrapper)]
  cases first : Cursor.firstConcrete? (Cursor.wraps wrappers) c.children with
  | none =>
      rw [first] at barren
      cases barren
      exact ⟨rfl, rfl⟩
  | some other =>
      rw [first] at barren
      cases barren

theorem liftThrough_of_target (usual : .unexposedExpr ∈ wrappers) {t : Cursor}
    (target : (if c.facts.kind ∈ wrappers then ((Engine.memory []).unwrap wrappers c).outcome
      else .ok c) = .ok t) :
    (faultless unit catalogue).liftThrough wrappers c = (faultless unit catalogue).lift t ∨
      (faultless unit catalogue).liftThrough wrappers c = (do
        Run.note (.unwrapping c.facts.kind)
        (faultless unit catalogue).lift t) := by
  by_cases wrapper : c.facts.kind ∈ wrappers
  · rw [if_pos wrapper] at target
    exact .inr (liftThrough_of_unwrap_ok usual wrapper target)
  · rw [if_neg wrapper] at target
    cases target
    exact .inl (liftThrough_of_kind_not_mem usual wrapper)

/-! ## Below it -/

theorem cursors_of_each {cursors : List Cursor} {nodes : List Node}
    (each : List.Forall₂ (fun d node => ∃ _ : Represents unit catalogue d node,
      node.preorder.map Node.cursor =
        (d.liftOrder catalogue).filter fun e => e.facts.kind != .unexposedExpr) cursors nodes) :
    (Node.preorderAll nodes).map Node.cursor =
      (cursors.flatMap (Cursor.liftOrder catalogue)).filter
        fun d => d.facts.kind != .unexposedExpr := by
  induction each with
  | nil => rfl
  | cons head _ ih =>
      obtain ⟨-, head⟩ := head
      rw [Node.preorderAll, List.map_append, head, ih, List.flatMap_cons, List.filter_append]

/-- A tree has one node for each cursor that lifting comes to, in that order, but for the usual
wrappers. -/
theorem cursors_of_represents {node : Node} (h : Represents unit catalogue c node) :
    node.preorder.map Node.cursor =
      (c.liftOrder catalogue).filter fun d => d.facts.kind != .unexposedExpr := by
  induction h using Represents.induct with
  | wrapper kind first below ih =>
      rw [Cursor.liftOrder_eq, Cursor.leadsTo_of_wrapper kind, first, ih]
      simp [kind]
  | translationUnit kind shape each ih =>
      rw [Cursor.liftOrder_eq, Cursor.leadsTo_of_concrete kind, shape, Node.preorder,
        List.map_cons, cursors_of_each ih]
      simp [kind, Node.cursor]
  | integerLiteral kind shape read =>
      rw [Cursor.liftOrder_eq, Cursor.leadsTo_of_concrete kind, shape]
      simp [kind, Node.preorder, Node.cursor]
  | floatingLiteral kind shape =>
      rw [Cursor.liftOrder_eq, Cursor.leadsTo_of_concrete kind, shape]
      simp [kind, Node.preorder, Node.cursor]
  | stringLiteral kind shape =>
      rw [Cursor.liftOrder_eq, Cursor.leadsTo_of_concrete kind, shape]
      simp [kind, Node.preorder, Node.cursor]
  | plainVarDecl kind shape absent =>
      have absent := Cursor.properInitializer?_eq_none.mpr absent
      rw [Cursor.liftOrder_eq, Cursor.leadsTo_of_concrete kind, shape, absent]
      simp [kind, Node.preorder, Node.cursor]
  | varDecl kind shape link present below ih =>
      have proper := Cursor.properInitializer?_eq_some.mpr ⟨link, present⟩
      rw [Cursor.liftOrder_eq, Cursor.leadsTo_of_concrete kind, shape, proper, Node.preorder,
        List.map_cons, ih]
      simp [kind, Node.cursor]

theorem of_mem_preorderAll {m : Node} {goal : Prop} {cursors : List Cursor} {nodes : List Node}
    (each : List.Forall₂ (fun d node => ∃ _ : Represents unit catalogue d node,
      m ∈ node.preorder → goal) cursors nodes)
    (member : m ∈ Node.preorderAll nodes) : goal := by
  induction each with
  | nil => cases member
  | cons head _ ih =>
      obtain ⟨-, head⟩ := head
      rw [Node.preorderAll] at member
      exact (List.mem_append.mp member).elim head ih

theorem represents_of_mem_preorder {node m : Node} (h : Represents unit catalogue c node)
    (member : m ∈ node.preorder) :
    Represents unit catalogue m.cursor m ∧ m.cursor.facts.kind ≠ .unexposedExpr := by
  induction h using Represents.induct with
  | wrapper kind first below ih => exact ih member
  | translationUnit kind shape each ih =>
      rw [Node.preorder] at member
      cases member with
      | head => exact ⟨.translationUnit kind shape each, kind⟩
      | tail _ member => exact of_mem_preorderAll ih member
  | integerLiteral kind shape read =>
      cases List.mem_singleton.mp member
      exact ⟨.integerLiteral kind shape read, kind⟩
  | floatingLiteral kind shape =>
      cases List.mem_singleton.mp member
      exact ⟨.floatingLiteral kind shape, kind⟩
  | stringLiteral kind shape =>
      cases List.mem_singleton.mp member
      exact ⟨.stringLiteral kind shape, kind⟩
  | plainVarDecl kind shape absent =>
      rw [Node.preorder] at member
      cases List.mem_singleton.mp member
      exact ⟨.plainVarDecl kind shape absent, kind⟩
  | varDecl kind shape link present below ih =>
      rw [Node.preorder] at member
      cases member with
      | head => exact ⟨.varDecl kind shape link present below, kind⟩
      | tail _ member => exact ih member

theorem lookup_of_represents {node : Node} (h : Represents unit catalogue node.cursor node)
    (concrete : node.cursor.facts.kind ≠ .unexposedExpr) :
    catalogue.lookup node.cursor.facts.kind = .ok node.shape := by
  generalize made : node.cursor = c at h concrete
  cases h with
  | wrapper kind => exact absurd kind concrete
  | translationUnit kind shape | integerLiteral kind shape | floatingLiteral kind shape
  | stringLiteral kind shape | plainVarDecl kind shape | varDecl kind shape => exact shape

theorem lift_fails_of_unhandled {t d : Cursor} (reached : d ∈ t.liftOrder catalogue)
    (concrete : d.facts.kind ≠ .unexposedExpr)
    (unhandled : ∀ shape, catalogue.lookup d.facts.kind ≠ .ok shape) :
    ∃ failure, ((faultless unit catalogue).lift t).outcome = .error failure := by
  have fails : ∃ failure, ((faultless unit catalogue).lift d).outcome = .error failure := by
    rw [lift_outcome_of_concrete concrete]
    cases found : catalogue.lookup d.facts.kind with
    | ok shape => exact absurd found (unhandled shape)
    | error failure => exact ⟨failure, rfl⟩
  obtain ⟨failure, fails⟩ := fails
  exact lift_fails_of_mem_liftOrder reached fails

/-- Where lifting looks through kinds of its own choice, the usual one among them, it is the usual
lifting of the first concrete cursor: of the cursor itself if it is of no such kind, and else of
what a search below it finds. If nothing is found, it fails as the search does. So below that
cursor a kind of the choice goes by the catalogue like any other: it has a node of its own, of the
shape that the catalogue holds, and without such a shape there is no tree. -/
theorem wrappers_reach_first_concrete_only {s : Session} (memory : s.engine = .memory [])
    {wrappers : List Kind} (usual : .unexposedExpr ∈ wrappers) (c : Cursor) :
    let ran := s.context.liftThrough wrappers c
    let target : Except Failure Cursor :=
      if c.facts.kind ∈ wrappers then (s.engine.unwrap wrappers c).outcome else .ok c
    (∀ t, target = .ok t →
        ran.outcome = (s.context.lift t).outcome ∧
          Event.calls ran.trace = Event.calls (s.context.lift t).trace ∧
          Event.notices .warning ran.trace = Event.notices .warning (s.context.lift t).trace ∧
          (∀ node, ran.outcome = .ok node →
            node.preorder.map Node.cursor =
                (t.liftOrder s.catalogue).filter (fun d => d.facts.kind != .unexposedExpr) ∧
              ∀ m ∈ node.preorder, s.catalogue.lookup m.cursor.facts.kind = .ok m.shape) ∧
          ∀ d ∈ t.liftOrder s.catalogue, d.facts.kind ≠ .unexposedExpr →
            (∀ shape, s.catalogue.lookup d.facts.kind ≠ .ok shape) →
            ∃ failure, ran.outcome = .error failure) ∧
      ∀ failure, target = .error failure →
        failure = .barrenWrapper c.facts.kind ∧ ran.outcome = .error failure ∧
          Event.calls ran.trace = [] ∧ Event.notices .warning ran.trace = [] := by
  intro ran target
  have context : s.context = faultless s.unit s.catalogue := by
    rw [Session.context, memory]
    rfl
  refine ⟨fun t given => ?_, fun failure barren => ?_⟩
  · have same : ran = s.context.lift t ∨
        ran = Run.note (.unwrapping c.facts.kind) >>= fun _ => s.context.lift t := by
      simp only [target, memory] at given
      simp only [ran, context]
      exact liftThrough_of_target usual given
    have alike : ran.outcome = (s.context.lift t).outcome ∧
        Event.calls ran.trace = Event.calls (s.context.lift t).trace ∧
        Event.notices .warning ran.trace = Event.notices .warning (s.context.lift t).trace := by
      cases same with
      | inl same => rw [same]; exact ⟨rfl, rfl, rfl⟩
      | inr same => rw [same]; exact ⟨rfl, rfl, rfl⟩
    obtain ⟨ended, calls, warnings⟩ := alike
    refine ⟨ended, calls, warnings, ?_, ?_⟩
    · intro node lifted
      rw [ended, context] at lifted
      have derived := represents_of_lift lifted
      refine ⟨cursors_of_represents derived, fun m member => ?_⟩
      obtain ⟨own, concrete⟩ := represents_of_mem_preorder derived member
      exact lookup_of_represents own concrete
    · intro d reached concrete unhandled
      rw [ended, context]
      exact lift_fails_of_unhandled reached concrete unhandled
  · by_cases wrapper : c.facts.kind ∈ wrappers
    · simp only [target, if_pos wrapper, memory] at barren
      obtain ⟨own, same⟩ : _ ∧ (faultless s.unit s.catalogue).liftThrough wrappers c = _ :=
        liftThrough_of_unwrap_error wrapper barren
      have same : ran = Run.note (.unwrapping c.facts.kind) >>= fun _ => Run.fail failure := by
        simp only [ran, context, same]
      rw [same]
      exact ⟨own, rfl, rfl, rfl⟩
    · simp only [target, if_neg wrapper] at barren
      cases barren

/-- Parentheses are looked through on the way to a variable, and not again where its initializer
stands in some: there they are read as a number, or not known. -/
theorem wrappers_reach_variable_only :
    let parentheses : Kind := .listed ⟨111, by decide⟩
    let value : Cursor := { facts := { kind := parentheses, token := some "7" } }
    let t : Cursor := { facts := { kind := .varDecl }, initializer := some value }
    let c : Cursor :=
      { facts := { kind := parentheses }
        children := [{ facts := { kind := .unexposedExpr } },
          { facts := { kind := .unexposedExpr }, children := [t] }] }
    let session (catalogue : Catalogue) : Session :=
      { engine := .memory [], supply := [], settings := {}, catalogue, index := some 1 }
    let wrappers : List Kind := [.unexposedExpr, parentheses]
    let read : Catalogue := ⟨[(.varDecl, some .varDecl), (parentheses, some .integerLiteral)]⟩
    let unknown : Catalogue := ⟨[(.varDecl, some .varDecl)]⟩
    (∃ node, ((session read).context.liftThrough wrappers c).outcome = .ok node ∧
        node.preorder.map Node.cursor = [t, value]) ∧
      ∃ failure, ((session unknown).context.liftThrough wrappers c).outcome = .error failure := by
  intro parentheses value t c session wrappers read unknown
  have usual : .unexposedExpr ∈ wrappers := by simp [wrappers]
  have found : ((Engine.memory []).unwrap wrappers c).outcome = .ok t := rfl
  have target : (if c.facts.kind ∈ wrappers then ((Engine.memory []).unwrap wrappers c).outcome
      else .ok c) = .ok t := by rw [found]; rfl
  have reached : value ∈ t.liftOrder unknown := by
    have next : t.leadsTo unknown = [value] := rfl
    have itself : value ∈ value.liftOrder unknown := by
      rw [Cursor.liftOrder_eq]
      exact List.mem_cons_self
    rw [Cursor.liftOrder_eq, next]
    apply List.mem_cons_of_mem
    exact List.mem_flatMap.mpr ⟨value, List.mem_singleton_self value, itself⟩
  constructor
  · obtain ⟨reach, -⟩ := wrappers_reach_first_concrete_only (s := session read) rfl usual c
    obtain ⟨ended, -, -, below, -⟩ := reach t target
    have seven : Literal.readInteger "7" = .ok (.integer 7) := by
      rw [Literal.readInteger]
      rfl
    have number : Represents none read value (.integerLiteral value (.integer 7)) :=
      .integerLiteral (by decide) rfl seven
    have derived : Represents none read t _ := .varDecl (by decide) rfl rfl rfl number
    have lifted := ended.trans (lift_of_represents derived)
    exact ⟨_, lifted, rfl⟩
  · obtain ⟨reach, -⟩ := wrappers_reach_first_concrete_only (s := session unknown) rfl usual c
    obtain ⟨-, -, -, -, unhandled⟩ := reach t target
    refine unhandled value reached (by decide) fun shape held => ?_
    cases held

end CursorLift
