import CursorLift.Proofs.Lift

/-! # What a visit finds

The frontier of a cursor is what is left below it once every wrapper is replaced by what it hides.
A visit in search of a concrete cursor finds the head of the frontier, however deep it lies and
however many barren wrappers come first. Nothing behind it matters, and nothing below it.
-/

namespace CursorLift

namespace Cursor

mutual

/-- The cursors below a cursor, with each wrapper among them replaced by its own frontier. -/
def frontier (isWrapper : Cursor → Bool) : Cursor → List Cursor
  | ⟨_, children, _, _, _, _⟩ => frontierAll isWrapper children

def frontierAll (isWrapper : Cursor → Bool) : List Cursor → List Cursor
  | [] => []
  | c :: rest =>
    (if isWrapper c then frontier isWrapper c else [c]) ++ frontierAll isWrapper rest

end

theorem frontier_eq (isWrapper : Cursor → Bool) (c : Cursor) :
    frontier isWrapper c = frontierAll isWrapper c.children := by
  cases c
  rw [frontier]

theorem visit_eq {σ : Type} (visitor : Cursor → σ → Visit × σ) (c : Cursor) (known : σ) :
    c.visit visitor known = visitAll visitor c.children known := by
  cases c
  rw [visit]

section Frontier

variable {isWrapper : Cursor → Bool}

theorem frontierAll_cons_of_wrapper {c : Cursor} (wrapper : isWrapper c = true)
    (rest : List Cursor) :
    frontierAll isWrapper (c :: rest) =
      frontierAll isWrapper c.children ++ frontierAll isWrapper rest := by
  rw [frontierAll, if_pos wrapper, frontier_eq]

theorem frontierAll_cons_of_concrete {c : Cursor} (concrete : isWrapper c = false)
    (rest : List Cursor) :
    frontierAll isWrapper (c :: rest) = c :: frontierAll isWrapper rest := by
  rw [frontierAll, if_neg (by simp [concrete])]
  rfl

theorem frontierAll_eq_filter (isWrapper : Cursor → Bool) (cursors : List Cursor) :
    frontierAll isWrapper cursors = (walkAll isWrapper cursors).filter fun c => !isWrapper c := by
  cases cursors with
  | nil => rfl
  | cons c rest =>
      have others := frontierAll_eq_filter isWrapper rest
      rw [walkAll, List.filter_append, ← others, walk_eq]
      cases wrapper : isWrapper c with
      | false =>
          rw [frontierAll_cons_of_concrete wrapper]
          simp [wrapper]
      | true =>
          have := sizeOf_children_lt c
          rw [frontierAll_cons_of_wrapper wrapper, frontierAll_eq_filter isWrapper c.children]
          simp [wrapper]
termination_by sizeOf cursors

/-- The search for a concrete cursor finds the head of the frontier. -/
theorem head?_frontierAll (isWrapper : Cursor → Bool) (cursors : List Cursor) :
    (frontierAll isWrapper cursors).head? = firstConcrete? isWrapper cursors := by
  rw [frontierAll_eq_filter, firstConcrete?_eq_firstMet?, firstMet?, List.head?_filter]

theorem not_isWrapper_of_mem_frontier {c d : Cursor} (member : d ∈ c.frontier isWrapper) :
    isWrapper d = false := by
  rw [frontier_eq, frontierAll_eq_filter] at member
  simpa using (List.mem_filter.mp member).2

end Frontier

end Cursor

/-! ## The visit -/

namespace Engine

variable {engine : Engine} {wrappers : List Kind} {c : Cursor}

theorem seek_of_wrapper (wrapper : engine.isWrapper wrappers c = true) (found : List Cursor) :
    engine.seek wrappers c found = (.descend, found) := by
  unfold isWrapper at wrapper
  unfold seek
  split at wrapper
  · next kind asked => rw [asked]; exact if_pos wrapper
  · cases wrapper

theorem seek_of_concrete (concrete : engine.isWrapper wrappers c = false) (found : List Cursor) :
    engine.seek wrappers c found =
      (.stop, if engine.isKnown c then found ++ [c] else found) := by
  unfold isWrapper at concrete
  unfold seek isKnown
  split at concrete
  · next kind asked =>
      simp only [asked]
      rw [if_neg (by simp only [concrete]; decide)]
      rfl
  · next failure asked =>
      simp only [asked]
      rfl

/-- A visit in search of a concrete cursor is stopped by the head of the frontier, and passes all
cursors if there is none. -/
theorem visitAll_seek (engine : Engine) (wrappers : List Kind) (cursors found : List Cursor) :
    Cursor.visitAll (engine.seek wrappers) cursors found =
      match (Cursor.frontierAll (engine.isWrapper wrappers) cursors).head? with
      | none => (true, found)
      | some d => (false, if engine.isKnown d then found ++ [d] else found) := by
  cases cursors with
  | nil => rfl
  | cons c rest =>
      rw [Cursor.visitAll]
      cases wrapper : engine.isWrapper wrappers c with
      | false =>
          rw [seek_of_concrete wrapper, Cursor.frontierAll_cons_of_concrete wrapper]
          rfl
      | true =>
          have := Cursor.sizeOf_children_lt c
          have below := visitAll_seek engine wrappers c.children found
          rw [seek_of_wrapper wrapper, Cursor.frontierAll_cons_of_wrapper wrapper]
          simp only [Cursor.visit_eq, below, List.head?_append]
          -- A barren wrapper leaves the search to the cursors behind it.
          cases (Cursor.frontierAll (engine.isWrapper wrappers) c.children).head? with
          | none => exact visitAll_seek engine wrappers rest found
          | some d => rfl
termination_by sizeOf cursors

theorem concreteBelow?_eq_head? :
    engine.concreteBelow? wrappers c =
      (c.frontier (engine.isWrapper wrappers)).head?.filter engine.isKnown := by
  rw [concreteBelow?, Cursor.visit_eq, visitAll_seek, Cursor.frontier_eq]
  cases (Cursor.frontierAll (engine.isWrapper wrappers) c.children).head? with
  | none => rfl
  | some d =>
      simp only [Option.filter_some]
      split <;> rfl

theorem standIn?_of_wrapper (wrapper : engine.isWrapper wrappers c = true) :
    engine.standIn? wrappers c = engine.concreteBelow? wrappers c := by
  rw [standIn?, Cursor.standIn?_of_isWrapper wrapper, concreteBelow?_eq_head?, Cursor.frontier_eq,
    Cursor.head?_frontierAll]

theorem unwrap_outcome (sound : engine.fault? .kind = none) :
    (engine.unwrap wrappers c).outcome =
      match engine.concreteBelow? wrappers c with
      | some found => .ok found
      | none => (engine.kindOf c).bind fun kind => .error (.barrenWrapper kind) := by
  have silent : engine.attempt .kind = pure () := by rw [attempt, sound]
  rw [unwrap, silent, pure_bind]
  cases engine.concreteBelow? wrappers c with
  | some found => rfl
  | none => exact Run.bind_outcome _ _

end Engine

namespace Context

variable {ctx : Context} {wrappers : List Kind} {c : Cursor} {kind : Kind}

theorem approach_eq_ok (h : (ctx.approach wrappers c).outcome = .ok kind) :
    (ctx.engine.kind c).outcome = .ok kind := by
  rw [approach, Run.bind_outcome] at h
  obtain ⟨asked, known, h⟩ := Outcome.bind_eq_ok.mp h
  rw [known]
  split at h <;> exact h

/-- What is found below a wrapper is lifted as it is: each cursor is looked through once. -/
theorem liftThrough_eq_unwrap (ctx : Context) (wrappers : List Kind) (c : Cursor) :
    ctx.liftThrough wrappers c = (do
      let kind ← ctx.approach wrappers c
      if wrappers.contains kind then
        let found ← ctx.engine.unwrap wrappers c
        ctx.liftConcrete found
      else ctx.liftConcrete c) := by
  rw [liftThrough_eq]
  refine Run.bind_congr fun kind asked => ?_
  obtain ⟨sound, known⟩ := kind_eq_ok.mp (approach_eq_ok asked)
  have wrapper : ctx.engine.isWrapper wrappers c = wrappers.contains kind := by
    simp only [Engine.isWrapper, known]
  cases within : wrappers.contains kind with
  | false =>
      rw [within] at wrapper
      have itself : ctx.engine.standIn? wrappers c = some c := by
        rw [Engine.standIn?, Cursor.standIn?_of_not_isWrapper wrapper, Option.filter_some,
          Engine.isKnown, known]
        rfl
      rw [itself]
      rfl
  | true =>
      rw [within] at wrapper
      have silent : ctx.engine.attempt .kind = pure () := by rw [Engine.attempt, sound]
      rw [Engine.standIn?_of_wrapper wrapper, Engine.unwrap, silent, pure_bind, known]
      cases ctx.engine.concreteBelow? wrappers c with
      | none => rfl
      | some found => rfl

end Context

/-! ## What a search takes no notice of -/

namespace Engine

variable {engine : Engine} {wrappers : List Kind} {c d : Cursor}

def IsConcrete (engine : Engine) (wrappers : List Kind) (c : Cursor) : Prop :=
  ∃ kind, engine.kindOf c = .ok kind ∧ kind ∉ wrappers

theorem isConcrete_of_known (known : engine.isKnown c = true)
    (concrete : engine.isWrapper wrappers c = false) : engine.IsConcrete wrappers c := by
  unfold isKnown at known
  unfold isWrapper at concrete
  cases asked : engine.kindOf c with
  | error failure => rw [asked] at known; cases known
  | ok kind => exact ⟨kind, asked, by simpa [asked] using concrete⟩

theorem IsConcrete.isWrapper (h : engine.IsConcrete wrappers c) :
    engine.isWrapper wrappers c = false := by
  obtain ⟨kind, asked, free⟩ := h
  simp [Engine.isWrapper, asked, free]

theorem IsConcrete.isKnown (h : engine.IsConcrete wrappers c) : engine.isKnown c = true := by
  obtain ⟨kind, asked, -⟩ := h
  simp [Engine.isKnown, asked, Except.isOk, Except.toBool]

/-- Two rows of cursors between which a search sees no difference but that of the concrete cursors
it ends at, which are related. What stands behind these or below them may differ in any way, and so
may the barren wrappers before. -/
inductive SeenAlike (engine : Engine) (wrappers : List Kind) (related : Cursor → Cursor → Prop) :
    List Cursor → List Cursor → Prop where
  | nil : SeenAlike engine wrappers related [] []
  | barren {c d : Cursor} {rest others : List Cursor}
      (left : engine.isWrapper wrappers c = true) (right : engine.isWrapper wrappers d = true)
      (nothing : c.frontier (engine.isWrapper wrappers) = [])
      (neither : d.frontier (engine.isWrapper wrappers) = [])
      (behind : SeenAlike engine wrappers related rest others) :
      SeenAlike engine wrappers related (c :: rest) (d :: others)
  | wrapper {c d : Cursor} {rest others : List Cursor}
      (left : engine.isWrapper wrappers c = true) (right : engine.isWrapper wrappers d = true)
      (something : c.frontier (engine.isWrapper wrappers) ≠ [])
      (below : SeenAlike engine wrappers related c.children d.children) :
      SeenAlike engine wrappers related (c :: rest) (d :: others)
  | concrete {c d : Cursor} {rest others : List Cursor}
      (left : engine.IsConcrete wrappers c) (right : engine.IsConcrete wrappers d)
      (h : related c d) : SeenAlike engine wrappers related (c :: rest) (d :: others)

theorem SeenAlike.head?_rel {related : Cursor → Cursor → Prop} {cursors others : List Cursor}
    (h : SeenAlike engine wrappers related cursors others) :
    Option.Rel (fun c d => related c d ∧ engine.isKnown d = true)
      (Cursor.frontierAll (engine.isWrapper wrappers) cursors).head?
      (Cursor.frontierAll (engine.isWrapper wrappers) others).head? := by
  induction h with
  | nil => exact .none
  | barren left right nothing neither behind ih =>
      rw [Cursor.frontier_eq] at nothing neither
      rwa [Cursor.frontierAll_cons_of_wrapper left, Cursor.frontierAll_cons_of_wrapper right,
        nothing, neither]
  | @wrapper c d rest others left right something below ih =>
      rw [Cursor.frontier_eq] at something
      rw [Cursor.frontierAll_cons_of_wrapper left, Cursor.frontierAll_cons_of_wrapper right,
        List.head?_append, List.head?_append]
      obtain ⟨e, more, shown⟩ := List.exists_cons_of_ne_nil something
      rw [shown] at ih ⊢
      generalize (Cursor.frontierAll (engine.isWrapper wrappers) d.children).head? = found at ih ⊢
      cases ih with
      | some same => exact .some same
  | concrete left right same =>
      rw [Cursor.frontierAll_cons_of_concrete left.isWrapper,
        Cursor.frontierAll_cons_of_concrete right.isWrapper]
      exact .some ⟨same, right.isKnown⟩

end Engine

/-- A search below a cursor gives the head of its frontier, which is of no wrapper kind, and fails
with the kind of the cursor if and only if the frontier is empty. So lifting looks through a cursor
once, and what stands behind or below the first concrete cursor has no part in the search. All that
is asked of the engine is that it answers for the kinds of these two. -/
theorem unwrap_gives_head_of_frontier (engine : Engine) (wrappers : List Kind) (c : Cursor)
    {kind : Kind} (own : (engine.kind c).outcome = .ok kind)
    (first : ∀ d, (c.frontier (engine.isWrapper wrappers)).head? = some d →
      ∃ other, (engine.kind d).outcome = .ok other) :
    (∀ found, (engine.unwrap wrappers c).outcome = .ok found ↔
        (c.frontier (engine.isWrapper wrappers)).head? = some found) ∧
      (∀ failure, (engine.unwrap wrappers c).outcome = .error failure ↔
        c.frontier (engine.isWrapper wrappers) = [] ∧ failure = .barrenWrapper kind) ∧
      (∀ found, (engine.unwrap wrappers c).outcome = .ok found →
        engine.IsConcrete wrappers found) ∧
      (∀ (ctx : Context) (d : Cursor), ctx.engine = engine →
        ctx.liftThrough wrappers d = (do
          let kind ← ctx.approach wrappers d
          if wrappers.contains kind then
            let found ← engine.unwrap wrappers d
            ctx.liftConcrete found
          else ctx.liftConcrete d)) ∧
      ∀ (related : Cursor → Cursor → Prop) (d : Cursor),
        engine.SeenAlike wrappers related c.children d.children →
        ∀ found, (engine.unwrap wrappers c).outcome = .ok found →
          ∃ other, (engine.unwrap wrappers d).outcome = .ok other ∧ related found other := by
  obtain ⟨sound, known⟩ := Context.kind_eq_ok.mp own
  have headKnown (d : Cursor) (head : (c.frontier (engine.isWrapper wrappers)).head? = some d) :
      engine.isKnown d = true := by
    obtain ⟨other, asked⟩ := first d head
    rw [Engine.isKnown, (Context.kind_eq_ok.mp asked).2]
    rfl
  have ended : (engine.unwrap wrappers c).outcome =
      match (c.frontier (engine.isWrapper wrappers)).head? with
      | some found => .ok found
      | none => .error (.barrenWrapper kind) := by
    rw [Engine.unwrap_outcome sound, Engine.concreteBelow?_eq_head?, known]
    cases head : (c.frontier (engine.isWrapper wrappers)).head? with
    | none => rfl
    | some d => rw [Option.filter_some, if_pos (headKnown d head)]
  have found_iff (found : Cursor) : (engine.unwrap wrappers c).outcome = .ok found ↔
      (c.frontier (engine.isWrapper wrappers)).head? = some found := by
    rw [ended]
    cases (c.frontier (engine.isWrapper wrappers)).head? <;> simp
  refine ⟨found_iff, ?_, ?_, ?_, ?_⟩
  · intro failure
    rw [ended]
    cases c.frontier (engine.isWrapper wrappers) with
    | nil => simp [eq_comm]
    | cons d rest => simp
  · intro found given
    have head := (found_iff found).mp given
    exact Engine.isConcrete_of_known (headKnown found head)
      (Cursor.not_isWrapper_of_mem_frontier (List.mem_of_head? head))
  · rintro ctx d rfl
    exact ctx.liftThrough_eq_unwrap wrappers d
  · intro related d alike found given
    have same := alike.head?_rel
    rw [← Cursor.frontier_eq, ← Cursor.frontier_eq, (found_iff found).mp given] at same
    generalize shown : (d.frontier (engine.isWrapper wrappers)).head? = head at same
    cases same with
    | @some _ other h =>
        refine ⟨other, ?_, h.1⟩
        rw [Engine.unwrap_outcome sound, Engine.concreteBelow?_eq_head?, shown,
          Option.filter_some, if_pos h.2]

/-- Behind a barren wrapper two more hide a literal, which the library knows by its number. It is
found in another tree as well, in which odd cursors follow it. -/
theorem unwrap_gives_literal_behind_barren :
    let cursor (kind : Kind) (children : List Cursor) : Cursor := { facts := { kind }, children }
    let engine : Engine := .library {}
    let literal := cursor (.number 106) [cursor .varDecl []]
    let barren := cursor (.number 100) [cursor .unexposedExpr []]
    let hides (late : List Cursor) :=
      cursor .unexposedExpr (cursor (.number 100) (literal :: late) :: late)
    let odd := [cursor (.word "odd") [], cursor (.number (-900)) []]
    (engine.kind (cursor .varDecl [barren, hides []])).outcome = .ok .varDecl ∧
      (engine.unwrap [.unexposedExpr] (cursor .varDecl [barren, hides []])).outcome =
        .ok literal ∧
      (engine.unwrap [.unexposedExpr] (cursor .absent (barren :: hides odd :: odd))).outcome =
        .ok literal := by
  intro cursor engine literal barren hides odd
  have own : (engine.kind (cursor .varDecl [barren, hides []])).outcome = .ok .varDecl := rfl
  have head : ((cursor .varDecl [barren, hides []]).frontier
      (engine.isWrapper [.unexposedExpr])).head? = some literal := rfl
  have concrete : engine.IsConcrete [.unexposedExpr] literal :=
    ⟨.integerLiteral, rfl, by decide⟩
  obtain ⟨found_iff, -, -, -, unseen⟩ :=
    unwrap_gives_head_of_frontier engine [.unexposedExpr] _ own fun d shown => by
      rw [head] at shown
      cases shown
      exact ⟨.integerLiteral, rfl⟩
  have found := (found_iff literal).mpr head
  have alike : engine.SeenAlike [.unexposedExpr] Eq [barren, hides []]
      (barren :: hides odd :: odd) :=
    .barren rfl rfl rfl rfl (.wrapper rfl rfl nofun (.wrapper rfl rfl nofun
      (.concrete concrete concrete rfl)))
  obtain ⟨other, given, rfl⟩ :=
    unseen Eq (cursor .absent (barren :: hides odd :: odd)) alike literal found
  exact ⟨own, found, given⟩

end CursorLift
