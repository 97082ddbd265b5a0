import CursorLift.Proofs.Session

/-! # Engines are interchangeable

Lifting asks an engine for kinds, tokens and initializers. An engine that answers as the tree
itself has it lifts to the same node or fails alike, whatever it calls for on the way. Where every
declaration shows its initializer in its text, a library answers so, even if it has to find the
initializer among the children and the token in the source.
-/

namespace CursorLift

/-! ## What holds throughout a tree -/

namespace Cursor

/-- What holds of a cursor and of all below it, down through children and initializers. -/
inductive Throughout (holds : Cursor → Prop) : Cursor → Prop where
  | intro {c : Cursor} (here : holds c) (children : ∀ d ∈ c.children, Throughout holds d)
      (initializer : ∀ d, c.initializer = some d → Throughout holds d) : Throughout holds c

namespace Throughout

variable {holds other : Cursor → Prop} {c : Cursor}

theorem here (h : c.Throughout holds) : holds c := by
  cases h with
  | intro here _ _ => exact here

theorem children (h : c.Throughout holds) : ∀ d ∈ c.children, d.Throughout holds := by
  cases h with
  | intro _ children _ => exact children

theorem initializer (h : c.Throughout holds) :
    ∀ d, c.initializer = some d → d.Throughout holds := by
  cases h with
  | intro _ _ initializer => exact initializer

theorem derive (each : ∀ d, d.Throughout holds → other d) (h : c.Throughout holds) :
    c.Throughout other := by
  induction h with
  | intro here children initializer ihChildren ihInitializer =>
      exact .intro (each _ (.intro here children initializer)) ihChildren ihInitializer

theorem standIn {isWrapper : Cursor → Bool} {concrete : Cursor} (h : c.Throughout holds)
    (found : standIn? isWrapper c = some concrete) : concrete.Throughout holds :=
  of_standIn? (fun _ => children) h found

end Throughout

theorem firstConcrete?_congr {p q : Cursor → Bool} (cursors : List Cursor)
    (each : ∀ d ∈ cursors, standIn? p d = standIn? q d) :
    firstConcrete? p cursors = firstConcrete? q cursors := by
  induction cursors with
  | nil => rfl
  | cons d rest ih =>
      rw [firstConcrete?, firstConcrete?, each d List.mem_cons_self,
        ih fun e member => each e (List.mem_cons_of_mem d member)]

theorem standIn?_congr {p q : Cursor → Bool} {c : Cursor} (same : c.Throughout fun d => p d = q d) :
    standIn? p c = standIn? q c := by
  have below : firstConcrete? p c.children = firstConcrete? q c.children := by
    refine firstConcrete?_congr _ fun d member => ?_
    have := sizeOf_lt_of_mem_children member
    exact standIn?_congr (same.children d member)
  rw [standIn?_eq, standIn?_eq, same.here, below]
termination_by sizeOf c

end Cursor

/-! ## Engines that answer as the tree has it -/

theorem Engine.standIn?_of_known {engine : Engine} {c : Cursor}
    (known : c.Throughout fun d => engine.kindOf d = .ok d.facts.kind) (wrappers : List Kind) :
    engine.standIn? wrappers c = Cursor.standIn? (Cursor.wraps wrappers) c := by
  have same : c.Throughout fun d => engine.isWrapper wrappers d = d.wraps wrappers := by
    refine known.derive fun d known => ?_
    simp only [isWrapper, known.here, Cursor.wraps]
  rw [standIn?, Cursor.standIn?_congr same]
  cases found : Cursor.standIn? (Cursor.wraps wrappers) c with
  | none => rfl
  | some concrete =>
      have met := (known.standIn found).here
      rw [Option.filter_some, isKnown, met]
      rfl

namespace Context

variable {ctx : Context} {c : Cursor}

/-- Whether what lifting asks about a cursor is answered as the tree itself has it. -/
structure Reads (ctx : Context) (c : Cursor) : Prop where
  kind : ctx.engine.kind c = pure c.facts.kind
  known : ctx.engine.kindOf c = .ok c.facts.kind
  text : (ctx.tokenText c).outcome = .ok (leadingText ctx.unit c)
  declaration : ctx.catalogue.lookup c.facts.kind = .ok .varDecl →
    (ctx.askVariable c).outcome = .ok () ∧ ctx.engine.initializerOf? c = c.properInitializer?

theorem approach_outcome {kind : Kind} (known : ctx.engine.kind c = pure kind)
    (wrappers : List Kind) : (ctx.approach wrappers c).outcome = .ok kind := by
  simp only [approach, known, pure_bind]
  split <;> rfl

theorem lift_outcome_of_standIn? (kind : ctx.engine.kind c = pure c.facts.kind)
    (standIn : ctx.engine.standIn? defaultWrappers c =
      Cursor.standIn? (Cursor.wraps defaultWrappers) c) :
    (ctx.lift c).outcome =
      match Cursor.standIn? (Cursor.wraps defaultWrappers) c with
      | none => .error (.barrenWrapper c.facts.kind)
      | some concrete => (ctx.liftConcrete concrete).outcome := by
  rw [lift, liftThrough_eq, Run.bind_outcome, approach_outcome kind, Outcome.ok_bind, standIn]
  cases Cursor.standIn? (Cursor.wraps defaultWrappers) c <;> rfl

theorem liftConcrete_outcome (kind : ctx.engine.kind c = pure c.facts.kind) :
    (ctx.liftConcrete c).outcome =
      (ctx.catalogue.lookup c.facts.kind).bind fun shape => (ctx.liftAs c shape).outcome := by
  rw [liftConcrete_eq]
  simp only [shapeOf, kind, pure_bind, bind_assoc, Run.bind_outcome, Run.ofExcept_outcome,
    Run.note_outcome, Outcome.ok_bind]

section Congr

variable {other : Context}

theorem liftLeaf_outcome_congr (text : (ctx.tokenText c).outcome = (other.tokenText c).outcome)
    (read : String → Run Node) :
    (ctx.liftLeaf c read).outcome = (other.liftLeaf c read).outcome := by
  rw [liftLeaf, liftLeaf, Run.bind_outcome, Run.bind_outcome, text]

theorem liftAll_outcome_congr (cursors : List Cursor)
    (each : ∀ d ∈ cursors, (ctx.lift d).outcome = (other.lift d).outcome) :
    (ctx.liftAll cursors).outcome = (other.liftAll cursors).outcome := by
  induction cursors with
  | nil => rw [liftAll_nil, liftAll_nil]
  | cons d rest ih =>
      rw [liftAll_cons, liftAll_cons]
      simp only [Run.bind_outcome, each d List.mem_cons_self,
        ih fun e member => each e (List.mem_cons_of_mem d member)]

end Congr

theorem liftAs_outcome_of_reads (reads : ctx.Reads c) {shape : Shape}
    (known : ctx.catalogue.lookup c.facts.kind = .ok shape)
    (children : ∀ d ∈ c.children,
      (ctx.lift d).outcome = ((faultless ctx.unit ctx.catalogue).lift d).outcome)
    (initializer : ∀ d, c.initializer = some d →
      (ctx.lift d).outcome = ((faultless ctx.unit ctx.catalogue).lift d).outcome) :
    (ctx.liftAs c shape).outcome =
      ((faultless ctx.unit ctx.catalogue).liftAs c shape).outcome := by
  have text : (ctx.tokenText c).outcome =
      ((faultless ctx.unit ctx.catalogue).tokenText c).outcome := by
    rw [reads.text, tokenText_faultless]
  cases shape with
  | translationUnit =>
      simp only [liftAs, Run.map_outcome, liftAll_outcome_congr c.children children]
  | literal => exact liftLeaf_outcome_congr text _
  | integerLiteral => exact liftLeaf_outcome_congr text _
  | floatingLiteral => exact liftLeaf_outcome_congr text _
  | stringLiteral => exact liftLeaf_outcome_congr text _
  | varDecl =>
      obtain ⟨asked, found⟩ := reads.declaration known
      simp only [liftAs, Run.bind_outcome, asked, found, askVariable_faultless,
        initializerOf?_faultless, Run.pure_outcome, Outcome.ok_bind]
      cases link : c.properInitializer? with
      | none => rfl
      | some d =>
          have same := initializer d (Cursor.properInitializer?_eq_some.mp link).1
          simp only [Run.bind_outcome, same]

/-- Lifting depends on an engine only through what it answers. -/
theorem lift_outcome_of_reads {c : Cursor} (reads : c.Throughout ctx.Reads) :
    (ctx.lift c).outcome = ((faultless ctx.unit ctx.catalogue).lift c).outcome := by
  have known : c.Throughout fun d => ctx.engine.kindOf d = .ok d.facts.kind :=
    reads.derive fun d reads => reads.here.known
  rw [lift_outcome_of_standIn? reads.here.kind (Engine.standIn?_of_known known _),
    lift_outcome_of_standIn? kind_faultless (standIn?_faultless _)]
  cases found : Cursor.standIn? (Cursor.wraps defaultWrappers) c with
  | none => rfl
  | some concrete =>
      -- The stand-in may be the cursor itself; sizes go down only below it.
      have size := Cursor.sizeOf_le_of_standIn? c found
      have reads := reads.standIn found
      simp only [liftConcrete_outcome reads.here.kind, liftConcrete_outcome kind_faultless]
      refine Outcome.bind_congr fun shape known => ?_
      refine liftAs_outcome_of_reads reads.here known ?_ ?_
      · intro d member
        have := Cursor.sizeOf_lt_of_mem_children member
        exact lift_outcome_of_reads (reads.children d member)
      · intro d link
        have := Cursor.sizeOf_lt_of_initializer link
        exact lift_outcome_of_reads (reads.initializer d link)
termination_by sizeOf c

end Context

/-! ## Trees that a library can read -/

def Kind.isExpression : Kind → Bool
  | .listed kind => kind.isExpression
  | _ => false

namespace Cursor

def isExpression (c : Cursor) : Bool := c.facts.kind.isExpression

/-- Whether the text of a declaration and the cursors below it show which initializer it has. -/
inductive Declares (c : Cursor) : Prop where
  | nothing (absent : c.initializer = none)
      (unshown : "=" ∉ c.extentLexemes ∨ ∀ d ∈ c.children, d.isExpression = false)
  | last {d : Cursor} (present : c.initializer = some d) (covers : c.facts.hasExtent = true)
      (shown : "=" ∈ c.facts.lexemes) (last : (c.children.filter isExpression).getLast? = some d)

/-- Whether a cursor says nothing of itself that only an engine in memory has a use for. -/
structure Conventional (c : Cursor) : Prop where
  listed : ∃ kind, c.facts.kind = .listed kind
  proper : c.facts.isNull = false
  placeless : c.facts.place = none
  declares : c.facts.kind = .varDecl → c.Declares

/-- The initializer that a declaration shows is the last expression below it, behind an equals
sign. -/
theorem Declares.initializer_eq {c : Cursor} (h : c.Declares) :
    c.initializer =
      if Engine.assigns c then (c.children.filter isExpression).getLast? else none := by
  cases h with
  | nothing absent unshown =>
      rw [absent]
      cases unshown with
      | inl plain => simp [Engine.assigns, plain]
      | inr bare =>
          have empty : c.children.filter isExpression = [] := by
            rw [List.filter_eq_nil_iff]
            intro d member
            simp [bare d member]
          rw [empty, List.getLast?_nil, ite_self]
  | last present covers shown last =>
      rw [present, last]
      simp [Engine.assigns, extentLexemes, covers, shown]

end Cursor

namespace Catalogue

theorem mem_of_lookup {catalogue : Catalogue} {kind : Kind} {shape : Shape}
    (h : catalogue.lookup kind = .ok shape) : (kind, some shape) ∈ catalogue.entries := by
  unfold lookup at h
  split at h
  · next found held =>
      cases h
      have held := Option.join_eq_some_iff.mp held
      obtain ⟨before, behind, split, -⟩ := List.lookup_eq_some_iff.mp held
      rw [split]
      exact List.mem_append_right _ List.mem_cons_self
  · cases h

theorem basic_outcome :
    basic.outcome = .ok ⟨[(.translationUnit, some .translationUnit),
      (.integerLiteral, some .integerLiteral), (.floatingLiteral, some .floatingLiteral),
      (.varDecl, some .varDecl)]⟩ := rfl

theorem eq_varDecl_of_basic {catalogue : Catalogue} {kind : Kind}
    (basic : Catalogue.basic.outcome = .ok catalogue) (h : catalogue.lookup kind = .ok .varDecl) :
    kind = .varDecl := by
  rw [basic_outcome] at basic
  cases basic
  simpa using mem_of_lookup h

end Catalogue

namespace Context

variable {unit : ActiveUnit} {catalogue : Catalogue} {exports : Exports} {c : Cursor}

theorem kindOf_library (h : c.Conventional) :
    (Engine.library exports).kindOf c = .ok c.facts.kind := by
  obtain ⟨kind, listed⟩ := h.listed
  simp only [Engine.kindOf, listed, Kind.identify?]

theorem kind_library (h : c.Conventional) :
    (Engine.library exports).kind c = pure c.facts.kind := by
  rw [Engine.kind, kindOf_library h]
  rfl

theorem isExpression_library (h : c.Conventional) :
    (Engine.library exports).isExpression c = c.isExpression := by
  simp only [Engine.isExpression, kindOf_library h, Cursor.isExpression]
  cases c.facts.kind <;> rfl

theorem unlisted?_library (h : c.Conventional) : (Engine.library exports).unlisted? c = none := by
  obtain ⟨kind, listed⟩ := h.listed
  simp only [Engine.unlisted?, kindOf_library h, listed]

def inLibrary (exports : Exports) (unit : ActiveUnit) (catalogue : Catalogue) : Context :=
  ⟨.library exports, some unit, catalogue⟩

theorem token_library (exports : Exports) (unit : ActiveUnit) (c : Cursor) :
    ((Engine.library exports).token (some unit) c).outcome = .ok c.facts.token := by
  obtain ⟨tokens, initializers⟩ := exports
  cases tokens with
  | false => rfl
  | true =>
      simp only [Engine.token, if_true, Run.bind_outcome, Run.call_outcome, Outcome.ok_bind]
      split <;> rfl

theorem tokenText_library (placeless : c.facts.place = none) :
    ((inLibrary exports unit catalogue).tokenText c).outcome =
      .ok (leadingText (some unit) c) := by
  have same : (Engine.memory []).tokenOf? (some unit) c = c.facts.token := by
    rw [Engine.tokenOf?, placeless]
  unfold tokenText leadingText
  rw [same]
  split
  · rw [Run.map_outcome]
    exact congrArg _ (token_library exports unit c)
  · rfl

theorem askVariable_library (children : ∀ d ∈ c.children, d.Conventional) :
    ((inLibrary exports unit catalogue).askVariable c).outcome = .ok () := by
  have listed : c.children.findSome? (Engine.library exports).unlisted? = none := by
    rw [List.findSome?_eq_none_iff]
    exact fun d member => unlisted?_library (children d member)
  obtain ⟨tokens, initializers⟩ := exports
  cases initializers with
  | true => rfl
  | false =>
      simp only [askVariable, inLibrary, Engine.seekInitializer, listed]
      cases Engine.assigns c <;> rfl

theorem initializerOf?_library (children : ∀ d ∈ c.children, d.Conventional)
    (declares : c.Declares) :
    (inLibrary exports unit catalogue).engine.initializerOf? c = c.properInitializer? := by
  obtain ⟨tokens, initializers⟩ := exports
  cases initializers with
  | true => rfl
  | false =>
      have expressions : c.children.filter (Engine.library ⟨tokens, false⟩).isExpression =
          c.children.filter Cursor.isExpression :=
        List.filter_congr fun d member => isExpression_library (children d member)
      simp only [inLibrary, Engine.initializerOf?, expressions, Cursor.properInitializer?,
        declares.initializer_eq]

/-- A library answers as the tree has it throughout a conventional tree. -/
theorem reads_library (basic : Catalogue.basic.outcome = .ok catalogue)
    (h : c.Throughout Cursor.Conventional) :
    c.Throughout (inLibrary exports unit catalogue).Reads := by
  refine h.derive fun d h => ?_
  have children : ∀ e ∈ d.children, e.Conventional := fun e member => (h.children e member).here
  refine ⟨kind_library h.here, kindOf_library h.here, tokenText_library h.here.placeless, ?_⟩
  intro known
  have declares := h.here.declares (Catalogue.eq_varDecl_of_basic basic known)
  exact ⟨askVariable_library children, initializerOf?_library children declares⟩

end Context

theorem Session.load_outcome {s : Session} (sound : s.engine.fault? .loadUnit = none)
    (rooted : s.engine.fault? .unitRoot = none) (path : String) (arguments : List String)
    (unsaved : Option (List (String × String))) :
    (s.load path arguments unsaved).2.outcome =
      if s.closed then .error .sessionClosed
      else match Engine.serve? s.supply s.served with
        | none => .error .unitNotLoaded
        | some unit =>
          ((⟨s.engine, some unit, s.catalogue⟩ : Context).lift unit.source.root).outcome := by
  cases closed : s.closed with
  | true => rw [load_of_closed closed]; rfl
  | false =>
      rw [load_run closed, Frontend.loaded?_of_sound sound]
      cases Engine.serve? s.supply s.served with
      | none => simp [liftLoaded, Frontend.refusal, sound]
      | some unit => simp [liftLoaded, Engine.rootOf, Engine.attempt, rooted]

/-- In a session with the basic catalogue, a unit whose tree is conventional gives the same node or
the same failure whether it is loaded in memory or by a library, whatever the library exports. -/
theorem engines_agree (s : Session) (basic : Catalogue.basic.outcome = .ok s.catalogue)
    (conventional : ∀ unit, Engine.serve? s.supply s.served = some unit →
      unit.source.root.Throughout Cursor.Conventional)
    (exports : Exports) (path : String) (arguments : List String)
    (unsaved : Option (List (String × String))) :
    ({ s with engine := .library exports }.load path arguments unsaved).2.outcome =
      ({ s with engine := .memory [] }.load path arguments unsaved).2.outcome := by
  have byLibrary := Session.load_outcome (s := { s with engine := .library exports }) rfl rfl
    path arguments unsaved
  have inMemory := Session.load_outcome (s := { s with engine := .memory [] }) rfl rfl
    path arguments unsaved
  rw [byLibrary, inMemory]
  congr 1
  cases given : Engine.serve? s.supply s.served with
  | none => rfl
  | some unit =>
      exact Context.lift_outcome_of_reads (Context.reads_library basic (conventional unit given))

/-- A number is found through a wrapper and as the initializer of a variable, by a library that can
be asked for neither tokens nor initializers. -/
theorem engines_agree_on_initializer :
    let number : Cursor := { facts := { kind := .integerLiteral, token := some "42" } }
    let value : Cursor := { facts := { kind := .unexposedExpr }, children := [number] }
    let declaration : Cursor :=
      { facts := { kind := .varDecl, lexemes := ["int", "x", "=", "42"] }
        children := [value]
        initializer := some value }
    let root : Cursor := { facts := { kind := .translationUnit }, children := [declaration] }
    ∃ s, (Session.create ⟨.memory [], [some { root }]⟩ {} Catalogue.basic).outcome = .ok s ∧
      root.Throughout Cursor.Conventional ∧
      ({ s with engine := .library ⟨false, false⟩ }.load "a.c" [] none).2.outcome =
        ({ s with engine := .memory [] }.load "a.c" [] none).2.outcome := by
  intro number value declaration root
  have other {c : Cursor} (no : c.facts.kind ≠ .varDecl) : c.facts.kind = .varDecl → c.Declares :=
    fun declared => absurd declared no
  have onNumber : number.Throughout Cursor.Conventional :=
    .intro ⟨⟨_, rfl⟩, rfl, rfl, other (by decide)⟩ nofun nofun
  have onValue : value.Throughout Cursor.Conventional :=
    .intro ⟨⟨_, rfl⟩, rfl, rfl, other (by decide)⟩ (List.forall_mem_singleton.mpr onNumber) nofun
  have onDeclaration : declaration.Throughout Cursor.Conventional := by
    refine .intro ⟨⟨_, rfl⟩, rfl, rfl, fun _ => ?_⟩ (List.forall_mem_singleton.mpr onValue) ?_
    · exact .last rfl rfl (by decide) rfl
    · intro d link
      cases link
      exact onValue
  have onRoot : root.Throughout Cursor.Conventional :=
    .intro ⟨⟨_, rfl⟩, rfl, rfl, other (by decide)⟩ (List.forall_mem_singleton.mpr onDeclaration)
      nofun
  refine ⟨_, rfl, onRoot, engines_agree _ rfl ?_ ⟨false, false⟩ "a.c" [] none⟩
  intro unit given
  cases given
  exact onRoot

end CursorLift
