import CursorLift.CommandLine.Dump
import CursorLift.Proofs.FirstFailure
import CursorLift.Proofs.Interchange

/-! # What can go wrong with a loaded unit

Programs report construction failures and end in order. A unit that was loaded should lead to
no other failure, whatever its tokens and kinds are. There are three ways in which a cursor
leads to one nonetheless, and no fourth: a numeral with too many digits, a child of unlisted
kind where the initializer has to be found among the children, and a number that counts back
past the table of kinds. Where the tree has none of these, lifting gives a node or fails in order.
-/

namespace CursorLift

/-! ## Slips -/

/-- Whether a cursor is the root of a tree or below it, down through children and
initializers. -/
inductive Cursor.Holds (root : Cursor) : Cursor → Prop where
  | root : Holds root root
  | child {c d : Cursor} (above : Holds root c) (member : d ∈ c.children) : Holds root d
  | initializer {c d : Cursor} (above : Holds root c) (link : c.initializer = some d) :
      Holds root d

def Engine.leadingText (engine : Engine) (unit : Option ActiveUnit) (c : Cursor) : String :=
  if c.facts.hasExtent then (engine.tokenOf? unit c).getD "" else ""

/-- How a cursor leads to a failure that is about neither the tree nor the use made of it. -/
inductive Slip (engine : Engine) (unit : Option ActiveUnit) : Cursor → Failure → Prop where
  | oversized {c : Cursor} {numeral : Literal.Integer}
      (kind : engine.kindOf c = .ok .integerLiteral)
      (written : Literal.Integer.scan? (Text.dropBlanks (engine.leadingText unit c).toList) =
        some numeral)
      (long : 4300 < numeral.digits.length) :
      Slip engine unit c (.tooManyDigits numeral.digits.length)
  | unlistedChild {exports : Exports} {c d : Cursor} {id : Int} {before after : List Cursor}
      (library : engine = .library exports)
      (lacking : exports.initializers = false)
      (kind : engine.kindOf c = .ok .varDecl)
      (assigns : "=" ∈ c.extentLexemes)
      (children : c.children = before ++ d :: after)
      (listed : ∀ e ∈ before, engine.unlisted? e = none)
      (unlisted : engine.kindOf d = .ok (.number id)) :
      Slip engine unit c (.unlisted id)
  | outside {exports : Exports} {c : Cursor} {id : Int}
      (library : engine = .library exports)
      (kind : c.facts.kind = .number id)
      (low : Numbering.word id < -(Kind.Table.size : Int)) :
      Slip engine unit c .outsideTable

theorem Slip.not_isConstruction {engine : Engine} {unit : Option ActiveUnit} {c : Cursor}
    {failure : Failure} (h : Slip engine unit c failure) : failure.isConstruction = false := by
  cases h <;> rfl

namespace Cursor.Holds

variable {root c d : Cursor}

theorem trans (h : root.Holds c) (below : c.Holds d) : root.Holds d := by
  induction below with
  | root => exact h
  | child _ member ih => exact .child ih member
  | initializer _ link ih => exact .initializer ih link

theorem of_initializerOf? {engine : Engine} (h : engine.initializerOf? c = some d) :
    c.Holds d := by
  unfold Engine.initializerOf? at h
  obtain ⟨h, -⟩ := Option.filter_eq_some_iff.mp h
  split at h
  · split at h
    · have among := (List.mem_filter.mp (List.mem_of_getLast? h)).1
      exact .child .root among
    · cases h
  · exact .initializer .root h

theorem of_standIn? {engine : Engine} {wrappers : List Kind}
    (h : engine.standIn? wrappers c = some d) : c.Holds d :=
  Cursor.of_standIn? (fun _ above _ member => .child above member) .root
    (Option.filter_eq_some_iff.mp h).1

end Cursor.Holds

/-! ## Runs whose failures are accounted for -/

/-- Whether a run gives a value, fails in order, or fails by a slip in a tree. -/
def Contained {α : Type} (ctx : Context) (root : Cursor) (x : Run α) : Prop :=
  ∀ failure, x.outcome = .error failure →
    failure.isConstruction = true ∨ ∃ c, root.Holds c ∧ Slip ctx.engine ctx.unit c failure

namespace Contained

variable {α β : Type} {ctx : Context} {root : Cursor} {x : Run α}

theorem of_ok {a : α} (h : x.outcome = .ok a) : Contained ctx root x := by
  intro failure failed
  rw [h] at failed
  cases failed

theorem fail {failure : Failure} (h : failure.isConstruction = true) :
    Contained ctx root (Run.fail failure : Run α) := by
  intro _ failed
  cases failed
  exact .inl h

theorem slip {failure : Failure} (h : Slip ctx.engine ctx.unit root failure) :
    Contained ctx root (Run.fail failure : Run α) := by
  intro _ failed
  cases failed
  exact .inr ⟨root, .root, h⟩

theorem widen {c : Cursor} (h : Contained ctx c x) (above : root.Holds c) :
    Contained ctx root x := by
  intro failure failed
  cases h failure failed with
  | inl order => exact .inl order
  | inr slip =>
      obtain ⟨d, below, slip⟩ := slip
      exact .inr ⟨d, above.trans below, slip⟩

theorem bind {f : α → Run β} (first : Contained ctx root x)
    (second : ∀ a, x.outcome = .ok a → Contained ctx root (f a)) :
    Contained ctx root (x >>= f) := by
  intro failure failed
  rw [Run.bind_outcome] at failed
  cases ended : x.outcome with
  | error other =>
      rw [ended] at failed
      cases failed
      exact first _ ended
  | ok a =>
      rw [ended] at failed
      exact second a ended failure failed

end Contained

/-! ## Lifting is contained -/

/-- Whether no operation of an engine is told to fail. -/
def Engine.Sound (engine : Engine) : Prop := ∀ operation, engine.fault? operation = none

theorem Engine.Sound.attempt {engine : Engine} (sound : engine.Sound) (operation : Operation) :
    engine.attempt operation = pure () := by
  rw [Engine.attempt, sound]

/-- What stands outside the table of kinds is a number that a library was given. -/
theorem Engine.kindOf_eq_error {engine : Engine} {c : Cursor} {failure : Failure} :
    engine.kindOf c = .error failure ↔
      ∃ exports id, engine = .library exports ∧ c.facts.kind = .number id ∧
        Numbering.word id < -(Kind.Table.size : Int) ∧ failure = .outsideTable := by
  cases engine with
  | memory faults => simp [kindOf]
  | library exports =>
      cases kind : c.facts.kind with
      | listed | word | absent => simp [kindOf, kind, Kind.identify?]
      | number id =>
          cases placed : Numbering.place? Kind.Table.size (Numbering.word id) with
          | none =>
              have low := Numbering.place?_eq_none_iff.mp placed
              simp [kindOf, kind, Kind.identify?, placed, low, eq_comm]
          | some place =>
              have inside : ¬ Numbering.word id < -(Kind.Table.size : Int) := by
                simp [← Numbering.place?_eq_none_iff, placed]
              simp [kindOf, kind, Kind.identify?, placed, inside]

theorem Slip.of_kindOf_error {engine : Engine} {unit : Option ActiveUnit} {c : Cursor}
    {failure : Failure} (h : engine.kindOf c = .error failure) : Slip engine unit c failure := by
  obtain ⟨exports, id, library, kind, low, rfl⟩ := Engine.kindOf_eq_error.mp h
  exact .outside library kind low

namespace Context

variable {ctx : Context} {c : Cursor}

theorem contained_kind (sound : ctx.engine.Sound) (c : Cursor) :
    Contained ctx c (ctx.engine.kind c) := by
  rw [Engine.kind, sound.attempt, pure_bind]
  cases known : ctx.engine.kindOf c with
  | ok kind => exact .of_ok rfl
  | error failure => exact .slip (.of_kindOf_error known)

theorem contained_approach (sound : ctx.engine.Sound) (wrappers : List Kind) (c : Cursor) :
    Contained ctx c (ctx.approach wrappers c) := by
  refine (contained_kind sound c).bind ?_
  intro kind _
  split <;> exact .of_ok rfl

theorem contained_shapeOf (sound : ctx.engine.Sound) (c : Cursor) :
    Contained ctx c (ctx.shapeOf c) := by
  refine (contained_kind sound c).bind ?_
  intro kind _
  cases known : ctx.catalogue.lookup kind with
  | ok shape => exact .of_ok rfl
  | error failure =>
      rw [Catalogue.lookup_eq_error known]
      exact .fail rfl

theorem lookup_of_shapeOf (sound : ctx.engine.Sound) {shape : Shape}
    (h : (ctx.shapeOf c).outcome = .ok shape) :
    ∃ kind, ctx.engine.kindOf c = .ok kind ∧ ctx.catalogue.lookup kind = .ok shape := by
  simp only [shapeOf, Engine.kind, sound.attempt, pure_bind, Run.bind_outcome,
    Run.ofExcept_outcome] at h
  obtain ⟨kind, known, h⟩ := Outcome.bind_eq_ok.mp h
  obtain ⟨other, held, h⟩ := Outcome.bind_eq_ok.mp h
  cases h
  exact ⟨kind, known, held⟩

theorem tokenText_outcome (sound : ctx.engine.Sound) (active : ctx.unit.isSome) (c : Cursor) :
    (ctx.tokenText c).outcome = .ok (ctx.engine.leadingText ctx.unit c) := by
  obtain ⟨unit, active⟩ := Option.isSome_iff_exists.mp active
  have asked : (ctx.engine.token ctx.unit c).outcome = .ok (ctx.engine.tokenOf? ctx.unit c) := by
    rw [active]
    cases made : ctx.engine with
    | memory faults =>
        rw [made] at sound
        simp only [Engine.token, sound.attempt, Run.bind_outcome]
        rfl
    | library exports => exact token_library exports unit c
  unfold tokenText Engine.leadingText
  split
  · rw [Run.map_outcome, asked]
    rfl
  · rfl

theorem contained_integer (sound : ctx.engine.Sound) (active : ctx.unit.isSome)
    (kind : ctx.engine.kindOf c = .ok .integerLiteral) :
    Contained ctx c (ctx.liftLeaf c (integerNode c)) := by
  intro failure failed
  rw [liftLeaf, Run.bind_outcome, tokenText_outcome sound active, Outcome.ok_bind,
    integerNode_outcome] at failed
  cases read : Literal.readInteger (ctx.engine.leadingText ctx.unit c) with
  | ok value =>
      rw [read] at failed
      cases failed
  | error other =>
      rw [read] at failed
      cases failed
      obtain ⟨numeral, written, long, rfl⟩ := Literal.readInteger_eq_error.mp read
      exact .inr ⟨c, .root, .oversized kind written long⟩

theorem contained_floating (sound : ctx.engine.Sound) (active : ctx.unit.isSome) (c : Cursor) :
    Contained ctx c (ctx.liftLeaf c (floatingNode c)) := by
  intro failure failed
  rw [liftLeaf, Run.bind_outcome, tokenText_outcome sound active, Outcome.ok_bind,
    floatingNode_outcome] at failed
  cases failed

theorem contained_askVariable (sound : ctx.engine.Sound)
    (kind : ctx.engine.kindOf c = .ok .varDecl) : Contained ctx c (ctx.askVariable c) := by
  rw [askVariable, sound.attempt, pure_bind]
  unfold Engine.seekInitializer
  split
  · next tokens library =>
      refine (Contained.of_ok rfl).bind fun _ _ => ?_
      refine (Contained.of_ok rfl).bind fun _ _ => ?_
      split
      · next assigns =>
          split
          · next failure found =>
              obtain ⟨before, d, after, children, unlisted, early⟩ :=
                List.findSome?_eq_some_iff.mp found
              have member : d ∈ c.children := by simp [children]
              unfold Engine.unlisted? at unlisted
              split at unlisted
              · next outside =>
                  cases unlisted
                  exact (Contained.slip (.of_kindOf_error outside)).widen (.child .root member)
              · next number =>
                  cases unlisted
                  have shown : "=" ∈ c.extentLexemes := List.contains_iff_mem.mp assigns
                  exact .slip (.unlistedChild library rfl kind shown children early number)
              · cases unlisted
          · exact .of_ok rfl
      · exact .of_ok rfl
  · exact .of_ok (congrArg Run.outcome (sound.attempt .initializer))

theorem contained_liftAll {root : Cursor} {cursors : List Cursor}
    (each : ∀ d ∈ cursors, Contained ctx root (ctx.lift d)) :
    Contained ctx root (ctx.liftAll cursors) := by
  induction cursors with
  | nil =>
      rw [liftAll_nil]
      exact .of_ok rfl
  | cons d rest ih =>
      rw [liftAll_cons]
      refine (each d List.mem_cons_self).bind fun node _ => ?_
      have later := ih fun e member => each e (List.mem_cons_of_mem d member)
      exact later.bind fun nodes _ => .of_ok rfl

theorem basic_cases {catalogue : Catalogue} {kind : Kind} {shape : Shape}
    (basic : Catalogue.basic.outcome = .ok catalogue) (h : catalogue.lookup kind = .ok shape) :
    kind = .translationUnit ∧ shape = .translationUnit ∨
      kind = .integerLiteral ∧ shape = .integerLiteral ∨
      kind = .floatingLiteral ∧ shape = .floatingLiteral ∨
      kind = .varDecl ∧ shape = .varDecl := by
  rw [Catalogue.basic_outcome] at basic
  cases basic
  simpa using Catalogue.mem_of_lookup h

theorem contained_liftAs (basic : Catalogue.basic.outcome = .ok ctx.catalogue)
    (sound : ctx.engine.Sound) (active : ctx.unit.isSome) {kind : Kind} {shape : Shape}
    (known : ctx.engine.kindOf c = .ok kind) (held : ctx.catalogue.lookup kind = .ok shape)
    (children : ∀ d ∈ c.children, Contained ctx d (ctx.lift d))
    (initializer : ∀ d, ctx.engine.initializerOf? c = some d → Contained ctx d (ctx.lift d)) :
    Contained ctx c (ctx.liftAs c shape) := by
  obtain ⟨rfl, rfl⟩ | ⟨rfl, rfl⟩ | ⟨rfl, rfl⟩ | ⟨rfl, rfl⟩ := basic_cases basic held
  · have body : Contained ctx c (ctx.liftAll c.children) :=
      contained_liftAll fun d member => (children d member).widen (.child .root member)
    exact body.bind fun nodes _ => .of_ok rfl
  · exact contained_integer sound active known
  · exact contained_floating sound active c
  · refine (contained_askVariable sound known).bind fun _ _ => ?_
    split
    · exact .of_ok rfl
    · next d found =>
        have below := (initializer d found).widen (.of_initializerOf? found)
        exact below.bind fun node _ => .of_ok rfl

/-- With the basic catalogue and an engine that nothing keeps from answering, lifting fails in
order or by a slip. -/
theorem contained_lift (basic : Catalogue.basic.outcome = .ok ctx.catalogue)
    (sound : ctx.engine.Sound) (active : ctx.unit.isSome) (c : Cursor) :
    Contained ctx c (ctx.lift c) := by
  rw [lift, liftThrough_eq]
  refine (contained_approach sound _ c).bind fun kind _ => ?_
  split
  · exact .fail rfl
  · next concrete found =>
      -- The stand-in may be the cursor itself; sizes go down only below it.
      have size := Engine.sizeOf_le_of_standIn? found
      rw [liftConcrete_eq]
      refine Contained.widen ?_ (.of_standIn? found)
      refine (contained_shapeOf sound concrete).bind fun shape given => ?_
      obtain ⟨kind, known, held⟩ := lookup_of_shapeOf sound given
      refine contained_liftAs basic sound active known held ?_ ?_
      · intro d member
        have := Cursor.sizeOf_lt_of_mem_children member
        exact contained_lift basic sound active d
      · intro d link
        have := Engine.sizeOf_lt_of_initializerOf? link
        exact contained_lift basic sound active d
termination_by sizeOf c

section Basic

variable {catalogue : Catalogue} (basic : Catalogue.basic.outcome = .ok catalogue)
include basic

theorem lookup_translationUnit : catalogue.lookup .translationUnit = .ok .translationUnit := by
  cases basic
  rfl

theorem lookup_integerLiteral : catalogue.lookup .integerLiteral = .ok .integerLiteral := by
  cases basic
  rfl

theorem lookup_varDecl : catalogue.lookup .varDecl = .ok .varDecl := by
  cases basic
  rfl

end Basic

theorem lift_outcome_of_kindOf (sound : ctx.engine.Sound) {kind : Kind}
    (known : ctx.engine.kindOf c = .ok kind) (concrete : kind ≠ .unexposedExpr) :
    (ctx.lift c).outcome =
      (ctx.catalogue.lookup kind).bind fun shape => (ctx.liftAs c shape).outcome := by
  have asked : ctx.engine.kind c = pure kind := by
    rw [Engine.kind, sound.attempt, known]
    rfl
  have standIn : ctx.engine.standIn? defaultWrappers c = some c := by
    have plain : ctx.engine.isWrapper defaultWrappers c = false := by
      simp [Engine.isWrapper, known, defaultWrappers, concrete]
    rw [Engine.standIn?, Cursor.standIn?_of_not_isWrapper plain, Option.filter_some,
      Engine.isKnown, known]
    rfl
  have silent : ctx.approach defaultWrappers c = pure kind := by
    simp [approach, asked, defaultWrappers, concrete]
  rw [lift, liftThrough_eq, silent, pure_bind, standIn]
  simp only [liftConcrete_eq, shapeOf, asked, pure_bind, Run.bind_outcome, Run.ofExcept_outcome,
    Run.note_outcome, Outcome.ok_bind, bind_assoc]

/-- A slip of a cursor is what lifting the cursor fails with. -/
theorem lift_outcome_of_slip (basic : Catalogue.basic.outcome = .ok ctx.catalogue)
    (sound : ctx.engine.Sound) (active : ctx.unit.isSome) {failure : Failure}
    (slip : Slip ctx.engine ctx.unit c failure) : (ctx.lift c).outcome = .error failure := by
  cases slip with
  | oversized kind written long =>
      have tooLong := Literal.readInteger_eq_error.mpr ⟨_, written, long, rfl⟩
      rw [lift_outcome_of_kindOf sound kind (by decide), lookup_integerLiteral basic,
        Outcome.ok_bind, liftAs, liftLeaf, Run.bind_outcome, tokenText_outcome sound active,
        Outcome.ok_bind, integerNode_outcome, tooLong]
      rfl
  | @unlistedChild exports _ d id before after library lacking kind assigns children listed
      unlisted =>
      have found : c.children.findSome? ctx.engine.unlisted? = some (.unlisted id) := by
        refine List.findSome?_eq_some_iff.mpr ⟨before, d, after, children, ?_, listed⟩
        rw [Engine.unlisted?, unlisted]
      have shown : Engine.assigns c = true := List.contains_iff_mem.mpr assigns
      have sought : (ctx.askVariable c).outcome = .error (.unlisted id) := by
        obtain ⟨tokens, initializers⟩ := exports
        cases lacking
        rw [library] at found
        rw [askVariable, sound.attempt, pure_bind, library]
        simp [Engine.seekInitializer, shown, found]
      rw [lift_outcome_of_kindOf sound kind (by decide), lookup_varDecl basic, Outcome.ok_bind,
        liftAs, Run.bind_outcome, sought]
      rfl
  | outside library kind low =>
      have unplaced := Numbering.place?_eq_none_iff.mpr low
      have unknown : ctx.engine.kindOf c = .error .outsideTable := by
        simp [library, Engine.kindOf, kind, Kind.identify?, unplaced]
      rw [lift, liftThrough_eq, Run.bind_outcome, approach, Run.bind_outcome, Engine.kind,
        sound.attempt, pure_bind, unknown]
      rfl

theorem lift_outcome_of_slip_child (basic : Catalogue.basic.outcome = .ok ctx.catalogue)
    (sound : ctx.engine.Sound) (active : ctx.unit.isSome)
    (kind : ctx.engine.kindOf c = .ok .translationUnit) {d : Cursor} {rest : List Cursor}
    (children : c.children = d :: rest) {failure : Failure}
    (slip : Slip ctx.engine ctx.unit d failure) : (ctx.lift c).outcome = .error failure := by
  rw [lift_outcome_of_kindOf sound kind (by decide), lookup_translationUnit basic, Outcome.ok_bind,
    liftAs, Run.map_outcome, children, liftAll_cons, Run.bind_outcome,
    lift_outcome_of_slip basic sound active slip]
  rfl

theorem eq_translationUnit_of_lift (basic : Catalogue.basic.outcome = .ok ctx.catalogue)
    (sound : ctx.engine.Sound) (kind : ctx.engine.kindOf c = .ok .translationUnit) {node : Node}
    (h : (ctx.lift c).outcome = .ok node) : ∃ body, node = .translationUnit c body := by
  rw [lift_outcome_of_kindOf sound kind (by decide), lookup_translationUnit basic, Outcome.ok_bind,
    liftAs, Run.map_outcome] at h
  obtain ⟨body, -, rfl⟩ := Outcome.map_eq_ok.mp h
  exact ⟨body, rfl⟩

end Context

/-! ## Loading is contained -/

/-- How loading a unit ends: with a node of the unit's root, in order, or by a slip in its tree. -/
inductive LoadEnds (engine : Engine) (unit : ActiveUnit) : Except Failure Node → Prop where
  | node (body : List Node) : LoadEnds engine unit (.ok (.translationUnit unit.source.root body))
  | inOrder {failure : Failure} (construction : failure.isConstruction = true) :
      LoadEnds engine unit (.error failure)
  | bySlip {c : Cursor} {failure : Failure} (within : unit.source.root.Holds c)
      (slip : Slip engine (some unit) c failure) : LoadEnds engine unit (.error failure)

namespace Session

variable {s : Session} {unit : ActiveUnit}

theorem load_ends (basic : Catalogue.basic.outcome = .ok s.catalogue) (sound : s.engine.Sound)
    (opened : s.closed = false) (given : Engine.serve? s.supply s.served = some unit)
    (kind : s.engine.kindOf unit.source.root = .ok .translationUnit) (path : String)
    (arguments : List String) (unsaved : Option (List (String × String))) :
    LoadEnds s.engine unit (s.load path arguments unsaved).2.outcome := by
  rw [load_outcome (sound .loadUnit) (sound .unitRoot), opened, given]
  let ctx : Context := ⟨s.engine, some unit, s.catalogue⟩
  show LoadEnds s.engine unit (ctx.lift unit.source.root).outcome
  have contained : Contained ctx _ (ctx.lift unit.source.root) :=
    Context.contained_lift basic sound rfl unit.source.root
  cases ended : (ctx.lift unit.source.root).outcome with
  | ok node =>
      obtain ⟨body, rfl⟩ := Context.eq_translationUnit_of_lift basic sound kind ended
      exact .node body
  | error failure =>
      cases contained failure ended with
      | inl construction => exact .inOrder construction
      | inr slipped =>
          obtain ⟨c, within, slip⟩ := slipped
          exact .bySlip within slip

end Session

/-! ## The dump program -/

theorem Engine.sound_library (exports : Exports) : (Engine.library exports).Sound :=
  fun _ => rfl

theorem Session.close_outcome_of_library {s : Session} {exports : Exports}
    (library : s.engine = .library exports) :
    s.close.2.outcome = .ok () := by
  unfold close
  rw [library]
  split <;> rfl

/-- With a library, lifting a file ends as loading its unit does in a session of its own. -/
theorem Frontend.liftFile_outcome (exports : Exports) (supply : List (Option SourceUnit))
    (settings : Settings) (path : String) (arguments : List String) :
    ∃ s : Session, s.engine = .library exports ∧ s.supply = supply ∧ s.served = 0 ∧
      s.closed = false ∧ Catalogue.basic.outcome = .ok s.catalogue ∧
      ((⟨.library exports, supply⟩ : Frontend).liftFile settings path arguments).outcome =
        (s.load path arguments none).2.outcome := by
  let opened : Session :=
    { engine := .library exports, supply, settings, index := some 1
      catalogue := ⟨[(.translationUnit, some .translationUnit),
        (.integerLiteral, some .integerLiteral), (.floatingLiteral, some .floatingLiteral),
        (.varDecl, some .varDecl)]⟩ }
  refine ⟨opened, rfl, rfl, rfl, rfl, Catalogue.basic_outcome, ?_⟩
  have created : (Session.create ⟨.library exports, supply⟩ settings Catalogue.basic).outcome =
      .ok opened := rfl
  have closes : (opened.load path arguments none).1.close.2.outcome = .ok () :=
    Session.close_outcome_of_library (Session.load_engine opened path arguments none)
  rw [liftFile, inSession, Run.bind_of_ok created]
  simp only [Session.within, Run.andFinally, closes]

namespace CommandLine

/-- How the program ends with a file that it has loaded. -/
inductive ProgramEnds (engine : Engine) (unit : ActiveUnit) : Ending → Prop where
  | dumped : ProgramEnds engine unit (.status 0)
  | reported : ProgramEnds engine unit (.status 1)
  | bySlip {c : Cursor} {failure : Failure} (within : unit.source.root.Holds c)
      (slip : Slip engine (some unit) c failure) : ProgramEnds engine unit (.broke failure)
  /-- The node has more levels than can be dumped. -/
  | tooDeep {body : List Node}
      (deep : Node.lowestLevel < (Node.translationUnit unit.source.root body).levels) :
      ProgramEnds engine unit (.broke .tooDeep)

theorem present_ends {engine : Engine} {unit : ActiveUnit} {ran : Run Node}
    (h : LoadEnds engine unit ran.outcome) (verbose : Bool) :
    ProgramEnds engine unit (present verbose ran).ending := by
  have fits : 2 ≤ Node.widestIndent := by decide
  have printed (node : Node) : node.dump (some Node.defaultIndent) = _ := node.dump_of_fits fits
  unfold present
  generalize ran.outcome = ended at h
  cases h with
  | node body =>
      rw [Outcome.ok_bind, printed]
      by_cases deep : Node.lowestLevel < (Node.translationUnit unit.source.root body).levels
      · rw [if_pos deep]
        exact .tooDeep deep
      · rw [if_neg deep]
        exact .dumped
  | inOrder construction =>
      simp only [Outcome.error_bind, construction, if_true]
      exact .reported
  | bySlip within slip =>
      simp only [Outcome.error_bind, slip.not_isConstruction]
      exact .bySlip within slip

end CommandLine

/-- With the basic catalogue and an engine that nothing keeps from answering, loading a unit whose
root is a translation unit gives a node of that shape or fails in order, unless a cursor of its tree
makes one of the three slips. The dump program then prints the node or reports the failure, unless
it is the slip that ends it or the node has too many levels to be dumped. Slips do escape: one of a
cursor is what lifting that cursor fails with. -/
theorem loading_fails_in_order_or_by_slip (engine : Engine) (sound : engine.Sound)
    (catalogue : Catalogue) (basic : Catalogue.basic.outcome = .ok catalogue) (unit : ActiveUnit)
    (kind : engine.kindOf unit.source.root = .ok .translationUnit) :
    (∀ s : Session, s.engine = engine → s.catalogue = catalogue → s.closed = false →
      Engine.serve? s.supply s.served = some unit →
      ∀ path arguments unsaved, LoadEnds engine unit (s.load path arguments unsaved).2.outcome) ∧
    (∀ (exports : Exports) (supply : List (Option SourceUnit)), engine = .library exports →
      Engine.serve? supply 0 = some unit →
      ∀ arguments options file compilerArguments directory,
        CommandLine.request arguments = .ok (.dump options file compilerArguments) →
        options.workingDirectory = some directory →
        CommandLine.ProgramEnds engine unit
          (CommandLine.perform ⟨engine, supply⟩ arguments).ending) ∧
    ∀ (c : Cursor) (failure : Failure), Slip engine (some unit) c failure →
      ((⟨engine, some unit, catalogue⟩ : Context).lift c).outcome = .error failure ∧
        failure.isConstruction = false := by
  refine ⟨?_, ?_, ?_⟩
  · rintro s rfl rfl opened given path arguments unsaved
    exact Session.load_ends basic sound opened given kind path arguments unsaved
  · rintro exports supply rfl given arguments options file compilerArguments directory
      requested located
    have performed : CommandLine.perform ⟨.library exports, supply⟩ arguments =
        CommandLine.present options.verbose (CommandLine.liftRequested ⟨.library exports, supply⟩
          options file compilerArguments) := by
      simp only [CommandLine.perform, requested]
    rw [performed]
    apply CommandLine.present_ends
    simp only [CommandLine.liftRequested, located]
    obtain ⟨s, library, supplied, fresh, opened, basic, ended⟩ :=
      Frontend.liftFile_outcome exports supply
        { displayDiagnostics := options.showDiagnostics, workingDirectory := directory }
        file compilerArguments
    rw [ended, ← library]
    refine Session.load_ends basic ?_ opened ?_ ?_ file compilerArguments none
    · rw [library]
      exact Engine.sound_library exports
    · rw [supplied, fresh]
      exact given
    · rw [library]
      exact kind
  · intro c failure slip
    exact ⟨Context.lift_outcome_of_slip basic sound rfl slip, slip.not_isConstruction⟩

/-- A library that cannot be asked for initializers comes upon a child of an unlisted kind. The
program breaks on it, whatever the rest of the unit is. -/
theorem loading_fails_by_unlisted_child :
    let stranger : Cursor := { facts := { kind := .number 9999 } }
    let declaration : Cursor :=
      { facts := { kind := .varDecl, lexemes := ["int", "x", "=", "42"] }, children := [stranger] }
    let root : Cursor := { facts := { kind := .translationUnit }, children := [declaration] }
    let unit : ActiveUnit := ⟨0, { root }⟩
    let frontend : Frontend := ⟨.library ⟨true, false⟩, [some { root }]⟩
    frontend.engine.Sound ∧ frontend.engine.kindOf root = .ok .translationUnit ∧
      ∃ s, (Session.create frontend {} Catalogue.basic).outcome = .ok s ∧
        LoadEnds s.engine unit (s.load "a.c" [] none).2.outcome ∧
        CommandLine.ProgramEnds s.engine unit (CommandLine.perform frontend ["a.c"]).ending ∧
        ((⟨s.engine, some unit, s.catalogue⟩ : Context).lift declaration).outcome =
          .error (.unlisted 9999) := by
  intro stranger declaration root unit frontend
  have sound : frontend.engine.Sound := Engine.sound_library _
  obtain ⟨loads, performs, slips⟩ := loading_fails_in_order_or_by_slip _ sound _ rfl unit rfl
  refine ⟨sound, rfl, _, rfl, ?_, ?_, ?_⟩
  · exact loads _ rfl rfl rfl rfl "a.c" [] none
  · exact performs _ _ rfl rfl ["a.c"] {} "a.c" [] "." rfl rfl
  · have slip : Slip frontend.engine (some unit) declaration (.unlisted 9999) := by
      have first : declaration.children = [] ++ stranger :: [] := rfl
      exact .unlistedChild rfl rfl rfl (by decide) first nofun rfl
    exact (slips declaration _ slip).1

theorem Literal.scan?_ones (n : Nat) :
    Literal.Integer.scan? (Text.dropBlanks (.replicate (n + 1) '1')) =
      some ⟨none, .replicate (n + 1) '1'⟩ := by
  have plain : Text.isBlank '1' = false := by decide
  have digit : Text.isDecimalDigit '1' = true := by decide
  simp [Text.dropBlanks, List.replicate_succ, plain, Literal.Integer.scan?, Literal.Sign.scan,
    Literal.leadingDigits, digit]

theorem Slip.of_ones {unit : Option ActiveUnit} {n : Nat} (long : 4300 < n + 1) :
    Slip (.memory []) unit
      { facts := { kind := .integerLiteral, token := some (.ofList (.replicate (n + 1) '1')) } }
      (.tooManyDigits (n + 1)) := by
  generalize spelled : String.ofList (.replicate (n + 1) '1') = text
  have written : Literal.Integer.scan? (Text.dropBlanks text.toList) =
      some ⟨none, .replicate (n + 1) '1'⟩ := by
    rw [← spelled, String.toList_ofList]
    exact Literal.scan?_ones n
  have count : (List.replicate (n + 1) '1').length = n + 1 := List.length_replicate
  generalize List.replicate (n + 1) '1' = ones at written count
  rw [← count] at long ⊢
  exact @Slip.oversized _ _ _ ⟨none, ones⟩ rfl written long

/-- Neither a node nor a failure in order: an unlisted kind that lifting by itself would have
passed over, and an integer literal with 4301 digits. -/
theorem unlisted_and_oversized_escape :
    let stranger : Cursor := { facts := { kind := .number 9999 } }
    let number : Cursor := { facts := { kind := .integerLiteral, token := some "42" } }
    let declaration : Cursor :=
      { facts := { kind := .varDecl, spelling := some "x", lexemes := ["int", "x", "=", "42"] }
        children := [stranger, number]
        initializer := some number }
    let unlisted : Cursor := { facts := { kind := .translationUnit }, children := [declaration] }
    let digits := String.ofList (List.replicate 4301 '1')
    let long : Cursor := { facts := { kind := .integerLiteral, token := some digits } }
    let oversized : Cursor := { facts := { kind := .translationUnit }, children := [long] }
    (∃ s, (Session.create ⟨.library ⟨false, false⟩, [some { root := unlisted }]⟩ {}
          Catalogue.basic).outcome = .ok s ∧
        (s.load "a.c" [] none).2.outcome = .error (.unlisted 9999)) ∧
      (∃ s, (Session.create ⟨.memory [], [some { root := oversized }]⟩ {}
          Catalogue.basic).outcome = .ok s ∧
        (s.load "a.c" [] none).2.outcome = .error (.tooManyDigits 4301)) ∧
      (Failure.unlisted 9999).isConstruction = false ∧
      (Failure.tooManyDigits 4301).isConstruction = false := by
  intro stranger number declaration unlisted digits long oversized
  refine ⟨⟨_, rfl, ?_⟩, ⟨_, rfl, ?_⟩, rfl, rfl⟩
  · rw [Session.load_outcome rfl rfl]
    show (Context.lift ⟨.library ⟨false, false⟩, some ⟨0, { root := unlisted }⟩, _⟩ _).outcome = _
    refine Context.lift_outcome_of_slip_child rfl (fun _ => rfl) rfl rfl rfl ?_
    have first : declaration.children = [] ++ stranger :: [number] := rfl
    exact .unlistedChild rfl rfl rfl (by decide) first nofun rfl
  · rw [Session.load_outcome rfl rfl]
    show (Context.lift ⟨.memory [], some ⟨0, { root := oversized }⟩, _⟩ _).outcome = _
    refine Context.lift_outcome_of_slip_child rfl (fun _ => rfl) rfl rfl rfl ?_
    exact Slip.of_ones (by decide)

end CursorLift
