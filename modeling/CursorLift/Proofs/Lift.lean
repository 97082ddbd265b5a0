import CursorLift.Proofs.Run
import CursorLift.Proofs.Walk

/-! # Equations of lifting

Lifting recurs through three functions, on sizes that a proof has no use for. Here it is
brought to one equation for each way a cursor can be: a wrapper goes on with the first
concrete cursor below it, any other cursor with the shape of its kind. With an engine
that holds everything in memory, all that lifting asks for are tokens of the active unit.
-/

namespace CursorLift

open Run (CallsAs CallsOnly Sequential sequential_nil sequential_only)

/-- The initializer of a declaration, unless it is null. -/
def Cursor.properInitializer? (c : Cursor) : Option Cursor :=
  c.initializer.filter fun d => !d.facts.isNull

theorem Cursor.properInitializer?_eq_some {c d : Cursor} :
    c.properInitializer? = some d ↔ c.initializer = some d ∧ d.facts.isNull = false := by
  rw [properInitializer?, Option.filter_eq_some_iff, Bool.not_eq_true']

theorem Cursor.properInitializer?_eq_none {c : Cursor} :
    c.properInitializer? = none ↔ ∀ d, c.initializer = some d → d.facts.isNull = true := by
  simp [properInitializer?, Option.filter_eq_none_iff]

namespace Context

/-- What lifting depends on when everything is in memory. -/
def inMemory (faults : List (Operation × String)) (unit : Option ActiveUnit)
    (catalogue : Catalogue) : Context :=
  ⟨.memory faults, unit, catalogue⟩

/-- What lifting a concrete cursor to a shape does. -/
def liftAs (ctx : Context) (c : Cursor) : Shape → Run Node
  | .translationUnit => do return .translationUnit c (← ctx.liftAll c.children)
  | .literal => ctx.liftLeaf c fun _ => Run.fail (.unknownForm "")
  | .integerLiteral => ctx.liftLeaf c (integerNode c)
  | .floatingLiteral => ctx.liftLeaf c (floatingNode c)
  | .stringLiteral => ctx.liftLeaf c fun text => return .stringLiteral c text
  | .varDecl => do
    ctx.askVariable c
    match ctx.engine.initializerOf? c with
    | none => return variableNode c none
    | some initializer => return variableNode c (some (← ctx.lift initializer))

/-! ## One equation for each function -/

theorem liftThrough_eq (ctx : Context) (wrappers : List Kind) (c : Cursor) :
    ctx.liftThrough wrappers c = (do
      let kind ← ctx.approach wrappers c
      match ctx.engine.standIn? wrappers c with
      | none => Run.fail (.barrenWrapper kind)
      | some concrete => ctx.liftConcrete concrete) := by
  rw [liftThrough]
  congr 1
  funext kind
  split
  · next absent => rw [Option.attach_eq_none_iff.mp absent]
  · next concrete found _ => rw [found]

theorem liftConcrete_eq (ctx : Context) (c : Cursor) :
    ctx.liftConcrete c = ctx.shapeOf c >>= ctx.liftAs c := by
  rw [liftConcrete]
  congr 1
  funext shape
  cases shape with
  | varDecl =>
      simp only [liftAs]
      congr 1
      funext _
      split
      · next absent => rw [Option.attach_eq_none_iff.mp absent]
      · next initializer found _ =>
          rw [found]
          rfl
  | _ => rfl

theorem liftAll_nil (ctx : Context) : ctx.liftAll [] = pure [] := by
  rw [liftAll]

theorem liftAll_cons (ctx : Context) (c : Cursor) (rest : List Cursor) :
    ctx.liftAll (c :: rest) = (do
      let node ← ctx.lift c
      let nodes ← ctx.liftAll rest
      return node :: nodes) := by
  rw [liftAll]
  rfl

/-! ## What lifting asks for -/

theorem attempt_trace (engine : Engine) (operation : Operation) :
    (engine.attempt operation).trace = [] := by
  unfold Engine.attempt
  split <;> rfl

theorem kind_eq_ok {engine : Engine} {c : Cursor} {kind : Kind} :
    (engine.kind c).outcome = .ok kind ↔
      engine.fault? .kind = none ∧ engine.kindOf c = .ok kind := by
  rw [Engine.kind, Engine.attempt]
  cases engine.fault? .kind with
  | some message => simp
  | none => simp

theorem attempt_callsOnly {sort : Call → Prop} (engine : Engine) (operation : Operation) :
    CallsOnly sort (engine.attempt operation) :=
  .of_silent (attempt_trace engine operation)

theorem attempt_silent (engine : Engine) (operation : Operation) :
    (engine.attempt operation).Silent :=
  congrArg Event.calls (attempt_trace engine operation)

theorem kind_silent (engine : Engine) (c : Cursor) : (engine.kind c).Silent :=
  .bind sequential_nil (attempt_silent engine .kind) fun _ => rfl

theorem noteDegenerate_silent (form : Literal.Form) (text : String) (isNaN : Bool) :
    (Literal.noteDegenerate form text isNaN).Silent := by
  unfold Literal.noteDegenerate
  split <;> rfl

theorem integerNode_silent (c : Cursor) (text : String) : (integerNode c text).Silent := by
  refine .bind sequential_nil ?_ fun value => rfl
  refine .bind sequential_nil rfl fun value => ?_
  exact .bind sequential_nil (noteDegenerate_silent .integer text _) fun _ => rfl

theorem floatingNode_silent (c : Cursor) (text : String) : (floatingNode c text).Silent :=
  .bind sequential_nil (noteDegenerate_silent .floating text _) fun _ => rfl

section Calls

variable {ctx : Context}

theorem approach_silent (wrappers : List Kind) (c : Cursor) : (ctx.approach wrappers c).Silent := by
  refine .bind sequential_nil (kind_silent ctx.engine c) fun kind => ?_
  split <;> rfl

theorem shapeOf_silent (c : Cursor) : (ctx.shapeOf c).Silent := by
  refine .bind sequential_nil (kind_silent ctx.engine c) fun kind => ?_
  exact .bind sequential_nil rfl fun shape => rfl

variable {sort : List Call → Prop} (seq : Sequential sort)
  (tokens : ∀ c, (ctx.engine.token ctx.unit c).CallsAs sort)
  (initializers : ∀ c, (ctx.engine.seekInitializer c).CallsAs sort)

include seq

theorem liftAll_callsAs {cursors : List Cursor}
    (each : ∀ d ∈ cursors, (ctx.lift d).CallsAs sort) : (ctx.liftAll cursors).CallsAs sort := by
  induction cursors with
  | nil =>
      rw [liftAll_nil]
      exact seq.nil
  | cons d rest ih =>
      rw [liftAll_cons]
      refine .bind seq (each d List.mem_cons_self) fun node => ?_
      exact .bind seq (ih fun e member => each e (List.mem_cons_of_mem d member)) fun _ => seq.nil

include tokens in
theorem liftLeaf_callsAs {c : Cursor} {read : String → Run Node}
    (silent : ∀ text, (read text).Silent) : (ctx.liftLeaf c read).CallsAs sort := by
  refine .bind seq ?_ fun text => .of_silent seq (silent text)
  unfold tokenText
  split
  · exact .bind seq (tokens c) fun _ => seq.nil
  · exact seq.nil

include tokens initializers

theorem liftAs_callsAs {c : Cursor} (children : ∀ d ∈ c.children, (ctx.lift d).CallsAs sort)
    (initializer : ∀ d, ctx.engine.initializerOf? c = some d → (ctx.lift d).CallsAs sort)
    (shape : Shape) : (ctx.liftAs c shape).CallsAs sort := by
  cases shape with
  | translationUnit => exact .bind seq (liftAll_callsAs seq children) fun _ => seq.nil
  | literal => exact liftLeaf_callsAs seq tokens fun _ => rfl
  | integerLiteral => exact liftLeaf_callsAs seq tokens (integerNode_silent c)
  | floatingLiteral => exact liftLeaf_callsAs seq tokens (floatingNode_silent c)
  | stringLiteral => exact liftLeaf_callsAs seq tokens fun _ => rfl
  | varDecl =>
      have asked : (ctx.askVariable c).CallsAs sort :=
        .bind seq (.of_silent seq (attempt_silent ctx.engine .spelling)) fun _ => initializers c
      refine .bind seq asked fun _ => ?_
      cases found : ctx.engine.initializerOf? c with
      | none => exact seq.nil
      | some d => exact .bind seq (initializer d found) fun _ => seq.nil

/-- Lifting makes the calls for tokens and initializers one behind the other, and no others. -/
theorem liftThrough_callsAs (wrappers : List Kind) (c : Cursor) :
    (ctx.liftThrough wrappers c).CallsAs sort := by
  rw [liftThrough_eq]
  refine .bind seq (.of_silent seq (approach_silent wrappers c)) fun kind => ?_
  split
  · exact seq.nil
  · next concrete found =>
      -- The stand-in may be the cursor itself; sizes go down only below it.
      have size := Engine.sizeOf_le_of_standIn? found
      rw [liftConcrete_eq]
      refine .bind seq (.of_silent seq (shapeOf_silent concrete)) ?_
      refine liftAs_callsAs seq tokens initializers ?_ ?_
      · intro d member
        have := Cursor.sizeOf_lt_of_mem_children member
        exact liftThrough_callsAs defaultWrappers d
      · intro d link
        have := Engine.sizeOf_lt_of_initializerOf? link
        exact liftThrough_callsAs defaultWrappers d
termination_by sizeOf c
decreasing_by all_goals omega

end Calls

section InMemory

variable {faults : List (Operation × String)} {unit : Option ActiveUnit} {catalogue : Catalogue}

/-- A call that is made in memory on the way to a node: for a token of the active unit. -/
def Lookup (unit : Option ActiveUnit) (call : Call) : Prop :=
  ∃ label, call = .findToken (unit.map ActiveUnit.serial) label

/-- Whatever fails, lifting calls for nothing but tokens, and always of the active unit. -/
theorem liftThrough_callsOnly (wrappers : List Kind) (c : Cursor) :
    CallsOnly (Lookup unit) ((inMemory faults unit catalogue).liftThrough wrappers c) := by
  refine liftThrough_callsAs (sequential_only _) (fun d => ?_) (fun d => ?_) wrappers c
  · refine (CallsOnly.call ⟨_, rfl⟩).bind fun _ => ?_
    exact (attempt_callsOnly _ .token).bind fun _ => .of_silent rfl
  · exact attempt_callsOnly _ .initializer

end InMemory

/-! ## Lifting where nothing fails -/

section Faultless

/-- What lifting depends on when everything is in memory and the engine has no faults. -/
abbrev faultless (unit : Option ActiveUnit) (catalogue : Catalogue) : Context :=
  inMemory [] unit catalogue

/-- The text of the token at a cursor, as the active unit has it: empty when the cursor has
no extent or there is no token. -/
def leadingText (unit : Option ActiveUnit) (c : Cursor) : String :=
  if c.facts.hasExtent then ((Engine.memory []).tokenOf? unit c).getD "" else ""

def lookups (unit : Option ActiveUnit) (c : Cursor) : List Event :=
  if c.facts.hasExtent then [.call (.findToken (unit.map ActiveUnit.serial) c.facts.label)] else []

variable {unit : Option ActiveUnit} {catalogue : Catalogue} {c : Cursor}

theorem tokenText_faultless :
    (faultless unit catalogue).tokenText c = ⟨lookups unit c, .ok (leadingText unit c)⟩ := by
  unfold tokenText lookups leadingText
  split <;> rfl

theorem liftLeaf_faultless (read : String → Run Node) :
    (faultless unit catalogue).liftLeaf c read =
      ⟨lookups unit c ++ (read (leadingText unit c)).trace,
        (read (leadingText unit c)).outcome⟩ := by
  rw [liftLeaf, tokenText_faultless]
  rfl

theorem standIn?_faultless (wrappers : List Kind) :
    (faultless unit catalogue).engine.standIn? wrappers c =
      Cursor.standIn? (Cursor.wraps wrappers) c := by
  show ((Cursor.standIn? (Cursor.wraps wrappers) c).filter fun _ => true) = _
  cases Cursor.standIn? (Cursor.wraps wrappers) c <;> rfl

theorem kind_faultless : (faultless unit catalogue).engine.kind c = pure c.facts.kind := rfl

theorem askVariable_faultless : (faultless unit catalogue).askVariable c = pure () := rfl

theorem initializerOf?_faultless :
    (faultless unit catalogue).engine.initializerOf? c =
      c.properInitializer? := rfl

theorem liftConcrete_faultless :
    (faultless unit catalogue).liftConcrete c = (do
      let shape ← Run.ofExcept (catalogue.lookup c.facts.kind)
      Run.note (.building c.facts.kind)
      (faultless unit catalogue).liftAs c shape) := by
  rw [liftConcrete_eq]
  simp only [shapeOf, kind_faultless, bind_assoc, pure_bind]
  rfl

theorem liftThrough_of_concrete {wrappers : List Kind} (concrete : c.wraps wrappers = false) :
    (faultless unit catalogue).liftThrough wrappers c =
      (faultless unit catalogue).liftConcrete c := by
  rw [liftThrough_eq, standIn?_faultless, Cursor.standIn?_of_not_isWrapper concrete]
  have silent : (faultless unit catalogue).approach wrappers c = pure c.facts.kind := by
    simp only [approach, kind_faultless, pure_bind]
    rw [if_neg (by simpa [Cursor.wraps] using concrete)]
  rw [silent, pure_bind]

theorem liftThrough_of_wrapper {wrappers : List Kind} (wrapper : c.wraps wrappers = true) :
    (faultless unit catalogue).liftThrough wrappers c = (do
      Run.note (.unwrapping c.facts.kind)
      match Cursor.firstConcrete? (Cursor.wraps wrappers) c.children with
      | none => Run.fail (.barrenWrapper c.facts.kind)
      | some concrete => (faultless unit catalogue).liftConcrete concrete) := by
  rw [liftThrough_eq, standIn?_faultless, Cursor.standIn?_of_isWrapper wrapper]
  have noted : (faultless unit catalogue).approach wrappers c =
      (Run.note (.unwrapping c.facts.kind) >>= fun _ => pure c.facts.kind) := by
    simp only [approach, kind_faultless, pure_bind]
    rw [if_pos (by simpa [Cursor.wraps] using wrapper)]
  rw [noted, bind_assoc]
  rfl

/-- A concrete cursor is lifted by the shape of its kind. -/
theorem lift_of_concrete (concrete : c.wraps defaultWrappers = false) :
    (faultless unit catalogue).lift c = (do
      let shape ← Run.ofExcept (catalogue.lookup c.facts.kind)
      Run.note (.building c.facts.kind)
      (faultless unit catalogue).liftAs c shape) := by
  rw [lift, liftThrough_of_concrete concrete, liftConcrete_faultless]

/-- A wrapper is lifted as the first concrete cursor below it. -/
theorem lift_of_wrapper (wrapper : c.wraps defaultWrappers = true) :
    (faultless unit catalogue).lift c = (do
      Run.note (.unwrapping c.facts.kind)
      match Cursor.firstConcrete? (Cursor.wraps defaultWrappers) c.children with
      | none => Run.fail (.barrenWrapper c.facts.kind)
      | some concrete => (faultless unit catalogue).lift concrete) := by
  rw [lift, liftThrough_of_wrapper wrapper]
  congr 1
  funext _
  split
  · rfl
  · next concrete found =>
      rw [lift, liftThrough_of_concrete (Cursor.not_isWrapper_of_firstConcrete? found)]

theorem lift_outcome_of_wrapper (kind : c.facts.kind = .unexposedExpr) :
    ((faultless unit catalogue).lift c).outcome =
      match Cursor.firstMet? (Cursor.wraps defaultWrappers) c.children with
      | none => .error (.barrenWrapper .unexposedExpr)
      | some concrete => ((faultless unit catalogue).lift concrete).outcome := by
  rw [lift_of_wrapper (Cursor.wraps_defaultWrappers.mpr kind),
    Cursor.firstConcrete?_eq_firstMet?, kind]
  cases Cursor.firstMet? (Cursor.wraps defaultWrappers) c.children <;> rfl

theorem lift_outcome_of_concrete (kind : c.facts.kind ≠ .unexposedExpr) :
    ((faultless unit catalogue).lift c).outcome =
      (catalogue.lookup c.facts.kind).bind fun shape =>
        ((faultless unit catalogue).liftAs c shape).outcome := by
  rw [lift_of_concrete (Cursor.wraps_eq_false kind)]
  simp only [Run.bind_outcome, Run.ofExcept_outcome, Run.note_outcome]
  rfl

theorem liftAll_outcome_cons (d : Cursor) (rest : List Cursor) :
    ((faultless unit catalogue).liftAll (d :: rest)).outcome =
      ((faultless unit catalogue).lift d).outcome.bind fun node =>
        ((faultless unit catalogue).liftAll rest).outcome.map (node :: ·) := by
  rw [liftAll_cons, Run.bind_outcome]
  congr 1
  funext node
  exact Run.map_outcome _ _

theorem noteDegenerate_outcome (form : Literal.Form) (text : String) (isNaN : Bool) :
    (Literal.noteDegenerate form text isNaN).outcome = .ok () := by
  unfold Literal.noteDegenerate
  split <;> rfl

theorem readNoted_outcome (form : Literal.Form) (text : String) :
    (Literal.readNoted form text).outcome = form.read text := by
  rw [Literal.readNoted]
  cases form.read text with
  | error failure => rfl
  | ok value =>
      simp only [Run.bind_outcome, Run.ofExcept_outcome, Outcome.ok_bind, noteDegenerate_outcome]
      rfl

theorem integerNode_outcome {text : String} :
    (integerNode c text).outcome = (Literal.readInteger text).map (.integerLiteral c) := by
  rw [integerNode, Run.map_outcome, readNoted_outcome]
  rfl

theorem floatingNode_outcome {text : String} :
    (floatingNode c text).outcome = .ok (.floatingLiteral c (Literal.readFloating text)) := by
  simp only [floatingNode, Run.bind_outcome, noteDegenerate_outcome, Outcome.ok_bind]
  rfl

/-- How a shape ends, up to the calls and notices on the way. -/
theorem liftAs_outcome (shape : Shape) :
    ((faultless unit catalogue).liftAs c shape).outcome =
      match shape with
      | .translationUnit =>
        ((faultless unit catalogue).liftAll c.children).outcome.map (.translationUnit c)
      | .literal => .error (.unknownForm "")
      | .integerLiteral => (Literal.readInteger (leadingText unit c)).map (.integerLiteral c)
      | .floatingLiteral => .ok (.floatingLiteral c (Literal.readFloating (leadingText unit c)))
      | .stringLiteral => .ok (.stringLiteral c (leadingText unit c))
      | .varDecl =>
        match c.properInitializer? with
        | none => .ok (variableNode c none)
        | some d => ((faultless unit catalogue).lift d).outcome.map (variableNode c ∘ some) := by
  cases shape with
  | translationUnit => exact Run.map_outcome _ _
  | literal => exact congrArg Run.outcome (liftLeaf_faultless _)
  | integerLiteral => exact (congrArg Run.outcome (liftLeaf_faultless _)).trans integerNode_outcome
  | floatingLiteral =>
      exact (congrArg Run.outcome (liftLeaf_faultless _)).trans floatingNode_outcome
  | stringLiteral => exact congrArg Run.outcome (liftLeaf_faultless _)
  | varDecl =>
      rw [liftAs, askVariable_faultless, pure_bind, initializerOf?_faultless]
      cases c.properInitializer? with
      | none => rfl
      | some d => exact Run.map_outcome _ _

end Faultless

end Context

end CursorLift
