import CursorLift.Proofs.Containment
import CursorLift.Proofs.Stretch
import Mathlib.Data.List.Basic

/-! # What is handed out is given back

A library hands tokens out, and each of them has to be given back once. All that a library is
called for in a run is told by what the run comes to: the loading of units and, on the way to a
node, concrete cursors up to the first that cannot be lifted. A cursor that is read from its token
takes a lookup, with the token given back right behind it if there was one.
-/

namespace CursorLift

/-! ## The calls that one cursor takes -/

def Shape.isRead : Shape → Bool
  | .translationUnit => false
  | .varDecl => false
  | _ => true

namespace Engine

def tokenCalls : Engine → Option ActiveUnit → Cursor → List Call
  | .memory _, unit, c => [.findToken (unit.map ActiveUnit.serial) c.facts.label]
  | .library exports, unit, c =>
    if exports.tokens then
      .findToken (unit.map ActiveUnit.serial) c.facts.label ::
        if c.facts.token.isSome then [.releaseTokens 1] else []
    else if unit.isSome then [.splitAtLocation c.facts.label]
    else []

def initializerCalls : Engine → Cursor → List Call
  | .library { initializers := false, .. }, c =>
    [.splitExtent (if c.facts.hasExtent then c.facts.label else none)]
  | _, _ => []

theorem token_calls (engine : Engine) (unit : Option ActiveUnit) (c : Cursor) :
    Event.calls (engine.token unit c).trace = engine.tokenCalls unit c := by
  cases engine with
  | memory faults =>
      simp only [token]
      rw [Run.call_bind_trace, Event.calls_call, Run.calls_map, Context.attempt_trace]
      rfl
  | library exports =>
      cases granted : exports.tokens with
      | true =>
          cases found : c.facts.token <;>
            simp [token, tokenCalls, tokenOf?, granted, found, Run.bind_of_ok (Run.call_outcome _)]
      | false =>
          cases unit <;>
            simp only [token, tokenCalls, granted] <;> rfl

theorem seekInitializer_calls (engine : Engine) (c : Cursor) :
    Event.calls (engine.seekInitializer c).trace = engine.initializerCalls c := by
  unfold seekInitializer
  split
  · simp only [Run.note_bind_trace, Run.call_bind_trace, Event.calls_notice, Event.calls_call,
      initializerCalls]
    apply congrArg
    cases assigns c with
    | false => rfl
    | true =>
        simp only [if_true]
        split <;> rfl
  · next other =>
      rw [Context.attempt_trace]
      unfold initializerCalls
      split
      · next tokens => exact absurd rfl (other tokens)
      · rfl

end Engine

namespace Context

variable {ctx : Context} {c : Cursor}

/-- The shape that a concrete cursor is lifted to. -/
def shape? (ctx : Context) (c : Cursor) : Option Shape :=
  ((ctx.engine.kindOf c).bind ctx.catalogue.lookup).toOption

/-- Whether a cursor is to be read from its token, and there is some source to find one in. -/
def looksUp (ctx : Context) (c : Cursor) : Bool :=
  (ctx.shape? c).any Shape.isRead && c.facts.hasExtent

/-- The calls that a concrete cursor takes by itself. -/
def callsFor (ctx : Context) (c : Cursor) : List Call :=
  if ctx.shape? c = some .varDecl then ctx.engine.initializerCalls c
  else if ctx.looksUp c then ctx.engine.tokenCalls ctx.unit c
  else []

theorem callsFor_of_isRead {shape : Shape} (found : ctx.shape? c = some shape)
    (isRead : shape.isRead = true) :
    ctx.callsFor c = if c.facts.hasExtent then ctx.engine.tokenCalls ctx.unit c else [] := by
  have other : ctx.shape? c ≠ some .varDecl := by
    rw [found]
    rintro ⟨⟩
    cases isRead
  rw [callsFor, if_neg other, looksUp, found]
  simp [isRead]

theorem callsFor_of_looksUp (reads : ctx.looksUp c = true) :
    ctx.callsFor c = ctx.engine.tokenCalls ctx.unit c := by
  simp only [looksUp, Bool.and_eq_true, Option.any_eq_true] at reads
  obtain ⟨⟨shape, found, isRead⟩, extent⟩ := reads
  rw [callsFor_of_isRead found isRead, if_pos extent]

/-! ## The cursors that lifting comes to -/

/-- Some cursors up to the first that cannot be lifted, with that one. -/
def upToFailure (ctx : Context) : List Cursor → List Cursor
  | [] => []
  | c :: rest =>
    c :: match (ctx.lift c).outcome with
      | .ok _ => ctx.upToFailure rest
      | .error _ => []

/-- The cursors that lifting a concrete cursor goes on with. -/
def goesOnWith (ctx : Context) (c : Cursor) : List Cursor :=
  match ctx.shape? c with
  | some .translationUnit => ctx.upToFailure c.children
  | some .varDecl =>
    match (ctx.askVariable c).outcome with
    | .ok _ => (ctx.engine.initializerOf? c).toList
    | .error _ => []
  | _ => []

theorem upToFailure_subset {cursors : List Cursor} : ctx.upToFailure cursors ⊆ cursors := by
  induction cursors with
  | nil => exact List.Subset.refl _
  | cons c rest ih =>
      unfold upToFailure
      split
      · exact List.cons_subset_cons c ih
      · simp

theorem sizeOf_lt_of_mem_goesOnWith {d : Cursor} (h : d ∈ ctx.goesOnWith c) :
    sizeOf d < sizeOf c := by
  unfold goesOnWith at h
  split at h
  · exact Cursor.sizeOf_lt_of_mem_children (upToFailure_subset h)
  · split at h
    · exact Engine.sizeOf_lt_of_initializerOf? (Option.mem_toList.mp h)
    · cases h
  · cases h

/-- The concrete cursors that lifting a cursor comes to, one after the other. -/
def met (ctx : Context) (wrappers : List Kind) (c : Cursor) : List Cursor :=
  match (ctx.engine.standIn? wrappers c).attach with
  | none => []
  | some ⟨concrete, _found⟩ =>
    concrete :: (ctx.goesOnWith concrete).attach.flatMap fun ⟨d, _member⟩ =>
      ctx.met defaultWrappers d
termination_by sizeOf c
decreasing_by
  have := Engine.sizeOf_le_of_standIn? _found
  have := sizeOf_lt_of_mem_goesOnWith _member
  omega

theorem met_of_barren {wrappers : List Kind} (barren : ctx.engine.standIn? wrappers c = none) :
    ctx.met wrappers c = [] := by
  rw [met]
  split
  · rfl
  · next concrete found _ => rw [barren] at found; cases found

theorem met_of_standIn? {wrappers : List Kind} {concrete : Cursor}
    (found : ctx.engine.standIn? wrappers c = some concrete) :
    ctx.met wrappers c =
      concrete :: (ctx.goesOnWith concrete).flatMap (ctx.met defaultWrappers) := by
  rw [met]
  split
  · next absent => rw [Option.attach_eq_none_iff.mp absent] at found; cases found
  · next other same _ =>
      rw [same] at found
      cases found
      simp [List.flatMap]

/-! ## What lifting calls for -/

theorem calls_liftLeaf {read : String → Run Node} (silent : ∀ text, (read text).Silent) :
    Event.calls (ctx.liftLeaf c read).trace =
      if c.facts.hasExtent then ctx.engine.tokenCalls ctx.unit c else [] := by
  rw [liftLeaf, Run.calls_bind_of_silent silent, tokenText]
  split
  · rw [Run.calls_map, Engine.token_calls]
  · rfl

theorem calls_liftAll (cursors : List Cursor) :
    Event.calls (ctx.liftAll cursors).trace =
      (ctx.upToFailure cursors).flatMap fun d => Event.calls (ctx.lift d).trace := by
  induction cursors with
  | nil => rw [liftAll_nil]; rfl
  | cons c rest ih =>
      rw [liftAll_cons, upToFailure, List.flatMap_cons]
      cases ended : (ctx.lift c).outcome with
      | ok node => rw [Run.calls_bind_of_ok ended, Run.calls_map, ih]
      | error failure => rw [Run.calls_bind_of_error ended, List.flatMap_nil, List.append_nil]

section Sound

variable (sound : ctx.engine.Sound)
include sound

theorem kind_of_sound : ctx.engine.kind c = Run.ofExcept (ctx.engine.kindOf c) := by
  rw [Engine.kind, sound.attempt, pure_bind]

theorem shapeOf_outcome_of_sound :
    (ctx.shapeOf c).outcome = (ctx.engine.kindOf c).bind ctx.catalogue.lookup := by
  simp only [shapeOf, kind_of_sound sound, Run.bind_outcome, Run.ofExcept_outcome,
    Run.note_outcome, Outcome.ok_bind, Run.pure_outcome]
  congr 1
  funext kind
  cases ctx.catalogue.lookup kind <;> rfl

theorem askVariable_of_sound : ctx.askVariable c = ctx.engine.seekInitializer c := by
  rw [askVariable, sound.attempt, pure_bind]

/-- A concrete cursor takes its own calls, and then those of the cursors that lifting goes on
with. -/
theorem calls_liftAs {shape : Shape} (found : ctx.shape? c = some shape) :
    Event.calls (ctx.liftAs c shape).trace =
      ctx.callsFor c ++ (ctx.goesOnWith c).flatMap fun d => Event.calls (ctx.lift d).trace := by
  have leaf {read : String → Run Node} (silent : ∀ text, (read text).Silent)
      (isRead : shape.isRead = true) :
      Event.calls (ctx.liftLeaf c read).trace =
        ctx.callsFor c ++ (ctx.goesOnWith c).flatMap fun d => Event.calls (ctx.lift d).trace := by
    have last : ctx.goesOnWith c = [] := by
      rw [goesOnWith, found]
      cases shape <;> first | rfl | cases isRead
    rw [calls_liftLeaf silent, last, callsFor_of_isRead found isRead]
    exact (List.append_nil _).symm
  cases shape with
  | translationUnit =>
      rw [liftAs, Run.calls_map, calls_liftAll, goesOnWith, found]
      simp [callsFor, looksUp, found, Shape.isRead]
  | literal => exact leaf (fun _ => rfl) rfl
  | integerLiteral => exact leaf (integerNode_silent c) rfl
  | floatingLiteral => exact leaf (floatingNode_silent c) rfl
  | stringLiteral => exact leaf (fun _ => rfl) rfl
  | varDecl =>
      have own : Event.calls (ctx.askVariable c).trace = ctx.callsFor c := by
        rw [askVariable_of_sound sound, Engine.seekInitializer_calls, callsFor, if_pos found]
      rw [liftAs, goesOnWith, found]
      cases ended : (ctx.askVariable c).outcome with
      | error failure => simp [Run.calls_bind_of_error ended, own]
      | ok done =>
          rw [Run.calls_bind_of_ok ended, own]
          cases ctx.engine.initializerOf? c with
          | none => rfl
          | some d => simp only [Run.calls_map, Option.toList_some, List.flatMap_singleton]

theorem calls_liftConcrete :
    Event.calls (ctx.liftConcrete c).trace =
      ctx.callsFor c ++ (ctx.goesOnWith c).flatMap fun d => Event.calls (ctx.lift d).trace := by
  have silent : Event.calls (ctx.shapeOf c).trace = [] := shapeOf_silent c
  have shaped := shapeOf_outcome_of_sound sound (c := c)
  rw [liftConcrete_eq]
  cases ended : (ctx.engine.kindOf c).bind ctx.catalogue.lookup with
  | ok shape =>
      have found : ctx.shape? c = some shape := by rw [shape?, ended]; rfl
      rw [ended] at shaped
      rw [Run.calls_bind_of_ok shaped, silent, List.nil_append, calls_liftAs sound found]
  | error failure =>
      have unknown : ctx.shape? c = none := by rw [shape?, ended]; rfl
      rw [ended] at shaped
      rw [Run.calls_bind_of_error shaped, silent]
      simp [callsFor, goesOnWith, looksUp, unknown]

omit sound in
theorem known_of_standIn? {wrappers : List Kind} {concrete : Cursor}
    (found : ctx.engine.standIn? wrappers c = some concrete) :
    ∃ kind, ctx.engine.kindOf c = .ok kind := by
  cases asked : ctx.engine.kindOf c with
  | ok kind => exact ⟨kind, rfl⟩
  | error failure =>
      have plain : ctx.engine.isWrapper wrappers c = false := by rw [Engine.isWrapper, asked]
      rw [Engine.standIn?, Cursor.standIn?_of_not_isWrapper plain] at found
      obtain ⟨same, known⟩ := Option.filter_eq_some_iff.mp found
      cases same
      rw [Engine.isKnown, asked] at known
      cases known

/-- Lifting makes the calls of the cursors that it comes to, and no others. -/
theorem calls_liftThrough (wrappers : List Kind) (c : Cursor) :
    Event.calls (ctx.liftThrough wrappers c).trace =
      (ctx.met wrappers c).flatMap ctx.callsFor := by
  have silent : Event.calls (ctx.approach wrappers c).trace = [] := approach_silent wrappers c
  rw [liftThrough_eq]
  cases found : ctx.engine.standIn? wrappers c with
  | none =>
      have fails (kind : Kind) : (Run.fail (.barrenWrapper kind) : Run Node).Silent := rfl
      rw [Run.calls_bind_of_silent fails, silent, met_of_barren found]
      rfl
  | some concrete =>
      obtain ⟨kind, known⟩ := known_of_standIn? found
      have asked : ctx.engine.kind c = pure kind := by rw [kind_of_sound sound, known]; rfl
      rw [Run.calls_bind_of_ok (approach_outcome asked wrappers), silent, List.nil_append,
        calls_liftConcrete sound, met_of_standIn? found, List.flatMap_cons, List.flatMap_assoc]
      have size := Engine.sizeOf_le_of_standIn? found
      congr 1
      apply List.flatMap_congr
      intro d member
      have := sizeOf_lt_of_mem_goesOnWith member
      exact calls_liftThrough defaultWrappers d
termination_by sizeOf c

end Sound

end Context

/-! ## What a run comes to -/

/-- What a run comes to that a library is called for. -/
inductive Occasion where
  /-- A unit is to be loaded. -/
  | loading (call : Call)
  /-- A concrete cursor is met on the way to a node. -/
  | meeting (ctx : Context) (c : Cursor)

def Occasion.calls : Occasion → List Call
  | .loading call => [call]
  | .meeting ctx c => ctx.callsFor c

def Context.occasions (ctx : Context) (wrappers : List Kind) (c : Cursor) : List Occasion :=
  (ctx.met wrappers c).map (.meeting ctx)

def Session.occasions (s : Session) (path : String) (arguments : List String)
    (unsaved : Option (List (String × String))) : List Occasion :=
  if s.closed then []
  else
    .loading (s.loadCall path arguments unsaved) ::
      match s.loaded? s.served with
      | none => []
      | some unit =>
        (⟨s.engine, some unit, s.catalogue⟩ : Context).occasions defaultWrappers unit.source.root

namespace Bench

def stepOccasions (bench : Bench) : Step → List Occasion
  | .load path arguments unsaved => bench.session.occasions path arguments unsaved
  | .lift cursor wrappers =>
    bench.session.context.occasions (wrappers.getD defaultWrappers) cursor
  | _ => []

/-- What steps one by one come to. -/
def occasions (bench : Bench) : List Step → List Occasion
  | [] => []
  | step :: steps => bench.stepOccasions step ++ (bench.perform step).1.occasions steps

def occasionsOf (bench : Bench) : Stretch → List Occasion
  | .each steps => bench.occasions steps
  | .block steps => bench.occasions (bench.upToFailure steps)

/-- What stretches one after the other come to. -/
def occasionsOfAll (bench : Bench) : List Stretch → List Occasion
  | [] => []
  | stretch :: stretches =>
    bench.occasionsOf stretch ++ (bench.afterStretch stretch).occasionsOfAll stretches

end Bench

section Runs

variable {exports : Exports}

theorem Context.calls_occasions {ctx : Context} (sound : ctx.engine.Sound)
    (wrappers : List Kind) (c : Cursor) :
    Event.calls (ctx.liftThrough wrappers c).trace =
      (ctx.occasions wrappers c).flatMap Occasion.calls := by
  rw [calls_liftThrough sound, occasions, List.flatMap_map]
  rfl

namespace Session

variable {s : Session} (library : s.engine = .library exports)
include library

theorem calls_load (path : String) (arguments : List String)
    (unsaved : Option (List (String × String))) :
    Event.calls (s.load path arguments unsaved).2.trace =
      (s.occasions path arguments unsaved).flatMap Occasion.calls := by
  cases closed : s.closed with
  | true =>
      rw [load_of_closed closed, occasions, if_pos closed]
      rfl
  | false =>
      rw [load_calls closed, occasions, if_neg (by simp [closed]), List.flatMap_cons]
      cases s.loaded? s.served with
      | none => rfl
      | some unit =>
          have sound : s.engine.Sound := library ▸ Engine.sound_library exports
          simp only [liftLoaded, Engine.rootOf, sound.attempt, pure_bind, Context.lift]
          rw [Context.calls_occasions sound]
          rfl

theorem calls_close : Event.calls s.close.2.trace = [] := by
  unfold close
  split
  · rfl
  · rw [library]
    rfl

end Session

namespace Bench

variable {bench : Bench}

theorem calls_perform (library : bench.session.engine = .library exports) (step : Step) :
    Event.calls (bench.perform step).2.trace =
      (bench.stepOccasions step).flatMap Occasion.calls := by
  cases step with
  | load path arguments unsaved =>
      rw [perform_load, keep_trace]
      exact Session.calls_load library path arguments unsaved
  | lift cursor wrappers =>
      have sound : bench.session.engine.Sound := library ▸ Engine.sound_library exports
      rw [perform_lift, keep_trace]
      exact Context.calls_occasions sound _ cursor
  | close =>
      rw [perform_close.2]
      exact Session.calls_close library
  | catalogue step => exact catalogueStep_calls step _
  | enter | resolve | dump | inspect => rfl

theorem calls_events (library : bench.session.engine = .library exports) (steps : List Step) :
    Event.calls (bench.events steps) = (bench.occasions steps).flatMap Occasion.calls := by
  induction steps generalizing bench with
  | nil => rfl
  | cons step steps ih =>
      have later := (perform_engine bench step).trans library
      rw [events_cons, Event.calls_append, calls_perform library, ih later, occasions,
        List.flatMap_append]

theorem calls_eventsOf (library : bench.session.engine = .library exports) (stretch : Stretch) :
    Event.calls (bench.eventsOf stretch) =
      (bench.occasionsOf stretch).flatMap Occasion.calls := by
  cases stretch with
  | each steps => exact calls_events library steps
  | block steps =>
      have later := (after_engine bench (bench.upToFailure steps)).trans library
      rw [eventsOf_block, events_append, Event.calls_append, calls_events library,
        calls_events later]
      exact List.append_nil _

/-- Whatever happens in a run, a library is called for what the run comes to, in that order. -/
theorem calls_eventsOfAll (library : bench.session.engine = .library exports)
    (stretches : List Stretch) :
    Event.calls (bench.eventsOfAll stretches) =
      (bench.occasionsOfAll stretches).flatMap Occasion.calls := by
  induction stretches generalizing bench with
  | nil => rfl
  | cons stretch stretches ih =>
      have later := (afterStretch_engine bench stretch).trans library
      rw [eventsOfAll, Event.calls_append, calls_eventsOf library, ih later, occasionsOfAll,
        List.flatMap_append]

end Bench

end Runs

/-! ## Handing out and giving back -/

/-- Whether a call has tokens handed out or given back. -/
def Call.isHandling : Call → Bool
  | .findToken .. => true
  | .releaseTokens _ => true
  | _ => false

namespace Occasion

variable {exports : Exports}

/-- Whether an occasion is the loading of a unit, or a cursor that a library with some exports is
asked about. -/
def IsOf (exports : Exports) : Occasion → Prop
  | .loading call => call.isLoad = true
  | .meeting ctx _ => ctx.engine = .library exports

/-- An occasion on which tokens are handled is one lookup, and what it hands out is given back. -/
theorem calls_cases {occasion : Occasion} (proper : occasion.IsOf exports) :
    (∃ ctx c, occasion = .meeting ctx c ∧ ctx.looksUp c = true ∧ exports.tokens = true ∧
        occasion.calls = .findToken (ctx.unit.map ActiveUnit.serial) c.facts.label ::
          if c.facts.token.isSome then [.releaseTokens 1] else []) ∨
      ∀ call ∈ occasion.calls, call.isHandling = false := by
  cases occasion with
  | loading call =>
      right
      intro other member
      cases List.mem_singleton.mp member
      cases call with
      | loadUnit => rfl
      | _ => cases proper
  | meeting ctx c =>
      have library : ctx.engine = .library exports := proper
      cases reads : ctx.looksUp c with
      | true =>
          rw [calls, Context.callsFor_of_looksUp reads, library, Engine.tokenCalls]
          cases granted : exports.tokens with
          | true => exact .inl ⟨ctx, c, rfl, reads, rfl, rfl⟩
          | false =>
              right
              cases ctx.unit <;> simp [Call.isHandling]
      | false =>
          right
          rw [calls, Context.callsFor, library]
          split
          · obtain ⟨tokens, initializers⟩ := exports
            cases initializers <;> simp [Engine.initializerCalls, Call.isHandling]
          · simp [reads]

end Occasion

section Proper

variable {exports : Exports}

theorem Context.isOf_occasions {ctx : Context} (library : ctx.engine = .library exports)
    (wrappers : List Kind) (c : Cursor) :
    ∀ occasion ∈ ctx.occasions wrappers c, occasion.IsOf exports := by
  intro occasion member
  obtain ⟨d, -, rfl⟩ := List.mem_map.mp member
  exact library

namespace Bench

variable {bench : Bench}

theorem isOf_stepOccasions (library : bench.session.engine = .library exports) (step : Step) :
    ∀ occasion ∈ bench.stepOccasions step, occasion.IsOf exports := by
  intro occasion member
  cases step with
  | lift cursor wrappers => exact Context.isOf_occasions library _ cursor occasion member
  | load path arguments unsaved =>
      rw [stepOccasions, Session.occasions] at member
      split at member
      · cases member
      · cases member with
        | head => rfl
        | tail _ member =>
            split at member
            · cases member
            · exact Context.isOf_occasions library _ _ occasion member
  | close | enter | resolve | dump | inspect | catalogue => cases member

theorem isOf_occasions (library : bench.session.engine = .library exports) (steps : List Step) :
    ∀ occasion ∈ bench.occasions steps, occasion.IsOf exports := by
  induction steps generalizing bench with
  | nil => nofun
  | cons step steps ih =>
      intro occasion member
      cases List.mem_append.mp member with
      | inl now => exact isOf_stepOccasions library step occasion now
      | inr later => exact ih ((perform_engine bench step).trans library) occasion later

theorem isOf_occasionsOfAll (library : bench.session.engine = .library exports)
    (stretches : List Stretch) :
    ∀ occasion ∈ bench.occasionsOfAll stretches, occasion.IsOf exports := by
  induction stretches generalizing bench with
  | nil => nofun
  | cons stretch stretches ih =>
      intro occasion member
      cases List.mem_append.mp member with
      | inr later => exact ih ((afterStretch_engine bench stretch).trans library) occasion later
      | inl now =>
          cases stretch with
          | each steps => exact isOf_occasions library steps occasion now
          | block steps => exact isOf_occasions library _ occasion now

end Bench

end Proper

theorem exists_occasion_of_call {occasions : List Occasion} {before after : List Call}
    {call : Call} (made : occasions.flatMap Occasion.calls = before ++ call :: after) :
    ∃ early occasion late first last, occasions = early ++ occasion :: late ∧
      occasion.calls = first ++ call :: last ∧
      before = early.flatMap Occasion.calls ++ first ∧
      after = last ++ late.flatMap Occasion.calls := by
  induction occasions generalizing before with
  | nil => simp at made
  | cons occasion rest ih =>
      rw [List.flatMap_cons] at made
      have behind (between : List Call) (same : before = occasion.calls ++ between)
          (others : rest.flatMap Occasion.calls = between ++ call :: after) :
          ∃ early other late first last, occasion :: rest = early ++ other :: late ∧
            other.calls = first ++ call :: last ∧
            before = early.flatMap Occasion.calls ++ first ∧
            after = last ++ late.flatMap Occasion.calls := by
        obtain ⟨early, other, late, first, last, shape, own, left, right⟩ := ih others
        exact ⟨occasion :: early, other, late, first, last, by rw [shape]; rfl, own,
          by simp [same, left], right⟩
      obtain ⟨between, same, others⟩ | ⟨between, own, others⟩ := List.append_eq_append_iff.mp made
      · exact behind between same others
      · cases between with
        | nil => exact behind [] (by simp [own]) others.symm
        | cons head between =>
            obtain ⟨rfl, rfl⟩ := List.cons.inj others
            exact ⟨[], occasion, rest, before, between, rfl, own, rfl, rfl⟩

theorem lookup_or_release {looked call : Call} {found : Bool} {first last : List Call}
    (h : looked :: (if found then [.releaseTokens 1] else []) = first ++ call :: last) :
    (first = [] ∧ call = looked ∧ last = if found then [.releaseTokens 1] else []) ∨
      (first = [looked] ∧ call = .releaseTokens 1) := by
  cases first with
  | nil =>
      obtain ⟨rfl, rfl⟩ := List.cons.inj h
      exact .inl ⟨rfl, rfl, rfl⟩
  | cons head tail =>
      obtain ⟨rfl, rest⟩ := List.cons.inj h
      cases found with
      | false => simp at rest
      | true =>
          cases tail with
          | nil => exact .inr ⟨rfl, (List.cons.inj rest).1.symm⟩
          | cons => simp at rest

/-- Where tokens are handled, a concrete cursor is looked up, or what its lookup found is given
back. -/
theorem exists_lookup_of_handling {exports : Exports} {occasions : List Occasion}
    (proper : ∀ occasion ∈ occasions, occasion.IsOf exports) {before after : List Call}
    {call : Call} (handling : call.isHandling = true)
    (made : occasions.flatMap Occasion.calls = before ++ call :: after) :
    exports.tokens = true ∧ ∃ early ctx c late, occasions = early ++ .meeting ctx c :: late ∧
      ctx.looksUp c = true ∧
      (call = .findToken (ctx.unit.map ActiveUnit.serial) c.facts.label ∧
          before = early.flatMap Occasion.calls ∧
          after = (if c.facts.token.isSome then [.releaseTokens 1] else []) ++
            late.flatMap Occasion.calls ∨
        call = .releaseTokens 1 ∧
          before = early.flatMap Occasion.calls ++
            [.findToken (ctx.unit.map ActiveUnit.serial) c.facts.label]) := by
  obtain ⟨early, occasion, late, first, last, shape, own, rfl, rfl⟩ := exists_occasion_of_call made
  have among : occasion ∈ occasions := by simp [shape]
  obtain ⟨ctx, c, rfl, reads, granted, taken⟩ | plain := Occasion.calls_cases (proper _ among)
  · rw [taken] at own
    refine ⟨granted, early, ctx, c, late, shape, reads, ?_⟩
    obtain ⟨rfl, same, rfl⟩ | ⟨rfl, same⟩ := lookup_or_release own
    · exact .inl ⟨same, List.append_nil _, rfl⟩
    · exact .inr ⟨same, rfl⟩
  · have idle := plain call (by simp [own])
    rw [handling] at idle
    cases idle

theorem head?_occasions_ne_release {exports : Exports} {occasions : List Occasion}
    (proper : ∀ occasion ∈ occasions, occasion.IsOf exports) (count : Nat) :
    (occasions.flatMap Occasion.calls).head? ≠ some (.releaseTokens count) := by
  rw [List.head?_flatMap]
  intro found
  obtain ⟨occasion, member, first⟩ := List.exists_of_findSome?_eq_some found
  obtain ⟨ctx, c, -, -, -, own⟩ | plain := Occasion.calls_cases (proper occasion member)
  · rw [own] at first
    cases first
  · have handled := plain _ (List.mem_of_head? first)
    cases handled

/-- In every run over a library, whatever comes of its steps, the tokens that are handed out are
given back once, one by one, right behind the lookup that found them. Nothing else is given back;
nothing is looked up for a literal without an extent; and where tokens cannot be asked for, each
lookup is the splitting of the source at the cursor instead. -/
theorem tokens_are_given_back_once (exports : Exports) (bench : Bench)
    (library : bench.session.engine = .library exports) (stretches : List Stretch) :
    let occasions := bench.occasionsOfAll stretches
    let calls := Event.calls (bench.eventsOfAll stretches)
    calls = occasions.flatMap Occasion.calls ∧
      (∀ before unit label after, calls = before ++ .findToken unit label :: after →
        exports.tokens = true ∧
          ∃ early ctx c late rest, occasions = early ++ .meeting ctx c :: late ∧
            before = early.flatMap Occasion.calls ∧ ctx.looksUp c = true ∧
            unit = ctx.unit.map ActiveUnit.serial ∧ label = c.facts.label ∧
            after = (if c.facts.token.isSome then [.releaseTokens 1] else []) ++ rest ∧
            ∀ count, rest.head? ≠ some (.releaseTokens count)) ∧
      (∀ before count after, calls = before ++ .releaseTokens count :: after →
        exports.tokens = true ∧ count = 1 ∧
          ∃ earlier unit label, before = earlier ++ [.findToken unit label]) ∧
      ∀ ctx c shape, .meeting ctx c ∈ occasions → ctx.shape? c = some shape →
        shape.isRead = true →
        (c.facts.hasExtent = false → (Occasion.meeting ctx c).calls = []) ∧
          (c.facts.hasExtent = true → exports.tokens = true →
            (Occasion.meeting ctx c).calls =
              .findToken (ctx.unit.map ActiveUnit.serial) c.facts.label ::
                if c.facts.token.isSome then [.releaseTokens 1] else []) ∧
          (c.facts.hasExtent = true → exports.tokens = false → ctx.unit.isSome = true →
            (Occasion.meeting ctx c).calls = [.splitAtLocation c.facts.label]) := by
  intro occasions calls
  have made : calls = occasions.flatMap Occasion.calls := bench.calls_eventsOfAll library stretches
  have proper : ∀ occasion ∈ occasions, occasion.IsOf exports :=
    Bench.isOf_occasionsOfAll library stretches
  refine ⟨made, ?_, ?_, ?_⟩
  · intro before unit label after found
    obtain ⟨granted, early, ctx, c, late, shape, reads, ⟨same, left, right⟩ | ⟨other, -⟩⟩ :=
      exists_lookup_of_handling proper rfl (made.symm.trans found)
    · have behind : ∀ occasion ∈ late, occasion.IsOf exports :=
        fun occasion member => proper occasion (by simp [shape, member])
      cases same
      exact ⟨granted, early, ctx, c, late, _, shape, left, reads, rfl, rfl, right,
        head?_occasions_ne_release behind⟩
    · cases other
  · intro before count after found
    obtain ⟨granted, early, ctx, c, late, shape, reads, ⟨other, -⟩ | ⟨same, left⟩⟩ :=
      exists_lookup_of_handling proper rfl (made.symm.trans found)
    · cases other
    · cases same
      exact ⟨granted, rfl, _, _, _, left⟩
  · intro ctx c shape among found isRead
    have through : ctx.engine = .library exports := proper _ among
    rw [Occasion.calls, Context.callsFor_of_isRead found isRead, through, Engine.tokenCalls]
    refine ⟨fun bare => ?_, fun extent granted => ?_, fun extent lacking active => ?_⟩
    · simp [bare]
    · simp [extent, granted]
    · simp [extent, lacking, active]

/-- One text has a token, one has none, one has no extent, and what comes then cannot be lifted.
Behind the failed step another text is lifted. -/
theorem tokens_are_given_back_once_around_failure :
    let text (label : String) (token : Option String) (hasExtent : Bool) : Cursor :=
      { facts := { kind := .listed ⟨109, by decide⟩, label := some label, token, hasExtent } }
    let stranger : Cursor := { facts := { kind := .functionDecl } }
    let root : Cursor :=
      { facts := { kind := .translationUnit }
        children := [text "a" (some "1") true, text "b" none true, text "c" (some "3") false,
          stranger, text "d" (some "4") true] }
    let catalogue : Catalogue :=
      ⟨[(.translationUnit, some .translationUnit),
        (.listed ⟨109, by decide⟩, some .stringLiteral)]⟩
    let session : Session :=
      { engine := .library {}, supply := [some { root }], settings := {}, catalogue,
        index := some 1 }
    let calls := Event.calls ((⟨session, none⟩ : Bench).eventsOfAll
      [.each [.load "a.c" [] none, .lift (text "e" (some "5") true) none]])
    calls =
        [session.loadCall "a.c" [] none, .findToken (some 0) (some "a"), .releaseTokens 1,
          .findToken (some 0) (some "b"), .findToken (some 0) (some "e"), .releaseTokens 1] ∧
      ∀ before count after, calls = before ++ .releaseTokens count :: after →
        count = 1 ∧ ∃ earlier unit label, before = earlier ++ [.findToken unit label] := by
  intro text stranger root catalogue session calls
  obtain ⟨made, -, given, -⟩ := tokens_are_given_back_once {} ⟨session, none⟩ rfl
    [.each [.load "a.c" [] none, .lift (text "e" (some "5") true) none]]
  refine ⟨?_, fun before count after found => (given before count after found).2⟩
  let ctx : Context := ⟨.library {}, some ⟨0, { root }⟩, catalogue⟩
  have sound : ctx.engine.Sound := fun _ => rfl
  have alone (label : String) (token : Option String) (hasExtent : Bool) :
      ctx.met defaultWrappers (text label token hasExtent) = [text label token hasExtent] := by
    rw [Context.met_of_standIn? rfl]
    rfl
  have lifted (label : String) (token : Option String) (hasExtent : Bool) :
      ∃ node, (ctx.lift (text label token hasExtent)).outcome = .ok node := by
    have other : (.listed ⟨109, by decide⟩ : Kind) ≠ .unexposedExpr := by decide
    have shape : ctx.catalogue.lookup (.listed ⟨109, by decide⟩) = .ok .stringLiteral := rfl
    rw [Context.lift_outcome_of_kindOf sound rfl other, shape, Outcome.ok_bind,
      Context.liftAs, Context.liftLeaf, Run.map_outcome, Context.tokenText_outcome sound rfl]
    exact ⟨_, rfl⟩
  have fails : (ctx.lift stranger).outcome = .error (.unhandledKind .functionDecl) := by
    rw [Context.lift_outcome_of_kindOf sound rfl (by decide)]
    rfl
  obtain ⟨_, first⟩ := lifted "a" (some "1") true
  obtain ⟨_, second⟩ := lifted "b" none true
  obtain ⟨_, third⟩ := lifted "c" (some "3") false
  have children : ctx.goesOnWith root = [text "a" (some "1") true, text "b" none true,
      text "c" (some "3") false, stranger] := by
    show ctx.upToFailure root.children = _
    simp only [root, Context.upToFailure, first, second, third, fails]
  have met : ctx.met defaultWrappers root = [root, text "a" (some "1") true, text "b" none true,
      text "c" (some "3") false, stranger] := by
    have last : ctx.met defaultWrappers stranger = [stranger] := by
      rw [Context.met_of_standIn? rfl]
      rfl
    rw [Context.met_of_standIn? rfl, children]
    simp only [List.flatMap_cons, alone, last]
    rfl
  have behind : (((⟨session, none⟩ : Bench).perform (.load "a.c" [] none)).1).session.context =
      ctx := by
    rw [Bench.perform_load, Bench.keep_session]
    rfl
  have loading : session.occasions "a.c" [] none =
      .loading (session.loadCall "a.c" [] none) :: ctx.occasions defaultWrappers root := rfl
  refine made.trans ?_
  simp only [Bench.occasionsOfAll, Bench.occasionsOf, Bench.occasions, Bench.stepOccasions, behind,
    loading, Context.occasions, met, Option.getD_none, alone]
  rfl

end CursorLift
