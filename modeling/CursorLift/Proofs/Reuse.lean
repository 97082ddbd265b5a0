import CursorLift.Proofs.ActiveUnit
import CursorLift.Proofs.Relabelling

/-! # Sessions without a memory

What was loaded and lifted in a session leaves nothing behind that a later load could tell. It
comes to what it would come to as the first in a session of its own, in which the front end gives
the same source: the same node or failure, the same notices, and the same calls, in which tokens
are looked up in the unit that was just given.
-/

namespace CursorLift

/-- The same call, with another unit in place of the one in which it looks up a token. -/
def Call.inUnit (unit : Option Nat) : Call → Call
  | .findToken _ label => .findToken unit label
  | call => call

namespace Context

variable {faults : List (Operation × String)} {catalogue : Catalogue}
  {given other : Option ActiveUnit}

theorem tokenOf?_congr (same : given.map ActiveUnit.source = other.map ActiveUnit.source)
    (c : Cursor) :
    (Engine.memory faults).tokenOf? given c = (Engine.memory faults).tokenOf? other c := by
  simp only [Engine.tokenOf?]
  cases c.facts.place with
  | none => rfl
  | some place =>
      have bySource (unit : Option ActiveUnit) :
          (unit.bind fun active => active.source.tokens.lookup place) =
            (unit.map ActiveUnit.source).bind fun source => source.tokens.lookup place := by
        cases unit <;> rfl
      simp only [bySource, same]

theorem tokenText_inUnit (same : given.map ActiveUnit.source = other.map ActiveUnit.source)
    (c : Cursor) :
    (inMemory faults given catalogue).tokenText c =
      ((inMemory faults other catalogue).tokenText c).mapCalls
        (Call.inUnit (given.map ActiveUnit.serial)) := by
  unfold tokenText
  split
  · simp only [inMemory, Engine.token, tokenOf?_congr same, Run.mapCalls_bind]
    congr 2
    rw [Run.mapCalls_of_silent (attempt_silent _ .token)]
    rfl
  · rfl

/-- Lifting takes from the active unit what its source says, and its number into the calls. -/
theorem lift_inUnit (same : given.map ActiveUnit.source = other.map ActiveUnit.source)
    (c : Cursor) :
    (inMemory faults given catalogue).lift c =
      ((inMemory faults other catalogue).lift c).mapCalls
        (Call.inUnit (given.map ActiveUnit.serial)) := by
  have asked (d : Cursor) : ((inMemory faults other catalogue).askVariable d).Silent :=
    .bind Run.sequential_nil (attempt_silent _ .spelling) fun _ => attempt_silent _ .initializer
  have counterparts : Counterparts
      (fun _ x y => x = y.mapCalls (Call.inUnit (given.map ActiveUnit.serial)))
      (inMemory faults given catalogue) (inMemory faults other catalogue) := by
    refine ⟨rfl, fun kind _ => ?_, tokenText_inUnit same, fun d => ?_⟩
    · have silent : (Run.ofExcept (catalogue.lookup kind)).Silent := rfl
      exact (Run.mapCalls_of_silent silent).symm
    · exact (Run.mapCalls_of_silent (asked d)).symm
  exact lift_related (Run.congruence_mapCalls _) counterparts c

end Context

/-! ## What stays of a session -/

def Step.registers : Step → Bool
  | .catalogue (.register _) => true
  | _ => false

namespace Bench

theorem keep_ran (bench : Bench) (session : Session) (ran : Run Node) :
    (bench.keep session ran).2 = ⟨ran.trace, ran.outcome.map .node⟩ := by
  unfold keep
  cases ran.outcome <;> rfl

/-- A step that does not close leaves a session as it is but for its unit, for how many it was
given, and for what the step registers. -/
theorem perform_stays (bench : Bench) {step : Step} (stays : step.closes = false) :
    ∃ served unit catalogue,
      (bench.perform step).1.session = { bench.session with served, unit, catalogue } ∧
        (step.registers = false → catalogue = bench.session.catalogue) := by
  cases step with
  | close => cases stays
  | load path arguments unsaved =>
      obtain ⟨served, unit, left⟩ := bench.session.load_stays path arguments unsaved
      refine ⟨served, unit, _, ?_, fun _ => rfl⟩
      rw [perform_load, keep_session, left]
  | lift cursor wrappers =>
      refine ⟨bench.session.served, bench.session.unit, bench.session.catalogue, ?_, fun _ => rfl⟩
      rw [perform_lift, keep_session]
  | catalogue step =>
      refine ⟨_, _, _, rfl, ?_⟩
      cases step with
      | register request => nofun
      | lookup | holds | kinds | size => exact fun _ => rfl
  | enter | resolve | dump | inspect => exact ⟨_, _, _, rfl, fun _ => rfl⟩

theorem after_stays (bench : Bench) {steps : List Step}
    (stays : ∀ step ∈ steps, step.closes = false) :
    ∃ served unit catalogue,
      (bench.after steps).session = { bench.session with served, unit, catalogue } ∧
        ((∀ step ∈ steps, step.registers = false) → catalogue = bench.session.catalogue) := by
  induction steps generalizing bench with
  | nil => exact ⟨_, _, _, rfl, fun _ => rfl⟩
  | cons step steps ih =>
      obtain ⟨_, _, between, one, keeps⟩ := bench.perform_stays (stays step List.mem_cons_self)
      obtain ⟨served, unit, catalogue, rest, keepsOn⟩ :=
        ih (bench.perform step).1 fun later member => stays later (List.mem_cons_of_mem step member)
      refine ⟨served, unit, catalogue, ?_, fun free => ?_⟩
      · rw [after, rest, one]
      · rw [keepsOn fun later member => free later (List.mem_cons_of_mem step member), one]
        exact keeps (free step List.mem_cons_self)

end Bench

/-! ## Two sessions -/

namespace Session

variable {faults : List (Operation × String)} {s t : Session}

/-- Two open sessions that differ at most in what was loaded in them. -/
structure Twins (s t : Session) : Prop where
  engine : t.engine = s.engine
  settings : t.settings = s.settings
  catalogue : t.catalogue = s.catalogue
  index : t.index = s.index
  opened : s.closed = false
  stillOpened : t.closed = false

theorem Twins.loadCall (twins : Twins s t) (path : String) (arguments : List String)
    (unsaved : Option (List (String × String))) :
    t.loadCall path arguments unsaved = s.loadCall path arguments unsaved := by
  simp only [Session.loadCall, resolve, twins.engine, twins.index, twins.settings]

theorem Twins.liftLoaded (twins : Twins s t) (given : Option ActiveUnit) :
    t.liftLoaded given = s.liftLoaded given := by
  have refusal : t.refusal = s.refusal := by
    simp only [Frontend.refusal, twins.engine]
  cases given with
  | none => rw [Session.liftLoaded, Session.liftLoaded, refusal]
  | some unit => simp only [Session.liftLoaded, twins.engine, twins.catalogue]

/-- Sessions that are given the same do the same. -/
theorem Twins.load_eq (twins : Twins s t) (same : t.loaded? t.served = s.loaded? s.served)
    (path : String) (arguments : List String) (unsaved : Option (List (String × String))) :
    (t.load path arguments unsaved).2 = (s.load path arguments unsaved).2 := by
  rw [Session.load_run twins.opened, Session.load_run twins.stillOpened, twins.loadCall, same,
    twins.liftLoaded]
  simp only [resolve, twins.settings]

theorem liftLoaded_inUnit (memory : s.engine = .memory faults) {given other : Option ActiveUnit}
    (same : given.map ActiveUnit.source = other.map ActiveUnit.source) :
    s.liftLoaded given =
      (s.liftLoaded other).mapCalls (Call.inUnit (given.map ActiveUnit.serial)) := by
  cases given with
  | none =>
      cases other with
      | none => rfl
      | some unit => cases same
  | some active =>
      cases other with
      | none => cases same
      | some unit =>
          have source : active.source = unit.source := Option.some.inj same
          simp only [liftLoaded, memory, Run.mapCalls_bind]
          have rooted : ((Engine.memory faults).rootOf unit).Silent :=
            .bind Run.sequential_nil (Context.attempt_silent _ .unitRoot) fun _ => rfl
          rw [Run.mapCalls_of_silent rooted, Engine.rootOf, Engine.rootOf, source]
          refine Run.bind_congr fun root _ => ?_
          exact Context.lift_inUnit same root

theorem Twins.load_inUnit (twins : Twins s t) (memory : s.engine = .memory faults)
    (same : (t.loaded? t.served).map ActiveUnit.source =
      (s.loaded? s.served).map ActiveUnit.source)
    (path : String) (arguments : List String) (unsaved : Option (List (String × String))) :
    (s.load path arguments unsaved).2 =
      (t.load path arguments unsaved).2.mapCalls
        (Call.inUnit ((s.loaded? s.served).map ActiveUnit.serial)) := by
  rw [Session.load_run twins.opened, Session.load_run twins.stillOpened, twins.loadCall,
    twins.liftLoaded, liftLoaded_inUnit memory same.symm]
  simp only [Run.mapCalls_bind, resolve, twins.settings]
  rfl

end Session

theorem Session.create_again {faults : List (Operation × String)}
    {supply again : List (Option SourceUnit)} {settings : Settings} {catalogue other : Run Catalogue}
    {known : Catalogue} {s : Session}
    (created : (create ⟨.memory faults, supply⟩ settings catalogue).outcome = .ok s)
    (made : other.outcome = .ok known) :
    (create ⟨.memory faults, again⟩ settings other).outcome =
      .ok { engine := .memory faults, supply := again, settings, catalogue := known,
            index := some 1 } := by
  rw [create_outcome] at created ⊢
  rw [made, Outcome.ok_bind]
  obtain ⟨_, -, created⟩ := Outcome.bind_eq_ok.mp created
  cases fault : faults.lookup .createIndex with
  | some message => rw [fault] at created; cases created
  | none => rfl

theorem Bench.perform_load_ran (bench : Bench) (path : String) (arguments : List String)
    (unsaved : Option (List (String × String))) :
    (bench.perform (.load path arguments unsaved)).2 =
      ⟨(bench.session.load path arguments unsaved).2.trace,
        (bench.session.load path arguments unsaved).2.outcome.map .node⟩ := by
  rw [perform_load, keep_ran]

/-- A session that was not closed has a twin among those that are just opened. -/
theorem Bench.exists_twin {faults : List (Operation × String)}
    {supply : List (Option SourceUnit)} {settings : Settings} {first : Run Catalogue} {s : Session}
    (created : (Session.create ⟨.memory faults, supply⟩ settings first).outcome = .ok s)
    {steps : List Step} (stays : ∀ step ∈ steps, step.closes = false) {catalogue : Run Catalogue}
    (made : catalogue.outcome = .ok ((⟨s, none⟩ : Bench).after steps).session.catalogue)
    (again : List (Option SourceUnit)) :
    ∃ fresh, (Session.create ⟨.memory faults, again⟩ settings catalogue).outcome = .ok fresh ∧
      fresh.toFrontend = ⟨.memory faults, again⟩ ∧
      ∀ served, ((⟨s, none⟩ : Bench).after steps).session.Twins { fresh with served } := by
  obtain ⟨_, _, _, left, -⟩ := (⟨s, none⟩ : Bench).after_stays stays
  refine ⟨_, Session.create_again created made, rfl, fun served => ?_⟩
  obtain ⟨_, -, rfl⟩ := Session.eq_of_create created
  rw [left]
  exact ⟨rfl, rfl, rfl, rfl, rfl, rfl⟩

theorem Bench.loads_events {faults : List (Operation × String)} {bench : Bench}
    (memory : bench.session.engine = .memory faults) (opened : bench.session.closed = false)
    {steps : List Step} (stays : ∀ step ∈ steps, step.closes = false) :
    Call.loads (Event.calls (bench.events steps)) = steps.countP Step.loads := by
  induction steps generalizing bench with
  | nil => rfl
  | cons step steps ih =>
      have stay := stays step List.mem_cons_self
      have asked : Call.loads (Event.calls (bench.perform step).2.trace) =
          if step.loads then 1 else 0 := by
        cases loads : step.loads with
        | false => exact Call.loads_of_lookups (perform_callsOnly_of_idle memory stay loads)
        | true =>
            obtain ⟨path, arguments, unsaved, rfl⟩ := Step.eq_load loads
            rw [perform_load_ran]
            exact Session.loads_load opened path arguments unsaved
      obtain ⟨_, _, _, left, -⟩ := bench.perform_stays stay
      have later : Call.loads (Event.calls ((bench.perform step).1.events steps)) =
          steps.countP Step.loads :=
        ih (by rw [left]; exact memory) (by rw [left]; exact opened) fun other member =>
          stays other (List.mem_cons_of_mem step member)
      rw [events_cons, Event.calls_append, Call.loads_append, asked, later, List.countP_cons,
        Nat.add_comm]

/-- A load in a session that was not closed comes to the same whatever was done in the session
before. In a session that was just opened, with the same settings and shapes, over a front end
that gives the same source, it has the same outcome, the same notices, and the same calls but for
the number of the unit whose tokens are looked up; and if the unit is the same, so is the number. -/
theorem load_regardless_of_history (faults : List (Operation × String))
    (supply again : List (Option SourceUnit)) (settings : Settings) (start : Catalogue)
    (requests : List Registration) {s : Session}
    (created : (Session.create ⟨.memory faults, supply⟩ settings
      (start.registerAll requests)).outcome = .ok s)
    {steps : List Step} (stays : ∀ step ∈ steps, step.closes = false) (catalogue : Run Catalogue)
    (made : catalogue.outcome = .ok ((⟨s, none⟩ : Bench).after steps).session.catalogue)
    (served : Nat)
    (same : (Frontend.loaded? ⟨.memory faults, again⟩ served).map ActiveUnit.source =
      (Frontend.loaded? ⟨.memory faults, supply⟩ (steps.countP Step.loads)).map
        ActiveUnit.source) :
    let bench := (⟨s, none⟩ : Bench).after steps
    let given := Frontend.loaded? ⟨.memory faults, supply⟩ (steps.countP Step.loads)
    ((∀ step ∈ steps, step.registers = false) → bench.session.catalogue = s.catalogue) ∧
      ∃ fresh, (Session.create ⟨.memory faults, again⟩ settings catalogue).outcome = .ok fresh ∧
        ∀ path arguments unsaved,
          let reused := (bench.perform (.load path arguments unsaved)).2
          let alone :=
            ((⟨{ fresh with served }, none⟩ : Bench).perform (.load path arguments unsaved)).2
          reused.outcome = alone.outcome ∧
            (∀ threshold,
              Event.notices threshold reused.trace = Event.notices threshold alone.trace) ∧
            Event.calls reused.trace =
              (Event.calls alone.trace).map (Call.inUnit (given.map ActiveUnit.serial)) ∧
            (Frontend.loaded? ⟨.memory faults, again⟩ served = given → reused = alone) := by
  intro bench given
  obtain ⟨fresh, opened, frontend, twins⟩ := Bench.exists_twin created stays made again
  have begun : Tracks faults supply s (Event.calls []) := Tracks.opening created
  have reached : Tracks faults supply bench.session
      (Event.calls ([] ++ (⟨s, none⟩ : Bench).events steps)) := Tracks.after begun steps
  -- Nothing has closed the session, so each load before has asked for a unit, whatever it came to.
  have next : bench.session.loaded? bench.session.served = given := by
    obtain ⟨memory, -, unclosed, -⟩ := Session.create_ok created
    rw [reached.next, List.nil_append, Bench.loads_events memory unclosed stays]
  refine ⟨fun free => ?_, fresh, opened, fun path arguments unsaved => ?_⟩
  · obtain ⟨_, _, _, left, keeps⟩ := (⟨s, none⟩ : Bench).after_stays stays
    have left : bench.session = _ := left
    rw [left]
    exact keeps free
  · intro reused alone
    have twin := twins served
    have lone : { fresh with served }.loaded? served =
        Frontend.loaded? ⟨.memory faults, again⟩ served := by rw [← frontend]
    have loaded := twin.load_inUnit reached.memory (by rw [lone, next]; exact same) path arguments
      unsaved
    rw [next] at loaded
    simp only [reused, alone, Bench.perform_load_ran]
    refine ⟨by rw [loaded]; rfl, fun threshold => ?_, ?_, fun equal => ?_⟩
    · rw [loaded]
      exact Event.notices_map _ threshold _
    · rw [loaded]
      exact Event.calls_map _ _
    · rw [twin.load_eq (by rw [lone, next]; exact equal)]

/-- The first unit was lifted and the second one could not be loaded. The third is lifted as in a
session of its own, in which it is the first. -/
theorem load_regardless_of_two_before :
    let root : Cursor := { facts := { kind := .integerLiteral, place := some "p" } }
    let early : SourceUnit := ⟨root, [("p", "1")]⟩
    let late : SourceUnit := ⟨root, [("p", "2")]⟩
    let steps : List Step := [.load "a.c" [] none, .lift root none, .load "b.c" [] none]
    ∃ s fresh,
      (Session.create ⟨.memory [], [some early, none, some late]⟩ {}
        (Catalogue.registerAll {} Catalogue.basicRegistrations)).outcome = .ok s ∧
      (Session.create ⟨.memory [], [some late]⟩ {}
        (Catalogue.registerAll {} Catalogue.basicRegistrations)).outcome = .ok fresh ∧
      let reused := (((⟨s, none⟩ : Bench).after steps).perform (.load "c.c" [] none)).2
      let alone := ((⟨{ fresh with served := 0 }, none⟩ : Bench).perform (.load "c.c" [] none)).2
      reused.outcome = alone.outcome ∧
        Event.calls reused.trace = (Event.calls alone.trace).map (Call.inUnit (some 2)) := by
  intro root early late steps
  have stays : ∀ step ∈ steps, step.closes = false := by simp [steps, Step.closes]
  obtain ⟨s, created⟩ : ∃ s, (Session.create ⟨.memory [], [some early, none, some late]⟩ {}
      (Catalogue.registerAll {} Catalogue.basicRegistrations)).outcome = .ok s := ⟨_, rfl⟩
  have made : (Catalogue.registerAll {} Catalogue.basicRegistrations).outcome =
      .ok ((⟨s, none⟩ : Bench).after steps).session.catalogue := by
    obtain ⟨_, _, _, left, keeps⟩ := (⟨s, none⟩ : Bench).after_stays stays
    rw [left, keeps (by simp [steps, Step.registers])]
    cases created
    rfl
  obtain ⟨-, fresh, opened, loading⟩ :=
    load_regardless_of_history [] [some early, none, some late] [some late] {} {}
      Catalogue.basicRegistrations created stays _ made 0 rfl
  obtain ⟨outcome, -, calls, -⟩ := loading "c.c" [] none
  exact ⟨s, fresh, created, opened, outcome, calls⟩

end CursorLift
