import CursorLift.Proofs.Lift
import CursorLift.Session.Basic

/-! # What loading consists of

Loading in an open session is one call for a unit and then, if one is given, the lifting of its
root. So it depends on the front end's answer and on what the session was opened with, and on
whichever engine there is only tokens are asked for behind that one call.
-/

namespace CursorLift

open Run (CallsOnly)

def Call.isLoad : Call → Bool
  | .loadUnit .. => true
  | _ => false

def Call.loads (calls : List Call) : Nat := calls.countP Call.isLoad

@[simp] theorem Call.loads_append (early late : List Call) :
    loads (early ++ late) = loads early + loads late :=
  List.countP_append

namespace Frontend

/-- What a front end answers the call for a unit that has so many before it. -/
def loaded? (frontend : Frontend) (number : Nat) : Option ActiveUnit :=
  match frontend.engine.fault? .loadUnit with
  | some _ => none
  | none => Engine.serve? frontend.supply number

def refusal (frontend : Frontend) : Failure :=
  match frontend.engine.fault? .loadUnit with
  | some message => .engineFault message
  | none => .unitNotLoaded

theorem loaded?_of_fault {frontend : Frontend} {message : String}
    (fault : frontend.engine.fault? .loadUnit = some message) (number : Nat) :
    frontend.loaded? number = none := by
  rw [loaded?, fault]

theorem loaded?_of_sound {frontend : Frontend}
    (sound : frontend.engine.fault? .loadUnit = none) (number : Nat) :
    frontend.loaded? number = Engine.serve? frontend.supply number := by
  rw [loaded?, sound]

end Frontend

/-! ## Work on tokens -/

/-- Whether a call asks for tokens, gives them back, or splits the source into them. -/
def Call.IsTokenWork : Call → Prop
  | .findToken .. => True
  | .releaseTokens _ => True
  | .splitAtLocation _ => True
  | .splitExtent _ => True
  | _ => False

theorem Call.isLoad_of_tokenWork {call : Call} (h : call.IsTokenWork) : call.isLoad = false := by
  cases call with
  | loadUnit => cases h
  | _ => rfl

namespace Engine

theorem token_tokenWork (engine : Engine) (unit : Option ActiveUnit) (c : Cursor) :
    (engine.token unit c).CallsOnly Call.IsTokenWork := by
  cases engine with
  | memory faults =>
      refine (CallsOnly.call trivial).bind fun _ => ?_
      exact (Context.attempt_callsOnly _ .token).bind fun _ => .of_silent rfl
  | library exports =>
      cases granted : exports.tokens with
      | true =>
          simp only [token, granted, if_true]
          refine (CallsOnly.call trivial).bind fun _ => ?_
          split
          · exact (CallsOnly.call trivial).bind fun _ => .of_silent rfl
          · exact .of_silent rfl
      | false =>
          simp only [token, granted]
          cases unit with
          | none => exact .of_silent rfl
          | some active => exact (CallsOnly.call trivial).bind fun _ => .of_silent rfl

theorem seekInitializer_tokenWork (engine : Engine) (c : Cursor) :
    (engine.seekInitializer c).CallsOnly Call.IsTokenWork := by
  unfold seekInitializer
  split
  · refine (CallsOnly.note _).bind fun _ => (CallsOnly.call trivial).bind fun _ => ?_
    split
    · split <;> exact .of_silent rfl
    · exact .of_silent rfl
  · exact Context.attempt_callsOnly _ .initializer

end Engine

/-- Whatever the engine, lifting works on tokens only. -/
theorem Context.lift_tokenWork (ctx : Context) (c : Cursor) :
    (ctx.lift c).CallsOnly Call.IsTokenWork :=
  liftThrough_callsAs (Run.sequential_only _) (ctx.engine.token_tokenWork ctx.unit)
    ctx.engine.seekInitializer_tokenWork defaultWrappers c

/-! ## Loading in a session -/

namespace Session

variable {faults : List (Operation × String)} {s : Session}

theorem load_of_closed (closed : s.closed = true) (path : String) (arguments : List String)
    (unsaved : Option (List (String × String))) :
    s.load path arguments unsaved = (s, Run.fail .sessionClosed) := by
  rw [load, if_pos closed]

def loadCall (s : Session) (path : String) (arguments : List String)
    (unsaved : Option (List (String × String))) : Call :=
  s.engine.loadCall (s.index.getD 0) (s.resolve path) (s.settings.arguments ++ arguments) unsaved
    s.settings.options

/-- The lifting of what a front end gives, once it was asked for a unit. -/
def liftLoaded (s : Session) : Option ActiveUnit → Run Node
  | none => Run.fail s.refusal
  | some unit => do
    let root ← s.engine.rootOf unit
    (⟨s.engine, some unit, s.catalogue⟩ : Context).lift root

/-- An open session once it was answered. A fault of the engine uses up none of the supply, and
the unit before stays active when there is no other. -/
def answered (s : Session) : Session :=
  { s with
    served := if (s.engine.fault? .loadUnit).isSome then s.served else s.served + 1
    unit := (s.loaded? s.served).or s.unit }

/-- Loading in an open session tells of it, asks for a unit, and lifts what it is given. -/
theorem load_eq (opened : s.closed = false) (path : String) (arguments : List String)
    (unsaved : Option (List (String × String))) :
    s.load path arguments unsaved = (s.answered, do
      Run.note (.loading (s.resolve path) (s.settings.arguments ++ arguments))
      Run.call (s.loadCall path arguments unsaved)
      s.liftLoaded (s.loaded? s.served)) := by
  rw [load, if_neg (by simp [opened])]
  simp only [fetch, answered, loadCall, liftLoaded, Frontend.loaded?, Frontend.refusal]
  cases s.engine.fault? .loadUnit with
  | some message => rfl
  | none => cases Engine.serve? s.supply s.served <;> rfl

theorem load_session (opened : s.closed = false) (path : String) (arguments : List String)
    (unsaved : Option (List (String × String))) :
    (s.load path arguments unsaved).1 = s.answered := by
  rw [load_eq opened]

theorem load_run (opened : s.closed = false) (path : String) (arguments : List String)
    (unsaved : Option (List (String × String))) :
    (s.load path arguments unsaved).2 = (do
      Run.note (.loading (s.resolve path) (s.settings.arguments ++ arguments))
      Run.call (s.loadCall path arguments unsaved)
      s.liftLoaded (s.loaded? s.served)) := by
  rw [load_eq opened]

theorem load_stays (s : Session) (path : String) (arguments : List String)
    (unsaved : Option (List (String × String))) :
    ∃ served unit, (s.load path arguments unsaved).1 = { s with served, unit } := by
  by_cases closed : s.closed = true
  · exact ⟨s.served, s.unit, by rw [load_of_closed closed]⟩
  · exact ⟨_, _, load_session (Bool.eq_false_iff.mpr closed) path arguments unsaved⟩

/-- What a session owns: its engine, its index, and whether it was closed. -/
def holding (s : Session) : Engine × Option Nat × Bool := (s.engine, s.index, s.closed)

theorem load_holding (path : String) (arguments : List String)
    (unsaved : Option (List (String × String))) :
    (s.load path arguments unsaved).1.holding = s.holding := by
  obtain ⟨_, _, left⟩ := s.load_stays path arguments unsaved
  rw [left]
  rfl

theorem load_engine (s : Session) (path : String) (arguments : List String)
    (unsaved : Option (List (String × String))) :
    (s.load path arguments unsaved).1.engine = s.engine :=
  congrArg (fun holding => holding.1) (load_holding path arguments unsaved)

theorem load_closed (s : Session) (path : String) (arguments : List String)
    (unsaved : Option (List (String × String))) :
    (s.load path arguments unsaved).1.closed = s.closed :=
  congrArg (fun holding => holding.2.2) (load_holding path arguments unsaved)

/-! ## What loading calls for -/

theorem liftLoaded_tokenWork (s : Session) (given : Option ActiveUnit) :
    (s.liftLoaded given).CallsOnly Call.IsTokenWork := by
  cases given with
  | none => exact .of_silent rfl
  | some unit =>
      refine CallsOnly.bind ?_ fun root => Context.lift_tokenWork _ root
      exact (Context.attempt_callsOnly _ .unitRoot).bind fun _ => .of_silent rfl

theorem liftLoaded_lookups (memory : s.engine = .memory faults) (given : Option ActiveUnit) :
    (s.liftLoaded given).CallsOnly (Context.Lookup given) := by
  cases given with
  | none => exact .of_silent rfl
  | some unit =>
      rw [liftLoaded, memory]
      refine CallsOnly.bind ?_ fun root => Context.liftThrough_callsOnly _ root
      exact (Context.attempt_callsOnly _ .unitRoot).bind fun _ => .of_silent rfl

/-- An open session asks for one unit when it loads one, and for nothing but tokens after it. -/
theorem load_calls (opened : s.closed = false) (path : String) (arguments : List String)
    (unsaved : Option (List (String × String))) :
    Event.calls (s.load path arguments unsaved).2.trace =
      s.loadCall path arguments unsaved ::
        Event.calls (s.liftLoaded (s.loaded? s.served)).trace := by
  rw [load_run opened]
  rfl

theorem filter_isLoad_load (opened : s.closed = false) (path : String) (arguments : List String)
    (unsaved : Option (List (String × String))) :
    (Event.calls (s.load path arguments unsaved).2.trace).filter Call.isLoad =
      [s.loadCall path arguments unsaved] := by
  have behind : (Event.calls (s.liftLoaded (s.loaded? s.served)).trace).filter Call.isLoad = [] := by
    rw [List.filter_eq_nil_iff]
    intro call member
    simp [Call.isLoad_of_tokenWork (s.liftLoaded_tokenWork _ call member)]
  rw [load_calls opened, List.filter_cons_of_pos rfl, behind]

theorem loads_load (opened : s.closed = false) (path : String) (arguments : List String)
    (unsaved : Option (List (String × String))) :
    Call.loads (Event.calls (s.load path arguments unsaved).2.trace) = 1 := by
  rw [Call.loads, List.countP_eq_length_filter, filter_isLoad_load opened, List.length_singleton]

end Session

end CursorLift
