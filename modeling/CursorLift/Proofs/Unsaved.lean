import CursorLift.Proofs.Bracket
import CursorLift.Proofs.Relabelling

/-! # Texts lifted as files

A text is lifted as the file would be that it goes by the name of. Over a front end that gives the
same units for both, nothing differs but the call for the unit, which carries the text along, at
the path that the unit is asked for by.
-/

namespace CursorLift

theorem Path.join_of_absolute {path : String} (absolute : path.toList.head? = some '/')
    (directory : String) : join directory path = path := by
  rw [join, joinChars, if_pos (.inl absolute), String.ofList_toList]

namespace Call

/-- The same call with texts carried along, if it asks for a unit. -/
def carrying (files : List (String × String)) : Call → Call
  | .loadUnit index path arguments _ options => .loadUnit index path arguments (some files) options
  | call => call

variable {files : List (String × String)}

theorem carrying_of_isLoad_eq_false {call : Call} (other : call.isLoad = false) :
    call.carrying files = call := by
  cases call with
  | loadUnit => cases other
  | _ => rfl

theorem isLoad_carrying (call : Call) : (call.carrying files).isLoad = call.isLoad := by
  cases call <;> rfl

theorem filter_isLoad_carrying (calls : List Call) :
    (calls.map (carrying files)).filter isLoad = (calls.filter isLoad).map (carrying files) := by
  rw [List.filter_map]
  congr 2
  funext call
  exact isLoad_carrying call

end Call

theorem Run.mapCalls_carrying {α : Type} {x : Run α} {files : List (String × String)}
    (none : x.CallsOnly fun call => call.isLoad = false) : x.mapCalls (Call.carrying files) = x :=
  mapCalls_of_callsOnly (none.mono fun _ => Call.carrying_of_isLoad_eq_false)

/-! ## In one session -/

namespace Session

variable {faults : List (Operation × String)} {s : Session}

theorem loadCall_inMemory (memory : s.engine = .memory faults) (path : String)
    (arguments : List String) (unsaved : Option (List (String × String))) :
    s.loadCall path arguments unsaved =
      .loadUnit (s.index.getD 0) (s.resolve path) (s.settings.arguments ++ arguments) unsaved
        s.settings.options := by
  have asIs : (Engine.memory faults).received = id := rfl
  simp [loadCall, Engine.loadCall, memory, asIs]

theorem load_carrying (memory : s.engine = .memory faults) (opened : s.closed = false)
    (path : String) (arguments : List String) (files : List (String × String)) :
    (s.load path arguments (some files)).2 =
      (s.load path arguments none).2.mapCalls (Call.carrying files) := by
  have behind : (s.liftLoaded (s.loaded? s.served)).mapCalls (Call.carrying files) =
      s.liftLoaded (s.loaded? s.served) :=
    Run.mapCalls_carrying ((s.liftLoaded_tokenWork _).mono fun _ => Call.isLoad_of_tokenWork)
  rw [load_run opened, load_run opened, loadCall_inMemory memory, loadCall_inMemory memory]
  simp only [Run.mapCalls_bind, behind]
  rfl

theorem close_noLoads (memory : s.engine = .memory faults) :
    s.close.2.CallsOnly fun call => call.isLoad = false := by
  cases closed : s.closed with
  | true =>
      rw [close_of_closed closed]
      exact .of_silent rfl
  | false =>
      rw [Run.CallsOnly, close_calls memory closed]
      simp [Call.isLoad]

theorem within_load_carrying (memory : s.engine = .memory faults) (opened : s.closed = false)
    (path : String) (arguments : List String) (files : List (String × String)) :
    (s.within fun s => s.load path arguments (some files)).2 =
      (s.within fun s => s.load path arguments none).2.mapCalls (Call.carrying files) := by
  have left : s.answered.engine = .memory faults := memory
  simp only [within, Run.mapCalls_andFinally, load_session opened, load_carrying memory opened,
    Run.mapCalls_carrying (close_noLoads left)]

end Session

/-! ## In a session of its own -/

section OneShot

variable {faults : List (Operation × String)} {supply : List (Option SourceUnit)}
  {settings : Settings}

theorem Session.create_noLoads :
    (Session.create ⟨.memory faults, supply⟩ settings Catalogue.basic).CallsOnly
      fun call => call.isLoad = false := by
  have creation : Event.calls
      (Session.create ⟨.memory faults, supply⟩ settings Catalogue.basic).trace =
        [.createIndex settings.excludeFromPch settings.displayDiagnostics] :=
    Session.create_calls rfl (Catalogue.registerAll_calls {} Catalogue.basicRegistrations)
  rw [Run.CallsOnly, creation]
  simp [Call.isLoad]

theorem Session.fields_of_create {s : Session}
    (created : (Session.create ⟨.memory faults, supply⟩ settings Catalogue.basic).outcome = .ok s) :
    s.engine = .memory faults ∧ s.settings = settings ∧ s.index = some 1 ∧ s.closed = false := by
  obtain ⟨_, -, rfl⟩ := Session.eq_of_create created
  exact ⟨rfl, rfl, rfl, rfl⟩

/-- Lifting a text gives notice of it, and then does what lifting the file does, with the text
carried along. -/
theorem Frontend.liftText_eq (text name : String) (arguments : List String) :
    Frontend.liftText ⟨.memory faults, supply⟩ settings text name arguments = (do
      Run.note (.textGiven text.length name)
      (Frontend.liftFile ⟨.memory faults, supply⟩ settings name arguments).mapCalls
        (Call.carrying [(Path.join settings.workingDirectory name, text)])) := by
  unfold liftText liftFile inSession
  rw [Run.mapCalls_bind, Run.mapCalls_carrying Session.create_noLoads]
  refine Run.bind_congr fun _ _ => Run.bind_congr fun s created => ?_
  obtain ⟨memory, placed, -, opened⟩ := Session.fields_of_create created
  -- The session resolves the name by its settings, and those are the given ones.
  rw [← placed]
  exact s.within_load_carrying memory opened name arguments _

theorem Frontend.liftFile_loads (path : String) (arguments : List String) :
    (Event.calls (Frontend.liftFile ⟨.memory faults, supply⟩ settings path arguments).trace).filter
        Call.isLoad =
      match faults.lookup .createIndex with
      | some _ => []
      | none =>
        [.loadUnit 1 (Path.join settings.workingDirectory path) (settings.arguments ++ arguments)
          none settings.options] := by
  have bracketed : Bracketed faults supply settings Catalogue.basic
      (fun s => s.load path arguments none) (fun s => s.within fun s => s.load path arguments none)
      (Frontend.liftFile ⟨.memory faults, supply⟩ settings path arguments) :=
    bracketed_of_create rfl (Catalogue.registerAll_calls {} Catalogue.basicRegistrations)
      fun s start => bracket_load start _ _ _
  unfold Bracketed at bracketed
  cases fault : faults.lookup .createIndex with
  | some message =>
      rw [fault] at bracketed
      rw [bracketed.1]
      rfl
  | none =>
      rw [fault] at bracketed
      obtain ⟨s, _, created, -, -, calls, -, bracket⟩ := bracketed
      obtain ⟨memory, placed, holds, opened⟩ := Session.fields_of_create created
      have unclosed : (s.load path arguments none).1.closed = false :=
        (s.load_closed path arguments none).trans opened
      rw [calls, (bracket.byExit unclosed).1, List.filter_cons_of_neg Bool.false_ne_true,
        List.filter_append, Session.filter_isLoad_load opened, Session.loadCall_inMemory memory,
        Session.resolve, placed, holds]
      rfl

end OneShot

/-- Lifting a text and lifting the file that it goes by the name of end alike and make the same
calls in the same order, but for the call for the unit, which carries the text along. Both ask for
the unit at one path, which is the name itself if that is absolute, and the text is at that path. -/
theorem text_lifted_as_file (faults : List (Operation × String))
    (supply : List (Option SourceUnit)) (settings : Settings) (text name : String)
    (arguments : List String) :
    let frontend : Frontend := ⟨.memory faults, supply⟩
    let ofText := frontend.liftText settings text name arguments
    let ofFile := frontend.liftFile settings name arguments
    let path := Path.join settings.workingDirectory name
    let asked (unsaved : Option (List (String × String))) : List Call :=
      match faults.lookup .createIndex with
      | some _ => []
      | none => [.loadUnit 1 path (settings.arguments ++ arguments) unsaved settings.options]
    ofText.outcome = ofFile.outcome ∧
      Event.calls ofText.trace = (Event.calls ofFile.trace).map (Call.carrying [(path, text)]) ∧
      (Event.calls ofFile.trace).filter Call.isLoad = asked none ∧
      (Event.calls ofText.trace).filter Call.isLoad = asked (some [(path, text)]) ∧
      (name.toList.head? = some '/' → path = name) := by
  intro frontend ofText ofFile path asked
  have same : ofText = _ := Frontend.liftText_eq text name arguments
  have calls : Event.calls ofText.trace =
      (Event.calls ofFile.trace).map (Call.carrying [(path, text)]) := by
    rw [same, Run.note_bind_trace, Event.calls_notice]
    exact Event.calls_map _ _
  have once : (Event.calls ofFile.trace).filter Call.isLoad = asked none :=
    Frontend.liftFile_loads name arguments
  refine ⟨?_, calls, once, ?_, fun absolute => Path.join_of_absolute absolute _⟩
  · rw [same]
    rfl
  · rw [calls, Call.filter_isLoad_carrying, once]
    simp only [asked]
    cases faults.lookup .createIndex <;> rfl

/-- The unit of a text with an absolute name is not looked for below the working directory. -/
theorem text_at_absolute_name :
    let path := Path.join "src" "/tmp/a.c"
    let run := Frontend.liftText ⟨.memory [(.unitRoot, "gone")], []⟩ { workingDirectory := "src" }
      "int x = 1;" "/tmp/a.c" ["-DX"]
    path = "/tmp/a.c" ∧
      (Event.calls run.trace).filter Call.isLoad =
        [.loadUnit 1 path ["-DX"] (some [(path, "int x = 1;")]) 0] := by
  intro path run
  obtain ⟨-, -, -, asked, absolute⟩ := text_lifted_as_file [(.unitRoot, "gone")] []
    { workingDirectory := "src" } "int x = 1;" "/tmp/a.c" ["-DX"]
  exact ⟨absolute rfl, asked⟩

end CursorLift
