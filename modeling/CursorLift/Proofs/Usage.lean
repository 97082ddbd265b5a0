import CursorLift.CommandLine.Dump
import CursorLift.Proofs.Loading
import Mathlib.Data.List.TakeWhile

/-! # Options before the file and behind it

Arguments are obeyed from the first on, and everything behind the file is for the compiler. So an
option counts if it stands before the file. Behind the file it does nothing but reach the compiler
along with its value, and the file is taken relative to the directory that it would be without it.
-/

namespace CursorLift

namespace CommandLine

/-! ## What each argument is -/

theorem role_of_plain {text : List Char} (plain : text.head? ≠ some '-') :
    role text = .ok .operand := by
  unfold role
  split
  · exact absurd rfl plain
  · rfl

theorem roles_cons {argument : String} {first : Role} (other : argument ≠ "--")
    (known : role argument.toList = .ok first) (rest : List String) :
    roles (argument :: rest) = (roles rest).map ((argument, first) :: ·) := by
  rw [roles, if_neg other, known]
  cases roles rest <;> rfl

theorem ne_separator_of_plain {argument : String} (plain : argument.toList.head? ≠ some '-') :
    argument ≠ "--" := by
  rintro rfl
  exact plain rfl

theorem map_fst_roles {arguments : List String} {classified : List (String × Role)}
    (legible : roles arguments = .ok classified) : classified.map Prod.fst = arguments := by
  induction arguments generalizing classified with
  | nil =>
      cases legible
      rfl
  | cons argument rest ih =>
      unfold roles at legible
      split at legible
      · cases legible
        simp [Function.comp_def]
      · cases known : role argument.toList with
        | error refusal => rw [known] at legible; cases legible
        | ok first =>
            cases others : roles rest with
            | error refusal => rw [known, others] at legible; cases legible
            | ok later =>
                rw [known, others] at legible
                cases legible
                rw [List.map_cons, ih others]

theorem role_workingDirectory :
    role "--working-dir".toList = .ok (.option .workingDirectory false none) := rfl

theorem role_showDiagnostics :
    role "--show-diagnostics".toList = .ok (.option .showDiagnostics false none) := rfl

theorem role_verbose : role "--verbose".toList = .ok (.option .verbose false none) := rfl

/-- Whether it can be told of all arguments what they are. -/
def Legible (arguments : List String) : Prop := ∃ classified, roles arguments = .ok classified

theorem Legible.cons {argument : String} {first : Role} {rest : List String} (h : Legible rest)
    (other : argument ≠ "--") (known : role argument.toList = .ok first) :
    Legible (argument :: rest) := by
  obtain ⟨classified, legible⟩ := h
  exact ⟨_, by rw [roles_cons other known, legible]; rfl⟩

theorem Legible.separator (rest : List String) : Legible ("--" :: rest) := ⟨_, rfl⟩

/-! ## What stands first is obeyed first -/

theorem obey_switch {flag : Flag} (bare : flag.takesValue = false) (harmless : flag ≠ .help)
    (options : Options) (strangers : List String) (argument : String)
    (rest : List (String × Role)) :
    obey options strangers ((argument, .option flag false none) :: rest) =
      obey (options.set flag) strangers rest := by
  simp [obey, expand, bind, Except.bind, bare, harmless]

theorem obey_directory (options : Options) (strangers : List String) (argument directory : String)
    (rest : List (String × Role)) :
    obey options strangers
        ((argument, .option .workingDirectory false none) :: (directory, .operand) :: rest) =
      obey { options with workingDirectory := some directory } strangers rest := by
  simp [obey, expand, bind, Except.bind, Flag.takesValue]

/-- What arguments ask for, on top of options that were obeyed already. -/
def read (options : Options) (arguments : List String) : Except Refusal Request :=
  (roles arguments).bind (obey options [])

theorem request_eq_read (arguments : List String) : request arguments = read {} arguments := rfl

theorem read_switch {argument : String} {flag : Flag} (other : argument ≠ "--")
    (known : role argument.toList = .ok (.option flag false none))
    (bare : flag.takesValue = false) (harmless : flag ≠ .help) (options : Options)
    (rest : List String) : read options (argument :: rest) = read (options.set flag) rest := by
  rw [read, read, roles_cons other known]
  cases roles rest with
  | error refusal => rfl
  | ok classified => exact obey_switch bare harmless options [] argument classified

theorem read_directory {directory : String} (plain : directory.toList.head? ≠ some '-')
    (options : Options) (rest : List String) :
    read options ("--working-dir" :: directory :: rest) =
      read { options with workingDirectory := some directory } rest := by
  rw [read, read, roles_cons (by decide) role_workingDirectory,
    roles_cons (ne_separator_of_plain plain) (role_of_plain plain)]
  cases roles rest with
  | error refusal => rfl
  | ok classified => exact obey_directory options [] "--working-dir" directory classified

/-- The file ends the options, and what is behind it is for the compiler but for separators. -/
theorem read_file {file : String} (plain : file.toList.head? ≠ some '-') (options : Options)
    {rest : List String} (legible : Legible rest) :
    read options (file :: rest) = .ok (.dump options file (rest.filter (· ≠ "--"))) := by
  obtain ⟨classified, same⟩ := legible
  rw [read, roles_cons (ne_separator_of_plain plain) (role_of_plain plain), same,
    ← map_fst_roles same]
  rfl

/-! ## Switches -/

section Switches

variable {flags : List String}
  (known : ∀ flag ∈ flags, flag = "--show-diagnostics" ∨ flag = "--verbose")

def Options.switched (options : Options) (flags : List String) : Options :=
  { options with
    showDiagnostics := options.showDiagnostics || decide ("--show-diagnostics" ∈ flags)
    verbose := options.verbose || decide ("--verbose" ∈ flags) }

include known

theorem Legible.switches {rest : List String} (h : Legible rest) : Legible (flags ++ rest) := by
  induction flags with
  | nil => exact h
  | cons flag flags ih =>
      have later := ih fun other member => known other (List.mem_cons_of_mem flag member)
      obtain rfl | rfl := known flag List.mem_cons_self
      · exact later.cons (by decide) role_showDiagnostics
      · exact later.cons (by decide) role_verbose

theorem read_switches (options : Options) (rest : List String) :
    read options (flags ++ rest) = read (options.switched flags) rest := by
  induction flags generalizing options with
  | nil => simp [Options.switched]
  | cons flag flags ih =>
      have later := ih fun other member => known other (List.mem_cons_of_mem flag member)
      obtain rfl | rfl := known flag List.mem_cons_self
      · rw [List.cons_append, read_switch (by decide) role_showDiagnostics rfl nofun, later]
        simp [Options.switched, Options.set]
      · rw [List.cons_append, read_switch (by decide) role_verbose rfl nofun, later]
        simp [Options.switched, Options.set]

/-- Arguments in which the options stand before the file. -/
def optionsFirst (file directory : String) (flags given : List String) : List String :=
  ["--working-dir", directory] ++ flags ++ [file, "--"] ++ given

/-- Arguments in which the options stand behind the file. -/
def fileFirst (file directory : String) (flags given : List String) : List String :=
  [file, "--working-dir", directory] ++ flags ++ ["--"] ++ given

variable {file directory : String} (plainFile : file.toList.head? ≠ some '-')
  (plainDirectory : directory.toList.head? ≠ some '-')

include plainFile plainDirectory

theorem request_optionsFirst (given : List String) :
    request (optionsFirst file directory flags given) =
      .ok (.dump
        { workingDirectory := some directory
          showDiagnostics := decide ("--show-diagnostics" ∈ flags)
          verbose := decide ("--verbose" ∈ flags) }
        file (given.filter (· ≠ "--"))) := by
  simp only [optionsFirst, List.cons_append, List.nil_append, List.append_assoc, request_eq_read]
  rw [read_directory plainDirectory, read_switches known,
    read_file plainFile _ (Legible.separator given)]
  simp [Options.switched]

theorem request_fileFirst (given : List String) :
    request (fileFirst file directory flags given) =
      .ok (.dump {} file ("--working-dir" :: directory :: flags ++ given.filter (· ≠ "--"))) := by
  -- What is behind the file is told apart as well, before the first option is obeyed.
  have legible : Legible ("--working-dir" :: directory :: (flags ++ "--" :: given)) :=
    (((Legible.separator given).switches known).cons (ne_separator_of_plain plainDirectory)
      (role_of_plain plainDirectory)).cons (by decide) role_workingDirectory
  have others : ∀ flag ∈ flags, flag ≠ "--" := by
    intro flag member
    obtain rfl | rfl := known flag member <;> decide
  simp only [fileFirst, List.cons_append, List.nil_append, List.append_assoc, request_eq_read]
  rw [read_file plainFile _ legible]
  have other := ne_separator_of_plain plainDirectory
  simpa [other] using others

end Switches

end CommandLine

/-! ## What a library is asked for -/

theorem Frontend.liftFile_calls (exports : Exports) (supply : List (Option SourceUnit))
    (settings : Settings) (path : String) (arguments : List String) :
    ∃ later : List Call, (∀ call ∈ later, call.IsTokenWork) ∧
      Event.calls
          (Frontend.liftFile ⟨.library exports, supply⟩ settings path arguments).trace =
        .createIndex settings.excludeFromPch settings.displayDiagnostics ::
          .loadUnit 1 (Path.join settings.workingDirectory path)
            ((settings.arguments ++ arguments).map (Engine.library exports).received) none
            settings.options :: later := by
  obtain ⟨known, made⟩ : ∃ known, Catalogue.basic.outcome = .ok known := ⟨_, rfl⟩
  let s : Session :=
    { engine := .library exports, supply, settings, catalogue := known, index := some 1 }
  have created : (Session.create ⟨.library exports, supply⟩ settings Catalogue.basic).outcome =
      .ok s := by
    cases made
    rfl
  have creation : Event.calls
      (Session.create ⟨.library exports, supply⟩ settings Catalogue.basic).trace =
        [.createIndex settings.excludeFromPch settings.displayDiagnostics] := rfl
  have closing : Event.calls (s.load path arguments none).1.close.2.trace = [] := by
    obtain ⟨_, _, left⟩ := s.load_stays path arguments none
    rw [left]
    rfl
  refine ⟨_, s.liftLoaded_tokenWork (s.loaded? s.served), ?_⟩
  rw [liftFile, inSession, Run.bind_of_ok created, Event.calls_append, creation, Session.within,
    Run.andFinally_trace, Event.calls_append, closing, Session.load_calls rfl, List.append_nil]
  rfl

theorem Engine.received_eq_self_iff (exports : Exports) {text : String} :
    (Engine.library exports).received text = text ↔ '\x00' ∉ text.toList := by
  have whole : (Engine.library exports).received text = text ↔
      text.toList.takeWhile (· ≠ '\x00') = text.toList := by
    rw [received, ← String.toList_inj, String.toList_ofList]
  rw [whole, List.takeWhile_eq_self_iff]
  constructor
  · intro each null
    simpa using each _ null
  · intro clean c member
    rw [decide_eq_true_iff]
    rintro rfl
    exact clean member

/-- A library gets the arguments as they are exactly if there are no separators among them, and no
nulls in them. -/
theorem Engine.handed_eq_self_iff (exports : Exports) (given : List String) :
    (given.filter (· ≠ "--")).map (Engine.library exports).received = given ↔
      ∀ argument ∈ given, argument ≠ "--" ∧ '\x00' ∉ argument.toList := by
  constructor
  · intro same
    have all : ∀ argument ∈ given, argument ≠ "--" := by
      have lengths := congrArg List.length same
      rw [List.length_map, List.length_filter_eq_length_iff] at lengths
      simpa using lengths
    have kept : given.filter (· ≠ "--") = given := List.filter_eq_self.mpr (by simpa using all)
    rw [kept] at same
    have each := List.map_inj_left.mp (same.trans (List.map_id given).symm)
    exact fun argument member =>
      ⟨all argument member, (received_eq_self_iff exports).mp (each argument member)⟩
  · intro clean
    have kept : given.filter (· ≠ "--") = given :=
      List.filter_eq_self.mpr fun argument member => by simpa using (clean argument member).1
    rw [kept]
    refine (List.map_inj_left.mpr fun argument member => ?_).trans (List.map_id given)
    exact (received_eq_self_iff exports).mpr (clean argument member).2

/-! ## What the program does -/

namespace CommandLine

theorem present_trace (verbose : Bool) (ran : Run Node) : (present verbose ran).trace = ran.trace := by
  unfold present
  split
  · rfl
  · split <;> rfl

section Programs

variable {flags : List String}
  (known : ∀ flag ∈ flags, flag = "--show-diagnostics" ∨ flag = "--verbose")
  {file directory : String} (plainFile : file.toList.head? ≠ some '-')
  (plainDirectory : directory.toList.head? ≠ some '-')

include known plainFile plainDirectory

theorem perform_optionsFirst (frontend : Frontend) (given : List String) :
    perform frontend (optionsFirst file directory flags given) =
      present (decide ("--verbose" ∈ flags))
        (frontend.liftFile
          { displayDiagnostics := decide ("--show-diagnostics" ∈ flags)
            workingDirectory := directory }
          file (given.filter (· ≠ "--"))) := by
  rw [perform, request_optionsFirst known plainFile plainDirectory]
  rfl

theorem perform_fileFirst (frontend : Frontend) (given : List String) :
    perform frontend (fileFirst file directory flags given) =
      present false
        (frontend.liftFile {} file
          ("--working-dir" :: directory :: flags ++ given.filter (· ≠ "--"))) := by
  rw [perform, request_fileFirst known plainFile plainDirectory]
  rfl

variable (exports : Exports) (supply : List (Option SourceUnit))

theorem calls_optionsFirst (given : List String) :
    ∃ later : List Call, (∀ call ∈ later, call.IsTokenWork) ∧
      Event.calls
          (perform ⟨.library exports, supply⟩ (optionsFirst file directory flags given)).trace =
        .createIndex true (decide ("--show-diagnostics" ∈ flags)) ::
          .loadUnit 1 (Path.join directory file)
            ((given.filter (· ≠ "--")).map (Engine.library exports).received) none 0 :: later := by
  rw [perform_optionsFirst known plainFile plainDirectory, present_trace]
  exact Frontend.liftFile_calls exports supply _ file _

theorem calls_fileFirst (given : List String) :
    ∃ later : List Call, (∀ call ∈ later, call.IsTokenWork) ∧
      Event.calls
          (perform ⟨.library exports, supply⟩ (fileFirst file directory flags given)).trace =
        .createIndex true false ::
          .loadUnit 1 (Path.join "." file)
            (("--working-dir" :: directory :: flags ++ given.filter (· ≠ "--")).map
              (Engine.library exports).received) none 0 :: later := by
  rw [perform_fileFirst known plainFile plainDirectory, present_trace]
  exact Frontend.liftFile_calls exports supply _ file _

end Programs

end CommandLine

/-- Options before the file say how the file is lifted. Options behind it go to the compiler
instead, so that what is asked for is never the same. Of what is given after the separator, the
compiler gets all but further separators, and each text of it up to the first null. -/
theorem options_count_before_file_only (exports : Exports) (supply : List (Option SourceUnit))
    {file directory : String} (plainFile : file.toList.head? ≠ some '-')
    (plainDirectory : directory.toList.head? ≠ some '-') {flags : List String}
    (known : ∀ flag ∈ flags, flag = "--show-diagnostics" ∨ flag = "--verbose")
    (given : List String) :
    let frontend : Frontend := ⟨.library exports, supply⟩
    let before :=
      CommandLine.perform frontend (CommandLine.optionsFirst file directory flags given)
    let behind := CommandLine.perform frontend (CommandLine.fileFirst file directory flags given)
    let shows := decide ("--show-diagnostics" ∈ flags)
    let kept := given.filter (· ≠ "--")
    let swallowed := "--working-dir" :: directory :: flags ++ kept
    let handed (arguments : List String) := arguments.map frontend.engine.received
    before = CommandLine.present (decide ("--verbose" ∈ flags))
        (frontend.liftFile { displayDiagnostics := shows, workingDirectory := directory } file kept) ∧
      behind = CommandLine.present false (frontend.liftFile {} file swallowed) ∧
      (∃ later : List Call, (∀ call ∈ later, call.IsTokenWork) ∧
        Event.calls before.trace =
          .createIndex true shows ::
            .loadUnit 1 (Path.join directory file) (handed kept) none 0 :: later) ∧
      (∃ later : List Call, (∀ call ∈ later, call.IsTokenWork) ∧
        Event.calls behind.trace =
          .createIndex true false ::
            .loadUnit 1 (Path.join "." file) (handed swallowed) none 0 :: later) ∧
      Event.calls before.trace ≠ Event.calls behind.trace ∧
      (handed kept = given ↔
        ∀ argument ∈ given, argument ≠ "--" ∧ '\x00' ∉ argument.toList) := by
  intro frontend before behind shows kept swallowed handed
  obtain ⟨early, earlyWork, earlyCalls⟩ :=
    CommandLine.calls_optionsFirst known plainFile plainDirectory exports supply given
  obtain ⟨late, lateWork, lateCalls⟩ :=
    CommandLine.calls_fileFirst known plainFile plainDirectory exports supply given
  refine ⟨CommandLine.perform_optionsFirst known plainFile plainDirectory frontend given,
    CommandLine.perform_fileFirst known plainFile plainDirectory frontend given,
    ⟨early, earlyWork, earlyCalls⟩, ⟨late, lateWork, lateCalls⟩, ?_,
    Engine.handed_eq_self_iff exports given⟩
  -- Behind the file the compiler gets more arguments: at least the option and its value.
  intro same
  rw [earlyCalls, lateCalls] at same
  obtain ⟨-, same⟩ := List.cons.inj same
  obtain ⟨asked, -⟩ := List.cons.inj same
  have lengths := congrArg List.length (Call.loadUnit.inj asked).2.2.1
  simp at lengths
  omega

/-- A separator among what is given does not reach the compiler. -/
theorem options_before_file_and_separator :
    let performance :=
      CommandLine.perform ⟨.library {}, []⟩
        ["--working-dir", "src", "--verbose", "main.c", "--", "-DX", "--", "y"]
    ∃ later : List Call, (∀ call ∈ later, call.IsTokenWork) ∧
      Event.calls performance.trace =
        .createIndex true false :: .loadUnit 1 "src/main.c" ["-DX", "y"] none 0 :: later := by
  have plainFile : "main.c".toList.head? ≠ some '-' := by decide
  have plainDirectory : "src".toList.head? ≠ some '-' := by decide
  have known : ∀ flag ∈ ["--verbose"], flag = "--show-diagnostics" ∨ flag = "--verbose" := by simp
  obtain ⟨-, -, asked, -⟩ := options_count_before_file_only {} [] plainFile plainDirectory known
    ["-DX", "--", "y"]
  exact asked

/-- Behind the file, the directory goes to the compiler and the file is not looked for in it. -/
theorem directory_behind_file_not_taken :
    let root : Cursor := { facts := { kind := .translationUnit } }
    let frontend : Frontend := ⟨.library {}, [some ⟨root, []⟩]⟩
    let behind := CommandLine.perform frontend ["main.c", "--working-dir", "src", "--", "-std=c11"]
    let before := CommandLine.perform frontend ["--working-dir", "src", "main.c", "--", "-std=c11"]
    (Event.calls behind.trace).take 2 =
        [.createIndex true false,
          .loadUnit 1 "./main.c" ["--working-dir", "src", "-std=c11"] none 0] ∧
      (Event.calls before.trace).take 2 =
        [.createIndex true false, .loadUnit 1 "src/main.c" ["-std=c11"] none 0] := by
  intro root frontend behind before
  have plainFile : "main.c".toList.head? ≠ some '-' := by decide
  have plainDirectory : "src".toList.head? ≠ some '-' := by decide
  have noFlags : ∀ flag ∈ ([] : List String), flag = "--show-diagnostics" ∨ flag = "--verbose" :=
    nofun
  constructor
  · obtain ⟨_, -, calls⟩ := CommandLine.calls_fileFirst noFlags plainFile plainDirectory {}
      [some ⟨root, []⟩] ["-std=c11"]
    exact congrArg (List.take 2) calls
  · obtain ⟨_, -, calls⟩ := CommandLine.calls_optionsFirst noFlags plainFile plainDirectory {}
      [some ⟨root, []⟩] ["-std=c11"]
    exact congrArg (List.take 2) calls

end CursorLift
