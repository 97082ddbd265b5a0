import CursorLift.Proofs.Containment
import CursorLift.View

/-! # What a chain of questions can fail with

A question can lead from view to view before it is answered, through definitions, references and
arguments, and may come back to where it was. It fails if and only if it comes to a view that
refuses the first thing that is asked there; that there is no cursor is a failure only at a view
that says so itself.
-/

namespace CursorLift

/-! ## Failures of parts -/

theorem Outcome.map_eq_error {α β : Type} {x : Except Failure α} {f : α → β} {failure : Failure} :
    (x >>= fun a => pure (f a)) = .error failure ↔ x = .error failure := by
  cases x with
  | ok a => exact ⟨nofun, nofun⟩
  | error other => constructor <;> (intro same; cases same; rfl)

theorem SourceLanguage.ofCode?_eq_none {code : Int} :
    ofCode? code = none ↔ code < 0 ∨ 3 < code := by
  constructor
  · intro unknown
    apply Classical.byContradiction
    intro inside
    have listed : code = 0 ∨ code = 1 ∨ code = 2 ∨ code = 3 := by omega
    obtain rfl | rfl | rfl | rfl := listed <;> cases unknown
  · intro outside
    unfold ofCode?
    split <;> first | rfl | omega

theorem Numbering.exists_place?_past {size : Nat} {number : Int} :
    (∃ place, place? size number = some place ∧ size ≤ place) ↔ (size : Int) ≤ number := by
  cases number with
  | ofNat number => simp [place?]
  | negSucc back =>
      constructor
      · rintro ⟨place, placed, past⟩
        simp only [place?] at placed
        split at placed
        · -- A number that counts back means a place within the table.
          have := Option.some.inj placed
          omega
        · cases placed
      · intro large
        have := Int.negSucc_lt_zero back
        omega

theorem Engine.attempt_eq_error {engine : Engine} {operation : Operation} {failure : Failure} :
    (engine.attempt operation).outcome = .error failure ↔
      ∃ message, engine.fault? operation = some message ∧ failure = .engineFault message := by
  unfold attempt
  cases engine.fault? operation with
  | none => exact ⟨nofun, nofun⟩
  | some message => simp [Run.fail, eq_comm]

theorem Engine.attempt_eq_ok {engine : Engine} {operation : Operation} {u : Unit} :
    (engine.attempt operation).outcome = .ok u ↔ engine.fault? operation = none := by
  unfold attempt
  cases engine.fault? operation with
  | none => exact ⟨fun _ => rfl, fun _ => rfl⟩
  | some message => exact ⟨nofun, nofun⟩

theorem Engine.typeKindOf_eq_error {engine : Engine} {c : Cursor} {failure : Failure} :
    engine.typeKindOf c = .error failure ↔
      ∃ exports id, engine = .library exports ∧ c.facts.typeKind = .number id ∧
        failure = .unlisted id := by
  unfold typeKindOf
  cases engine <;> cases c.facts.typeKind <;> simp [eq_comm]

namespace Query

/-- Whether a question can be answered only where there is a cursor. -/
def needsCursor : Query → Bool
  | .whole => false
  | .isNull => false
  | .shown => false
  | .argument .. => false
  | _ => true

/-- Whether an engine has no more for a question than a function that is handed the cursor. -/
def handsOn : Query → Bool
  | .language => true
  | .argumentCount => true
  | _ => false

/-- What a question asks of the engine first, if it is something that can be told to fail. -/
def operation? : Query → Option Operation
  | .whole => some .spelling
  | .spelling => some .spelling
  | .shown => some .spelling
  | .isFunctionDecl => some .kind
  | .isMethodDecl => some .kind
  | .argument .. => some .kind
  | _ => none

theorem handsOn_eq_false {query : Query} {operation : Operation}
    (takes : query.operation? = some operation) : query.handsOn = false := by
  cases query <;> first | rfl | cases takes

theorem needsCursor_of_handsOn {query : Query} (asked : query.handsOn = true) :
    query.needsCursor = true := by
  cases query <;> first | rfl | cases asked

end Query

namespace View

/-- A question at a view leads to another view, where what is left of it is asked. -/
inductive LeadsTo : View → Query → View → Query → Prop where
  | here (view : View) (query : Query) : LeadsTo view query view query
  | definition {view next last : View} {query rest : Query}
      (step : view.follow Cursor.definition = .ok next) (further : LeadsTo next query last rest) :
      LeadsTo view (.definition query) last rest
  | referenced {view next last : View} {query rest : Query}
      (step : view.follow Cursor.referenced = .ok next) (further : LeadsTo next query last rest) :
      LeadsTo view (.referenced query) last rest
  | argument {view next last : View} {number : Int} {query rest : Query}
      (step : view.argument number = .ok next) (further : LeadsTo next query last rest) :
      LeadsTo view (.argument number query) last rest

/-- Whether a question is not settled at once, as some are at a view that is null. -/
def Pursues (view : View) (query : Query) : Prop :=
  query.needsCursor = true ∨ view.isNull = false

/-- Why a view refuses the first thing that a question asks. -/
inductive Refuses (view : View) : Query → Failure → Prop where
  | fault {query : Query} {operation : Operation} {message : String}
      (takes : query.operation? = some operation)
      (told : view.engine.fault? operation = some message) (pursued : view.Pursues query) :
      Refuses view query (.engineFault message)
  | noCursor {query : Query} (absent : view.cursor = none) (needed : query.needsCursor = true)
      (works : ∀ operation ∈ query.operation?, view.engine.fault? operation = none)
      (asked : query.handsOn = true → ∃ faults, view.engine = .memory faults) :
      Refuses view query .noCursor
  | cursorExpected {exports : Exports} {query : Query} (library : view.engine = .library exports)
      (absent : view.cursor = none) (handed : query.handsOn = true) :
      Refuses view query .cursorExpected
  | nullArgument {number : Int} {query : Query} (null : view.isNull = true) :
      Refuses view (.argument number query) .argumentOfNonFunction
  | otherArgument {kind : Kind} {number : Int} {query : Query} (present : view.isNull = false)
      (known : view.kind = .ok kind) (other : kind ≠ .functionDecl) :
      Refuses view (.argument number query) .argumentOfNonFunction
  | uncounted {c : Cursor} (cursor : view.cursor = some c) (none : c.facts.argumentCount = -1) :
      Refuses view .argumentCount .uncountedArguments
  | language {c : Cursor} (cursor : view.cursor = some c)
      (outside : c.facts.language < 0 ∨ 3 < c.facts.language) :
      Refuses view .language (.unknownLanguage c.facts.language)
  | availability {c : Cursor} (cursor : view.cursor = some c)
      (outside : 3 < c.facts.availability) :
      Refuses view .availability (.unlisted c.facts.availability)
  /-- The number of an availability counts back past the first of the table. -/
  | availabilityBack {c : Cursor} (cursor : view.cursor = some c)
      (low : c.facts.availability < -4) : Refuses view .availability .outsideTable
  | typeKind {exports : Exports} {c : Cursor} {id : Nat} (library : view.engine = .library exports)
      (cursor : view.cursor = some c) (unlisted : c.facts.typeKind = .number id) :
      Refuses view (.type .kind) (.unlisted id)
  /-- The number of a kind counts back past the first of the table. -/
  | kindBack {exports : Exports} {c : Cursor} {id : Int} {query : Query}
      (library : view.engine = .library exports) (cursor : view.cursor = some c)
      (kind : c.facts.kind = .number id) (low : Numbering.word id < -(Kind.Table.size : Int))
      (takes : query.operation? = some .kind) (pursued : view.Pursues query) :
      Refuses view query .outsideTable

/-! ## One question at one view -/

section Parts

variable {view : View} {c : Cursor} {failure : Failure}

theorem target_eq_ok : view.target = .ok c ↔ view.cursor = some c := by
  unfold target
  cases view.cursor <;> simp

theorem target_eq_error : view.target = .error failure ↔
    view.cursor = none ∧ failure = .noCursor := by
  unfold target
  cases view.cursor <;> simp [eq_comm]

theorem handed_eq_ok : view.handed = .ok c ↔ view.cursor = some c := by
  unfold handed target
  cases view.engine <;> cases view.cursor <;> simp

theorem handed_eq_error : view.handed = .error failure ↔
    view.cursor = none ∧ ((∃ exports, view.engine = .library exports ∧ failure = .cursorExpected) ∨
      ∃ faults, view.engine = .memory faults ∧ failure = .noCursor) := by
  unfold handed target
  cases view.engine <;> cases view.cursor <;> simp [eq_comm]

theorem cursor_of_not_isNull (present : view.isNull = false) : ∃ c, view.cursor = some c := by
  unfold isNull at present
  split at present
  · next c cursor => exact ⟨c, cursor⟩
  · cases present

theorem isNull_of_none (absent : view.cursor = none) : view.isNull = true := by
  rw [isNull, absent]

theorem shown_of_present (present : view.isNull = false) : view.shown = (do
    let spelling ← view.spelling
    return "CursorHandle(" ++ Text.quoted spelling ++ ")") := by
  rw [shown, if_neg (by simp [present])]

theorem argument_of_isNull (null : view.isNull = true) (number : Int) :
    view.argument number = .error .argumentOfNonFunction := by
  rw [argument, if_pos null]
  rfl

theorem argument_of_present (present : view.isNull = false) (number : Int) :
    view.argument number = (do
      let kind ← view.kind
      if kind ≠ .functionDecl then throw .argumentOfNonFunction
      let c ← view.target
      return ⟨view.engine, view.engine.argumentOf? c number⟩) := by
  rw [argument, if_neg (by simp [present])]

theorem argument_of_kind {kind : Kind} (cursor : view.cursor = some c)
    (present : view.isNull = false) (known : view.kind = .ok kind) (number : Int) :
    view.argument number =
      if kind = .functionDecl then .ok ⟨view.engine, view.engine.argumentOf? c number⟩
      else .error .argumentOfNonFunction := by
  rw [argument_of_present present, known, target_eq_ok.mpr cursor]
  by_cases same : kind = .functionDecl
  · simp only [same]
    rfl
  · rw [if_neg same]
    exact (if_pos same).trans rfl

theorem argumentCount_eq_error (cursor : view.cursor = some c) :
    view.argumentCount = .error failure ↔
      c.facts.argumentCount = -1 ∧ failure = .uncountedArguments := by
  have looked : view.argumentCount =
      if c.facts.argumentCount = -1 then .error .uncountedArguments
      else .ok c.facts.argumentCount := by
    rw [argumentCount, handed_eq_ok.mpr cursor]
    by_cases none : c.facts.argumentCount = -1
    · rw [if_pos none]
      exact (if_pos none).trans rfl
    · rw [if_neg none]
      exact (if_neg none).trans rfl
  rw [looked]
  split <;> simp [*, eq_comm]

theorem language_eq_error (cursor : view.cursor = some c) :
    view.language = .error failure ↔
      (c.facts.language < 0 ∨ 3 < c.facts.language) ∧
        failure = .unknownLanguage c.facts.language := by
  rw [language, handed_eq_ok.mpr cursor, ← SourceLanguage.ofCode?_eq_none]
  simp only [bind, Except.bind]
  cases SourceLanguage.ofCode? c.facts.language <;>
    simp [pure, Except.pure, throw, throwThe, MonadExceptOf.throw, eq_comm]

theorem availability_eq_error (cursor : view.cursor = some c) :
    view.availability = .error failure ↔
      c.facts.availability < -4 ∧ failure = .outsideTable ∨
        3 < c.facts.availability ∧ failure = .unlisted c.facts.availability := by
  rw [availability, target_eq_ok.mpr cursor]
  simp only [bind, Except.bind]
  cases placed : Numbering.place? Availability.table.length c.facts.availability with
  | none =>
      have low : c.facts.availability < -4 := Numbering.place?_eq_none_iff.mp placed
      have few : ¬ 3 < c.facts.availability := by omega
      simp [throw, throwThe, MonadExceptOf.throw, low, few, eq_comm]
  | some place =>
      have high : ¬ c.facts.availability < -4 := by
        intro low
        have unplaced : Numbering.place? Availability.table.length c.facts.availability = none :=
          Numbering.place?_eq_none_iff.mpr low
        rw [unplaced] at placed
        cases placed
      have past : Availability.table.length ≤ place ↔ 3 < c.facts.availability := by
        have reached := @Numbering.exists_place?_past Availability.table.length c.facts.availability
        simp only [placed, Option.some.injEq, exists_eq_left'] at reached
        have size : (Availability.table.length : Int) = 4 := rfl
        omega
      cases found : Availability.table[place]? with
      | none =>
          have outside : 3 < c.facts.availability := past.mp (List.getElem?_eq_none_iff.mp found)
          simp [throw, throwThe, MonadExceptOf.throw, found, high, outside, eq_comm]
      | some availability =>
          have inside : ¬ 3 < c.facts.availability := by
            intro outside
            rw [List.getElem?_eq_none_iff.mpr (past.mpr outside)] at found
            cases found
          simp [pure, Except.pure, found, high, inside]

theorem spelling_eq_error : view.spelling = .error failure ↔
    (∃ message, view.engine.fault? .spelling = some message ∧ failure = .engineFault message) ∨
      view.engine.fault? .spelling = none ∧ view.cursor = none ∧ failure = .noCursor := by
  refine Outcome.bind_eq_error.trans (or_congr Engine.attempt_eq_error ?_)
  simp only [Engine.attempt_eq_ok, Outcome.map_eq_error, target_eq_error, exists_const]

theorem kind_eq_error : view.kind = .error failure ↔
    (∃ message, view.engine.fault? .kind = some message ∧ failure = .engineFault message) ∨
      view.engine.fault? .kind = none ∧ (view.cursor = none ∧ failure = .noCursor ∨
        ∃ c, view.cursor = some c ∧ view.engine.kindOf c = .error failure) := by
  refine Outcome.bind_eq_error.trans (or_congr Engine.attempt_eq_error ?_)
  simp only [Engine.attempt_eq_ok, exists_const]
  refine and_congr_right fun _ => Outcome.bind_eq_error.trans (or_congr target_eq_error ?_)
  simp only [target_eq_ok]

theorem needsCursor_of_pursues {query : Query} (absent : view.cursor = none)
    (pursued : view.Pursues query) : query.needsCursor = true := by
  cases pursued with
  | inl needed => exact needed
  | inr present =>
      rw [isNull_of_none absent] at present
      cases present

namespace Refuses

theorem of_none {query : Query} {operation : Operation}
    (takes : query.operation? = some operation) (pursued : view.Pursues query)
    (absent : view.cursor = none) (works : view.engine.fault? operation = none) :
    view.Refuses query .noCursor := by
  refine .noCursor absent (needsCursor_of_pursues absent pursued) ?_ ?_
  · intro other among
    rw [takes] at among
    cases among
    exact works
  · simp [Query.handsOn_eq_false takes]

theorem of_target {query : Query} (needed : query.needsCursor = true)
    (plain : query.operation? = none) (asked : query.handsOn = false)
    (h : view.target = .error failure) : view.Refuses query failure := by
  obtain ⟨absent, rfl⟩ := target_eq_error.mp h
  exact .noCursor absent needed (by simp [plain]) (by simp [asked])

theorem of_handed {query : Query} (asked : query.handsOn = true)
    (h : view.handed = .error failure) : view.Refuses query failure := by
  obtain ⟨absent, ⟨exports, library, rfl⟩ | ⟨faults, memory, rfl⟩⟩ := handed_eq_error.mp h
  · exact .cursorExpected library absent asked
  · refine .noCursor absent (Query.needsCursor_of_handsOn asked) ?_ fun _ => ⟨faults, memory⟩
    intro operation takes
    rw [Query.handsOn_eq_false takes] at asked
    cases asked

theorem of_spelling {query : Query} (takes : query.operation? = some .spelling)
    (pursued : view.Pursues query) (h : view.spelling = .error failure) :
    view.Refuses query failure := by
  obtain ⟨message, told, rfl⟩ | ⟨works, absent, rfl⟩ := spelling_eq_error.mp h
  · exact .fault takes told pursued
  · exact .of_none takes pursued absent works

theorem of_kind {query : Query} (takes : query.operation? = some .kind)
    (pursued : view.Pursues query) (h : view.kind = .error failure) :
    view.Refuses query failure := by
  obtain ⟨message, told, rfl⟩ | ⟨works, ⟨absent, rfl⟩ | ⟨c, cursor, failed⟩⟩ := kind_eq_error.mp h
  · exact .fault takes told pursued
  · exact .of_none takes pursued absent works
  · obtain ⟨exports, id, library, kind, low, rfl⟩ := Engine.kindOf_eq_error.mp failed
    exact .kindBack library cursor kind low takes pursued

theorem of_shown {query : Query} (takes : query.operation? = some .spelling)
    (h : view.shown = .error failure) : view.Refuses query failure := by
  cases null : view.isNull with
  | true =>
      rw [shown, if_pos null] at h
      cases h
  | false =>
      rw [shown_of_present null, Outcome.map_eq_error] at h
      exact .of_spelling takes (.inr null) h

theorem of_language (h : view.language = .error failure) : view.Refuses .language failure := by
  obtain failed | ⟨c, found, -⟩ := Outcome.bind_eq_error.mp h
  · exact .of_handed rfl failed
  · have cursor := handed_eq_ok.mp found
    obtain ⟨outside, rfl⟩ := (language_eq_error cursor).mp h
    exact .language cursor outside

theorem of_availability (h : view.availability = .error failure) :
    view.Refuses .availability failure := by
  obtain failed | ⟨c, found, -⟩ := Outcome.bind_eq_error.mp h
  · exact .of_target rfl rfl rfl failed
  · have cursor := target_eq_ok.mp found
    obtain ⟨low, rfl⟩ | ⟨outside, rfl⟩ := (availability_eq_error cursor).mp h
    · exact .availabilityBack cursor low
    · exact .availability cursor outside

theorem of_argumentCount (h : view.argumentCount = .error failure) :
    view.Refuses .argumentCount failure := by
  obtain failed | ⟨c, found, -⟩ := Outcome.bind_eq_error.mp h
  · exact .of_handed rfl failed
  · have cursor := handed_eq_ok.mp found
    obtain ⟨none, rfl⟩ := (argumentCount_eq_error cursor).mp h
    exact .uncounted cursor none

theorem of_typeQuery {query : TypeQuery} (h : view.ask (.type query) = .error failure) :
    view.Refuses (.type query) failure := by
  obtain failed | ⟨c, found, h⟩ := Outcome.bind_eq_error.mp h
  · exact .of_target rfl rfl rfl failed
  · cases query with
    | whole | spelling => cases h
    | kind =>
        obtain ⟨exports, id, library, unlisted, rfl⟩ :=
          Engine.typeKindOf_eq_error.mp (Outcome.map_eq_error.mp h)
        exact .typeKind library (target_eq_ok.mp found) unlisted

theorem of_argument {number : Int} {query : Query} (h : view.argument number = .error failure) :
    view.Refuses (.argument number query) failure := by
  cases null : view.isNull with
  | true =>
      rw [argument_of_isNull null] at h
      cases h
      exact .nullArgument null
  | false =>
      obtain ⟨c, cursor⟩ := cursor_of_not_isNull null
      cases known : view.kind with
      | error other =>
          rw [argument_of_present null, known] at h
          cases h
          exact .of_kind rfl (.inr null) known
      | ok kind =>
          rw [argument_of_kind cursor null known] at h
          split at h
          · cases h
          · next other =>
              cases h
              exact .otherArgument null known other

end Refuses

/-! ## What is refused fails -/

theorem spelling_of_fault {message : String}
    (told : view.engine.fault? .spelling = some message) :
    view.spelling = .error (.engineFault message) :=
  spelling_eq_error.mpr (.inl ⟨message, told, rfl⟩)

theorem kind_of_fault {message : String} (told : view.engine.fault? .kind = some message) :
    view.kind = .error (.engineFault message) :=
  kind_eq_error.mpr (.inl ⟨message, told, rfl⟩)

theorem ask_of_kind {query : Query} (takes : query.operation? = some .kind)
    (pursued : view.Pursues query) (h : view.kind = .error failure) :
    view.ask query = .error failure := by
  cases query with
  | isFunctionDecl | isMethodDecl => exact Outcome.map_eq_error.mpr h
  | argument number query =>
      obtain needed | present := pursued
      · cases needed
      · rw [ask, argument_of_present present, h]
        rfl
  | _ => cases takes

theorem ask_of_spelling {query : Query} (takes : query.operation? = some .spelling)
    (pursued : view.Pursues query) (h : view.spelling = .error failure) :
    view.ask query = .error failure := by
  have shown (present : view.isNull = false) : view.shown = .error failure := by
    rw [shown_of_present present, h]
    rfl
  cases query with
  | spelling => exact Outcome.map_eq_error.mpr h
  | whole | shown =>
      obtain needed | present := pursued
      · cases needed
      · exact Outcome.map_eq_error.mpr (shown present)
  | _ => cases takes

theorem ask_of_none {query : Query} (absent : view.cursor = none)
    (needed : query.needsCursor = true)
    (works : ∀ operation ∈ query.operation?, view.engine.fault? operation = none)
    (asked : query.handsOn = true → ∃ faults, view.engine = .memory faults) :
    view.ask query = .error .noCursor := by
  have target : view.target = .error .noCursor := target_eq_error.mpr ⟨absent, rfl⟩
  have handed (asked : ∃ faults, view.engine = .memory faults) :
      view.handed = .error .noCursor := by
    obtain ⟨faults, memory⟩ := asked
    exact handed_eq_error.mpr ⟨absent, .inr ⟨faults, memory, rfl⟩⟩
  cases query with
  | whole | isNull | shown | argument => cases needed
  | spelling =>
      exact ask_of_spelling rfl (.inl rfl)
        (spelling_eq_error.mpr (.inr ⟨works .spelling rfl, absent, rfl⟩))
  | isFunctionDecl | isMethodDecl =>
      exact ask_of_kind rfl (.inl rfl)
        (kind_eq_error.mpr (.inr ⟨works .kind rfl, .inl ⟨absent, rfl⟩⟩))
  | language =>
      rw [ask, language, handed (asked rfl)]
      rfl
  | argumentCount =>
      rw [ask, argumentCount, handed (asked rfl)]
      rfl
  | availability =>
      rw [ask, availability, target]
      rfl
  | displayName | type =>
      rw [ask, target]
      rfl
  | definition | referenced =>
      rw [ask, follow, target]
      rfl

theorem ask_of_handsOn {exports : Exports} {query : Query}
    (library : view.engine = .library exports) (absent : view.cursor = none)
    (asked : query.handsOn = true) :
    view.ask query = .error .cursorExpected := by
  have handed : view.handed = .error .cursorExpected :=
    handed_eq_error.mpr ⟨absent, .inl ⟨exports, library, rfl⟩⟩
  cases query with
  | language =>
      rw [ask, language, handed]
      rfl
  | argumentCount =>
      rw [ask, argumentCount, handed]
      rfl
  | _ => cases asked

/-- What a view refuses of a question is what the question fails with. -/
theorem ask_of_refuses {query : Query} (h : view.Refuses query failure) :
    view.ask query = .error failure := by
  cases h with
  | @fault query operation message takes told pursued =>
      cases operation with
      | spelling => exact ask_of_spelling takes pursued (spelling_of_fault told)
      | kind => exact ask_of_kind takes pursued (kind_of_fault told)
      | _ => cases query <;> cases takes
  | noCursor absent needed works asked => exact ask_of_none absent needed works asked
  | cursorExpected library absent asked => exact ask_of_handsOn library absent asked
  | nullArgument null =>
      rw [ask, argument_of_isNull null]
      rfl
  | otherArgument present known other =>
      obtain ⟨c, cursor⟩ := cursor_of_not_isNull present
      rw [ask, argument_of_kind cursor present known, if_neg other]
      rfl
  | uncounted cursor none =>
      exact Outcome.map_eq_error.mpr ((argumentCount_eq_error cursor).mpr ⟨none, rfl⟩)
  | language cursor outside =>
      exact Outcome.map_eq_error.mpr ((language_eq_error cursor).mpr ⟨outside, rfl⟩)
  | availability cursor outside =>
      exact Outcome.map_eq_error.mpr ((availability_eq_error cursor).mpr (.inr ⟨outside, rfl⟩))
  | availabilityBack cursor low =>
      exact Outcome.map_eq_error.mpr ((availability_eq_error cursor).mpr (.inl ⟨low, rfl⟩))
  | typeKind library cursor unlisted =>
      have failed := Engine.typeKindOf_eq_error.mpr ⟨_, _, library, unlisted, rfl⟩
      rw [ask, target_eq_ok.mpr cursor]
      exact Outcome.map_eq_error.mpr failed
  | kindBack library cursor kind low takes pursued =>
      have failed := Engine.kindOf_eq_error.mpr ⟨_, _, library, kind, low, rfl⟩
      have works : view.engine.fault? .kind = none := by rw [library]; rfl
      exact ask_of_kind takes pursued (kind_eq_error.mpr (.inr ⟨works, .inr ⟨_, cursor, failed⟩⟩))

end Parts

/-! ## A chain of questions -/

/-- A question is answered as what is left of it is answered where it has led to. -/
theorem ask_of_leadsTo {view last : View} {query rest : Query}
    (h : view.LeadsTo query last rest) : view.ask query = last.ask rest := by
  induction h with
  | here => rfl
  | definition step _ ih | referenced step _ ih | argument step _ ih => rw [ask, step, ← ih]; rfl

/-- Wherever a question fails, it has led to a view that refuses what is left of it. -/
theorem refused_of_ask {view : View} {query : Query} {failure : Failure}
    (h : view.ask query = .error failure) :
    ∃ last rest, view.LeadsTo query last rest ∧ last.Refuses rest failure := by
  have here {view : View} {query : Query} (refused : view.Refuses query failure) :
      ∃ last rest, view.LeadsTo query last rest ∧ last.Refuses rest failure :=
    ⟨view, query, .here view query, refused⟩
  induction query generalizing view with
  | definition query ih =>
      obtain failed | ⟨next, step, h⟩ := Outcome.bind_eq_error.mp h
      · exact here (.of_target rfl rfl rfl (Outcome.map_eq_error.mp failed))
      · obtain ⟨last, rest, further, refused⟩ := ih h
        exact ⟨last, rest, .definition step further, refused⟩
  | referenced query ih =>
      obtain failed | ⟨next, step, h⟩ := Outcome.bind_eq_error.mp h
      · exact here (.of_target rfl rfl rfl (Outcome.map_eq_error.mp failed))
      · obtain ⟨last, rest, further, refused⟩ := ih h
        exact ⟨last, rest, .referenced step further, refused⟩
  | argument number query ih =>
      obtain failed | ⟨next, step, h⟩ := Outcome.bind_eq_error.mp h
      · exact here (.of_argument failed)
      · obtain ⟨last, rest, further, refused⟩ := ih h
        exact ⟨last, rest, .argument step further, refused⟩
  | isNull => cases h
  | whole | shown => exact here (.of_shown rfl (Outcome.map_eq_error.mp h))
  | spelling => exact here (.of_spelling rfl (.inl rfl) (Outcome.map_eq_error.mp h))
  | displayName => exact here (.of_target rfl rfl rfl (Outcome.map_eq_error.mp h))
  | type query => exact here (.of_typeQuery h)
  | language => exact here (.of_language (Outcome.map_eq_error.mp h))
  | availability => exact here (.of_availability (Outcome.map_eq_error.mp h))
  | argumentCount => exact here (.of_argumentCount (Outcome.map_eq_error.mp h))
  | isFunctionDecl | isMethodDecl =>
      exact here (.of_kind rfl (.inl rfl) (Outcome.map_eq_error.mp h))

theorem ask_eq_error {view : View} {query : Query} {failure : Failure} :
    view.ask query = .error failure ↔
      ∃ last rest, view.LeadsTo query last rest ∧ last.Refuses rest failure := by
  refine ⟨refused_of_ask, ?_⟩
  rintro ⟨last, rest, further, refused⟩
  rw [ask_of_leadsTo further, ask_of_refuses refused]

theorem argumentOf?_outside {engine : Engine} {c : Cursor} {number : Int}
    (outside : number < 0 ∨ (c.arguments.length : Int) ≤ number) :
    engine.argumentOf? c number = none := by
  cases number with
  | negSucc back => rfl
  | ofNat number =>
      have missing : c.arguments[number]? = none := by
        rw [List.getElem?_eq_none_iff]
        simp only [Int.ofNat_eq_natCast] at outside
        omega
      rw [Engine.argumentOf?, missing]
      cases engine <;> rfl

end View

/-- A chain of questions fails if and only if it leads to a view that refuses what is left of it.
That there is no cursor is the failure only if that view is null, and what is asked of it is not
whether it is, how it is shown, or an argument; so is it, over a library, that a function was handed
none. An argument is refused if and only if the view is null or its cursor no function; any other
answer is a view, and a null one outside the list. Arguments are uncounted if and only if the engine
counts -1. -/
theorem chain_fails_at_refusing_view (view : View) :
    (∀ query failure, view.ask query = .error failure ↔
        ∃ last rest, view.LeadsTo query last rest ∧ last.Refuses rest failure) ∧
      (∀ query, view.ask query = .error .noCursor →
        ∃ last rest, view.LeadsTo query last rest ∧ last.ask .isNull = .ok (.flag true) ∧
          rest.needsCursor = true) ∧
      (∀ query, view.ask query = .error .cursorExpected →
        ∃ last rest, view.LeadsTo query last rest ∧ last.ask .isNull = .ok (.flag true) ∧
          rest.handsOn = true ∧ ∃ exports, last.engine = .library exports) ∧
      (∀ number kind, view.isNull = true ∨ view.kind = .ok kind →
        (view.argument number = .error .argumentOfNonFunction ↔
            view.isNull = true ∨ kind ≠ .functionDecl) ∧
          (view.isNull = false → kind = .functionDecl →
            ∃ c next, view.cursor = some c ∧ view.argument number = .ok next ∧
              (number < 0 ∨ c.arguments.length ≤ number → next.isNull = true))) ∧
      ∀ c, view.cursor = some c →
        (view.argumentCount = .error .uncountedArguments ↔ c.facts.argumentCount = -1) := by
  have null {last : View} (absent : last.cursor = none) : last.ask .isNull = .ok (.flag true) :=
    congrArg (fun value => Except.ok (Reading.flag value)) (View.isNull_of_none absent)
  refine ⟨fun query failure => View.ask_eq_error, ?_, ?_, ?_, ?_⟩
  · intro query h
    obtain ⟨last, rest, further, refused⟩ := View.refused_of_ask h
    cases refused with
    | noCursor absent needed => exact ⟨last, rest, further, null absent, needed⟩
  · intro query h
    obtain ⟨last, rest, further, refused⟩ := View.refused_of_ask h
    cases refused with
    | cursorExpected library absent asked =>
        exact ⟨last, rest, further, null absent, asked, _, library⟩
  · intro number kind told
    cases null : view.isNull with
    | true => simp [View.argument_of_isNull null]
    | false =>
        rw [null] at told
        obtain absurd | known := told
        · cases absurd
        · obtain ⟨c, cursor⟩ := View.cursor_of_not_isNull null
          rw [View.argument_of_kind cursor null known]
          constructor
          · split <;> simp [*]
          · rintro - rfl
            refine ⟨c, _, cursor, if_pos rfl, fun outside => ?_⟩
            exact View.isNull_of_none (View.argumentOf?_outside outside)
  · intro c cursor
    simp [View.argumentCount_eq_error cursor]

/-- A function that is its own definition has no sixth argument, and a library takes none for a
cursor. -/
theorem chain_fails_at_missing_argument :
    let c : Cursor := { facts := { kind := .functionDecl }, definition := .itself }
    let chain (query : Query) : Query := .definition (.definition (.argument 5 query))
    let memory : View := ⟨.memory [], some c⟩
    let library : View := ⟨.library {}, some c⟩
    memory.ask (chain .language) = .error .noCursor ∧
      (∃ last rest, memory.LeadsTo (chain .language) last rest ∧
        last.ask .isNull = .ok (.flag true) ∧ rest.needsCursor = true) ∧
      library.ask (chain .language) = .error .cursorExpected ∧
      (∃ last rest, library.LeadsTo (chain .language) last rest ∧
        last.ask .isNull = .ok (.flag true) ∧ rest.handsOn = true ∧
        ∃ exports, last.engine = .library exports) ∧
      memory.argument 5 ≠ .error .argumentOfNonFunction := by
  intro c chain memory library
  obtain ⟨-, absent, -, refused, -⟩ := chain_fails_at_refusing_view memory
  obtain ⟨-, -, handed, -, -⟩ := chain_fails_at_refusing_view library
  refine ⟨rfl, absent _ rfl, rfl, handed _ rfl, fun h => ?_⟩
  obtain null | other := (refused 5 .functionDecl (.inr rfl)).1.mp h
  · cases null
  · exact other rfl

/-- The number of an availability can stand for none as that of a language can, and a view that is
not null fails by it. -/
theorem chain_fails_at_unlisted_availability :
    let c : Cursor := { facts := { kind := .functionDecl, availability := 4 } }
    let view : View := ⟨.memory [], some c⟩
    view.isNull = false ∧
      ¬ ∀ failure, view.ask .availability = .error failure →
        failure = .noCursor ∨ failure = .argumentOfNonFunction ∨ failure = .uncountedArguments ∨
          ∃ code, (code < 0 ∨ 3 < code) ∧ failure = .unknownLanguage code := by
  intro c view
  refine ⟨rfl, fun only => ?_⟩
  have refused : view.ask .availability = .error (.unlisted 4) := rfl
  obtain other | other | other | ⟨code, -, other⟩ := only _ refused
  all_goals cases other

end CursorLift
