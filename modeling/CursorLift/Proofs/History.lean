import CursorLift.Proofs.Run
import CursorLift.Session.Script

/-! # A catalogue and its history

What a catalogue holds is settled by where it started and by the registrations that were accepted
since: the last of a kind gives its shape, the first its place. A registration that is refused
leaves no trace.
-/

namespace CursorLift.Catalogue

def afterAll (base : Catalogue) : List Registration → Catalogue
  | [] => base
  | request :: requests => ((CatalogueStep.register request).perform base).1.afterAll requests

/-- The registrations that are accepted, in order. -/
def accepted (base : Catalogue) : List Registration → List Registration
  | [] => []
  | request :: requests =>
    match base.register request with
    | .ok next => request :: next.accepted requests
    | .error _ => base.accepted requests

/-- The catalogue after registrations that are all accepted. -/
def replay (base : Catalogue) (made : List Registration) : Catalogue :=
  made.foldl (fun catalogue request => catalogue.put request.kind request.shape) base

/-- What a kind was given last, be it a shape or none, if it was given anything. -/
def latest? (base : Catalogue) (made : List Registration) (kind : Kind) : Option (Option Shape) :=
  ((made.filter fun request => request.kind = kind).getLast?.map Registration.shape).or
    (base.entries.lookup kind)

variable {catalogue base next : Catalogue} {kind other : Kind} {shape : Option Shape}
  {request : Registration} {failure : Failure}

/-! ## Putting a kind -/

theorem holds_iff : catalogue.holds kind = true ↔ kind ∈ catalogue.kinds := by
  simp [holds, kinds]

theorem lookup_entries_eq_none : catalogue.entries.lookup kind = none ↔ kind ∉ catalogue.kinds := by
  rw [List.lookup_eq_none_iff]
  simp only [kinds, List.mem_map, bne_iff_ne, not_exists, not_and]
  exact ⟨fun h entry member same => h entry member same.symm,
    fun h entry member same => h entry member same.symm⟩

theorem kinds_put :
    (catalogue.put kind shape).kinds =
      if kind ∈ catalogue.kinds then catalogue.kinds else catalogue.kinds ++ [kind] := by
  unfold put
  by_cases held : kind ∈ catalogue.kinds
  · rw [if_pos (holds_iff.mpr held), if_pos held]
    simp only [kinds, List.map_map]
    apply List.map_congr_left
    intro entry _
    by_cases same : entry.1 = kind <;> simp [same]
  · rw [if_neg (by rwa [holds_iff]), if_neg held]
    simp [kinds]

theorem lookup_map_replace (entries : List (Kind × Option Shape)) :
    (entries.map fun entry => if entry.1 = kind then (kind, shape) else entry).lookup other =
      if other = kind then (entries.lookup kind).map fun _ => shape else entries.lookup other := by
  induction entries with
  | nil => simp
  | cons entry entries ih =>
      obtain ⟨key, old⟩ := entry
      rw [List.map_cons]
      by_cases mine : key = kind
      · subst mine
        by_cases same : other = key
        · simp [same]
        · simp [List.lookup_cons, same, ih, beq_false_of_ne same]
      · by_cases same : other = key
        · subst same
          simp [mine]
        · simp [List.lookup_cons, mine, ih, beq_false_of_ne same, beq_false_of_ne (Ne.symm mine)]

theorem lookup_entries_put :
    (catalogue.put kind shape).entries.lookup other =
      if other = kind then some shape else catalogue.entries.lookup other := by
  unfold put
  by_cases held : kind ∈ catalogue.kinds
  · have present : catalogue.entries.lookup kind ≠ none := fun absent =>
      lookup_entries_eq_none.mp absent held
    obtain ⟨old, found⟩ := Option.ne_none_iff_exists'.mp present
    rw [if_pos (holds_iff.mpr held), lookup_map_replace, found, Option.map_some]
  · rw [if_neg (by rwa [holds_iff]), List.lookup_append]
    by_cases same : other = kind
    · subst same
      rw [lookup_entries_eq_none.mpr held]
      simp
    · rw [if_neg same, List.lookup_cons, beq_false_of_ne same]
      simp

theorem lookup_eq_ok {shape : Shape} :
    catalogue.lookup kind = .ok shape ↔ catalogue.entries.lookup kind = some (some shape) := by
  unfold lookup
  rcases catalogue.entries.lookup kind with _ | _ | found <;> simp

theorem lookup_eq_error_iff :
    catalogue.lookup kind = .error failure ↔
      failure = .unhandledKind kind ∧
        (catalogue.entries.lookup kind = none ∨ catalogue.entries.lookup kind = some none) := by
  unfold lookup
  rcases catalogue.entries.lookup kind with _ | _ | found <;> simp [eq_comm]

/-! ## One registration -/

theorem register_eq_error :
    catalogue.register request = .error failure ↔
      (catalogue.holds request.kind = true ∧ request.replace = false) ∧
        failure = .duplicateKind request.kind := by
  unfold register
  cases catalogue.holds request.kind <;> cases request.replace <;> simp [eq_comm]

theorem eq_put_of_register (accepted : catalogue.register request = .ok next) :
    next = catalogue.put request.kind request.shape := by
  unfold register at accepted
  split at accepted
  · cases accepted
  · cases accepted
    rfl

theorem perform_register :
    (CatalogueStep.register request).perform catalogue =
      match catalogue.register request with
      | .ok next => (next, ⟨[.notice (.registered request.kind)], .ok .done⟩)
      | .error failure => (catalogue, Run.fail failure) := by
  simp only [CatalogueStep.perform, registerNoted]
  cases catalogue.register request <;> rfl

theorem perform_register_eq_error :
    ((CatalogueStep.register request).perform catalogue).2.outcome = .error failure ↔
      catalogue.register request = .error failure := by
  rw [perform_register]
  cases catalogue.register request <;> simp

/-! ## All registrations -/

theorem afterAll_eq_replay (base : Catalogue) (requests : List Registration) :
    base.afterAll requests = base.replay (base.accepted requests) := by
  induction requests generalizing base with
  | nil => rfl
  | cons request requests ih =>
      rw [afterAll, accepted, perform_register, ih]
      cases answer : base.register request with
      | ok next =>
          obtain rfl := eq_put_of_register answer
          rfl
      | error failure => rfl

theorem afterAll_append (base : Catalogue) (early late : List Registration) :
    base.afterAll (early ++ late) = (base.afterAll early).afterAll late := by
  induction early generalizing base with
  | nil => rfl
  | cons request early ih => exact ih _

theorem performAll_register (base : Catalogue) (early late : List Registration)
    (request : Registration) :
    (CatalogueStep.performAll base ((early ++ request :: late).map .register))[early.length]? =
      some ((CatalogueStep.register request).perform (base.afterAll early)).2 := by
  induction early generalizing base with
  | nil => rfl
  | cons _ early ih => exact ih _

theorem replay_cons (base : Catalogue) (request : Registration) (made : List Registration) :
    base.replay (request :: made) = (base.put request.kind request.shape).replay made := rfl

theorem kinds_replay (base : Catalogue) (made : List Registration) :
    (base.replay made).kinds =
      base.kinds ++ ((made.map Registration.kind).removeAll base.kinds).eraseDups := by
  induction made generalizing base with
  | nil => simp [replay]
  | cons request made ih =>
      rw [replay_cons, ih, kinds_put, List.map_cons, List.cons_removeAll]
      by_cases held : request.kind ∈ base.kinds
      · simp [held]
      · have new : base.kinds.contains request.kind = false := by simpa using held
        rw [if_neg held, if_pos new, List.eraseDups_cons, List.append_assoc, List.singleton_append]
        simp only [List.removeAll, List.filter_filter]
        congr 4
        funext kind
        by_cases same : kind = request.kind <;> simp [same]

theorem nodup_replay (distinct : base.kinds.Nodup) (made : List Registration) :
    (base.replay made).kinds.Nodup := by
  induction made generalizing base with
  | nil => exact distinct
  | cons request made ih =>
      apply ih
      rw [kinds_put]
      split
      · exact distinct
      · next absent =>
          rw [List.nodup_append]
          grind

theorem lookup_entries_replay (base : Catalogue) (made : List Registration) (kind : Kind) :
    (base.replay made).entries.lookup kind = base.latest? made kind := by
  induction made generalizing base with
  | nil => simp [replay, latest?]
  | cons request made ih =>
      rw [replay_cons, ih, latest?, latest?, lookup_entries_put, List.getLast?_filter,
        List.getLast?_filter, List.reverse_cons, List.find?_append]
      cases made.reverse.find? fun request => request.kind = kind with
      | some later => rfl
      | none =>
          by_cases same : request.kind = kind
          · simp [same]
          · simp [same, Ne.symm same]

theorem distinct_of_start (start : base = {} ∨ Catalogue.basic.outcome = .ok base) :
    base.kinds.Nodup := by
  obtain rfl | made := start
  · exact List.nodup_nil
  · cases made
    decide

/-- From the empty catalogue or the basic one, registrations are refused exactly where they would
replace a shape unasked, and then change nothing. After them the kinds held are those of the start
and those of accepted registrations, each once, in the order in which it was first registered,
and each is lifted to the shape it was given last. -/
theorem settled_by_history {base : Catalogue}
    (start : base = {} ∨ Catalogue.basic.outcome = .ok base) (requests : List Registration) :
    (∀ (early late : List Registration) (request : Registration),
      requests = early ++ request :: late →
      ∃ ran, (CatalogueStep.performAll base (requests.map .register))[early.length]? = some ran ∧
        ((∃ failure, ran.outcome = .error failure) ↔
          (base.afterAll early).holds request.kind = true ∧ request.replace = false) ∧
        ∀ failure, ran.outcome = .error failure →
          failure = .duplicateKind request.kind ∧
            base.afterAll (early ++ [request]) = base.afterAll early) ∧
    let last := base.afterAll requests
    let made := base.accepted requests
    (∀ kind, last.holds kind = true ↔
      base.holds kind = true ∨ ∃ request ∈ made, request.kind = kind) ∧
    (∀ kind, kind ∈ last.kinds ↔ last.holds kind = true) ∧
    (∀ kind shape, last.lookup kind = .ok shape ↔ base.latest? made kind = some (some shape)) ∧
    (∀ kind failure, last.lookup kind = .error failure ↔
      failure = .unhandledKind kind ∧
        (base.latest? made kind = none ∨ base.latest? made kind = some none)) ∧
    last.kinds =
      base.kinds ++ ((made.map Registration.kind).removeAll base.kinds).eraseDups ∧
    last.kinds.Nodup ∧
    last.size = last.kinds.length := by
  refine ⟨?_, ?_, fun kind => holds_iff.symm, ?_, ?_, ?_, ?_, ?_⟩
  · rintro early late request rfl
    refine ⟨_, performAll_register base early late request, ?_, ?_⟩
    · simp only [perform_register_eq_error, register_eq_error, exists_and_left, exists_eq, and_true]
    · intro failure refused
      rw [perform_register_eq_error] at refused
      refine ⟨(register_eq_error.mp refused).2, ?_⟩
      rw [afterAll_append, afterAll, perform_register, refused, afterAll]
  · intro kind
    rw [holds_iff, holds_iff, afterAll_eq_replay, kinds_replay]
    by_cases held : kind ∈ base.kinds <;> simp [List.removeAll, held]
  · intro kind shape
    rw [lookup_eq_ok, afterAll_eq_replay, lookup_entries_replay]
  · intro kind failure
    rw [lookup_eq_error_iff, afterAll_eq_replay, lookup_entries_replay]
  · rw [afterAll_eq_replay, kinds_replay]
  · rw [afterAll_eq_replay]
    exact nodup_replay (distinct_of_start start) _
  · exact (List.length_map _).symm

theorem settled_by_mixed_history :
    let requests : List Registration := [
      { kind := .varDecl, shape := some .stringLiteral },
      { kind := .word "x", shape := none },
      { kind := .integerLiteral, shape := some .stringLiteral, replace := true }]
    ∃ base, Catalogue.basic.outcome = .ok base ∧
      (base.afterAll requests).kinds =
        [.translationUnit, .integerLiteral, .floatingLiteral, .varDecl, .word "x"] ∧
      (base.afterAll requests).lookup .varDecl = .ok .varDecl ∧
      (base.afterAll requests).lookup .integerLiteral = .ok .stringLiteral ∧
      (base.afterAll requests).lookup (.word "x") = .error (.unhandledKind (.word "x")) := by
  intro requests
  refine ⟨_, rfl, ?_⟩
  obtain ⟨-, -, -, shaped, unshaped, order, -, -⟩ := settled_by_history (.inr rfl) requests
  refine ⟨order.trans (by decide), ?_, ?_, ?_⟩
  · exact (shaped _ _).mpr (by decide)
  · exact (shaped _ _).mpr (by decide)
  · exact (unshaped _ _).mpr ⟨rfl, .inr (by decide)⟩

end CursorLift.Catalogue
