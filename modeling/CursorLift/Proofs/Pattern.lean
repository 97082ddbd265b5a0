import CursorLift.Proofs.Scanning

/-! # Patterns with choices in order

A pattern says what may stand at the front of a text, and in which order its ways of matching are
tried: a repetition takes as much as it can before it takes less, an option is taken before it is
left out, and the first of two alternatives comes before the second. The patterns of numerals match
in many ways, but the first way is always the one that scanning finds.
-/

namespace CursorLift.Literal

inductive Pattern where
  /-- The empty text. -/
  | nothing
  /-- A character of a class. -/
  | one (p : Char → Bool)
  /-- Any number of characters of a class. -/
  | many (p : Char → Bool)
  | andThen (first second : Pattern)
  | orElse (first second : Pattern)

namespace Pattern

/-- The ways of taking characters of a class, each with what is left: more of them before fewer. -/
def runs (p : Char → Bool) : List Char → List (List Char × List Char)
  | [] => [([], [])]
  | c :: rest =>
    if p c then (runs p rest).map (fun (taken, left) => (c :: taken, left)) ++ [([], c :: rest)]
    else [([], c :: rest)]

/-- The ways in which a pattern matches at the front of a text, in the order in which they are
tried, each with what it takes and what is left. -/
def ways : Pattern → List Char → List (List Char × List Char)
  | .nothing, text => [([], text)]
  | .one _, [] => []
  | .one p, c :: rest => if p c then [([c], rest)] else []
  | .many p, text => runs p text
  | .andThen first second, text =>
    (first.ways text).flatMap fun (taken, left) =>
      (second.ways left).map fun (more, left) => (taken ++ more, left)
  | .orElse first second, text => first.ways text ++ second.ways text

def first? (pattern : Pattern) (text : List Char) : Option (List Char × List Char) :=
  (pattern.ways text).head?

/-- What a pattern takes behind blanks. When it does not match behind all of them, it is tried
behind fewer. -/
def captured? (pattern : Pattern) (text : List Char) : Option (List Char) :=
  (runs Text.isBlank text).findSome? fun (_, left) => (pattern.first? left).map Prod.fst

def maybe (pattern : Pattern) : Pattern := pattern.orElse nothing

def sign : Pattern := one fun c => c == '+' || c == '-'

def digits : Pattern := (one Text.isDecimalDigit).andThen (many Text.isDecimalDigit)

def point : Pattern := one (· == '.')

def integer : Pattern := (maybe sign).andThen digits

/-- Digits with a point or without and then more digits, or a point with digits behind it. -/
def mantissa : Pattern :=
  (digits.andThen ((maybe point).andThen (many Text.isDecimalDigit))).orElse (point.andThen digits)

def exponent : Pattern := (one fun c => c == 'e' || c == 'E').andThen integer

/-- The pattern of floating numbers: a sign or none, a mantissa, and an exponent or none. -/
def floating : Pattern := (maybe sign).andThen (mantissa.andThen (maybe exponent))

/-! ## First ways -/

section First

variable {p : Char → Bool} {pattern first second : Pattern} {c : Char} {text rest : List Char}

theorem first?_one_cons : (one p).first? (c :: rest) = if p c then some ([c], rest) else none := by
  unfold first? ways
  split <;> rfl

theorem first?_many (p : Char → Bool) (text : List Char) :
    (many p).first? text = some (text.takeWhile p, text.dropWhile p) := by
  show (runs p text).head? = _
  induction text with
  | nil => rfl
  | cons c rest ih => by_cases h : p c <;> simp [runs, h, List.head?_append, ih]

theorem first?_orElse :
    (orElse first second).first? text = (first.first? text).or (second.first? text) :=
  List.head?_append

theorem first?_maybe (pattern : Pattern) (text : List Char) :
    (maybe pattern).first? text = some ((pattern.first? text).getD ([], text)) := by
  rw [maybe, first?_orElse]
  cases pattern.first? text <;> rfl

/-- The second pattern decides which way of the first is taken: the first way that it goes on
from. -/
theorem first?_andThen :
    (first.andThen second).first? text = (first.ways text).findSome? fun (taken, left) =>
      (second.first? left).map fun (more, left) => (taken ++ more, left) := by
  simp [first?, ways, List.head?_flatMap, List.head?_map]

theorem first?_andThen_of_some {taken left : List Char} {way : List Char × List Char}
    (h : first.first? text = some (taken, left)) (h' : second.first? left = some way) :
    (first.andThen second).first? text = some (taken ++ way.1, way.2) := by
  obtain ⟨more, spelled⟩ := List.head?_eq_some_iff.mp h
  simp [first?_andThen, spelled, h']

theorem first?_andThen_of_none (h : first.first? text = none) :
    (first.andThen second).first? text = none := by
  simp [first?_andThen, List.head?_eq_none_iff.mp h]

theorem first?_digits (text : List Char) :
    digits.first? text =
      if leadingDigits text = [] then none else some (leadingDigits text, afterDigits text) := by
  cases text with
  | nil => rfl
  | cons c rest =>
      by_cases digit : Text.isDecimalDigit c
      · have taken : (one Text.isDecimalDigit).first? (c :: rest) = some ([c], rest) := by
          rw [first?_one_cons, if_pos digit]
        rw [digits, first?_andThen_of_some taken (first?_many _ rest)]
        simp [leadingDigits, afterDigits, digit]
      · have stuck : (one Text.isDecimalDigit).first? (c :: rest) = none := by
          rw [first?_one_cons, if_neg digit]
        rw [digits, first?_andThen_of_none stuck]
        simp [leadingDigits, digit]

theorem first?_signed (stuck : ∀ c rest, c = '+' ∨ c = '-' → pattern.first? (c :: rest) = none)
    (text : List Char) :
    ((maybe sign).andThen pattern).first? text =
      (pattern.first? (Sign.scan text).2).map fun (taken, left) =>
        (Sign.text (Sign.scan text).1 ++ taken, left) := by
  rw [first?_andThen]
  cases text with
  | nil => cases h : pattern.first? [] <;> simp [maybe, ways, sign, Sign.scan, Sign.text, h]
  | cons c rest =>
      by_cases signed : c = '+' ∨ c = '-'
      · have alone := stuck c rest signed
        rcases signed with rfl | rfl <;>
          cases h : pattern.first? rest <;>
            simp [maybe, ways, sign, Sign.scan, Sign.text, Sign.char, h, alone]
      · obtain ⟨plus, minus⟩ := not_or.mp signed
        cases h : pattern.first? (c :: rest) <;>
          simp [maybe, ways, sign, Sign.scan, Sign.text, plus, minus, h]

end First

/-! ## Numerals -/

section Numerals

variable {c : Char} {text rest : List Char}

theorem first?_integer (text : List Char) :
    integer.first? text =
      (Integer.scan? text).map fun n => (n.text, afterDigits (Sign.scan text).2) := by
  have stuck (c : Char) (rest : List Char) (signed : c = '+' ∨ c = '-') :
      digits.first? (c :: rest) = none := by
    have other : Text.isDecimalDigit c = false := by rcases signed with rfl | rfl <;> decide
    simp [first?_digits, leadingDigits, other]
  rw [integer, first?_signed stuck, first?_digits, Integer.scan?]
  dsimp only
  cases spelled : leadingDigits (Sign.scan text).2 <;> simp [Integer.text]

theorem first?_point_digits (text : List Char) :
    (point.andThen digits).first? ('.' :: text) =
      if leadingDigits text = [] then none
      else some ('.' :: leadingDigits text, afterDigits text) := by
  have taken : point.first? ('.' :: text) = some (['.'], text) := rfl
  by_cases bare : leadingDigits text = []
  · have ways : point.ways ('.' :: text) = [(['.'], text)] := rfl
    simp [first?_andThen, ways, first?_digits, bare]
  · have behind : digits.first? text = some (leadingDigits text, afterDigits text) := by
      rw [first?_digits, if_neg bare]
    rw [first?_andThen_of_some taken behind, if_neg bare]
    rfl

theorem first?_fraction (stop : ∀ c ∈ rest.head?, Text.isDecimalDigit c = false) :
    ((maybe point).andThen (many Text.isDecimalDigit)).first? rest =
      if rest.head? = some '.' then some ('.' :: leadingDigits rest.tail, afterDigits rest.tail)
      else some ([], rest) := by
  by_cases pointed : rest.head? = some '.'
  · obtain ⟨behind, rfl⟩ := List.head?_eq_some_iff.mp pointed
    have taken : (maybe point).first? ('.' :: behind) = some (['.'], behind) := rfl
    exact first?_andThen_of_some taken (first?_many _ behind)
  · have skipped : (maybe point).first? rest = some ([], rest) := by
      rw [first?_maybe]
      cases rest with
      | nil => rfl
      | cons c behind =>
          have other : c ≠ '.' := by simpa using pointed
          simp [point, first?_one_cons, other]
    have none : rest.takeWhile Text.isDecimalDigit = [] := leadingDigits_of_stop stop
    have all : rest.dropWhile Text.isDecimalDigit = rest := afterDigits_of_stop stop
    rw [first?_andThen_of_some skipped (first?_many _ rest), none, all, if_neg pointed]
    rfl

theorem first?_mantissa (text : List Char) :
    mantissa.first? text = (Mantissa.scan? text).map fun (m, rest) => (m.text, rest) := by
  rw [mantissa, first?_orElse, Mantissa.scan?]
  by_cases bare : leadingDigits text = []
  · have unmatched : digits.first? text = none := by rw [first?_digits, if_pos bare]
    have whole : afterDigits text = text := by
      simpa [bare] using leadingDigits_append_afterDigits text
    rw [first?_andThen_of_none unmatched, Option.none_or, bare, whole]
    cases text with
    | nil => rfl
    | cons c rest =>
        by_cases pointed : c = '.'
        · subst pointed
          rw [first?_point_digits]
          cases row : leadingDigits rest <;> simp [Mantissa.text, row]
        · have stuck : point.first? (c :: rest) = none := by
            rw [point, first?_one_cons]
            simp [pointed]
          simp [first?_andThen_of_none stuck, pointed]
  · have taken : digits.first? text = some (leadingDigits text, afterDigits text) := by
      rw [first?_digits, if_neg bare]
    have fraction := first?_fraction (afterDigits_stops text)
    obtain ⟨d, more, spelled⟩ := List.exists_cons_of_ne_nil bare
    by_cases pointed : (afterDigits text).head? = some '.'
    · obtain ⟨behind, after⟩ := List.head?_eq_some_iff.mp pointed
      rw [if_pos pointed] at fraction
      rw [first?_andThen_of_some taken fraction, spelled, after]
      rfl
    · rw [if_neg pointed] at fraction
      rw [first?_andThen_of_some taken fraction, spelled]
      cases after : afterDigits text with
      | nil => simp [Mantissa.text]
      | cons c rest =>
          have other : c ≠ '.' := by simpa [after] using pointed
          simp [Mantissa.text, other]

theorem first?_maybe_exponent (text : List Char) :
    ∃ left, (maybe exponent).first? text = some (Exponent.text (Exponent.scan? text), left) := by
  rw [first?_maybe]
  cases text with
  | nil => exact ⟨[], rfl⟩
  | cons mark rest =>
      by_cases marked : mark = 'e' ∨ mark = 'E'
      · have taken : (one fun c => c == 'e' || c == 'E').first? (mark :: rest) =
            some ([mark], rest) := by simp [first?_one_cons, marked]
        have only : (one fun c => c == 'e' || c == 'E').ways (mark :: rest) = [([mark], rest)] := by
          simp [ways, marked]
        rw [Exponent.scan?, if_pos marked, exponent, first?_andThen, only]
        cases power : Integer.scan? rest with
        | none => exact ⟨mark :: rest, by simp [first?_integer, power, Exponent.text]⟩
        | some n =>
            refine ⟨afterDigits (Sign.scan rest).2, ?_⟩
            simp [first?_integer, power, Exponent.text, Integer.text]
      · have stuck : (one fun c => c == 'e' || c == 'E').first? (mark :: rest) = none := by
          simp [first?_one_cons, marked]
        rw [Exponent.scan?, if_neg marked, exponent, first?_andThen_of_none stuck]
        exact ⟨_, rfl⟩

/-- What the pattern of floating numbers takes first is what scanning finds. -/
theorem first?_floating (text : List Char) :
    (floating.first? text).map Prod.fst = (Floating.scan? text).map Floating.text := by
  have stuck (c : Char) (rest : List Char) (signed : c = '+' ∨ c = '-') :
      (mantissa.andThen (maybe exponent)).first? (c :: rest) = none := by
    apply first?_andThen_of_none
    have other : Text.isDecimalDigit c = false := by rcases signed with rfl | rfl <;> decide
    have pointless : c ≠ '.' := by rcases signed with rfl | rfl <;> decide
    simp [first?_mantissa, Mantissa.scan?, leadingDigits, afterDigits, other, pointless]
  rw [floating, first?_signed stuck, Floating.scan?]
  dsimp only
  have scanned := first?_mantissa (Sign.scan text).2
  cases found : Mantissa.scan? (Sign.scan text).2 with
  | none =>
      rw [found] at scanned
      rw [first?_andThen_of_none scanned]
      rfl
  | some way =>
      obtain ⟨m, rest⟩ := way
      rw [found] at scanned
      obtain ⟨left, power⟩ := first?_maybe_exponent rest
      rw [first?_andThen_of_some scanned power]
      simp [Floating.text]

/-- A pattern that starts with no blank is taken behind all blanks. -/
theorem captured?_eq {pattern : Pattern}
    (stuck : ∀ c rest, Text.isBlank c = true → pattern.first? (c :: rest) = none)
    (text : List Char) :
    pattern.captured? text = (pattern.first? (Text.dropBlanks text)).map Prod.fst := by
  unfold captured? Text.dropBlanks
  induction text with
  | nil => simp [runs]
  | cons c rest ih =>
      by_cases blank : Text.isBlank c = true
      · simp [runs, blank, List.findSome?_append, List.findSome?_map, Function.comp_def, ih,
          stuck c rest blank]
      · simp [runs, blank]

theorem not_blank_first (blank : Text.isBlank c = true) :
    Text.isDecimalDigit c = false ∧ c ≠ '.' ∧ c ≠ '+' ∧ c ≠ '-' := by
  refine ⟨?_, ?_, ?_, ?_⟩
  · by_contra digit
    have apart := Text.isBlank_of_isDecimalDigit (eq_true_of_ne_false digit)
    simp [blank] at apart
  all_goals
    rintro rfl
    exact absurd blank (by decide)

theorem captured?_integer (text : List Char) :
    integer.captured? text = (Integer.scan? (Text.dropBlanks text)).map Integer.text := by
  have stuck (c : Char) (rest : List Char) (blank : Text.isBlank c = true) :
      integer.first? (c :: rest) = none := by
    obtain ⟨digit, -, plus, minus⟩ := not_blank_first blank
    simp [first?_integer, Integer.scan?, Sign.scan, leadingDigits, digit, plus, minus]
  rw [captured?_eq stuck, first?_integer, Option.map_map]
  rfl

theorem captured?_floating (text : List Char) :
    floating.captured? text = (Floating.scan? (Text.dropBlanks text)).map Floating.text := by
  have stuck (c : Char) (rest : List Char) (blank : Text.isBlank c = true) :
      floating.first? (c :: rest) = none := by
    obtain ⟨digit, pointless, plus, minus⟩ := not_blank_first blank
    have scanned := first?_floating (c :: rest)
    simpa [Floating.scan?, Mantissa.scan?, Sign.scan, leadingDigits, afterDigits, digit, pointless,
      plus, minus] using scanned
  rw [captured?_eq stuck, first?_floating]

end Numerals

end Pattern

end CursorLift.Literal
