import CursorLift.Proofs.Numerals
import Mathlib.Algebra.Order.Field.Rat
import Mathlib.Data.Nat.Digits.Defs
import Mathlib.Tactic.FieldSimp

/-! # What numerals denote

A row of digits denotes its value in base ten, a numeral the integer or the rational that its parts
are put together to. An integer is read exactly from a text in which blanks and an integer numeral
come first, and it is the one that the numeral denotes.
-/

namespace CursorLift

/-- The number that a row of digits denotes: each digit counts ten times as much as the next. -/
def Text.positional (digits : List Char) : Nat := Nat.ofDigits 10 (digits.reverse.map digitValue)

theorem Text.positional_append (digits more : List Char) :
    positional (digits ++ more) = positional digits * 10 ^ more.length + positional more := by
  simp [positional, Nat.ofDigits_append]
  ring

theorem Text.digitsValue_eq_positional (digits : List Char) :
    digitsValue digits = positional digits := by
  induction digits using List.reverseRecOn with
  | nil => rfl
  | append_singleton digits c ih =>
      have last : positional [c] = digitValue c := by simp [positional]
      rw [digitsValue, List.foldl_append, ← digitsValue, ih, positional_append, last]
      simp [Nat.mul_comm]

namespace Literal

/-- What a written sign, or the lack of one, multiplies a number by. -/
def Sign.factor : Option Sign → Int
  | some .minus => -1
  | _ => 1

def Integer.denoted (n : Integer) : Int := Sign.factor n.sign * Text.positional n.digits

def Exponent.denoted : Option Exponent → Int
  | none => 0
  | some e => Integer.denoted ⟨e.sign, e.digits⟩

/-- The rational that a floating numeral denotes. -/
def Floating.denoted (n : Floating) : ℚ :=
  let fraction := n.mantissa.fraction.getD []
  Sign.factor n.sign * (Text.positional n.mantissa.whole +
    Text.positional fraction / 10 ^ fraction.length) * 10 ^ Exponent.denoted n.exponent

theorem Integer.value_eq_denoted (n : Integer) : n.value = n.denoted := by
  obtain ⟨_ | _ | _, digits⟩ := n <;>
    simp [value, denoted, Sign.isNegative, Sign.factor, Text.digitsValue_eq_positional]

theorem Exponent.value_eq_denoted (e : Option Exponent) :
    Exponent.value e = Exponent.denoted e := by
  cases e with
  | none => rfl
  | some e => exact Integer.value_eq_denoted _

theorem Floating.denoted_eq (n : Floating) :
    n.denoted = Sign.factor n.sign *
      (n.mantissa.significand * 10 ^ (Exponent.value n.exponent - n.mantissa.places)) := by
  have ten : (10 : ℚ) ≠ 0 := by norm_num
  rw [denoted, Mantissa.significand, Mantissa.places, Text.digitsValue_eq_positional,
    Text.positional_append, Exponent.value_eq_denoted, zpow_sub₀ ten, zpow_natCast]
  push_cast
  field_simp

/-! ## Reading integers -/

/-- Whether a text is made of blanks, an integer numeral and a rest that adds no digit to it. -/
structure StartsWith (text blanks : List Char) (n : Integer) (rest : List Char) : Prop where
  spelled : text = blanks ++ Sign.text n.sign ++ n.digits ++ rest
  blank : ∀ c ∈ blanks, Text.isBlank c = true
  row : IsRow n.digits
  stop : ∀ c ∈ rest.head?, Text.isDecimalDigit c = false

theorem scan?_dropBlanks_eq_some_iff {text : List Char} {n : Integer} :
    Integer.scan? (Text.dropBlanks text) = some n ↔
      ∃ blanks rest, StartsWith text blanks n rest := by
  constructor
  · intro scanned
    obtain ⟨row, rest, spelled, stop⟩ := Integer.scan?_sound scanned
    refine ⟨text.takeWhile Text.isBlank, rest, ?_, fun _ => List.mem_takeWhile_imp, row, stop⟩
    have whole : text.takeWhile Text.isBlank ++ Text.dropBlanks text = text :=
      List.takeWhile_append_dropWhile
    rw [spelled] at whole
    simpa [Integer.text] using whole.symm
  · rintro ⟨blanks, rest, rfl, blank, row, stop⟩
    have dropped := dropBlanks_append blank (Integer.not_blank row rest)
    rw [Integer.text] at dropped
    rw [List.append_assoc, List.append_assoc, ← List.append_assoc (Sign.text n.sign), dropped]
    exact Integer.scan?_eq_some_iff.mpr ⟨row, rest, rfl, stop⟩

theorem readInteger_of_startsWith {text : String} {blanks rest : List Char} {n : Integer}
    (start : StartsWith text.toList blanks n rest) :
    readInteger text = if n.digits.length ≤ 4300 then .ok (.integer n.denoted)
      else .error (.tooManyDigits n.digits.length) := by
  rw [readInteger, scan?_dropBlanks_eq_some_iff.mpr ⟨blanks, rest, start⟩,
    ← Integer.value_eq_denoted]
  rfl

theorem readInteger_of_absent {text : String}
    (absent : ∀ blanks n rest, ¬StartsWith text.toList blanks n rest) :
    readInteger text = .ok (.double .nan) := by
  rw [readInteger]
  cases scanned : Integer.scan? (Text.dropBlanks text.toList) with
  | none => rfl
  | some n =>
      obtain ⟨blanks, rest, start⟩ := scan?_dropBlanks_eq_some_iff.mp scanned
      exact absurd start (absent blanks n rest)

/-- The three ways in which a text is read. -/
theorem readInteger_cases (text : String) :
    (∃ blanks n rest, StartsWith text.toList blanks n rest ∧ n.digits.length ≤ 4300 ∧
        readInteger text = .ok (.integer n.denoted)) ∨
      (∃ blanks n rest, StartsWith text.toList blanks n rest ∧ 4300 < n.digits.length ∧
        readInteger text = .error (.tooManyDigits n.digits.length)) ∨
      (∀ blanks n rest, ¬StartsWith text.toList blanks n rest) ∧
        readInteger text = .ok (.double .nan) := by
  by_cases some : ∃ blanks n rest, StartsWith text.toList blanks n rest
  · obtain ⟨blanks, n, rest, start⟩ := some
    have read := readInteger_of_startsWith start
    by_cases short : n.digits.length ≤ 4300
    · rw [if_pos short] at read
      exact .inl ⟨blanks, n, rest, start, short, read⟩
    · rw [if_neg short] at read
      exact .inr (.inl ⟨blanks, n, rest, start, Nat.not_le.mp short, read⟩)
  · have absent (blanks : List Char) (n : Integer) (rest : List Char)
        (start : StartsWith text.toList blanks n rest) : False := some ⟨blanks, n, rest, start⟩
    exact .inr (.inr ⟨absent, readInteger_of_absent absent⟩)

theorem exists_decimal (value : Int) : ∃ n : Integer, (Text.decimal value).toList = n.text ∧
    n.digits = Nat.toDigits 10 value.natAbs ∧ n.denoted = value := by
  cases value with
  | ofNat k =>
      refine ⟨⟨none, Nat.toDigits 10 k⟩, by simp [Text.decimal, Integer.text, Sign.text], rfl, ?_⟩
      rw [← Integer.value_eq_denoted]
      simp [Integer.value, Sign.isNegative]
  | negSucc k =>
      refine ⟨⟨some .minus, Nat.toDigits 10 (k + 1)⟩,
        by simp [Text.decimal, Integer.text, Sign.text, Sign.char], rfl, ?_⟩
      rw [← Integer.value_eq_denoted]
      simp [Integer.value, Sign.isNegative, Int.negSucc_eq]

/-- A text is read as the integer that the numeral at its front denotes. A numeral of more than
4300 digits is a failure that tells their number, and a text without a numeral is no number. So an
integer is read back from what writes it, whatever blanks stand in front and whatever but a digit
stands behind. -/
theorem integer_read_by_grammar (text : String) :
    (∀ value, readInteger text = .ok (.integer value) ↔
        ∃ blanks n rest, StartsWith text.toList blanks n rest ∧ n.digits.length ≤ 4300 ∧
          value = n.denoted) ∧
      (∀ failure, readInteger text = .error failure ↔
        ∃ blanks n rest, StartsWith text.toList blanks n rest ∧ 4300 < n.digits.length ∧
          failure = .tooManyDigits n.digits.length ∧
          failure.message = "Exceeds the limit (4300 digits) for integer string conversion: "
            ++ "value has " ++ Text.decimal n.digits.length
            ++ " digits; use sys.set_int_max_str_digits() to increase the limit") ∧
      (∀ value, readInteger text = .ok (.double value) ↔
        (∀ blanks n rest, ¬StartsWith text.toList blanks n rest) ∧ value = .nan) ∧
      ∀ (value : Int) (blanks rest : List Char),
        text.toList = blanks ++ (Text.decimal value).toList ++ rest →
        (∀ c ∈ blanks, Text.isBlank c = true) →
        (∀ c ∈ rest.head?, Text.isDecimalDigit c = false) →
        (Nat.toDigits 10 value.natAbs).length ≤ 4300 →
        readInteger text = .ok (.integer value) := by
  refine ⟨fun value => ⟨fun read => ?_, ?_⟩, fun failure => ⟨fun read => ?_, ?_⟩,
    fun value => ⟨fun read => ?_, ?_⟩, ?_⟩
  · rcases readInteger_cases text with
      ⟨blanks, n, rest, start, short, given⟩ | ⟨_, _, _, -, -, given⟩ | ⟨-, given⟩
    · rw [given] at read
      cases read
      exact ⟨blanks, n, rest, start, short, rfl⟩
    · cases given.symm.trans read
    · cases given.symm.trans read
  · rintro ⟨blanks, n, rest, start, short, rfl⟩
    rw [readInteger_of_startsWith start, if_pos short]
  · rcases readInteger_cases text with
      ⟨_, _, _, -, -, given⟩ | ⟨blanks, n, rest, start, long, given⟩ | ⟨-, given⟩
    · cases given.symm.trans read
    · rw [given] at read
      cases read
      exact ⟨blanks, n, rest, start, long, rfl, rfl⟩
    · cases given.symm.trans read
  · rintro ⟨blanks, n, rest, start, long, rfl, -⟩
    rw [readInteger_of_startsWith start, if_neg (Nat.not_le.mpr long)]
  · rcases readInteger_cases text with
      ⟨_, _, _, -, -, given⟩ | ⟨_, _, _, -, -, given⟩ | ⟨absent, given⟩
    · cases given.symm.trans read
    · cases given.symm.trans read
    · rw [given] at read
      cases read
      exact ⟨absent, rfl⟩
  · rintro ⟨absent, rfl⟩
    exact readInteger_of_absent absent
  · intro value blanks rest spelled blank stop short
    obtain ⟨n, written, digits, rfl⟩ := exists_decimal value
    have row : IsRow n.digits := by
      rw [digits]
      exact .of_isDigits (Json.isDigits_toDigits _)
    have start : StartsWith text.toList blanks n rest :=
      ⟨by simp [spelled, written, Integer.text], blank, row, stop⟩
    rw [readInteger_of_startsWith start, digits, if_pos short]

/-- A negative number past blanks of two scripts, with a suffix behind it. -/
theorem integer_read_past_blanks :
    (∀ c ∈ ['\u3000', '\t', ' '], Text.isBlank c = true) ∧
      (∀ c ∈ ['u', 'L', '7'].head?, Text.isDecimalDigit c = false) ∧
      (Nat.toDigits 10 (-9223372036854775809 : Int).natAbs).length ≤ 4300 ∧
      readInteger "\u3000\t -9223372036854775809uL7" = .ok (.integer (-9223372036854775809)) := by
  have blank : ∀ c ∈ ['\u3000', '\t', ' '], Text.isBlank c = true :=
    List.all_eq_true.mp (by decide)
  have stop : ∀ c ∈ ['u', 'L', '7'].head?, Text.isDecimalDigit c = false := by
    rintro _ ⟨⟩
    decide
  have short : (Nat.toDigits 10 (-9223372036854775809 : Int).natAbs).length ≤ 4300 := by decide
  have spelled : "\u3000\t -9223372036854775809uL7".toList =
      ['\u3000', '\t', ' '] ++ (Text.decimal (-9223372036854775809)).toList ++ ['u', 'L', '7'] := by
    decide
  exact ⟨blank, stop, short,
    (integer_read_by_grammar _).2.2.2 _ _ _ spelled blank stop short⟩

/-- Digits of two scripts make one number, and a sign alone makes none. -/
example : readInteger " +٤2x" = .ok (.integer 42) ∧ readInteger "- 1" = .ok (.double .nan) := by
  decide

end Literal

end CursorLift
