import CursorLift.Json.Token
import Mathlib.Data.List.Basic
import Mathlib.Data.Nat.Digits.Defs

/-! # Rows of decimal digits

Numbers are written with ASCII digits and read with those of every script. Here the two are
brought together: a row of digits is read as the number that it was written for, zeros around it
count as they should, and an integer comes back from the token that writes it.
-/

namespace CursorLift

namespace Text

variable {c : Char} {digits : List Char}

theorem isDigit_iff : c.isDigit = true ↔ 48 ≤ c.toNat ∧ c.toNat ≤ 57 := by
  rw [Char.isDigit, Bool.and_eq_true, decide_eq_true_eq, decide_eq_true_eq]
  exact and_congr UInt32.le_iff_toNat_le UInt32.le_iff_toNat_le

theorem digitValue?_of_isDigit (h : c.isDigit = true) : digitValue? c = some (c.toNat - 48) := by
  obtain ⟨low, high⟩ := isDigit_iff.mp h
  simp [digitValue?, decimalZeros, low, high]

theorem isDecimalDigit_of_isDigit (h : c.isDigit = true) : isDecimalDigit c = true := by
  rw [isDecimalDigit, digitValue?_of_isDigit h]
  rfl

theorem digitValue_of_isDigit (h : c.isDigit = true) : digitValue c = c.toNat - 48 := by
  rw [digitValue, digitValue?_of_isDigit h]
  rfl

theorem digitsValue_eq_ofDigitChars (h : ∀ c ∈ digits, c.isDigit = true) :
    digitsValue digits = Nat.ofDigitChars 10 digits 0 := by
  rw [digitsValue, Nat.ofDigitChars_eq_foldl]
  apply List.foldl_ext
  intro value c member
  rw [digitValue_of_isDigit (h c member)]
  rfl

theorem isDigit_of_mem_toDigits {n : Nat} (h : c ∈ Nat.toDigits 10 n) : c.isDigit = true :=
  Nat.isDigit_of_mem_toDigits (by decide) (by decide) h

@[simp] theorem digitsValue_toDigits (n : Nat) : digitsValue (Nat.toDigits 10 n) = n := by
  rw [digitsValue_eq_ofDigitChars fun c => isDigit_of_mem_toDigits]
  exact Nat.ofDigitChars_toDigits (by decide) (by decide)

theorem digitsValue_append_zeros (digits : List Char) (zeros : Nat) :
    digitsValue (digits ++ List.replicate zeros '0') = digitsValue digits * 10 ^ zeros := by
  induction zeros with
  | zero => simp
  | succ zeros ih =>
      have last : digitValue '0' = 0 := by decide
      rw [List.replicate_succ', ← List.append_assoc, digitsValue, List.foldl_append,
        ← digitsValue, ih]
      simp only [List.foldl_cons, List.foldl_nil, last]
      ring

theorem digitsValue_zeros_append (zeros : Nat) (digits : List Char) :
    digitsValue (List.replicate zeros '0' ++ digits) = digitsValue digits := by
  induction zeros with
  | zero => rfl
  | succ zeros ih =>
      have first : digitValue '0' = 0 := by decide
      rw [← ih, List.replicate_succ, List.cons_append, digitsValue, List.foldl_cons, first]
      rfl

theorem head_toDigits_ne_zero {n : Nat} (positive : 0 < n) :
    (Nat.toDigits 10 n).head? ≠ some '0' := by
  induction n using Nat.strongRecOn with
  | ind n ih =>
      by_cases small : n < 10
      · rw [Nat.toDigits_of_lt_base small, List.head?_cons]
        intro zero
        have zero := Nat.digitChar_eq_zero.mp (Option.some.inj zero)
        omega
      · have large : 10 ≤ n := Nat.not_lt.mp small
        have shorter := ih (n / 10) (by omega) (by omega)
        rw [Nat.toDigits_of_base_le (by decide) large, List.head?_append]
        cases first : (Nat.toDigits 10 (n / 10)).head? with
        | none => exact absurd (List.head?_eq_none_iff.mp first) Nat.toDigits_ne_nil
        | some c =>
            rw [first] at shorter
            exact shorter

end Text

/-! ## Integers -/

namespace Json

theorem natural?_toDigits (n : Nat) : natural? (Nat.toDigits 10 n) = some n := by
  have all : (Nat.toDigits 10 n).all Char.isDigit = true := by
    rw [List.all_eq_true]
    exact fun c member => Text.isDigit_of_mem_toDigits member
  simp [natural?, all, Nat.toDigits_ne_nil]

theorem int?_of_digits {digits : List Char} (all : ∀ c ∈ digits, c.isDigit = true) :
    (number (String.ofList digits)).int? = (natural? digits).map fun value => (value : Int) := by
  rw [int?, String.toList_ofList]
  split
  · next rest =>
      have digit := all '-' List.mem_cons_self
      exact absurd digit (by decide)
  · rfl

/-- An integer of any size is read back from the token that writes it. -/
theorem int?_ofInt (value : Int) : (ofInt value).int? = some value := by
  cases value with
  | ofNat n =>
      rw [ofInt, Text.decimal, int?_of_digits fun c => Text.isDigit_of_mem_toDigits,
        natural?_toDigits]
      rfl
  | negSucc n =>
      rw [ofInt, Text.decimal, int?, String.toList_ofList]
      simp only [natural?_toDigits]
      rfl

/-! ## Numbers -/

/-- Whether a text is a row of ASCII digits. -/
structure IsDigits (text : List Char) : Prop where
  nonempty : text ≠ []
  all : ∀ c ∈ text, c.isDigit = true

theorem isDigits_toDigits (n : Nat) : IsDigits (Nat.toDigits 10 n) :=
  ⟨Nat.toDigits_ne_nil, fun _ => Text.isDigit_of_mem_toDigits⟩

theorem IsDigits.ne_of_mem {text : List Char} (h : IsDigits text) {c d : Char} (member : c ∈ text)
    (other : d.isDigit = false) : c ≠ d := by
  rintro rfl
  have digit := h.all c member
  simp [other] at digit

section Front

variable {p : Char → Bool} {front rest : List Char}

theorem takeWhile_front (all : ∀ c ∈ front, p c = true) (stop : ∀ c ∈ rest.head?, p c = false) :
    (front ++ rest).takeWhile p = front := by
  rw [List.takeWhile_append_of_pos all]
  cases rest with
  | nil => simp
  | cons c rest => simp [stop c rfl]

theorem dropWhile_front (all : ∀ c ∈ front, p c = true) (stop : ∀ c ∈ rest.head?, p c = false) :
    (front ++ rest).dropWhile p = rest := by
  rw [List.dropWhile_append_of_pos all]
  cases rest with
  | nil => simp
  | cons c rest => simp [stop c rfl]

end Front

variable {digits rest : List Char}

theorem dropDigits?_append (h : IsDigits digits) (stop : ∀ c ∈ rest.head?, c.isDigit = false) :
    dropDigits? (digits ++ rest) = some rest := by
  rw [dropDigits?, takeWhile_front h.all stop, dropWhile_front h.all stop]
  simp [h.nonempty]

theorem dropWhole?_append (h : IsDigits digits) (lead : digits.head? = some '0' → digits = ['0'])
    (stop : ∀ c ∈ rest.head?, c.isDigit = false) : dropWhole? (digits ++ rest) = some rest := by
  cases digits with
  | nil => exact absurd rfl h.nonempty
  | cons d more =>
      by_cases zero : d = '0'
      · have single := lead (by rw [zero]; rfl)
        rw [single]
        rfl
      · have general : dropWhole? (d :: more ++ rest) = dropDigits? (d :: more ++ rest) := by
          rw [List.cons_append]
          unfold dropWhole?
          split
          · next same => simp_all
          · rfl
        rw [general]
        exact dropDigits?_append h stop

theorem isNumber_signed {text : List Char} (unsigned : text.head? ≠ some '-') (negative : Bool) :
    isNumber (if negative then '-' :: text else text) =
      ((((dropWhole? text).bind dropFraction?).bind dropExponent?) == some []) := by
  cases negative with
  | true => rfl
  | false =>
      rw [if_neg (by decide), isNumber.eq_def]
      split
      · exact absurd rfl unsigned
      · rfl

/-- The token of an integer is a number. -/
theorem isNumber_decimal (value : Int) : isNumber (Text.decimal value).toList = true := by
  have whole (n : Nat) (negative : Bool) : isNumber
      (if negative then '-' :: Nat.toDigits 10 n else Nat.toDigits 10 n) = true := by
    have plain := isDigits_toDigits n
    have unsigned : (Nat.toDigits 10 n).head? ≠ some '-' := by
      intro first
      exact plain.ne_of_mem (List.mem_of_mem_head? first) (by decide) rfl
    have dropped : dropWhole? (Nat.toDigits 10 n ++ []) = some [] := by
      apply dropWhole?_append plain ?_ (by simp)
      intro zero
      cases n with
      | zero => rfl
      | succ n => exact absurd zero (Text.head_toDigits_ne_zero n.succ_pos)
    rw [List.append_nil] at dropped
    rw [isNumber_signed unsigned, dropped]
    rfl
  cases value with
  | ofNat n =>
      rw [Text.decimal, String.toList_ofList]
      exact whole n false
  | negSucc n =>
      rw [Text.decimal, String.toList_ofList]
      exact whole (n + 1) true

end Json

end CursorLift
