import CursorLift.Proofs.Nearest
import CursorLift.Proofs.Prefixes

/-! # The words of doubles

A word of 64 bits has a sign, an exponent and a fraction, and encodes a rational unless all bits of
the exponent are set. The number that is read from a floating numeral has the word that encodes the
rational nearest to what the numeral denotes.
-/

namespace CursorLift

namespace Binary64

/-! ## Fields -/

namespace Word

def exponent (word : BitVec 64) : Nat := (word.extractLsb' 52 11).toNat

def fraction (word : BitVec 64) : Nat := (word.extractLsb' 0 52).toNat

/-- The fraction with its leading bit, which only the least exponent lacks. -/
def significand (word : BitVec 64) : Nat :=
  if exponent word = 0 then fraction word else 2 ^ 52 + fraction word

def factor (negative : Bool) : ℚ := if negative then -1 else 1

/-- The rational that a word encodes. -/
def number? (word : BitVec 64) : Option ℚ :=
  if exponent word = 2047 then none
  else some (factor word.msb * significand word * 2 ^ ((max (exponent word) 1 : Nat) - 1075 : ℤ))

/-- A word encodes what a rational with a sign is rounded to: the nearest number, of two numbers as
near the one with the even significand. The sign is kept in a zero and in an infinity. -/
structure Rounds (negative : Bool) (q : ℚ) (word : BitVec 64) : Prop where
  sign : word.msb = negative
  infinite : exponent word = 2047 ∧ fraction word = 0 ↔ 2 ^ 1024 - 2 ^ 970 ≤ |q|
  zero : exponent word = 0 ∧ fraction word = 0 ↔ |q| ≤ 2 ^ (-1075 : ℤ)
  number : ¬(exponent word = 2047 ∧ fraction word ≠ 0)
  near : ∀ value ∈ number? word, ∀ other, ∀ v ∈ number? other, |value - q| ≤ |v - q|
  even : ∀ value ∈ number? word, ∀ other, ∀ v ∈ number? other,
    |v - q| = |value - q| → v ≠ value → Even (significand word)

/-! ## Ranks -/

/-- What stands behind the sign. -/
def rank (word : BitVec 64) : Nat := word.toNat % 2 ^ 63

variable {word : BitVec 64}

theorem rank_lt (word : BitVec 64) : rank word < 2 ^ 63 := Nat.mod_lt _ (by decide)

theorem fields_of_toNat {negative : Bool} {r : Nat} (less : r < 2 ^ 63)
    (encoded : word.toNat = signBit negative + r) : word.msb = negative ∧ rank word = r := by
  rw [BitVec.msb_eq_decide, rank, encoded, signBit]
  cases negative
  · simp; omega
  · simp; omega

theorem exists_of_fields (negative : Bool) {r : Nat} (less : r < 2 ^ 63) :
    ∃ word : BitVec 64, word.toNat = signBit negative + r := by
  refine ⟨BitVec.ofNat 64 (signBit negative + r), ?_⟩
  have sign : signBit negative ≤ 2 ^ 63 := by cases negative <;> decide
  rw [BitVec.toNat_ofNat, Nat.mod_eq_of_lt (by omega)]

theorem exponent_eq (word : BitVec 64) : exponent word = rank word / binade := by
  rw [exponent, BitVec.extractLsb'_toNat, Nat.shiftRight_eq_div_pow, rank, binade_eq]
  omega

theorem fraction_eq (word : BitVec 64) : fraction word = rank word % binade := by
  rw [fraction, BitVec.extractLsb'_toNat, Nat.shiftRight_zero, rank, binade_eq]
  omega

theorem units_rank (word : BitVec 64) :
    units (rank word) = significand word * 2 ^ (exponent word - 1) := by
  have whole := Nat.div_add_mod (rank word) binade
  rw [units, significand, exponent_eq, fraction_eq]
  split
  · next first =>
      rw [first, Nat.mul_zero, Nat.zero_add] at whole
      simp [first, whole]
  · next => rfl

theorem even_significand_iff (word : BitVec 64) : Even (significand word) ↔ Even (rank word) := by
  rw [significand, fraction_eq, binade_eq, Nat.even_iff, Nat.even_iff]
  split <;> omega

theorem ranks_le_rank_iff (word : BitVec 64) : ranks ≤ rank word ↔ exponent word = 2047 := by
  have less := rank_lt word
  rw [exponent_eq, ranks, binade_eq]
  omega

theorem infinite_iff (word : BitVec 64) :
    exponent word = 2047 ∧ fraction word = 0 ↔ rank word = ranks := by
  rw [exponent_eq, fraction_eq, ranks, binade_eq]
  omega

theorem zero_iff (word : BitVec 64) : exponent word = 0 ∧ fraction word = 0 ↔ rank word = 0 := by
  rw [exponent_eq, fraction_eq, binade_eq]
  omega

theorem number?_eq_some_iff {value : ℚ} : number? word = some value ↔
    rank word < ranks ∧ factor word.msb * (units (rank word) / unitsInOne) = value := by
  obtain ⟨k, places, one⟩ := unitsInOne_eq
  have scale : ((max (exponent word) 1 : Nat) - 1075 : ℤ) =
      (exponent word - 1 : Nat) - (k : Nat) := by omega
  have magnitude : (significand word : ℚ) * 2 ^ ((max (exponent word) 1 : Nat) - 1075 : ℤ) =
      units (rank word) / unitsInOne := by
    rw [scale, zpow_sub₀ two_ne_zero, zpow_natCast, zpow_natCast, units_rank, one]
    push_cast
    ring
  rw [← not_le, ranks_le_rank_iff, number?, mul_assoc, magnitude]
  split
  · next top => exact ⟨nofun, fun finite => absurd top finite.1⟩
  · next finite => rw [Option.some.injEq, and_iff_right finite]

/-! ## Distances -/

theorem unitsInOne_pos : (0 : ℚ) < unitsInOne := by
  obtain ⟨k, -, one⟩ := unitsInOne_eq
  rw [one]
  exact Nat.cast_pos.mpr (Nat.two_pow_pos k)

theorem factor_not (negative : Bool) : factor (!negative) = -factor negative := by
  cases negative <;> simp [factor]

theorem abs_factor_mul (negative : Bool) (a : ℚ) : |factor negative * a| = |a| := by
  cases negative <;> simp [factor]

variable {a : ℚ}

theorem abs_sub_scaled (u : Nat) :
    |(u / unitsInOne : ℚ) - a| = |u - a * unitsInOne| / unitsInOne := by
  have positive := unitsInOne_pos
  rw [← abs_of_pos positive, ← abs_div, abs_of_pos positive, sub_div, mul_div_cancel_right₀]
  exact positive.ne'

theorem distance_eq (negative : Bool) (u : Nat) :
    |factor negative * (u / unitsInOne) - factor negative * a| =
      |u - a * unitsInOne| / unitsInOne := by
  rw [← mul_sub, abs_factor_mul, abs_sub_scaled]

theorem distance_le (nonneg : 0 ≤ a) (negative other : Bool) (u : Nat) :
    |u - a * unitsInOne| / unitsInOne ≤
      |factor other * (u / unitsInOne) - factor negative * a| := by
  have apart := abs_abs_sub_abs_le (factor other * (u / unitsInOne)) (factor negative * a)
  have magnitude : (0 : ℚ) ≤ u / unitsInOne := div_nonneg (Nat.cast_nonneg u) unitsInOne_pos.le
  rwa [abs_factor_mul, abs_factor_mul, abs_of_nonneg magnitude, abs_of_nonneg nonneg,
    abs_sub_scaled] at apart

theorem eq_zero_of_distance_eq {negative other : Bool} {v : ℚ}
    (same : |factor other * v - factor negative * a| = |factor negative * v - factor negative * a|)
    (different : factor other * v ≠ factor negative * v) : a = 0 := by
  have nonzero : v ≠ 0 := by
    rintro rfl
    simp at different
  have opposite : other = !negative := by
    cases other <;> cases negative <;> simp_all
  have sum : factor (!negative) * v - factor negative * a = -(factor negative * (v + a)) := by
    rw [factor_not]
    ring
  rw [opposite, sum, abs_neg, ← mul_sub, abs_factor_mul, abs_factor_mul] at same
  have squares := (sq_eq_sq_iff_abs_eq_abs _ _).mpr same
  have product : v * a = 0 := by linarith
  exact (mul_eq_zero.mp product).resolve_left nonzero

/-! ## Rounding -/

theorem half_unit : (2 : ℚ) ^ (-1075 : ℤ) = 1 / (2 * unitsInOne) := by
  obtain ⟨k, places, one⟩ := unitsInOne_eq
  have exponent : (-1075 : ℤ) = -(k + 1 : Nat) := by omega
  rw [exponent, zpow_neg, zpow_natCast, one, pow_succ']
  simp

theorem rounds_of_nearest {negative : Bool} {r : Nat} (nonneg : 0 ≤ a)
    (nearest : Nearest (a * unitsInOne) r)
    (encoded : word.toNat = signBit negative + min r ranks) :
    Rounds negative (factor negative * a) word := by
  have positive := unitsInOne_pos
  have bounds : ranks < 2 ^ 63 := by decide
  obtain ⟨sign, reached⟩ := fields_of_toNat (by omega) encoded
  have magnitude : |factor negative * a| = a := by rw [abs_factor_mul, abs_of_nonneg nonneg]
  -- A number is finite only where no rank is cut off.
  have finite {value : ℚ} (given : number? word = some value) :
      rank word = r ∧ factor negative * (units r / unitsInOne) = value := by
    obtain ⟨less, spelled⟩ := number?_eq_some_iff.mp given
    have same : rank word = r := by omega
    rw [same, sign] at spelled
    exact ⟨same, spelled⟩
  constructor
  case sign => exact sign
  case infinite =>
    rw [magnitude, infinite_iff, reached, min_eq_right_iff, nearest.ranks_le_iff,
      mul_le_mul_iff_of_pos_right positive]
  case zero =>
    have some : 0 < ranks := by decide
    have least : min r ranks = 0 ↔ r = 0 := by omega
    rw [magnitude, zero_iff, reached, least, nearest.eq_zero_iff, half_unit,
      le_div_iff₀ (mul_pos two_pos positive), mul_left_comm]
  case number =>
    rintro ⟨top, odd⟩
    rw [← ranks_le_rank_iff, reached, le_min_iff] at top
    have infinite := (infinite_iff word).mpr (reached.trans (min_eq_right top.1))
    exact odd infinite.2
  case near =>
    intro value given other v among
    obtain ⟨-, rfl⟩ := finite given
    obtain ⟨-, rfl⟩ := number?_eq_some_iff.mp among
    rw [distance_eq]
    refine le_trans ?_ (distance_le nonneg _ _ _)
    exact div_le_div_of_nonneg_right (nearest.near _) positive.le
  case even =>
    intro value given other v among same different
    obtain ⟨own, rfl⟩ := finite given
    obtain ⟨-, rfl⟩ := number?_eq_some_iff.mp among
    rw [even_significand_iff, own]
    by_cases neighbour : rank other = r
    · rw [neighbour] at same different
      have zero : r = 0 := by
        rw [nearest.eq_zero_iff, eq_zero_of_distance_eq same different, zero_mul, mul_zero]
        exact zero_le_one
      rw [zero]
      exact .zero
    · refine nearest.even _ (le_antisymm ?_ (nearest.near _)) neighbour
      have apart := distance_le nonneg negative other.msb (units (rank other))
      rw [same, distance_eq] at apart
      exact (div_le_div_iff_of_pos_right positive).mp apart

end Word

end Binary64

namespace Literal

theorem Sign.factor_eq (sign : Option Sign) :
    (Sign.factor sign : ℚ) = Binary64.Word.factor (Sign.isNegative sign) := by
  rcases sign with _ | _ | _ <;> simp [Sign.factor, Binary64.Word.factor, Sign.isNegative]

/-- The number of a numeral is what the numeral denotes, rounded once. -/
theorem Floating.value_rounds (n : Floating) : ∃ word : BitVec 64,
    n.value.word? = some word.toNat ∧
      Binary64.Word.Rounds (Sign.isNegative n.sign) n.denoted word := by
  obtain ⟨rank, nearest, encoded⟩ := Binary64.ofDecimal_nearest (Sign.isNegative n.sign)
    n.mantissa.significand (Exponent.value n.exponent - n.mantissa.places)
  have bounds : Binary64.ranks < 2 ^ 63 := by decide
  obtain ⟨word, spelled⟩ := Binary64.Word.exists_of_fields (Sign.isNegative n.sign)
    (by omega : min rank Binary64.ranks < 2 ^ 63)
  refine ⟨word, by rw [spelled]; exact encoded, ?_⟩
  rw [Floating.denoted_eq, Sign.factor_eq]
  refine Binary64.Word.rounds_of_nearest ?_ nearest spelled
  exact mul_nonneg (Nat.cast_nonneg _) (zpow_nonneg (by norm_num) _)

/-- A text with a floating numeral at its front is read as the number nearest to the rational that
the longest such numeral denotes. -/
theorem floating_read_as_nearest (text : String) (front : List Char)
    (before : front <+: Text.dropBlanks text.toList) (member : front ∈ Grammar.floating) :
    ∃ (n : Floating) (word : BitVec 64),
      n.Proper ∧ Longest Grammar.floating (Text.dropBlanks text.toList) n.text ∧
        (readFloating text).word? = some word.toNat ∧
        Binary64.Word.Rounds (Sign.isNegative n.sign) n.denoted word := by
  obtain ⟨n, scanned, proper, longest⟩ := exists_scanned before member
  obtain ⟨word, encoded, rounds⟩ := n.value_rounds
  refine ⟨n, word, proper, longest, ?_, rounds⟩
  rw [readFloating_of_scan? scanned, encoded]

/-- A numeral halfway between two numbers, with digits of two scripts and an exponent. -/
theorem halfway_numeral_read_as_nearest :
    ['-', '9'] <+: Text.dropBlanks "\u2003-900719925474099٣.0e-0f".toList ∧
      ['-', '9'] ∈ Grammar.floating ∧
      ∃ (n : Floating) (word : BitVec 64), n.Proper ∧
        Longest Grammar.floating (Text.dropBlanks "\u2003-900719925474099٣.0e-0f".toList) n.text ∧
        (readFloating "\u2003-900719925474099٣.0e-0f").word? = some word.toNat ∧
        Binary64.Word.Rounds (Sign.isNegative n.sign) n.denoted word := by
  have before : ['-', '9'] <+: Text.dropBlanks "\u2003-900719925474099٣.0e-0f".toList := by decide
  have row : IsRow ['9'] := ⟨nofun, List.all_eq_true.mp (by decide)⟩
  have member : ['-', '9'] ∈ Grammar.floating :=
    mem_floating.mpr ⟨⟨some .minus, ⟨['9'], none⟩, none⟩, ⟨row, nofun⟩, rfl⟩
  exact ⟨before, member, floating_read_as_nearest _ _ before member⟩

/-- Zeros keep their sign, and a tie goes to the even significand. -/
example : (readFloating "-0.0").word? = some 0x8000000000000000 ∧
    (readFloating "9007199254740993").word? = some 0x4340000000000000 ∧
    (readFloating "9007199254740995").word? = some 0x4340000000000002 := by
  decide +kernel

end Literal

end CursorLift
