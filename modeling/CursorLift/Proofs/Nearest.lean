import CursorLift.Proofs.Rounding
import Mathlib.Algebra.Field.Rat
import Mathlib.Algebra.Order.Field.Rat
import Mathlib.Algebra.Order.Ring.Abs
import Mathlib.Data.Nat.Cast.Order.Ring
import Mathlib.Order.Monotone.Basic
import Mathlib.Tactic.FieldSimp
import Mathlib.Tactic.Positivity

/-! # The nearest magnitude

Magnitudes grow with their ranks, so the one that is nearest to a rational is one of the two around
it, and halfway between them it is the one of even rank. Rounding finds it, and the midpoints
between neighbours tell how far each rank reaches.
-/

namespace CursorLift.Binary64

/-! ## Magnitudes in order -/

theorem binade_eq : binade = 2 ^ 52 := rfl

theorem binade_pos : 0 < binade := Nat.two_pow_pos 52

theorem units_of_lt {rank : Nat} (low : rank < binade) : units rank = rank := by
  rw [units, if_pos (Nat.div_eq_of_lt low)]

theorem units_of_binade (e : Nat) {m : Nat} (less : m < binade) :
    units ((e + 1) * binade + m) = (binade + m) * 2 ^ e := by
  have quotient : ((e + 1) * binade + m) / binade = e + 1 := by
    rw [Nat.mul_comm, Nat.mul_add_div binade_pos, Nat.div_eq_of_lt less, Nat.add_zero]
  have rest : ((e + 1) * binade + m) % binade = m := by
    rw [Nat.mul_comm, Nat.mul_add_mod, Nat.mod_eq_of_lt less]
  rw [units, quotient, rest, if_neg (Nat.succ_ne_zero e), Nat.add_sub_cancel]
  rfl

theorem units_shift {shift m : Nat} (full : shift = 0 ∨ binade ≤ m) (fits : m ≤ 2 * binade) :
    units (shift * binade + m) = m * 2 ^ shift := by
  rcases Nat.lt_or_ge m binade with low | high
  · obtain rfl : shift = 0 := by omega
    simp [units_of_lt low]
  · obtain ⟨k, rfl⟩ := Nat.exists_eq_add_of_le high
    rcases Nat.lt_or_ge k binade with less | last
    · have place : shift * binade + (binade + k) = (shift + 1) * binade + k := by ring
      rw [place, units_of_binade shift less]
    · obtain rfl : k = binade := by omega
      have place : shift * binade + (binade + binade) = (shift + 1 + 1) * binade + 0 := by ring
      rw [place, units_of_binade (shift + 1) binade_pos]
      ring

theorem exists_shift (rank : Nat) : ∃ shift m, (shift = 0 ∨ binade ≤ m) ∧ m < 2 * binade ∧
    rank = shift * binade + m := by
  have whole := Nat.div_add_mod rank binade
  have less := Nat.mod_lt rank binade_pos
  cases quotient : rank / binade with
  | zero => exact ⟨0, rank, .inl rfl, by simp_all; omega, by simp⟩
  | succ e =>
      refine ⟨e, binade + rank % binade, .inr (Nat.le_add_right _ _), by omega, ?_⟩
      rw [quotient] at whole
      linarith

theorem units_strictMono : StrictMono units := by
  apply strictMono_nat_of_lt_succ
  intro rank
  obtain ⟨shift, m, full, fits, rfl⟩ := exists_shift rank
  rw [units_shift full fits.le, Nat.add_assoc, units_shift (by omega) (by omega)]
  exact Nat.mul_lt_mul_of_pos_right (Nat.lt_succ_self m) (Nat.two_pow_pos shift)

/-! ## The nearest rank -/

/-- The rank whose magnitude is nearest to a rational, the even one of two such ranks. -/
structure Nearest (x : ℚ) (rank : Nat) : Prop where
  near : ∀ other, |(units rank : ℚ) - x| ≤ |(units other : ℚ) - x|
  even : ∀ other, |(units other : ℚ) - x| = |(units rank : ℚ) - x| → other ≠ rank → Even rank

variable {x : ℚ} {rank : Nat}

theorem abs_sub_le_abs_sub_iff {a b : ℚ} (less : a < b) :
    (|a - x| ≤ |b - x| ↔ 2 * x ≤ a + b) ∧ (|b - x| ≤ |a - x| ↔ a + b ≤ 2 * x) := by
  have gap : 0 < b - a := sub_pos.mpr less
  have before : (b - x) ^ 2 - (a - x) ^ 2 = (b - a) * (a + b - 2 * x) := by ring
  have behind : (a - x) ^ 2 - (b - x) ^ 2 = (b - a) * (2 * x - (a + b)) := by ring
  constructor
  · rw [← sq_le_sq, ← sub_nonneg, before, mul_nonneg_iff_of_pos_left gap, sub_nonneg]
  · rw [← sq_le_sq, ← sub_nonneg, behind, mul_nonneg_iff_of_pos_left gap, sub_nonneg]

theorem abs_sub_eq_abs_sub_iff {a b : ℚ} (less : a < b) : |b - x| = |a - x| ↔ 2 * x = a + b := by
  obtain ⟨first, second⟩ := @abs_sub_le_abs_sub_iff x a b less
  rw [le_antisymm_iff, le_antisymm_iff, first, second, and_comm]

theorem units_lt {other : Nat} (less : rank < other) : (units rank : ℚ) < units other :=
  Nat.cast_lt.mpr (units_strictMono less)

/-- The nearest rank is the one between the midpoints to all others. -/
theorem nearest_iff : Nearest x rank ↔
    (∀ other < rank, (units other + units rank : ℚ) ≤ 2 * x ∧
      (2 * x = units other + units rank → Even rank)) ∧
    ∀ other > rank, 2 * x ≤ (units rank + units other : ℚ) ∧
      (2 * x = units rank + units other → Even rank) := by
  constructor
  · rintro ⟨near, even⟩
    refine ⟨fun other less => ⟨?_, fun same => ?_⟩, fun other greater => ⟨?_, fun same => ?_⟩⟩
    · exact (abs_sub_le_abs_sub_iff (units_lt less)).2.mp (near other)
    · exact even other ((abs_sub_eq_abs_sub_iff (units_lt less)).mpr same).symm less.ne
    · exact (abs_sub_le_abs_sub_iff (units_lt greater)).1.mp (near other)
    · exact even other ((abs_sub_eq_abs_sub_iff (units_lt greater)).mpr same) greater.ne'
  · rintro ⟨low, high⟩
    refine ⟨fun other => ?_, fun other same different => ?_⟩
    · rcases lt_trichotomy other rank with less | rfl | greater
      · exact (abs_sub_le_abs_sub_iff (units_lt less)).2.mpr (low other less).1
      · exact le_rfl
      · exact (abs_sub_le_abs_sub_iff (units_lt greater)).1.mpr (high other greater).1
    · rcases lt_or_gt_of_ne different with less | greater
      · exact (low other less).2 ((abs_sub_eq_abs_sub_iff (units_lt less)).mp same.symm)
      · exact (high other greater).2 ((abs_sub_eq_abs_sub_iff (units_lt greater)).mp same)

/-- A rank reaches to the midpoint behind it, and has the midpoint when it is even. -/
theorem Nearest.le_iff (nearest : Nearest x rank) (bound : Nat) :
    rank ≤ bound ↔ 2 * x < units bound + units (bound + 1) ∨
      2 * x = units bound + units (bound + 1) ∧ Even bound := by
  obtain ⟨low, high⟩ := nearest_iff.mp nearest
  constructor
  · intro within
    obtain ⟨reach, even⟩ := high (bound + 1) (Nat.lt_succ_of_le within)
    rcases within.eq_or_lt with rfl | less
    · exact reach.lt_or_eq.imp_right fun same => ⟨same, even same⟩
    · have := units_lt less
      exact .inl (by linarith)
  · intro midpoint
    by_contra beyond
    obtain ⟨reach, even⟩ := low bound (Nat.lt_of_not_le beyond)
    rcases (Nat.succ_le_of_lt (Nat.lt_of_not_le beyond)).eq_or_lt with rfl | greater
    · rcases midpoint with less | ⟨same, bounds⟩
      · linarith
      · exact absurd (even same) (Nat.not_even_iff_odd.mpr bounds.add_one)
    · have := units_lt greater
      rcases midpoint with less | ⟨same, -⟩ <;> linarith

/-! ## Rounding -/

theorem significand_bounds (quotient : Nat) :
    (quotient.log2 - 52 = 0 ∨ binade ≤ quotient / 2 ^ (quotient.log2 - 52)) ∧
      quotient / 2 ^ (quotient.log2 - 52) < 2 * binade := by
  have above : quotient < 2 ^ (quotient.log2 + 1) := Nat.lt_log2_self
  constructor
  · by_cases small : quotient.log2 - 52 = 0
    · exact .inl small
    · right
      have positive : quotient ≠ 0 := by
        rintro rfl
        exact small rfl
      rw [Nat.le_div_iff_mul_le (Nat.two_pow_pos _), binade_eq, ← Nat.pow_add]
      have split : 52 + (quotient.log2 - 52) = quotient.log2 := by omega
      rw [split]
      exact Nat.log2_self_le positive
  · rw [Nat.div_lt_iff_lt_mul (Nat.two_pow_pos _), binade_eq]
    calc quotient < 2 ^ (quotient.log2 + 1) := above
      _ ≤ 2 ^ (1 + 52 + (quotient.log2 - 52)) := Nat.pow_le_pow_right (by decide) (by omega)
      _ = 2 * 2 ^ 52 * 2 ^ (quotient.log2 - 52) := by rw [Nat.pow_add, Nat.pow_add, Nat.pow_one]

theorem Nearest.of_low (low : units rank ≤ x) (near : 2 * x ≤ units rank + units (rank + 1))
    (even : 2 * x = units rank + units (rank + 1) → Even rank) : Nearest x rank := by
  refine nearest_iff.mpr ⟨fun other less => ?_, fun other greater => ?_⟩
  · have := units_lt less
    exact ⟨by linarith, fun same => by linarith⟩
  · have : (units (rank + 1) : ℚ) ≤ units other :=
      Nat.cast_le.mpr (units_strictMono.monotone greater)
    exact ⟨by linarith, fun same => even (by linarith)⟩

theorem Nearest.of_high (high : x ≤ units (rank + 1)) (near : units rank + units (rank + 1) ≤ 2 * x)
    (even : 2 * x = units rank + units (rank + 1) → Even (rank + 1)) : Nearest x (rank + 1) := by
  refine nearest_iff.mpr ⟨fun other less => ?_, fun other greater => ?_⟩
  · have : (units other : ℚ) ≤ units rank :=
      Nat.cast_le.mpr (units_strictMono.monotone (Nat.le_of_lt_succ less))
    exact ⟨by linarith, fun same => even (by linarith)⟩
  · have := units_lt greater
    exact ⟨by linarith, fun same => by linarith⟩

theorem even_shift (shift m : Nat) : Even (shift * binade + m) ↔ Even m := by
  have even : Even (shift * binade) := (by decide : Even binade).mul_left shift
  simp [Nat.even_add, even]

section Rest

variable {shift m : Nat} {rest : ℚ} (full : shift = 0 ∨ binade ≤ m) (fits : m < 2 * binade)

include full fits

theorem units_neighbours : (units (shift * binade + m) : ℚ) = m * 2 ^ shift ∧
    (units (shift * binade + m + 1) : ℚ) = m * 2 ^ shift + 2 ^ shift := by
  constructor
  · rw [units_shift full fits.le]
    push_cast
    rfl
  · rw [Nat.add_assoc, units_shift (by omega) (by omega)]
    push_cast
    ring

theorem nearest_of_rest_lt (low : 0 ≤ rest) (less : 2 * rest < 2 ^ shift) :
    Nearest (m * 2 ^ shift + rest) (shift * binade + m) := by
  obtain ⟨lower, upper⟩ := units_neighbours full fits
  apply Nearest.of_low <;> rw [lower]
  · linarith
  · rw [upper]
    linarith
  · rw [upper]
    intro same
    linarith

theorem nearest_of_lt_rest (high : rest ≤ 2 ^ shift) (greater : 2 ^ shift < 2 * rest) :
    Nearest (m * 2 ^ shift + rest) (shift * binade + (m + 1)) := by
  obtain ⟨lower, upper⟩ := units_neighbours full fits
  rw [← Nat.add_assoc]
  apply Nearest.of_high <;> rw [upper]
  · linarith
  · rw [lower]
    linarith
  · rw [lower]
    intro same
    linarith

theorem nearest_of_half (half : 2 * rest = 2 ^ shift) :
    Nearest (m * 2 ^ shift + rest) (shift * binade + (m + m % 2)) := by
  obtain ⟨lower, upper⟩ := units_neighbours full fits
  have positive : (0 : ℚ) < 2 ^ shift := by positivity
  rcases Nat.mod_two_eq_zero_or_one m with even | odd
  · rw [even, Nat.add_zero]
    apply Nearest.of_low
    · rw [lower]
      linarith
    · rw [lower, upper]
      linarith
    · intro _
      exact (even_shift shift m).mpr (Nat.even_iff.mpr even)
  · rw [odd, ← Nat.add_assoc]
    apply Nearest.of_high
    · rw [upper]
      linarith
    · rw [lower, upper]
      linarith
    · intro _
      rw [Nat.add_assoc, even_shift]
      exact (Nat.odd_iff.mpr odd).add_one

end Rest

/-- Rounding finds the nearest rank: the rest of the division tells on which side of the midpoint
a quotient is. -/
theorem nearestRank_nearest {numerator denominator : Nat} (positive : 0 < denominator) :
    Nearest (numerator / denominator : ℚ) (nearestRank numerator denominator) := by
  obtain ⟨full, fits⟩ := significand_bounds (numerator / denominator)
  rw [nearestRank]
  generalize (numerator / denominator).log2 - 52 = shift at *
  show Nearest _ (shift * binade + roundDiv numerator (denominator * 2 ^ shift))
  rw [Nat.div_div_eq_div_mul] at full fits
  have whole := Nat.div_add_mod numerator (denominator * 2 ^ shift)
  have less := Nat.mod_lt numerator (Nat.mul_pos positive (Nat.two_pow_pos shift))
  rw [roundDiv]
  generalize numerator / (denominator * 2 ^ shift) = m at *
  generalize numerator % (denominator * 2 ^ shift) = r at *
  subst whole
  have divisor : (0 : ℚ) < denominator := Nat.cast_pos.mpr positive
  have scaled (k : Nat) :
      (k * (r / denominator) < (2 : ℚ) ^ shift ↔ k * r < denominator * 2 ^ shift) ∧
        ((2 : ℚ) ^ shift < k * (r / denominator) ↔ denominator * 2 ^ shift < k * r) := by
    rw [mul_div_assoc', div_lt_iff₀ divisor, lt_div_iff₀ divisor, mul_comm ((2 : ℚ) ^ shift)]
    exact ⟨by exact_mod_cast Iff.rfl, by exact_mod_cast Iff.rfl⟩
  have quotient : ((denominator * 2 ^ shift * m + r : Nat) / denominator : ℚ) =
      m * 2 ^ shift + r / denominator := by
    push_cast
    field_simp
  rw [quotient]
  split
  · next low => exact nearest_of_rest_lt full fits (by positivity) ((scaled 2).1.mpr low)
  · next high =>
      split
      · next low =>
          refine nearest_of_lt_rest full fits ?_ ((scaled 2).2.mpr low)
          have := (scaled 1).1.mpr (by rwa [Nat.one_mul])
          rw [Nat.cast_one, one_mul] at this
          exact this.le
      · next low =>
          apply nearest_of_half full fits
          apply le_antisymm
          · exact not_lt.mp fun h => low ((scaled 2).2.mp h)
          · exact not_lt.mp fun h => high ((scaled 2).1.mp h)

/-! ## The ends of the range -/

theorem Nearest.eq_zero_iff (nearest : Nearest x rank) : rank = 0 ↔ 2 * x ≤ 1 := by
  have first : units 0 = 0 := rfl
  have second : units (0 + 1) = 1 := units_of_lt (by decide)
  rw [← Nat.le_zero, nearest.le_iff 0, first, second, le_iff_lt_or_eq]
  simp

/-- The last finite magnitude is half a step below the midpoint from which on all is infinite. -/
theorem Nearest.ranks_le_iff (nearest : Nearest x rank) :
    ranks ≤ rank ↔ (2 ^ 1024 - 2 ^ 970) * unitsInOne ≤ x := by
  obtain ⟨k, places, units⟩ := unitsInOne_eq
  have last : ranks = (971 + k) * binade + (2 * binade - 1) + 1 := by
    rw [places, ranks]
    have := binade_pos
    omega
  have full : 971 + k = 0 ∨ binade ≤ 2 * binade - 1 := .inr (by decide)
  obtain ⟨lower, upper⟩ := units_neighbours full (by decide : 2 * binade - 1 < 2 * binade)
  have odd : ¬Even ((971 + k) * binade + (2 * binade - 1)) := by
    rw [even_shift]
    decide
  have significand : ((2 * binade - 1 : Nat) : ℚ) = 2 ^ 53 - 1 := by
    rw [show 2 * binade - 1 = 9007199254740991 from rfl]
    norm_num
  have step : (2 : ℚ) ^ (971 + k) = 2 * 2 ^ 970 * 2 ^ k := by
    rw [pow_add, pow_succ']
  have top : (2 : ℚ) ^ 1024 = 2 ^ 54 * 2 ^ 970 := pow_add 2 54 970
  rw [last, Nat.succ_le_iff, ← not_le, nearest.le_iff, upper, lower, significand, step, top, units]
  simp only [odd, and_false, or_false, not_lt]
  push_cast
  generalize (2 : ℚ) ^ 970 = p
  generalize (2 : ℚ) ^ k = one
  constructor <;> intro bound <;> linarith

/-- A decimal is rounded to the rank nearest to it, or to infinity when the last rank is below. -/
theorem ofDecimal_nearest (negative : Bool) (significand : Nat) (exponent : Int) :
    ∃ rank, Nearest (significand * 10 ^ exponent * unitsInOne) rank ∧
      (ofDecimal negative significand exponent).word? =
        some (signBit negative + min rank ranks) := by
  have positive : 0 < 10 ^ (-exponent).toNat := Nat.pow_pos (by decide)
  have quotient : ((significand * 10 ^ exponent.toNat * unitsInOne : Nat) /
      (10 ^ (-exponent).toNat : Nat) : ℚ) = significand * 10 ^ exponent * unitsInOne := by
    have power : (10 : ℚ) ^ exponent = 10 ^ exponent.toNat / 10 ^ (-exponent).toNat := by
      rw [← zpow_natCast, ← zpow_natCast, ← zpow_sub₀ (by norm_num), Int.toNat_sub_toNat_neg]
    rw [power]
    push_cast
    ring
  refine ⟨_, quotient ▸ nearestRank_nearest positive, ?_⟩
  rw [ofDecimal_eq_ofUnits, ofUnits]
  split
  · next finite => rw [word?, min_eq_left finite.le]
  · next beyond => rw [word?, min_eq_right (not_lt.mp beyond)]

end CursorLift.Binary64
