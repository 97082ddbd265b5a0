import CursorLift.Number.Shortest
import Mathlib.Tactic.Linarith
import Mathlib.Tactic.Ring

/-! # Rounding to the nearest double

A decimal is rounded through two shortcuts for exponents that decide alone. Without them, rounding
is one function of a quotient, and depends on nothing but the value of that quotient: zeros may be
moved between the digits and the exponent. Every double is nearest to itself, so its shortest
decimal reads back as it.
-/

namespace CursorLift

namespace Binary64

variable {numerator denominator : Nat}

theorem roundDiv_mul_left {factor : Nat} (positive : 0 < factor) (numerator denominator : Nat) :
    roundDiv (factor * numerator) (factor * denominator) = roundDiv numerator denominator := by
  have half : 2 * (factor * (numerator % denominator)) =
      factor * (2 * (numerator % denominator)) := by ring
  simp only [roundDiv, Nat.mul_div_mul_left _ _ positive, Nat.mul_mod_mul_left, half,
    Nat.mul_lt_mul_left positive]

theorem roundDiv_one (n : Nat) : roundDiv n 1 = n := by
  simp [roundDiv, Nat.mod_one]

theorem le_roundDiv (numerator denominator : Nat) :
    numerator / denominator ≤ roundDiv numerator denominator := by
  unfold roundDiv
  dsimp only
  split
  · exact Nat.le_refl _
  · split <;> omega

theorem nearestRank_mul_left {factor : Nat} (positive : 0 < factor) (numerator denominator : Nat) :
    nearestRank (factor * numerator) (factor * denominator) =
      nearestRank numerator denominator := by
  simp only [nearestRank, Nat.mul_div_mul_left _ _ positive, Nat.mul_assoc,
    roundDiv_mul_left positive]

theorem nearestRank_congr {n d n' d' : Nat} (positive : 0 < d) (positive' : 0 < d')
    (same : n * d' = n' * d) : nearestRank n d = nearestRank n' d' := by
  calc nearestRank n d = nearestRank (d' * n) (d' * d) := (nearestRank_mul_left positive' n d).symm
    _ = nearestRank (d * n') (d * d') := by
      rw [Nat.mul_comm d' n, same, Nat.mul_comm n' d, Nat.mul_comm d' d]
    _ = nearestRank n' d' := nearestRank_mul_left positive n' d'

theorem nearestRank_of_small (small : 2 * numerator < denominator) :
    nearestRank numerator denominator = 0 := by
  have less : numerator < denominator := by omega
  simp [nearestRank, roundDiv, Nat.div_eq_of_lt less, Nat.mod_eq_of_lt less, small]

theorem ranks_le_nearestRank {n : Nat} (log : 2098 ≤ n.log2) : ranks ≤ nearestRank n 1 := by
  have positive : n ≠ 0 := by
    rintro rfl
    simp at log
  obtain ⟨shift, split⟩ : ∃ shift, n.log2 = shift + 52 := ⟨n.log2 - 52, by omega⟩
  have scaled : binade ≤ n / 2 ^ shift := by
    rw [Nat.le_div_iff_mul_le (Nat.two_pow_pos shift)]
    have whole := Nat.log2_self_le positive
    rw [split, Nat.pow_add, Nat.mul_comm] at whole
    exact whole
  have rounded : binade ≤ roundDiv n (1 * Nat.pow 2 shift) := by
    rw [Nat.one_mul]
    exact scaled.trans (le_roundDiv _ _)
  have shifted : n.log2 - 52 = shift := by omega
  have enough : 2046 ≤ shift := by omega
  rw [nearestRank, Nat.div_one, shifted, ranks]
  calc 2047 * binade = 2046 * binade + binade := by ring
    _ ≤ shift * binade + roundDiv n (1 * Nat.pow 2 shift) :=
      Nat.add_le_add (Nat.mul_le_mul_right _ enough) rounded

theorem log2_of_bounds {n : Nat} (low : 2 ^ 52 ≤ n) (high : n < 2 ^ 53) (e : Nat) :
    (n * 2 ^ e).log2 = 52 + e := by
  have positive : n * 2 ^ e ≠ 0 := by
    have := Nat.two_pow_pos e
    have : 0 < n * 2 ^ e := Nat.mul_pos (by omega) this
    omega
  apply Nat.le_antisymm
  · apply Nat.le_of_lt_succ
    rw [Nat.log2_lt positive, Nat.succ_eq_add_one, Nat.add_right_comm, Nat.pow_add]
    exact Nat.mul_lt_mul_of_pos_right high (Nat.two_pow_pos e)
  · rw [Nat.le_log2 positive, Nat.pow_add]
    exact Nat.mul_le_mul_right _ low

/-- Every magnitude is nearest to itself. -/
theorem nearestRank_units (rank : Nat) : nearestRank (units rank) 1 = rank := by
  unfold units
  split
  · next first =>
      have small : rank < 2 ^ 52 := by
        have positive : 0 < binade := Nat.two_pow_pos 52
        exact (Nat.div_eq_zero_iff_lt positive).mp first
      have shift : rank.log2 - 52 = 0 := by
        by_cases zero : rank = 0
        · rw [zero]
          rfl
        · have := (Nat.log2_lt zero).mpr small
          omega
      rw [nearestRank, Nat.div_one, shift]
      simp [roundDiv_one]
  · next later =>
      obtain ⟨e, binades⟩ := Nat.exists_eq_succ_of_ne_zero later
      have whole := Nat.div_add_mod rank binade
      have less : rank % binade < binade := Nat.mod_lt _ (Nat.two_pow_pos 52)
      rw [binades] at whole ⊢
      generalize rank % binade = m at *
      -- The significand has 53 binary digits, so the shift takes off what the scale has put on.
      have low : binade ≤ binade + m := Nat.le_add_right _ _
      have high : binade + m < 2 ^ 53 := by
        have : binade = 2 ^ 52 := rfl
        omega
      have log : ((binade + m) * 2 ^ e).log2 = 52 + e := log2_of_bounds low high e
      have shift : 52 + e - 52 = e := by omega
      show nearestRank ((binade + m) * 2 ^ e) 1 = rank
      rw [nearestRank, Nat.div_one, log, shift]
      show e * binade + roundDiv ((binade + m) * 2 ^ e) (1 * 2 ^ e) = rank
      rw [Nat.mul_comm (binade + m), Nat.mul_comm 1, roundDiv_mul_left (Nat.two_pow_pos e),
        roundDiv_one]
      rw [Nat.succ_eq_add_one] at whole
      linarith

/-! ## Decimals -/

theorem ofUnits_congr {n d n' d' : Nat} (same : nearestRank n d = nearestRank n' d')
    (negative : Bool) : ofUnits negative n d = ofUnits negative n' d' := by
  simp only [ofUnits, same]

theorem ofUnits_zero (negative : Bool) {denominator : Nat} (positive : 0 < denominator) :
    ofUnits negative 0 denominator = zero negative := by
  have rank : nearestRank 0 denominator = 0 := nearestRank_of_small positive
  have finite : 0 < ranks := by decide
  simp only [ofUnits, rank, finite, dite_true, zero]

theorem add_le_log2_mul {a b m n : Nat} (positive : m ≠ 0) (positive' : n ≠ 0)
    (first : a ≤ m.log2) (second : b ≤ n.log2) : a + b ≤ (m * n).log2 := by
  rw [Nat.le_log2 (Nat.mul_ne_zero positive positive'), Nat.pow_add]
  exact Nat.mul_le_mul ((Nat.le_log2 positive).mp first) ((Nat.le_log2 positive').mp second)

theorem unitsInOne_eq : ∃ k, k = 1074 ∧ unitsInOne = 2 ^ k := by
  obtain ⟨k, places, units⟩ : ∃ k, k = 1074 ∧ unitsInOne = Nat.pow 2 k := by
    unfold unitsInOne
    exact ⟨_, rfl, rfl⟩
  exact ⟨k, places, units⟩

theorem ofUnits_of_large {significand e : Nat} (positive : significand ≠ 0) (large : 309 ≤ e)
    (negative : Bool) :
    ofUnits negative (significand * 10 ^ e * unitsInOne) 1 = .infinite negative := by
  obtain ⟨least, bound, log⟩ : ∃ least, least = 309 ∧ 1024 ≤ Nat.log2 (10 ^ least) :=
    ⟨309, rfl, by decide +kernel⟩
  rw [← bound] at large
  obtain ⟨more, rfl⟩ := Nat.exists_eq_add_of_le large
  have power (k : Nat) : 10 ^ k ≠ 0 := Nat.ne_of_gt (Nat.pow_pos (by decide))
  obtain ⟨k, places, units⟩ := unitsInOne_eq
  have scaled : 1024 ≤ (10 ^ (least + more)).log2 := by
    rw [Nat.pow_add]
    exact add_le_log2_mul (power _) (power _) log (Nat.zero_le _)
  have whole : 1024 ≤ (significand * 10 ^ (least + more)).log2 := by
    have := add_le_log2_mul positive (power _) (Nat.zero_le _) scaled
    rwa [Nat.zero_add] at this
  have log := add_le_log2_mul (Nat.mul_ne_zero positive (power _))
    (Nat.ne_of_gt (Nat.two_pow_pos k)) whole (Nat.le_of_eq Nat.log2_two_pow.symm)
  rw [← units] at log
  have beyond := ranks_le_nearestRank (le_trans (by omega) log)
  simp only [ofUnits, Nat.not_lt.mpr beyond, dite_false]

theorem ofUnits_of_small {significand e : Nat} (small : significand.log2 + 1076 ≤ 3 * e)
    (negative : Bool) :
    ofUnits negative (significand * unitsInOne) (10 ^ e) = zero negative := by
  have digits : significand < 2 ^ (significand.log2 + 1) := Nat.lt_log2_self
  obtain ⟨k, places, units⟩ := unitsInOne_eq
  have below : 2 * (significand * unitsInOne) < 10 ^ e := by
    rw [units]
    calc 2 * (significand * 2 ^ k) < 2 * (2 ^ (significand.log2 + 1) * 2 ^ k) := by
          have := Nat.mul_lt_mul_of_pos_right digits (Nat.two_pow_pos k)
          omega
      _ = 2 ^ (significand.log2 + 1 + k + 1) := by ring
      _ ≤ 2 ^ (3 * e) := Nat.pow_le_pow_right (by decide) (by omega)
      _ = 8 ^ e := Nat.pow_mul 2 3 e
      _ ≤ 10 ^ e := Nat.pow_le_pow_left (by decide) e
  have rank := nearestRank_of_small below
  have finite : 0 < ranks := by decide
  simp only [ofUnits, rank, finite, dite_true, zero]

/-- Neither shortcut changes the number: rounding is a function of the quotient alone. -/
theorem ofDecimal_eq_ofUnits (negative : Bool) (significand : Nat) (exponent : Int) :
    ofDecimal negative significand exponent =
      ofUnits negative (significand * 10 ^ exponent.toNat * unitsInOne)
        (10 ^ (-exponent).toNat) := by
  have positive (e : Nat) : 0 < 10 ^ e := Nat.pow_pos (by decide)
  by_cases none : significand = 0
  · unfold ofDecimal
    rw [if_pos none, none, Nat.zero_mul, Nat.zero_mul, ofUnits_zero _ (positive _)]
  · unfold ofDecimal
    rw [if_neg none]
    cases exponent with
    | ofNat e =>
        have whole : (Int.ofNat e).toNat = e := rfl
        have single : (-Int.ofNat e).toNat = 0 := by
          rw [Int.ofNat_eq_natCast]
          omega
        rw [whole, single, Nat.pow_zero]
        dsimp only
        split
        · next large => exact (ofUnits_of_large none large negative).symm
        · rfl
    | negSucc e =>
        have single : (Int.negSucc e).toNat = 0 := rfl
        have whole : (-Int.negSucc e).toNat = e + 1 := rfl
        rw [whole, single, Nat.pow_zero, Nat.mul_one]
        dsimp only
        split
        · next small => exact (ofUnits_of_small small negative).symm
        · rfl

theorem ofDecimal_mul_pow (negative : Bool) (significand zeros : Nat) (exponent : Int) :
    ofDecimal negative (significand * 10 ^ zeros) exponent =
      ofDecimal negative significand (exponent + zeros) := by
  have positive (e : Nat) : 0 < 10 ^ e := Nat.pow_pos (by decide)
  rw [ofDecimal_eq_ofUnits, ofDecimal_eq_ofUnits]
  apply ofUnits_congr
  apply nearestRank_congr (positive _) (positive _)
  have exponents : zeros + exponent.toNat + (-(exponent + zeros)).toNat =
      (exponent + zeros).toNat + (-exponent).toNat := by omega
  generalize unitsInOne = one
  calc significand * 10 ^ zeros * 10 ^ exponent.toNat * one * 10 ^ (-(exponent + zeros)).toNat
      = significand * one * 10 ^ (zeros + exponent.toNat + (-(exponent + zeros)).toNat) := by ring
    _ = significand * one * 10 ^ ((exponent + zeros).toNat + (-exponent).toNat) := by
        rw [exponents]
    _ = significand * 10 ^ (exponent + zeros).toNat * one * 10 ^ (-exponent).toNat := by ring

theorem ofDecimal_of_sign {significand : Nat} {exponent : Int} {rank : Fin ranks}
    (h : ofDecimal false significand exponent = .finite false rank) (negative : Bool) :
    ofDecimal negative significand exponent = .finite negative rank := by
  rw [ofDecimal_eq_ofUnits, ofUnits] at h ⊢
  split at h
  · next finite =>
      cases h
      rw [dif_pos finite]
  · cases h

end Binary64

/-! ## Shortest decimals -/

namespace Decimal

open Binary64 (ofDecimal ranks units unitsInOne)

variable {rank : Fin ranks}

theorem readsAs_iff {d : Decimal} :
    d.readsAs rank = true ↔ ofDecimal false d.significand d.exponent = .finite false rank := by
  simp [readsAs]

theorem readsAs_of_onGrid? {exponent : Int} {d : Decimal} (h : onGrid? rank exponent = some d) :
    d.readsAs rank = true := by
  unfold onGrid? at h
  dsimp only at h
  split at h
  · split at h <;> (cases h; assumption)
  · cases h; assumption
  · cases h; assumption
  · cases h

theorem exact_eq (units : Nat) : ∃ k : Nat, unitsInOne = 2 ^ k ∧
    exact units = ⟨units * 5 ^ k, -(k : Int)⟩ := by
  obtain ⟨k, places, one⟩ := Binary64.unitsInOne_eq
  have exponent : -1074 = -(k : Int) := by omega
  refine ⟨k, one, ?_⟩
  rw [exact, exponent, ← places]
  rfl

/-- The exact decimal of a magnitude reads back, however long it is. -/
theorem readsAs_exact (rank : Fin ranks) : (exact (units rank)).readsAs rank = true := by
  obtain ⟨k, units, spelled⟩ := exact_eq (Binary64.units rank)
  have whole : (-(k : Int)).toNat = 0 := by omega
  have places : (- -(k : Int)).toNat = k := by omega
  have same : Binary64.nearestRank (Binary64.units rank * 5 ^ k * 2 ^ k) (10 ^ k) = rank := by
    rw [← Binary64.nearestRank_units rank]
    apply Binary64.nearestRank_congr (Nat.pow_pos (by decide)) (by decide)
    rw [Binary64.nearestRank_units, Nat.mul_one, Nat.mul_assoc, ← Nat.mul_pow]
  rw [readsAs_iff, spelled, Binary64.ofDecimal_eq_ofUnits, whole, places, units, Nat.pow_zero,
    Nat.mul_one]
  simp only [Binary64.ofUnits, same, rank.isLt, dite_true]

/-- The shortest decimal of a number reads back as it. -/
theorem readsAs_shortest (rank : Fin ranks) : (shortest rank).readsAs rank = true := by
  unfold shortest
  dsimp only
  cases found : (List.range 17).findSome? _ with
  | none => exact readsAs_exact rank
  | some d =>
      obtain ⟨i, -, hit⟩ := List.exists_of_findSome?_eq_some found
      exact readsAs_of_onGrid? hit

end Decimal

end CursorLift
