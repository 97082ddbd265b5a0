import CursorLift.Number.Written
import CursorLift.Proofs.Numerals
import CursorLift.Proofs.Rounding
import Mathlib.Data.List.DropRight

/-! # Written doubles read back

What is written for a finite double is a plain numeral: the digits of its shortest decimal around
a point, or with a power of ten behind. However the digits are laid out, the numeral has the value
of the decimal, so it is read as the double that it was written for.
-/

namespace CursorLift

open Literal (Exponent Floating Mantissa Sign)

namespace Decimal

open Binary64 (ofDecimal)
open Json (IsDigits)

/-! ## The numeral of a decimal -/

/-- Digits whose first has the value of `10 ^ scale`, around a point. -/
def pointed (digits : List Char) : (scale : Int) → Mantissa
  | .ofNat s =>
    let whole := digits.take (s + 1)
    let fraction := digits.drop (s + 1)
    ⟨whole ++ List.replicate (s + 1 - whole.length) '0',
      some (if fraction.isEmpty then ['0'] else fraction)⟩
  | .negSucc s => ⟨['0'], some (List.replicate s '0' ++ digits)⟩

def leading : List Char → Mantissa
  | [] => ⟨[], none⟩
  | [d] => ⟨[d], none⟩
  | d :: fraction => ⟨[d], some fraction⟩

def power (scale : Int) : Exponent :=
  ⟨'e', some (if scale < 0 then .minus else .plus), Nat.toDigits 10 scale.natAbs⟩

/-- The numeral that a decimal is written as. -/
def numeral (sign : Option Sign) (d : Decimal) : Floating :=
  if -5 ≤ d.scale ∧ d.scale < 16 then ⟨sign, pointed d.digits d.scale, none⟩
  else ⟨sign, leading d.digits, some (power d.scale)⟩

theorem text_numeral (sign : Option Sign) (d : Decimal) :
    (d.numeral sign).text = Sign.text sign ++ d.written := by
  unfold numeral written
  split
  · rw [Floating.text, Exponent.text, List.append_nil]
    cases d.scale <;> rfl
  · rw [Floating.text, List.append_assoc]
    congr 1
    have signed : Sign.text (power d.scale).sign = [if d.scale < 0 then '-' else '+'] := by
      unfold power
      split <;> rfl
    have marked : Exponent.text (some (power d.scale)) =
        'e' :: (if d.scale < 0 then '-' else '+') :: Nat.toDigits 10 d.scale.natAbs := by
      rw [Exponent.text, signed]
      rfl
    rw [marked, scientific.eq_def]
    cases d.digits with
    | nil => rfl
    | cons first more => cases more <;> rfl

/-! ## Layouts -/

/-- The ways in which digits, the first of which has the value of `10 ^ scale`, are laid out. -/
inductive Layout (digits : List Char) (scale : Int) : Mantissa → Prop where
  | bare (reach : scale + 1 = digits.length) : Layout digits scale ⟨digits, none⟩
  | filled {zeros : Nat} (reach : scale + 1 = digits.length + zeros) :
      Layout digits scale ⟨digits ++ List.replicate zeros '0', some ['0']⟩
  | split {front back : List Char} (spelled : digits = front ++ back) (before : front ≠ [])
      (behind : back ≠ []) (reach : scale + 1 = front.length) :
      Layout digits scale ⟨front, some back⟩
  | padded {zeros : Nat} (reach : scale + 1 = -(zeros : Int)) :
      Layout digits scale ⟨['0'], some (List.replicate zeros '0' ++ digits)⟩

section Layout

variable {digits : List Char} {scale : Int} {m : Mantissa}

theorem layout_pointed (digits : List Char) (scale : Int) :
    Layout digits scale (pointed digits scale) := by
  cases scale with
  | negSucc s => exact .padded (by omega)
  | ofNat s =>
      by_cases fits : digits.length ≤ s + 1
      · have layout : pointed digits (.ofNat s) =
            ⟨digits ++ List.replicate (s + 1 - digits.length) '0', some ['0']⟩ := by
          simp [pointed, List.take_of_length_le fits, List.drop_eq_nil_of_le fits]
        rw [layout]
        refine .filled ?_
        rw [Int.ofNat_eq_natCast]
        omega
      · have rest : digits.drop (s + 1) ≠ [] := by
          rw [Ne, List.drop_eq_nil_iff]
          exact fits
        have start : (digits.take (s + 1)).length = s + 1 := by
          rw [List.length_take]
          omega
        have layout : pointed digits (.ofNat s) =
            ⟨digits.take (s + 1), some (digits.drop (s + 1))⟩ := by
          simp [pointed, start, rest]
        rw [layout]
        refine .split (List.take_append_drop _ _).symm ?_ rest ?_
        · intro none
          rw [none] at start
          cases start
        · rw [start]
          rfl

theorem layout_leading (h : IsDigits digits) : Layout digits 0 (leading digits) := by
  obtain ⟨d, more, rfl⟩ := List.exists_cons_of_ne_nil h.nonempty
  cases more with
  | nil => exact .bare rfl
  | cons e more =>
      have spelled : d :: e :: more = [d] ++ e :: more := rfl
      exact .split spelled nofun nofun rfl

theorem isDigits_zeros_append (h : IsDigits digits) (zeros : Nat) :
    IsDigits (List.replicate zeros '0' ++ digits) := by
  refine ⟨by simp [h.nonempty], ?_⟩
  intro c member
  cases List.mem_append.mp member with
  | inl zero =>
      rw [List.eq_of_mem_replicate zero]
      decide
  | inr among => exact h.all c among

theorem isDigits_append_zeros (h : IsDigits digits) (zeros : Nat) :
    IsDigits (digits ++ List.replicate zeros '0') := by
  refine ⟨by simp [h.nonempty], ?_⟩
  intro c member
  cases List.mem_append.mp member with
  | inl among => exact h.all c among
  | inr zero =>
      rw [List.eq_of_mem_replicate zero]
      decide

theorem Layout.plain (layout : Layout digits scale m) (h : IsDigits digits)
    (lead : digits.head? ≠ some '0') : m.Plain := by
  cases layout with
  | bare _ => exact ⟨h, fun zero => absurd zero lead, nofun⟩
  | @filled zeros _ =>
      refine ⟨isDigits_append_zeros h zeros, ?_, ?_⟩
      · obtain ⟨d, more, rfl⟩ := List.exists_cons_of_ne_nil h.nonempty
        exact fun zero => absurd zero lead
      · intro fraction spelled
        cases spelled
        exact Json.isDigits_toDigits 0
  | split spelled before behind _ =>
      subst spelled
      refine ⟨⟨before, fun c member => h.all c (List.mem_append_left _ member)⟩, ?_, ?_⟩
      · obtain ⟨d, more, rfl⟩ := List.exists_cons_of_ne_nil before
        exact fun zero => absurd zero lead
      · intro fraction spelled
        cases spelled
        exact ⟨behind, fun c member => h.all c (List.mem_append_right _ member)⟩
  | @padded zeros _ =>
      have single : IsDigits ['0'] := Json.isDigits_toDigits 0
      refine ⟨single, fun _ => rfl, ?_⟩
      intro fraction spelled
      cases spelled
      exact isDigits_zeros_append h zeros

/-- Digits have the same value in every layout, up to zeros behind them. -/
theorem Layout.significand (layout : Layout digits scale m) :
    ∃ zeros : Nat, m.significand = Text.digitsValue digits * 10 ^ zeros ∧
      scale + 1 - digits.length = zeros - (m.places : Int) := by
  cases layout with
  | bare reach =>
      refine ⟨0, by simp [Mantissa.significand], ?_⟩
      simp only [Mantissa.places, Option.getD_none, List.length_nil]
      omega
  | @filled zeros reach =>
      have value : Text.digitsValue (digits ++ List.replicate zeros '0' ++ ['0']) =
          Text.digitsValue digits * 10 ^ (zeros + 1) := by
        rw [← Text.digitsValue_append_zeros, List.replicate_succ', List.append_assoc]
      refine ⟨zeros + 1, value, ?_⟩
      simp only [Mantissa.places, Option.getD_some, List.length_cons, List.length_nil]
      omega
  | split spelled _ _ reach =>
      subst spelled
      refine ⟨0, by simp [Mantissa.significand], ?_⟩
      simp only [Mantissa.places, Option.getD_some, List.length_append]
      omega
  | @padded zeros reach =>
      have value : Text.digitsValue (['0'] ++ (List.replicate zeros '0' ++ digits)) =
          Text.digitsValue digits := by
        rw [← List.append_assoc, List.singleton_append, ← List.replicate_succ]
        exact Text.digitsValue_zeros_append (zeros + 1) digits
      refine ⟨0, by simpa [Mantissa.significand] using value, ?_⟩
      simp only [Mantissa.places, Option.getD_some, List.length_append, List.length_replicate]
      omega

end Layout

/-! ## The value of a written decimal -/

theorem plain_power (scale : Int) : (power scale).Plain :=
  ⟨rfl, Json.isDigits_toDigits _⟩

theorem value_power (scale : Int) : Exponent.value (some (power scale)) = scale := by
  have digits : Text.digitsValue (power scale).digits = scale.natAbs :=
    Text.digitsValue_toDigits _
  rw [Exponent.value, Literal.Integer.value]
  dsimp only
  rw [digits]
  by_cases negative : scale < 0
  · have sign : Sign.isNegative (power scale).sign = true := by
      rw [power, if_pos negative]
      rfl
    rw [if_pos sign]
    omega
  · have sign : Sign.isNegative (power scale).sign = false := by
      rw [power, if_neg negative]
      rfl
    rw [sign, if_neg Bool.false_ne_true]
    omega

theorem toDigits_significand {d : Decimal} (positive : 0 < d.significand) :
    ∃ zeros, Nat.toDigits 10 d.significand = d.digits ++ List.replicate zeros '0' ∧
      IsDigits d.digits ∧ d.digits.head? ≠ some '0' := by
  have split : d.digits ++ List.rtakeWhile (· == '0') (Nat.toDigits 10 d.significand) =
      Nat.toDigits 10 d.significand := List.rdropWhile_append_rtakeWhile
  obtain ⟨zeros, tail⟩ : ∃ zeros,
      List.rtakeWhile (· == '0') (Nat.toDigits 10 d.significand) = List.replicate zeros '0' := by
    refine ⟨_, List.eq_replicate_of_mem fun c member => ?_⟩
    have zero := List.mem_rtakeWhile_imp member
    exact eq_of_beq zero
  rw [tail] at split
  have lead := Text.head_toDigits_ne_zero positive
  have nonempty : d.digits ≠ [] := by
    intro empty
    rw [empty, List.nil_append] at split
    cases zeros with
    | zero => exact Nat.toDigits_ne_nil split.symm
    | succ zeros =>
        rw [← split] at lead
        exact lead rfl
  refine ⟨zeros, split.symm, ⟨nonempty, ?_⟩, ?_⟩
  · intro c member
    apply Text.isDigit_of_mem_toDigits (n := d.significand)
    rw [← split]
    exact List.mem_append_left _ member
  · rw [← split] at lead
    rwa [List.head?_append_of_ne_nil _ nonempty] at lead

theorem layout_numeral (d : Decimal) (h : IsDigits d.digits) (sign : Option Sign) :
    ∃ reach : Int, Layout d.digits reach (d.numeral sign).mantissa ∧
      reach + Exponent.value (d.numeral sign).exponent = d.scale := by
  unfold numeral
  split
  · exact ⟨d.scale, layout_pointed _ _, Int.add_zero _⟩
  · refine ⟨0, layout_leading h, ?_⟩
    rw [value_power, Int.zero_add]

theorem plain_numeral {d : Decimal} (positive : 0 < d.significand) (sign : Option Sign) :
    (d.numeral sign).Plain := by
  obtain ⟨zeros, -, plain, lead⟩ := toDigits_significand positive
  obtain ⟨reach, layout, -⟩ := layout_numeral d plain sign
  refine ⟨layout.plain plain lead, ?_⟩
  intro e written
  unfold numeral at written
  split at written
  · cases written
  · cases written
    exact plain_power _

theorem sign_numeral (sign : Option Sign) (d : Decimal) : (d.numeral sign).sign = sign := by
  unfold numeral
  split <;> rfl

/-- What a positive decimal is written as has the value of the decimal. -/
theorem value_numeral {d : Decimal} (positive : 0 < d.significand) (sign : Option Sign) :
    (d.numeral sign).value = ofDecimal (Sign.isNegative sign) d.significand d.exponent := by
  obtain ⟨trailing, spelled, plain, -⟩ := toDigits_significand positive
  obtain ⟨reach, layout, scale⟩ := layout_numeral d plain sign
  obtain ⟨zeros, significand, places⟩ := layout.significand
  have length := congrArg List.length spelled
  rw [List.length_append, List.length_replicate] at length
  have value := congrArg Text.digitsValue spelled
  rw [Text.digitsValue_toDigits, Text.digitsValue_append_zeros] at value
  -- Both are the digits times a power of ten: one has zeros before, the other behind the point.
  have exponents : Exponent.value (d.numeral sign).exponent - (d.numeral sign).mantissa.places +
      zeros = d.exponent + trailing := by
    rw [Decimal.scale] at scale
    omega
  rw [Floating.value, sign_numeral, significand, value, Binary64.ofDecimal_mul_pow,
    Binary64.ofDecimal_mul_pow, exponents]

theorem significand_pos_of_readsAs {d : Decimal} {rank : Fin Binary64.ranks}
    (h : d.readsAs rank = true) (rank_ne : rank.val ≠ 0) : 0 < d.significand := by
  rw [Nat.pos_iff_ne_zero]
  intro zero
  have read : ofDecimal false d.significand d.exponent = Binary64.zero false := by
    unfold ofDecimal
    exact if_pos zero
  rw [readsAs_iff, read] at h
  injection h with _ same
  exact rank_ne (congrArg Fin.val same.symm)

end Decimal

namespace Binary64

variable {value : Binary64} {token : String}

/-- The numeral that a finite number is written as. -/
def numeral (sign : Option Sign) (rank : Fin ranks) : Floating :=
  if rank.val = 0 then ⟨sign, ⟨['0'], some ['0']⟩, none⟩ else (Decimal.shortest rank).numeral sign

theorem sign_numeral (sign : Option Sign) (rank : Fin ranks) :
    (numeral sign rank).sign = sign := by
  unfold numeral
  split
  · rfl
  · exact Decimal.sign_numeral _ _

theorem text_numeral (sign : Option Sign) (rank : Fin ranks) :
    (numeral sign rank).text = Sign.text sign ++
      if rank.val = 0 then ['0', '.', '0'] else (Decimal.shortest rank).written := by
  unfold numeral
  split
  · cases sign <;> rfl
  · exact Decimal.text_numeral _ _

theorem plain_numeral (sign : Option Sign) (rank : Fin ranks) : (numeral sign rank).Plain := by
  unfold numeral
  split
  · have single : Json.IsDigits ['0'] := Json.isDigits_toDigits 0
    refine ⟨⟨single, fun _ => rfl, ?_⟩, nofun⟩
    intro fraction spelled
    cases spelled
    exact single
  · next positive =>
      apply Decimal.plain_numeral
      exact Decimal.significand_pos_of_readsAs (Decimal.readsAs_shortest rank) positive

theorem value_numeral (sign : Option Sign) (rank : Fin ranks) :
    (numeral sign rank).value = .finite (Sign.isNegative sign) rank := by
  unfold numeral
  split
  · next none =>
      have first : rank = ⟨0, by decide⟩ := Fin.ext none
      rw [first]
      rfl
  · next positive =>
      have reads := Decimal.readsAs_shortest rank
      rw [Decimal.value_numeral (Decimal.significand_pos_of_readsAs reads positive)]
      exact ofDecimal_of_sign (Decimal.readsAs_iff.mp reads) _

/-- A number is finite when it is written at all, and what is written for it is the text of a
plain numeral that denotes it. -/
theorem written?_eq_some (written : value.written? = some token) :
    ∃ n : Floating, token = String.ofList n.text ∧ n.Plain ∧ n.sign ≠ some .plus ∧
      n.value = value := by
  cases value with
  | nan => cases written
  | infinite _ => cases written
  | finite negative rank =>
      have spelled (sign : Option Sign) := text_numeral sign rank
      cases written
      cases negative with
      | true =>
          refine ⟨numeral (some .minus) rank, ?_, plain_numeral _ _, ?_, value_numeral _ _⟩
          · rw [spelled]
            rfl
          · rw [sign_numeral]
            nofun
      | false =>
          refine ⟨numeral none rank, ?_, plain_numeral _ _, ?_, value_numeral _ _⟩
          · rw [spelled]
            rfl
          · rw [sign_numeral]
            nofun

theorem isNumber_of_written? (written : value.written? = some token) :
    Json.isNumber token.toList = true := by
  obtain ⟨n, rfl, plain, unsigned, -⟩ := written?_eq_some written
  rw [String.toList_ofList]
  exact Floating.isNumber_text plain unsigned

/-- What is written for a number is read as that number. -/
theorem readFloating_of_written? (written : value.written? = some token) :
    Literal.readFloating token = value := by
  obtain ⟨n, rfl, plain, -, denoted⟩ := written?_eq_some written
  rw [Literal.readFloating, String.toList_ofList, plain.proper.dropBlanks_text,
    Floating.scan?_text plain.proper]
  exact denoted

end Binary64

end CursorLift
