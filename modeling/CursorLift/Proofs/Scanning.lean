import CursorLift.Literal.Basic
import CursorLift.Proofs.Grammar
import Mathlib.Data.List.TakeWhile

/-! # Scanning for numerals

Scanning finds whatever numeral stands in front of a text, and goes on as long as there are digits
to go on with. What it finds is the longest text of the grammar there, and it finds nothing only
when no text of the grammar is there.
-/

namespace CursorLift

theorem Text.isBlank_of_isDecimalDigit {c : Char} (digit : isDecimalDigit c = true) :
    isBlank c = false := by
  rw [isDecimalDigit, digitValue?, Option.isSome_map, List.find?_isSome] at digit
  obtain ⟨first, listed, within⟩ := digit
  -- The zeros of the scripts lie between the ranges of blanks, with room for nine more digits.
  have apart : ∀ first ∈ decimalZeros, 0x20 < first ∧ first + 9 < 0x85 ∨
      0xA0 < first ∧ first + 9 < 0x1680 ∨ 0x1680 < first ∧ first + 9 < 0x2000 ∨ 0x3000 < first := by
    decide
  have := apart first listed
  unfold isBlank
  generalize c.toNat = code at *
  simp at within ⊢
  omega

namespace Literal

variable {text digits rest : List Char} {c d : Char}

/-! ## Digits and signs -/

theorem ne_of_isDecimalDigit (digit : Text.isDecimalDigit c = true)
    (other : Text.isDecimalDigit d = false) : c ≠ d := by
  rintro rfl
  simp [digit] at other

theorem leadingDigits_append (all : ∀ c ∈ digits, Text.isDecimalDigit c = true)
    (rest : List Char) : leadingDigits (digits ++ rest) = digits ++ leadingDigits rest :=
  List.takeWhile_append_of_pos all

theorem afterDigits_append (all : ∀ c ∈ digits, Text.isDecimalDigit c = true)
    (rest : List Char) : afterDigits (digits ++ rest) = afterDigits rest :=
  List.dropWhile_append_of_pos all

theorem leadingDigits_append_afterDigits (text : List Char) :
    leadingDigits text ++ afterDigits text = text :=
  List.takeWhile_append_dropWhile

theorem isDecimalDigit_of_mem_leadingDigits (member : c ∈ leadingDigits text) :
    Text.isDecimalDigit c = true :=
  List.mem_takeWhile_imp member

theorem afterDigits_stops (text : List Char) :
    ∀ c ∈ (afterDigits text).head?, Text.isDecimalDigit c = false := by
  intro c first
  have := List.head?_dropWhile_not Text.isDecimalDigit text
  rw [afterDigits] at first
  simp_all

theorem leadingDigits_of_stop (stop : ∀ c ∈ rest.head?, Text.isDecimalDigit c = false) :
    leadingDigits rest = [] := by
  cases rest with
  | nil => rfl
  | cons c rest => simp [leadingDigits, stop c rfl]

theorem afterDigits_of_stop (stop : ∀ c ∈ rest.head?, Text.isDecimalDigit c = false) :
    afterDigits rest = rest := by
  have whole := leadingDigits_append_afterDigits rest
  rwa [leadingDigits_of_stop stop, List.nil_append] at whole

theorem Sign.text_scan (text : List Char) :
    Sign.text (Sign.scan text).1 ++ (Sign.scan text).2 = text := by
  cases text with
  | nil => rfl
  | cons c rest =>
      rw [Sign.scan]
      split
      · next plus => simp [Sign.text, Sign.char, plus]
      · split
        · next minus => simp [Sign.text, Sign.char, minus]
        · rfl

theorem Sign.scan_append (sign : Option Sign) (unsigned : ∀ c ∈ rest.head?, c ≠ '+' ∧ c ≠ '-') :
    Sign.scan (Sign.text sign ++ rest) = (sign, rest) := by
  cases sign with
  | some sign => cases sign <;> rfl
  | none =>
      cases rest with
      | nil => rfl
      | cons c rest => simp [Sign.text, Sign.scan, unsigned c rfl]

theorem IsRow.unsigned (row : IsRow digits) (rest : List Char) :
    ∀ c ∈ (digits ++ rest).head?, c ≠ '+' ∧ c ≠ '-' := by
  obtain ⟨d, more, rfl⟩ := List.exists_cons_of_ne_nil row.nonempty
  rintro _ ⟨⟩
  have digit := row.all d List.mem_cons_self
  exact ⟨ne_of_isDecimalDigit digit (by decide), ne_of_isDecimalDigit digit (by decide)⟩

/-! ## Integers -/

theorem Integer.scan?_append {n : Integer} (row : IsRow n.digits) (rest : List Char) :
    Integer.scan? (n.text ++ rest) = some ⟨n.sign, n.digits ++ leadingDigits rest⟩ := by
  rw [Integer.scan?, Integer.text, List.append_assoc, Sign.scan_append _ (row.unsigned rest)]
  simp only [leadingDigits_append row.all]
  obtain ⟨d, more, spelled⟩ := List.exists_cons_of_ne_nil row.nonempty
  rw [spelled]
  rfl

theorem Integer.scan?_sound {n : Integer} (found : Integer.scan? text = some n) :
    IsRow n.digits ∧
      ∃ rest, text = n.text ++ rest ∧ ∀ c ∈ rest.head?, Text.isDecimalDigit c = false := by
  have signed := Sign.text_scan text
  have whole := leadingDigits_append_afterDigits (Sign.scan text).2
  unfold Integer.scan? at found
  dsimp only at found
  split at found
  · cases found
  · next nonempty =>
      cases found
      refine ⟨⟨nonempty, fun c => isDecimalDigit_of_mem_leadingDigits⟩, _, ?_,
        afterDigits_stops (Sign.scan text).2⟩
      rw [Integer.text, List.append_assoc, whole, signed]

theorem Integer.scan?_eq_some_iff {n : Integer} :
    Integer.scan? text = some n ↔ IsRow n.digits ∧
      ∃ rest, text = n.text ++ rest ∧ ∀ c ∈ rest.head?, Text.isDecimalDigit c = false := by
  constructor
  · exact Integer.scan?_sound
  · rintro ⟨row, rest, rfl, stop⟩
    rw [Integer.scan?_append row, leadingDigits_of_stop stop, List.append_nil]

/-! ## Exponents and mantissas -/

theorem Exponent.scan?_append {e : Exponent} (proper : e.Proper) (rest : List Char) :
    Exponent.scan? (Exponent.text (some e) ++ rest) =
      some ⟨e.mark, e.sign, e.digits ++ leadingDigits rest⟩ := by
  have power : Integer.scan? (Sign.text e.sign ++ (e.digits ++ rest)) =
      some ⟨e.sign, e.digits ++ leadingDigits rest⟩ := by
    rw [← List.append_assoc]
    exact @Integer.scan?_append ⟨e.sign, e.digits⟩ proper.row rest
  simp [Exponent.text, Exponent.scan?, proper.mark, power]

theorem Exponent.scan?_sound {e : Exponent} (found : Exponent.scan? text = some e) :
    e.Proper ∧ Exponent.text (some e) <+: text := by
  cases text with
  | nil => cases found
  | cons mark rest =>
      rw [Exponent.scan?] at found
      split at found
      · next marked =>
          obtain ⟨power, scanned, rfl⟩ := Option.map_eq_some_iff.mp found
          obtain ⟨row, rest, rfl, -⟩ := Integer.scan?_sound scanned
          exact ⟨⟨marked, row⟩, rest, by simp [Exponent.text, Integer.text]⟩
      · cases found

theorem Mantissa.text_eq_cons {m : Mantissa} (row : IsRow m.digits) :
    ∃ first more, m.text = first :: more ∧ (Text.isDecimalDigit first = true ∨ first = '.') := by
  obtain ⟨whole, fraction⟩ := m
  cases whole with
  | cons d whole => exact ⟨d, _, rfl, .inl (row.all d List.mem_cons_self)⟩
  | nil =>
      cases fraction with
      | none => exact absurd rfl row.nonempty
      | some fraction => exact ⟨'.', fraction, rfl, .inr rfl⟩

theorem Mantissa.scan?_append {m : Mantissa} (row : IsRow m.digits)
    (stop : ∀ c ∈ rest.head?, Text.isDecimalDigit c = false)
    (pointless : m.fraction = none → rest.head? ≠ some '.') :
    Mantissa.scan? (m.text ++ rest) = some (m, rest) := by
  obtain ⟨whole, fraction⟩ := m
  obtain ⟨nonempty, all⟩ := row
  cases fraction with
  | none =>
      simp only [Mantissa.digits, Option.getD_none, List.append_nil] at nonempty all
      obtain ⟨d, more, rfl⟩ := List.exists_cons_of_ne_nil nonempty
      rw [Mantissa.text, List.append_nil, Mantissa.scan?, leadingDigits_append all,
        afterDigits_append all, leadingDigits_of_stop stop, afterDigits_of_stop stop]
      cases rest with
      | nil => simp
      | cons c rest =>
          have other : c ≠ '.' := by
            rintro rfl
            exact pointless rfl rfl
          simp [other]
  | some digits =>
      simp only [Mantissa.digits, Option.getD_some, List.mem_append, or_imp, forall_and] at all
      have point : ∀ c ∈ ('.' :: (digits ++ rest)).head?, Text.isDecimalDigit c = false := by
        rintro c ⟨⟩
        decide
      have spelled : Mantissa.text ⟨whole, some digits⟩ ++ rest =
          whole ++ '.' :: (digits ++ rest) := by simp [Mantissa.text]
      have behind : leadingDigits (digits ++ rest) = digits ∧
          afterDigits (digits ++ rest) = rest := by
        rw [leadingDigits_append all.2, afterDigits_append all.2, leadingDigits_of_stop stop,
          afterDigits_of_stop stop, List.append_nil]
        exact ⟨rfl, rfl⟩
      rw [spelled, Mantissa.scan?, leadingDigits_append all.1, afterDigits_append all.1,
        leadingDigits_of_stop point, afterDigits_of_stop point, List.append_nil]
      cases whole with
      | cons d more => simp [behind]
      | nil =>
          obtain ⟨d, more, rfl⟩ := List.exists_cons_of_ne_nil nonempty
          simp_all

theorem IsRow.append (row : IsRow digits) (all : ∀ c ∈ rest, Text.isDecimalDigit c = true) :
    IsRow (digits ++ rest) := by
  refine ⟨by simp [row.nonempty], fun c member => ?_⟩
  rcases List.mem_append.mp member with before | behind
  · exact row.all c before
  · exact all c behind

theorem isRow_leadingDigits (nonempty : leadingDigits text ≠ []) : IsRow (leadingDigits text) :=
  ⟨nonempty, fun _ => isDecimalDigit_of_mem_leadingDigits⟩

theorem Mantissa.scan?_sound {m : Mantissa} (found : Mantissa.scan? text = some (m, rest)) :
    IsRow m.digits ∧ text = m.text ++ rest := by
  have spelled := leadingDigits_append_afterDigits text
  unfold Mantissa.scan? at found
  split at found
  · next behind bare point =>
      split at found
      · cases found
      · next nonempty =>
          cases found
          refine ⟨isRow_leadingDigits nonempty, ?_⟩
          rw [← spelled, bare, point]
          simp [Mantissa.text, leadingDigits_append_afterDigits]
  · cases found
  · next behind point nonempty =>
      cases found
      have row := isRow_leadingDigits nonempty
      refine ⟨row.append fun _ => isDecimalDigit_of_mem_leadingDigits, ?_⟩
      simp [Mantissa.text, leadingDigits_append_afterDigits, ← point, spelled]
  · next nonempty _ _ =>
      cases found
      refine ⟨?_, by simp [Mantissa.text, spelled]⟩
      simpa [Mantissa.digits] using isRow_leadingDigits nonempty

/-- A mantissa in front of a text is found, or a longer one that starts with it. -/
theorem Mantissa.scan?_reaches {m : Mantissa} (row : IsRow m.digits) (rest : List Char) :
    ∃ found left, Mantissa.scan? (m.text ++ rest) = some (found, left) ∧ m.text <+: found.text := by
  have longer : IsRow (m.digits ++ leadingDigits rest) :=
    row.append fun _ => isDecimalDigit_of_mem_leadingDigits
  have spelled := leadingDigits_append_afterDigits rest
  have stop := afterDigits_stops rest
  obtain ⟨whole, fraction⟩ := m
  cases fraction with
  | some fraction =>
      let found : Mantissa := ⟨whole, some (fraction ++ leadingDigits rest)⟩
      have row : IsRow found.digits := by simpa [found, Mantissa.digits] using longer
      refine ⟨found, afterDigits rest, ?_, leadingDigits rest, by simp [found, Mantissa.text]⟩
      rw [← Mantissa.scan?_append row stop (by simp [found])]
      simp [found, Mantissa.text, spelled]
  | none =>
      simp only [Mantissa.digits, Option.getD_none, List.append_nil] at longer
      by_cases point : (afterDigits rest).head? = some '.'
      · obtain ⟨behind, pointed⟩ : ∃ behind, afterDigits rest = '.' :: behind := by
          cases after : afterDigits rest with
          | nil => simp [after] at point
          | cons c behind => exact ⟨behind, by simp_all⟩
        let found : Mantissa := ⟨whole ++ leadingDigits rest, some (leadingDigits behind)⟩
        have row : IsRow found.digits :=
          longer.append fun _ => isDecimalDigit_of_mem_leadingDigits
        refine ⟨found, afterDigits behind, ?_, leadingDigits rest ++ '.' :: leadingDigits behind,
          by simp [found, Mantissa.text]⟩
        rw [← Mantissa.scan?_append row (afterDigits_stops behind) (by simp [found])]
        simp [found, Mantissa.text, leadingDigits_append_afterDigits, ← pointed, spelled]
      · let found : Mantissa := ⟨whole ++ leadingDigits rest, none⟩
        have row : IsRow found.digits := by simpa [found, Mantissa.digits] using longer
        refine ⟨found, afterDigits rest, ?_, leadingDigits rest, by simp [found, Mantissa.text]⟩
        rw [← Mantissa.scan?_append row stop fun _ => point]
        simp [found, Mantissa.text, spelled]

theorem Mantissa.unsigned {m : Mantissa} (row : IsRow m.digits) (rest : List Char) :
    ∀ c ∈ (m.text ++ rest).head?, c ≠ '+' ∧ c ≠ '-' := by
  obtain ⟨first, more, spelled, digit | rfl⟩ := Mantissa.text_eq_cons row
  · rw [spelled]
    rintro _ ⟨⟩
    exact ⟨ne_of_isDecimalDigit digit (by decide), ne_of_isDecimalDigit digit (by decide)⟩
  · rw [spelled]
    rintro _ ⟨⟩
    decide

theorem Exponent.stops {e : Option Exponent} (proper : ∀ power ∈ e, power.Proper) :
    ∀ c ∈ (Exponent.text e).head?, Text.isDecimalDigit c = false ∧ c ≠ '.' := by
  cases e with
  | none => nofun
  | some e =>
      rintro _ ⟨⟩
      rcases (proper e rfl).mark with mark | mark <;> (rw [mark]; decide)

theorem Exponent.scan?_text {e : Option Exponent} (proper : ∀ power ∈ e, power.Proper) :
    Exponent.scan? (Exponent.text e) = e := by
  cases e with
  | none => rfl
  | some e =>
      have scanned := Exponent.scan?_append (proper e rfl) []
      rwa [List.append_nil, show leadingDigits [] = [] from rfl, List.append_nil] at scanned

/-! ## Floating numerals -/

/-- Scanning finds a proper numeral in its text. -/
theorem Floating.scan?_text {n : Floating} (proper : n.Proper) :
    Floating.scan? n.text = some n := by
  obtain ⟨sign, m, e⟩ := n
  have ends := Exponent.stops proper.exponent
  have scanned : Mantissa.scan? (m.text ++ Exponent.text e) = some (m, Exponent.text e) :=
    Mantissa.scan?_append proper.row (fun c first => (ends c first).1) fun _ point =>
      (ends '.' point).2 rfl
  rw [Floating.scan?, Floating.text, List.append_assoc,
    Sign.scan_append _ (Mantissa.unsigned proper.row _)]
  simp [scanned, Exponent.scan?_text proper.exponent]

theorem Floating.scan?_sound {n : Floating} (found : Floating.scan? text = some n) :
    n.Proper ∧ n.text <+: text := by
  unfold Floating.scan? at found
  dsimp only at found
  obtain ⟨⟨m, rest⟩, scanned, rfl⟩ := Option.map_eq_some_iff.mp found
  obtain ⟨row, spelled⟩ := Mantissa.scan?_sound scanned
  have signed := Sign.text_scan text
  rw [spelled] at signed
  cases power : Exponent.scan? rest with
  | none =>
      refine ⟨⟨row, nofun⟩, rest, ?_⟩
      simpa [Floating.text, Exponent.text, power] using signed
  | some e =>
      obtain ⟨proper, behind, rfl⟩ := Exponent.scan?_sound power
      refine ⟨⟨row, by rintro _ ⟨⟩; exact proper⟩, behind, ?_⟩
      simpa [Floating.text, power] using signed

theorem Floating.scan?_reaches {n : Floating} (proper : n.Proper) (rest : List Char) :
    ∃ found, Floating.scan? (n.text ++ rest) = some found ∧ n.text <+: found.text := by
  obtain ⟨sign, m, e⟩ := n
  have signed := Sign.scan_append sign (Mantissa.unsigned proper.row (Exponent.text e ++ rest))
  cases e with
  | none =>
      obtain ⟨longer, left, scanned, more, spelled⟩ := Mantissa.scan?_reaches proper.row rest
      refine ⟨⟨sign, longer, Exponent.scan? left⟩, ?_,
        more ++ Exponent.text (Exponent.scan? left), ?_⟩
      · simp_all [Floating.scan?, Floating.text, Exponent.text]
      · simp [Floating.text, Exponent.text, ← spelled]
  | some e =>
      have ends := Exponent.stops proper.exponent
      have scanned : Mantissa.scan? (m.text ++ (Exponent.text (some e) ++ rest)) =
          some (m, Exponent.text (some e) ++ rest) :=
        Mantissa.scan?_append proper.row (fun c first => (ends c first).1) fun _ point =>
          (ends '.' point).2 rfl
      have power := Exponent.scan?_append (proper.exponent e rfl) rest
      refine ⟨⟨sign, m, some ⟨e.mark, e.sign, e.digits ++ leadingDigits rest⟩⟩, ?_,
        leadingDigits rest, by simp [Floating.text, Exponent.text]⟩
      simp_all [Floating.scan?, Floating.text]

/-- What scanning finds is the longest numeral at the front of a text. -/
theorem Floating.scan?_eq_some_iff {n : Floating} :
    Floating.scan? text = some n ↔ n.Proper ∧ Longest Grammar.floating text n.text := by
  have longest {found : Floating} (scanned : Floating.scan? text = some found) :
      Longest Grammar.floating text found.text := by
    obtain ⟨proper, front⟩ := Floating.scan?_sound scanned
    refine ⟨front, mem_floating.mpr ⟨found, proper, rfl⟩, ?_⟩
    rintro other ⟨rest, rfl⟩ member
    obtain ⟨n, proper, rfl⟩ := mem_floating.mp member
    obtain ⟨longer, again, before⟩ := Floating.scan?_reaches proper rest
    cases scanned.symm.trans again
    exact before.length_le
  constructor
  · exact fun scanned => ⟨(Floating.scan?_sound scanned).1, longest scanned⟩
  · rintro ⟨proper, given⟩
    obtain ⟨rest, rfl⟩ := given.front
    obtain ⟨found, scanned, -⟩ := Floating.scan?_reaches proper rest
    -- Both numerals have the same text, and from its text each of them is found again.
    have same := given.unique (longest scanned)
    have again := Floating.scan?_text (Floating.scan?_sound scanned).1
    rw [← same, Floating.scan?_text proper] at again
    rw [scanned, again]

theorem Floating.scan?_eq_none_iff :
    Floating.scan? text = none ↔ ∀ front, front <+: text → front ∉ Grammar.floating := by
  constructor
  · rintro none _ ⟨rest, rfl⟩ member
    obtain ⟨n, proper, rfl⟩ := mem_floating.mp member
    obtain ⟨found, scanned, -⟩ := Floating.scan?_reaches proper rest
    cases none.symm.trans scanned
  · intro absent
    cases scanned : Floating.scan? text with
    | none => rfl
    | some n =>
        obtain ⟨proper, front⟩ := Floating.scan?_sound scanned
        exact absurd (mem_floating.mpr ⟨n, proper, rfl⟩) (absent _ front)

/-! ## Blanks -/

theorem dropBlanks_append {blanks : List Char} (all : ∀ c ∈ blanks, Text.isBlank c = true)
    (stop : ∀ c ∈ rest.head?, Text.isBlank c = false) :
    Text.dropBlanks (blanks ++ rest) = rest := by
  rw [Text.dropBlanks, List.dropWhile_append_of_pos all]
  cases rest with
  | nil => rfl
  | cons c rest => simp [stop c rfl]

theorem Sign.not_blank (sign : Option Sign) (stop : ∀ c ∈ rest.head?, Text.isBlank c = false) :
    ∀ c ∈ (Sign.text sign ++ rest).head?, Text.isBlank c = false := by
  rcases sign with _ | _ | _
  · exact stop
  · rintro _ ⟨⟩
    decide
  · rintro _ ⟨⟩
    decide

theorem Integer.not_blank {n : Integer} (row : IsRow n.digits) (rest : List Char) :
    ∀ c ∈ (n.text ++ rest).head?, Text.isBlank c = false := by
  rw [Integer.text, List.append_assoc]
  apply Sign.not_blank
  obtain ⟨d, more, spelled⟩ := List.exists_cons_of_ne_nil row.nonempty
  rw [spelled]
  rintro _ ⟨⟩
  exact Text.isBlank_of_isDecimalDigit (row.all d (by simp [spelled]))

theorem Floating.Proper.dropBlanks_text {n : Floating} (proper : n.Proper) :
    Text.dropBlanks n.text = n.text := by
  have stop : ∀ c ∈ n.text.head?, Text.isBlank c = false := by
    rw [Floating.text, List.append_assoc]
    apply Sign.not_blank
    obtain ⟨first, more, spelled, digit | rfl⟩ := Mantissa.text_eq_cons proper.row
    · rw [spelled]
      rintro _ ⟨⟩
      exact Text.isBlank_of_isDecimalDigit digit
    · rw [spelled]
      rintro _ ⟨⟩
      decide
  have none : ∀ c ∈ ([] : List Char), Text.isBlank c = true := nofun
  exact dropBlanks_append none stop

end Literal

end CursorLift
