import CursorLift.Proofs.Denotation
import CursorLift.Proofs.Lift
import CursorLift.Proofs.Pattern
import CursorLift.Proofs.Rounding

/-! # What is read at the front of a text

A floating number is read from the longest text of the grammar at the front, and it is no number
only when there is none. An integer is read from a part of what a floating number is read from, so
a text that is no floating number is no integer either.
-/

namespace CursorLift

theorem Binary64.ofDecimal_ne_nan (negative : Bool) (significand : Nat) (exponent : Int) :
    ofDecimal negative significand exponent ≠ .nan := by
  rw [ofDecimal_eq_ofUnits, ofUnits]
  split <;> simp

namespace Literal

variable {text : String}

theorem readFloating_of_scan? {n : Floating}
    (scanned : Floating.scan? (Text.dropBlanks text.toList) = some n) :
    readFloating text = n.value := by
  rw [readFloating, scanned]

theorem readFloating_eq_nan_iff :
    readFloating text = .nan ↔ Floating.scan? (Text.dropBlanks text.toList) = none := by
  rw [readFloating]
  cases Floating.scan? (Text.dropBlanks text.toList) with
  | none => simp
  | some n => simp [Floating.value, Binary64.ofDecimal_ne_nan]

theorem exists_scanned {rest front : List Char} (before : front <+: rest)
    (member : front ∈ Grammar.floating) :
    ∃ n, Floating.scan? rest = some n ∧ n.Proper ∧ Longest Grammar.floating rest n.text := by
  cases scanned : Floating.scan? rest with
  | none => exact absurd member (Floating.scan?_eq_none_iff.mp scanned front before)
  | some n => exact ⟨n, rfl, Floating.scan?_eq_some_iff.mp scanned⟩

theorem readFloating_text {n : Floating} (proper : n.Proper) :
    readFloating (String.ofList n.text) = n.value := by
  apply readFloating_of_scan?
  rw [String.toList_ofList, proper.dropBlanks_text, Floating.scan?_text proper]

/-- A floating number is read from the longest text of the grammar behind the blanks, which is also
what the pattern takes, and nothing behind that text has a part in it. Without a text of the grammar
there is no number. -/
theorem floating_read_from_longest (text : String) :
    let rest := Text.dropBlanks text.toList
    (readFloating text = .nan ↔ ∀ front, front <+: rest → front ∉ Grammar.floating) ∧
      ∀ front, front <+: rest → front ∈ Grammar.floating →
        ∃ n : Floating, n.Proper ∧ Longest Grammar.floating rest n.text ∧
          Pattern.floating.captured? text.toList = some n.text ∧
          readFloating text = n.value ∧ readFloating (String.ofList n.text) = n.value := by
  intro rest
  refine ⟨readFloating_eq_nan_iff.trans Floating.scan?_eq_none_iff, ?_⟩
  intro front before member
  obtain ⟨n, scanned, proper, longest⟩ := exists_scanned before member
  refine ⟨n, proper, longest, ?_, readFloating_of_scan? scanned, readFloating_text proper⟩
  rw [Pattern.captured?_floating, scanned]
  rfl

/-- A numeral in digits of two scripts, behind which an exponent breaks off. -/
theorem floating_read_before_broken_exponent :
    ['-', '٣'] <+: Text.dropBlanks "\u2003-٣.5e+x".toList ∧ ['-', '٣'] ∈ Grammar.floating ∧
      ∃ n : Floating, n.Proper ∧
        Longest Grammar.floating (Text.dropBlanks "\u2003-٣.5e+x".toList) n.text ∧
        Pattern.floating.captured? "\u2003-٣.5e+x".toList = some n.text ∧
        readFloating "\u2003-٣.5e+x" = n.value ∧ readFloating (String.ofList n.text) = n.value := by
  have before : ['-', '٣'] <+: Text.dropBlanks "\u2003-٣.5e+x".toList := by decide
  have row : IsRow ['٣'] := ⟨nofun, List.all_eq_true.mp (by decide)⟩
  have member : ['-', '٣'] ∈ Grammar.floating :=
    mem_floating.mpr ⟨⟨some .minus, ⟨['٣'], none⟩, none⟩, ⟨row, nofun⟩, rfl⟩
  exact ⟨before, member, (floating_read_from_longest _).2 _ before member⟩

/-- An exponent without digits and a second point are left out. -/
example : Pattern.floating.captured? " 1e+".toList = some ['1'] ∧
    Pattern.floating.captured? "1.5.2".toList = some ['1', '.', '5'] := by
  decide

/-! ## Both forms -/

/-- An integer numeral as a floating one. -/
def Integer.floating (n : Integer) : Floating := ⟨n.sign, ⟨n.digits, none⟩, none⟩

theorem Integer.floating_text (n : Integer) : n.floating.text = n.text := by
  simp [floating, Floating.text, Mantissa.text, Exponent.text, Integer.text]

theorem Integer.floating_proper {n : Integer} (row : IsRow n.digits) : n.floating.Proper :=
  ⟨by simpa [floating, Mantissa.digits] using row, nofun⟩

theorem Integer.floating_denoted (n : Integer) : n.floating.denoted = n.denoted := by
  simp [floating, Floating.denoted, Exponent.denoted, denoted, Text.positional]

theorem Integer.countP_text {n : Integer} (row : IsRow n.digits) :
    n.text.countP Text.isDecimalDigit = n.digits.length := by
  have unsigned : (Sign.text n.sign).countP Text.isDecimalDigit = 0 := by
    rcases n.sign with _ | _ | _ <;> decide
  rw [text, List.countP_append, unsigned, Nat.zero_add, List.countP_eq_length]
  exact row.all

variable {rest : List Char}

theorem Floating.scan?_of_integer {n : Integer} (scanned : Integer.scan? rest = some n) :
    ∃ m, Floating.scan? rest = some m ∧ n.text <+: m.text := by
  obtain ⟨row, behind, rfl, -⟩ := Integer.scan?_sound scanned
  rw [← n.floating_text]
  exact Floating.scan?_reaches (Integer.floating_proper row) behind

/-- Only a floating numeral is found where a point and a digit follow the sign. -/
theorem Floating.scan?_alone_iff :
    (∃ n, Floating.scan? rest = some n) ∧ Integer.scan? rest = none ↔
      ∃ sign digit behind, rest = Sign.text sign ++ '.' :: digit :: behind ∧
        Text.isDecimalDigit digit = true := by
  constructor
  · rintro ⟨⟨⟨sign, ⟨whole, fraction⟩, power⟩, scanned⟩, absent⟩
    obtain ⟨⟨row, -⟩, behind, rfl⟩ := Floating.scan?_sound scanned
    cases whole with
    | cons d more =>
        -- Digits before the point would be those of an integer.
        have digits : IsRow (d :: more) := by
          refine ⟨List.cons_ne_nil d more, fun c member => row.all c ?_⟩
          exact List.mem_append_left _ member
        have found := @Integer.scan?_append ⟨sign, d :: more⟩ digits
        simp only [Floating.text, Mantissa.text, List.append_assoc, Integer.text] at absent found
        cases absent.symm.trans (found _)
    | nil =>
        cases fraction with
        | none => exact absurd rfl row.nonempty
        | some digits =>
            obtain ⟨d, more, rfl⟩ := List.exists_cons_of_ne_nil row.nonempty
            exact ⟨sign, d, more ++ Exponent.text power ++ behind,
              by simp [Floating.text, Mantissa.text], row.all d List.mem_cons_self⟩
  · rintro ⟨sign, digit, behind, rfl, decimal⟩
    have point : ∀ c ∈ ('.' :: digit :: behind).head?, c ≠ '+' ∧ c ≠ '-' := by
      rintro _ ⟨⟩
      decide
    have proper : Floating.Proper ⟨sign, ⟨[], some [digit]⟩, none⟩ :=
      ⟨⟨by simp [Mantissa.digits], by simpa [Mantissa.digits] using decimal⟩, by simp⟩
    constructor
    · obtain ⟨n, scanned, -⟩ := Floating.scan?_reaches proper behind
      refine ⟨n, ?_⟩
      rw [← scanned]
      simp [Floating.text, Mantissa.text, Exponent.text]
    · rw [Integer.scan?, Sign.scan_append sign point]
      rfl

theorem outcome_readNamed (form : Form) (text : String) :
    (readNamed form.name text).outcome = form.read text := by
  cases form
  · exact Context.readNoted_outcome .integer text
  · exact Context.readNoted_outcome .floating text

/-- An integer numeral is found at the front of a floating one, and the floating one is found alone
just where a point and a digit come first. Where both are the same text they denote the same
number, so what is no floating number is no integer. -/
theorem integer_within_floating (text : String) :
    (∀ short, Pattern.integer.captured? text.toList = some short →
        ∃ long, Pattern.floating.captured? text.toList = some long ∧ short <+: long) ∧
      ((∃ long, Pattern.floating.captured? text.toList = some long) ∧
          Pattern.integer.captured? text.toList = none ↔
        ∃ sign digit behind,
          Text.dropBlanks text.toList = Sign.text sign ++ '.' :: digit :: behind ∧
            Text.isDecimalDigit digit = true) ∧
      (∀ both, Pattern.integer.captured? text.toList = some both →
        Pattern.floating.captured? text.toList = some both →
        both.countP Text.isDecimalDigit ≤ 4300 →
        ∃ (n : Floating) (value : Int), n.Proper ∧ n.text = both ∧ readFloating text = n.value ∧
          readInteger text = .ok (.integer value) ∧ n.denoted = value) ∧
      ((readNamed "floating" text).outcome = .ok (.double .nan) →
        (readNamed "integer" text).outcome = .ok (.double .nan)) := by
  simp only [Pattern.captured?_integer, Pattern.captured?_floating, Option.map_eq_some_iff,
    Option.map_eq_none_iff]
  refine ⟨?_, ?_, ?_, fun absent => ?_⟩
  · rintro _ ⟨n, scanned, rfl⟩
    obtain ⟨m, found, front⟩ := Floating.scan?_of_integer scanned
    exact ⟨_, ⟨m, found, rfl⟩, front⟩
  · rw [← Floating.scan?_alone_iff]
    simp only [exists_comm, exists_and_left, exists_eq', and_true]
  · rintro _ ⟨n, scanned, rfl⟩ ⟨m, found, same⟩ short
    obtain ⟨row, -⟩ := Integer.scan?_sound scanned
    obtain ⟨proper, -⟩ := Floating.scan?_sound found
    rw [Integer.countP_text row] at short
    refine ⟨m, n.denoted, proper, same, readFloating_of_scan? found, ?_, ?_⟩
    · obtain ⟨blanks, rest, start⟩ := scan?_dropBlanks_eq_some_iff.mp scanned
      rw [readInteger_of_startsWith start, if_pos short]
    · -- The text of a proper numeral is scanned to it alone.
      have alike : some m = some n.floating := by
        rw [← Floating.scan?_text proper, ← Floating.scan?_text (Integer.floating_proper row),
          n.floating_text, same]
      rw [Option.some.inj alike, n.floating_denoted]
  · have degenerate : readFloating text = .nan := by
      have read := (outcome_readNamed .floating text).symm.trans absent
      simpa [Form.read] using read
    have none : Integer.scan? (Text.dropBlanks text.toList) = none := by
      rw [readFloating_eq_nan_iff] at degenerate
      cases scanned : Integer.scan? (Text.dropBlanks text.toList) with
      | none => rfl
      | some n =>
          obtain ⟨m, found, -⟩ := Floating.scan?_of_integer scanned
          cases degenerate.symm.trans found
    refine (outcome_readNamed .integer text).trans ?_
    rw [Form.read, readInteger, none]

/-- Leading zeros, digits of two scripts and a suffix; and a text with no numeral in it. -/
theorem integer_within_floating_of_two_scripts :
    Pattern.integer.captured? "\u2003-00٤2uL".toList = some ['-', '0', '0', '٤', '2'] ∧
      Pattern.floating.captured? "\u2003-00٤2uL".toList = some ['-', '0', '0', '٤', '2'] ∧
      ['-', '0', '0', '٤', '2'].countP Text.isDecimalDigit ≤ 4300 ∧
      (∃ (n : Floating) (value : Int), n.Proper ∧ n.text = ['-', '0', '0', '٤', '2'] ∧
        readFloating "\u2003-00٤2uL" = n.value ∧
        readInteger "\u2003-00٤2uL" = .ok (.integer value) ∧ n.denoted = value) ∧
      (readNamed "floating" "-.e5").outcome = .ok (.double .nan) ∧
      (readNamed "integer" "-.e5").outcome = .ok (.double .nan) := by
  have short : Pattern.integer.captured? "\u2003-00٤2uL".toList =
      some ['-', '0', '0', '٤', '2'] := by decide
  have long : Pattern.floating.captured? "\u2003-00٤2uL".toList =
      some ['-', '0', '0', '٤', '2'] := by decide
  have count : ['-', '0', '0', '٤', '2'].countP Text.isDecimalDigit ≤ 4300 := by decide
  have absent : (readNamed "floating" "-.e5").outcome = .ok (.double .nan) := by decide
  exact ⟨short, long, count, (integer_within_floating _).2.2.1 _ short long count, absent,
    (integer_within_floating _).2.2.2 absent⟩

/-- An exponent belongs to the floating numeral alone. -/
example : Pattern.integer.captured? "1e5".toList = some ['1'] ∧
    Pattern.floating.captured? "1e5".toList = some ['1', 'e', '5'] := by
  decide

end Literal

end CursorLift
