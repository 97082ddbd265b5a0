import CursorLift.Proofs.Digits
import CursorLift.Proofs.Scanning

/-! # Plain numerals

A plain numeral has ASCII digits, at least one on each side of a point, and no zero in front of
others. Scanning the text of a plain numeral finds that numeral, and the text is a JSON number as
long as it has no plus sign in front.
-/

namespace CursorLift.Literal

open Json (IsDigits)

variable {digits : List Char}

structure Mantissa.Plain (m : Mantissa) : Prop where
  whole : IsDigits m.whole
  lead : m.whole.head? = some '0' → m.whole = ['0']
  fraction : ∀ digits, m.fraction = some digits → IsDigits digits

structure Exponent.Plain (e : Exponent) : Prop where
  mark : e.mark = 'e'
  digits : IsDigits e.digits

structure Floating.Plain (n : Floating) : Prop where
  mantissa : n.mantissa.Plain
  exponent : ∀ e, n.exponent = some e → e.Plain

theorem IsRow.of_isDigits (h : IsDigits digits) : IsRow digits :=
  ⟨h.nonempty, fun c member => Text.isDecimalDigit_of_isDigit (h.all c member)⟩

theorem Mantissa.Plain.row {m : Mantissa} (h : m.Plain) : IsRow m.digits := by
  refine (IsRow.of_isDigits h.whole).append fun c member => ?_
  cases behind : m.fraction with
  | none => simp [behind] at member
  | some digits =>
      rw [behind] at member
      exact Text.isDecimalDigit_of_isDigit ((h.fraction digits behind).all c member)

theorem Floating.Plain.proper {n : Floating} (h : n.Plain) : n.Proper := by
  refine ⟨h.mantissa.row, fun e given => ?_⟩
  have plain := h.exponent e given
  exact ⟨.inl plain.mark, .of_isDigits plain.digits⟩

/-! ## JSON numbers -/

theorem Exponent.dropExponent?_text {e : Option Exponent}
    (h : ∀ some, e = .some some → some.Plain) :
    Json.dropExponent? (Exponent.text e) = some [] := by
  cases e with
  | none => rfl
  | some e =>
      obtain ⟨mark, sign, digits⟩ := e
      obtain ⟨rfl, plain⟩ := h _ rfl
      have dropped : Json.dropDigits? (digits ++ []) = some [] :=
        Json.dropDigits?_append plain (by simp)
      rw [List.append_nil] at dropped
      cases sign with
      | some sign => cases sign <;> exact dropped
      | none =>
          obtain ⟨d, more, rfl⟩ := List.exists_cons_of_ne_nil plain.nonempty
          have plus : d ≠ '+' := plain.ne_of_mem List.mem_cons_self (by decide)
          have minus : d ≠ '-' := plain.ne_of_mem List.mem_cons_self (by decide)
          simp [Exponent.text, Sign.text, Json.dropExponent?, plus, minus, dropped]

theorem Mantissa.dropWhole?_text {m : Mantissa} (h : m.Plain) {rest : List Char}
    (stop : ∀ c ∈ rest.head?, c.isDigit = false) (pointless : rest.head? ≠ some '.') :
    (Json.dropWhole? (m.text ++ rest)).bind Json.dropFraction? = some rest := by
  obtain ⟨whole, fraction⟩ := m
  obtain ⟨plain, lead, fractions⟩ := h
  cases fraction with
  | none =>
      rw [Mantissa.text, List.append_nil, Json.dropWhole?_append plain lead stop, Option.bind_some]
      cases rest with
      | nil => rfl
      | cons c rest =>
          have plain : c ≠ '.' := by
            rintro rfl
            exact pointless rfl
          simp [Json.dropFraction?, plain]
  | some digits =>
      have point : ∀ c ∈ ('.' :: (digits ++ rest)).head?, c.isDigit = false := by
        intro c first
        cases first
        decide
      have spelled : Mantissa.text ⟨whole, some digits⟩ ++ rest =
          whole ++ '.' :: (digits ++ rest) := by simp [Mantissa.text]
      rw [spelled, Json.dropWhole?_append plain lead point, Option.bind_some]
      exact Json.dropDigits?_append (fractions digits rfl) stop

/-- The text of a plain numeral is a JSON number unless a plus sign stands in front. -/
theorem Floating.isNumber_text {n : Floating} (h : n.Plain) (unsigned : n.sign ≠ some .plus) :
    Json.isNumber n.text = true := by
  have ends := Exponent.stops h.proper.exponent
  obtain ⟨sign, mantissa, exponent⟩ := n
  obtain ⟨plain, exponents⟩ := h
  have stop (c : Char) (first : c ∈ (Exponent.text exponent).head?) : c.isDigit = false := by
    by_contra digit
    have decimal := Text.isDecimalDigit_of_isDigit (eq_true_of_ne_false digit)
    exact absurd decimal (by simp [(ends c first).1])
  have dropped := Mantissa.dropWhole?_text plain stop fun first => (ends '.' first).2 rfl
  have minus : (mantissa.text ++ Exponent.text exponent).head? ≠ some '-' := by
    obtain ⟨whole, fraction⟩ := mantissa
    obtain ⟨d, more, rfl⟩ := List.exists_cons_of_ne_nil plain.whole.nonempty
    have digit : d ≠ '-' := plain.whole.ne_of_mem List.mem_cons_self (by decide)
    simpa [Mantissa.text] using digit
  have number (negative : Bool) := Json.isNumber_signed minus negative
  rw [dropped, Option.bind_some, Exponent.dropExponent?_text exponents] at number
  cases sign with
  | none => exact number false
  | some sign =>
      cases sign with
      | plus => exact absurd rfl unsigned
      | minus => exact number true

end CursorLift.Literal
