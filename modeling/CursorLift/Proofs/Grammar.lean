import CursorLift.Literal.Floating
import Mathlib.Computability.Language

/-! # The grammar of numerals

The numerals as languages over characters, with digits of every script. A numeral that is taken
apart into sign, digits and exponent is proper when its text is in the language, and every text of
the language is that of a proper numeral.
-/

namespace CursorLift.Literal

open scoped Computability

/-! ## Languages -/

namespace Grammar

def digit : Language Char := {text | ∃ c, Text.isDecimalDigit c = true ∧ text = [c]}

def digits : Language Char := digit * digit∗

def sign : Language Char := {[], ['+'], ['-']}

/-- Digits with a point behind or among them, or in front. -/
def mantissa : Language Char := digits * (1 + {['.']} * digit∗) + {['.']} * digits

def exponent : Language Char := {['e'], ['E']} * sign * digits

def floating : Language Char := sign * mantissa * (1 + exponent)

end Grammar

/-- The longest text of a language at the front of a text. -/
structure Longest (language : Language Char) (text found : List Char) : Prop where
  front : found <+: text
  member : found ∈ language
  longest : ∀ other, other <+: text → other ∈ language → other.length ≤ found.length

theorem Longest.unique {language : Language Char} {text found other : List Char}
    (h : Longest language text found) (h' : Longest language text other) : found = other := by
  have same : found.length = other.length :=
    Nat.le_antisymm (h'.longest _ h.front h.member) (h.longest _ h'.front h'.member)
  exact (List.prefix_of_prefix_length_le h.front h'.front same.le).eq_of_length same

/-! ## Proper numerals -/

/-- Whether a text is a row of digits. -/
structure IsRow (text : List Char) : Prop where
  nonempty : text ≠ []
  all : ∀ c ∈ text, Text.isDecimalDigit c = true

structure Exponent.Proper (e : Exponent) : Prop where
  mark : e.mark = 'e' ∨ e.mark = 'E'
  row : IsRow e.digits

def Mantissa.digits (m : Mantissa) : List Char := m.whole ++ m.fraction.getD []

/-- Whether a numeral is one of the grammar. -/
structure Floating.Proper (n : Floating) : Prop where
  row : IsRow n.mantissa.digits
  exponent : ∀ e ∈ n.exponent, e.Proper

section Membership

variable {text : List Char}

theorem mem_digit_kstar : text ∈ Grammar.digit∗ ↔ ∀ c ∈ text, Text.isDecimalDigit c = true := by
  constructor
  · rintro ⟨parts, rfl, all⟩ c member
    obtain ⟨part, among, inside⟩ := List.mem_flatten.mp member
    obtain ⟨d, digit, rfl⟩ := all part among
    rwa [List.mem_singleton.mp inside]
  · intro all
    refine ⟨text.map ([·]), by rw [← List.flatMap_def, List.flatMap_singleton'], ?_⟩
    intro part among
    obtain ⟨c, member, rfl⟩ := List.mem_map.mp among
    exact ⟨c, all c member, rfl⟩

theorem mem_digits : text ∈ Grammar.digits ↔ IsRow text := by
  constructor
  · rintro ⟨_, ⟨d, digit, rfl⟩, more, all, rfl⟩
    refine ⟨nofun, fun c member => ?_⟩
    rcases List.mem_cons.mp member with rfl | member
    · exact digit
    · exact mem_digit_kstar.mp all c member
  · rintro ⟨nonempty, all⟩
    obtain ⟨d, more, rfl⟩ := List.exists_cons_of_ne_nil nonempty
    exact ⟨[d], ⟨d, all d List.mem_cons_self, rfl⟩, more,
      mem_digit_kstar.mpr fun c member => all c (List.mem_cons_of_mem _ member), rfl⟩

theorem mem_sign : text ∈ Grammar.sign ↔ ∃ sign, Sign.text sign = text := by
  constructor
  · rintro (rfl | rfl | rfl)
    · exact ⟨none, rfl⟩
    · exact ⟨some .plus, rfl⟩
    · exact ⟨some .minus, rfl⟩
  · rintro ⟨_ | _ | _, rfl⟩
    · exact .inl rfl
    · exact .inr (.inl rfl)
    · exact .inr (.inr rfl)

theorem mem_mantissa :
    text ∈ Grammar.mantissa ↔ ∃ m : Mantissa, IsRow m.digits ∧ m.text = text := by
  simp only [Grammar.mantissa, Language.mem_add, Language.mem_mul, Language.mem_one, mem_digits,
    mem_digit_kstar]
  constructor
  · rintro (⟨whole, row, _, rfl | ⟨_, rfl, fraction, all, rfl⟩, rfl⟩ | ⟨_, rfl, fraction, row, rfl⟩)
    · exact ⟨⟨whole, none⟩, by simpa [Mantissa.digits] using row, rfl⟩
    · refine ⟨⟨whole, some fraction⟩, ⟨?_, ?_⟩, rfl⟩
      · simp [Mantissa.digits, row.nonempty]
      · simpa [Mantissa.digits, or_imp, forall_and] using ⟨row.all, all⟩
    · exact ⟨⟨[], some fraction⟩, row, rfl⟩
  · rintro ⟨⟨whole, _ | fraction⟩, row, rfl⟩
    · exact .inl ⟨whole, by simpa [Mantissa.digits] using row, [], .inl rfl, rfl⟩
    · obtain ⟨nonempty, all⟩ := row
      simp only [Mantissa.digits, Option.getD_some, List.mem_append, or_imp, forall_and] at all
      by_cases none : whole = []
      · subst none
        exact .inr ⟨_, rfl, fraction, ⟨nonempty, all.2⟩, rfl⟩
      · exact .inl ⟨whole, ⟨none, all.1⟩, _, .inr ⟨_, rfl, fraction, all.2, rfl⟩, rfl⟩

theorem mem_exponent :
    text ∈ 1 + Grammar.exponent ↔
      ∃ e : Option Exponent, (∀ power ∈ e, power.Proper) ∧ Exponent.text e = text := by
  simp only [Grammar.exponent, Language.mem_add, Language.mem_mul, Language.mem_one, mem_digits,
    mem_sign]
  constructor
  · rintro (rfl | ⟨_, ⟨mark, marked, _, ⟨sign, rfl⟩, rfl⟩, digits, row, rfl⟩)
    · exact ⟨none, nofun, rfl⟩
    · obtain ⟨c, same, spelled⟩ : ∃ c, (c = 'e' ∨ c = 'E') ∧ mark = [c] := by
        rcases marked with rfl | rfl
        · exact ⟨'e', .inl rfl, rfl⟩
        · exact ⟨'E', .inr rfl, rfl⟩
      refine ⟨some ⟨c, sign, digits⟩, ?_, by simp [Exponent.text, spelled]⟩
      rintro _ ⟨⟩
      exact ⟨same, row⟩
  · rintro ⟨_ | ⟨mark, sign, digits⟩, proper, rfl⟩
    · exact .inl rfl
    · obtain ⟨marked, row⟩ := proper _ rfl
      refine .inr ⟨_, ⟨[mark], ?_, _, ⟨sign, rfl⟩, rfl⟩, digits, row, rfl⟩
      rcases marked with rfl | rfl
      · exact .inl rfl
      · exact .inr rfl

theorem mem_floating :
    text ∈ Grammar.floating ↔ ∃ n : Floating, n.Proper ∧ n.text = text := by
  simp only [Grammar.floating, Language.mem_mul, mem_sign, mem_mantissa, mem_exponent]
  constructor
  · rintro ⟨_, ⟨_, ⟨sign, rfl⟩, _, ⟨m, row, rfl⟩, rfl⟩, _, ⟨e, proper, rfl⟩, rfl⟩
    exact ⟨⟨sign, m, e⟩, ⟨row, proper⟩, rfl⟩
  · rintro ⟨⟨sign, m, e⟩, ⟨row, proper⟩, rfl⟩
    exact ⟨_, ⟨_, ⟨sign, rfl⟩, _, ⟨m, row, rfl⟩, rfl⟩, _, ⟨e, proper, rfl⟩, rfl⟩

end Membership

end CursorLift.Literal
