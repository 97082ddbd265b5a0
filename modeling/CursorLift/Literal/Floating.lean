import CursorLift.Literal.Integer
import CursorLift.Number.Binary64

/-! # Floating numerals

A floating numeral is an optional sign, digits with an optional point among them and
an optional exponent. Digits may be missing on one side of the point, but not on both,
and an exponent without digits is no part of the numeral.
-/

namespace CursorLift.Literal

/-- The exponent of a floating numeral: its mark, `e` or `E`, a sign and digits. -/
structure Exponent where
  mark : Char
  sign : Option Sign
  digits : List Char
  deriving Repr, DecidableEq

namespace Exponent

def text : Option Exponent → List Char
  | none => []
  | some e => e.mark :: (Sign.text e.sign ++ e.digits)

/-- The power of ten that an exponent, or the lack of one, denotes. -/
def value : Option Exponent → Int
  | none => 0
  | some e => Integer.value ⟨e.sign, e.digits⟩

/-- The exponent at the front of a text. -/
def scan? : List Char → Option Exponent
  | [] => none
  | mark :: rest =>
    if mark = 'e' ∨ mark = 'E' then
      (Integer.scan? rest).map fun power => ⟨mark, power.sign, power.digits⟩
    else none

end Exponent

/-- The digits of a floating numeral: those before the point, and those after it when
there is one. -/
structure Mantissa where
  whole : List Char
  fraction : Option (List Char)
  deriving Repr, DecidableEq

namespace Mantissa

def text (m : Mantissa) : List Char :=
  m.whole ++ match m.fraction with
    | none => []
    | some digits => '.' :: digits

/-- The mantissa at the front of a text, with what follows it. -/
def scan? (text : List Char) : Option (Mantissa × List Char) :=
  match leadingDigits text, afterDigits text with
  | [], '.' :: rest =>
    match leadingDigits rest with
    | [] => none
    | digits => some (⟨[], some digits⟩, afterDigits rest)
  | [], _ => none
  | whole, '.' :: rest => some (⟨whole, some (leadingDigits rest)⟩, afterDigits rest)
  | whole, rest => some (⟨whole, none⟩, rest)

/-- All digits of a mantissa, read as one whole number. -/
def significand (m : Mantissa) : Nat := Text.digitsValue (m.whole ++ m.fraction.getD [])

def places (m : Mantissa) : Nat := (m.fraction.getD []).length

end Mantissa

/-- A floating numeral as it is written. -/
structure Floating where
  sign : Option Sign
  mantissa : Mantissa
  exponent : Option Exponent
  deriving Repr, DecidableEq

namespace Floating

def text (n : Floating) : List Char :=
  Sign.text n.sign ++ n.mantissa.text ++ Exponent.text n.exponent

/-- The double nearest to the number that a numeral denotes. -/
def value (n : Floating) : Binary64 :=
  Binary64.ofDecimal (Sign.isNegative n.sign) n.mantissa.significand
    (Exponent.value n.exponent - n.mantissa.places)

def scan? (text : List Char) : Option Floating :=
  let (sign, rest) := Sign.scan text
  (Mantissa.scan? rest).map fun (mantissa, rest) => ⟨sign, mantissa, Exponent.scan? rest⟩

end Floating

end CursorLift.Literal
