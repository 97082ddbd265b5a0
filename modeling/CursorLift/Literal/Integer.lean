import CursorLift.Text.Basic

/-! # Integer numerals

An integer numeral is an optional sign and a row of decimal digits. Scanning a text
takes the numeral at its front; a suffix, or a base mark such as the `x` of `0x1F`,
is where the numeral ends.
-/

namespace CursorLift.Literal

inductive Sign where
  | plus
  | minus
  deriving Repr, DecidableEq

namespace Sign

def char : Sign → Char
  | .plus => '+'
  | .minus => '-'

/-- The characters that write a sign or the lack of one. -/
def text : Option Sign → List Char
  | none => []
  | some sign => [sign.char]

/-- Takes a sign off the front of a text. -/
def scan : List Char → Option Sign × List Char
  | [] => (none, [])
  | c :: rest =>
    if c = '+' then (some .plus, rest)
    else if c = '-' then (some .minus, rest)
    else (none, c :: rest)

/-- Whether a written sign, or the lack of one, makes a number negative. -/
def isNegative (sign : Option Sign) : Bool := sign == some .minus

end Sign

/-- The run of decimal digits at the front of a text. -/
def leadingDigits (text : List Char) : List Char := text.takeWhile Text.isDecimalDigit

def afterDigits (text : List Char) : List Char := text.dropWhile Text.isDecimalDigit

/-- An integer numeral as it is written. -/
structure Integer where
  sign : Option Sign
  digits : List Char
  deriving Repr, DecidableEq

namespace Integer

def text (n : Integer) : List Char := Sign.text n.sign ++ n.digits

/-- The number that a numeral denotes. -/
def value (n : Integer) : Int :=
  if Sign.isNegative n.sign then -(Text.digitsValue n.digits : Int)
  else Text.digitsValue n.digits

def scan? (text : List Char) : Option Integer :=
  let (sign, rest) := Sign.scan text
  match leadingDigits rest with
  | [] => none
  | digits => some ⟨sign, digits⟩

/-- The most digits, leading zeros counted, that an integer numeral may have. -/
def digitLimit : Nat := 4300

end Integer

end CursorLift.Literal
