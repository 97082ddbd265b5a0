import CursorLift.Number.Shortest

/-! # Written doubles

A finite double is written with its shortest digits. From 0.00001 up to, and without,
10^16 the digits stand around a point, with at least one digit on either side;
elsewhere the first digit stands before the point and a signed power of ten follows.
-/

namespace CursorLift

namespace Decimal

/-- The digits of a decimal without trailing zeros. -/
def digits (d : Decimal) : List Char :=
  ((Nat.toDigits 10 d.significand).reverse.dropWhile (· == '0')).reverse

/-- The power of ten of a decimal's first digit. -/
def scale (d : Decimal) : Int :=
  d.exponent + (Nat.toDigits 10 d.significand).length - 1

/-- Digits whose first has the value of `10 ^ scale`, around a point. -/
def positional (digits : List Char) (scale : Int) : List Char :=
  match scale with
  | .ofNat s =>
    let whole := digits.take (s + 1)
    let fraction := digits.drop (s + 1)
    whole ++ List.replicate (s + 1 - whole.length) '0' ++ '.' ::
      (if fraction.isEmpty then ['0'] else fraction)
  | .negSucc s => '0' :: '.' :: (List.replicate s '0' ++ digits)

/-- Digits with a point after the first, if there are more, and a signed power of ten. -/
def scientific (digits : List Char) (scale : Int) : List Char :=
  let mantissa := match digits with
    | [] => []
    | [d] => [d]
    | d :: fraction => d :: '.' :: fraction
  mantissa ++ 'e' :: (if scale < 0 then '-' else '+') :: Nat.toDigits 10 scale.natAbs

def written (d : Decimal) : List Char :=
  if -5 ≤ d.scale ∧ d.scale < 16 then positional d.digits d.scale
  else scientific d.digits d.scale

end Decimal

namespace Binary64

/-- The text of a finite number; infinities and what is no number have none. -/
def written? : Binary64 → Option String
  | .nan => none
  | .infinite _ => none
  | .finite negative rank =>
    let magnitude := if rank.val = 0 then ['0', '.', '0'] else (Decimal.shortest rank).written
    some (String.ofList (if negative then '-' :: magnitude else magnitude))

end Binary64

end CursorLift
