import CursorLift.Number.Binary64

/-! # Shortest decimals

The decimal that stands for a finite double in text: of all decimals that read back
as that double, one with the fewest digits, and of those the nearest. Reading back is
tested with the rounding of the number module itself, so the printed text and the
reader cannot drift apart.
-/

namespace CursorLift

structure Decimal where
  significand : Nat
  exponent : Int
  deriving Repr, DecidableEq

namespace Decimal

/-- Whether a decimal is read as the number of a rank. -/
def readsAs (d : Decimal) (rank : Fin Binary64.ranks) : Bool :=
  Binary64.ofDecimal false d.significand d.exponent == .finite false rank

/-- A magnitude given in units, divided by `10 ^ exponent`, as numerator and denominator. -/
def gridRatio (units : Nat) (exponent : Int) : Nat × Nat :=
  match exponent with
  | .ofNat e => (units, Binary64.unitsInOne * Nat.pow 10 e)
  | .negSucc e => (units * Nat.pow 10 (e + 1), Binary64.unitsInOne)

/-- Whether a magnitude given in units is at least `10 ^ exponent`. -/
def reaches (units : Nat) (exponent : Int) : Bool :=
  let (numerator, denominator) := gridRatio units exponent
  denominator ≤ numerator

/-- The exponent of the first digit of a positive magnitude: the largest power of ten
that it reaches. All finite doubles lie between the two ends of the search. -/
def leadingExponent (units : Nat) : Int :=
  (((List.range 633).map fun (i : Nat) => (308 : Int) - i).find? (reaches units)).getD (-324)

/-- The better of the two multiples of `10 ^ exponent` around a number, of those that
read back as it: the nearer, and of two as near the even one. -/
def onGrid? (rank : Fin Binary64.ranks) (exponent : Int) : Option Decimal :=
  let (numerator, denominator) := gridRatio (Binary64.units rank) exponent
  let below : Decimal := ⟨numerator / denominator, exponent⟩
  let above : Decimal := ⟨numerator / denominator + 1, exponent⟩
  match below.readsAs rank, above.readsAs rank with
  | true, true =>
    if Binary64.roundDiv numerator denominator = below.significand then some below
    else some above
  | true, false => some below
  | false, true => some above
  | false, false => none

/-- The exact decimal of a magnitude: 2^-1074 is `5 ^ 1074 * 10 ^ -1074`. -/
def exact (units : Nat) : Decimal := ⟨units * Nat.pow 5 1074, -1074⟩

/-- The shortest decimal of a positive finite number: the first grid, of one to seventeen
digits, on which a neighbour of the number reads back. -/
def shortest (rank : Fin Binary64.ranks) : Decimal :=
  let leading := leadingExponent (Binary64.units rank)
  ((List.range 17).findSome? fun (i : Nat) => onGrid? rank (leading - i)).getD
    (exact (Binary64.units rank))

end Decimal

end CursorLift
