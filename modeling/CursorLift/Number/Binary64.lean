/-! # Double-precision numbers

A finite number of the format binary64 is a sign and a rank: the place of its
magnitude among all finite magnitudes in increasing order, zero being the first.
Counted in units of 2^-1074, the least positive magnitude, every magnitude is a
natural number, so rounding a decimal to the nearest double is exact arithmetic on
naturals. Powers are those of `Nat.pow`, so nothing else enters.
-/

namespace CursorLift

namespace Binary64

/-- How many magnitudes a binade has: 2^52. -/
def binade : Nat := Nat.pow 2 52

/-- How many finite magnitudes there are; the rank after the last stands for infinity. -/
def ranks : Nat := 2047 * binade

end Binary64

/-- A double-precision number. -/
inductive Binary64 where
  /-- No number at all. -/
  | nan
  /-- An infinity. -/
  | infinite (negative : Bool)
  /-- A zero or any other finite number. -/
  | finite (negative : Bool) (rank : Fin Binary64.ranks)
  deriving Repr, DecidableEq

namespace Binary64

def zero (negative : Bool) : Binary64 := .finite negative ⟨0, by decide⟩

def isNaN : Binary64 → Bool
  | .nan => true
  | _ => false

/-- How many units there are in one: 2^1074. -/
def unitsInOne : Nat := Nat.pow 2 1074

/-- The magnitude of a rank, in units of 2^-1074. From the second binade on, the
magnitudes of a binade are twice as far apart as those of the binade before. -/
def units (rank : Nat) : Nat :=
  if rank / binade = 0 then rank
  else (binade + rank % binade) * Nat.pow 2 (rank / binade - 1)

/-- The natural number nearest to a quotient; a half goes to the even neighbour. -/
def roundDiv (numerator denominator : Nat) : Nat :=
  let floor := numerator / denominator
  let twice := 2 * (numerator % denominator)
  if twice < denominator then floor
  else if denominator < twice then floor + 1
  else floor + floor % 2

/-- The rank nearest to a quotient of units. Below 2^53 units ranks and units are the
same; above, the quotient is first scaled down to the 53 binary digits of its binade,
and a significand that rounds up to 2^53 is the first of the next binade. -/
def nearestRank (numerator denominator : Nat) : Nat :=
  let shift := Nat.log2 (numerator / denominator) - 52
  shift * binade + roundDiv numerator (denominator * Nat.pow 2 shift)

/-- The number nearest to a quotient of units: infinite beyond the last rank. -/
def ofUnits (negative : Bool) (numerator denominator : Nat) : Binary64 :=
  if h : nearestRank numerator denominator < ranks then
    .finite negative ⟨nearestRank numerator denominator, h⟩
  else .infinite negative

/-- The number nearest to `significand * 10 ^ exponent`. An exponent that alone decides
the answer is met without computing its power: from 10^309 on all is infinite, and
since 2^3 < 10 a significand of `b` binary digits is below half the least magnitude
when its exponent is at most `-(b + 1075) / 3`. -/
def ofDecimal (negative : Bool) (significand : Nat) (exponent : Int) : Binary64 :=
  if significand = 0 then zero negative
  else match exponent with
    | .ofNat e =>
      if 309 ≤ e then .infinite negative
      else ofUnits negative (significand * Nat.pow 10 e * unitsInOne) 1
    | .negSucc e =>
      if Nat.log2 significand + 1076 ≤ 3 * (e + 1) then zero negative
      else ofUnits negative (significand * unitsInOne) (Nat.pow 10 (e + 1))

/-- The sign in the word that encodes a number: its highest bit. -/
def signBit (negative : Bool) : Nat := if negative then 0x8000000000000000 else 0

/-- The word that encodes a number that is one: sign, then rank. -/
def word? : Binary64 → Option Nat
  | .nan => none
  | .infinite negative => some (signBit negative + ranks)
  | .finite negative rank => some (signBit negative + rank.val)

end Binary64

end CursorLift
