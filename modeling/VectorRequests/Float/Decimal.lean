/-
# Decimal numbers and floats

A decimal number is a natural number times a power of ten. `Binary.ofDecimal`
rounds one to the nearest float. In the other direction `shortest` finds the
decimal number with the fewest digits that rounds back to a given magnitude; of
two with equally few digits it takes the one closer to the magnitude.
-/

import VectorRequests.Float.Rounding
import VectorRequests.Text.Integer

namespace VectorRequests

open VectorRequests.Text

-- Powers are those of the core library, whichever monoids are in scope.
attribute [local instance (high)] instPowNat

/-- The number `digits * 10 ^ exponent`. -/
structure Decimal where
  digits : Nat
  exponent : Int
  deriving DecidableEq, Repr

namespace Decimal

/-- The decimal number as a quotient of natural numbers. -/
def quotient (x : Decimal) : Nat × Nat :=
  if 0 ≤ x.exponent then (x.digits * 10 ^ x.exponent.toNat, 1)
  else (x.digits, 10 ^ (-x.exponent).toNat)

/-- How many decimal digits a number is written with. -/
def digitCount (n : Nat) : Nat :=
  (Integer.digitsOf n).length

/-- The same number without trailing zeros, at most `fuel` of them. -/
def stripZeros : (fuel : Nat) → Decimal → Decimal
  | 0, x => x
  | fuel + 1, x =>
    if x.digits ≠ 0 ∧ x.digits % 10 = 0 then stripZeros fuel ⟨x.digits / 10, x.exponent + 1⟩ else x

/-- The exponent of the first digit of a positive quotient. -/
def leadingExponent (n d : Nat) : Int :=
  if d ≤ n then (digitCount (n / d) : Int) - 1
  else -(digitCount ((n + d - 1) / n - 1) : Int)

/-- The largest decimal number with the given last place that is at most a
quotient. -/
def below (n d : Nat) (place : Int) : Decimal :=
  if 0 ≤ place then ⟨n / (d * 10 ^ place.toNat), place⟩
  else ⟨n * 10 ^ (-place).toNat / d, place⟩

/-- The next decimal number with the same last place. -/
def next (x : Decimal) : Decimal :=
  ⟨x.digits + 1, x.exponent⟩

/-- Whether a quotient is closer to the next decimal number than to this one; at
equal distance the one with an even last digit counts as closer. -/
def nextIsCloser (x : Decimal) (n d : Nat) : Bool :=
  let (a, b) := quotient ⟨2 * x.digits + 1, x.exponent⟩
  if 2 * n * b = a * d then x.digits % 2 == 1 else a * d < 2 * n * b

end Decimal

namespace Binary

variable (f : FloatFormat)

/-- The float nearest to a signed decimal number. Exponents far outside the range
of the format are settled without computing the power. -/
def ofDecimal (negative : Bool) (x : Decimal) : Binary f :=
  let reach : Int := 2 ^ f.exponentBits + f.fractionBits
  let magnitude := x.exponent + Decimal.digitCount x.digits
  if x.digits = 0 ∨ magnitude < -reach then ofRank negative 0
  else if reach < magnitude then ofRank negative f.infinityRank
  else ofQuotient negative x.quotient.1 x.quotient.2

/-- Whether a decimal number rounds to the magnitude of a rank. -/
def roundsTo (rank : Nat) (x : Decimal) : Bool :=
  f.nearestRank (x.quotient.1 * 2 ^ f.finestBits) x.quotient.2 == rank

/-- The closest decimal number with a given last place that rounds to a rank. -/
def closestAt? (rank : Nat) (place : Int) : Option Decimal :=
  let n := f.units rank
  let d := 2 ^ f.finestBits
  let low := Decimal.below n d place
  let closer := if low.nextIsCloser n d then [low.next, low] else [low, low.next]
  closer.find? (roundsTo f rank)

/-- Seventeen digits tell any two floats of at most eight bytes apart. -/
def maxDigits : Nat := 17

/-- The decimal number with the fewest digits that rounds to the magnitude of a
finite rank. -/
def shortest (rank : Nat) : Decimal :=
  if rank = 0 then ⟨0, 0⟩
  else
    let n := f.units rank
    let d := 2 ^ f.finestBits
    let first := Decimal.leadingExponent n d
    let found := (List.range maxDigits).findSome? fun (more : Nat) =>
      closestAt? f rank (first - more)
    (found.getD (Decimal.below n d (first - maxDigits))).stripZeros maxDigits

end Binary

end VectorRequests
