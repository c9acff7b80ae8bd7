/-
# Exact values and rounding

Every finite float is a whole number of units of its format, and a unit is a
negative power of two. Conversion between formats, from integers and from
quotients goes through that exact value and rounds once, to the nearest float and
to the even one of two. Conversion to an integer drops the fraction.
-/

import VectorRequests.Float.Format

namespace VectorRequests.Binary

-- Powers are those of the core library, whichever monoids are in scope.
attribute [local instance (high)] instPowNat

variable {f : FloatFormat}

/-- The float nearest to a signed quotient of natural numbers. -/
def ofQuotient (negative : Bool) (n d : Nat) : Binary f :=
  ofRank negative (f.nearestRank (n * 2 ^ f.finestBits) d)

/-- The float nearest to an integer; zero is positive. -/
def nearestInt (i : Int) : Binary f :=
  ofQuotient (i < 0) i.natAbs 1

/-- The float nearest to an integer, unless that is out of range. -/
def ofInt? (i : Int) : Option (Binary f) :=
  let x := nearestInt i
  if x.isInfinite then none else some x

/-- The same number in another format, rounded where it has to be. Numbers above
the range of the format become infinite. -/
def convert {g : FloatFormat} : Binary f → Binary g
  | .nan => .nan
  | .number negative r =>
    if r.val = f.infinityRank then ofRank negative g.infinityRank
    else ofQuotient negative (f.units r.val) (2 ^ f.finestBits)

/-- A float in the range of single floats, if it is infinite only where the given
one is. -/
def narrow? (x : Binary f) : Option Single :=
  let y : Single := x.convert
  if y.isInfinite && x.isFinite then none else some y

/-- The integer that is left of a finite float without its fraction. -/
def truncate? : Binary f → Option Int
  | .nan => none
  | .number negative r =>
    if r.val = f.infinityRank then none
    else
      let n := f.units r.val / 2 ^ f.finestBits
      some (if negative then -(n : Int) else n)

/-- The integer a float is equal to, if there is one. -/
def toInt? (x : Binary f) : Option Int :=
  match x with
  | .nan => none
  | .number _ r =>
    if f.units r.val % 2 ^ f.finestBits = 0 then x.truncate? else none

/-- The exact value of a finite float as a quotient of an integer by a power of
two. -/
def toQuotient? : Binary f → Option (Int × Nat)
  | .nan => none
  | .number negative r =>
    if r.val = f.infinityRank then none
    else
      let n := f.units r.val
      some (if negative then -(n : Int) else n, 2 ^ f.finestBits)

end VectorRequests.Binary
