/-
# Binary floating-point formats

A format is given by the widths of its fraction and exponent fields. The
magnitudes it holds, from zero to infinity, are numbered in increasing order;
that number is the `rank` of a magnitude and equals the bit pattern without the
sign. A float is a signed rank or the one not-a-number, so equal bit patterns and
equal floats are the same thing except that all not-a-numbers are one.
-/

namespace VectorRequests

-- Powers are those of the core library, whichever monoids are in scope.
attribute [local instance (high)] instPowNat

/-- The field widths of a binary floating-point format. -/
structure FloatFormat where
  fractionBits : Nat
  exponentBits : Nat
  deriving DecidableEq, Repr

namespace FloatFormat

/-- Two-byte floats. -/
def half : FloatFormat := ⟨10, 5⟩

/-- Four-byte floats. -/
def single : FloatFormat := ⟨23, 8⟩

/-- Eight-byte floats. -/
def double : FloatFormat := ⟨52, 11⟩

variable (f : FloatFormat)

/-- How many magnitudes share one exponent. -/
def binade : Nat := 2 ^ f.fractionBits

/-- The bits below the sign. -/
def magnitudeBits : Nat := f.fractionBits + f.exponentBits

/-- The bytes of a float. -/
def byteCount : Nat := (f.magnitudeBits + 1) / 8

/-- The rank of infinity, the largest magnitude. -/
def infinityRank : Nat := (2 ^ f.exponentBits - 1) * f.binade

/-- The least magnitude above zero is two to the power of minus this. -/
def finestBits : Nat := 2 ^ (f.exponentBits - 1) + f.fractionBits - 2

/-- A finite magnitude in units of the least one above zero. -/
def units (rank : Nat) : Nat :=
  if rank < f.binade then rank
  else (f.binade + rank % f.binade) * 2 ^ (rank / f.binade - 1)

/-- The number of units of a magnitude that lies at most half a unit away from a
quotient, the even one of two. -/
def roundHalfEven (n d : Nat) : Nat :=
  if 2 * (n % d) < d then n / d
  else if d < 2 * (n % d) then n / d + 1
  else n / d + n / d % 2

/-- The rank of the magnitude nearest to `n / d` units, the even one of two.
Magnitudes from half a step above the largest finite one on count as infinite. -/
def nearestRank (n d : Nat) : Nat :=
  let shift := (n / d).log2 - f.fractionBits
  min (shift * f.binade + roundHalfEven n (d * 2 ^ shift)) f.infinityRank

theorem nearestRank_le_infinityRank (n d : Nat) : f.nearestRank n d ≤ f.infinityRank :=
  Nat.min_le_right ..

end FloatFormat

/-- A float of a format: a sign and a magnitude, or not a number. -/
inductive Binary (f : FloatFormat)
  | nan
  | number (negative : Bool) (rank : Fin (f.infinityRank + 1))
  deriving DecidableEq

abbrev Half := Binary .half
abbrev Single := Binary .single
abbrev Double := Binary .double

namespace Binary

variable {f : FloatFormat}

/-- The float with a sign and a rank; ranks past infinity give infinity. -/
def ofRank (negative : Bool) (rank : Nat) : Binary f :=
  .number negative ⟨min rank f.infinityRank, by omega⟩

/-- Positive zero. -/
def zero : Binary f := ofRank false 0

instance : Inhabited (Binary f) := ⟨zero⟩

/-- Whether a float is an infinity. -/
def isInfinite : Binary f → Bool
  | .nan => false
  | .number _ r => r.val == f.infinityRank

/-- Whether a float is a number and not infinite. -/
def isFinite : Binary f → Bool
  | .nan => false
  | .number _ r => r.val != f.infinityRank

/-- Whether a float differs from zero; not-a-number does. -/
def isNonzero : Binary f → Bool
  | .nan => true
  | .number _ r => r.val != 0

/-- The bit pattern. The one not-a-number is written as the quiet one. -/
def toBits : Binary f → Nat
  | .nan => f.infinityRank + 2 ^ (f.fractionBits - 1)
  | .number negative r => (if negative then 2 ^ f.magnitudeBits else 0) + r.val

/-- The float with a bit pattern. -/
def ofBits (bits : Nat) : Binary f :=
  let magnitude := bits % 2 ^ f.magnitudeBits
  if magnitude ≤ f.infinityRank then
    ofRank (bits / 2 ^ f.magnitudeBits % 2 == 1) magnitude
  else
    .nan

end Binary

end VectorRequests
