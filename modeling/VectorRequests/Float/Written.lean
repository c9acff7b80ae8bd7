/-
# Floats written as text

A float is written with the fewest digits that read back. Numbers of middling size
are written with a point and at least one digit on both sides of it, others with one
digit before the point and an exponent of at least two digits: `write` draws the
line at 10⁻⁴ and 10¹⁶, `writeBelow` at 10⁻⁴ and a limit of its caller. Reading
accepts a sign, digits with a point anywhere among them, an exponent, the names of
infinity and not-a-number, single underscores between digits, and blanks around all
of it.
-/

import VectorRequests.Float.Decimal

namespace VectorRequests.Binary

open VectorRequests.Text

-- Powers are those of the core library, whichever monoids are in scope.
attribute [local instance (high)] instPowNat

variable {f : FloatFormat}

/-- Digits before and after a point that stands after the first `before` of them;
places that have no digit get zeros. -/
def splitAtPoint (ds : List Char) (before : Int) : List Char × List Char :=
  if before ≤ 0 then (['0'], List.replicate (-before).toNat '0' ++ ds)
  else
    (ds.take before.toNat ++ List.replicate (before.toNat - ds.length) '0',
      ds.drop before.toNat)

/-- The power of ten that the first digit of a decimal number stands for. -/
def leadingPower (x : Decimal) : Int :=
  x.exponent + (Integer.writeNat x.digits).length - 1

/-- The decimal number with a point in its place, and a digit on both sides of it. -/
def positional (x : Decimal) : List Char :=
  let (whole, rest) := splitAtPoint (Integer.writeNat x.digits) (leadingPower x + 1)
  whole ++ '.' :: (if rest.isEmpty then ['0'] else rest)

/-- The sign of an exponent and its digits, at least `width` of them. -/
def writeExponent (width : Nat) (exponent : Int) : List Char :=
  let places := Integer.writeNat exponent.natAbs
  (if exponent < 0 then '-' else '+') :: (List.replicate (width - places.length) '0' ++ places)

/-- The least number of digits of a written exponent. -/
def minExponentDigits : Nat := 2

/-- The decimal number with a point after its first digit, if more digits follow, and
an exponent. -/
def scientific (x : Decimal) : List Char :=
  let mantissa := match Integer.writeNat x.digits with
    | [] => []
    | [d] => [d]
    | d :: rest => d :: '.' :: rest
  mantissa ++ 'e' :: writeExponent minExponentDigits (leadingPower x)

/-- A magnitude with its sign; infinity has a name, and finite magnitudes are written
as `finite` says. -/
def writeSigned (finite : Nat → List Char) : Binary f → String
  | .nan => "nan"
  | .number negative r =>
    let magnitude := if r.val = f.infinityRank then "inf".toList else finite r.val
    String.ofList (if negative then '-' :: magnitude else magnitude)

/-- The text of a float. The digits decide where its point stands: powers of ten from
-4 to 15 are written out. -/
def write (x : Binary f) : String :=
  x.writeSigned fun rank =>
    let decimal := shortest f rank
    if -4 ≤ leadingPower decimal ∧ leadingPower decimal < 16 then positional decimal
    else scientific decimal

/-- Whether a magnitude is below a limit. -/
def isBelow (f : FloatFormat) (rank limit : Nat) : Bool :=
  f.units rank < limit * 2 ^ f.finestBits

/-- The text of a float whose magnitude decides where its point stands: zero and
magnitudes from 10⁻⁴ to below `limit` are written out. -/
def writeBelow (limit : Nat) (x : Binary f) : String :=
  x.writeSigned fun rank =>
    let decimal := shortest f rank
    if rank = 0 ∨ 2 ^ f.finestBits ≤ f.units rank * 10 ^ (4 : Nat) ∧ isBelow f rank limit then
      positional decimal
    else scientific decimal

/-- The ASCII form of a character of a number: blanks of any kind become spaces
and digits of any script become ASCII digits. -/
def plainChar (c : Char) : Char :=
  if isWhiteSpace c then ' '
  else match digit? c with
    | some d => digitChar d
    | none => c

/-- The text without its underscores, each of which must stand between two
digits. -/
def dropUnderscores : Bool → List Char → Option (List Char)
  | _, [] => some []
  | afterDigit, '_' :: c :: rest =>
    if afterDigit && c.isDigit then (dropUnderscores true rest).map (c :: ·) else none
  | _, c :: rest =>
    if c == '_' then none
    else (dropUnderscores c.isDigit rest).map (c :: ·)

/-- The exponent part of a number, which may be missing. -/
def readExponent? : List Char → Option Int
  | [] => some 0
  | c :: rest =>
    if c == 'e' || c == 'E' then
      let (negative, ds) := Integer.splitSign rest
      if ds.isEmpty then none
      else (ds.mapM asciiDigit?).map fun ds => Integer.signed negative (Integer.ofDigits ds)
    else
      none

/-- A number without sign: digits with an optional point and exponent. -/
def readDecimal? (s : List Char) : Option Decimal := do
  let whole := s.takeWhile Char.isDigit
  let rest := s.dropWhile Char.isDigit
  let (fraction, rest) := match rest with
    | '.' :: rest => (rest.takeWhile Char.isDigit, rest.dropWhile Char.isDigit)
    | rest => ([], rest)
  if whole.isEmpty && fraction.isEmpty then
    none
  else
    let exponent ← readExponent? rest
    let digits ← (whole ++ fraction).mapM asciiDigit?
    return ⟨Integer.ofDigits digits, exponent - fraction.length⟩

/-- A number without sign, or the name of a special value. -/
def readMagnitude? (negative : Bool) (s : List Char) : Option (Binary f) :=
  let name := String.ofList (s.map Char.toLower)
  if name == "inf" || name == "infinity" then some (ofRank negative f.infinityRank)
  else if name == "nan" then some .nan
  else (readDecimal? s).map (ofDecimal f negative)

/-- Reads the text of a float. -/
def read? (s : String) : Option (Binary f) := do
  let s ← dropUnderscores false (trimBoth (· == ' ') (s.toList.map plainChar))
  let (negative, s) := Integer.splitSign s
  readMagnitude? negative s

end VectorRequests.Binary
