/-
# Cells aligned in a column

The cells of a tensor are written in one form for all. Integers and truth values stand
at the right of a column as wide as the widest of them. Floats are written with at most
eight places after the point and without zeros at the end; their points stand in a
column. If the largest finite magnitude is too large, the smallest one above zero too
small, or the two too far apart, all of them are written with an exponent, and then
with equally many places.
-/

import VectorRequests.Number.Written
import VectorRequests.Number.Tensor

namespace VectorRequests

open VectorRequests.Text

-- Powers are those of the core library, whichever monoids are in scope.
attribute [local instance (high)] instPowNat

/-- A text filled with blanks at its left. -/
def padLeft (width : Nat) (s : List Char) : List Char :=
  List.replicate (width - s.length) ' ' ++ s

/-- A text filled with a character at its right. -/
def padRight (c : Char) (width : Nat) (s : List Char) : List Char :=
  s ++ List.replicate (width - s.length) c

/-- The largest of some numbers. -/
def largest (ns : List Nat) : Nat :=
  ns.foldl max 0

namespace Binary

variable {f : FloatFormat}

/-- The most places after the point of a float in a column. -/
def maxPlaces : Nat := 8

/-- The decimal number with a last place that is nearest to the magnitude of a rank,
without zeros at its end. -/
def roundedAt (f : FloatFormat) (rank : Nat) (place : Int) : Decimal :=
  let n := f.units rank
  let d := 2 ^ f.finestBits
  let low := Decimal.below n d place
  let near := if low.nextIsCloser n d then low.next else low
  near.stripZeros (Decimal.digitCount near.digits)

/-- The shortest decimal number of a rank, if its last place is not below `place`, and
otherwise the nearest one with that last place. -/
def shortestAt (f : FloatFormat) (rank : Nat) (place : Int) : Decimal :=
  let x := shortest f rank
  if place ≤ x.exponent then x else roundedAt f rank place

/-- A float taken apart for a column: what stands before its point and after it, and
its decimal exponent if it is written with one. -/
structure Parts where
  whole : List Char
  fraction : List Char
  exponent : Option Int

/-- The parts of a magnitude in a column with or without exponents. -/
def magnitudeParts (f : FloatFormat) (scientific : Bool) (rank : Nat) : Parts :=
  if scientific then
    let x := shortestAt f rank (leadingPower (shortest f rank) - maxPlaces)
    let ds := Integer.writeNat x.digits
    ⟨ds.take 1, ds.drop 1, some (leadingPower x)⟩
  else
    let x := shortestAt f rank (-maxPlaces)
    let (whole, fraction) := splitAtPoint (Integer.writeNat x.digits) (leadingPower x + 1)
    ⟨whole, fraction, none⟩

/-- The parts of a float, unless it is infinite or not a number. -/
def parts? (scientific : Bool) : Binary f → Option Parts
  | .nan => none
  | .number negative r =>
    if r.val = f.infinityRank then none
    else
      let parts := magnitudeParts f scientific r.val
      some (if negative then { parts with whole := '-' :: parts.whole } else parts)

/-- The rank of a finite float that is not zero. -/
def finiteRank? : Binary f → Option Nat
  | .nan => none
  | .number _ r => if r.val = 0 ∨ r.val = f.infinityRank then none else some r.val

/-- The most that the largest magnitude of a column without exponents may exceed the
smallest one. -/
def maxRatio : Nat := 1000

/-- Whether a quotient of two magnitudes, rounded to the format, exceeds `maxRatio`. -/
def isFarAbove (f : FloatFormat) (great small : Nat) : Bool :=
  (f.nearestRank (f.units great * 2 ^ f.finestBits) (f.units small)) >
    f.nearestRank (maxRatio * 2 ^ f.finestBits) 1

/-- Whether a column of floats is written with exponents. -/
def needsExponents (xs : List (Binary f)) : Bool :=
  match xs.filterMap finiteRank? with
  | [] => false
  | rank :: ranks =>
    let great := ranks.foldl max rank
    let small := ranks.foldl min rank
    !isBelow f great (10 ^ min maxPlaces f.precision) ||
      small < f.nearestRank (2 ^ f.finestBits) (10 ^ (4 : Nat)) ||
      isFarAbove f great small

/-- The widths of a column of floats: of the digits before the point, of the digits
after it, and of an exponent, which is missing from a column without exponents. -/
structure ColumnForm where
  scientific : Bool
  before : Nat
  places : Nat
  exponentDigits : Nat

namespace ColumnForm

/-- The width of what follows the point. -/
def after (form : ColumnForm) : Nat :=
  if form.scientific then form.places + form.exponentDigits + 2 else form.places

/-- The digits of a decimal exponent. -/
def exponentWidth (parts : Parts) : Nat :=
  match parts.exponent with
  | some exponent => max minExponentDigits (Decimal.digitCount exponent.natAbs)
  | none => 0

/-- The form that just fits the finite floats of a column. -/
def ofFinite (xs : List (Binary f)) : ColumnForm :=
  let scientific := needsExponents xs
  let parts := xs.filterMap (parts? scientific)
  { scientific
    before := largest (parts.map (·.whole.length))
    places := largest (parts.map (·.fraction.length))
    exponentDigits := largest (parts.map exponentWidth) }

/-- The form that also has room for the names of infinities and of not-a-number. -/
def ofColumn (xs : List (Binary f)) : ColumnForm :=
  let form := ofFinite xs
  let names := (xs.filter fun x => !x.isFinite).map fun x => x.write.length
  { form with before := max form.before (largest names - (form.after + 1)) }

/-- A float in its column. -/
def write (form : ColumnForm) (x : Binary f) : List Char :=
  match parts? form.scientific x with
  | none => padLeft (form.before + form.after + 1) (Binary.write x).toList
  | some parts =>
    let whole := padLeft form.before parts.whole ++ ['.']
    match parts.exponent with
    | none => whole ++ padRight ' ' form.places parts.fraction
    | some exponent =>
      whole ++ padRight '0' form.places parts.fraction ++
        'e' :: writeExponent form.exponentDigits exponent

end ColumnForm

end Binary

namespace ElementType

/-- The texts of cells in a column. A column of truth values is as wide as the longer
of their two words, whichever of them it holds. -/
def alignedTexts : (t : ElementType) → List t.Cell → List (List Char)
  | .bool, cells =>
    cells.map fun (b : Bool) => padLeft (writeBool false).length (writeBool b).toList
  | .int f, cells =>
    let texts := cells.map fun w => (Integer.write (f.value w)).toList
    texts.map (padLeft (largest (texts.map List.length)))
  | .float f, cells => cells.map (Binary.ColumnForm.ofColumn (f := f) cells).write

end ElementType

end VectorRequests
