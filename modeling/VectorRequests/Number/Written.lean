/-
# Cells written as text

A cell on its own is written as its number with the digits its own width needs. A
narrow float is given a decimal exponent earlier than a wide one, as soon as the
digits before its point would be more than the format resolves. Inside another text a
float is first widened, so that it shows what it is worth exactly enough to be read
back as a wide float.
-/

import VectorRequests.Float.Written
import VectorRequests.Number.ElementType

namespace VectorRequests

open VectorRequests.Text

-- Powers are those of the core library, whichever monoids are in scope.
attribute [local instance (high)] instPowNat

/-- A truth value in words. -/
def writeBool (b : Bool) : String :=
  if b then "True" else "False"

/-- The decimal digits that every number of a format keeps. -/
def FloatFormat.precision (f : FloatFormat) : Nat :=
  if f = .half then 3 else if f = .single then 6 else 15

/-- Floats from this power of ten on are written with an exponent. -/
def FloatFormat.writtenLimit (f : FloatFormat) : Nat :=
  if f = .double then 10 ^ (16 : Nat) else 10 ^ f.precision

namespace ElementType

/-- A cell with the digits of its own width. -/
def write : (t : ElementType) → t.Cell → String
  | .bool, b => writeBool b
  | .int f, w => Integer.write (f.value w)
  | .float f, x => Binary.writeBelow f.writtenLimit x

/-- A cell inside another text. -/
def display : (t : ElementType) → t.Cell → String
  | .float f, x => (Binary.convert (f := f) (g := .double) x).write
  | t, c => t.write c

/-- A cell with its element type. -/
def quote : (t : ElementType) → t.Cell → String
  | .bool, b => "np." ++ writeBool b ++ "_"
  | t, c => "np." ++ t.name ++ "(" ++ t.write c ++ ")"

end ElementType

end VectorRequests
