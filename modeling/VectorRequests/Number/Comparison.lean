/-
# Comparison of numbers

Plain numbers are equal when they are worth the same. Beside a cell a plain number first
becomes a cell of the same type: beside a float it is rounded to the format of that
float, and an integer goes through a double float on its way, which it must not exceed.
Integer cells are made double floats beside any float. Cells of other types are again
compared by what they are worth.
-/

import VectorRequests.Number.Exact

namespace VectorRequests

/-- A number that is compared with another one. -/
inductive Operand
  | integer (i : Int)
  | float (x : Double)
  | cell (type : ElementType) (c : type.Cell)

namespace Operand

/-- What a number is worth on its own. -/
def worth : Operand → Exact
  | .integer i => Exact.ofInt i
  | .float x => Exact.ofFloat x
  | .cell type c => Exact.ofCell type c

/-- Whether a number is a float. -/
def isFloat : Operand → Bool
  | .float _ => true
  | .cell (.float _) _ => true
  | _ => false

/-- A double float narrowed to a format. -/
def narrowed (f : FloatFormat) (x : Double) : Exact :=
  Exact.ofFloat (Binary.convert (g := f) x)

/-- What a number is worth beside another one; nothing if it is an integer too large for
a float. -/
def worthBeside? (other : Operand) : Operand → Option Exact
  | .integer i =>
    match other with
    | .cell (.float f) _ => (Binary.ofInt? i).map (narrowed f)
    | _ => some (Exact.ofInt i)
  | .float x =>
    match other with
    | .cell (.float f) _ => some (narrowed f x)
    | _ => some (Exact.ofFloat x)
  | .cell (.int f) w =>
    if other.isFloat then some (Exact.ofFloat (Binary.nearestInt (f.value w) : Double))
    else some (Exact.ofCell (.int f) w)
  | .cell type c => some (Exact.ofCell type c)

/-- Whether two numbers are equal; nothing if one of them cannot be compared with the
other. -/
def equal? (v w : Operand) : Option Bool := do
  return (← worthBeside? w v).equal (← worthBeside? v w)

end Operand

end VectorRequests
