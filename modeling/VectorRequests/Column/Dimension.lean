/-
# Dimensions given as values

The dimension of a received column may be any number: plain, sized, or the only cell of
a tensor. Calculations with a plain dimension give plain numbers. Those with a cell give
cells of its type, so a size must fit the type and is rounded to it if it is a float
type; truth values count as integers of eight bytes. The result has the shape that the
dimension had.
-/

import VectorRequests.Error
import VectorRequests.Number.Exact
import VectorRequests.Value.Sequence

namespace VectorRequests

/-- A dimension as a number to calculate with. -/
inductive Extent
  | integer (n : Int)
  | float (x : Double)
  | cell (shape : List Nat) (type : ElementType) (c : type.Cell)

namespace Extent

/-- The number that a value is; a tensor must have exactly one cell. -/
def ofValue (v : Value) : Outcome Extent :=
  match v, v.toInt? with
  | _, some n => .ok (.integer n)
  | .float x, _ => .ok (.float x)
  | .sized type c, _ => .ok (.cell [] type c)
  | .tensor t, _ =>
    match t.cells with
    | [c] => .ok (.cell t.shape t.type c)
    | _ => Error.fail .badValue
  | _, none => Error.fail .wrongType

/-- What a dimension is worth. -/
def worth : Extent → Exact
  | .integer n => Exact.ofInt n
  | .float x => Exact.ofFloat x
  | .cell _ type c => Exact.ofCell type c

/-- Whether a dimension is above zero. Not-a-number is not below it either, and
counts. -/
def isPositive (e : Extent) : Bool :=
  match e.worth with
  | .quotient n _ => 0 < n
  | .infinity negative => !negative
  | .nan => true

/-- Whether a dimension in bits fills whole bytes. -/
def isAligned (e : Extent) : Bool :=
  match e.worth with
  | .quotient n d => n % (8 * d) = 0
  | _ => false

/-- How often one float fits into another one, if it does so without a rest. -/
def floatQuotient? {f : FloatFormat} (total dim : Binary f) : Option (Binary f) :=
  match total.toQuotient?, dim.toQuotient? with
  | some (n, _), some (m, _) => if n % m = 0 then some (Binary.nearestInt (n / m)) else none
  | some (n, _), none => if dim.isInfinite ∧ n = 0 then some Binary.zero else none
  | none, _ => none

/-- How often one integer fits into another one, if it does so without a rest. -/
def intQuotient? (total dim : Int) : Option Int :=
  if total % dim = 0 then some (total / dim) else none

/-- A cell with a shape as a value. -/
def cellValue (shape : List Nat) (type : ElementType) (c : type.Cell) : Value :=
  if shape.isEmpty then .sized type c
  else
    match Tensor.ofCells? type .little shape [c] with
    | some t => .tensor t
    | none => .sized type c

/-- How often a dimension fits into a size, if it does so without a rest. -/
def quotient? (size : Nat) : Extent → Outcome (Option Value)
  | .integer n => .ok ((intQuotient? size n).map .int)
  | .float x => .ok ((floatQuotient? (Binary.nearestInt size) x).map .float)
  | .cell shape .bool b =>
    .ok ((intQuotient? size (Bool.toInt b)).map fun n =>
      cellValue shape (.int .int64) (IntFormat.int64.wrap n))
  | .cell shape (.int f) w =>
    match f.ofInt? size with
    | some _ =>
      .ok ((intQuotient? size (f.value w)).map fun n => cellValue shape (.int f) (f.wrap n))
    | none => Error.fail .overflow
  | .cell shape (.float f) x =>
    let total : Double := Binary.nearestInt size
    .ok ((floatQuotient? (f := f) total.convert x).map (cellValue shape (.float f)))

end Extent

namespace Value

/-- The integer that stands for a value as the number or the size of rows; truth values
stand for none. -/
def rowIndex? (v : Value) : Option Int :=
  if v.isBool then none else v.index?

end Value

end VectorRequests
