/-
# Reading a column back

A column that comes from the wire may be malformed: its type, payload and
dimension need not agree. Reading it back finds the dimension, the number of rows
and the rows: lists of floats for float vectors, bytes for bit-packed ones, and
plain values for scalars.
-/

import VectorRequests.Column.Dimension
import VectorRequests.Value.Text
import VectorRequests.Wire.FieldData

namespace VectorRequests

/-- The first `count` parts of the given width. -/
def chunks {α : Type} (width : Nat) : (count : Nat) → List α → List (List α)
  | 0, _ => []
  | count + 1, xs => xs.take width :: chunks width count (xs.drop width)

namespace ElementType

/-- A cell as a plain value. -/
def plain : (t : ElementType) → t.Cell → Value
  | .bool, b => .bool b
  | .int f, w => .int (f.value w)
  | .float f, x => .float (Binary.convert (f := f) x)

end ElementType

namespace FieldData

/-- Refuses to read a column back. -/
def unreadable {α : Type} (c : FieldData) (fault : ResponseFault) : Outcome α :=
  .error (.unreadable fault c.name)

/-- Whether the type of a column says that it holds vectors. -/
def isVector (c : FieldData) : Bool :=
  c.type.isVector

/-- The dimension that the block of a column is given with; it must be above zero, and
fill whole bytes if the vectors are bit-packed. -/
def checkDimension (field : Value) (type : DataType) (dim : Value) : Outcome Value := do
  let extent ← Extent.ofValue dim
  if ¬ extent.isPositive then
    .error (.unreadable .invalidDimension field)
  else if type = .binaryVector ∧ ¬ extent.isAligned then
    dim.withText (.error (.unreadable (.unalignedDimension dim) field))
  else
    return dim

/-- The dimension of a column of vectors, in floats or in bits. -/
def dimension (c : FieldData) : Outcome Value := do
  if ¬ c.isVector then
    c.unreadable .noDimension
  else
    match c.vectors? with
    | none => c.unreadable .invalidDimension
    | some block => checkDimension c.name c.type block.dim

/-- The float components of a column of vectors. -/
def floatPayload (c : FieldData) : Outcome (List Single) :=
  match c.vectors?.bind VectorField.floats? with
  | some components => .ok components
  | none => c.unreadable .noFloats

/-- The packed bytes of a column of vectors. -/
def packedPayload (c : FieldData) : Outcome (List UInt8) :=
  match c.vectors?.bind VectorField.packed? with
  | some bytes => .ok bytes
  | none => c.unreadable .noPacked

/-- The size of the payload of a column of vectors, in the unit of its dimension. -/
def payloadSize (c : FieldData) : Outcome Nat :=
  if c.type = .floatVector then do return (← c.floatPayload).length
  else do return (← c.packedPayload).length * 8

/-- The number of rows of a column. -/
def rowCount (c : FieldData) : Outcome Value := do
  if c.isVector then
    let dim ← c.dimension
    let size ← c.payloadSize
    match ← (← Extent.ofValue dim).quotient? size with
    | some count => return count
    | none => dim.withText (c.unreadable (.indivisiblePayload size dim))
  else
    match c.scalars? with
    | some scalars => return .int scalars.length
    | none => c.unreadable .noScalars

/-- The rows that a number of components gives, where number and dimension must be
integers. Without components a row must not span too many bytes. -/
def splitFloats (components : List Single) (count dim : Value) : Outcome (List Value) :=
  match count.rowIndex?, dim.rowIndex? with
  | some count, some width =>
    if 4 * width ≤ Tensor.maxSpan (4 * components.length) then
      .ok ((chunks width.toNat count.toNat components).map fun row =>
        .list (row.map ((ElementType.float .single).plain ·)))
    else
      Error.fail .badValue
  | _, _ => Error.fail .wrongType

/-- The rows that a number of packed bytes gives. -/
def splitPacked (bytes : List UInt8) (count dim : Value) : Outcome (List Value) :=
  match count.rowIndex?, dim.rowIndex? with
  | some count, some width =>
    .ok ((chunks (width / 8).toNat count.toNat bytes).map .bytes)
  | _, _ => Error.fail .wrongType

/-- The plain values of scalars. -/
def scalarValues : ScalarField → List Value
  | .numeric kind cells => cells.map kind.elementType.plain
  | .strings values => values

/-- The rows of a column. -/
def rows (c : FieldData) : Outcome (List Value) := do
  let count ← c.rowCount
  match c.type with
  | .floatVector => splitFloats (← c.floatPayload) count (← c.dimension)
  | .binaryVector => splitPacked (← c.packedPayload) count (← c.dimension)
  | _ =>
    match c.scalars? with
    | some scalars => return scalarValues scalars
    | none => c.unreadable .noScalars

end FieldData

end VectorRequests
