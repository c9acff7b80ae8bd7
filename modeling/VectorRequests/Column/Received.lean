/-
# Columns received as values

A received column may be any value. If its type and its payload are of the expected
classes it is read back as a column. If not, it is read as far as the attributes that
it has allow: a column of no known type has no kind, a block that is no block of
vectors has at most a dimension, and scalars that are no scalars are counted if they
have a length and read if they are a tensor.
-/

import VectorRequests.Column.Reader
import VectorRequests.Value.Attribute

namespace VectorRequests.Received

/-- Refuses to read back a column that is only known as a value. -/
def unreadable {α : Type} (v : Value) (fault : ResponseFault) : Outcome α := do
  .error (.unreadable fault (← v.get "field_name"))

/-- The type that a value gives as its own. -/
def type (v : Value) : Outcome DataType := do
  match ← v.get "type" with
  | .dataType t => return t
  | _ => Error.fail .missingAttribute

/-- The dimension of the block that a value of a type of vectors carries. -/
def blockDimension (v : Value) (t : DataType) : Outcome Value := do
  match ← v.get "vectors" with
  | .null => unreadable v .invalidDimension
  | block => FieldData.checkDimension (← v.get "field_name") t (← block.get "dim")

/-- The scalars that a value of another type carries. -/
def scalars (v : Value) : Outcome Value := do
  match ← v.get "scalars" with
  | .null => unreadable v .noScalars
  | scalars => return scalars

mutual

/-- The plain values of a tensor, nested as its dimensions are. -/
def nested (t : Tensor) : (dimensions : Nat) → Value
  | 0 => .list (t.cells.map t.type.plain)
  | dimensions + 1 => .list (nestedRows (t.rows?.getD []) dimensions)

/-- The plain values of several tensors. -/
def nestedRows : List Tensor → (dimensions : Nat) → List Value
  | [], _ => []
  | t :: ts, dimensions => nested t dimensions :: nestedRows ts dimensions

end

/-- Whether a view of the memory of a tensor can be read: cells must be stored in the
usual byte order, and half floats can only be left out. -/
def isViewable (t : Tensor) : Bool :=
  t.order = .little && (t.type ≠ .float .half || t.cells.isEmpty)

/-- The plain values of a tensor that stands in place of scalars. -/
def view : Value → Outcome (List Value)
  | .tensor t =>
    if ¬ isViewable t then Error.fail .unsupported
    else (nested t (t.shape.length - 1)).iterate
  | _ => Error.fail .missingAttribute

/-- Whether the type of a received column says that it holds vectors. -/
def isVector (v : Value) : Outcome Bool :=
  match FieldData.ofValue? v with
  | some c => .ok c.isVector
  | none => do return (← type v).isVector

/-- The dimension of a received column. -/
def dimension (v : Value) : Outcome Value :=
  match FieldData.ofValue? v with
  | some c => c.dimension
  | none => do
    let t ← type v
    if t.isVector then blockDimension v t else unreadable v .noDimension

/-- The number of rows of a received column. -/
def rowCount (v : Value) : Outcome Value :=
  match FieldData.ofValue? v with
  | some c => c.rowCount
  | none => do
    let t ← type v
    if t.isVector then
      discard <| blockDimension v t
      Error.fail .missingAttribute
    else
      return .int (← (← scalars v).length)

/-- The rows of a received column. -/
def rows (v : Value) : Outcome (List Value) :=
  match FieldData.ofValue? v with
  | some c => c.rows
  | none => do
    discard <| rowCount v
    view (← scalars v)

end VectorRequests.Received
