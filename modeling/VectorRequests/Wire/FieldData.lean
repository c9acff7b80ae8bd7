/-
# Columns on the wire

A marshalled column has a name, a data type and a payload: the scalars of a typed
array, or a block of vectors with their dimension. The name and the dimension are
not checked here and may be any value.
-/

import VectorRequests.Column.Cells

namespace VectorRequests

/-- The scalars of a column: cells of a numeric kind, or strings. -/
inductive ScalarField
  | numeric (kind : NumericKind) (cells : List kind.elementType.Cell)
  | strings (values : List Value)

namespace ScalarField

/-- The scalars of a kind that a value gives. -/
def ofValues (kind : ScalarKind) (data : Value) : Outcome ScalarField :=
  match kind with
  | .numeric kind => do return .numeric kind (← Cells.store kind.elementType data)
  | .string => do return .strings (← data.iterate)

/-- The kind of the scalars. -/
def kind : ScalarField → ScalarKind
  | .numeric kind _ => .numeric kind
  | .strings _ => .string

/-- The number of scalars. -/
def length : ScalarField → Nat
  | .numeric _ cells => cells.length
  | .strings values => values.length

/-- The scalars as one value: a tensor or a tuple. -/
def data : ScalarField → Value
  | .numeric kind cells => .tensor (Tensor.flat kind.elementType cells)
  | .strings values => .tuple values

/-- The record as a value. -/
def toValue (s : ScalarField) : Value :=
  .record .scalarField [("kind", .scalarKind s.kind), ("data", s.data)]

/-- The scalars that a value is. -/
def ofValue? : Value → Option ScalarField
  | .record .scalarField [(_, .scalarKind kind), (_, data)] => (ofValues kind data).toOption
  | _ => none

end ScalarField

/-- The vectors of a column, one after the other. -/
inductive VectorPayload
  | floats (components : List Single)
  | packed (bytes : List UInt8)

/-- A block of vectors with their dimension. -/
structure VectorField where
  dim : Value
  payload : VectorPayload

namespace VectorField

/-- The block that holds exactly one of float components and packed bytes. -/
def ofValues (dim floats packed : Value) : Outcome VectorField :=
  match floats, packed with
  | .null, .null => Error.refuse .vectorPayloads
  | .null, packed => do return ⟨dim, .packed (← packed.toBytes)⟩
  | floats, .null => do return ⟨dim, .floats (← Cells.store (.float .single) floats)⟩
  | _, _ => Error.refuse .vectorPayloads

/-- The float components, if the block holds floats. -/
def floats? (v : VectorField) : Option (List Single) :=
  match v.payload with
  | .floats components => some components
  | .packed _ => none

/-- The packed bytes, if the block holds bytes. -/
def packed? (v : VectorField) : Option (List UInt8) :=
  match v.payload with
  | .floats _ => none
  | .packed bytes => some bytes

/-- The record as a value. -/
def toValue (v : VectorField) : Value :=
  .record .vectorField
    [("dim", v.dim),
     ("float_vector",
      match v.floats? with
      | some components => .tensor (Tensor.flat (.float .single) components)
      | none => .null),
     ("binary_vector",
      match v.packed? with
      | some bytes => .bytes bytes
      | none => .null)]

/-- The block that a value is. -/
def ofValue? : Value → Option VectorField
  | .record .vectorField [(_, dim), (_, floats), (_, packed)] =>
    (ofValues dim floats packed).toOption
  | _ => none

end VectorField

/-- What a marshalled column carries. -/
inductive Payload
  | scalars (s : ScalarField)
  | vectors (v : VectorField)

/-- A marshalled column. -/
structure FieldData where
  name : Value
  type : DataType
  payload : Payload

namespace FieldData

/-- The column that holds exactly one of scalars and vectors. -/
def ofParts (name : Value) (type : DataType) (scalars : Option ScalarField)
    (vectors : Option VectorField) : Outcome FieldData :=
  match scalars, vectors with
  | some s, none => .ok ⟨name, type, .scalars s⟩
  | none, some v => .ok ⟨name, type, .vectors v⟩
  | _, _ => Error.refuseField .fieldPayloads name

/-- The scalars, if the column carries them. -/
def scalars? (c : FieldData) : Option ScalarField :=
  match c.payload with
  | .scalars s => some s
  | .vectors _ => none

/-- The vectors, if the column carries them. -/
def vectors? (c : FieldData) : Option VectorField :=
  match c.payload with
  | .scalars _ => none
  | .vectors v => some v

/-- The record as a value. -/
def toValue (c : FieldData) : Value :=
  .record .fieldData
    [("field_name", c.name),
     ("type", .dataType c.type),
     ("scalars", (c.scalars?.map ScalarField.toValue).getD .null),
     ("vectors", (c.vectors?.map VectorField.toValue).getD .null)]

/-- The payload that two values give, one of which is null. -/
def payload? : Value → Value → Option Payload
  | .null, vectors => (VectorField.ofValue? vectors).map .vectors
  | scalars, .null => (ScalarField.ofValue? scalars).map .scalars
  | _, _ => none

/-- The column that a value is, if its type and its payload are of the expected
classes. -/
def ofValue? : Value → Option FieldData
  | .record .fieldData [(_, name), (_, .dataType type), (_, scalars), (_, vectors)] => do
    return ⟨name, type, ← payload? scalars vectors⟩
  | _ => none

end FieldData

end VectorRequests
