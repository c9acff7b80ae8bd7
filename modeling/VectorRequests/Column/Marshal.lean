/-
# Marshalling a column

A column is checked against its declared type and then packed for the wire.
Vector columns are flattened into one block with the dimension that all rows
share; scalar columns become a typed array, the narrow integer types widened to
32 bits. `validate` only checks; `marshal` also packs, for which the rows are listed.
-/

import VectorRequests.Value.Text
import VectorRequests.Vector.Row
import VectorRequests.Wire.FieldData

namespace VectorRequests

/-- What the items of a scalar column must be. -/
inductive ItemKind
  | int
  | bool
  | float
  | text
  deriving DecidableEq, Repr

namespace ItemKind

/-- The name of an item kind in messages. -/
def name : ItemKind → String
  | int => "int"
  | bool => "bool"
  | float => "float"
  | text => "str"

/-- The integer that an integer item is. -/
def int? : Value → Option Int
  | .bool _ => none
  | .sized (.int f) w => some (f.value w)
  | v => v.toInt?

/-- The double float that a float item is worth. -/
def double? : Value → Option Double
  | .float x => some x
  | .sized (.float f) x => some (Binary.convert (f := f) x)
  | _ => .none

/-- Whether a value is an item of the kind. -/
def accepts : ItemKind → Value → Bool
  | int, v => (int? v).isSome
  | bool, .bool _ => true
  | bool, .sized .bool _ => true
  | bool, _ => false
  | float, v => (double? v).isSome
  | text, .text _ => true
  | text, _ => false

end ItemKind

namespace DataType

/-- How the items of a scalar type are stored, and what they must be. -/
def storage? : DataType → Option (ScalarKind × ItemKind)
  | int64 => some (.numeric .long, .int)
  | int32 => some (.numeric .int, .int)
  | int16 => some (.numeric .int, .int)
  | int8 => some (.numeric .int, .int)
  | bool => some (.numeric .bool, .bool)
  | float => some (.numeric .float, .float)
  | double => some (.numeric .double, .float)
  | string => some (.string, .text)
  | varchar => some (.string, .text)
  | _ => .none

/-- The integers that an integer type admits. -/
def intFormat? : DataType → Option IntFormat
  | int8 => some .int8
  | int16 => some .int16
  | int32 => some .int32
  | int64 => some .int64
  | _ => .none

end DataType

namespace Column

/-- The declared type of a column, which must be a proper one. -/
def properType (field : Value) : Value → Outcome DataType
  | .dataType t =>
    if t.isProper then .ok t else Error.refuseField (.unsupportedType (.dataType t)) field
  | v => v.withText (Error.refuseField (.unsupportedType v) field)

/-- Names the field in the refusal of a row. -/
def inField {α : Type} (field : Value) : Outcome α → Outcome α
  | .error (.refused fault _) => Error.refuseField fault field
  | outcome => outcome

/-- Refuses the first row whose size is not the expected one. -/
def checkSizes (field : Value) (fault : Nat → Nat → Nat → ParamFault) (expected : Nat) :
    (index : Nat) → List Nat → Outcome Unit
  | _, [] => .ok ()
  | index, size :: sizes =>
    if size = expected then checkSizes field fault expected (index + 1) sizes
    else Error.refuseField (fault index size expected) field

/-- Refuses rows that are missing, empty or of different sizes. -/
def checkRows (field : Value) (kind : VectorKind) (fault : Nat → Nat → Nat → ParamFault) :
    List Nat → Outcome Unit
  | [] => Error.refuseField (.noRows kind) field
  | 0 :: _ => Error.refuseField (.emptyRows kind) field
  | size :: sizes => checkSizes field fault size 1 sizes

/-- The rows of a column of float vectors. -/
def floatRows (field : Value) (values : List Value) : Outcome (List (List Single)) := do
  let rows ← values.mapM fun row => inField field (Row.read "The type of FloatVector" row)
  checkRows field .float .unequalFloatRow (rows.map List.length)
  return rows

/-- A row of a column of bit-packed vectors. -/
def binaryRow (field : Value) : Value → Outcome (List UInt8)
  | .bytes bs => .ok bs
  | .buffer bs => .ok bs
  | v => Error.refuseField (.rowNotBytes v.typeName) field

/-- The rows of a column of bit-packed vectors. -/
def binaryRows (field : Value) (values : List Value) : Outcome (List (List UInt8)) := do
  let rows ← values.mapM (binaryRow field)
  checkRows field .binary .unequalBinaryRow (rows.map List.length)
  return rows

/-- Whether a finite float item becomes infinite as a single float. -/
def overflowsSingle : Value → Bool
  | .float x => (Binary.narrow? x).isNone
  | .sized (.float f) x => (Binary.narrow? (f := f) x).isNone
  | _ => false

/-- Whether an item of the right kind is outside the numbers of a type. -/
def isOutOfRange (type : DataType) (v : Value) : Bool :=
  match type.intFormat?, ItemKind.int? v with
  | some f, some i => i < f.least || f.greatest < i
  | _, _ => type = .float && overflowsSingle v

/-- Refuses an item that does not suit the type of a scalar column. -/
def checkItem (field : Value) (type : DataType) (kind : ItemKind) (v : Value) :
    Outcome Unit :=
  if ¬ kind.accepts v then
    Error.refuseField (.wrongElement type kind.name v.typeName) field
  else if isOutOfRange type v then
    v.withText (Error.refuseField (.elementOutOfRange v type) field)
  else
    .ok ()

/-- Checks one row of a column of a proper type by itself. -/
def checkRow (field : Value) (type : DataType) (v : Value) : Outcome Unit :=
  match type, type.storage? with
  | .floatVector, _ => do discard <| inField field (Row.read "The type of FloatVector" v)
  | .binaryVector, _ => do discard <| binaryRow field v
  | _, some (_, kind) => checkItem field type kind v
  | _, none => .ok ()

/-- The rows of a column, which must come as a sequence. Columns of vectors are asked for
their number of rows first. -/
def rowsOf (field : Value) (type : DataType) (v : Value) : Outcome (List Value) :=
  match v with
  | .list xs => .ok xs
  | .tuple xs => .ok xs
  | .range .. => do
    if type.isVector then discard v.length
    v.itemsFor (checkRow field type)
  | .tensor _ => v.itemsFor (checkRow field type)
  | v => Error.refuseField (.valuesNotSequence v.typeName) field

/-- Checks the rows of a column of a proper type. -/
def checkContent (field : Value) (type : DataType) (values : List Value) : Outcome Unit :=
  match type with
  | .floatVector => do discard <| floatRows field values
  | .binaryVector => do discard <| binaryRows field values
  | type =>
    match type.storage? with
    | some (_, kind) => values.forM (checkItem field type kind)
    | none => .ok ()

/-- The type and the rows of a column. -/
def typedRows (field type values : Value) : Outcome (DataType × List Value) :=
  match values with
  | .null => Error.refuseField .noValues field
  | values => do
    let type ← properType field type
    return (type, ← rowsOf field type values)

/-- Checks the terms of a range as the rows of a column of a proper type. Rows of scalars
are checked in a loop, and the range may be of any length; columns of vectors count their
rows first. -/
def checkRange (field : Value) (type : DataType) (start stop step : Int) : Outcome Unit :=
  if type.isVector then do
    checkContent field type (← rowsOf field type (.range start stop step))
  else
    Value.runLoop (checkRow field type) (fun k => .int (start + k * step))
      (Value.rangeCount start stop step) 0

/-- Checks a column against its declared type. No column is made of the rows, so a range
need not be listed. -/
def validate (field type values : Value) : Outcome Unit :=
  match values with
  | .range start stop step => do
    checkRange field (← properType field type) start stop step
  | values => do
    let (type, rows) ← typedRows field type values
    checkContent field type rows

/-- Packs the rows of a column of a proper type. -/
def pack (field : Value) (type : DataType) (values : List Value) : Outcome FieldData :=
  match type with
  | .floatVector => do
    let rows ← floatRows field values
    let dim := rows.flatten.length / rows.length
    let block ← VectorField.ofValues (.int dim)
      (.tensor (Tensor.flat (.float .single) rows.flatten)) .null
    FieldData.ofParts field type none (some block)
  | .binaryVector => do
    let rows ← binaryRows field values
    let dim := 8 * (rows.head?.getD []).length
    let block ← VectorField.ofValues (.int dim) .null (.bytes rows.flatten)
    FieldData.ofParts field type none (some block)
  | type =>
    match type.storage? with
    | some (storage, kind) => do
      values.forM (checkItem field type kind)
      let scalars ← ScalarField.ofValues storage (.list values)
      FieldData.ofParts field type (some scalars) none
    | none => Error.refuseField (.unsupportedType (.dataType type)) field

/-- Packs a column for the wire. -/
def marshal (field type values : Value) : Outcome FieldData := do
  let (type, rows) ← typedRows field type values
  pack field type rows

end Column

end VectorRequests
