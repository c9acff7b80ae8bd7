/-
# Values given by a caller

Parameters come from callers who may pass anything where a name, a count or a
column is expected. `Value` is what they can pass: plain data, sized numbers and
tensors, the members of the closed vocabularies, target vectors, columns and
finished records. Checks turn values into the typed parameters of this library;
attributes that no check looks at stay values.

A column is known by its `handle`: two columns are the same only if they are one
and the same object, whatever they hold. A record is held by its attributes. An object of
any other class is known by its handle too; it offers nothing but the name of its class and
its texts, the plain one and the one that stands inside a collection.
-/

import VectorRequests.Number.Tensor
import VectorRequests.Column.Kind
import VectorRequests.Schema.DataType
import VectorRequests.Search.Metric
import VectorRequests.Wire.Kind

namespace VectorRequests

/-- The classes of finished records. -/
inductive RecordKind
  | keyValuePair
  | msgBase
  | scalarField
  | vectorField
  | fieldData
  | fieldSchema
  | collectionSchema
  | insertRequest
  | searchRequest
  | queryRequest
  | progressRequest
  | placeholderValue
  | placeholderGroup
  | fieldType
  | insertParam
  | searchParam
  | queryParam
  | progressParam
  deriving DecidableEq, Repr

namespace RecordKind

def name : RecordKind → String
  | keyValuePair => "KeyValuePair"
  | msgBase => "MsgBase"
  | scalarField => "ScalarField"
  | vectorField => "VectorField"
  | fieldData => "FieldData"
  | fieldSchema => "FieldSchema"
  | collectionSchema => "CollectionSchema"
  | insertRequest => "InsertRequest"
  | searchRequest => "SearchRequest"
  | queryRequest => "QueryRequest"
  | progressRequest => "GetIndexBuildProgressRequest"
  | placeholderValue => "PlaceholderValue"
  | placeholderGroup => "PlaceholderGroup"
  | fieldType => "FieldType"
  | insertParam => "InsertParam"
  | searchParam => "SearchParam"
  | queryParam => "QueryParam"
  | progressParam => "GetIndexBuildProgressParam"

end RecordKind

/-- A search target: a float vector or a bit-packed vector, never empty. -/
inductive TargetVector
  | float (components : List Single) (nonempty : components ≠ [])
  | binary (packed : List UInt8) (nonempty : packed ≠ [])
  deriving DecidableEq

/-- Anything a caller can pass. -/
inductive Value
  | null
  | bool (b : Bool)
  | int (i : Int)
  | float (x : Double)
  | text (s : String)
  | bytes (bs : List UInt8)
  | buffer (bs : List UInt8)
  | list (xs : List Value)
  | tuple (xs : List Value)
  | set (xs : List Value)
  | range (start stop step : Int)
  | mapping (entries : List (Value × Value))
  | sized (type : ElementType) (cell : type.Cell)
  | tensor (t : Tensor)
  | dataType (t : DataType)
  | placeholderType (t : PlaceholderType)
  | msgType (t : MsgType)
  | dslType (t : DslType)
  | scalarKind (k : ScalarKind)
  | metric (m : Metric)
  | vector (v : TargetVector)
  | column (handle : Nat) (name : String) (type : DataType) (values : List Value)
  | record (kind : RecordKind) (attributes : List (String × Value))
  | object (handle : Nat) (className plain quoted : String)

namespace Value

instance : Inhabited Value := ⟨.null⟩

/-- The name of the class a value belongs to. -/
def typeName : Value → String
  | .null => "NoneType"
  | .bool _ => "bool"
  | .int _ => "int"
  | .float _ => "float"
  | .text _ => "str"
  | .bytes _ => "bytes"
  | .buffer _ => "bytearray"
  | .list _ => "list"
  | .tuple _ => "tuple"
  | .set _ => "set"
  | .range .. => "range"
  | .mapping _ => "dict"
  | .sized type _ => type.name
  | .tensor _ => "ndarray"
  | .dataType _ => "DataType"
  | .placeholderType _ => "PlaceholderType"
  | .msgType _ => "MsgType"
  | .dslType _ => "DslType"
  | .scalarKind _ => "ScalarKind"
  | .metric _ => "MetricType"
  | .vector (.float ..) => "FloatVector"
  | .vector (.binary ..) => "BinaryVector"
  | .column .. => "Field"
  | .record kind _ => kind.name
  | .object _ className _ _ => className

/-- The integer that a value is: an integer, a truth value, or a member of a
vocabulary that is numbered on the wire. -/
def toInt? : Value → Option Int
  | .bool b => some b.toInt
  | .int i => some i
  | .dataType t => some t.code
  | .placeholderType t => some t.code
  | .msgType t => some t.code
  | .dslType t => some t.code
  | _ => none

/-- Whether a value is one of the two truth values, sized or not. -/
def isBool : Value → Bool
  | .bool _ => true
  | .sized .bool _ => true
  | _ => false

/-- The number of terms of a range. -/
def rangeCount (start stop step : Int) : Nat :=
  if 0 < step then ((stop - start + step - 1) / step).toNat
  else if step < 0 then ((start - stop - step - 1) / (-step)).toNat
  else 0

/-- The terms of a range. -/
def rangeTerms (start stop step : Int) : List Int :=
  (List.range (rangeCount start stop step)).map fun (k : Nat) => start + k * step

end Value

end VectorRequests
