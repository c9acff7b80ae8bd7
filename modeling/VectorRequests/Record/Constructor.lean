/-
# Records constructed from attributes

Every class of records, and the classes of columns and target vectors, can be constructed
from named attributes. An attribute that is not given takes its default, if it has one,
and is missed otherwise. Sequences are copied as tuples, payloads are packed, and
parameters are checked; everything else stays as it was given.
-/

import VectorRequests.Param.Insert
import VectorRequests.Param.Progress
import VectorRequests.Param.Query
import VectorRequests.Param.Search

namespace VectorRequests

/-- The classes whose members can be constructed. -/
inductive Constructor
  | record (kind : RecordKind)
  | column
  | floatVector
  | binaryVector
  deriving DecidableEq, Repr

/-- An attribute that a class takes, and its default if it has one. -/
structure Slot where
  name : String
  usual : Option Value := none

namespace Constructor

/-- All classes by their names. -/
def byName : List (String × Constructor) :=
  ([.keyValuePair, .msgBase, .scalarField, .vectorField, .fieldData, .fieldSchema,
    .collectionSchema, .insertRequest, .searchRequest, .queryRequest, .progressRequest,
    .placeholderValue, .placeholderGroup, .fieldType, .insertParam, .searchParam,
    .queryParam, .progressParam].map fun (kind : RecordKind) => (kind.name, .record kind)) ++
  [("Field", .column), ("FloatVector", .floatVector), ("BinaryVector", .binaryVector)]

/-- The class with a name. -/
def ofName? (name : String) : Option Constructor :=
  byName.lookup name

/-- The attributes of a record, in order. -/
def recordSlots (settings : Settings) : RecordKind → List Slot
  | .keyValuePair => [⟨"key", none⟩, ⟨"value", none⟩]
  | .msgBase =>
    [⟨"msg_type", none⟩, ⟨"msg_id", some (.int 0)⟩, ⟨"timestamp", some (.int 0)⟩,
     ⟨"source_id", some (.int 0)⟩]
  | .scalarField => [⟨"kind", none⟩, ⟨"data", none⟩]
  | .vectorField =>
    [⟨"dim", none⟩, ⟨"float_vector", some .null⟩, ⟨"binary_vector", some .null⟩]
  | .fieldData =>
    [⟨"field_name", none⟩, ⟨"type", none⟩, ⟨"scalars", some .null⟩, ⟨"vectors", some .null⟩]
  | .fieldSchema =>
    [⟨"name", none⟩, ⟨"data_type", none⟩, ⟨"description", some (.text "")⟩,
     ⟨"is_primary_key", some (.bool false)⟩, ⟨"auto_id", some (.bool false)⟩,
     ⟨"type_params", some (.tuple [])⟩]
  | .collectionSchema =>
    [⟨"name", none⟩, ⟨"description", some (.text "")⟩, ⟨"auto_id", some (.bool false)⟩,
     ⟨"fields", some (.tuple [])⟩]
  | .insertRequest =>
    [⟨"base", none⟩, ⟨"collection_name", none⟩, ⟨"partition_name", none⟩, ⟨"num_rows", none⟩,
     ⟨"fields_data", some (.tuple [])⟩, ⟨"db_name", some (.text "")⟩]
  | .searchRequest =>
    [⟨"collection_name", none⟩, ⟨"placeholder_group", none⟩,
     ⟨"dsl_type", some (.dslType .boolExprV1)⟩, ⟨"dsl", some (.text "")⟩,
     ⟨"partition_names", some (.tuple [])⟩, ⟨"output_fields", some (.tuple [])⟩,
     ⟨"search_params", some (.tuple [])⟩, ⟨"travel_timestamp", some (.int 0)⟩,
     ⟨"guarantee_timestamp", some (.int 0)⟩, ⟨"db_name", some (.text "")⟩]
  | .queryRequest =>
    [⟨"collection_name", none⟩, ⟨"expr", none⟩, ⟨"partition_names", some (.tuple [])⟩,
     ⟨"output_fields", some (.tuple [])⟩, ⟨"travel_timestamp", some (.int 0)⟩,
     ⟨"guarantee_timestamp", some (.int 0)⟩, ⟨"db_name", some (.text "")⟩]
  | .progressRequest =>
    [⟨"collection_name", none⟩, ⟨"field_name", some (.text "")⟩,
     ⟨"index_name", some (.text "")⟩, ⟨"db_name", some (.text "")⟩]
  | .placeholderValue => [⟨"tag", none⟩, ⟨"type", none⟩, ⟨"values", some (.tuple [])⟩]
  | .placeholderGroup => [⟨"placeholders", some (.tuple [])⟩]
  | .fieldType =>
    [⟨"name", none⟩, ⟨"data_type", none⟩, ⟨"description", some (.text "")⟩,
     ⟨"primary_key", some (.bool false)⟩, ⟨"auto_id", some (.bool false)⟩,
     ⟨"type_params", some (.mapping [])⟩]
  | .insertParam =>
    [⟨"collection_name", none⟩, ⟨"fields", none⟩,
     ⟨"partition_name", some settings.partitionName⟩]
  | .searchParam =>
    [⟨"collection_name", none⟩, ⟨"vector_field_name", none⟩, ⟨"top_k", none⟩,
     ⟨"vectors", none⟩, ⟨"metric_type", some settings.metric⟩,
     ⟨"partition_names", some (.tuple [])⟩, ⟨"out_fields", some (.tuple [])⟩,
     ⟨"expr", some (.text "")⟩, ⟨"round_decimal", some settings.roundDecimal⟩,
     ⟨"params", some settings.searchParams⟩, ⟨"travel_timestamp", some (.int 0)⟩,
     ⟨"guarantee_timestamp", some settings.guaranteeTimestamp⟩]
  | .queryParam =>
    [⟨"collection_name", none⟩, ⟨"expr", none⟩, ⟨"partition_names", some (.tuple [])⟩,
     ⟨"out_fields", some (.tuple [])⟩, ⟨"travel_timestamp", some (.int 0)⟩,
     ⟨"guarantee_timestamp", some settings.guaranteeTimestamp⟩]
  | .progressParam => [⟨"collection_name", none⟩]

/-- The attributes that a class takes, in order. -/
def slots (settings : Settings) : Constructor → List Slot
  | .record kind => recordSlots settings kind
  | .column => [⟨"name", none⟩, ⟨"data_type", none⟩, ⟨"values", none⟩]
  | .floatVector => [⟨"values", none⟩]
  | .binaryVector => [⟨"data", none⟩]

/-- The value of an attribute among the given ones, or its default. -/
def fill (given : List (String × Value)) (slot : Slot) : Outcome (String × Value) :=
  match given.lookup slot.name, slot.usual with
  | some v, _ => .ok (slot.name, v)
  | none, some v => .ok (slot.name, v)
  | none, none => Error.fail .wrongType

/-- Whether an attribute of a record is copied as a tuple. -/
def isSequence : RecordKind → String → Bool
  | .fieldSchema, "type_params" => true
  | .collectionSchema, "fields" => true
  | .insertRequest, "fields_data" => true
  | .searchRequest, "partition_names" => true
  | .searchRequest, "output_fields" => true
  | .searchRequest, "search_params" => true
  | .queryRequest, "partition_names" => true
  | .queryRequest, "output_fields" => true
  | .placeholderGroup, "placeholders" => true
  | _, _ => false

/-- A record whose attributes are not checked. -/
def plain (kind : RecordKind) (attributes : List (String × Value)) : Outcome Value := do
  return .record kind (← attributes.mapM fun (name, v) => do
    if isSequence kind name then return (name, .tuple (← v.iterate)) else return (name, v))

/-- The scalars of a kind, which must be a member of its vocabulary. -/
def scalarFieldOf (kind data : Value) : Outcome Value := do
  match kind with
  | .scalarKind kind => return (← ScalarField.ofValues kind data).toValue
  | kind =>
    discard <| kind.equal (.scalarKind .string)
    Error.fail (if kind.isKey then .missingKey else .wrongType)

/-- A value that is null. -/
def isNull : Value → Bool
  | .null => true
  | _ => false

/-- A marshalled column with exactly one of scalars and vectors. -/
def fieldDataOf (name type scalars vectors : Value) : Outcome Value :=
  if isNull scalars = isNull vectors then Error.refuseField .fieldPayloads name
  else .ok (.record .fieldData
    [("field_name", name), ("type", type), ("scalars", scalars), ("vectors", vectors)])

/-- A placeholder whose vectors are given as bytes. -/
def placeholderOf (tag type values : Value) : Outcome Value := do
  let blobs ← (← values.itemsFor Value.toBytes).mapM Value.toBytes
  return .record .placeholderValue
    [("tag", tag), ("type", type), ("values", .tuple (blobs.map .bytes))]

/-- A record with the values of its attributes in order. -/
def ofRecord (kind : RecordKind) (attributes : List (String × Value)) : Outcome Value := do
  match kind, attributes.map (·.2) with
  | .scalarField, [kind, data] => scalarFieldOf kind data
  | .vectorField, [dim, floats, packed] =>
    return (← VectorField.ofValues dim floats packed).toValue
  | .fieldData, [name, type, scalars, vectors] => fieldDataOf name type scalars vectors
  | .placeholderValue, [tag, type, values] => placeholderOf tag type values
  | .fieldType, [name, dataType, description, primaryKey, autoId, typeParams] =>
    return (← FieldType.ofValues name dataType description primaryKey autoId
      typeParams).toValue
  | .insertParam, [collection, fields, partition] =>
    return (← InsertParam.ofValues collection fields partition).toValue
  | .searchParam, [collection, vectorField, topK, vectors, metric, partitions, outFields, expr,
      roundDecimal, params, travel, guarantee] =>
    return (← SearchParam.ofValues collection vectorField topK vectors metric partitions
      outFields expr roundDecimal params travel guarantee).toValue
  | .queryParam, [collection, expr, partitions, outFields, travel, guarantee] =>
    return (← QueryParam.ofValues collection expr partitions outFields travel
      guarantee).toValue
  | .progressParam, [collection] => return (← ProgressParam.ofValues collection).toValue
  | kind, _ => plain kind attributes

/-- The member of a class with the given attributes. A column gets a handle. -/
def apply (handle : Nat) (settings : Settings) (c : Constructor)
    (given : List (String × Value)) : Outcome Value := do
  let slots := c.slots settings
  if given.all fun a => slots.any (·.name = a.1) then
    let attributes ← slots.mapM (fill given)
    match c, attributes.map (·.2) with
    | .column, [name, type, values] =>
      return (← Column.ofValues handle name type values).toValue
    | .floatVector, [components] => return .vector (← TargetVector.ofFloats components)
    | .binaryVector, [packed] => return .vector (← TargetVector.ofBytes packed)
    | .record kind, _ => ofRecord kind attributes
    | _, _ => Error.fail .wrongType
  else
    Error.fail .wrongType

end Constructor

end VectorRequests
