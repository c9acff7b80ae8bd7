/-
# Schemas on the wire

How the service describes the fields of a collection. The attributes of a schema
record are not checked here and may be any values, except for the data type and
the parameters, which are pairs in the order they were given.
-/

import VectorRequests.Value

namespace VectorRequests

/-- A named parameter. -/
structure KeyValuePair where
  key : Value
  value : Value

namespace KeyValuePair

/-- The parameter with a text for its key and a text for its value. -/
def ofTexts (p : String × String) : KeyValuePair :=
  ⟨.text p.1, .text p.2⟩

/-- The record as a value. -/
def toValue (p : KeyValuePair) : Value :=
  .record .keyValuePair [("key", p.key), ("value", p.value)]

/-- The named parameter that a value is. -/
def ofValue? : Value → Option KeyValuePair
  | .record .keyValuePair [(_, key), (_, value)] => some ⟨key, value⟩
  | _ => none

end KeyValuePair

/-- A field of a collection as the service describes it. -/
structure FieldSchema where
  name : Value
  dataType : DataType
  description : Value := .text ""
  isPrimaryKey : Value := .bool false
  autoId : Value := .bool false
  typeParams : List KeyValuePair := []

namespace FieldSchema

/-- The record as a value. -/
def toValue (s : FieldSchema) : Value :=
  .record .fieldSchema
    [("name", s.name), ("data_type", .dataType s.dataType), ("description", s.description),
     ("is_primary_key", s.isPrimaryKey), ("auto_id", s.autoId),
     ("type_params", .tuple (s.typeParams.map KeyValuePair.toValue))]

/-- The field that a value describes, if its data type and its parameters are of the
expected classes. -/
def ofValue? : Value → Option FieldSchema
  | .record .fieldSchema
      [(_, name), (_, .dataType dataType), (_, description), (_, isPrimaryKey), (_, autoId),
       (_, .tuple params)] => do
    let typeParams ← params.mapM KeyValuePair.ofValue?
    return { name, dataType, description, isPrimaryKey, autoId, typeParams }
  | _ => none

end FieldSchema

/-- A collection as the service describes it. -/
structure CollectionSchema where
  name : Value
  description : Value := .text ""
  autoId : Value := .bool false
  fields : List FieldSchema := []

namespace CollectionSchema

/-- The record as a value. -/
def toValue (s : CollectionSchema) : Value :=
  .record .collectionSchema
    [("name", s.name), ("description", s.description), ("auto_id", s.autoId),
     ("fields", .tuple (s.fields.map FieldSchema.toValue))]

/-- The collection that a value describes, if its fields are of the expected class. -/
def ofValue? : Value → Option CollectionSchema
  | .record .collectionSchema
      [(_, name), (_, description), (_, autoId), (_, .tuple fields)] => do
    return { name, description, autoId, fields := ← fields.mapM FieldSchema.ofValue? }
  | _ => none

end CollectionSchema

end VectorRequests
