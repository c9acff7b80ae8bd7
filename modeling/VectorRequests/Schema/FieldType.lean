/-
# Field types

How a client declares a field of a collection: a name, a proper data type, and
parameters. A vector field has a positive dimension. A field type and a schema on
the wire describe the same thing, and each can be made from the other.
-/

import VectorRequests.Param.Check
import VectorRequests.Schema.TypeParams
import VectorRequests.Value.Attribute

namespace VectorRequests

open VectorRequests.Text

/-- A declared field of a collection. -/
structure FieldType where
  name : Name
  dataType : DataType
  description : Value
  primaryKey : Value
  autoId : Value
  typeParams : TypeParams
  dataType_isProper : dataType.isProper = true
  hasDimension : dataType.isVector = true → typeParams.HasDimension

namespace FieldType

/-- The data type of a field, which must be a proper one. -/
def properType (field : Value) : Value → Outcome { t : DataType // t.isProper = true }
  | .dataType t =>
    if h : t.isProper = true then .ok ⟨t, h⟩
    else Error.refuseField (.illegalType (.dataType t)) field
  | v => v.withText (Error.refuseField (.illegalType v) field)

/-- Refuses parameters that give no positive dimension. -/
def checkDimension (field : Value) (params : TypeParams) :
    Outcome (PLift params.HasDimension) :=
  match hget : params.get? TypeParams.dimName with
  | none => Error.refuseField .missingDimension field
  | some given =>
    match hread : Integer.read? given with
    | none => Error.refuseField (.dimensionNotInteger given) field
    | some n =>
      if hpos : 0 < n then
        .ok ⟨n, by simp [TypeParams.dimension?, hget, hread], hpos⟩
      else
        Error.refuseField .dimensionNotPositive field

/-- The field type with the given attributes. -/
def ofValues (name dataType description primaryKey autoId typeParams : Value) :
    Outcome FieldType := do
  let name ← Check.name "Field name" name
  let ⟨type, hproper⟩ ← properType name.toValue dataType
  let params ← TypeParams.ofValue typeParams
  if hvector : type.isVector = true then
    let ⟨hdim⟩ ← checkDimension name.toValue params
    return ⟨name, type, description, primaryKey, autoId, params, hproper, fun _ => hdim⟩
  else
    return ⟨name, type, description, primaryKey, autoId, params, hproper,
      fun h => absurd h hvector⟩

/-- The dimension, if there is one. Only vector fields are sure to have one that
reads as an integer. -/
def dimension (t : FieldType) : Outcome (Option Int) :=
  match t.typeParams.get? TypeParams.dimName with
  | none => .ok none
  | some given =>
    match Integer.read? given with
    | some n => .ok (some n)
    | none => Error.fail .badValue

/-- The schema on the wire of a field type. -/
def toSchema (t : FieldType) : FieldSchema where
  name := t.name.toValue
  dataType := t.dataType
  description := t.description
  isPrimaryKey := t.primaryKey
  autoId := t.autoId
  typeParams := t.typeParams.toPairs

/-- The field type of a schema on the wire. -/
def ofSchema (s : FieldSchema) : Outcome FieldType := do
  let params ← Value.mappingOf (s.typeParams.map fun p => (p.key, p.value))
  ofValues s.name (.dataType s.dataType) s.description s.isPrimaryKey s.autoId
    (.mapping params)

/-- The field types of a collection, in the order of its schema. -/
def ofCollection (s : CollectionSchema) : Outcome (List FieldType) :=
  s.fields.mapM ofSchema

/-- The entries of a mapping that named parameters give one after the other. -/
def paramEntries (params : List Value) : Outcome (List (Value × Value)) :=
  params.foldlM (fun entries param => do
    Value.putEntry entries (← param.get "key") (← param.get "value")) []

/-- The field type of a value that describes a field as a schema does, whatever its
attributes are. -/
def ofDescribed (v : Value) : Outcome FieldType := do
  match FieldSchema.ofValue? v with
  | some s => ofSchema s
  | none =>
    let name ← v.get "name"
    let dataType ← v.get "data_type"
    let description ← v.get "description"
    let primaryKey ← v.get "is_primary_key"
    let autoId ← v.get "auto_id"
    let params ← paramEntries (← (← v.get "type_params").iterate)
    ofValues name dataType description primaryKey autoId (.mapping params)

/-- The field types of a value that describes a collection, whatever its fields are. -/
def ofDescribedCollection (v : Value) : Outcome (List FieldType) := do
  match CollectionSchema.ofValue? v with
  | some s => ofCollection s
  | none => (← (← v.get "fields").iterate).mapM ofDescribed

/-- The record as a value. -/
def toValue (t : FieldType) : Value :=
  .record .fieldType
    [("name", t.name.toValue), ("data_type", .dataType t.dataType),
     ("description", t.description), ("primary_key", t.primaryKey), ("auto_id", t.autoId),
     ("type_params", t.typeParams.toValue)]

/-- The field type that a value is. -/
def ofValue? : Value → Option FieldType
  | .record .fieldType
      [(_, name), (_, dataType), (_, description), (_, primaryKey), (_, autoId),
       (_, typeParams)] =>
    (ofValues name dataType description primaryKey autoId typeParams).toOption
  | _ => none

/-- Whether the field type made from the schema of a field type equals it. Both hold
the same values, but each has parameters of its own. -/
def survivesSchema (t : FieldType) : Outcome Bool := do
  let back ← ofSchema t.toSchema
  Value.equalSharing (· ≠ "type_params") back.toValue t.toValue

end FieldType

end VectorRequests
