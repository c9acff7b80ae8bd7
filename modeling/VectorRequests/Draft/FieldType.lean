/-
# Drafts of field types

A field type can be put together step by step. A step that fails leaves the draft
as it was, except that extending the parameters first makes them an empty mapping.
-/

import VectorRequests.Draft.Attribute
import VectorRequests.Schema.FieldType

namespace VectorRequests

/-- The attributes of a field type that have been given so far. -/
structure FieldTypeDraft where
  name : Option Value := none
  dataType : Option Value := none
  description : Option Value := none
  primaryKey : Option Value := none
  autoId : Option Value := none
  typeParams : Option Value := none

namespace FieldTypeDraft

/-- A step of a draft. -/
inductive Step
  | name (v : Value)
  | description (v : Value)
  | dataType (v : Value)
  | primaryKey (v : Value)
  | autoId (v : Value)
  | typeParams (v : Value)
  | addTypeParam (key value : Value)
  | dimension (v : Value)

/-- The attribute that a step writes. -/
def Step.key : Step → String
  | .name _ => "name"
  | .description _ => "description"
  | .dataType _ => "data_type"
  | .primaryKey _ => "primary_key"
  | .autoId _ => "auto_id"
  | .typeParams _ => "type_params"
  | .addTypeParam .. => "type_params"
  | .dimension _ => "type_params"

/-- Adds a parameter to those given so far. -/
def addTypeParam (d : FieldTypeDraft) (key value : Value) : FieldTypeDraft × Outcome Unit :=
  let entries := Draft.entries d.typeParams
  match Value.putEntry entries key value with
  | .ok entries => ({ d with typeParams := some (.mapping entries) }, .ok ())
  | .error e => ({ d with typeParams := some (.mapping entries) }, .error e)

/-- The draft after a step, and how the step went. -/
def step (d : FieldTypeDraft) : Step → FieldTypeDraft × Outcome Unit
  | .name v => ({ d with name := some v }, .ok ())
  | .description v => ({ d with description := some v }, .ok ())
  | .dataType v => ({ d with dataType := some v }, .ok ())
  | .primaryKey v => ({ d with primaryKey := some v }, .ok ())
  | .autoId v => ({ d with autoId := some v }, .ok ())
  | .typeParams v =>
    match Draft.mappingOf v with
    | .ok params => ({ d with typeParams := some params }, .ok ())
    | .error e => (d, .error e)
  | .addTypeParam key value => d.addTypeParam key value
  | .dimension v =>
    match v.plainText with
    | .ok s => d.addTypeParam (.text TypeParams.dimName) (.text s)
    | .error e => (d, .error e)

/-- The field type with the given attributes, the others taking their defaults. -/
def finish (d : FieldTypeDraft) : Outcome FieldType := do
  FieldType.ofValues (← Draft.required d.name) (← Draft.required d.dataType)
    (d.description.getD (.text "")) (d.primaryKey.getD (.bool false))
    (d.autoId.getD (.bool false)) (d.typeParams.getD (.mapping []))

/-- The field type of a draft, which must have a name and a data type. -/
def build (d : FieldTypeDraft) : Outcome FieldType := do
  let name ← Check.name "Field name" (d.name.getD .null)
  if d.dataType.isNone then
    Error.refuseField .missingType name.toValue
  else
    d.finish

end FieldTypeDraft

end VectorRequests
