/-
# Drafts of searches

A search can be put together step by step. A step that fails leaves the draft as
it was.
-/

import VectorRequests.Draft.Attribute
import VectorRequests.Param.Search

namespace VectorRequests

/-- The attributes of a search that have been given so far. -/
structure SearchDraft where
  collection : Option Value := none
  vectorField : Option Value := none
  topK : Option Value := none
  vectors : Option Value := none
  metric : Option Value := none
  partitions : Option Value := none
  outFields : Option Value := none
  expr : Option Value := none
  roundDecimal : Option Value := none
  params : Option Value := none
  travelTimestamp : Option Value := none
  guaranteeTimestamp : Option Value := none

namespace SearchDraft

/-- A step of a draft. -/
inductive Step
  | collection (v : Value)
  | vectorField (v : Value)
  | topK (v : Value)
  | metric (v : Value)
  | vectors (v : Value)
  | floatVectors (v : Value)
  | binaryVectors (v : Value)
  | partitions (v : Value)
  | addPartition (v : Value)
  | outFields (v : Value)
  | addOutField (v : Value)
  | expr (v : Value)
  | roundDecimal (v : Value)
  | params (v : Value)
  | travelTimestamp (v : Value)
  | guaranteeTimestamp (v : Value)

/-- The attribute that a step writes. -/
def Step.key : Step → String
  | .collection _ => "collection_name"
  | .vectorField _ => "vector_field_name"
  | .topK _ => "top_k"
  | .metric _ => "metric_type"
  | .vectors _ => "vectors"
  | .floatVectors _ => "vectors"
  | .binaryVectors _ => "vectors"
  | .partitions _ => "partition_names"
  | .addPartition _ => "partition_names"
  | .outFields _ => "out_fields"
  | .addOutField _ => "out_fields"
  | .expr _ => "expr"
  | .roundDecimal _ => "round_decimal"
  | .params _ => "params"
  | .travelTimestamp _ => "travel_timestamp"
  | .guaranteeTimestamp _ => "guarantee_timestamp"

/-- The list of the vectors that the items of a value give. -/
def vectorsOf (read : Value → Outcome TargetVector) (v : Value) : Outcome Value := do
  return .list ((← (← v.itemsFor read).mapM read).map .vector)

/-- Writes an attribute, unless its value fails. -/
def write (d : SearchDraft) (value : Outcome Value) (put : Value → SearchDraft) :
    SearchDraft × Outcome Unit :=
  match value with
  | .ok v => (put v, .ok ())
  | .error e => (d, .error e)

/-- The draft after a step, and how the step went. -/
def step (d : SearchDraft) : Step → SearchDraft × Outcome Unit
  | .collection v => ({ d with collection := some v }, .ok ())
  | .vectorField v => ({ d with vectorField := some v }, .ok ())
  | .topK v => ({ d with topK := some v }, .ok ())
  | .metric v => ({ d with metric := some v }, .ok ())
  | .vectors v => d.write (Draft.listOf v) fun v => { d with vectors := some v }
  | .floatVectors v =>
    d.write (vectorsOf TargetVector.ofFloats v) fun v => { d with vectors := some v }
  | .binaryVectors v =>
    d.write (vectorsOf TargetVector.ofBytes v) fun v => { d with vectors := some v }
  | .partitions v => d.write (Draft.listOf v) fun v => { d with partitions := some v }
  | .addPartition v =>
    ({ d with partitions := some (.list (Draft.items d.partitions ++ [v])) }, .ok ())
  | .outFields v => d.write (Draft.listOf v) fun v => { d with outFields := some v }
  | .addOutField v =>
    ({ d with outFields := some (.list (Draft.items d.outFields ++ [v])) }, .ok ())
  | .expr v => ({ d with expr := some v }, .ok ())
  | .roundDecimal v => ({ d with roundDecimal := some v }, .ok ())
  | .params v => ({ d with params := some v }, .ok ())
  | .travelTimestamp v => ({ d with travelTimestamp := some v }, .ok ())
  | .guaranteeTimestamp v => ({ d with guaranteeTimestamp := some v }, .ok ())

/-- The search with the given attributes, the others taking their defaults. -/
def finish (d : SearchDraft) (settings : Settings) : Outcome SearchParam := do
  SearchParam.ofValues (← Draft.required d.collection) (← Draft.required d.vectorField)
    (← Draft.required d.topK) (← Draft.required d.vectors) (d.metric.getD settings.metric)
    (d.partitions.getD (.tuple [])) (d.outFields.getD (.tuple [])) (d.expr.getD (.text ""))
    (d.roundDecimal.getD settings.roundDecimal) (d.params.getD settings.searchParams)
    (d.travelTimestamp.getD (.int 0))
    (d.guaranteeTimestamp.getD settings.guaranteeTimestamp)

/-- Builds the search of a draft, which must have a collection, a vector field and a
number of results. Vectors that nobody has written become an empty list in the
draft. -/
def build (d : SearchDraft) (settings : Settings) : SearchDraft × Outcome SearchParam :=
  match Check.name "Collection name" (d.collection.getD .null),
      Check.name "Target field name" (d.vectorField.getD .null), d.topK with
  | .error e, _, _ => (d, .error e)
  | .ok _, .error e, _ => (d, .error e)
  | .ok _, .ok _, none => (d, Error.refuse (.illegalTopK .null))
  | .ok _, .ok _, some _ =>
    let d := { d with vectors := some (d.vectors.getD (.list [])) }
    (d, d.finish settings)

end SearchDraft

end VectorRequests
