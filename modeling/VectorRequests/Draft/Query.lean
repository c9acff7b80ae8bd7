/-
# Drafts of queries

A query can be put together step by step. A step that fails leaves the draft as it
was.
-/

import VectorRequests.Draft.Attribute
import VectorRequests.Param.Query

namespace VectorRequests

/-- The attributes of a query that have been given so far. -/
structure QueryDraft where
  collection : Option Value := none
  expr : Option Value := none
  partitions : Option Value := none
  outFields : Option Value := none
  travelTimestamp : Option Value := none
  guaranteeTimestamp : Option Value := none

namespace QueryDraft

/-- A step of a draft. -/
inductive Step
  | collection (v : Value)
  | expr (v : Value)
  | partitions (v : Value)
  | addPartition (v : Value)
  | outFields (v : Value)
  | addOutField (v : Value)
  | travelTimestamp (v : Value)
  | guaranteeTimestamp (v : Value)

/-- The attribute that a step writes. -/
def Step.key : Step → String
  | .collection _ => "collection_name"
  | .expr _ => "expr"
  | .partitions _ => "partition_names"
  | .addPartition _ => "partition_names"
  | .outFields _ => "out_fields"
  | .addOutField _ => "out_fields"
  | .travelTimestamp _ => "travel_timestamp"
  | .guaranteeTimestamp _ => "guarantee_timestamp"

/-- The draft after a step, and how the step went. -/
def step (d : QueryDraft) : Step → QueryDraft × Outcome Unit
  | .collection v => ({ d with collection := some v }, .ok ())
  | .expr v => ({ d with expr := some v }, .ok ())
  | .partitions v =>
    match Draft.listOf v with
    | .ok names => ({ d with partitions := some names }, .ok ())
    | .error e => (d, .error e)
  | .addPartition v =>
    ({ d with partitions := some (.list (Draft.items d.partitions ++ [v])) }, .ok ())
  | .outFields v =>
    match Draft.listOf v with
    | .ok names => ({ d with outFields := some names }, .ok ())
    | .error e => (d, .error e)
  | .addOutField v =>
    ({ d with outFields := some (.list (Draft.items d.outFields ++ [v])) }, .ok ())
  | .travelTimestamp v => ({ d with travelTimestamp := some v }, .ok ())
  | .guaranteeTimestamp v => ({ d with guaranteeTimestamp := some v }, .ok ())

/-- The query with the given attributes, the others taking their defaults. -/
def finish (d : QueryDraft) (settings : Settings) : Outcome QueryParam := do
  QueryParam.ofValues (← Draft.required d.collection) (← Draft.required d.expr)
    (d.partitions.getD (.tuple [])) (d.outFields.getD (.tuple []))
    (d.travelTimestamp.getD (.int 0))
    (d.guaranteeTimestamp.getD settings.guaranteeTimestamp)

/-- The query of a draft, which must have a collection and an expression. -/
def build (d : QueryDraft) (settings : Settings) : Outcome QueryParam := do
  discard <| Check.name "Collection name" (d.collection.getD .null)
  discard <| Check.name "Expression" (d.expr.getD .null)
  d.finish settings

end QueryDraft

end VectorRequests
