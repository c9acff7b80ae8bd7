/-
# Queries

A query has a collection and an expression that selects its entities, both texts
that are not blank.
-/

import VectorRequests.Param.Check
import VectorRequests.Param.Settings
import VectorRequests.Wire.Request

namespace VectorRequests

/-- An expression that selects the entities of a collection. -/
structure QueryParam where
  collection : Name
  expr : Name
  partitions : List Name
  outFields : List Name
  travelTimestamp : Value
  guaranteeTimestamp : Value

namespace QueryParam

/-- The query with the given attributes. -/
def ofValues (collection expr partitions outFields travel guarantee : Value) :
    Outcome QueryParam := do
  let collection ← Check.name "Collection name" collection
  let expr ← Check.name "Expression" expr
  let partitions ← Check.names "Partition name" partitions
  let outFields ← Check.names "Output field name" outFields
  Check.timestamp "travel timestamp" travel
  Check.timestamp "guarantee timestamp" guarantee
  return ⟨collection, expr, partitions, outFields, travel, guarantee⟩

/-- The request of a query. -/
def toRequest (p : QueryParam) : QueryRequest where
  collectionName := p.collection.toValue
  expr := p.expr.toValue
  partitionNames := p.partitions.map Name.toValue
  outputFields := p.outFields.map Name.toValue
  travelTimestamp := p.travelTimestamp
  guaranteeTimestamp := p.guaranteeTimestamp

/-- The record as a value. -/
def toValue (p : QueryParam) : Value :=
  .record .queryParam
    [("collection_name", p.collection.toValue), ("expr", p.expr.toValue),
     ("partition_names", .tuple (p.partitions.map Name.toValue)),
     ("out_fields", .tuple (p.outFields.map Name.toValue)),
     ("travel_timestamp", p.travelTimestamp),
     ("guarantee_timestamp", p.guaranteeTimestamp)]

/-- The query that a value is. -/
def ofValue? : Value → Option QueryParam
  | .record .queryParam
      [(_, collection), (_, expr), (_, partitions), (_, outFields), (_, travel),
       (_, guarantee)] =>
    (ofValues collection expr partitions outFields travel guarantee).toOption
  | _ => none

end QueryParam

end VectorRequests
