/-
# Requests on the wire

The records that are sent to the service. Apart from their kind and their columns,
their attributes are not checked here and may be any values.
-/

import VectorRequests.Placeholder.Group
import VectorRequests.Schema.FieldSchema
import VectorRequests.Value.Attribute
import VectorRequests.Value.Equality
import VectorRequests.Wire.FieldData

namespace VectorRequests

/-- What every message starts with. -/
structure MsgBase where
  msgType : MsgType
  msgId : Value := .int 0
  timestamp : Value := .int 0
  sourceId : Value := .int 0

namespace MsgBase

/-- The record as a value. -/
def toValue (b : MsgBase) : Value :=
  .record .msgBase
    [("msg_type", .msgType b.msgType), ("msg_id", b.msgId), ("timestamp", b.timestamp),
     ("source_id", b.sourceId)]

/-- The beginning of a message that a value is. -/
def ofValue? : Value → Option MsgBase
  | .record .msgBase [(_, .msgType msgType), (_, msgId), (_, timestamp), (_, sourceId)] =>
    some { msgType, msgId, timestamp, sourceId }
  | _ => none

end MsgBase

/-- Columns to be inserted into a collection. -/
structure InsertRequest where
  base : MsgBase
  collectionName : Value
  partitionName : Value
  numRows : Value
  fieldsData : List FieldData := []
  dbName : Value := .text ""

namespace InsertRequest

/-- The record as a value. -/
def toValue (r : InsertRequest) : Value :=
  .record .insertRequest
    [("base", r.base.toValue), ("collection_name", r.collectionName),
     ("partition_name", r.partitionName), ("num_rows", r.numRows),
     ("fields_data", .tuple (r.fieldsData.map FieldData.toValue)), ("db_name", r.dbName)]

/-- The request that a value is, if its parts are of the expected classes. -/
def ofValue? : Value → Option InsertRequest
  | .record .insertRequest
      [(_, base), (_, collectionName), (_, partitionName), (_, numRows), (_, .tuple fields),
       (_, dbName)] => do
    let base ← MsgBase.ofValue? base
    let fieldsData ← fields.mapM FieldData.ofValue?
    return { base, collectionName, partitionName, numRows, fieldsData, dbName }
  | _ => none

end InsertRequest

/-- Targets to be searched for in a collection. -/
structure SearchRequest where
  collectionName : Value
  placeholderGroup : List UInt8
  dslType : DslType := .boolExprV1
  dsl : Value := .text ""
  partitionNames : List Value := []
  outputFields : List Value := []
  searchParams : List KeyValuePair := []
  travelTimestamp : Value := .int 0
  guaranteeTimestamp : Value := .int 0
  dbName : Value := .text ""

namespace SearchRequest

/-- The value of the first of some parameters with a key, or null. -/
def findParam (key : Value) : List Value → Outcome Value
  | [] => .ok .null
  | param :: params => do
    if ← (← param.get "key").equal key then param.get "value" else findParam key params

/-- The value of the first search parameter with a key. -/
def getSearchParam (r : SearchRequest) (key : Value) : Outcome Value :=
  findParam key (r.searchParams.map KeyValuePair.toValue)

/-- The record as a value. -/
def toValue (r : SearchRequest) : Value :=
  .record .searchRequest
    [("collection_name", r.collectionName), ("placeholder_group", .bytes r.placeholderGroup),
     ("dsl_type", .dslType r.dslType), ("dsl", r.dsl),
     ("partition_names", .tuple r.partitionNames), ("output_fields", .tuple r.outputFields),
     ("search_params", .tuple (r.searchParams.map KeyValuePair.toValue)),
     ("travel_timestamp", r.travelTimestamp), ("guarantee_timestamp", r.guaranteeTimestamp),
     ("db_name", r.dbName)]

/-- The request that a value is, if its parts are of the expected classes. -/
def ofValue? : Value → Option SearchRequest
  | .record .searchRequest
      [(_, collectionName), (_, .bytes placeholderGroup), (_, .dslType dslType), (_, dsl),
       (_, .tuple partitionNames), (_, .tuple outputFields), (_, .tuple params),
       (_, travelTimestamp), (_, guaranteeTimestamp), (_, dbName)] => do
    let searchParams ← params.mapM KeyValuePair.ofValue?
    return { collectionName, placeholderGroup, dslType, dsl, partitionNames, outputFields,
             searchParams, travelTimestamp, guaranteeTimestamp, dbName }
  | _ => none

end SearchRequest

/-- An expression that selects the entities of a collection. -/
structure QueryRequest where
  collectionName : Value
  expr : Value
  partitionNames : List Value := []
  outputFields : List Value := []
  travelTimestamp : Value := .int 0
  guaranteeTimestamp : Value := .int 0
  dbName : Value := .text ""

namespace QueryRequest

/-- The record as a value. -/
def toValue (r : QueryRequest) : Value :=
  .record .queryRequest
    [("collection_name", r.collectionName), ("expr", r.expr),
     ("partition_names", .tuple r.partitionNames), ("output_fields", .tuple r.outputFields),
     ("travel_timestamp", r.travelTimestamp), ("guarantee_timestamp", r.guaranteeTimestamp),
     ("db_name", r.dbName)]

/-- The request that a value is. -/
def ofValue? : Value → Option QueryRequest
  | .record .queryRequest
      [(_, collectionName), (_, expr), (_, .tuple partitionNames), (_, .tuple outputFields),
       (_, travelTimestamp), (_, guaranteeTimestamp), (_, dbName)] =>
    some { collectionName, expr, partitionNames, outputFields, travelTimestamp,
           guaranteeTimestamp, dbName }
  | _ => none

end QueryRequest

/-- A question about how far an index has been built. -/
structure ProgressRequest where
  collectionName : Value
  fieldName : Value := .text ""
  indexName : Value := .text ""
  dbName : Value := .text ""

namespace ProgressRequest

/-- The record as a value. -/
def toValue (r : ProgressRequest) : Value :=
  .record .progressRequest
    [("collection_name", r.collectionName), ("field_name", r.fieldName),
     ("index_name", r.indexName), ("db_name", r.dbName)]

end ProgressRequest

end VectorRequests
