/-
# Documents of requests and schemas

Requests and field schemas are documented attribute by attribute; members of
vocabularies by their names and the placeholder group of a search in base64. An
insert document keeps only the kind of its message, not the other attributes that
every message starts with.
-/

import VectorRequests.Document.Column
import VectorRequests.Wire.Request

namespace VectorRequests

open Document

/-- The document of a field schema. -/
structure SchemaDocument where
  name : String
  dataType : String
  description : String
  isPrimaryKey : Bool
  autoId : Bool
  typeParams : List PairDocument
  deriving DecidableEq, Repr

namespace SchemaDocument

/-- The document with the given parts. -/
def check (v : Value) : Checked SchemaDocument :=
  (checkObject v).andThen fun entries =>
    ((((((required entries "name" checkText).map SchemaDocument.mk).app
      (required entries "data_type" checkText)).app
      (optional entries "description" checkText "")).app
      (optional entries "is_primary_key" checkBool false)).app
      (optional entries "auto_id" checkBool false)).app
      (optional entries "type_params" (checkList PairDocument.check) [])

/-- The document as JSON. -/
def toJson (d : SchemaDocument) : Json :=
  .object [("name", .text d.name), ("data_type", .text d.dataType),
    ("description", .text d.description), ("is_primary_key", .bool d.isPrimaryKey),
    ("auto_id", .bool d.autoId), ("type_params", .list (d.typeParams.map PairDocument.toJson))]

/-- The document of a field schema with the given attributes. -/
def ofParts (name dataType description isPrimaryKey autoId : Value)
    (params : List PairDocument) : Outcome SchemaDocument :=
  (check (.mapping
    [(.text "name", name), (.text "data_type", dataType), (.text "description", description),
     (.text "is_primary_key", isPrimaryKey), (.text "auto_id", autoId),
     (.text "type_params", .list (params.map fun p => p.toJson.toValue))])).toOutcome

/-- The document of a field schema. -/
def ofSchema (s : FieldSchema) : Outcome SchemaDocument := do
  let params ← s.typeParams.mapM PairDocument.ofPair
  ofParts s.name (.text s.dataType.name) s.description s.isPrimaryKey s.autoId params

/-- The field schema of a document. -/
def toSchema (d : SchemaDocument) : Outcome FieldSchema := do
  let dataType ← member .dataType DataType.ofName? d.dataType
  return {
    dataType
    name := .text d.name
    description := .text d.description
    isPrimaryKey := .bool d.isPrimaryKey
    autoId := .bool d.autoId
    typeParams := d.typeParams.map PairDocument.toPair }

end SchemaDocument

/-- The document of an insert request. -/
structure InsertDocument where
  msgType : String
  collectionName : String
  partitionName : String
  numRows : Int
  fieldsData : List ColumnDocument
  dbName : String
  deriving DecidableEq, Repr

namespace InsertDocument

/-- The document with the given parts. -/
def check (v : Value) : Checked InsertDocument :=
  (checkObject v).andThen fun entries =>
    ((((((required entries "msg_type" checkText).map InsertDocument.mk).app
      (required entries "collection_name" checkText)).app
      (required entries "partition_name" checkText)).app
      (required entries "num_rows" checkInt)).app
      (optional entries "fields_data" (checkList ColumnDocument.check) [])).app
      (optional entries "db_name" checkText "")

/-- The document as JSON. -/
def toJson (d : InsertDocument) : Json :=
  .object [("msg_type", .text d.msgType), ("collection_name", .text d.collectionName),
    ("partition_name", .text d.partitionName), ("num_rows", .int d.numRows),
    ("fields_data", .list (d.fieldsData.map ColumnDocument.toJson)), ("db_name", .text d.dbName)]

/-- The document of an insert request with the given attributes. -/
def ofParts (msgType collectionName partitionName numRows dbName : Value)
    (columns : List ColumnDocument) : Outcome InsertDocument :=
  (check (.mapping
    [(.text "msg_type", msgType), (.text "collection_name", collectionName),
     (.text "partition_name", partitionName), (.text "num_rows", numRows),
     (.text "fields_data", .list (columns.map fun c => c.toJson.toValue)),
     (.text "db_name", dbName)])).toOutcome

/-- The document of an insert request. -/
def ofRequest (r : InsertRequest) : Outcome InsertDocument := do
  let columns ← r.fieldsData.mapM ColumnDocument.ofFieldData
  ofParts (.text r.base.msgType.name) r.collectionName r.partitionName r.numRows r.dbName columns

/-- The insert request of a document. -/
def toRequest [OtherArrays] (d : InsertDocument) : Outcome InsertRequest := do
  let msgType ← member .msgType MsgType.ofName? d.msgType
  let columns ← d.fieldsData.mapM ColumnDocument.toFieldData
  return {
    base := { msgType }
    collectionName := .text d.collectionName
    partitionName := .text d.partitionName
    numRows := .int d.numRows
    fieldsData := columns
    dbName := .text d.dbName }

end InsertDocument

/-- The document of a search request. -/
structure SearchDocument where
  collectionName : String
  placeholderGroup : String
  dslType : String
  dsl : String
  partitionNames : List String
  outputFields : List String
  searchParams : List PairDocument
  travelTimestamp : Int
  guaranteeTimestamp : Int
  dbName : String
  deriving DecidableEq, Repr

namespace SearchDocument

/-- The document with the given parts. -/
def check (v : Value) : Checked SearchDocument :=
  (checkObject v).andThen fun entries =>
    ((((((((((required entries "collection_name" checkText).map SearchDocument.mk).app
      (required entries "placeholder_group" checkText)).app
      (optional entries "dsl_type" checkText DslType.boolExprV1.name)).app
      (optional entries "dsl" checkText "")).app
      (optional entries "partition_names" (checkList checkText) [])).app
      (optional entries "output_fields" (checkList checkText) [])).app
      (optional entries "search_params" (checkList PairDocument.check) [])).app
      (optional entries "travel_timestamp" checkInt 0)).app
      (optional entries "guarantee_timestamp" checkInt 0)).app
      (optional entries "db_name" checkText "")

/-- The document as JSON. -/
def toJson (d : SearchDocument) : Json :=
  .object [("collection_name", .text d.collectionName),
    ("placeholder_group", .text d.placeholderGroup), ("dsl_type", .text d.dslType),
    ("dsl", .text d.dsl), ("partition_names", Json.texts d.partitionNames),
    ("output_fields", Json.texts d.outputFields),
    ("search_params", .list (d.searchParams.map PairDocument.toJson)),
    ("travel_timestamp", .int d.travelTimestamp),
    ("guarantee_timestamp", .int d.guaranteeTimestamp), ("db_name", .text d.dbName)]

/-- The document of a search request with the given attributes, among them its placeholder
group as bytes. -/
def ofParts (collectionName : Value) (placeholderGroup : List UInt8) (dslType dsl : Value)
    (partitionNames outputFields : List Value) (params : List PairDocument)
    (travelTimestamp guaranteeTimestamp dbName : Value) : Outcome SearchDocument :=
  (check (.mapping
    [(.text "collection_name", collectionName),
     (.text "placeholder_group", .text (Base64.encode placeholderGroup)),
     (.text "dsl_type", dslType), (.text "dsl", dsl),
     (.text "partition_names", .list partitionNames),
     (.text "output_fields", .list outputFields),
     (.text "search_params", .list (params.map fun p => p.toJson.toValue)),
     (.text "travel_timestamp", travelTimestamp),
     (.text "guarantee_timestamp", guaranteeTimestamp),
     (.text "db_name", dbName)])).toOutcome

/-- The document of a search request. -/
def ofRequest (r : SearchRequest) : Outcome SearchDocument := do
  let params ← r.searchParams.mapM PairDocument.ofPair
  ofParts r.collectionName r.placeholderGroup (.text r.dslType.name) r.dsl r.partitionNames
    r.outputFields params r.travelTimestamp r.guaranteeTimestamp r.dbName

/-- The search request of a document. -/
def toRequest (d : SearchDocument) : Outcome SearchRequest := do
  let placeholderGroup ← bytesOf .null d.placeholderGroup
  let dslType ← member .dslType DslType.ofName? d.dslType
  return {
    placeholderGroup, dslType
    collectionName := .text d.collectionName
    dsl := .text d.dsl
    partitionNames := d.partitionNames.map .text
    outputFields := d.outputFields.map .text
    searchParams := d.searchParams.map PairDocument.toPair
    travelTimestamp := .int d.travelTimestamp
    guaranteeTimestamp := .int d.guaranteeTimestamp
    dbName := .text d.dbName }

end SearchDocument

/-- The document of a query request. -/
structure QueryDocument where
  collectionName : String
  expr : String
  partitionNames : List String
  outputFields : List String
  travelTimestamp : Int
  guaranteeTimestamp : Int
  dbName : String
  deriving DecidableEq, Repr

namespace QueryDocument

/-- The document with the given parts. -/
def check (v : Value) : Checked QueryDocument :=
  (checkObject v).andThen fun entries =>
    (((((((required entries "collection_name" checkText).map QueryDocument.mk).app
      (required entries "expr" checkText)).app
      (optional entries "partition_names" (checkList checkText) [])).app
      (optional entries "output_fields" (checkList checkText) [])).app
      (optional entries "travel_timestamp" checkInt 0)).app
      (optional entries "guarantee_timestamp" checkInt 0)).app
      (optional entries "db_name" checkText "")

/-- The document as JSON. -/
def toJson (d : QueryDocument) : Json :=
  .object [("collection_name", .text d.collectionName), ("expr", .text d.expr),
    ("partition_names", Json.texts d.partitionNames),
    ("output_fields", Json.texts d.outputFields),
    ("travel_timestamp", .int d.travelTimestamp),
    ("guarantee_timestamp", .int d.guaranteeTimestamp), ("db_name", .text d.dbName)]

/-- The document of a query request. -/
def ofRequest (r : QueryRequest) : Outcome QueryDocument :=
  (check (.mapping
    [(.text "collection_name", r.collectionName), (.text "expr", r.expr),
     (.text "partition_names", .list r.partitionNames),
     (.text "output_fields", .list r.outputFields),
     (.text "travel_timestamp", r.travelTimestamp),
     (.text "guarantee_timestamp", r.guaranteeTimestamp),
     (.text "db_name", r.dbName)])).toOutcome

/-- The query request of a document. -/
def toRequest (d : QueryDocument) : QueryRequest where
  collectionName := .text d.collectionName
  expr := .text d.expr
  partitionNames := d.partitionNames.map .text
  outputFields := d.outputFields.map .text
  travelTimestamp := .int d.travelTimestamp
  guaranteeTimestamp := .int d.guaranteeTimestamp
  dbName := .text d.dbName

end QueryDocument

end VectorRequests
