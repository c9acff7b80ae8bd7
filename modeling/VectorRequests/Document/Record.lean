/-
# Documents of records

A record is documented as what its class says it is. If its parts are of the expected
classes it is documented as such; if not, it is documented attribute by attribute, as far
as it has the attributes that are asked for. Members of vocabularies are documented by
their names, so a member of another vocabulary, or whatever else has a name, gives a
document too. Whether the document can be read back is another question.
-/

import VectorRequests.Document.Request
import VectorRequests.Value.Attribute

namespace VectorRequests.Document

/-- The name that an attribute of a value has. -/
def nameOf (v : Value) (key : String) : Outcome Value := do
  (← v.get key).get "name"

/-- The documents of the items of a value as named parameters. -/
def pairsOf (v : Value) : Outcome (List PairDocument) := do
  (← v.iterate).mapM fun param => do
    PairDocument.ofPair ⟨← param.get "key", ← param.get "value"⟩

/-- The document of the scalars that an attribute of a column holds, if it holds some. -/
def scalarsOf : Value → Outcome (Option ScalarsDocument)
  | .null => .ok none
  | v =>
    match ScalarField.ofValue? v with
    | some scalars => do return some (← ScalarsDocument.ofScalars scalars)
    | none => Error.fail .missingAttribute

/-- The document of the vectors that an attribute of a column holds. -/
def vectorsOf (v : Value) : Outcome VectorsDocument :=
  match VectorField.ofValue? v with
  | some vectors => VectorsDocument.ofVectors vectors
  | none => Error.fail .missingAttribute

/-- The document of a value as a column. -/
def ofColumn (v : Value) : Outcome ColumnDocument :=
  match FieldData.ofValue? v with
  | some c => ColumnDocument.ofFieldData c
  | none => do
    match ← scalarsOf (← v.get "scalars") with
    | some scalars =>
      ColumnDocument.ofParts (← v.get "field_name") (← nameOf v "type") (some scalars) none
    | none =>
      let vectors ← vectorsOf (← v.get "vectors")
      ColumnDocument.ofParts (← v.get "field_name") (← nameOf v "type") none (some vectors)

/-- The document of a value as a field schema. -/
def ofFieldSchema (v : Value) : Outcome SchemaDocument :=
  match FieldSchema.ofValue? v with
  | some s => SchemaDocument.ofSchema s
  | none => do
    let name ← v.get "name"
    let dataType ← nameOf v "data_type"
    let description ← v.get "description"
    let isPrimaryKey ← v.get "is_primary_key"
    let autoId ← v.get "auto_id"
    SchemaDocument.ofParts name dataType description isPrimaryKey autoId
      (← pairsOf (← v.get "type_params"))

/-- The document of a value as an insert request. -/
def ofInsertRequest (v : Value) : Outcome InsertDocument :=
  match InsertRequest.ofValue? v with
  | some r => InsertDocument.ofRequest r
  | none => do
    let msgType ← nameOf (← v.get "base") "msg_type"
    let collectionName ← v.get "collection_name"
    let partitionName ← v.get "partition_name"
    let numRows ← v.get "num_rows"
    let columns ← (← (← v.get "fields_data").iterate).mapM ofColumn
    InsertDocument.ofParts msgType collectionName partitionName numRows (← v.get "db_name")
      columns

/-- The bytes of a value that is documented in base64. -/
def rawBytes (v : Value) : Outcome (List UInt8) :=
  match v.rawBytes? with
  | some bs => .ok bs
  | none => Error.fail .wrongType

/-- The document of a value as a search request. -/
def ofSearchRequest (v : Value) : Outcome SearchDocument :=
  match SearchRequest.ofValue? v with
  | some r => SearchDocument.ofRequest r
  | none => do
    let collectionName ← v.get "collection_name"
    let placeholderGroup ← rawBytes (← v.get "placeholder_group")
    let dslType ← nameOf v "dsl_type"
    let dsl ← v.get "dsl"
    let partitionNames ← (← v.get "partition_names").iterate
    let outputFields ← (← v.get "output_fields").iterate
    let params ← pairsOf (← v.get "search_params")
    SearchDocument.ofParts collectionName placeholderGroup dslType dsl partitionNames
      outputFields params (← v.get "travel_timestamp") (← v.get "guarantee_timestamp")
      (← v.get "db_name")

end VectorRequests.Document
