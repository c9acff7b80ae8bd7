/-
# Records exchanged as documents

A record goes out as the text of its document and comes back as the record that is read
from the text.

A metric passes for an integer while a document is made, but its text is a name. So a
record that has one where an integer belongs is documented as if it were an integer, and
the text is refused for it when it is read.
-/

import VectorRequests.Document.Record
import VectorRequests.Document.Text

namespace VectorRequests.Document

/-- The document of a record and the record that is read back from its text. -/
structure Exchange where
  document : Json
  back : Outcome Value

/-- Documents a record as its class says, and reads the document back. -/
def exchangeSettled [OtherArrays] (v : Value) : Outcome Exchange := do
  match v with
  | .record .fieldData _ =>
    let document := (← ofColumn v).toJson
    return ⟨document, (readFieldData document.write).map FieldData.toValue⟩
  | .record .fieldSchema _ =>
    let document := (← ofFieldSchema v).toJson
    return ⟨document, (readSchema document.write).map FieldSchema.toValue⟩
  | .record .insertRequest _ =>
    let document := (← ofInsertRequest v).toJson
    return ⟨document, (readInsertRequest document.write).map InsertRequest.toValue⟩
  | .record .searchRequest _ =>
    let document := (← ofSearchRequest v).toJson
    return ⟨document, (readSearchRequest document.write).map SearchRequest.toValue⟩
  | .record .queryRequest _ =>
    match QueryRequest.ofValue? v with
    | some r =>
      let document := (← QueryDocument.ofRequest r).toJson
      return ⟨document, (readQueryRequest document.write).map QueryRequest.toValue⟩
    | none => Error.fail .missingAttribute
  | _ => Error.fail .missingKey

/-- The attributes that are documented as integers. -/
def integerKeys : List String :=
  ["dim", "num_rows", "travel_timestamp", "guarantee_timestamp"]

/-- Whether an attribute holds a metric where an integer belongs. -/
def isUnsettled (a : String × Value) : Bool :=
  match a.2 with
  | .metric _ => integerKeys.contains a.1
  | _ => false

/-- The attributes with integers where integers belong and metrics are. -/
def settleAttributes (attributes : List (String × Value)) : List (String × Value) :=
  attributes.map fun a => if isUnsettled a then (a.1, .int 0) else a

/-- The issues of attributes that hold metrics where integers belong. -/
def attributeIssues (attributes : List (String × Value)) : List Issue :=
  (attributes.filter isUnsettled).map fun a => ⟨.intParsing, [.key a.1]⟩

/-- The same issues, further away. -/
def issuesUnder (steps : List Step) (issues : List Issue) : List Issue :=
  issues.map fun i => { i with place := steps ++ i.place }

/-- A column with integers where integers belong, and the issues that it had. -/
def settleColumn : Value → Value × List Issue
  | .record .fieldData [name, type, scalars, (key, .record .vectorField block)] =>
    (.record .fieldData [name, type, scalars, (key, .record .vectorField (settleAttributes block))],
      issuesUnder [.key key] (attributeIssues block))
  | v => (v, [])

/-- The issues of the columns of a request, the first of which stands at `start`. -/
def columnIssues : (start : Nat) → List Value → List Issue
  | _, [] => []
  | start, v :: vs =>
    issuesUnder [.key "fields_data", .index start] (settleColumn v).2 ++
      columnIssues (start + 1) vs

/-- A record with integers where integers belong, and the issues that it had. -/
def settle : Value → Value × List Issue
  | .record .insertRequest [base, collection, partition, rows, (key, .tuple columns), db] =>
    (.record .insertRequest
      (settleAttributes [base, collection, partition, rows] ++
        [(key, .tuple (columns.map fun c => (settleColumn c).1)), db]),
      attributeIssues [base, collection, partition, rows] ++ columnIssues 0 columns)
  | .record .fieldData attributes => settleColumn (.record .fieldData attributes)
  | .record kind attributes =>
    (.record kind (settleAttributes attributes), attributeIssues attributes)
  | v => (v, [])

/-- Documents a record as its class says, and reads the document back. A record that is
not fit to be read back fails when that is done. -/
def exchange [OtherArrays] (v : Value) : Outcome Exchange := do
  let (settled, issues) := settle v
  let e ← exchangeSettled settled
  if issues.isEmpty then return e else return { e with back := .error (.invalid issues) }

end VectorRequests.Document
