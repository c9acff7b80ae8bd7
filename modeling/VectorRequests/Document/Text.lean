/-
# Documents as text

A document is exchanged as JSON text. Reading takes the text apart and checks it
against a model; a text that is no JSON is a single issue of its own.
-/

import VectorRequests.Document.Request
import VectorRequests.Json.Reader
import VectorRequests.Json.Writer

namespace VectorRequests.Document

/-- The document that a text holds. -/
def read {α : Type} (check : Value → Checked α) (s : String) : Outcome α :=
  match Json.read? s with
  | some j => (check j.toValue).toOutcome
  | none => (Checked.issue .jsonInvalid).toOutcome

/-- The column that a text holds. -/
def readFieldData [OtherArrays] (s : String) : Outcome FieldData := do
  (← read ColumnDocument.check s).toFieldData

/-- The field schema that a text holds. -/
def readSchema (s : String) : Outcome FieldSchema := do
  (← read SchemaDocument.check s).toSchema

/-- The insert request that a text holds. -/
def readInsertRequest [OtherArrays] (s : String) : Outcome InsertRequest := do
  (← read InsertDocument.check s).toRequest

/-- The search request that a text holds. -/
def readSearchRequest (s : String) : Outcome SearchRequest := do
  (← read SearchDocument.check s).toRequest

/-- The query request that a text holds. -/
def readQueryRequest (s : String) : Outcome QueryRequest := do
  return (← read QueryDocument.check s).toRequest

end VectorRequests.Document
