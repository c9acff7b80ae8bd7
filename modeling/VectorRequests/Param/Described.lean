/-
# Inserts into described collections

The schema that an insert is held against may describe the fields of the collection in
any way that gives each a name. An entry says more about its field only when it is
asked: whether the service generates the field, and which data type it has. What is
inserted may itself be given by its attributes alone, its columns among them.
-/

import VectorRequests.Param.Insert

namespace VectorRequests.Described

/-- The columns of a value by their names. -/
def columns (param : Value) : Outcome (List (Value × Value)) := do
  let items ← (← param.get "fields").iterate
  items.foldlM (fun entries item => do
    Value.putEntry entries (← item.get "name") item) []

/-- The names of the entries of a schema, each of which must be one that can be looked
up. -/
def entryNames (entries : List Value) : Outcome (List Value) :=
  entries.mapM fun entry => do
    let name ← entry.get "name"
    if name.isKey then return name else Error.fail .wrongType

/-- Whether the service generates the field of an entry. -/
def isGenerated (entry : Value) : Outcome Bool := do
  (← entry.get "auto_id").truth

/-- A column packed for the wire as it describes itself. -/
def marshal (column : Value) : Outcome FieldData := do
  let name ← column.get "name"
  let type ← column.get "data_type"
  let values ← column.get "values"
  Column.marshal name type values

/-- The column that the request carries for an entry with a name, if it carries one. -/
def fieldData (columns : List (Value × Value)) (entry name : Value) :
    Outcome (Option FieldData) :=
  match Value.findEntry? name columns with
  | none => do
    if ← isGenerated entry then return none
    else Error.refuseField (.notProvided (← name.shownText)) name
  | some (_, column) => do
    if ← isGenerated entry then
      Error.refuseField (.autoGenerated (← name.shownText)) name
    else if ← (← entry.get "data_type").equal (← column.get "data_type") then
      return some (← marshal column)
    else
      Error.refuseField (.typeMismatch (← name.shownText)) name

/-- The warning that columns are left out. -/
def warning (param : Value) (names : List Value) : Outcome String := do
  let ignored ← (Value.list names).shownText
  let collection ← (← param.get "collection_name").shownText
  return "Fields " ++ ignored ++ " are not in the schema of collection " ++ collection ++
    " and were ignored"

/-- The warnings about the columns that a schema does not name. -/
def warnings (param : Value) (columns : List (Value × Value)) (names : List Value) :
    Outcome (List String) := do
  let ignored := (columns.map (·.1)).filter fun name => !names.any name.isSameKey
  if ignored.isEmpty then return [] else return [← warning param ignored]

/-- The request of an insert into a collection, both as described. -/
def toRequest (param schema : Value) : Outcome InsertParam.Converted := do
  let columns ← columns param
  let entries ← schema.itemsFor (·.get "name")
  let names ← entryNames entries
  let fields ← (entries.zip names).mapM fun (entry, name) => fieldData columns entry name
  let warnings ← warnings param columns names
  return {
    request := {
      base := { msgType := .insert }
      collectionName := ← param.get "collection_name"
      partitionName := ← param.get "partition_name"
      numRows := ← param.get "row_count"
      fieldsData := fields.filterMap id }
    warnings }

/-- The field types that a value holds, if it holds nothing else. -/
def fieldTypes? (schema : Value) : Option (List FieldType) :=
  match schema.iterate with
  | .ok items => items.mapM FieldType.ofValue?
  | .error _ => none

/-- The request of a value that is inserted into a collection with a schema. -/
def convert (param schema : Value) : Outcome InsertParam.Converted :=
  match InsertParam.ofValue? param, fieldTypes? schema with
  | some p, some types => p.toRequest types
  | _, _ => toRequest param schema

end VectorRequests.Described
