/-
# Inserts

An insert has a collection, a partition and columns with distinct names and the
same number of rows. Against the schema of the collection, every field that the
service does not generate must be supplied with the declared type, and no field
that it generates may be. The request carries the columns in the order of the
schema; supplied columns that the schema does not name are left out, with a
warning.
-/

import VectorRequests.Column.Basic
import VectorRequests.Schema.FieldType
import VectorRequests.Wire.Request

namespace VectorRequests

open VectorRequests.Text

/-- Columns to be inserted into a collection. -/
structure InsertParam where
  collection : Name
  partition : Name
  columns : List Column
  rowCount : Nat
  nonempty : columns ≠ []
  names_nodup : (columns.map Column.name).Nodup
  rowCount_eq : ∀ c ∈ columns, c.rowCount = rowCount

namespace InsertParam

/-- The column that a value is. -/
def readColumn (v : Value) : Outcome Column :=
  match Column.ofValue? v with
  | none => Error.refuse (.notColumn v.typeName)
  | some c => .ok c

/-- The columns among some values; the first one that is no column, or repeats the
name of an earlier one, is refused. -/
def readColumns (earlier : List Name) : List Value → Outcome (List Column)
  | [] => .ok []
  | v :: vs =>
    match Column.ofValue? v with
    | none => Error.refuse (.notColumn v.typeName)
    | some c =>
      if c.name ∈ earlier then
        Error.refuseField (.repeatedColumn c.name.text) c.name.toValue
      else do
        return c :: (← readColumns (c.name :: earlier) vs)

/-- Refuses the first column whose number of rows is not the expected one. -/
def checkRowCounts (expected : Nat) : List Column → Outcome Unit
  | [] => .ok ()
  | c :: cs =>
    if c.rowCount = expected then checkRowCounts expected cs
    else Error.refuseField .unequalColumns c.name.toValue

theorem readColumns_distinct {vs : List Value} {earlier : List Name} {cs : List Column}
    (h : readColumns earlier vs = .ok cs) :
    (cs.map Column.name).Nodup ∧ ∀ c ∈ cs, c.name ∉ earlier := by
  induction vs generalizing earlier cs with
  | nil =>
    cases h
    simp
  | cons v vs ih =>
    unfold readColumns at h
    split at h
    · exact absurd h (by simp [Error.refuse])
    · rename_i c _
      split at h
      · exact absurd h (by simp [Error.refuseField])
      · rename_i hfresh
        cases hrest : readColumns (c.name :: earlier) vs with
        | error e => simp [hrest, bind, Except.bind] at h
        | ok rest =>
          simp only [hrest, bind, Except.bind, pure, Except.pure] at h
          cases h
          obtain ⟨hnodup, hnew⟩ := ih hrest
          refine ⟨?_, ?_⟩
          · simp only [List.map_cons, List.nodup_cons, List.mem_map]
            refine ⟨?_, hnodup⟩
            rintro ⟨d, hd, heq⟩
            exact hnew d hd (by simp [heq])
          · intro d hd
            rcases List.mem_cons.1 hd with rfl | hd
            · exact hfresh
            · exact fun hmem => hnew d hd (List.mem_cons_of_mem _ hmem)

theorem checkRowCounts_eq_ok {expected : Nat} {cs : List Column}
    (h : checkRowCounts expected cs = .ok ()) : ∀ c ∈ cs, c.rowCount = expected := by
  induction cs with
  | nil => simp
  | cons c cs ih =>
    unfold checkRowCounts at h
    split at h
    · rename_i heq
      simpa [heq] using ih h
    · exact absurd h (by simp [Error.refuseField])

/-- The insert of columns whose names are distinct. -/
def ofColumns (collection partition : Name) (columns : List Column)
    (hnames : (columns.map Column.name).Nodup) : Outcome InsertParam :=
  match columns with
  | [] => Error.refuse .noColumns
  | first :: rest =>
    match hcounts : checkRowCounts first.rowCount (first :: rest) with
    | .error e => .error e
    | .ok () =>
      .ok ⟨collection, partition, first :: rest, first.rowCount, by simp, hnames,
        checkRowCounts_eq_ok hcounts⟩

/-- The insert with the given attributes. -/
def ofValues (collection fields partition : Value) : Outcome InsertParam := do
  let collection ← Check.name "Collection name" collection
  let partition ← Check.name "Partition name" partition
  if ← fields.truth then
    let items ← fields.itemsFor readColumn
    match hcolumns : readColumns [] items with
    | .error e => .error e
    | .ok columns =>
      fields.checkPlaces
      ofColumns collection partition columns (readColumns_distinct hcolumns).1
  else
    Error.refuse .noColumns

/-- The supplied column with a name. -/
def column? (p : InsertParam) (name : Name) : Option Column :=
  p.columns.find? (·.name = name)

/-- The column that the request carries for a field of the schema, if it carries
one. -/
def fieldData (p : InsertParam) (field : FieldType) : Outcome (Option FieldData) := do
  let generated ← field.autoId.truth
  match p.column? field.name, generated with
  | none, true => return none
  | none, false => Error.refuseField (.notProvided field.name.text) field.name.toValue
  | some _, true => Error.refuseField (.autoGenerated field.name.text) field.name.toValue
  | some column, false =>
    if field.dataType = column.type then return some (← column.toFieldData)
    else Error.refuseField (.typeMismatch field.name.text) field.name.toValue

/-- The names of the supplied columns that a schema does not name. -/
def ignored (p : InsertParam) (schema : List FieldType) : List Name :=
  (p.columns.map Column.name).filter fun name => name ∉ schema.map FieldType.name

/-- The warning that columns are left out. -/
def warning (p : InsertParam) (names : List Name) : String :=
  "Fields " ++ (Value.list (names.map Name.toValue)).quote ++
    " are not in the schema of collection " ++ p.collection.text ++ " and were ignored"

/-- A request, and the warnings that came with it. -/
structure Converted where
  request : InsertRequest
  warnings : List String

/-- The request of an insert into a collection with a schema. -/
def toRequest (p : InsertParam) (schema : List FieldType) : Outcome Converted := do
  let fields ← schema.mapM p.fieldData
  let names := p.ignored schema
  return {
    request := {
      base := { msgType := .insert }
      collectionName := p.collection.toValue
      partitionName := p.partition.toValue
      numRows := .int p.rowCount
      fieldsData := fields.filterMap id }
    warnings := if names.isEmpty then [] else [p.warning names] }

/-- The record as a value. -/
def toValue (p : InsertParam) : Value :=
  .record .insertParam
    [("collection_name", p.collection.toValue),
     ("fields", .tuple (p.columns.map Column.toValue)),
     ("partition_name", p.partition.toValue), ("row_count", .int p.rowCount)]

/-- The insert that a value is. -/
def ofValue? : Value → Option InsertParam
  | .record .insertParam [(_, collection), (_, fields), (_, partition), _] =>
    (ofValues collection fields partition).toOption
  | _ => none

end InsertParam

end VectorRequests
