/-
# Drafts of inserts

An insert can be put together step by step. A step that fails leaves the draft as
it was, except that adding a column first makes the columns an empty list. So does
building, if there are none.
-/

import VectorRequests.Draft.Attribute
import VectorRequests.Param.Insert
import VectorRequests.Param.Settings

namespace VectorRequests

/-- The attributes of an insert that have been given so far. -/
structure InsertDraft where
  collection : Option Value := none
  fields : Option Value := none
  partition : Option Value := none

namespace InsertDraft

/-- A step of a draft. A column is added under a handle of its own. -/
inductive Step
  | collection (v : Value)
  | partition (v : Value)
  | fields (v : Value)
  | addField (handle : Nat) (name type values : Value)

/-- The attribute that a step writes. -/
def Step.key : Step → String
  | .collection _ => "collection_name"
  | .partition _ => "partition_name"
  | .fields _ => "fields"
  | .addField .. => "fields"

/-- The draft after a step, and how the step went. -/
def step (d : InsertDraft) : Step → InsertDraft × Outcome Unit
  | .collection v => ({ d with collection := some v }, .ok ())
  | .partition v => ({ d with partition := some v }, .ok ())
  | .fields v =>
    match Draft.listOf v with
    | .ok fields => ({ d with fields := some fields }, .ok ())
    | .error e => (d, .error e)
  | .addField handle name type values =>
    let items := Draft.items d.fields
    match Column.ofValues handle name type values with
    | .ok c => ({ d with fields := some (.list (items ++ [c.toValue])) }, .ok ())
    | .error e => ({ d with fields := some (.list items) }, .error e)

/-- The insert with the given attributes, the others taking their defaults. -/
def finish (d : InsertDraft) (settings : Settings) : Outcome InsertParam := do
  InsertParam.ofValues (← Draft.required d.collection) (← Draft.required d.fields)
    (d.partition.getD settings.partitionName)

/-- Builds the insert of a draft, which must have a collection. Columns that nobody
has written become an empty list in the draft. -/
def build (d : InsertDraft) (settings : Settings) : InsertDraft × Outcome InsertParam :=
  match Check.name "Collection name" (d.collection.getD .null) with
  | .error e => (d, .error e)
  | .ok _ =>
    let d := { d with fields := some (d.fields.getD (.list [])) }
    (d, d.finish settings)

end InsertDraft

end VectorRequests
