/-
# The kinds of drafts

Field types, inserts, searches, queries and index questions are drafted in the same way. Each
kind has its attributes, with what they hold, the edit that each step is, and the contents that
stand for missing ones.
-/

import VectorRequests.Draft.Progress
import VectorRequests.Draft.Query
import VectorRequests.Proofs.Draft.Account

namespace VectorRequests

namespace Draft

theorem isShaped_items {v w : Value} (h : (Source.items v).Gives w) :
    IsShaped (some .list) (some w) := by
  obtain ⟨⟩ := h
  rintro _ _ ⟨⟩ ⟨⟩
  exact .list _

theorem isShaped_vectors {read : Value → Outcome TargetVector} {v w : Value}
    (h : (Source.vectors read v).Gives w) : IsShaped (some .list) (some w) := by
  obtain ⟨⟩ := h
  rintro _ _ ⟨⟩ ⟨⟩
  exact .list _

theorem isShaped_mapping {v w : Value} (h : (Source.mapping v).Gives w) :
    IsShaped (some .mapping) (some w) := by
  rintro _ _ ⟨⟩ ⟨⟩
  cases h with
  | mapping entries => exact .mapping entries
  | pairs => exact .mapping _

theorem isShaped_none (content : Option Value) : IsShaped none content :=
  nofun

/-- Names that are missing are none, whether a tuple or a list of none stands for them. -/
theorem names_getD (parameter : String) (names : Option Value) :
    Check.names parameter (names.getD (.tuple [])) =
      Check.names parameter (names.getD (.list [])) := by
  cases names <;> rfl

end Draft

/-! ## Field types -/

namespace FieldTypeDraft

inductive Attribute
  | name
  | dataType
  | description
  | primaryKey
  | autoId
  | typeParams
  deriving DecidableEq, Repr

/-- What a draft holds for an attribute. -/
def content (d : FieldTypeDraft) : Attribute → Option Value
  | .name => d.name
  | .dataType => d.dataType
  | .description => d.description
  | .primaryKey => d.primaryKey
  | .autoId => d.autoId
  | .typeParams => d.typeParams

/-- The attribute that a step edits. -/
def Step.attribute : Step → Attribute
  | .name _ => .name
  | .description _ => .description
  | .dataType _ => .dataType
  | .primaryKey _ => .primaryKey
  | .autoId _ => .autoId
  | .typeParams _ => .typeParams
  | .addTypeParam .. => .typeParams
  | .dimension _ => .typeParams

/-- What a step does to its attribute. -/
def Step.edit : Step → Draft.Edit
  | .name v => .put (.value v)
  | .description v => .put (.value v)
  | .dataType v => .put (.value v)
  | .primaryKey v => .put (.value v)
  | .autoId v => .put (.value v)
  | .typeParams v => .put (.mapping v)
  | .addTypeParam key value => .enter key (.value value)
  | .dimension v => .enter (.text TypeParams.dimName) (.text v)

def Attribute.shape : Attribute → Option Draft.Shape
  | .typeParams => some .mapping
  | _ => none

def Attribute.usual : Attribute → Option Value
  | .name => none
  | .dataType => none
  | .description => some (.text "")
  | .primaryKey => some (.bool false)
  | .autoId => some (.bool false)
  | .typeParams => some (.mapping [])

/-- The draft with the usual contents in place of missing ones. -/
def fill (d : FieldTypeDraft) : FieldTypeDraft where
  name := d.name
  dataType := d.dataType
  description := some (d.description.getD (.text ""))
  primaryKey := some (d.primaryKey.getD (.bool false))
  autoId := some (d.autoId.getD (.bool false))
  typeParams := some (d.typeParams.getD (.mapping []))

/-- A draft is what it holds. -/
theorem content_injective : Function.Injective content := by
  intro d e h
  have hall := congrFun h
  cases d
  cases e
  rw [mk.injEq]
  exact ⟨hall .name, hall .dataType, hall .description, hall .primaryKey, hall .autoId,
    hall .typeParams⟩

theorem addTypeParam_eq (d : FieldTypeDraft) (key value : Value) :
    d.addTypeParam key value =
      ({ d with typeParams := ((Draft.Edit.enter key (.value value)).apply d.typeParams).1 },
        ((Draft.Edit.enter key (.value value)).apply d.typeParams).2) := by
  rw [addTypeParam, Draft.Edit.apply, Draft.Source.make]
  dsimp only
  cases Value.putEntry (Draft.entries d.typeParams) key value <;> rfl

theorem step_eq (d : FieldTypeDraft) (s : Step) :
    (d.step s).1.content =
        Function.update d.content s.attribute (s.edit.apply (d.content s.attribute)).1 ∧
      (d.step s).2 = (s.edit.apply (d.content s.attribute)).2 := by
  cases s with
  | typeParams v =>
      rw [step, Step.edit, Draft.Edit.apply, Draft.Source.make]
      cases Draft.mappingOf v <;> refine ⟨funext fun a => ?_, rfl⟩ <;> cases a <;> rfl
  | addTypeParam key value =>
      rw [step, addTypeParam_eq]
      exact ⟨funext fun a => by cases a <;> rfl, rfl⟩
  | dimension v =>
      rw [step, Step.edit, Draft.Edit.apply, Draft.Source.make]
      cases v.plainText with
      | ok s =>
          dsimp only
          rw [addTypeParam_eq]
          exact ⟨funext fun a => by cases a <;> rfl, rfl⟩
      | error e => exact ⟨funext fun a => by cases a <;> rfl, rfl⟩
  | _ => exact ⟨funext fun a => by cases a <;> rfl, rfl⟩

/-- How field types are drafted. -/
def drafting : Draft.Drafting where
  State := FieldTypeDraft
  Step := Step
  Param := FieldType
  empty := {}
  step := step
  build d := (d, d.build)

def account : drafting.Account where
  Attribute := Attribute
  content := content
  key := Step.attribute
  edit := Step.edit
  shape := Attribute.shape
  usual := Attribute.usual
  fill := fill
  content_injective := content_injective
  content_empty a := by cases a <;> rfl
  content_step d s := (step_eq d s).1
  outcome_step d s := (step_eq d s).2
  keeps_edit s := by
    cases s with
    | typeParams v => exact .put fun w h => Draft.isShaped_mapping h
    | addTypeParam key value => exact .enter key _
    | dimension v => exact .enter _ _
    | _ => exact .put fun _ _ => Draft.isShaped_none _
  usual_of_shape a s h := by
    cases a <;> cases h
    rfl
  content_fill d a := by
    cases a with
    | name | dataType => exact Option.or_none.symm
    | _ => exact Option.or_some.symm
  content_build d a := .inl rfl
  build_fill d := rfl

end FieldTypeDraft

/-! ## Inserts -/

namespace InsertDraft

inductive Attribute
  | collection
  | fields
  | partition
  deriving DecidableEq, Repr

/-- What a draft holds for an attribute. -/
def content (d : InsertDraft) : Attribute → Option Value
  | .collection => d.collection
  | .fields => d.fields
  | .partition => d.partition

/-- The attribute that a step edits. -/
def Step.attribute : Step → Attribute
  | .collection _ => .collection
  | .partition _ => .partition
  | .fields _ => .fields
  | .addField .. => .fields

/-- What a step does to its attribute. -/
def Step.edit : Step → Draft.Edit
  | .collection v => .put (.value v)
  | .partition v => .put (.value v)
  | .fields v => .put (.items v)
  | .addField handle name type values =>
    .append (.column handle name type values)

def Attribute.shape : Attribute → Option Draft.Shape
  | .fields => some .list
  | _ => none

def Attribute.usual (settings : Settings) : Attribute → Option Value
  | .collection => none
  | .fields => some (.list [])
  | .partition => some settings.partitionName

/-- The draft with the usual contents in place of missing ones. -/
def fill (settings : Settings) (d : InsertDraft) : InsertDraft where
  collection := d.collection
  fields := some (d.fields.getD (.list []))
  partition := some (d.partition.getD settings.partitionName)

/-- A draft is what it holds. -/
theorem content_injective : Function.Injective content := by
  intro d e h
  have hall := congrFun h
  cases d
  cases e
  rw [mk.injEq]
  exact ⟨hall .collection, hall .fields, hall .partition⟩

theorem step_eq (d : InsertDraft) (s : Step) :
    (d.step s).1.content =
        Function.update d.content s.attribute (s.edit.apply (d.content s.attribute)).1 ∧
      (d.step s).2 = (s.edit.apply (d.content s.attribute)).2 := by
  cases s with
  | fields v =>
      rw [step, Step.edit, Draft.Edit.apply, Draft.Source.make]
      cases Draft.listOf v <;> refine ⟨funext fun a => ?_, rfl⟩ <;> cases a <;> rfl
  | addField handle name type values =>
      rw [step, Step.edit, Draft.Edit.apply, Draft.Source.make]
      cases Column.ofValues handle name type values <;>
        refine ⟨funext fun a => ?_, rfl⟩ <;> cases a <;> rfl
  | _ => exact ⟨funext fun a => by cases a <;> rfl, rfl⟩

/-- A draft that has been built holds no less than before, and the usual columns if it had
none. -/
theorem content_build (settings : Settings) (d : InsertDraft) (a : Attribute) :
    (d.build settings).1.content a = d.content a ∨
      (d.content a = none ∧ (d.build settings).1.content a = a.usual settings) := by
  rw [build]
  cases Check.name "Collection name" (d.collection.getD .null) with
  | error e => exact .inl rfl
  | ok name =>
      cases a with
      | fields =>
          cases h : d.fields with
          | none => exact .inr ⟨h, rfl⟩
          | some v => exact .inl (by simp [content, h])
      | _ => exact .inl rfl

/-- The usual contents are built as missing ones are. -/
theorem build_fill (settings : Settings) (d : InsertDraft) :
    ((d.fill settings).build settings).2 = (d.build settings).2 := by
  have hsame : (d.fill settings).collection = d.collection := rfl
  rw [build, build, hsame]
  cases Check.name "Collection name" (d.collection.getD .null) <;> rfl

/-- How inserts are drafted. -/
def drafting (settings : Settings) : Draft.Drafting where
  State := InsertDraft
  Step := Step
  Param := InsertParam
  empty := {}
  step := step
  build d := d.build settings

def account (settings : Settings) : (drafting settings).Account where
  Attribute := Attribute
  content := content
  key := Step.attribute
  edit := Step.edit
  shape := Attribute.shape
  usual := Attribute.usual settings
  fill := fill settings
  content_injective := content_injective
  content_empty a := by cases a <;> rfl
  content_step d s := (step_eq d s).1
  outcome_step d s := (step_eq d s).2
  keeps_edit s := by
    cases s with
    | fields v => exact .put fun w h => Draft.isShaped_items h
    | addField handle name type values => exact .append _
    | _ => exact .put fun _ _ => Draft.isShaped_none _
  usual_of_shape a s h := by
    cases a <;> cases h
    rfl
  content_fill d a := by
    cases a with
    | collection => exact Option.or_none.symm
    | _ => exact Option.or_some.symm
  content_build := content_build settings
  build_fill d := build_fill settings d

end InsertDraft

/-! ## Searches -/

namespace SearchDraft

inductive Attribute
  | collection
  | vectorField
  | topK
  | vectors
  | metric
  | partitions
  | outFields
  | expr
  | roundDecimal
  | params
  | travelTimestamp
  | guaranteeTimestamp
  deriving DecidableEq, Repr

/-- What a draft holds for an attribute. -/
def content (d : SearchDraft) : Attribute → Option Value
  | .collection => d.collection
  | .vectorField => d.vectorField
  | .topK => d.topK
  | .vectors => d.vectors
  | .metric => d.metric
  | .partitions => d.partitions
  | .outFields => d.outFields
  | .expr => d.expr
  | .roundDecimal => d.roundDecimal
  | .params => d.params
  | .travelTimestamp => d.travelTimestamp
  | .guaranteeTimestamp => d.guaranteeTimestamp

/-- The attribute that a step edits. -/
def Step.attribute : Step → Attribute
  | .collection _ => .collection
  | .vectorField _ => .vectorField
  | .topK _ => .topK
  | .metric _ => .metric
  | .vectors _ => .vectors
  | .floatVectors _ => .vectors
  | .binaryVectors _ => .vectors
  | .partitions _ => .partitions
  | .addPartition _ => .partitions
  | .outFields _ => .outFields
  | .addOutField _ => .outFields
  | .expr _ => .expr
  | .roundDecimal _ => .roundDecimal
  | .params _ => .params
  | .travelTimestamp _ => .travelTimestamp
  | .guaranteeTimestamp _ => .guaranteeTimestamp

/-- What a step does to its attribute. -/
def Step.edit : Step → Draft.Edit
  | .collection v => .put (.value v)
  | .vectorField v => .put (.value v)
  | .topK v => .put (.value v)
  | .metric v => .put (.value v)
  | .vectors v => .put (.items v)
  | .floatVectors v => .put (.vectors TargetVector.ofFloats v)
  | .binaryVectors v => .put (.vectors TargetVector.ofBytes v)
  | .partitions v => .put (.items v)
  | .addPartition v => .append (.value v)
  | .outFields v => .put (.items v)
  | .addOutField v => .append (.value v)
  | .expr v => .put (.value v)
  | .roundDecimal v => .put (.value v)
  | .params v => .put (.value v)
  | .travelTimestamp v => .put (.value v)
  | .guaranteeTimestamp v => .put (.value v)

def Attribute.shape : Attribute → Option Draft.Shape
  | .vectors => some .list
  | .partitions => some .list
  | .outFields => some .list
  | _ => none

def Attribute.usual (settings : Settings) : Attribute → Option Value
  | .collection => none
  | .vectorField => none
  | .topK => none
  | .vectors => some (.list [])
  | .metric => some settings.metric
  | .partitions => some (.list [])
  | .outFields => some (.list [])
  | .expr => some (.text "")
  | .roundDecimal => some settings.roundDecimal
  | .params => some settings.searchParams
  | .travelTimestamp => some (.int 0)
  | .guaranteeTimestamp => some settings.guaranteeTimestamp

/-- The draft with the usual contents in place of missing ones. -/
def fill (settings : Settings) (d : SearchDraft) : SearchDraft where
  collection := d.collection
  vectorField := d.vectorField
  topK := d.topK
  vectors := some (d.vectors.getD (.list []))
  metric := some (d.metric.getD settings.metric)
  partitions := some (d.partitions.getD (.list []))
  outFields := some (d.outFields.getD (.list []))
  expr := some (d.expr.getD (.text ""))
  roundDecimal := some (d.roundDecimal.getD settings.roundDecimal)
  params := some (d.params.getD settings.searchParams)
  travelTimestamp := some (d.travelTimestamp.getD (.int 0))
  guaranteeTimestamp := some (d.guaranteeTimestamp.getD settings.guaranteeTimestamp)

/-- A draft is what it holds. -/
theorem content_injective : Function.Injective content := by
  intro d e h
  have hall := congrFun h
  cases d
  cases e
  rw [mk.injEq]
  exact ⟨hall .collection, hall .vectorField, hall .topK, hall .vectors, hall .metric,
    hall .partitions, hall .outFields, hall .expr, hall .roundDecimal, hall .params,
    hall .travelTimestamp, hall .guaranteeTimestamp⟩

/-- A value that fails leaves the draft, and any other is put. -/
theorem write_eq (d : SearchDraft) (source : Draft.Source) (put : Value → SearchDraft)
    (a : Attribute) (hput : ∀ v, (put v).content = Function.update d.content a (some v)) :
    (d.write source.make put).1.content =
        Function.update d.content a ((Draft.Edit.put source).apply (d.content a)).1 ∧
      (d.write source.make put).2 = ((Draft.Edit.put source).apply (d.content a)).2 := by
  rw [Draft.Edit.apply]
  cases source.make with
  | ok v => exact ⟨hput v, rfl⟩
  | error e => exact ⟨(Function.update_eq_self a d.content).symm, rfl⟩

theorem step_eq (d : SearchDraft) (s : Step) :
    (d.step s).1.content =
        Function.update d.content s.attribute (s.edit.apply (d.content s.attribute)).1 ∧
      (d.step s).2 = (s.edit.apply (d.content s.attribute)).2 := by
  cases s with
  | vectors v | partitions v | outFields v =>
      exact write_eq d (.items v) _ _ fun v => funext fun a => by cases a <;> rfl
  | floatVectors v =>
      exact write_eq d (.vectors TargetVector.ofFloats v) _ _
        fun v => funext fun a => by cases a <;> rfl
  | binaryVectors v =>
      exact write_eq d (.vectors TargetVector.ofBytes v) _ _
        fun v => funext fun a => by cases a <;> rfl
  | _ => exact ⟨funext fun a => by cases a <;> rfl, rfl⟩

/-- A draft that has been built holds no less than before, and the usual vectors if it had
none. -/
theorem content_build (settings : Settings) (d : SearchDraft) (a : Attribute) :
    (d.build settings).1.content a = d.content a ∨
      (d.content a = none ∧ (d.build settings).1.content a = a.usual settings) := by
  rw [build]
  split
  · exact .inl rfl
  · exact .inl rfl
  · exact .inl rfl
  · cases a with
    | vectors =>
        cases h : d.vectors with
        | none => exact .inr ⟨h, rfl⟩
        | some v => exact .inl (by simp [content, h])
    | _ => exact .inl rfl

theorem finish_fill (settings : Settings) (d : SearchDraft) :
    (d.fill settings).finish settings =
      ({ d with vectors := some (d.vectors.getD (.list [])) } : SearchDraft).finish settings := by
  simp only [finish, SearchParam.ofValues, Draft.names_getD]
  rfl

/-- The usual contents are built as missing ones are. -/
theorem build_fill (settings : Settings) (d : SearchDraft) :
    ((d.fill settings).build settings).2 = (d.build settings).2 := by
  have hcollection : (d.fill settings).collection = d.collection := rfl
  have hfield : (d.fill settings).vectorField = d.vectorField := rfl
  have htopK : (d.fill settings).topK = d.topK := rfl
  rw [build, build, hcollection, hfield, htopK]
  split
  · rfl
  · rfl
  · rfl
  · exact finish_fill settings d

/-- How searches are drafted. -/
def drafting (settings : Settings) : Draft.Drafting where
  State := SearchDraft
  Step := Step
  Param := SearchParam
  empty := {}
  step := step
  build d := d.build settings

def account (settings : Settings) : (drafting settings).Account where
  Attribute := Attribute
  content := content
  key := Step.attribute
  edit := Step.edit
  shape := Attribute.shape
  usual := Attribute.usual settings
  fill := fill settings
  content_injective := content_injective
  content_empty a := by cases a <;> rfl
  content_step d s := (step_eq d s).1
  outcome_step d s := (step_eq d s).2
  keeps_edit s := by
    cases s with
    | vectors v | partitions v | outFields v => exact .put fun w h => Draft.isShaped_items h
    | floatVectors v | binaryVectors v => exact .put fun w h => Draft.isShaped_vectors h
    | addPartition v | addOutField v => exact .append _
    | _ => exact .put fun _ _ => Draft.isShaped_none _
  usual_of_shape a s h := by
    cases a <;> cases h <;> rfl
  content_fill d a := by
    cases a with
    | collection | vectorField | topK => exact Option.or_none.symm
    | _ => exact Option.or_some.symm
  content_build := content_build settings
  build_fill := build_fill settings

end SearchDraft

/-! ## Queries -/

namespace QueryDraft

inductive Attribute
  | collection
  | expr
  | partitions
  | outFields
  | travelTimestamp
  | guaranteeTimestamp
  deriving DecidableEq, Repr

/-- What a draft holds for an attribute. -/
def content (d : QueryDraft) : Attribute → Option Value
  | .collection => d.collection
  | .expr => d.expr
  | .partitions => d.partitions
  | .outFields => d.outFields
  | .travelTimestamp => d.travelTimestamp
  | .guaranteeTimestamp => d.guaranteeTimestamp

/-- The attribute that a step edits. -/
def Step.attribute : Step → Attribute
  | .collection _ => .collection
  | .expr _ => .expr
  | .partitions _ => .partitions
  | .addPartition _ => .partitions
  | .outFields _ => .outFields
  | .addOutField _ => .outFields
  | .travelTimestamp _ => .travelTimestamp
  | .guaranteeTimestamp _ => .guaranteeTimestamp

/-- What a step does to its attribute. -/
def Step.edit : Step → Draft.Edit
  | .collection v => .put (.value v)
  | .expr v => .put (.value v)
  | .partitions v => .put (.items v)
  | .addPartition v => .append (.value v)
  | .outFields v => .put (.items v)
  | .addOutField v => .append (.value v)
  | .travelTimestamp v => .put (.value v)
  | .guaranteeTimestamp v => .put (.value v)

def Attribute.shape : Attribute → Option Draft.Shape
  | .partitions => some .list
  | .outFields => some .list
  | _ => none

def Attribute.usual (settings : Settings) : Attribute → Option Value
  | .collection => none
  | .expr => none
  | .partitions => some (.list [])
  | .outFields => some (.list [])
  | .travelTimestamp => some (.int 0)
  | .guaranteeTimestamp => some settings.guaranteeTimestamp

/-- The draft with the usual contents in place of missing ones. -/
def fill (settings : Settings) (d : QueryDraft) : QueryDraft where
  collection := d.collection
  expr := d.expr
  partitions := some (d.partitions.getD (.list []))
  outFields := some (d.outFields.getD (.list []))
  travelTimestamp := some (d.travelTimestamp.getD (.int 0))
  guaranteeTimestamp := some (d.guaranteeTimestamp.getD settings.guaranteeTimestamp)

/-- A draft is what it holds. -/
theorem content_injective : Function.Injective content := by
  intro d e h
  have hall := congrFun h
  cases d
  cases e
  rw [mk.injEq]
  exact ⟨hall .collection, hall .expr, hall .partitions, hall .outFields, hall .travelTimestamp,
    hall .guaranteeTimestamp⟩

theorem step_eq (d : QueryDraft) (s : Step) :
    (d.step s).1.content =
        Function.update d.content s.attribute (s.edit.apply (d.content s.attribute)).1 ∧
      (d.step s).2 = (s.edit.apply (d.content s.attribute)).2 := by
  cases s with
  | partitions v | outFields v =>
      rw [step, Step.edit, Draft.Edit.apply, Draft.Source.make]
      cases Draft.listOf v <;> refine ⟨funext fun a => ?_, rfl⟩ <;> cases a <;> rfl
  | _ => exact ⟨funext fun a => by cases a <;> rfl, rfl⟩

/-- The usual contents are built as missing ones are. -/
theorem build_fill (settings : Settings) (d : QueryDraft) :
    (d.fill settings).build settings = d.build settings := by
  simp only [build, finish, QueryParam.ofValues, Draft.names_getD]
  rfl

/-- How queries are drafted. -/
def drafting (settings : Settings) : Draft.Drafting where
  State := QueryDraft
  Step := Step
  Param := QueryParam
  empty := {}
  step := step
  build d := (d, d.build settings)

def account (settings : Settings) : (drafting settings).Account where
  Attribute := Attribute
  content := content
  key := Step.attribute
  edit := Step.edit
  shape := Attribute.shape
  usual := Attribute.usual settings
  fill := fill settings
  content_injective := content_injective
  content_empty a := by cases a <;> rfl
  content_step d s := (step_eq d s).1
  outcome_step d s := (step_eq d s).2
  keeps_edit s := by
    cases s with
    | partitions v | outFields v => exact .put fun w h => Draft.isShaped_items h
    | addPartition v | addOutField v => exact .append _
    | _ => exact .put fun _ _ => Draft.isShaped_none _
  usual_of_shape a s h := by
    cases a <;> cases h <;> rfl
  content_fill d a := by
    cases a with
    | collection | expr => exact Option.or_none.symm
    | _ => exact Option.or_some.symm
  content_build _ _ := .inl rfl
  build_fill := build_fill settings

end QueryDraft

/-! ## Index questions -/

namespace ProgressDraft

inductive Attribute
  | collection
  deriving DecidableEq, Repr

/-- What a draft holds for an attribute. -/
def content (d : ProgressDraft) : Attribute → Option Value
  | .collection => d.collection

/-- The attribute that a step edits. -/
def Step.attribute : Step → Attribute
  | .collection _ => .collection

/-- What a step does to its attribute. -/
def Step.edit : Step → Draft.Edit
  | .collection v => .put (.value v)

/-- How index questions are drafted. -/
def drafting : Draft.Drafting where
  State := ProgressDraft
  Step := Step
  Param := ProgressParam
  empty := {}
  step := step
  build d := (d, d.build)

def account : drafting.Account where
  Attribute := Attribute
  content := content
  key := Step.attribute
  edit := Step.edit
  shape _ := none
  usual _ := none
  fill d := d
  content_injective _ _ h := congrArg ProgressDraft.mk (congrFun h .collection)
  content_empty _ := rfl
  content_step := by
    rintro d ⟨v⟩
    exact funext fun a => by cases a; rfl
  outcome_step := by
    rintro d ⟨v⟩
    rfl
  keeps_edit := by
    rintro ⟨v⟩
    exact .put fun _ _ => Draft.isShaped_none _
  usual_of_shape := nofun
  content_fill _ _ := Option.or_none.symm
  content_build _ _ := .inl rfl
  build_fill _ := rfl

end ProgressDraft

/-! ## All kinds -/

/-- The kinds of parameters that can be drafted. -/
inductive DraftKind
  | fieldType
  | insert
  | search
  | query
  | progress
  deriving DecidableEq, Repr

namespace DraftKind

/-- How parameters of a kind are drafted under some settings. -/
def drafting (settings : Settings) : DraftKind → Draft.Drafting
  | fieldType => FieldTypeDraft.drafting
  | insert => InsertDraft.drafting settings
  | search => SearchDraft.drafting settings
  | query => QueryDraft.drafting settings
  | progress => ProgressDraft.drafting

/-- The account of the drafts of a kind. -/
def account (settings : Settings) : (kind : DraftKind) → (kind.drafting settings).Account
  | fieldType => FieldTypeDraft.account
  | insert => InsertDraft.account settings
  | search => SearchDraft.account settings
  | query => QueryDraft.account settings
  | progress => ProgressDraft.account

end DraftKind

end VectorRequests
