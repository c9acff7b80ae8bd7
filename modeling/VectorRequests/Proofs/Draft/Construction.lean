/-
# Building is constructing

A draft that has content for every attribute without a default is built to what the
constructor of its record gives for its contents, the same parameter or the same error: what is
checked before constructing is checked first by the constructor as well. A draft that has none
for one of them is refused, unless the refusal of a search would show a value without a text.
-/

import VectorRequests.Proofs.Draft.Kinds
import VectorRequests.Proofs.Search.Acceptance
import VectorRequests.Record.Constructor

namespace VectorRequests

/-! ## Refusals -/

namespace Outcome

variable {α β : Type}

/-- A check that is made twice is made once. -/
theorem bind_bind_self (x : Outcome α) (f : α → Outcome β) :
    (x >>= fun _ => x >>= f) = (x >>= f) := by
  cases x <;> rfl

theorem bind_pure_eq_map (x : Outcome α) (f : α → β) : (x >>= fun a => pure (f a)) = x.map f := by
  cases x <;> rfl

end Outcome

namespace Check

/-- A name has been given if there is a name. -/
theorem exists_of_name_eq_ok {parameter : String} {given : Option Value} {n : Name}
    (h : name parameter (given.getD .null) = .ok n) : ∃ v, given = some v := by
  cases given with
  | none => cases h
  | some v => exact ⟨v, rfl⟩

/-- Names that are given one after the other are refused if one of them is no name. -/
theorem refuses_names_of_isShaped {names : Option Value}
    (h : Draft.IsShaped (some .list) names) (parameter : String) :
    (Check.names parameter (names.getD (.tuple []))).Refuses := by
  cases names with
  | none => exact refuses_names (.tuple []) parameter
  | some v =>
      obtain ⟨items⟩ := h .list v rfl rfl
      exact refuses_names (.list items) parameter

end Check

namespace SearchParam

/-- A search without targets is refused, if its names are at least lists and the refusal can be
told. -/
theorem exists_complaint_of_noTargets {collection vectorField topK metric partitions outFields expr
    roundDecimal params travel guarantee : Value}
    (hpartitions : (Check.names "Partition name" partitions).Refuses)
    (houtFields : (Check.names "Output field name" outFields).Refuses) :
    ∃ e, Complains topK metric e ∧ ofValues collection vectorField topK (.list []) metric partitions
      outFields expr roundDecimal params travel guarantee = .error e := by
  cases h : ofValues collection vectorField topK (.list []) metric partitions outFields expr
      roundDecimal params travel guarantee with
  | ok p =>
      obtain ⟨r, hr, -⟩ := (madeOf_of_ofValues h).targets
      rw [readTargets_of_lists_nil (.list [])] at hr
      cases hr
  | error e =>
      refine ⟨e, ?_, rfl⟩
      revert e
      show Outcome.FailsOnly (Complains topK metric) _
      refine (complains_of_refuses (Check.refuses_name _ _)).bind fun _ _ => ?_
      refine (complains_of_refuses (Check.refuses_name _ _)).bind fun _ _ => ?_
      refine (complains_of_refuses hpartitions).bind fun _ _ => ?_
      refine (complains_of_refuses houtFields).bind fun _ _ => ?_
      refine (complains_checkTopK _ _).bind fun _ _ => ?_
      refine (complains_readMetric _ _).bind fun m _ => complains_of_refuses ?_
      refine (refuses_checkRoundDecimal _).bind fun _ _ => ?_
      refine (Check.refuses_timestamp _ _).bind fun _ _ => ?_
      refine (Check.refuses_timestamp _ _).bind fun _ _ => ?_
      rw [readTargets_of_lists_nil (.list [])]
      exact (Outcome.refuses_refuse _).bind nofun

end SearchParam

/-- An insert without columns is refused. -/
theorem InsertParam.isRefused_ofValues (collection partition : Value) :
    (ofValues collection (.list []) partition).IsRefused := by
  refine (Check.refuses_name _ _).isRefused_bind fun _ _ => ?_
  refine (Check.refuses_name _ _).isRefused_bind fun _ _ => ?_
  exact Outcome.isRefused_refuse .noColumns

/-! ## How the parameters of a kind are constructed -/

namespace Draft.Drafting

/-- The attributes that the constructor of a record takes, and the parameter that is built as
the record that is constructed. -/
structure Account.Construction {D : Drafting} (A : D.Account) (settings : Settings) where
  attributes : List A.Attribute
  label : A.Attribute → String
  /-- The value that the constructor takes for an attribute that is not given. -/
  default : A.Attribute → Option Value
  /-- The step that writes an attribute whole. -/
  setter : A.Attribute → Value → D.Step
  record : RecordKind
  toValue : D.Param → Value
  mem_attributes : ∀ a, a ∈ attributes
  label_injective : Function.Injective label
  slots_eq : Constructor.recordSlots settings record =
    attributes.map fun a => ⟨label a, default a⟩
  key_setter : ∀ a v, A.key (setter a v) = a
  edit_setter : ∀ a v, default a = some v →
    ∃ w content, A.usual a = some w ∧ A.edit (setter a v) = .put content ∧ content.make = .ok w
  build_eq : ∀ d (w : A.Attribute → Value), (∀ a, (A.content d a).or (default a) = some (w a)) →
    (D.build d).2.map toValue = Constructor.ofRecord record (attributes.map fun a => (label a, w a))
  /-- Contents one of which a refusal would have to show, though it has no text. -/
  IsUntold : (A.Attribute → Option Value) → Prop
  build_incomplete : ∀ d a, A.IsSound d → default a = none → A.content d a = none →
    (D.build d).2.IsRefused ∨ IsUntold (A.content d) ∧ (D.build d).2 = .error (.failed .badValue)

end Draft.Drafting

/-- What is there, or else the default. -/
theorem Draft.getD_of_or {content : Option Value} {v w : Value}
    (h : content.or (some v) = some w) : content.getD v = w := by
  rw [Option.or_some] at h
  exact Option.some.inj h

theorem Draft.eq_some_of_or {content : Option Value} {w : Value} (h : content.or none = some w) :
    content = some w := by
  rwa [Option.or_none] at h

namespace FieldTypeDraft

/-- A field type with name and data type is built as it is constructed. -/
theorem build_of_content {d : FieldTypeDraft} {name dataType : Value} (hname : d.name = some name)
    (htype : d.dataType = some dataType) :
    d.build = FieldType.ofValues name dataType (d.description.getD (.text ""))
      (d.primaryKey.getD (.bool false)) (d.autoId.getD (.bool false))
      (d.typeParams.getD (.mapping [])) := by
  rw [build, finish, hname, htype]
  exact Outcome.bind_bind_self (Check.name "Field name" name) _

theorem isRefused_build {d : FieldTypeDraft} (h : d.name = none ∨ d.dataType = none) :
    d.build.IsRefused := by
  obtain hname | htype := h
  · rw [build, hname]
    exact Outcome.isRefused_refuse _
  · rw [build, htype]
    exact (Check.refuses_name _ _).isRefused_bind fun name _ => ⟨.missingType, name.toValue, rfl⟩

/-- The attributes, in the order of the constructor. -/
def Attribute.all : List Attribute :=
  [.name, .dataType, .description, .primaryKey, .autoId, .typeParams]

theorem Attribute.mem_all (a : Attribute) : a ∈ all := by
  cases a <;> decide

def Attribute.label : Attribute → String
  | .name => "name"
  | .dataType => "data_type"
  | .description => "description"
  | .primaryKey => "primary_key"
  | .autoId => "auto_id"
  | .typeParams => "type_params"

theorem Attribute.label_injective : Function.Injective label := by
  intro a b h
  cases a <;> cases b <;> first | rfl | exact absurd h (by decide)

theorem build_eq_ofRecord {d : FieldTypeDraft} {w : Attribute → Value}
    (h : ∀ a : Attribute, (d.content a).or a.usual = some (w a)) :
    d.build.map FieldType.toValue = Constructor.ofRecord .fieldType
      (Attribute.all.map fun a => (a.label, w a)) := by
  have hname : d.name = some (w .name) := Draft.eq_some_of_or (h .name)
  have htype : d.dataType = some (w .dataType) := Draft.eq_some_of_or (h .dataType)
  have hdescription : d.description.getD _ = w .description := Draft.getD_of_or (h .description)
  have hprimary : d.primaryKey.getD _ = w .primaryKey := Draft.getD_of_or (h .primaryKey)
  have hauto : d.autoId.getD _ = w .autoId := Draft.getD_of_or (h .autoId)
  have hparams : d.typeParams.getD _ = w .typeParams := Draft.getD_of_or (h .typeParams)
  rw [build_of_content hname htype, hdescription, hprimary, hauto, hparams]
  exact (Outcome.bind_pure_eq_map _ _).symm

def construction (settings : Settings) : account.Construction settings where
  attributes := Attribute.all
  label := Attribute.label
  default := Attribute.usual
  setter
    | .name, v => .name v
    | .dataType, v => .dataType v
    | .description, v => .description v
    | .primaryKey, v => .primaryKey v
    | .autoId, v => .autoId v
    | .typeParams, v => .typeParams v
  record := .fieldType
  toValue := FieldType.toValue
  mem_attributes := Attribute.mem_all
  label_injective := Attribute.label_injective
  slots_eq := rfl
  key_setter a v := by cases a <;> rfl
  edit_setter a v h := by cases a <;> cases h <;> exact ⟨_, _, rfl, rfl, rfl⟩
  build_eq _ _ h := build_eq_ofRecord h
  IsUntold _ := False
  build_incomplete d a _ hdefault hnone := by
    refine .inl (isRefused_build ?_)
    cases a with
    | name => exact .inl hnone
    | dataType => exact .inr hnone
    | _ => cases hdefault

end FieldTypeDraft

namespace InsertDraft

/-- An insert with a collection is built as it is constructed, from no columns if it has none. -/
theorem build_of_content {d : InsertDraft} {collection : Value} (settings : Settings)
    (hcollection : d.collection = some collection) :
    (d.build settings).2 = InsertParam.ofValues collection (d.fields.getD (.list []))
      (d.partition.getD settings.partitionName) := by
  obtain ⟨_, fields, partition⟩ := d
  cases hcollection
  rw [build, Option.getD_some]
  cases hname : Check.name "Collection name" collection with
  | error e =>
      rw [InsertParam.ofValues, hname]
      rfl
  | ok name => rfl

theorem isRefused_build {d : InsertDraft} (settings : Settings)
    (h : d.collection = none ∨ d.fields = none) : (d.build settings).2.IsRefused := by
  cases hcollection : d.collection with
  | none =>
      rw [build, hcollection]
      exact Outcome.isRefused_refuse _
  | some collection =>
      obtain hnone | hfields := h
      · rw [hcollection] at hnone
        cases hnone
      · rw [build_of_content settings hcollection, hfields]
        exact InsertParam.isRefused_ofValues _ _

/-- The attributes, in the order of the constructor. -/
def Attribute.all : List Attribute :=
  [.collection, .fields, .partition]

theorem Attribute.mem_all (a : Attribute) : a ∈ all := by
  cases a <;> decide

def Attribute.label : Attribute → String
  | .collection => "collection_name"
  | .fields => "fields"
  | .partition => "partition_name"

theorem Attribute.label_injective : Function.Injective label := by
  intro a b h
  cases a <;> cases b <;> first | rfl | exact absurd h (by decide)

/-- The value that the constructor takes for an attribute that is not given. -/
def Attribute.default (settings : Settings) : Attribute → Option Value
  | .collection => none
  | .fields => none
  | .partition => some settings.partitionName

theorem build_eq_ofRecord {d : InsertDraft} {settings : Settings} {w : Attribute → Value}
    (h : ∀ a : Attribute, (d.content a).or (a.default settings) = some (w a)) :
    (d.build settings).2.map InsertParam.toValue = Constructor.ofRecord .insertParam
      (Attribute.all.map fun a => (a.label, w a)) := by
  have hcollection : d.collection = some (w .collection) := Draft.eq_some_of_or (h .collection)
  have hfields : d.fields = some (w .fields) := Draft.eq_some_of_or (h .fields)
  have hpartition : d.partition.getD _ = w .partition := Draft.getD_of_or (h .partition)
  rw [build_of_content settings hcollection, hfields, hpartition, Option.getD_some]
  exact (Outcome.bind_pure_eq_map _ _).symm

def construction (settings : Settings) : (account settings).Construction settings where
  attributes := Attribute.all
  label := Attribute.label
  default := Attribute.default settings
  setter
    | .collection, v => .collection v
    | .fields, v => .fields v
    | .partition, v => .partition v
  record := .insertParam
  toValue := InsertParam.toValue
  mem_attributes := Attribute.mem_all
  label_injective := Attribute.label_injective
  slots_eq := rfl
  key_setter a v := by cases a <;> rfl
  edit_setter a v h := by
    cases a <;> cases h
    exact ⟨_, _, rfl, rfl, rfl⟩
  build_eq _ _ h := build_eq_ofRecord h
  IsUntold _ := False
  build_incomplete d a _ hdefault hnone := by
    refine .inl (isRefused_build settings ?_)
    cases a with
    | collection => exact .inl hnone
    | fields => exact .inr hnone
    | partition => cases hdefault

end InsertDraft

namespace SearchDraft

/-- A search with a collection, a vector field and a number of results is built as it is
constructed, from no vectors if it has none. -/
theorem build_of_content {d : SearchDraft} {collection vectorField topK : Value}
    (settings : Settings) (hcollection : d.collection = some collection)
    (hfield : d.vectorField = some vectorField) (htopK : d.topK = some topK) :
    (d.build settings).2 = SearchParam.ofValues collection vectorField topK
      (d.vectors.getD (.list [])) (d.metric.getD settings.metric)
      (d.partitions.getD (.tuple [])) (d.outFields.getD (.tuple [])) (d.expr.getD (.text ""))
      (d.roundDecimal.getD settings.roundDecimal) (d.params.getD settings.searchParams)
      (d.travelTimestamp.getD (.int 0))
      (d.guaranteeTimestamp.getD settings.guaranteeTimestamp) := by
  obtain ⟨_, _, _, vectors, metric, partitions, outFields, expr, round, params, travel,
    guarantee⟩ := d
  cases hcollection
  cases hfield
  cases htopK
  rw [build, Option.getD_some, Option.getD_some]
  cases hname : Check.name "Collection name" collection with
  | error e =>
      rw [SearchParam.ofValues, hname]
      rfl
  | ok name =>
      cases htarget : Check.name "Target field name" vectorField with
      | error e =>
          rw [SearchParam.ofValues, hname, Outcome.ok_bind, htarget]
          rfl
      | ok target => rfl

/-- The contents of a search whose number of results or whose metric a refusal would have to
show, though it has no text. -/
def IsUntold (settings : Settings) (content : Attribute → Option Value) : Prop :=
  ∃ topK, content .topK = some topK ∧
    SearchParam.IsUntold topK ((content .metric).getD settings.metric)

/-- A search that lacks what it must have is refused, if the refusal can be told. -/
theorem build_incomplete {d : SearchDraft} (settings : Settings)
    (hpartitions : Draft.IsShaped (some .list) d.partitions)
    (houtFields : Draft.IsShaped (some .list) d.outFields)
    (h : d.collection = none ∨ d.vectorField = none ∨ d.topK = none ∨ d.vectors = none) :
    (d.build settings).2.IsRefused ∨
      IsUntold settings d.content ∧ (d.build settings).2 = .error (.failed .badValue) := by
  cases hname : Check.name "Collection name" (d.collection.getD .null) with
  | error e =>
      obtain ⟨fault, field, rfl⟩ := Check.refuses_name _ _ e hname
      rw [build, hname]
      exact .inl ⟨fault, field, rfl⟩
  | ok name =>
      cases htarget : Check.name "Target field name" (d.vectorField.getD .null) with
      | error e =>
          obtain ⟨fault, field, rfl⟩ := Check.refuses_name _ _ e htarget
          rw [build, hname, htarget]
          exact .inl ⟨fault, field, rfl⟩
      | ok target =>
          cases htopK : d.topK with
          | none =>
              rw [build, hname, htarget, htopK]
              exact .inl (Outcome.isRefused_refuse _)
          | some topK =>
              -- The draft has all but vectors, so it is built from no vectors.
              obtain ⟨collection, hcollection⟩ := Check.exists_of_name_eq_ok hname
              obtain ⟨field, hfield⟩ := Check.exists_of_name_eq_ok htarget
              have hvectors : d.vectors = none := by
                simpa [hcollection, hfield, htopK] using h
              rw [build_of_content settings hcollection hfield htopK, hvectors]
              obtain ⟨e, hcomplains, he⟩ := SearchParam.exists_complaint_of_noTargets
                (Check.refuses_names_of_isShaped hpartitions _)
                (Check.refuses_names_of_isShaped houtFields _)
              cases hcomplains with
              | refused fault field => exact .inl ⟨fault, field, he⟩
              | untold huntold => exact .inr ⟨⟨topK, htopK, huntold⟩, he⟩

/-- The attributes, in the order of the constructor. -/
def Attribute.all : List Attribute :=
  [.collection, .vectorField, .topK, .vectors, .metric, .partitions, .outFields, .expr,
    .roundDecimal, .params, .travelTimestamp, .guaranteeTimestamp]

theorem Attribute.mem_all (a : Attribute) : a ∈ all := by
  cases a <;> decide

def Attribute.label : Attribute → String
  | .collection => "collection_name"
  | .vectorField => "vector_field_name"
  | .topK => "top_k"
  | .vectors => "vectors"
  | .metric => "metric_type"
  | .partitions => "partition_names"
  | .outFields => "out_fields"
  | .expr => "expr"
  | .roundDecimal => "round_decimal"
  | .params => "params"
  | .travelTimestamp => "travel_timestamp"
  | .guaranteeTimestamp => "guarantee_timestamp"

theorem Attribute.label_injective : Function.Injective label := by
  intro a b h
  cases a <;> cases b <;> first | rfl | exact absurd h (by decide)

/-- The value that the constructor takes for an attribute that is not given. -/
def Attribute.default (settings : Settings) : Attribute → Option Value
  | .collection => none
  | .vectorField => none
  | .topK => none
  | .vectors => none
  | .metric => some settings.metric
  | .partitions => some (.tuple [])
  | .outFields => some (.tuple [])
  | .expr => some (.text "")
  | .roundDecimal => some settings.roundDecimal
  | .params => some settings.searchParams
  | .travelTimestamp => some (.int 0)
  | .guaranteeTimestamp => some settings.guaranteeTimestamp

theorem build_eq_ofRecord {d : SearchDraft} {settings : Settings} {w : Attribute → Value}
    (h : ∀ a : Attribute, (d.content a).or (a.default settings) = some (w a)) :
    (d.build settings).2.map SearchParam.toValue = Constructor.ofRecord .searchParam
      (Attribute.all.map fun a => (a.label, w a)) := by
  have hcollection : d.collection = some (w .collection) := Draft.eq_some_of_or (h .collection)
  have hfield : d.vectorField = some (w .vectorField) := Draft.eq_some_of_or (h .vectorField)
  have htopK : d.topK = some (w .topK) := Draft.eq_some_of_or (h .topK)
  have hvectors : d.vectors = some (w .vectors) := Draft.eq_some_of_or (h .vectors)
  have hmetric : d.metric.getD _ = w .metric := Draft.getD_of_or (h .metric)
  have hpartitions : d.partitions.getD _ = w .partitions := Draft.getD_of_or (h .partitions)
  have houtFields : d.outFields.getD _ = w .outFields := Draft.getD_of_or (h .outFields)
  have hexpr : d.expr.getD _ = w .expr := Draft.getD_of_or (h .expr)
  have hround : d.roundDecimal.getD _ = w .roundDecimal := Draft.getD_of_or (h .roundDecimal)
  have hparams : d.params.getD _ = w .params := Draft.getD_of_or (h .params)
  have htravel : d.travelTimestamp.getD _ = w .travelTimestamp :=
    Draft.getD_of_or (h .travelTimestamp)
  have hguarantee : d.guaranteeTimestamp.getD _ = w .guaranteeTimestamp :=
    Draft.getD_of_or (h .guaranteeTimestamp)
  rw [build_of_content settings hcollection hfield htopK, hvectors, hmetric, hpartitions,
    houtFields, hexpr, hround, hparams, htravel, hguarantee, Option.getD_some]
  exact (Outcome.bind_pure_eq_map _ _).symm

def construction (settings : Settings) : (account settings).Construction settings where
  attributes := Attribute.all
  label := Attribute.label
  default := Attribute.default settings
  setter
    | .collection, v => .collection v
    | .vectorField, v => .vectorField v
    | .topK, v => .topK v
    | .vectors, v => .vectors v
    | .metric, v => .metric v
    | .partitions, v => .partitions v
    | .outFields, v => .outFields v
    | .expr, v => .expr v
    | .roundDecimal, v => .roundDecimal v
    | .params, v => .params v
    | .travelTimestamp, v => .travelTimestamp v
    | .guaranteeTimestamp, v => .guaranteeTimestamp v
  record := .searchParam
  toValue := SearchParam.toValue
  mem_attributes := Attribute.mem_all
  label_injective := Attribute.label_injective
  slots_eq := rfl
  key_setter a v := by cases a <;> rfl
  edit_setter a v h := by cases a <;> cases h <;> exact ⟨_, _, rfl, rfl, rfl⟩
  build_eq _ _ h := build_eq_ofRecord h
  IsUntold := IsUntold settings
  build_incomplete d a hsound hdefault hnone := by
    refine build_incomplete settings (hsound .partitions) (hsound .outFields) ?_
    cases a with
    | collection => exact .inl hnone
    | vectorField => exact .inr (.inl hnone)
    | topK => exact .inr (.inr (.inl hnone))
    | vectors => exact .inr (.inr (.inr hnone))
    | _ => cases hdefault

end SearchDraft

namespace QueryDraft

/-- A query with a collection and an expression is built as it is constructed. -/
theorem build_of_content {d : QueryDraft} {collection expr : Value} (settings : Settings)
    (hcollection : d.collection = some collection) (hexpr : d.expr = some expr) :
    d.build settings = QueryParam.ofValues collection expr (d.partitions.getD (.tuple []))
      (d.outFields.getD (.tuple [])) (d.travelTimestamp.getD (.int 0))
      (d.guaranteeTimestamp.getD settings.guaranteeTimestamp) := by
  rw [build, finish, hcollection, hexpr, Option.getD_some, Option.getD_some]
  cases hname : Check.name "Collection name" collection with
  | error e =>
      rw [QueryParam.ofValues, hname]
      rfl
  | ok name =>
      cases htext : Check.name "Expression" expr with
      | error e =>
          rw [QueryParam.ofValues, hname, Outcome.ok_bind, htext]
          rfl
      | ok text => rfl

theorem isRefused_build {d : QueryDraft} (settings : Settings)
    (h : d.collection = none ∨ d.expr = none) : (d.build settings).IsRefused := by
  obtain hcollection | hexpr := h
  · rw [build, hcollection]
    exact Outcome.isRefused_refuse _
  · rw [build, hexpr]
    refine Outcome.Refuses.isRefused_bind (Outcome.failsOnly_discard (Check.refuses_name _ _)) ?_
    exact fun _ _ => Outcome.isRefused_refuse _

/-- The attributes, in the order of the constructor. -/
def Attribute.all : List Attribute :=
  [.collection, .expr, .partitions, .outFields, .travelTimestamp, .guaranteeTimestamp]

theorem Attribute.mem_all (a : Attribute) : a ∈ all := by
  cases a <;> decide

def Attribute.label : Attribute → String
  | .collection => "collection_name"
  | .expr => "expr"
  | .partitions => "partition_names"
  | .outFields => "out_fields"
  | .travelTimestamp => "travel_timestamp"
  | .guaranteeTimestamp => "guarantee_timestamp"

theorem Attribute.label_injective : Function.Injective label := by
  intro a b h
  cases a <;> cases b <;> first | rfl | exact absurd h (by decide)

/-- The value that the constructor takes for an attribute that is not given. -/
def Attribute.default (settings : Settings) : Attribute → Option Value
  | .collection => none
  | .expr => none
  | .partitions => some (.tuple [])
  | .outFields => some (.tuple [])
  | .travelTimestamp => some (.int 0)
  | .guaranteeTimestamp => some settings.guaranteeTimestamp

theorem build_eq_ofRecord {d : QueryDraft} {settings : Settings} {w : Attribute → Value}
    (h : ∀ a : Attribute, (d.content a).or (a.default settings) = some (w a)) :
    (d.build settings).map QueryParam.toValue = Constructor.ofRecord .queryParam
      (Attribute.all.map fun a => (a.label, w a)) := by
  have hcollection : d.collection = some (w .collection) := Draft.eq_some_of_or (h .collection)
  have hexpr : d.expr = some (w .expr) := Draft.eq_some_of_or (h .expr)
  have hpartitions : d.partitions.getD _ = w .partitions := Draft.getD_of_or (h .partitions)
  have houtFields : d.outFields.getD _ = w .outFields := Draft.getD_of_or (h .outFields)
  have htravel : d.travelTimestamp.getD _ = w .travelTimestamp :=
    Draft.getD_of_or (h .travelTimestamp)
  have hguarantee : d.guaranteeTimestamp.getD _ = w .guaranteeTimestamp :=
    Draft.getD_of_or (h .guaranteeTimestamp)
  rw [build_of_content settings hcollection hexpr, hpartitions, houtFields, htravel, hguarantee]
  exact (Outcome.bind_pure_eq_map _ _).symm

def construction (settings : Settings) : (account settings).Construction settings where
  attributes := Attribute.all
  label := Attribute.label
  default := Attribute.default settings
  setter
    | .collection, v => .collection v
    | .expr, v => .expr v
    | .partitions, v => .partitions v
    | .outFields, v => .outFields v
    | .travelTimestamp, v => .travelTimestamp v
    | .guaranteeTimestamp, v => .guaranteeTimestamp v
  record := .queryParam
  toValue := QueryParam.toValue
  mem_attributes := Attribute.mem_all
  label_injective := Attribute.label_injective
  slots_eq := rfl
  key_setter a v := by cases a <;> rfl
  edit_setter a v h := by cases a <;> cases h <;> exact ⟨_, _, rfl, rfl, rfl⟩
  build_eq _ _ h := build_eq_ofRecord h
  IsUntold _ := False
  build_incomplete d a _ hdefault hnone := by
    refine .inl (isRefused_build settings ?_)
    cases a with
    | collection => exact .inl hnone
    | expr => exact .inr hnone
    | _ => cases hdefault

end QueryDraft

namespace ProgressDraft

/-- A question with a collection is built as it is constructed. -/
theorem build_of_content {d : ProgressDraft} {collection : Value}
    (hcollection : d.collection = some collection) :
    d.build = ProgressParam.ofValues collection := by
  rw [build, finish, hcollection, Option.getD_some]
  cases hname : Check.name "Collection name" collection with
  | error e =>
      rw [ProgressParam.ofValues, hname]
      rfl
  | ok name => rfl

theorem isRefused_build {d : ProgressDraft} (h : d.collection = none) : d.build.IsRefused := by
  rw [build, h]
  exact Outcome.isRefused_refuse _

theorem build_eq_ofRecord {d : ProgressDraft} {w : Attribute → Value}
    (h : ∀ a : Attribute, (d.content a).or none = some (w a)) :
    d.build.map ProgressParam.toValue = Constructor.ofRecord .progressParam
      [("collection_name", w .collection)] := by
  rw [build_of_content (Draft.eq_some_of_or (h .collection))]
  exact (Outcome.bind_pure_eq_map _ _).symm

def construction (settings : Settings) : account.Construction settings where
  attributes := [.collection]
  label _ := "collection_name"
  default _ := none
  setter _ v := .collection v
  record := .progressParam
  toValue := ProgressParam.toValue
  mem_attributes a := List.mem_singleton.mpr (by cases a; rfl)
  label_injective := by
    rintro ⟨⟩ ⟨⟩ -
    rfl
  slots_eq := rfl
  key_setter a v := by cases a; rfl
  edit_setter := nofun
  build_eq _ _ h := build_eq_ofRecord h
  IsUntold _ := False
  build_incomplete d a _ _ hnone := by
    cases a
    exact .inl (isRefused_build hnone)

end ProgressDraft

namespace DraftKind

/-- How the parameters of a kind are constructed. -/
def construction (settings : Settings) :
    (kind : DraftKind) → (kind.account settings).Construction settings
  | fieldType => FieldTypeDraft.construction settings
  | insert => InsertDraft.construction settings
  | search => SearchDraft.construction settings
  | query => QueryDraft.construction settings
  | progress => ProgressDraft.construction settings

end DraftKind

end VectorRequests
