/-
# Searches, queries and field schemas come back from their documents

The documents of a search, of a query and of a field schema have a place for every attribute
of the record, and each place is read into the attribute that it was written for. Placeholder
groups are opaque bytes on the way, and come back from base64 as they were, so the targets of
a search are still those that were put into it.
-/

import VectorRequests.Proofs.Document.Request

namespace VectorRequests

open Document Text

namespace Document

/-- What a record is documented as is read back as the record: from every text that holds the
document, and from the text that is written for it, if a reader takes its integers. -/
def ComesBack {α : Type} (document : Outcome Json) (read : String → Outcome α) (IsShort : Prop)
    (a : α) : Prop :=
  ∃ j, document = .ok j ∧ (∀ text, Json.read? text = some j → read text = .ok a) ∧
    (IsShort → Json.read? j.write = some j ∧ read j.write = .ok a)

/-- A written document that passes its check, and gives the record again, comes back. -/
theorem comesBack_of_check {α δ : Type} {document : Outcome δ} {toJson : δ → Json}
    {check : Value → Checked δ} {ofDocument : δ → Outcome α} {IsShort : Prop} {d : δ} {a : α}
    (hd : document = .ok d) (hcheck : check (toJson d).toValue = .ok d)
    (hback : ofDocument d = .ok a) (hshort : IsShort → Json.Readable Json.maxDepth (toJson d)) :
    ComesBack (document.map toJson) (fun text => Document.read check text >>= ofDocument)
      IsShort a := by
  have hread : ∀ text, Json.read? text = some (toJson d) →
      (Document.read check text >>= ofDocument) = .ok a := by
    intro text htext
    have hdocument : Document.read check text = .ok d := by
      rw [Document.read, htext]
      simp only [hcheck, toOutcome_ok]
    rw [hdocument, Outcome.ok_bind, hback]
  refine ⟨toJson d, ?_, hread, ?_⟩
  · rw [hd]
    rfl
  · intro h
    have htext := Json.read?_write (hshort h)
    exact ⟨htext, hread _ htext⟩

/-- Timestamps that are no longer than readers take, if they are integers. -/
def AreShort (travel guarantee : Value) : Prop :=
  (∀ t, travel = .int t → Integer.IsShort t) ∧ ∀ t, guarantee = .int t → Integer.IsShort t

theorem areShort_int_iff {travel guarantee : Int} :
    AreShort (.int travel) (.int guarantee) ↔
      Integer.IsShort travel ∧ Integer.IsShort guarantee := by
  simp [AreShort]

/-- Documents of texts pass as the texts. -/
theorem checkList_texts (texts : List String) :
    checkList checkText (Json.texts texts).toValue = .ok texts := by
  show Checked.collect checkText 0 (Json.itemsToValues (texts.map .text)) = _
  rw [itemsToValues_map]
  exact collect_map 0 fun s _ => checkText_text s

theorem toValue_texts (texts : List String) :
    (Json.texts texts).toValue = .list (texts.map .text) :=
  congrArg Value.list (itemsToValues_map texts)

end Document

/-! ## Named parameters -/

namespace PairDocument

/-- The document of a parameter of texts. -/
def ofTexts (p : String × String) : PairDocument :=
  ⟨p.1, p.2⟩

theorem check_toJson (d : PairDocument) : check d.toJson.toValue = .ok d := by
  have hentries : d.toJson.toValue = .mapping
      [(.text "key", .text d.key), (.text "value", .text d.value)] := rfl
  rw [check, hentries, checkObject_mapping, Checked.andThen,
    required_of_lookup (by simp [lookup]) (checkText_text d.key),
    required_of_lookup (by simp [lookup]) (checkText_text d.value)]
  rfl

/-- Parameters of texts are documented one by one. -/
theorem mapM_ofPair (params : List (String × String)) :
    (params.map KeyValuePair.ofTexts).mapM ofPair = .ok (params.map ofTexts) := by
  rw [Outcome.mapM_eq_ok_iff, List.forall₂_map_left_iff, List.forall₂_map_right_iff]
  apply List.forall₂_same.mpr
  intro p _
  exact congrArg Checked.toOutcome (check_toJson (ofTexts p))

theorem map_toPair (params : List (String × String)) :
    (params.map ofTexts).map toPair = params.map KeyValuePair.ofTexts := by
  rw [List.map_map]
  rfl

theorem checkList_map (params : List PairDocument) :
    checkList check (Json.list (params.map toJson)).toValue = .ok params := by
  show Checked.collect check 0 (Json.itemsToValues (params.map toJson)) = _
  rw [itemsToValues_map]
  exact collect_map 0 fun d _ => d.check_toJson

theorem toValue_list (params : List PairDocument) :
    (Json.list (params.map toJson)).toValue = .list (params.map fun d => d.toJson.toValue) :=
  congrArg Value.list (itemsToValues_map params)

theorem readable_list (depth : Nat) (params : List PairDocument) :
    Json.Readable (depth + 3) (.list (params.map toJson)) :=
  itemsReadable_map fun _ _ => ⟨trivial, trivial, trivial⟩

end PairDocument

/-! ## Field schemas -/

/-- A schema that JSON has the means for: its name, its description and its parameters are
texts, and its flags are truth values. -/
inductive FieldSchema.IsPlain : FieldSchema → Prop
  | intro (name description : String) (dataType : DataType) (isPrimaryKey autoId : Bool)
      (params : List (String × String)) :
      IsPlain ⟨.text name, dataType, .text description, .bool isPrimaryKey, .bool autoId,
        params.map KeyValuePair.ofTexts⟩

namespace SchemaDocument

/-- The written document of a field schema passes the check. -/
theorem check_toJson (d : SchemaDocument) : check d.toJson.toValue = .ok d := by
  have hentries : d.toJson.toValue = .mapping
      [(.text "name", .text d.name), (.text "data_type", .text d.dataType),
        (.text "description", .text d.description), (.text "is_primary_key", .bool d.isPrimaryKey),
        (.text "auto_id", .bool d.autoId),
        (.text "type_params", (Json.list (d.typeParams.map PairDocument.toJson)).toValue)] := rfl
  rw [check, hentries, checkObject_mapping, Checked.andThen,
    required_of_lookup (by simp [lookup]) (checkText_text d.name),
    required_of_lookup (by simp [lookup]) (checkText_text d.dataType),
    optional_of_lookup (by simp [lookup]) (checkText_text d.description),
    optional_of_lookup (by simp [lookup]) (checkBool_bool d.isPrimaryKey),
    optional_of_lookup (by simp [lookup]) (checkBool_bool d.autoId),
    optional_of_lookup (by simp [lookup]) (PairDocument.checkList_map d.typeParams)]
  rfl

theorem readable_toJson (depth : Nat) (d : SchemaDocument) :
    Json.Readable (depth + 4) d.toJson :=
  ⟨trivial, trivial, trivial, trivial, trivial, PairDocument.readable_list depth _, trivial⟩

end SchemaDocument

/-- A plain schema comes back from its document. -/
theorem FieldSchema.comesBack {s : FieldSchema} (h : s.IsPlain) :
    ComesBack ((SchemaDocument.ofSchema s).map SchemaDocument.toJson) readSchema True s := by
  obtain ⟨name, description, dataType, isPrimaryKey, autoId, params⟩ := h
  let d : SchemaDocument := ⟨name, dataType.name, description, isPrimaryKey, autoId,
    params.map PairDocument.ofTexts⟩
  have hcheck := d.check_toJson
  have hwritten : SchemaDocument.ofSchema ⟨.text name, dataType, .text description,
      .bool isPrimaryKey, .bool autoId, params.map KeyValuePair.ofTexts⟩ = .ok d := by
    refine Outcome.bind_eq_ok.mpr ⟨_, PairDocument.mapM_ofPair params, ?_⟩
    rw [SchemaDocument.ofParts, ← PairDocument.toValue_list]
    exact congrArg Checked.toOutcome hcheck
  have hread : d.toSchema = .ok ⟨.text name, dataType, .text description,
      .bool isPrimaryKey, .bool autoId, params.map KeyValuePair.ofTexts⟩ := by
    refine Outcome.bind_eq_ok.mpr ⟨dataType, member_of_ofName? dataType.ofName?_name, ?_⟩
    rw [Outcome.pure_eq_ok, PairDocument.map_toPair]
  exact comesBack_of_check hwritten hcheck hread fun _ => d.readable_toJson _

/-! ## Queries -/

namespace QueryRequest

/-- A query that JSON has the means for: its names and its expression are texts, and its
timestamps are integers. -/
inductive IsPlain : QueryRequest → Prop
  | intro (collection expr db : String) (partitions outputs : List String)
      (travel guarantee : Int) :
      IsPlain ⟨.text collection, .text expr, partitions.map .text, outputs.map .text,
        .int travel, .int guarantee, .text db⟩

end QueryRequest

namespace QueryDocument

/-- The written document of a query passes the check. -/
theorem check_toJson (d : QueryDocument) : check d.toJson.toValue = .ok d := by
  have hentries : d.toJson.toValue = .mapping
      [(.text "collection_name", .text d.collectionName), (.text "expr", .text d.expr),
        (.text "partition_names", (Json.texts d.partitionNames).toValue),
        (.text "output_fields", (Json.texts d.outputFields).toValue),
        (.text "travel_timestamp", .int d.travelTimestamp),
        (.text "guarantee_timestamp", .int d.guaranteeTimestamp),
        (.text "db_name", .text d.dbName)] := rfl
  rw [check, hentries, checkObject_mapping, Checked.andThen,
    required_of_lookup (by simp [lookup]) (checkText_text d.collectionName),
    required_of_lookup (by simp [lookup]) (checkText_text d.expr),
    optional_of_lookup (by simp [lookup]) (checkList_texts d.partitionNames),
    optional_of_lookup (by simp [lookup]) (checkList_texts d.outputFields),
    optional_of_lookup (by simp [lookup]) (checkInt_int d.travelTimestamp),
    optional_of_lookup (by simp [lookup]) (checkInt_int d.guaranteeTimestamp),
    optional_of_lookup (by simp [lookup]) (checkText_text d.dbName)]
  rfl

theorem readable_toJson (depth : Nat) {d : QueryDocument}
    (h : AreShort (.int d.travelTimestamp) (.int d.guaranteeTimestamp)) :
    Json.Readable (depth + 2) d.toJson := by
  obtain ⟨htravel, hguarantee⟩ := areShort_int_iff.mp h
  exact ⟨trivial, trivial, itemsReadable_texts d.partitionNames,
    itemsReadable_texts d.outputFields, htravel, hguarantee, trivial, trivial⟩

end QueryDocument

/-- A plain query comes back from its document. -/
theorem QueryRequest.comesBack {r : QueryRequest} (h : r.IsPlain) :
    ComesBack ((QueryDocument.ofRequest r).map QueryDocument.toJson) readQueryRequest
      (AreShort r.travelTimestamp r.guaranteeTimestamp) r := by
  obtain ⟨collection, expr, db, partitions, outputs, travel, guarantee⟩ := h
  let d : QueryDocument := ⟨collection, expr, partitions, outputs, travel, guarantee, db⟩
  have hcheck := d.check_toJson
  have hwritten : QueryDocument.ofRequest ⟨.text collection, .text expr, partitions.map .text,
      outputs.map .text, .int travel, .int guarantee, .text db⟩ = .ok d := by
    rw [QueryDocument.ofRequest]
    simp only [← toValue_texts]
    exact congrArg Checked.toOutcome hcheck
  exact comesBack_of_check hwritten hcheck (rfl : Except.ok d.toRequest = _)
    fun hshort => QueryDocument.readable_toJson _ hshort

/-! ## Searches -/

namespace SearchRequest

/-- A search that JSON has the means for: its names, its expression and its parameters are
texts, and its timestamps are integers. Its placeholder group may be any bytes. -/
inductive IsPlain : SearchRequest → Prop
  | intro (collection dsl db : String) (group : List UInt8) (dslType : DslType)
      (partitions outputs : List String) (params : List (String × String))
      (travel guarantee : Int) :
      IsPlain ⟨.text collection, group, dslType, .text dsl, partitions.map .text,
        outputs.map .text, params.map KeyValuePair.ofTexts, .int travel, .int guarantee,
        .text db⟩

end SearchRequest

namespace SearchDocument

/-- The written document of a search passes the check. -/
theorem check_toJson (d : SearchDocument) : check d.toJson.toValue = .ok d := by
  have hentries : d.toJson.toValue = .mapping
      [(.text "collection_name", .text d.collectionName),
        (.text "placeholder_group", .text d.placeholderGroup),
        (.text "dsl_type", .text d.dslType), (.text "dsl", .text d.dsl),
        (.text "partition_names", (Json.texts d.partitionNames).toValue),
        (.text "output_fields", (Json.texts d.outputFields).toValue),
        (.text "search_params", (Json.list (d.searchParams.map PairDocument.toJson)).toValue),
        (.text "travel_timestamp", .int d.travelTimestamp),
        (.text "guarantee_timestamp", .int d.guaranteeTimestamp),
        (.text "db_name", .text d.dbName)] := rfl
  rw [check, hentries, checkObject_mapping, Checked.andThen,
    required_of_lookup (by simp [lookup]) (checkText_text d.collectionName),
    required_of_lookup (by simp [lookup]) (checkText_text d.placeholderGroup),
    optional_of_lookup (by simp [lookup]) (checkText_text d.dslType),
    optional_of_lookup (by simp [lookup]) (checkText_text d.dsl),
    optional_of_lookup (by simp [lookup]) (checkList_texts d.partitionNames),
    optional_of_lookup (by simp [lookup]) (checkList_texts d.outputFields),
    optional_of_lookup (by simp [lookup]) (PairDocument.checkList_map d.searchParams),
    optional_of_lookup (by simp [lookup]) (checkInt_int d.travelTimestamp),
    optional_of_lookup (by simp [lookup]) (checkInt_int d.guaranteeTimestamp),
    optional_of_lookup (by simp [lookup]) (checkText_text d.dbName)]
  rfl

theorem readable_toJson (depth : Nat) {d : SearchDocument}
    (h : AreShort (.int d.travelTimestamp) (.int d.guaranteeTimestamp)) :
    Json.Readable (depth + 4) d.toJson := by
  obtain ⟨htravel, hguarantee⟩ := areShort_int_iff.mp h
  exact ⟨trivial, trivial, trivial, trivial, itemsReadable_texts d.partitionNames,
    itemsReadable_texts d.outputFields, PairDocument.readable_list depth d.searchParams, htravel,
    hguarantee, trivial, trivial⟩

/-- The document of a plain search is read as that search. -/
theorem toRequest_eq_ok (collection dsl db : String) (group : List UInt8) (dslType : DslType)
    (partitions outputs : List String) (params : List (String × String))
    (travel guarantee : Int) :
    toRequest ⟨collection, Base64.encode group, dslType.name, dsl, partitions, outputs,
        params.map PairDocument.ofTexts, travel, guarantee, db⟩ =
      .ok ⟨.text collection, group, dslType, .text dsl, partitions.map .text, outputs.map .text,
        params.map KeyValuePair.ofTexts, .int travel, .int guarantee, .text db⟩ := by
  have hkind : member .dslType DslType.ofName? dslType.name = .ok dslType :=
    member_of_ofName? dslType.ofName?_name
  rw [toRequest, bytesOf_encode, Outcome.ok_bind, hkind, Outcome.ok_bind, Outcome.pure_eq_ok,
    PairDocument.map_toPair]

end SearchDocument

/-- A plain search comes back from its document. -/
theorem SearchRequest.comesBack {r : SearchRequest} (h : r.IsPlain) :
    ComesBack ((SearchDocument.ofRequest r).map SearchDocument.toJson) readSearchRequest
      (AreShort r.travelTimestamp r.guaranteeTimestamp) r := by
  obtain ⟨collection, dsl, db, group, dslType, partitions, outputs, params, travel,
    guarantee⟩ := h
  let d : SearchDocument := ⟨collection, Base64.encode group, dslType.name, dsl, partitions,
    outputs, params.map PairDocument.ofTexts, travel, guarantee, db⟩
  have hcheck := d.check_toJson
  have hwritten : SearchDocument.ofRequest ⟨.text collection, group, dslType, .text dsl,
      partitions.map .text, outputs.map .text, params.map KeyValuePair.ofTexts, .int travel,
      .int guarantee, .text db⟩ = .ok d := by
    refine Outcome.bind_eq_ok.mpr ⟨_, PairDocument.mapM_ofPair params, ?_⟩
    rw [SearchDocument.ofParts, ← PairDocument.toValue_list]
    simp only [← toValue_texts]
    exact congrArg Checked.toOutcome hcheck
  have hread := SearchDocument.toRequest_eq_ok collection dsl db group dslType partitions outputs
    params travel guarantee
  exact comesBack_of_check hwritten hcheck hread fun hshort =>
    SearchDocument.readable_toJson _ hshort

/-- The targets of a search that comes back are the same as before. -/
theorem SearchRequest.decode_of_comesBack {document : Outcome Json} {IsShort : Prop}
    {r : SearchRequest} (h : ComesBack document readSearchRequest IsShort r) :
    ∀ j, document = .ok j → ∀ text, Json.read? text = some j →
      (readSearchRequest text >>= fun back => PlaceholderGroup.decode back.placeholderGroup) =
        PlaceholderGroup.decode r.placeholderGroup := by
  intro j hj text htext
  obtain ⟨found, hfound, hread, -⟩ := h
  have hsame : (.ok found : Outcome Json) = .ok j := hfound.symm.trans hj
  cases hsame
  rw [hread text htext, Outcome.ok_bind]

namespace Document

/-- Plain searches, queries and field schemas come back from their documents: every attribute
as it was, with all sequences in order. Hence a search has the same targets as before. -/
theorem plain_records_come_back :
    (∀ r : SearchRequest, r.IsPlain →
      ComesBack ((SearchDocument.ofRequest r).map SearchDocument.toJson) readSearchRequest
          (AreShort r.travelTimestamp r.guaranteeTimestamp) r ∧
        ∀ j, (SearchDocument.ofRequest r).map SearchDocument.toJson = .ok j →
          ∀ text, Json.read? text = some j →
            (readSearchRequest text >>= fun back =>
              PlaceholderGroup.decode back.placeholderGroup) =
                PlaceholderGroup.decode r.placeholderGroup) ∧
      (∀ r : QueryRequest, r.IsPlain →
        ComesBack ((QueryDocument.ofRequest r).map QueryDocument.toJson) readQueryRequest
          (AreShort r.travelTimestamp r.guaranteeTimestamp) r) ∧
      ∀ s : FieldSchema, s.IsPlain →
        ComesBack ((SchemaDocument.ofSchema s).map SchemaDocument.toJson) readSchema True s := by
  refine ⟨?_, fun r => QueryRequest.comesBack, fun s => FieldSchema.comesBack⟩
  intro r hplain
  have hback := SearchRequest.comesBack hplain
  exact ⟨hback, SearchRequest.decode_of_comesBack hback⟩

/-- A search with a group of three bytes, one partition and a parameter that is given twice. -/
def filteredSearch : SearchRequest where
  collectionName := .text "books"
  placeholderGroup := [0, 255, 16]
  dsl := .text "year > 1950"
  partitionNames := ["recent"].map .text
  searchParams := [("topk", "3"), ("topk", "4")].map KeyValuePair.ofTexts
  guaranteeTimestamp := .int 1

theorem filteredSearch_isPlain : filteredSearch.IsPlain :=
  .intro "books" "year > 1950" "" [0, 255, 16] .boolExprV1 ["recent"] []
    [("topk", "3"), ("topk", "4")] 0 1

theorem filteredSearch_areShort :
    AreShort filteredSearch.travelTimestamp filteredSearch.guaranteeTimestamp := by
  apply areShort_int_iff.mpr
  constructor
  · exact Integer.isShort_of_lt (by decide) (by decide) (by decide : 0 < 10 ^ 1)
  · exact Integer.isShort_of_lt (by decide) (by decide) (by decide : 1 < 10 ^ 1)

/-- It comes back from its text. -/
theorem filteredSearch_comes_back :
    filteredSearch.IsPlain ∧
      ∃ j, (SearchDocument.ofRequest filteredSearch).map SearchDocument.toJson = .ok j ∧
        readSearchRequest j.write = .ok filteredSearch := by
  refine ⟨filteredSearch_isPlain, ?_⟩
  obtain ⟨j, hj, -, hwritten⟩ := (plain_records_come_back.1 _ filteredSearch_isPlain).1
  exact ⟨j, hj, (hwritten filteredSearch_areShort).2⟩

end Document

end VectorRequests
