/-
# What a document keeps of an insert request

The document of an insert request has a place for every attribute of the request and of its
columns, but of what the message starts with it names the kind alone. So the request comes
back with the same names, the same number of rows and the same columns in order, while the
identifier, the timestamp and the source of the message are those of a new one. Nothing is
lost exactly if they were those of a new message before.
-/

import VectorRequests.Proofs.Document.Column

namespace VectorRequests

open Document Text

/-! ## Requests that can be documented -/

/-- A column that JSON has the means for. -/
def FieldData.IsPlain (c : FieldData) : Prop :=
  (∃ name, c.name = .text name) ∧ c.payload.IsPlain

namespace InsertRequest

/-- A request that JSON has the means for: its names are texts, its number of rows is an
integer and its columns are plain. What it starts with may be anything. -/
inductive IsPlain : InsertRequest → Prop
  | intro (base : MsgBase) (collection partition db : String) (rows : Int)
      {columns : List FieldData} (h : ∀ c ∈ columns, c.IsPlain) :
      IsPlain ⟨base, .text collection, .text partition, .int rows, columns, .text db⟩

/-- A request whose integers are no longer than readers take. -/
def IsShort (r : InsertRequest) : Prop :=
  (∀ rows, r.numRows = .int rows → Integer.IsShort rows) ∧
    ∀ c ∈ r.fieldsData, c.payload.IsShort

/-- The request with the start of a new message of its kind. -/
def restart (r : InsertRequest) : InsertRequest :=
  { r with base := { msgType := r.base.msgType } }

theorem restart_eq_self_iff {r : InsertRequest} :
    r.restart = r ↔
      r.base.msgId = .int 0 ∧ r.base.timestamp = .int 0 ∧ r.base.sourceId = .int 0 := by
  obtain ⟨⟨msgType, msgId, timestamp, sourceId⟩, collection, partition, rows, columns, db⟩ := r
  simp [restart, eq_comm]

end InsertRequest

/-! ## Written documents pass their check -/

theorem itemsReadable_map {α : Type} {depth : Nat} {f : α → Json} {xs : List α}
    (h : ∀ x ∈ xs, Json.Readable depth (f x)) : Json.ItemsReadable depth (xs.map f) := by
  induction xs with
  | nil => exact trivial
  | cons x xs ih =>
      obtain ⟨hx, hxs⟩ := List.forall_mem_cons.mp h
      exact ⟨hx, ih hxs⟩

namespace InsertDocument

/-- A document whose integers are no longer than readers take. -/
def IsShort (d : InsertDocument) : Prop :=
  Integer.IsShort d.numRows ∧ ∀ c ∈ d.fieldsData, c.IsShort

/-- The written document of an insert request passes the check. -/
theorem check_toJson (d : InsertDocument) : check d.toJson.toValue = .ok d := by
  have hcolumns : checkList ColumnDocument.check
      (Json.list (d.fieldsData.map ColumnDocument.toJson)).toValue = .ok d.fieldsData := by
    show Checked.collect _ 0 (Json.itemsToValues (d.fieldsData.map ColumnDocument.toJson)) = _
    rw [itemsToValues_map]
    exact collect_map 0 fun c _ => c.check_toJson
  have hentries : d.toJson.toValue = .mapping
      [(.text "msg_type", .text d.msgType), (.text "collection_name", .text d.collectionName),
        (.text "partition_name", .text d.partitionName), (.text "num_rows", .int d.numRows),
        (.text "fields_data", (Json.list (d.fieldsData.map ColumnDocument.toJson)).toValue),
        (.text "db_name", .text d.dbName)] := rfl
  rw [check, hentries, checkObject_mapping, Checked.andThen,
    required_of_lookup (by simp [lookup]) (checkText_text d.msgType),
    required_of_lookup (by simp [lookup]) (checkText_text d.collectionName),
    required_of_lookup (by simp [lookup]) (checkText_text d.partitionName),
    required_of_lookup (by simp [lookup]) (checkInt_int d.numRows),
    optional_of_lookup (by simp [lookup]) hcolumns,
    optional_of_lookup (by simp [lookup]) (checkText_text d.dbName)]
  rfl

theorem readable_toJson {d : InsertDocument} (depth : Nat) (h : d.IsShort) :
    Json.Readable (depth + 6) d.toJson := by
  have hcolumns : Json.Readable (depth + 5)
      (.list (d.fieldsData.map ColumnDocument.toJson)) :=
    itemsReadable_map fun c hc => c.readable_toJson depth (h.2 c hc)
  exact ⟨trivial, trivial, trivial, h.1, hcolumns, trivial, trivial⟩

/-- Any text that holds the document of an insert request is read as that request. -/
theorem readInsertRequest_of_read? [OtherArrays] {d : InsertDocument} {text : String}
    (h : Json.read? text = some d.toJson) : readInsertRequest text = d.toRequest := by
  rw [readInsertRequest, Document.read, h]
  simp only [d.check_toJson, toOutcome_ok, Outcome.ok_bind]

/-- The text that is written for a document holds it, if a reader takes its integers. -/
theorem read?_write {d : InsertDocument} (h : d.IsShort) :
    Json.read? d.toJson.write = some d.toJson :=
  Json.read?_write (readable_toJson _ h)

/-- Attributes that JSON has the means for make a document as they are. -/
theorem ofParts_eq_ok (msgType collection partition db : String) (rows : Int)
    (columns : List ColumnDocument) :
    ofParts (.text msgType) (.text collection) (.text partition) (.int rows) (.text db)
        columns =
      .ok ⟨msgType, collection, partition, rows, columns, db⟩ := by
  let d : InsertDocument := ⟨msgType, collection, partition, rows, columns, db⟩
  have hcolumns : (Json.list (columns.map ColumnDocument.toJson)).toValue =
      .list (columns.map fun c => c.toJson.toValue) :=
    congrArg Value.list (itemsToValues_map columns)
  have hcheck := d.check_toJson
  show (check (.mapping _)).toOutcome = _
  rw [← hcolumns]
  exact congrArg Checked.toOutcome hcheck

/-! ## What comes back -/

section

variable [OtherArrays]

/-- The columns of a plain request are documented and read back one by one. -/
theorem exists_columns {columns : List FieldData} (h : ∀ c ∈ columns, c.IsPlain) :
    ∃ documents, columns.mapM ColumnDocument.ofFieldData = .ok documents ∧
      documents.mapM ColumnDocument.toFieldData = .ok columns ∧
      ((∀ c ∈ columns, c.payload.IsShort) → ∀ d ∈ documents, d.IsShort) := by
  have hone : ∀ c ∈ columns, ∃ d, ColumnDocument.ofFieldData c = .ok d ∧
      d.toFieldData = .ok c ∧ (c.payload.IsShort → d.IsShort) := by
    intro c hc
    obtain ⟨⟨name, hname⟩, hplain⟩ := h c hc
    obtain ⟨given, type, payload⟩ := c
    cases hname
    exact ColumnDocument.toFieldData_ofFieldData name type hplain
  obtain ⟨documents, hall⟩ := exists_forall₂ hone
  refine ⟨documents, ?_, ?_, fun hshort => ?_⟩
  · exact Outcome.mapM_eq_ok_iff.mpr (hall.imp fun _ _ hd => hd.1)
  · exact Outcome.mapM_eq_ok_iff.mpr (hall.flip.imp fun _ _ hd => hd.2.1)
  · intro d hd
    obtain ⟨c, ⟨-, -, hstays⟩, hc⟩ := exists_of_forall₂ hall.flip hshort d hd
    exact hstays hc

/-- A plain request is documented, and read back as it was but for its start. -/
theorem toRequest_ofRequest {r : InsertRequest} (h : r.IsPlain) :
    ∃ d, ofRequest r = .ok d ∧ d.toRequest = .ok r.restart ∧ (r.IsShort → d.IsShort) := by
  obtain ⟨base, collection, partition, db, rows, hcolumns⟩ := h
  obtain ⟨documents, hwritten, hread, hshort⟩ := exists_columns hcolumns
  have hkind : member .msgType MsgType.ofName? base.msgType.name = .ok base.msgType :=
    member_of_ofName? base.msgType.ofName?_name
  refine ⟨⟨base.msgType.name, collection, partition, rows, documents, db⟩, ?_, ?_, ?_⟩
  · exact Outcome.bind_eq_ok.mpr ⟨documents, hwritten, ofParts_eq_ok ..⟩
  · exact Outcome.bind_eq_ok.mpr ⟨_, hkind, Outcome.bind_eq_ok.mpr ⟨_, hread, rfl⟩⟩
  · exact fun hr => ⟨hr.1 rows rfl, hshort hr.2⟩

end

end InsertDocument

namespace InsertRequest

/-- The document of an insert request is read back as the request with the start of a new
message: from every text that holds the document, and from the text that is written for it, if
a reader takes its integers. That is the request itself exactly if its identifier, timestamp
and source are those of a new message. -/
theorem document_keeps_all_but_start [OtherArrays] {r : InsertRequest} (hplain : r.IsPlain) :
    ∃ d, InsertDocument.ofRequest r = .ok d ∧
      (∀ text, Json.read? text = some d.toJson → readInsertRequest text = .ok r.restart) ∧
      (r.IsShort → Json.read? d.toJson.write = some d.toJson ∧
        readInsertRequest d.toJson.write = .ok r.restart) ∧
      (r.restart = r ↔
        r.base.msgId = .int 0 ∧ r.base.timestamp = .int 0 ∧ r.base.sourceId = .int 0) := by
  obtain ⟨d, hd, hread, hshort⟩ := InsertDocument.toRequest_ofRequest hplain
  refine ⟨d, hd, ?_, ?_, restart_eq_self_iff⟩
  · intro text htext
    rw [InsertDocument.readInsertRequest_of_read? htext, hread]
  · intro h
    have htext := InsertDocument.read?_write (hshort h)
    exact ⟨htext, (InsertDocument.readInsertRequest_of_read? htext).trans hread⟩

/-- An insert of one row of floats, with a new message. -/
def newInsert : InsertRequest where
  base := { msgType := .insert }
  collectionName := .text "books"
  partitionName := .text "_default"
  numRows := .int 1
  fieldsData := [⟨.text "vector", .floatVector, .vectors ⟨.int 2, .floats [Binary.zero, .nan]⟩⟩]

theorem newInsert_isPlain (base : MsgBase) : IsPlain { newInsert with base } :=
  .intro base "books" "_default" "" 1
    (List.forall_mem_singleton.mpr ⟨⟨"vector", rfl⟩, .floats 2 [Binary.zero, .nan]⟩)

theorem newInsert_isShort (base : MsgBase) : IsShort { newInsert with base } := by
  have hone : Integer.IsShort 1 :=
    Integer.isShort_of_lt (by decide) (by decide) (by decide : 1 < 10 ^ 1)
  have htwo : Integer.IsShort 2 :=
    Integer.isShort_of_lt (by decide) (by decide) (by decide : 2 < 10 ^ 1)
  refine ⟨?_, List.forall_mem_singleton.mpr ⟨?_, ?_⟩⟩
  · rintro rows ⟨⟩
    exact hone
  · rintro dim ⟨⟩
    exact htwo
  · rintro components ⟨⟩
    exact htwo

section

attribute [local instance] OtherArrays.absent

/-- A request whose message is new comes back from its text. -/
theorem document_keeps_new_message :
    ∃ d, InsertDocument.ofRequest newInsert = .ok d ∧
      readInsertRequest d.toJson.write = .ok newInsert := by
  obtain ⟨d, hd, -, hwritten, hkept⟩ :=
    document_keeps_all_but_start (newInsert_isPlain { msgType := .insert })
  have hsame : newInsert.restart = newInsert := hkept.mpr ⟨rfl, rfl, rfl⟩
  refine ⟨d, hd, ?_⟩
  rw [← hsame]
  exact (hwritten (newInsert_isShort _)).2

/-- A message with the identifier seven comes back from its text without it. -/
theorem document_loses_identifier :
    ∃ d, InsertDocument.ofRequest
        { newInsert with base := { msgType := .insert, msgId := .int 7 } } = .ok d ∧
      Json.read? d.toJson.write = some d.toJson ∧
      readInsertRequest d.toJson.write = .ok newInsert ∧
      readInsertRequest d.toJson.write ≠
        .ok { newInsert with base := { msgType := .insert, msgId := .int 7 } } := by
  obtain ⟨d, hd, hread, hshort⟩ := InsertDocument.toRequest_ofRequest
    (newInsert_isPlain { msgType := .insert, msgId := .int 7 })
  have htext := InsertDocument.read?_write (hshort (newInsert_isShort _))
  have hback : readInsertRequest d.toJson.write = .ok newInsert :=
    (InsertDocument.readInsertRequest_of_read? htext).trans hread
  refine ⟨d, hd, htext, hback, ?_⟩
  rw [hback]
  nofun

end

end InsertRequest

end VectorRequests
