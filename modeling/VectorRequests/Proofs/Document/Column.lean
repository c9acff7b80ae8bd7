/-
# Documents of columns are read back

Every document passes the check of its model after it has been written, whatever its parts
are. The document of a column keeps apart which form of a payload it holds, so the payload is
read back in the same form: scalars by the name of their kind, vectors by the part that is
there.
-/

import VectorRequests.Document.Text
import VectorRequests.Proofs.Column.Cells
import VectorRequests.Proofs.Document.Tensor
import VectorRequests.Proofs.Json.RoundTrip

namespace VectorRequests

open Document Text

/-! ## Written documents pass their checks -/

theorem readable_optional {α : Type} {depth : Nat} {f : α → Json} {part : Option α}
    (h : ∀ a, part = some a → Json.Readable depth (f a)) :
    Json.Readable depth (Json.optional f part) := by
  cases part with
  | none => cases depth <;> exact trivial
  | some a => exact h a rfl

theorem itemsReadable_texts {depth : Nat} (texts : List String) :
    Json.ItemsReadable depth (texts.map .text) := by
  induction texts with
  | nil => exact trivial
  | cons s texts ih => exact ⟨by cases depth <;> exact trivial, ih⟩

namespace ScalarsDocument

/-- A document whose integers are no longer than readers take. -/
def IsShort (d : ScalarsDocument) : Prop :=
  ∀ t, d.numeric = some t → ∀ n ∈ t.shape, Integer.IsShort n

theorem check_toJson (d : ScalarsDocument) : check d.toJson.toValue = .ok d := by
  have hnumeric : checkOptional TensorDocument.check
      (Json.optional TensorDocument.toJson d.numeric).toValue = .ok d.numeric :=
    checkOptional_optional fun t _ => ⟨nofun, t.check_toJson⟩
  have hstrings : checkOptional (checkList checkText)
      (Json.optional Json.texts d.strings).toValue = .ok d.strings := by
    refine checkOptional_optional fun texts _ => ⟨nofun, ?_⟩
    show Checked.collect checkText 0 (Json.itemsToValues (texts.map .text)) = _
    rw [itemsToValues_map]
    exact collect_map 0 fun s _ => checkText_text s
  have hentries : d.toJson.toValue = .mapping
      [(.text "kind", .text d.kind),
        (.text "numeric", (Json.optional TensorDocument.toJson d.numeric).toValue),
        (.text "strings", (Json.optional Json.texts d.strings).toValue)] := rfl
  rw [check, hentries, checkObject_mapping, Checked.andThen,
    required_of_lookup (by simp [lookup]) (checkText_text d.kind),
    optional_of_lookup (by simp [lookup]) hnumeric,
    optional_of_lookup (by simp [lookup]) hstrings]
  rfl

theorem readable_toJson {d : ScalarsDocument} (depth : Nat) (h : d.IsShort) :
    Json.Readable (depth + 3) d.toJson := by
  have hnumeric : Json.Readable (depth + 2) (Json.optional TensorDocument.toJson d.numeric) :=
    readable_optional fun t ht => t.readable_toJson depth (h t ht)
  have hstrings : Json.Readable (depth + 2) (Json.optional Json.texts d.strings) :=
    readable_optional fun texts _ => itemsReadable_texts texts
  exact ⟨trivial, hnumeric, hstrings, trivial⟩

end ScalarsDocument

namespace VectorsDocument

/-- A document whose integers are no longer than readers take. -/
def IsShort (d : VectorsDocument) : Prop :=
  Integer.IsShort d.dim ∧ ∀ t, d.floatVector = some t → ∀ n ∈ t.shape, Integer.IsShort n

theorem check_toJson (d : VectorsDocument) : check d.toJson.toValue = .ok d := by
  have hfloats : checkOptional TensorDocument.check
      (Json.optional TensorDocument.toJson d.floatVector).toValue = .ok d.floatVector :=
    checkOptional_optional fun t _ => ⟨nofun, t.check_toJson⟩
  have hpacked : checkOptional checkText (Json.optional .text d.binaryVector).toValue =
      .ok d.binaryVector :=
    checkOptional_optional fun s _ => ⟨nofun, checkText_text s⟩
  have hentries : d.toJson.toValue = .mapping
      [(.text "dim", .int d.dim),
        (.text "float_vector", (Json.optional TensorDocument.toJson d.floatVector).toValue),
        (.text "binary_vector", (Json.optional .text d.binaryVector).toValue)] := rfl
  rw [check, hentries, checkObject_mapping, Checked.andThen,
    required_of_lookup (by simp [lookup]) (checkInt_int d.dim),
    optional_of_lookup (by simp [lookup]) hfloats,
    optional_of_lookup (by simp [lookup]) hpacked]
  rfl

theorem readable_toJson {d : VectorsDocument} (depth : Nat) (h : d.IsShort) :
    Json.Readable (depth + 3) d.toJson := by
  have hfloats : Json.Readable (depth + 2) (Json.optional TensorDocument.toJson d.floatVector) :=
    readable_optional fun t ht => t.readable_toJson depth (h.2 t ht)
  have hpacked : Json.Readable (depth + 2) (Json.optional .text d.binaryVector) :=
    readable_optional fun _ _ => trivial
  exact ⟨h.1, hfloats, hpacked, trivial⟩

end VectorsDocument

namespace ColumnDocument

/-- A document whose integers are no longer than readers take. -/
def IsShort (d : ColumnDocument) : Prop :=
  (∀ s, d.scalars = some s → s.IsShort) ∧ ∀ v, d.vectors = some v → v.IsShort

/-- The written document of a column passes the check. -/
theorem check_toJson (d : ColumnDocument) : check d.toJson.toValue = .ok d := by
  have hscalars : checkOptional ScalarsDocument.check
      (Json.optional ScalarsDocument.toJson d.scalars).toValue = .ok d.scalars :=
    checkOptional_optional fun s _ => ⟨nofun, s.check_toJson⟩
  have hvectors : checkOptional VectorsDocument.check
      (Json.optional VectorsDocument.toJson d.vectors).toValue = .ok d.vectors :=
    checkOptional_optional fun v _ => ⟨nofun, v.check_toJson⟩
  have hentries : d.toJson.toValue = .mapping
      [(.text "field_name", .text d.name), (.text "type", .text d.type),
        (.text "scalars", (Json.optional ScalarsDocument.toJson d.scalars).toValue),
        (.text "vectors", (Json.optional VectorsDocument.toJson d.vectors).toValue)] := rfl
  rw [check, hentries, checkObject_mapping, Checked.andThen,
    required_of_lookup (by simp [lookup]) (checkText_text d.name),
    required_of_lookup (by simp [lookup]) (checkText_text d.type),
    optional_of_lookup (by simp [lookup]) hscalars,
    optional_of_lookup (by simp [lookup]) hvectors]
  rfl

theorem readable_toJson {d : ColumnDocument} (depth : Nat) (h : d.IsShort) :
    Json.Readable (depth + 4) d.toJson := by
  have hscalars : Json.Readable (depth + 3) (Json.optional ScalarsDocument.toJson d.scalars) :=
    readable_optional fun s hs => s.readable_toJson depth (h.1 s hs)
  have hvectors : Json.Readable (depth + 3) (Json.optional VectorsDocument.toJson d.vectors) :=
    readable_optional fun v hv => v.readable_toJson depth (h.2 v hv)
  exact ⟨trivial, trivial, hscalars, hvectors, trivial⟩

/-- Any text that holds the document of a column is read as that column. -/
theorem readFieldData_of_read? [OtherArrays] {d : ColumnDocument} {text : String}
    (h : Json.read? text = some d.toJson) : readFieldData text = d.toFieldData := by
  rw [readFieldData, Document.read, h]
  simp only [d.check_toJson, toOutcome_ok, Outcome.ok_bind]

end ColumnDocument

/-! ## Payloads -/

/-- A payload that JSON has the means for: its strings are texts and its dimension is an
integer. -/
inductive Payload.IsPlain : Payload → Prop
  | numeric (kind : NumericKind) (cells : List kind.elementType.Cell) :
      IsPlain (.scalars (.numeric kind cells))
  | strings (texts : List String) : IsPlain (.scalars (.strings (texts.map .text)))
  | floats (dim : Int) (components : List Single) :
      IsPlain (.vectors ⟨.int dim, .floats components⟩)
  | packed (dim : Int) (bytes : List UInt8) : IsPlain (.vectors ⟨.int dim, .packed bytes⟩)

/-- A payload whose dimension and number of cells are integers that readers take. -/
def Payload.IsShort : Payload → Prop
  | .scalars (.numeric _ cells) => Integer.IsShort cells.length
  | .scalars (.strings _) => True
  | .vectors v => (∀ dim, v.dim = .int dim → Integer.IsShort dim) ∧
    ∀ components, v.payload = .floats components → Integer.IsShort components.length

namespace Document

variable {column : Value}

theorem member_of_ofName? {α : Type} {vocabulary : Vocabulary} {ofName? : String → Option α}
    {name : String} {a : α} (h : ofName? name = some a) :
    member vocabulary ofName? name = .ok a := by
  rw [member, h]

theorem arrayOf_flat [OtherArrays] (kind : NumericKind) (cells : List kind.elementType.Cell) :
    arrayOf column (TensorDocument.ofTensor (Tensor.flat kind.elementType cells)) =
      .ok (.inl (Tensor.flat kind.elementType cells)) :=
  TensorDocument.arrayOf_eq_ok_iff.mpr
    (TensorDocument.toArray_of_toTensor (TensorDocument.toTensor_flat kind cells))

/-- The typed array of a column is stored as it is. -/
theorem storeArray_flat [OtherArrays] (kind : NumericKind) (cells : List kind.elementType.Cell) :
    storeArray kind.elementType (.inl (Tensor.flat kind.elementType cells)) = .ok cells :=
  Cells.store_flat kind.elementType cells

theorem bytesOf_encode (bytes : List UInt8) :
    bytesOf column (Base64.encode bytes) = .ok bytes := by
  rw [bytesOf, Base64.decode_encode]

end Document

namespace ColumnDocument

variable [OtherArrays]

/-- Numbers are documented and read back. -/
theorem readScalars_numeric (column : Value) (kind : NumericKind)
    (cells : List kind.elementType.Cell) :
    ∃ d, ScalarsDocument.ofScalars (.numeric kind cells) = .ok d ∧
      readScalars column d = .ok (.numeric kind cells) ∧
      (Integer.IsShort cells.length → d.IsShort) := by
  have hkind : member .scalarKind ScalarKind.ofName? (ScalarKind.numeric kind).name =
      .ok (.numeric kind) := member_of_ofName? (ScalarKind.ofName?_name _)
  refine ⟨_, rfl, ?_, ?_⟩
  · rw [readScalars, hkind, Outcome.ok_bind]
    simp only [arrayOf_flat, Outcome.ok_bind, storeArray_flat, Outcome.pure_eq_ok]
  · rintro hshort t ⟨⟩
    exact List.forall_mem_singleton.mpr hshort

/-- Texts are documented and read back. -/
theorem readScalars_strings (column : Value) (texts : List String) :
    ∃ d, ScalarsDocument.ofScalars (.strings (texts.map .text)) = .ok d ∧
      readScalars column d = .ok (.strings (texts.map .text)) ∧ d.IsShort := by
  have hcheck : checkList checkText (.list (texts.map .text)) = .ok texts :=
    collect_map 0 fun s _ => checkText_text s
  have hkind : member .scalarKind ScalarKind.ofName? ScalarKind.string.name = .ok .string :=
    member_of_ofName? (ScalarKind.ofName?_name _)
  refine ⟨⟨ScalarKind.string.name, none, some texts⟩, ?_, ?_, nofun⟩
  · rw [ScalarsDocument.ofScalars, hcheck]
    rfl
  · rw [readScalars, hkind, Outcome.ok_bind]
    rfl

/-- A block of floats is documented and read back. -/
theorem readVectors_floats (column : Value) (dim : Int) (components : List Single) :
    ∃ d, VectorsDocument.ofVectors ⟨.int dim, .floats components⟩ = .ok d ∧
      readVectors column d = .ok ⟨.int dim, .floats components⟩ ∧
      (Integer.IsShort dim → Integer.IsShort components.length → d.IsShort) := by
  have harray : arrayOf column
      (TensorDocument.ofTensor (Tensor.flat (.float .single) components)) =
        .ok (.inl (Tensor.flat (.float .single) components)) := arrayOf_flat .float components
  have hstore : storeArray (.float .single)
      (.inl (Tensor.flat (.float .single) components)) = .ok components :=
    storeArray_flat .float components
  have hread : readVectors column ⟨dim, some (TensorDocument.ofTensor
      (Tensor.flat (.float .single) components)), none⟩ = .ok ⟨.int dim, .floats components⟩ :=
    Outcome.bind_eq_ok.mpr ⟨_, harray, Outcome.bind_eq_ok.mpr ⟨_, hstore, rfl⟩⟩
  refine ⟨_, rfl, hread, fun hdim hshort => ⟨hdim, ?_⟩⟩
  rintro t ⟨⟩
  exact List.forall_mem_singleton.mpr hshort

/-- A block of packed bits is documented and read back. -/
theorem readVectors_packed (column : Value) (dim : Int) (bytes : List UInt8) :
    ∃ d, VectorsDocument.ofVectors ⟨.int dim, .packed bytes⟩ = .ok d ∧
      readVectors column d = .ok ⟨.int dim, .packed bytes⟩ ∧
      (Integer.IsShort dim → d.IsShort) :=
  ⟨_, rfl, Outcome.bind_eq_ok.mpr ⟨bytes, bytesOf_encode bytes, rfl⟩, fun hdim => ⟨hdim, nofun⟩⟩

/-- A plain payload is documented and read back. -/
theorem readPayload_ofPayload (name type : String) {payload : Payload} (h : payload.IsPlain) :
    ∃ scalars vectors, ofPayload payload = .ok (scalars, vectors) ∧
      readPayload ⟨name, type, scalars, vectors⟩ = .ok payload ∧
      (payload.IsShort → IsShort ⟨name, type, scalars, vectors⟩) := by
  cases h with
  | numeric kind cells =>
      obtain ⟨d, hd, hread, hshort⟩ := readScalars_numeric (.text name) kind cells
      refine ⟨some d, none, Outcome.bind_eq_ok.mpr ⟨d, hd, rfl⟩,
        Outcome.bind_eq_ok.mpr ⟨_, hread, rfl⟩, fun h => ⟨?_, nofun⟩⟩
      rintro _ ⟨⟩
      exact hshort h
  | strings texts =>
      obtain ⟨d, hd, hread, hshort⟩ := readScalars_strings (.text name) texts
      refine ⟨some d, none, Outcome.bind_eq_ok.mpr ⟨d, hd, rfl⟩,
        Outcome.bind_eq_ok.mpr ⟨_, hread, rfl⟩, fun _ => ⟨?_, nofun⟩⟩
      rintro _ ⟨⟩
      exact hshort
  | floats dim components =>
      obtain ⟨d, hd, hread, hshort⟩ := readVectors_floats (.text name) dim components
      refine ⟨none, some d, Outcome.bind_eq_ok.mpr ⟨d, hd, rfl⟩,
        Outcome.bind_eq_ok.mpr ⟨_, hread, rfl⟩, fun h => ⟨nofun, ?_⟩⟩
      rintro _ ⟨⟩
      exact hshort (h.1 dim rfl) (h.2 components rfl)
  | packed dim bytes =>
      obtain ⟨d, hd, hread, hshort⟩ := readVectors_packed (.text name) dim bytes
      refine ⟨none, some d, Outcome.bind_eq_ok.mpr ⟨d, hd, rfl⟩,
        Outcome.bind_eq_ok.mpr ⟨_, hread, rfl⟩, fun h => ⟨nofun, ?_⟩⟩
      rintro _ ⟨⟩
      exact hshort (h.1 dim rfl)

/-- A column with a text as its name and a plain payload is documented and read back. -/
theorem toFieldData_ofFieldData (s : String) (type : DataType) {payload : Payload}
    (h : payload.IsPlain) :
    ∃ d, ofFieldData ⟨.text s, type, payload⟩ = .ok d ∧
      d.toFieldData = .ok ⟨.text s, type, payload⟩ ∧ (payload.IsShort → d.IsShort) := by
  obtain ⟨scalars, vectors, hparts, hread, hshort⟩ := readPayload_ofPayload s type.name h
  have htype : member .dataType DataType.ofName? type.name = .ok type :=
    member_of_ofName? type.ofName?_name
  refine ⟨⟨s, type.name, scalars, vectors⟩, ?_, ?_, hshort⟩
  · rw [ofFieldData, hparts]
    rfl
  · rw [toFieldData, hread, Outcome.ok_bind]
    exact Outcome.bind_eq_ok.mpr ⟨type, htype, rfl⟩

end ColumnDocument

namespace FieldData

section

variable [OtherArrays]

/-- The document of a column is read back as the column: from every text that holds the
document, and from the text that is written for it, if a reader takes its integers. Name and
strings of the column must be texts and its dimension an integer; its type and its payload may
be anything else. -/
theorem document_reads_back {c : FieldData} {name : String} (hname : c.name = .text name)
    (hplain : c.payload.IsPlain) :
    ∃ d, ColumnDocument.ofFieldData c = .ok d ∧
      (∀ text, Json.read? text = some d.toJson → readFieldData text = .ok c) ∧
      (c.payload.IsShort →
        Json.read? d.toJson.write = some d.toJson ∧ readFieldData d.toJson.write = .ok c) := by
  obtain ⟨given, type, payload⟩ := c
  cases hname
  obtain ⟨d, hd, hread, hshort⟩ := ColumnDocument.toFieldData_ofFieldData name type hplain
  refine ⟨d, hd, ?_, ?_⟩
  · intro text htext
    rw [ColumnDocument.readFieldData_of_read? htext, hread]
  · intro h
    have htext : Json.read? d.toJson.write = some d.toJson :=
      Json.read?_write (ColumnDocument.readable_toJson _ (hshort h))
    refine ⟨htext, ?_⟩
    rw [ColumnDocument.readFieldData_of_read? htext, hread]

end

section

attribute [local instance] OtherArrays.absent

/-- A block of floats under the type of another kind of column comes back from its text, with
the one not-a-number among them. -/
theorem document_reads_back_floats :
    ∃ d, ColumnDocument.ofFieldData
        ⟨.text "vector", .int64, .vectors ⟨.int 2, .floats [Binary.zero, .nan]⟩⟩ = .ok d ∧
      readFieldData d.toJson.write =
        .ok ⟨.text "vector", .int64, .vectors ⟨.int 2, .floats [Binary.zero, .nan]⟩⟩ := by
  have htwo : Integer.IsShort 2 :=
    Integer.isShort_of_lt (by decide) (by decide) (by decide : 2 < 10 ^ 1)
  obtain ⟨d, hd, -, hshort⟩ := document_reads_back
    (c := ⟨.text "vector", .int64, .vectors ⟨.int 2, .floats [Binary.zero, .nan]⟩⟩) rfl
    (.floats 2 [Binary.zero, .nan])
  refine ⟨d, hd, (hshort ⟨?_, ?_⟩).2⟩
  · rintro dim ⟨⟩
    exact htwo
  · rintro components ⟨⟩
    exact htwo

end

end FieldData

end VectorRequests
