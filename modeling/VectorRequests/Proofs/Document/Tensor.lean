/-
# Documents of tensors are read back

The document of a tensor holds its bytes, the name of its type and its shape, and that is all
a tensor is made of. A tensor is read back if it is an array, as every typed array of a column
is: its type is one of those that go by names, and its shape is within the limits. Whatever is
read of any document is an array, and uses up the bytes of the document.
-/

import VectorRequests.Document.Column
import VectorRequests.Column.Kind
import VectorRequests.Proofs.Document.Checked
import VectorRequests.Proofs.Encoding.Base64
import VectorRequests.Proofs.Json.RoundTrip
import VectorRequests.Proofs.Number.Buffer

namespace VectorRequests

open Document

/-! ## Names -/

/-- Only standard types go by names, and cells of one byte by names without an order. -/
theorem ElementType.of_ofName? {s : String} {type : ElementType} {order : ByteOrder}
    (h : ofName? s = some (type, order)) :
    type ∈ standard ∧ (type.byteCount = 1 → order = .little) := by
  have hplain : ∀ p ∈ plainNames ++ shortNames, p.2 ∈ standard := by decide
  have hshort : ∀ p ∈ shortNames, p.2 ∈ standard := by decide
  unfold ofName? at h
  split at h
  next found hfound =>
    cases h
    obtain ⟨_, _, hsplit, -⟩ := List.lookup_eq_some_iff.mp hfound
    exact ⟨hplain (s, _) (by simp [hsplit]), fun _ => rfl⟩
  next =>
    split at h
    · cases h
    next mark rest _ =>
      obtain ⟨marked, -, hrest⟩ := Option.bind_eq_some_iff.mp h
      obtain ⟨found, hfound, hpair⟩ := Option.bind_eq_some_iff.mp hrest
      cases hpair
      obtain ⟨_, _, hsplit, -⟩ := List.lookup_eq_some_iff.mp hfound
      exact ⟨hshort (String.ofList rest, _) (by simp [hsplit]), fun hbyte => if_pos hbyte⟩

/-- The type and the order of an array are found by its name. -/
theorem Tensor.IsArray.ofName?_typeName {t : Tensor} (h : t.IsArray) :
    ElementType.ofName? t.typeName = some (t.type, t.order) := by
  -- The name depends on the type and the order alone, so an empty tensor of both stands for all.
  have hname : ∀ type ∈ ElementType.standard, ∀ order ∈ [ByteOrder.little, .big],
      (type.byteCount = 1 → order = .little) →
        ElementType.ofName? (typeName ⟨type, order, [0], [], rfl⟩) = some (type, order) := by
    decide
  have horder : t.order ∈ [ByteOrder.little, .big] := by cases t.order <;> simp
  exact hname _ h.standard _ horder h.order

theorem NumericKind.elementType_mem_standard (kind : NumericKind) :
    kind.elementType ∈ ElementType.standard := by
  cases kind <;> decide

/-! ## Documents -/

namespace TensorDocument

/-- The written document of a tensor passes the check. -/
theorem check_toJson (d : TensorDocument) : check d.toJson.toValue = .ok d := by
  have hshape : checkList checkInt (Json.list (d.shape.map .int)).toValue = .ok d.shape := by
    show Checked.collect checkInt 0 (Json.itemsToValues (d.shape.map .int)) = _
    rw [itemsToValues_map]
    exact collect_map 0 fun i _ => checkInt_int i
  have hentries : d.toJson.toValue = .mapping
      [(.text "b64", .text d.b64), (.text "dtype", .text d.dtype),
        (.text "shape", (Json.list (d.shape.map .int)).toValue)] := rfl
  rw [check, hentries, checkObject_mapping, Checked.andThen,
    required_of_lookup (by simp [lookup]) (checkText_text d.b64),
    required_of_lookup (by simp [lookup]) (checkText_text d.dtype),
    required_of_lookup (by simp [lookup]) hshape]
  rfl

/-- Integers of a list are read back if none of them is too long. -/
theorem itemsReadable_ints {depth : Nat} {is : List Int} (h : ∀ i ∈ is, Text.Integer.IsShort i) :
    Json.ItemsReadable depth (is.map .int) := by
  induction is with
  | nil => exact trivial
  | cons i is ih =>
      obtain ⟨hi, his⟩ := List.forall_mem_cons.mp h
      exact ⟨hi, ih his⟩

/-- A text that holds the document of a tensor can be read if its shape can. -/
theorem readable_toJson {d : TensorDocument} (depth : Nat)
    (h : ∀ n ∈ d.shape, Text.Integer.IsShort n) : Json.Readable (depth + 2) d.toJson :=
  ⟨trivial, trivial, itemsReadable_ints h, trivial⟩

/-- A document is read part by part. -/
theorem toTensor_eq_ok_iff {d : TensorDocument} {t : Tensor} :
    d.toTensor = .ok t ↔
      ∃ bs type order, Base64.decode false d.b64 = .ok bs ∧
        ElementType.ofName? d.dtype = some (type, order) ∧
        Tensor.ofBytes? type order d.shape bs = some t := by
  unfold toTensor
  cases hbytes : Base64.decode false d.b64 with
  | error fault => exact iff_of_false nofun nofun
  | ok bs =>
      cases hname : ElementType.ofName? d.dtype with
      | none => exact iff_of_false nofun nofun
      | some named =>
          obtain ⟨type, order⟩ := named
          cases hread : Tensor.ofBytes? type order d.shape bs with
          | none =>
              refine iff_of_false ?_ ?_
              · simp [hread, bind, Except.bind, throw, throwThe, MonadExceptOf.throw]
              · rintro ⟨_, _, _, ⟨⟩, ⟨⟩, hsome⟩
                cases hread.symm.trans hsome
          | some found =>
              constructor
              · intro h
                simp only [hread, bind, Except.bind, pure, Except.pure, Except.ok.injEq] at h
                subst h
                exact ⟨bs, type, order, rfl, rfl, hread⟩
              · rintro ⟨_, _, _, ⟨⟩, ⟨⟩, hsome⟩
                cases hread.symm.trans hsome
                simp only [hread, bind, Except.bind, pure, Except.pure]

/-- An array is read back from its document. -/
theorem toTensor_ofTensor {t : Tensor} (h : t.IsArray) : toTensor (ofTensor t) = .ok t := by
  have hdecode : Base64.decode false (ofTensor t).b64 = .ok t.toBytes :=
    Base64.decode_encode false t.toBytes
  exact toTensor_eq_ok_iff.mpr ⟨_, _, _, hdecode, h.ofName?_typeName, h.ofBytes?_toBytes⟩

/-- The typed array of a column is read back from its document. -/
theorem toTensor_flat (kind : NumericKind) (cells : List kind.elementType.Cell) :
    toTensor (ofTensor (Tensor.flat kind.elementType cells)) =
      .ok (Tensor.flat kind.elementType cells) :=
  toTensor_ofTensor (Tensor.isArray_flat kind.elementType_mem_standard cells)

/-- What is read is an array, and holds all of the bytes in the shape that was asked for. -/
theorem isArray_of_toTensor {d : TensorDocument} {t : Tensor} (h : d.toTensor = .ok t) :
    t.IsArray ∧ ElementType.ofName? d.dtype = some (t.type, t.order) ∧
      ∃ bs, Base64.decode false d.b64 = .ok bs ∧ t.ReadFrom d.shape bs := by
  obtain ⟨bs, type, order, hbytes, hname, hread⟩ := toTensor_eq_ok_iff.mp h
  obtain ⟨hstandard, horder⟩ := ElementType.of_ofName? hname
  have hpos := ElementType.byteCount_pos (ElementType.fillsBytes_of_mem_standard _ hstandard)
  obtain ⟨rfl, rfl, hholds, hfits⟩ := Tensor.readFrom_of_ofBytes? hpos hread
  exact ⟨Tensor.isArray_of_readFrom hholds hstandard horder hfits, hname, bs, hbytes, hholds⟩

/-! ## Arrays of other element types -/

section

variable [OtherArrays] {d : TensorDocument}

/-- What comes of reading a document as an array of an element type that tensors do not have. -/
def ReadsOther (d : TensorDocument) (result : Except Fault OtherArrays.Array) : Prop :=
  ElementType.ofName? d.dtype = none ∧
    ∃ bs, Base64.decode false d.b64 = .ok bs ∧ OtherArrays.read d.dtype d.shape bs = result

theorem toArray_of_toTensor {t : Tensor} (h : d.toTensor = .ok t) : d.toArray = .ok (.inl t) := by
  obtain ⟨bs, type, order, -, hname, -⟩ := toTensor_eq_ok_iff.mp h
  rw [toArray, hname, h]
  rfl

theorem toArray_of_readsOther {result : Except Fault OtherArrays.Array}
    (h : d.ReadsOther result) : d.toArray = result.map .inr := by
  obtain ⟨hname, bs, hbytes, rfl⟩ := h
  rw [toArray, hname, hbytes]
  cases hread : OtherArrays.read d.dtype d.shape bs with
  | error fault => simp [hread, bind, Except.bind, Except.map]
  | ok a => simp [hread, bind, Except.bind, Except.map, pure, Except.pure]

/-- What is read as a tensor is not read as another array. -/
theorem not_readsOther_of_toTensor {t : Tensor} (h : d.toTensor = .ok t)
    (result : Except Fault OtherArrays.Array) : ¬ d.ReadsOther result := by
  rintro ⟨hname, -⟩
  obtain ⟨_, _, _, -, hsome, -⟩ := toTensor_eq_ok_iff.mp h
  cases hname.symm.trans hsome

/-- The array of a document is a tensor, an array of another type, or there is none because the
bytes are no base64 or do not make a tensor. -/
theorem toArray_cases (d : TensorDocument) :
    (∃ t, d.toTensor = .ok t) ∨ (∃ result, d.ReadsOther result) ∨
      ∃ cause, d.toTensor = .error cause ∧ d.toArray = .error cause := by
  cases hname : ElementType.ofName? d.dtype with
  | some named =>
      cases hread : d.toTensor with
      | ok t => exact .inl ⟨t, rfl⟩
      | error cause =>
          refine .inr (.inr ⟨cause, rfl, ?_⟩)
          rw [toArray, hname, hread]
          rfl
  | none =>
      cases hbytes : Base64.decode false d.b64 with
      | ok bs => exact .inr (.inl ⟨_, hname, bs, hbytes, rfl⟩)
      | error cause =>
          refine .inr (.inr ⟨cause, ?_, ?_⟩)
          · rw [toTensor, hbytes]
            rfl
          · rw [toArray, hname, hbytes]
            rfl

/-- The array that is read of a document is its tensor or one of another type. -/
theorem toArray_eq_ok_cases {a : Tensor ⊕ OtherArrays.Array} (h : d.toArray = .ok a) :
    (∃ t, d.toTensor = .ok t ∧ a = .inl t) ∨ ∃ b, d.ReadsOther (.ok b) ∧ a = .inr b := by
  obtain ⟨t, ht⟩ | ⟨result, hread⟩ | ⟨cause, -, hnone⟩ := toArray_cases d
  · cases h.symm.trans (toArray_of_toTensor ht)
    exact .inl ⟨t, ht, rfl⟩
  · cases result with
    | ok b =>
        cases h.symm.trans (toArray_of_readsOther hread)
        exact .inr ⟨b, hread, rfl⟩
    | error fault => cases h.symm.trans (toArray_of_readsOther hread)
  · cases h.symm.trans hnone

/-- An array that is not read is one of another type, or it makes no tensor. -/
theorem toArray_eq_error_cases {cause : Fault} (h : d.toArray = .error cause) :
    d.ReadsOther (.error cause) ∨ d.toTensor = .error cause := by
  obtain ⟨t, ht⟩ | ⟨result, hread⟩ | ⟨cause', hnone, harray⟩ := toArray_cases d
  · cases h.symm.trans (toArray_of_toTensor ht)
  · cases result with
    | ok b => cases h.symm.trans (toArray_of_readsOther hread)
    | error fault =>
        cases h.symm.trans (toArray_of_readsOther hread)
        exact .inl hread
  · cases h.symm.trans harray
    exact .inr hnone

/-- Whatever array there is, its bytes are there. -/
theorem exists_decode_of_toArray {a : Tensor ⊕ OtherArrays.Array} (h : d.toArray = .ok a) :
    ∃ bs, Base64.decode false d.b64 = .ok bs := by
  obtain ⟨t, ht, -⟩ | ⟨b, ⟨-, bs, hbytes, -⟩, -⟩ := toArray_eq_ok_cases h
  · obtain ⟨bs, _, _, hbytes, -⟩ := toTensor_eq_ok_iff.mp ht
    exact ⟨bs, hbytes⟩
  · exact ⟨bs, hbytes⟩

theorem arrayOf_eq_ok_iff {a : Tensor ⊕ OtherArrays.Array} {column : Value} :
    arrayOf column d = .ok a ↔ d.toArray = .ok a := by
  unfold arrayOf
  cases d.toArray with
  | ok b => simp
  | error cause =>
      cases hcause : isReported cause <;> simp [hcause, Error.fail]

end

/-- No element is lost between arrays and their documents. A tensor is read back from its document,
with its type, its byte order, its shape and its elements, exactly if it is an array. Whatever
document is read as a tensor, this is an array of the type that the document names, it has as many
bytes as the document holds, and integers have exactly these bytes; the shape is the one of the
document, where a negative number may stand for any dimension. -/
theorem documents_keep_elements :
    (∀ t : Tensor, (ofTensor t).toTensor = .ok t ↔ t.IsArray) ∧
      ∀ (d : TensorDocument) (t : Tensor), d.toTensor = .ok t →
        t.IsArray ∧ ElementType.ofName? d.dtype = some (t.type, t.order) ∧
          ∃ bs, Base64.decode false d.b64 = .ok bs ∧ t.ReadFrom d.shape bs := by
  refine ⟨fun t => ⟨?_, toTensor_ofTensor⟩, fun _ _ => isArray_of_toTensor⟩
  intro hback
  exact (isArray_of_toTensor hback).1

/-! ### Big-endian integers -/

/-- Four integers of two bytes each, in two rows. -/
def shorts : Tensor where
  type := .int .int16
  order := .big
  shape := [2, 2]
  cells := [1#16, 65535#16, 2#16, 32768#16]
  length_cells := rfl

/-- Their bytes stand in big-endian order, also if the second dimension is left open. -/
theorem shorts_keep_elements :
    (ofTensor shorts).toTensor = .ok shorts ∧
      toTensor ⟨"AAH//wACgAA=", ">i2", [2, -1]⟩ = .ok shorts ∧
      Base64.decode false "AAH//wACgAA=" = .ok shorts.toBytes ∧
      cellCount shorts.shape * shorts.type.byteCount = shorts.toBytes.length := by
  obtain ⟨hback, hread⟩ := documents_keep_elements
  have harray : shorts.IsArray := ⟨by decide, nofun, by decide, nofun⟩
  have hencode : Base64.encode shorts.toBytes = "AAH//wACgAA=" := by decide +kernel
  have hdecode : Base64.decode false "AAH//wACgAA=" = .ok shorts.toBytes :=
    hencode ▸ Base64.decode_encode false shorts.toBytes
  have hname : ElementType.ofName? ">i2" = some (.int .int16, .big) := by decide
  have hopen : toTensor ⟨"AAH//wACgAA=", ">i2", [2, -1]⟩ = .ok shorts :=
    toTensor_eq_ok_iff.mpr ⟨_, _, _, hdecode, hname, rfl⟩
  obtain ⟨-, -, bs, hbytes, hholds⟩ := hread _ shorts hopen
  have hall : shorts.toBytes = bs := hholds.integers .int16 rfl
  exact ⟨(hback shorts).mpr harray, hopen, hall ▸ hbytes, hall ▸ hholds.size⟩

end TensorDocument

end VectorRequests
