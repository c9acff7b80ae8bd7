/-
# Broken texts in documents

The bytes of an array are read leniently, and packed bytes strictly. So an array may be read from
a text that as packed bytes is malformed, and a column with it. This happens exactly for texts
that the lenient reader mends: it reads the characters that it keeps, as if the others were not
there. Arrays of all element types are read from their bytes alone, so it is enough to look at
those.
-/

import VectorRequests.Proofs.Document.Payload
import VectorRequests.Proofs.Encoding.Strictness

namespace VectorRequests

/-- The tensor that is read of a document: the numbers, where the kind of the scalars calls for
them, or the components of vectors. -/
inductive ColumnDocument.ReadsTensor (d : ColumnDocument) (n : TensorDocument) : Prop
  | numbers {scalars : ScalarsDocument} {kind : NumericKind} (hscalars : d.scalars = some scalars)
      (hkind : ScalarKind.ofName? scalars.kind = some (.numeric kind))
      (hnumeric : scalars.numeric = some n)
  | floats {vectors : VectorsDocument} (hscalars : d.scalars = none)
      (hvectors : d.vectors = some vectors) (hfloats : vectors.floatVector = some n)

/-! ## Bytes as a tensor -/

namespace Tensor

/-- Bytes as cells of eight bits. -/
def ofByteList (bs : List UInt8) : Tensor :=
  flat (.int .uint8) (bs.map UInt8.toBitVec)

theorem toBytes_ofByteList (bs : List UInt8) : (ofByteList bs).toBytes = bs := by
  have hcell (b : UInt8) : LittleEndian.encode 1 b.toBitVec.toNat = [b] := by
    show [UInt8.ofNat (b.toNat % 256)] = [b]
    rw [Nat.mod_eq_of_lt b.toNat_lt, UInt8.ofNat_toNat]
  show (bs.map UInt8.toBitVec).flatMap (fun w => LittleEndian.encode 1 w.toNat) = bs
  rw [List.flatMap_map]
  simp only [hcell, List.flatMap_singleton']

theorem typeName_ofByteList (bs : List UInt8) : (ofByteList bs).typeName = "uint8" := by
  show (ElementType.int .uint8).name = "uint8"
  decide

end Tensor

namespace TensorDocument

variable {n : TensorDocument} {text : String} {bs : List UInt8}

/-- Of the text only its bytes count. -/
theorem toTensor_congr {other : TensorDocument} (hdtype : other.dtype = n.dtype)
    (hshape : other.shape = n.shape)
    (hbytes : Base64.decode false other.b64 = Base64.decode false n.b64) :
    other.toTensor = n.toTensor := by
  rw [toTensor, toTensor, hdtype, hshape, hbytes]

theorem toArray_congr [OtherArrays] {other : TensorDocument} (hdtype : other.dtype = n.dtype)
    (hshape : other.shape = n.shape)
    (hbytes : Base64.decode false other.b64 = Base64.decode false n.b64) :
    other.toArray = n.toArray := by
  rw [toArray, toArray, toTensor_congr hdtype hshape hbytes, hdtype, hshape, hbytes]

/-- The document of the bytes that a text is read as. -/
def ofText (text : String) (bs : List UInt8) : TensorDocument where
  b64 := text
  dtype := "uint8"
  shape := [bs.length]

/-- Any text that is read makes a tensor. -/
theorem toTensor_ofText (h : Base64.decode false text = .ok bs) :
    (ofText text bs).toTensor = .ok (Tensor.ofByteList bs) := by
  have hwritten : (ofTensor (Tensor.ofByteList bs)).toTensor = .ok (Tensor.ofByteList bs) :=
    toTensor_ofTensor (Tensor.isArray_flat (by decide) _)
  rw [← hwritten]
  apply toTensor_congr
  · exact (Tensor.typeName_ofByteList bs).symm
  · show [(bs.length : Int)] = [((bs.map UInt8.toBitVec).length : Int)]
    rw [List.length_map]
  · have hbytes : Base64.decode false (ofTensor (Tensor.ofByteList bs)).b64 =
        .ok (Tensor.ofByteList bs).toBytes := Base64.decode_encode false _
    rw [hbytes, Tensor.toBytes_ofByteList]
    exact h

end TensorDocument

/-- What gives cells is an array. -/
theorem TensorDocument.Gives.exists_toArray [OtherArrays] {n : TensorDocument} {kind : NumericKind}
    {cells : List kind.elementType.Cell} (h : n.Gives kind cells) : ∃ a, n.toArray = .ok a := by
  cases h with
  | tensor hread => exact ⟨_, toArray_of_toTensor hread⟩
  | other hread => exact ⟨_, toArray_of_readsOther hread⟩

namespace ColumnDocument

/-- A column of integers with a tensor. -/
def ofNumbers (n : TensorDocument) : ColumnDocument where
  name := "id"
  type := "INT8"
  scalars := some ⟨"INT_DATA", some n, none⟩
  vectors := none

theorem readsTensor_ofNumbers (n : TensorDocument) : (ofNumbers n).ReadsTensor n := by
  have hkind : ScalarKind.ofName? "INT_DATA" = some (.numeric .int) := rfl
  exact .numbers rfl hkind rfl

variable [OtherArrays] {d : ColumnDocument} {n : TensorDocument}

/-- A column is read only if the array is that is read of its document. -/
theorem exists_toArray_of_toFieldData {c : FieldData} (hreads : d.ReadsTensor n)
    (h : d.toFieldData = .ok c) : ∃ a, n.toArray = .ok a := by
  obtain ⟨payload, hpayload, -⟩ := Outcome.bind_eq_ok.mp h
  cases hreads with
  | numbers hscalars hkind hnumeric =>
      rw [readPayload, hscalars] at hpayload
      obtain ⟨s, hs, -⟩ := Outcome.bind_eq_ok.mp hpayload
      obtain ⟨kind', n', cells, -, hn, hcells, -⟩ | ⟨hstring, -⟩ := of_readScalars hs
      · cases hnumeric.symm.trans hn
        exact hcells.exists_toArray
      · cases hkind.symm.trans hstring
  | floats hscalars hvectors hfloats =>
      rw [readPayload, hscalars, hvectors] at hpayload
      obtain ⟨v, hv, -⟩ := Outcome.bind_eq_ok.mp hpayload
      obtain ⟨n', cells, hn, hcells, -⟩ | ⟨text, bs, hnone, -⟩ := of_readVectors hv
      · cases hfloats.symm.trans hn
        exact hcells.exists_toArray
      · cases hfloats.symm.trans hnone

/-- Any tensor that is read makes a column. -/
theorem exists_toFieldData_ofNumbers {t : Tensor} (h : n.toTensor = .ok t) :
    ∃ c, (ofNumbers n).toFieldData = .ok c := by
  have htype : DataType.ofName? "INT8" = some .int8 := rfl
  have hkind : ScalarKind.ofName? "INT_DATA" = some (.numeric .int) := rfl
  refine ⟨_, toFieldData_of_carriesOne (.numbers htype hkind (.tensor h)) ?_⟩
  rintro (⟨s, hs, hfloat, -⟩ | ⟨hnone, -⟩)
  · cases hs
    cases hfloat
  · cases hnone

end ColumnDocument

namespace Base64

variable {text : String}

/-- A text that is read strictly is read leniently with the same bytes. -/
theorem eq_of_decode {bs bs' : List UInt8} (hstrict : decode true text = .ok bs)
    (hlenient : decode false text = .ok bs') : bs = bs' := by
  cases (decode_strict_iff.mp hstrict).1.symm.trans hlenient
  rfl

/-- A text that is malformed to the strict reader is mended by the lenient one, or malformed to
both. -/
theorem isMended_iff :
    IsMended text ↔ (∀ bs, decode true text ≠ .ok bs) ∧ ∃ bs, decode false text = .ok bs := by
  constructor
  · rintro ⟨hbroken, hread⟩
    exact ⟨fun bs hbs => hbroken (decode_strict_iff.mp hbs).2, hread⟩
  · rintro ⟨hmalformed, bs, hbs⟩
    refine ⟨fun hunbroken => hmalformed bs ?_, bs, hbs⟩
    exact decode_strict_iff.mpr ⟨hbs, hunbroken⟩

section

variable [OtherArrays]

/-- The readers are equally strict on a text: where it is malformed as packed bytes, no array is
read from it and no column with such an array, and the bytes that both of them read are the same. -/
structure EquallyStrict (text : String) : Prop where
  arrays : (∀ bs, decode true text ≠ .ok bs) → ∀ n : TensorDocument, n.b64 = text →
    ∀ a, n.toArray ≠ .ok a
  columns : (∀ bs, decode true text ≠ .ok bs) → ∀ (d : ColumnDocument) (n : TensorDocument),
    d.ReadsTensor n → n.b64 = text → ∀ c, d.toFieldData ≠ .ok c
  bytes : ∀ bs bs', decode true text = .ok bs → decode false text = .ok bs' → bs = bs'

/-- On texts that are not mended the readers are equally strict. -/
theorem equallyStrict_of_not_isMended (h : ¬ IsMended text) : EquallyStrict text := by
  have harrays (hmalformed : ∀ bs, decode true text ≠ .ok bs) (n : TensorDocument)
      (hn : n.b64 = text) (a : Tensor ⊕ OtherArrays.Array) : n.toArray ≠ .ok a := by
    intro ha
    obtain ⟨bs, hbs⟩ := TensorDocument.exists_decode_of_toArray ha
    rw [hn] at hbs
    exact h (isMended_iff.mpr ⟨hmalformed, bs, hbs⟩)
  refine ⟨harrays, ?_, fun bs bs' => eq_of_decode⟩
  intro hmalformed d n hreads hn c hc
  obtain ⟨a, ha⟩ := ColumnDocument.exists_toArray_of_toFieldData hreads hc
  exact harrays hmalformed n hn a ha

/-- A text that is mended makes a tensor, and a column, though as packed bytes it is malformed. -/
theorem exists_toFieldData_of_isMended (h : IsMended text) :
    ∃ (n : TensorDocument) (c : FieldData), n.b64 = text ∧
      (ColumnDocument.ofNumbers n).toFieldData = .ok c := by
  obtain ⟨-, bs, hbs⟩ := isMended_iff.mp h
  have ht := TensorDocument.toTensor_ofText hbs
  obtain ⟨c, hc⟩ := ColumnDocument.exists_toFieldData_ofNumbers ht
  exact ⟨.ofText text bs, c, rfl, hc⟩

/-- The document of a tensor with only those characters that are kept of its text. -/
def keep (n : TensorDocument) : TensorDocument :=
  { n with b64 := String.ofList (kept n.b64.toList) }

/-- An array is read from the characters that are kept. -/
theorem toArray_keep {n : TensorDocument} {a : Tensor ⊕ OtherArrays.Array}
    (h : n.toArray = .ok a) : (keep n).toArray = .ok a := by
  obtain ⟨bs, hbs⟩ := TensorDocument.exists_decode_of_toArray h
  have hkept := (decode_strict_iff.mp (decode_kept hbs)).1
  rw [← h]
  exact TensorDocument.toArray_congr rfl rfl (hkept.trans hbs.symm)

/-- The readers are equally strict exactly on the texts that are not mended. What both of them
read are the unbroken texts that the lenient reader reads. Of any other text that is read as an
array some characters have been left out, without an error: the same array is read from what is
kept of it, which is unbroken. -/
theorem equallyStrict_iff (text : String) :
    (EquallyStrict text ↔ ¬ IsMended text) ∧
      (∀ bs, decode true text = .ok bs ↔ decode false text = .ok bs ∧ IsUnbroken text.toList) ∧
      ∀ (n : TensorDocument) (a : Tensor ⊕ OtherArrays.Array), n.b64 = text →
        n.toArray = .ok a → (keep n).toArray = .ok a ∧
          (keep n).b64.toList.Sublist text.toList ∧ IsUnbroken (keep n).b64.toList := by
  refine ⟨⟨?_, equallyStrict_of_not_isMended⟩, fun bs => decode_strict_iff, ?_⟩
  · intro hequally hmended
    obtain ⟨n, c, hn, hc⟩ := exists_toFieldData_of_isMended hmended
    exact hequally.columns (isMended_iff.mp hmended).1 _ n (ColumnDocument.readsTensor_ofNumbers n)
      hn c hc
  · rintro n a rfl ha
    obtain ⟨bs, hbs⟩ := TensorDocument.exists_decode_of_toArray ha
    have hsublist : (keep n).b64.toList.Sublist n.b64.toList := by
      rw [keep, String.toList_ofList]
      exact kept_sublist _
    exact ⟨toArray_keep ha, hsublist, (decode_strict_iff.mp (decode_kept hbs)).2⟩

end

/-! ### A star between letters -/

section

attribute [local instance] OtherArrays.absent

/-- Three cells of one byte whose text has been corrupted by a star. -/
def starred : TensorDocument where
  b64 := "AQ*ID"
  dtype := "int8"
  shape := [3]

/-- The corrupted text is malformed as packed bytes, and makes a column all the same. -/
theorem starred_read :
    (∀ bs, decode true "AQ*ID" ≠ .ok bs) ∧
      (∃ c, (ColumnDocument.ofNumbers starred).toFieldData = .ok c) ∧
      ¬ EquallyStrict "AQ*ID" := by
  have hmalformed (bs : List UInt8) : decode true "AQ*ID" ≠ .ok bs := by
    intro hbs
    have hnone : decodeChars true "AQ*ID".toList = none := by decide
    cases hnone.symm.trans (decode_eq_ok_iff.mp hbs).2
  have hread : ∃ c, (ColumnDocument.ofNumbers starred).toFieldData = .ok c := ⟨_, rfl⟩
  obtain ⟨c, hc⟩ := hread
  refine ⟨hmalformed, ⟨c, hc⟩, fun hequally => ?_⟩
  exact hequally.columns hmalformed _ starred (ColumnDocument.readsTensor_ofNumbers starred) rfl
    c hc

end

end Base64

end VectorRequests
