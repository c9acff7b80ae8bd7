/-
# Tensors and the bytes they are read from

Bytes that are read as a tensor are used up: they fall into parts of one size, and each part is
the storage of one cell. An integer has only one storage form, so for integers the parts are found
again in the cells. A shape is kept, except for a dimension that it leaves open. What can be read
are arrays, and arrays are read back from their bytes.
-/

import VectorRequests.Proofs.Number.Storage
import VectorRequests.Proofs.Outcome
import Mathlib.Algebra.BigOperators.Group.List.Lemmas
import Mathlib.Algebra.BigOperators.Ring.List

namespace VectorRequests

theorem LittleEndian.decode_lt (bs : List UInt8) : decode bs < 256 ^ bs.length := by
  induction bs with
  | nil => exact Nat.one_pos
  | cons b bs ih =>
      have hb : b.toNat < 256 := b.toNat_lt
      rw [decode, List.length_cons, Nat.pow_succ]
      omega

/-- The bytes of a word are found again in the word. -/
theorem IntFormat.encode_ofNat_decode {f : IntFormat} {bs : List UInt8}
    (h : bs.length = f.byteCount) :
    LittleEndian.encode f.byteCount (BitVec.ofNat f.bits (LittleEndian.decode bs)).toNat = bs := by
  have hbits : 256 ^ f.byteCount = 2 ^ f.bits := by rw [IntFormat.bits, Nat.pow_mul]
  have hlt : LittleEndian.decode bs < 2 ^ f.bits := by
    rw [← hbits, ← h]
    exact LittleEndian.decode_lt bs
  rw [BitVec.toNat_ofNat, Nat.mod_eq_of_lt hlt, ← h]
  exact LittleEndian.encode_decode bs

namespace Tensor

variable {type : ElementType} {order : ByteOrder} {t : Tensor}

/-! ## Cells from bytes -/

/-- Bytes that are the storage of a cell. -/
structure IsPart (type : ElementType) (order : ByteOrder) (part : List UInt8) (cell : type.Cell) :
    Prop where
  size : part.length = type.byteCount
  cell : cell = type.ofBytes (order.arrange part)

/-- Bytes that cells fill fall into the parts of these cells. -/
theorem exists_parts (hpos : 0 < type.byteCount) {fuel : Nat} {bs : List UInt8}
    (haligned : type.byteCount ∣ bs.length) (hfuel : bs.length ≤ fuel) :
    ∃ parts, parts.flatten = bs ∧
      List.Forall₂ (IsPart type order) parts (cellsOf type order fuel bs) := by
  induction fuel generalizing bs with
  | zero =>
      have hnil : bs = [] := List.eq_nil_of_length_eq_zero (Nat.le_zero.mp hfuel)
      exact ⟨[], hnil.symm, .nil⟩
  | succ fuel ih =>
      by_cases hnil : bs = []
      · subst hnil
        exact ⟨[], rfl, .nil⟩
      · have hle : type.byteCount ≤ bs.length :=
          Nat.le_of_dvd (List.length_pos_iff.mpr hnil) haligned
        have hrest : type.byteCount ∣ (bs.drop type.byteCount).length := by
          rw [List.length_drop]
          exact Nat.dvd_sub haligned (dvd_refl _)
        have hfewer : (bs.drop type.byteCount).length ≤ fuel := by
          rw [List.length_drop]
          omega
        obtain ⟨parts, hparts, hcells⟩ := ih hrest hfewer
        rw [cellsOf_succ hnil]
        refine ⟨bs.take type.byteCount :: parts, ?_, .cons ⟨?_, rfl⟩ hcells⟩
        · rw [List.flatten_cons, hparts, List.take_append_drop]
        · exact List.length_take_of_le hle

theorem length_flatten_of_parts {parts : List (List UInt8)} {cells : List type.Cell}
    (h : List.Forall₂ (IsPart type order) parts cells) :
    parts.flatten.length = cells.length * type.byteCount := by
  induction h with
  | nil => exact (Nat.zero_mul _).symm
  | cons hpart _ ih =>
      rw [List.flatten_cons, List.length_append, hpart.size, ih, List.length_cons, Nat.succ_mul,
        Nat.add_comm]

/-- The part of an integer is its storage form. -/
theorem IsPart.cellBytes_eq {f : IntFormat} (htype : t.type = .int f) {part : List UInt8}
    {c : t.type.Cell} (h : IsPart t.type t.order part c) : t.cellBytes c = part := by
  obtain ⟨type, order, shape, cells, hcount⟩ := t
  subst htype
  have hsize : (order.arrange part).length = f.byteCount := by
    rw [ByteOrder.length_arrange]
    exact h.size
  rw [cellBytes_eq_arrange, h.cell]
  show order.arrange (LittleEndian.encode f.byteCount
    (BitVec.ofNat f.bits (LittleEndian.decode (order.arrange part))).toNat) = part
  rw [IntFormat.encode_ofNat_decode hsize, ByteOrder.arrange_arrange]

theorem toBytes_of_parts {f : IntFormat} (htype : t.type = .int f) {parts : List (List UInt8)}
    (h : List.Forall₂ (IsPart t.type t.order) parts t.cells) : t.toBytes = parts.flatten := by
  have hparts : List.Forall₂ (fun c part => t.cellBytes c = id part) t.cells parts :=
    h.flip.imp fun _ _ hpart => hpart.cellBytes_eq htype
  rw [toBytes, List.flatMap, map_eq_map_of_forall₂ hparts, List.map_id]

/-! ## Shapes -/

/-- A shape as it was asked for: only a negative number may stand for another one. -/
def Resolves (shape : List Int) (dimensions : List Nat) : Prop :=
  List.Forall₂ (fun (n : Int) (dimension : Nat) => 0 ≤ n → n = dimension) shape dimensions

theorem resolves_of_resolveShape? {count : Nat} {shape : List Int} {dimensions : List Nat}
    (h : resolveShape? count shape = some dimensions) : Resolves shape dimensions := by
  have hkept (open_ : Nat) (n : Int) (hn : 0 ≤ n) :
      n = ((if n < 0 then open_ else n.toNat : Nat) : Int) := by
    rw [if_neg (Int.not_lt.mpr hn), Int.toNat_of_nonneg hn]
  unfold resolveShape? at h
  dsimp only at h
  split at h
  · split at h
    · cases h
      rw [Resolves, List.forall₂_map_right_iff]
      exact List.forall₂_same.mpr fun n _ hn => (Int.toNat_of_nonneg hn).symm
    · cases h
  · split at h
    · cases h
      rw [Resolves, List.forall₂_map_right_iff]
      exact List.forall₂_same.mpr fun n _ hn => hkept _ n hn
    · cases h
  · cases h

theorem ofBytes?_eq_some_iff {shape : List Int} {bs : List UInt8} :
    ofBytes? type order shape bs = some t ↔
      type.byteCount ∣ bs.length ∧
        ∃ dimensions, resolveShape? (cellsOf type order bs.length bs).length shape =
            some dimensions ∧
          fits type bs.length shape dimensions = true ∧
          ofCells? type order dimensions (cellsOf type order bs.length bs) = some t := by
  unfold ofBytes?
  rw [Nat.dvd_iff_mod_eq_zero]
  by_cases haligned : bs.length % type.byteCount = 0
  · rw [if_neg (not_not.mpr haligned), and_iff_right haligned]
    simp [Option.bind_eq_some_iff]
  · rw [if_pos haligned]
    simp [haligned]

/-- What a tensor has of the bytes that it was read from. -/
structure ReadFrom (t : Tensor) (shape : List Int) (bs : List UInt8) : Prop where
  shape : Resolves shape t.shape
  size : cellCount t.shape * t.type.byteCount = bs.length
  parts : ∃ parts, parts.flatten = bs ∧ List.Forall₂ (IsPart t.type t.order) parts t.cells
  integers : ∀ f, t.type = .int f → t.toBytes = bs

theorem readFrom_of_ofBytes? (hpos : 0 < type.byteCount) {shape : List Int} {bs : List UInt8}
    (h : ofBytes? type order shape bs = some t) :
    t.type = type ∧ t.order = order ∧ t.ReadFrom shape bs ∧
      fits type bs.length shape t.shape = true := by
  obtain ⟨haligned, dimensions, hshape, hfits, hcells⟩ := ofBytes?_eq_some_iff.mp h
  obtain ⟨parts, hparts, hforall⟩ : ∃ parts, parts.flatten = bs ∧
      List.Forall₂ (IsPart type order) parts (cellsOf type order bs.length bs) :=
    exists_parts hpos haligned (Nat.le_refl _)
  have hlength : (cellsOf type order bs.length bs).length * type.byteCount = bs.length :=
    (length_flatten_of_parts hforall).symm.trans (congrArg List.length hparts)
  unfold ofCells? at hcells
  split at hcells
  next hcount =>
    cases hcells
    exact ⟨rfl, rfl, {
      shape := resolves_of_resolveShape? hshape
      size := (congrArg (· * type.byteCount) hcount.symm).trans hlength
      parts := ⟨parts, hparts, hforall⟩
      integers := fun f htype => (toBytes_of_parts htype hforall).trans hparts }, hfits⟩
  next => cases hcells

end Tensor

/-! ## Arrays -/

/-- Truth values, integers of one, two, four and eight bytes, with a sign or without, and floats
of two, four and eight bytes. -/
def ElementType.standard : List ElementType :=
  [.bool, .int .int8, .int .uint8, .int .int16, .int .uint16, .int .int32, .int .uint32,
    .int .int64, .int .uint64, .float .half, .float .single, .float .double]

theorem ElementType.fillsBytes_of_mem_standard : ∀ type ∈ standard, type.FillsBytes := by
  decide

namespace Tensor

variable {t : Tensor}

/-- The tensors that there are. Cells of one byte have no byte order to speak of. A shape has no
more dimensions than the limit, and without any cells it still spans no more bytes than a machine
word counts, empty dimensions aside. -/
structure IsArray (t : Tensor) : Prop where
  standard : t.type ∈ ElementType.standard
  order : t.type.byteCount = 1 → t.order = .little
  dimensions : t.shape.length ≤ maxDimensions
  span : t.cells = [] → cellCount (t.shape.filter (· ≠ 0)) * t.type.byteCount < 2 ^ 63

/-- Cells in one dimension make an array. -/
theorem isArray_flat {type : ElementType} (h : type ∈ ElementType.standard)
    (cells : List type.Cell) : (flat type cells).IsArray where
  standard := h
  order := fun _ => rfl
  dimensions := (by decide : 1 ≤ maxDimensions)
  span := by
    intro hnil
    have hsmall : ∀ type ∈ ElementType.standard, 1 * type.byteCount < 2 ^ 63 := by decide
    have hshape : (flat type cells).shape = [0] := by
      rw [show cells = [] from hnil]
      rfl
    rw [hshape]
    exact hsmall type h

/-- No dimension is larger than all cells but for empty dimensions. -/
theorem le_cellCount_nonzero {shape : List Nat} {n : Nat} (hn : n ∈ shape) :
    n ≤ cellCount (shape.filter (· ≠ 0)) := by
  by_cases hzero : n = 0
  · exact hzero.trans_le (Nat.zero_le _)
  · have hmem : n ∈ shape.filter (· ≠ 0) := List.mem_filter.mpr ⟨hn, by simpa using hzero⟩
    have hne : (shape.filter (· ≠ 0)).prod ≠ 0 := List.prod_ne_zero (by simp)
    exact Nat.le_of_dvd (Nat.pos_of_ne_zero hne) (List.dvd_prod hmem)

/-- A tensor with cells has no empty dimensions. -/
theorem filter_shape_of_cells_ne_nil (h : t.cells ≠ []) : t.shape.filter (· ≠ 0) = t.shape := by
  have hcount : t.shape.prod ≠ 0 := by
    show cellCount t.shape ≠ 0
    rw [← t.length_cells]
    exact (List.length_pos_iff.mpr h).ne'
  have hzero : 0 ∉ t.shape := mt List.prod_eq_zero_iff.mpr hcount
  rw [List.filter_eq_self]
  intro n hn
  exact decide_eq_true (ne_of_mem_of_not_mem hn hzero)

/-- Arrays are within the limits of what can be read. -/
theorem IsArray.fits (h : t.IsArray) :
    fits t.type t.toBytes.length (t.shape.map Int.ofNat) t.shape = true := by
  have hpos := ElementType.byteCount_pos (ElementType.fillsBytes_of_mem_standard _ h.standard)
  have hspan : cellCount (t.shape.filter (· ≠ 0)) * t.type.byteCount ≤
      maxSpan t.toBytes.length := by
    by_cases hcells : t.cells = []
    · have hword := h.span hcells
      unfold maxSpan
      omega
    · rw [filter_shape_of_cells_ne_nil hcells, ← t.length_cells, ← t.length_toBytes]
      exact Nat.le_max_right _ _
  have hdimension : ∀ n ∈ t.shape, n ≤ maxSpan t.toBytes.length := by
    intro n hn
    calc n ≤ cellCount (t.shape.filter (· ≠ 0)) := le_cellCount_nonzero hn
      _ ≤ cellCount (t.shape.filter (· ≠ 0)) * t.type.byteCount := Nat.le_mul_of_pos_right _ hpos
      _ ≤ maxSpan t.toBytes.length := hspan
  simp only [Tensor.fits, Bool.and_eq_true, decide_eq_true_eq, List.length_map, List.all_eq_true,
    List.forall_mem_map]
  refine ⟨⟨h.dimensions, fun n hn => ⟨?_, ?_⟩⟩, hspan⟩
  · show -(2 ^ 63 : Int) ≤ (n : Int)
    omega
  · exact Int.ofNat_le.mpr (hdimension n hn)

/-- Arrays are read back from their bytes. -/
theorem IsArray.ofBytes?_toBytes (h : t.IsArray) :
    ofBytes? t.type t.order (t.shape.map Int.ofNat) t.toBytes = some t :=
  t.ofBytes?_toBytes (ElementType.fillsBytes_of_mem_standard _ h.standard) h.fits

/-- Only arrays are read. -/
theorem isArray_of_readFrom {shape : List Int} {bs : List UInt8} (h : t.ReadFrom shape bs)
    (hstandard : t.type ∈ ElementType.standard) (horder : t.type.byteCount = 1 → t.order = .little)
    (hfits : Tensor.fits t.type bs.length shape t.shape = true) : t.IsArray where
  standard := hstandard
  order := horder
  dimensions := by
    have hlength : shape.length = t.shape.length := h.shape.length_eq
    simp only [Tensor.fits, Bool.and_eq_true, decide_eq_true_eq] at hfits
    exact hlength ▸ hfits.1.1
  span := by
    intro hcells
    have hcount : cellCount t.shape = 0 := by rw [← t.length_cells, hcells, List.length_nil]
    have hnone : bs.length = 0 := by rw [← h.size, hcount, Nat.zero_mul]
    simp only [Tensor.fits, hnone, maxSpan, Bool.and_eq_true, decide_eq_true_eq] at hfits
    have hword := hfits.2
    omega

end Tensor

end VectorRequests
