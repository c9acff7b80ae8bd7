/-
# Cells in storage

The bytes of a cell hold all of it: for element types whose cells fill whole bytes a cell is
read back from its bytes, and a tensor from the bytes of its cells, whatever its byte order.
-/

import VectorRequests.Number.Buffer
import VectorRequests.Proofs.Float.Identity

namespace VectorRequests

/-- A word is read back from its bytes. -/
theorem IntFormat.ofNat_decode_encode {f : IntFormat} (w : f.Word) :
    BitVec.ofNat f.bits (LittleEndian.decode (LittleEndian.encode f.byteCount w.toNat)) = w := by
  have hbits : 256 ^ f.byteCount = 2 ^ f.bits := by rw [IntFormat.bits, Nat.pow_mul]
  have hlt : w.toNat < 256 ^ f.byteCount := by
    rw [hbits]
    exact w.isLt
  rw [LittleEndian.decode_encode, Nat.mod_eq_of_lt hlt, BitVec.ofNat_toNat, BitVec.setWidth_eq]

/-- A float is read back from its bytes. -/
theorem Binary.ofBits_decode_encode {f : FloatFormat} (hfraction : 0 < f.fractionBits)
    (hbytes : f.magnitudeBits + 1 = 8 * f.byteCount) (x : Binary f) :
    ofBits (LittleEndian.decode (LittleEndian.encode f.byteCount x.toBits)) = x := by
  have hbits : 256 ^ f.byteCount = 2 ^ (f.magnitudeBits + 1) := by rw [hbytes, Nat.pow_mul]
  have hlt : x.toBits < 256 ^ f.byteCount := by
    rw [hbits]
    exact toBits_lt hfraction x
  rw [LittleEndian.decode_encode, Nat.mod_eq_of_lt hlt, ofBits_toBits hfraction]

namespace ElementType

/-- The types whose cells fill at least one byte, and whole ones. -/
def FillsBytes : ElementType → Prop
  | .bool => True
  | .int f => 0 < f.byteCount
  | .float f => 0 < f.fractionBits ∧ f.magnitudeBits + 1 = 8 * f.byteCount

instance : DecidablePred FillsBytes
  | .bool => inferInstanceAs (Decidable True)
  | .int f => inferInstanceAs (Decidable (0 < f.byteCount))
  | .float f =>
    inferInstanceAs (Decidable (0 < f.fractionBits ∧ f.magnitudeBits + 1 = 8 * f.byteCount))

theorem byteCount_pos {t : ElementType} (h : t.FillsBytes) : 0 < t.byteCount := by
  cases t with
  | bool => exact Nat.one_pos
  | int f => exact h
  | float f =>
      have hbits : f.magnitudeBits + 1 = 8 * f.byteCount := h.2
      show 0 < f.byteCount
      omega

@[simp]
theorem length_toBytes (t : ElementType) (c : t.Cell) : (t.toBytes c).length = t.byteCount := by
  cases t with
  | bool => rfl
  | int f => exact LittleEndian.length_encode _ _
  | float f => exact LittleEndian.length_encode _ _

/-- A cell is read back from its bytes. -/
theorem ofBytes_toBytes {t : ElementType} (h : t.FillsBytes) (c : t.Cell) :
    t.ofBytes (t.toBytes c) = c := by
  cases t with
  | bool =>
      have hb (b : Bool) : (LittleEndian.decode [b.toUInt8] != 0) = b := by cases b <;> rfl
      exact hb c
  | int f => exact IntFormat.ofNat_decode_encode c
  | float f => exact Binary.ofBits_decode_encode h.1 h.2 c

end ElementType

/-- The stored bytes of a cell, in order of their significance or back. -/
def ByteOrder.arrange : ByteOrder → List UInt8 → List UInt8
  | .little, bs => bs
  | .big, bs => bs.reverse

namespace ByteOrder

@[simp]
theorem arrange_arrange (order : ByteOrder) (bs : List UInt8) :
    order.arrange (order.arrange bs) = bs := by
  cases order with
  | little => rfl
  | big => exact List.reverse_reverse bs

@[simp]
theorem length_arrange (order : ByteOrder) (bs : List UInt8) :
    (order.arrange bs).length = bs.length := by
  cases order with
  | little => rfl
  | big => exact List.length_reverse

end ByteOrder

namespace Tensor

theorem cellBytes_eq_arrange (t : Tensor) (c : t.type.Cell) :
    t.cellBytes c = t.order.arrange (t.type.toBytes c) := by
  unfold cellBytes
  cases t.order <;> rfl

/-- The storage bytes of a cell of a type. -/
theorem length_cellBytes (t : Tensor) (c : t.type.Cell) :
    (t.cellBytes c).length = t.type.byteCount := by
  rw [cellBytes_eq_arrange, ByteOrder.length_arrange, ElementType.length_toBytes]

theorem length_toBytes (t : Tensor) : t.toBytes.length = t.cells.length * t.type.byteCount := by
  have hcells : (t.cells.map fun c => (t.cellBytes c).length) =
      t.cells.map fun _ => t.type.byteCount :=
    List.map_congr_left fun c _ => t.length_cellBytes c
  rw [toBytes, List.length_flatMap, hcells, List.map_const', List.sum_replicate_nat]

theorem cellsOf_succ {type : ElementType} {order : ByteOrder} {fuel : Nat} {bs : List UInt8}
    (h : bs ≠ []) :
    cellsOf type order (fuel + 1) bs =
      type.ofBytes (order.arrange (bs.take type.byteCount)) ::
        cellsOf type order fuel (bs.drop type.byteCount) := by
  cases bs with
  | nil => exact absurd rfl h
  | cons b bs => cases order <;> rfl

/-- Cells are read back from their bytes one after the other, as long as there is fuel for
every cell. -/
theorem cellsOf_flatMap (t : Tensor) (h : t.type.FillsBytes) (cells : List t.type.Cell)
    {fuel : Nat} (hfuel : cells.length ≤ fuel) :
    cellsOf t.type t.order fuel (cells.flatMap t.cellBytes) = cells := by
  induction cells generalizing fuel with
  | nil => cases fuel <;> rfl
  | cons c cells ih =>
      obtain ⟨fuel, rfl⟩ : ∃ n, fuel = n + 1 :=
        ⟨fuel - 1, by simp only [List.length_cons] at hfuel; omega⟩
      have hwidth : (t.cellBytes c).length = t.type.byteCount := t.length_cellBytes c
      have htake : (t.cellBytes c ++ cells.flatMap t.cellBytes).take t.type.byteCount =
          t.cellBytes c := by
        rw [← hwidth]
        exact List.take_left
      have hdrop : (t.cellBytes c ++ cells.flatMap t.cellBytes).drop t.type.byteCount =
          cells.flatMap t.cellBytes := by
        rw [← hwidth]
        exact List.drop_left
      have hcell : t.type.ofBytes (t.order.arrange (t.cellBytes c)) = c := by
        rw [cellBytes_eq_arrange, ByteOrder.arrange_arrange, ElementType.ofBytes_toBytes h]
      have hne : t.cellBytes c ++ cells.flatMap t.cellBytes ≠ [] := by
        have hpos := ElementType.byteCount_pos h
        intro hnil
        have hlength := congrArg List.length (List.append_eq_nil_iff.mp hnil).1
        rw [hwidth, List.length_nil] at hlength
        omega
      have hrest : cells.length ≤ fuel := by
        simp only [List.length_cons] at hfuel
        omega
      rw [List.flatMap_cons, cellsOf_succ hne, htake, hdrop, ih hrest, hcell]

/-- A shape without negative numbers stands for itself. -/
theorem resolveShape?_ofNat {count : Nat} {shape : List Nat} (h : cellCount shape = count) :
    resolveShape? count (shape.map Int.ofNat) = some shape := by
  have hneg : (shape.map Int.ofNat).filter (· < 0) = [] := by
    simp [List.filter_eq_nil_iff]
  have hknown : (shape.map Int.ofNat).filter (0 ≤ ·) = shape.map Int.ofNat := by
    simp [List.filter_eq_self]
  have hback : (shape.map Int.ofNat).map Int.toNat = shape := by
    simp [List.map_map, Function.comp_def]
  unfold resolveShape?
  rw [hneg, hknown, hback]
  simp [h]

/-- A tensor within the limits is read back from its bytes and its shape. -/
theorem ofBytes?_toBytes (t : Tensor) (h : t.type.FillsBytes)
    (hfits : fits t.type t.toBytes.length (t.shape.map Int.ofNat) t.shape = true) :
    ofBytes? t.type t.order (t.shape.map Int.ofNat) t.toBytes = some t := by
  have hlength := t.length_toBytes
  have haligned : t.toBytes.length % t.type.byteCount = 0 := by
    rw [hlength, Nat.mul_mod_left]
  have hfuel : t.cells.length ≤ t.toBytes.length := by
    rw [hlength]
    exact Nat.le_mul_of_pos_right _ (ElementType.byteCount_pos h)
  have hcells : cellsOf t.type t.order t.toBytes.length t.toBytes = t.cells :=
    t.cellsOf_flatMap h t.cells hfuel
  have hshape : resolveShape? t.cells.length (t.shape.map Int.ofNat) = some t.shape :=
    resolveShape?_ofNat t.length_cells.symm
  unfold ofBytes?
  rw [if_neg (not_not.mpr haligned), hcells]
  simp only [hshape, Option.bind_eq_bind, Option.bind_some]
  rw [if_pos hfits, ofCells?, dif_pos t.length_cells]

end Tensor

end VectorRequests
