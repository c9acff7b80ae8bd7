/-
# Fields are read back from a message

A field that is written takes some bytes of a message and is read back from them, whatever
follows. So a message that is written field by field is read back field by field.
-/

import VectorRequests.Wire.Fields
import VectorRequests.Proofs.Wire.Varint
import Mathlib.Data.List.Forall2

namespace VectorRequests.Wire

/-- Bytes that a reader takes for a field, whatever follows them. -/
structure Writes (bs : List UInt8) (field : Field) : Prop where
  nonempty : bs ≠ []
  reads : ∀ rest, ∃ form value, readTag? (bs ++ rest) = some (field.number, form, value) ∧
    ∀ fuel depth, readValue? field.number form (fuel + 1) depth value = some (field.value, rest)

/-! ## One field -/

theorem readTag?_encodeTag {number form : Nat} (hnumber : 0 < number) (hform : form < 8)
    (hsize : number * 8 + form < 2 ^ 32) (rest : List UInt8) :
    readTag? (encodeTag number form ++ rest) = some (number, form, rest) := by
  have hdiv : (number * 8 + form) / 8 = number := by omega
  have hmod : (number * 8 + form) % 8 = form := by omega
  rw [readTag?, encodeTag, Varint.read32?_encode hsize]
  simp only [Option.bind_eq_bind, Option.bind_some, hdiv, hmod]
  rw [if_neg (by omega)]

theorem encodeTag_ne_nil (number form : Nat) : encodeTag number form ≠ [] :=
  Varint.encode_ne_nil _

/-- A field with a number as value is read back. -/
theorem writes_number {number n : Nat} (hnumber : 0 < number) (hsize : number < 2 ^ 29)
    (hn : n < 2 ^ 64) : Writes (encodeNumber number n) ⟨number, .varint n⟩ where
  nonempty := List.append_ne_nil_of_left_ne_nil (encodeTag_ne_nil _ _) _
  reads rest := by
    refine ⟨0, Varint.encode n ++ rest, ?_, ?_⟩
    · rw [encodeNumber, List.append_assoc]
      exact readTag?_encodeTag hnumber (by omega) (by omega) _
    · intro fuel depth
      rw [readValue?, Varint.read64?_encode hn]
      rfl

theorem readCounted?_encode (bs rest : List UInt8) :
    readCounted? (Varint.encode bs.length ++ (bs ++ rest)) = some (bs, rest) := by
  have hcount : Varint.readCount? (Varint.encode bs.length ++ (bs ++ rest)) =
      some (bs.length, bs ++ rest) := by
    apply Varint.readCount?_encode
    rw [List.length_append]
    omega
  have hroom : bs.length ≤ (bs ++ rest).length := by
    rw [List.length_append]
    omega
  rw [readCounted?, hcount]
  simp only [Option.bind_eq_bind, Option.bind_some]
  rw [split?, if_pos hroom, List.take_left, List.drop_left]

/-- A field with counted bytes as value is read back. -/
theorem writes_bytes {number : Nat} (hnumber : 0 < number) (hsize : number < 2 ^ 29)
    (bs : List UInt8) : Writes (encodeBytes number bs) ⟨number, .bytes bs⟩ where
  nonempty := by
    rw [encodeBytes, List.append_assoc]
    exact List.append_ne_nil_of_left_ne_nil (encodeTag_ne_nil _ _) _
  reads rest := by
    refine ⟨2, Varint.encode bs.length ++ (bs ++ rest), ?_, ?_⟩
    · rw [encodeBytes, List.append_assoc, List.append_assoc]
      exact readTag?_encodeTag hnumber (by omega) (by omega) _
    · intro fuel depth
      rw [readValue?, readCounted?_encode]
      rfl

/-! ## Whole messages -/

theorem readFields?_succ {fuel depth : Nat} {bs : List UInt8} (h : bs ≠ []) :
    readFields? (fuel + 1) depth bs = (do
      let (number, form, rest) ← readTag? bs
      let (value, rest) ← readValue? number form (2 * rest.length + 1) depth rest
      let fields ← readFields? fuel depth rest
      return ⟨number, value⟩ :: fields) := by
  cases bs with
  | nil => exact absurd rfl h
  | cons b bs => rw [readFields?]

/-- Fields are read back one after the other, as long as there is fuel for every field. -/
theorem readFields?_flatten {depth : Nat} {parts : List (List UInt8)} {fields : List Field}
    (h : List.Forall₂ Writes parts fields) {fuel : Nat} (hfuel : parts.length ≤ fuel) :
    readFields? fuel depth parts.flatten = some fields := by
  induction h generalizing fuel with
  | nil => cases fuel <;> rfl
  | @cons part field parts fields hhead _ ih =>
      obtain ⟨fuel, rfl⟩ : ∃ n, fuel = n + 1 :=
        ⟨fuel - 1, by simp only [List.length_cons] at hfuel; omega⟩
      have hrest : parts.length ≤ fuel := by
        simp only [List.length_cons] at hfuel
        omega
      have hne : part ++ parts.flatten ≠ [] :=
        List.append_ne_nil_of_left_ne_nil hhead.nonempty _
      obtain ⟨form, value, htag, hvalue⟩ := hhead.reads parts.flatten
      rw [List.flatten_cons, readFields?_succ hne, htag]
      simp only [Option.bind_eq_bind, Option.bind_some, hvalue, ih hrest]
      rfl

theorem length_le_length_flatten {parts : List (List UInt8)} {fields : List Field}
    (h : List.Forall₂ Writes parts fields) : parts.length ≤ parts.flatten.length := by
  induction h with
  | nil => exact Nat.le_refl 0
  | @cons part field parts fields hhead _ ih =>
      have hpos : 0 < part.length := List.length_pos_iff.mpr hhead.nonempty
      rw [List.flatten_cons, List.length_append, List.length_cons]
      omega

/-- A message that is written field by field is read back field by field. -/
theorem read?_flatten {parts : List (List UInt8)} {fields : List Field}
    (h : List.Forall₂ Writes parts fields) (depth : Nat) :
    read? depth parts.flatten = some fields :=
  readFields?_flatten h (length_le_length_flatten h)

end VectorRequests.Wire
