/-
# Numbers of the usual types

The element types in use have no more than eight bytes. Their cells are plain numbers without
loss: a word is an integer that has a double float, and a float is a double float from which
every rounding gives what it gives from the float itself.
-/

import VectorRequests.Proofs.Float.Widening

namespace VectorRequests

namespace ElementType

/-- Truth values, integers of no more than eight bytes, and floats of two, four and eight. -/
def IsUsual : ElementType → Prop
  | .bool => True
  | .int f => f.byteCount ≤ 8
  | .float f => f = .half ∨ f = .single ∨ f = .double

instance : DecidablePred IsUsual
  | .bool => inferInstanceAs (Decidable True)
  | .int f => inferInstanceAs (Decidable (f.byteCount ≤ 8))
  | .float f => inferInstanceAs (Decidable (f = .half ∨ f = .single ∨ f = .double))

/-- A word of no more than eight bytes is an integer of no more than 64 bits. -/
theorem natAbs_value_le {f : IntFormat} (h : f.byteCount ≤ 8) (w : f.Word) :
    (f.value w).natAbs ≤ 2 ^ 64 := by
  have hbits : f.bits ≤ 64 := by
    rw [IntFormat.bits]
    omega
  have hroom : 2 ^ f.bits ≤ 2 ^ 64 := Nat.pow_le_pow_right (by omega) hbits
  have hword : w.toNat < 2 ^ f.bits := w.isLt
  unfold IntFormat.value
  split
  · rw [BitVec.toInt_eq_toNat_cond]
    split <;> omega
  · omega

/-- The float formats in use are no wider than double floats. -/
theorem exists_widens {f : FloatFormat} (h : (float f).IsUsual) :
    ∃ finer, f.Widens .double finer := by
  obtain rfl | rfl | rfl := h
  · exact ⟨_, FloatFormat.half_widens⟩
  · exact ⟨_, FloatFormat.single_widens⟩
  · exact ⟨_, FloatFormat.double_widens⟩

/-- A word of no more than eight bytes has a double float. -/
theorem ofInt?_value {f : IntFormat} (h : f.byteCount ≤ 8) (w : f.Word) :
    (Binary.ofInt? (f.value w) : Option Double) = some (Binary.nearestInt (f.value w)) := by
  have hsmall : ¬ Binary.doubleLimit ≤ (f.value w).natAbs := by
    have hword := natAbs_value_le h w
    have hlimit : 2 ^ 64 < Binary.doubleLimit := by decide +kernel
    exact Nat.not_le.mpr (Nat.lt_of_le_of_lt hword hlimit)
  rw [← Binary.ofInt?_double_eq_none_iff, Binary.ofInt?] at hsmall
  rw [Binary.ofInt?]
  split at hsmall
  · exact absurd rfl hsmall
  next hfinite => exact if_neg hfinite

end ElementType

end VectorRequests
