/-
# Keys of equal vectors

Float vectors are equal if their components are worth the same, and are looked up by the bytes of
their components. Floats that are worth the same are the same, except that the two zeros are
worth the same as well and have different bytes. So equal vectors have equal keys exactly if no
zero stands in one of them where a zero of the opposite sign stands in the other.
-/

import VectorRequests.Proofs.Float.Identity
import VectorRequests.Proofs.Param.Search
import VectorRequests.Value.Equality
import Mathlib.Data.List.Forall2

namespace VectorRequests

-- Powers are those of the core library, whichever monoids are in scope.
attribute [local instance (high)] instPowNat

namespace FloatFormat

variable {f : FloatFormat}

theorem units_zero : f.units 0 = 0 := by
  rw [units, if_pos f.binade_pos]

/-- Magnitudes that are worth the same are the same. -/
theorem units_inj {r s : Nat} (hr : r ≤ f.infinityRank) (hs : s ≤ f.infinityRank) :
    f.units r = f.units s ↔ r = s := by
  constructor
  · intro h
    rw [← f.nearestRank_units hr, h, f.nearestRank_units hs]
  · rintro rfl
    rfl

end FloatFormat

namespace Binary

variable {f : FloatFormat} {x y : Binary f}

/-- Two zeros that differ in their signs. -/
def AreOppositeZeros (x y : Binary f) : Prop :=
  x.isNonzero = false ∧ y.isNonzero = false ∧ x ≠ y

instance : Decidable (x.AreOppositeZeros y) :=
  inferInstanceAs (Decidable (x.isNonzero = false ∧ y.isNonzero = false ∧ x ≠ y))

theorem ofFloat_infinity {negative : Bool} {r : Fin (f.infinityRank + 1)}
    (h : r.val = f.infinityRank) : Exact.ofFloat (.number negative r) = .infinity negative := by
  simp [Exact.ofFloat, toQuotient?, h]

theorem ofFloat_number {negative : Bool} {r : Fin (f.infinityRank + 1)}
    (h : r.val ≠ f.infinityRank) :
    Exact.ofFloat (.number negative r) =
      .quotient (if negative then -(f.units r.val : Int) else f.units r.val)
        (2 ^ f.finestBits) := by
  simp [Exact.ofFloat, toQuotient?, h]

/-- Signed magnitudes are worth the same if they are the same, or zeros. -/
theorem signed_units_eq_iff {a b : Bool} {r s : Nat} (hr : r ≤ f.infinityRank)
    (hs : s ≤ f.infinityRank) :
    (if a then -(f.units r : Int) else f.units r) = (if b then -(f.units s : Int) else f.units s) ↔
      a = b ∧ r = s ∨ r = 0 ∧ s = 0 := by
  have hzero {k : Nat} (hk : k ≤ f.infinityRank) : f.units k = 0 ↔ k = 0 := by
    rw [← FloatFormat.units_inj hk (Nat.zero_le _), FloatFormat.units_zero]
  have hinj := FloatFormat.units_inj (f := f) hr hs
  have hr0 := hzero hr
  have hs0 := hzero hs
  cases a <;> cases b <;> simp <;> omega

theorem isNonzero_number {negative : Bool} {r : Fin (f.infinityRank + 1)} :
    (number negative r).isNonzero = false ↔ r.val = 0 := by
  simp [isNonzero]

theorem number_eq_iff {a b : Bool} {r s : Fin (f.infinityRank + 1)} :
    number a r = number b s ↔ a = b ∧ r.val = s.val := by
  rw [number.injEq, Fin.ext_iff]

/-- Numbers that are worth the same are the same, or both zeros. -/
theorem number_equal_iff (hpos : 0 < f.infinityRank) {a b : Bool}
    {r s : Fin (f.infinityRank + 1)} :
    (Exact.ofFloat (number a r)).equal (Exact.ofFloat (number b s)) = true ↔
      a = b ∧ r.val = s.val ∨ r.val = 0 ∧ s.val = 0 := by
  by_cases hr : r.val = f.infinityRank
  · by_cases hs : s.val = f.infinityRank
    · rw [ofFloat_infinity hr, ofFloat_infinity hs, Exact.equal, beq_iff_eq]
      have hsame : r.val = s.val := hr.trans hs.symm
      have hzero : r.val ≠ 0 := by omega
      simp only [hsame, and_true, hsame ▸ hzero, false_and, or_false]
    · rw [ofFloat_infinity hr, ofFloat_number hs]
      exact iff_of_false nofun (by omega)
  · by_cases hs : s.val = f.infinityRank
    · rw [ofFloat_number hr, ofFloat_infinity hs]
      exact iff_of_false nofun (by omega)
    · have hdenominator : ((2 ^ f.finestBits : Nat) : Int) ≠ 0 :=
        Int.natCast_ne_zero.mpr (Nat.two_pow_pos _).ne'
      rw [ofFloat_number hr, ofFloat_number hs, Exact.equal, beq_iff_eq,
        Int.mul_eq_mul_right_iff hdenominator,
        signed_units_eq_iff (Nat.lt_succ_iff.mp r.isLt) (Nat.lt_succ_iff.mp s.isLt)]

/-- Floats that are worth the same are the same number, or both zeros. -/
theorem ofFloat_equal_iff (hpos : 0 < f.infinityRank) :
    (Exact.ofFloat x).equal (Exact.ofFloat y) = true ↔
      (x = y ∧ x ≠ .nan) ∨ (x.isNonzero = false ∧ y.isNonzero = false) := by
  have hnan : Exact.ofFloat (.nan : Binary f) = .nan := rfl
  cases x with
  | nan => simp [hnan, Exact.equal, isNonzero]
  | number a r =>
      cases y with
      | nan => simp [hnan, Exact.equal, isNonzero]
      | number b s =>
          rw [number_equal_iff hpos, isNonzero_number, isNonzero_number, number_eq_iff]
          simp

end Binary

/-- Lists of one length are equal if what stands in the same places is. -/
theorem eq_iff_of_zip {α : Type} {xs ys : List α} (h : xs.length = ys.length) :
    xs = ys ↔ ∀ x y, (x, y) ∈ xs.zip ys → x = y := by
  rw [← List.forall₂_eq_eq_eq, List.forall₂_iff_zip]
  exact ⟨fun hzip x y hmem => hzip.2 hmem, fun hzip => ⟨h, fun hmem => hzip _ _ hmem⟩⟩

namespace TargetVector

/-- The components of a float vector. -/
def components : TargetVector → List Single
  | .float components _ => components
  | .binary .. => []

/-- In some place, one vector has a zero and the other has the opposite one. -/
def HoldOppositeZeros (v w : TargetVector) : Prop :=
  ∃ x y, (x, y) ∈ v.components.zip w.components ∧ x.AreOppositeZeros y

/-- The components of equal vectors are the same wherever there are no opposite zeros. -/
theorem eq_iff_not_opposite {x y : Single}
    (h : (Exact.ofFloat x).equal (Exact.ofFloat y) = true) : x = y ↔ ¬ x.AreOppositeZeros y := by
  have hpos : 0 < FloatFormat.single.infinityRank := by decide
  obtain ⟨hsame, -⟩ | ⟨hx, hy⟩ := (Binary.ofFloat_equal_iff hpos).mp h
  · exact iff_of_true hsame fun hopposite => hopposite.2.2 hsame
  · constructor
    · rintro hsame ⟨-, -, hne⟩
      exact hne hsame
    · intro hnever
      by_contra hne
      exact hnever ⟨hx, hy, hne⟩

/-- Float vectors are keyed alike exactly if their components are the same. -/
theorem sharesKey_float_iff {xs ys : List Single} (hxs : xs ≠ []) (hys : ys ≠ []) :
    (Value.vector (.float xs hxs)).sharesKey (.vector (.float ys hys)) = true ↔ xs = ys := by
  have hkeys : (Value.vector (.float xs hxs)).sharesKey (.vector (.float ys hys)) =
      (toBytes (.float xs hxs) == toBytes (.float ys hys)) := by
    simp [Value.sharesKey, Value.key?, Key.ofVector, Key.equal]
  rw [hkeys, beq_iff_eq]
  constructor
  · intro hbytes
    rw [← cellsOf_toBytes hxs, hbytes, cellsOf_toBytes hys]
  · rintro rfl
    rfl

/-- Equal vectors have equal keys exactly if they hold no opposite zeros in the same place. -/
theorem sharesKey_iff_of_equal {v w : TargetVector} (h : v.equal w = true) :
    (Value.vector v).sharesKey (.vector w) = true ↔ ¬ v.HoldOppositeZeros w := by
  unfold equal at h
  split at h
  next xs hxs ys hys =>
    obtain ⟨hlength, hequal⟩ := (Bool.and_eq_true _ _).mp h
    rw [sharesKey_float_iff, eq_iff_of_zip (eq_of_beq hlength)]
    have hsame (x y : Single) (hpair : (x, y) ∈ xs.zip ys) : x = y ↔ ¬ x.AreOppositeZeros y :=
      eq_iff_not_opposite (List.all_eq_true.mp hequal (x, y) hpair)
    constructor
    · rintro hall ⟨x, y, hpair, hopposite⟩
      exact (hsame x y hpair).mp (hall x y hpair) hopposite
    · intro hnever x y hpair
      exact (hsame x y hpair).mpr fun hopposite => hnever ⟨x, y, hpair, hopposite⟩
  next xs hxs ys hys =>
    cases eq_of_beq h
    refine iff_of_true ?_ ?_
    · simp [Value.sharesKey, Value.key?, Key.ofVector, Key.equal, Key.allEqual]
    · rintro ⟨x, y, hpair, -⟩
      cases hpair
  next => cases h

end TargetVector

end VectorRequests
