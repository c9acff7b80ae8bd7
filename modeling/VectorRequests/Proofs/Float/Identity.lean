/-
# What rounding leaves alone

Every finite magnitude is a whole number of units, and the nearest magnitude to that many
units is the one it came from. So a float converted to its own format stays what it is, and
infinities stay infinite in every format. Bit patterns and floats correspond one to one.
-/

import VectorRequests.Float.Rounding
import Mathlib.Tactic.Ring

namespace VectorRequests

namespace FloatFormat

variable (f : FloatFormat)

theorem binade_pos : 0 < f.binade :=
  Nat.two_pow_pos _

/-- Nothing is rounded where nothing is left over. -/
theorem roundHalfEven_mul {d : Nat} (q : Nat) (hd : 0 < d) : roundHalfEven (q * d) d = q := by
  have hrest : q * d % d = 0 := Nat.mul_mod_left q d
  rw [roundHalfEven, hrest, Nat.mul_zero, if_pos hd, Nat.mul_div_cancel q hd]

/-- The places of a magnitude above those that the fraction field has room for. -/
theorem log2_units_sub (rank : Nat) :
    (f.units rank).log2 - f.fractionBits = rank / f.binade - 1 := by
  unfold units
  by_cases hsmall : rank < f.binade
  · rw [if_pos hsmall, Nat.div_eq_of_lt hsmall]
    by_cases hzero : rank = 0
    · simp [hzero]
    · have hlog : rank.log2 < f.fractionBits := (Nat.log2_lt hzero).mpr hsmall
      omega
  · rw [if_neg hsmall]
    have hmod : rank % f.binade < f.binade := Nat.mod_lt _ f.binade_pos
    have hlog : ((f.binade + rank % f.binade) * 2 ^ (rank / f.binade - 1)).log2 =
        f.fractionBits + (rank / f.binade - 1) := by
      have hpos : f.binade + rank % f.binade ≠ 0 := by
        have := f.binade_pos
        omega
      rw [Nat.log2_eq_iff (Nat.mul_ne_zero hpos (Nat.two_pow_pos _).ne')]
      constructor
      · rw [Nat.pow_add]
        exact Nat.mul_le_mul_right _ (Nat.le_add_right _ _)
      · have hdouble : f.binade + rank % f.binade < 2 * 2 ^ f.fractionBits := by
          have : f.binade = 2 ^ f.fractionBits := rfl
          omega
        calc (f.binade + rank % f.binade) * 2 ^ (rank / f.binade - 1)
            < 2 * 2 ^ f.fractionBits * 2 ^ (rank / f.binade - 1) :=
              Nat.mul_lt_mul_of_pos_right hdouble (Nat.two_pow_pos _)
          _ = 2 ^ (f.fractionBits + (rank / f.binade - 1) + 1) := by ring
    rw [hlog, Nat.add_sub_cancel_left]

/-- A magnitude in units of its own binade. -/
theorem units_eq_mul (rank : Nat) :
    f.units rank =
      (rank - (rank / f.binade - 1) * f.binade) * 2 ^ (rank / f.binade - 1) := by
  unfold units
  by_cases hsmall : rank < f.binade
  · rw [if_pos hsmall, Nat.div_eq_of_lt hsmall]
    simp
  · rw [if_neg hsmall]
    congr 1
    have hdiv : 1 ≤ rank / f.binade := (Nat.one_le_div_iff f.binade_pos).mpr (by omega)
    have hsplit : f.binade * (rank / f.binade) + rank % f.binade = rank :=
      Nat.div_add_mod _ _
    have hpred : (rank / f.binade - 1) * f.binade + f.binade =
        f.binade * (rank / f.binade) := by
      rw [← Nat.succ_mul, Nat.mul_comm, Nat.succ_eq_add_one, Nat.sub_add_cancel hdiv]
    omega

/-- The nearest magnitude to a magnitude is itself, whatever the quotient is written with. -/
theorem nearestRank_units_mul {rank d : Nat} (h : rank ≤ f.infinityRank) (hd : 0 < d) :
    f.nearestRank (f.units rank * d) d = rank := by
  unfold nearestRank
  rw [Nat.mul_div_cancel _ hd, f.log2_units_sub]
  have hround : roundHalfEven (f.units rank * d) (d * 2 ^ (rank / f.binade - 1)) =
      rank - (rank / f.binade - 1) * f.binade := by
    rw [f.units_eq_mul rank, Nat.mul_assoc, Nat.mul_comm (2 ^ (rank / f.binade - 1))]
    exact roundHalfEven_mul _ (Nat.mul_pos hd (Nat.two_pow_pos _))
  have hle : (rank / f.binade - 1) * f.binade ≤ rank := by
    calc (rank / f.binade - 1) * f.binade
        ≤ rank / f.binade * f.binade := Nat.mul_le_mul_right _ (Nat.sub_le _ _)
      _ ≤ rank := Nat.div_mul_le_self _ _
  dsimp only
  rw [hround, Nat.add_sub_cancel' hle]
  exact Nat.min_eq_left h

/-- The nearest magnitude to a magnitude is itself. -/
theorem nearestRank_units {rank : Nat} (h : rank ≤ f.infinityRank) :
    f.nearestRank (f.units rank * 2 ^ f.finestBits) (2 ^ f.finestBits) = rank :=
  f.nearestRank_units_mul h (Nat.two_pow_pos _)

/-- Infinity lies a whole binade below the sign. -/
theorem infinityRank_add_binade : f.infinityRank + f.binade = 2 ^ f.magnitudeBits := by
  have hpos : 1 ≤ 2 ^ f.exponentBits := Nat.one_le_two_pow
  calc f.infinityRank + f.binade
      = (2 ^ f.exponentBits - 1 + 1) * f.binade := (Nat.succ_mul _ _).symm
    _ = 2 ^ f.magnitudeBits := by
        rw [Nat.sub_add_cancel hpos, magnitudeBits, Nat.pow_add, Nat.mul_comm, binade]

theorem infinityRank_lt : f.infinityRank < 2 ^ f.magnitudeBits := by
  have := f.infinityRank_add_binade
  have := f.binade_pos
  omega

end FloatFormat

namespace Binary

variable {f g : FloatFormat}

@[simp]
theorem ofRank_val (negative : Bool) (r : Fin (f.infinityRank + 1)) :
    (ofRank negative r.val : Binary f) = .number negative r := by
  have hle : r.val ≤ f.infinityRank := Nat.lt_succ_iff.mp r.isLt
  simp [ofRank, Nat.min_eq_left hle]

/-- A float is not changed by conversion to its own format. -/
@[simp]
theorem convert_self (x : Binary f) : (x.convert : Binary f) = x := by
  cases x with
  | nan => rfl
  | number negative r =>
      have hle : r.val ≤ f.infinityRank := Nat.lt_succ_iff.mp r.isLt
      rw [convert]
      by_cases hinf : r.val = f.infinityRank
      · rw [if_pos hinf, ← hinf, ofRank_val]
      · rw [if_neg hinf, ofQuotient, f.nearestRank_units hle, ofRank_val]

theorem isFinite_eq_false_of_isInfinite {x : Binary f} (h : x.isInfinite = true) :
    x.isFinite = false := by
  cases x with
  | nan => rfl
  | number negative r =>
      rw [isInfinite, beq_iff_eq] at h
      simp [isFinite, h]

/-- Infinities are infinite in every format. -/
theorem isInfinite_convert {x : Binary f} (h : x.isInfinite = true) :
    (x.convert : Binary g).isInfinite = true := by
  cases x with
  | nan => cases h
  | number negative r =>
      rw [isInfinite, beq_iff_eq] at h
      rw [convert, if_pos h]
      simp [ofRank, isInfinite]

/-- A float that is neither finite nor infinite is not a number, and it stays so. -/
theorem isInfinite_of_isInfinite_convert {x : Binary f} (hfinite : x.isFinite = false)
    (h : (x.convert : Binary g).isInfinite = true) : x.isInfinite = true := by
  cases x with
  | nan => cases h
  | number negative r =>
      rw [isFinite, bne_eq_false_iff_eq] at hfinite
      rw [isInfinite, beq_iff_eq]
      exact hfinite

/-- A float that can be narrowed is infinite as a single float only if it is infinite. -/
theorem isInfinite_of_narrow? {x : Binary f} {y : Single} (h : x.narrow? = some y)
    (hy : (x.convert : Single).isInfinite = true) : x.isInfinite = true := by
  unfold narrow? at h
  cases hfinite : x.isFinite with
  | false => exact isInfinite_of_isInfinite_convert hfinite hy
  | true => simp [hy, hfinite] at h

theorem narrow?_eq_none_iff {x : Binary f} :
    x.narrow? = none ↔ (x.convert : Single).isInfinite = true ∧ x.isFinite = true := by
  unfold narrow?
  cases hinf : (x.convert : Single).isInfinite <;> simp [hinf]

theorem narrow?_of_isNone_eq_false {x : Binary f} (h : x.narrow?.isNone = false) :
    x.narrow? = some x.convert := by
  unfold narrow? at h ⊢
  by_cases hout : ((x.convert : Single).isInfinite && x.isFinite) = true
  · simp [hout] at h
  · exact if_neg hout

/-- The bits of the one not-a-number are above those of infinity. -/
theorem toBits_nan_mem (hfraction : 0 < f.fractionBits) :
    f.infinityRank < (nan : Binary f).toBits ∧ (nan : Binary f).toBits < 2 ^ f.magnitudeBits := by
  have hquiet : 2 ^ (f.fractionBits - 1) < f.binade :=
    Nat.pow_lt_pow_right (by omega) (by omega)
  have hpos : 0 < 2 ^ (f.fractionBits - 1) := Nat.two_pow_pos _
  have hroom := f.infinityRank_add_binade
  rw [toBits]
  omega

theorem toBits_lt (hfraction : 0 < f.fractionBits) (x : Binary f) :
    x.toBits < 2 ^ (f.magnitudeBits + 1) := by
  have hdouble : 2 ^ (f.magnitudeBits + 1) = 2 * 2 ^ f.magnitudeBits := Nat.pow_succ'
  cases x with
  | nan =>
      have := (toBits_nan_mem hfraction).2
      omega
  | number negative r =>
      have hle : r.val ≤ f.infinityRank := Nat.lt_succ_iff.mp r.isLt
      have hlt := f.infinityRank_lt
      rw [toBits]
      split <;> omega

/-- A float is read back from its bit pattern. -/
theorem ofBits_toBits (hfraction : 0 < f.fractionBits) (x : Binary f) :
    ofBits x.toBits = x := by
  cases x with
  | nan =>
      obtain ⟨hinf, hlt⟩ := toBits_nan_mem hfraction
      rw [ofBits, Nat.mod_eq_of_lt hlt, if_neg (by omega)]
  | number negative r =>
      have hle : r.val ≤ f.infinityRank := Nat.lt_succ_iff.mp r.isLt
      have hlt : r.val < 2 ^ f.magnitudeBits := by
        have := f.infinityRank_lt
        omega
      have hpos : 0 < 2 ^ f.magnitudeBits := Nat.two_pow_pos _
      cases negative with
      | false =>
          have hbits : (number false r : Binary f).toBits = r.val := by simp [toBits]
          rw [ofBits, hbits, Nat.mod_eq_of_lt hlt, if_pos hle, Nat.div_eq_of_lt hlt]
          exact ofRank_val false r
      | true =>
          have hbits : (number true r : Binary f).toBits = 2 ^ f.magnitudeBits + r.val := by
            simp [toBits]
          rw [ofBits, hbits, Nat.add_mod_left, Nat.mod_eq_of_lt hlt, if_pos hle,
            Nat.add_div_left _ hpos, Nat.div_eq_of_lt hlt]
          exact ofRank_val true r

end Binary

end VectorRequests
