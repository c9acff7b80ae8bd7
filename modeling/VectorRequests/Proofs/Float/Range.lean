/-
# Where magnitudes become infinite

The nearest magnitude is infinity from half a step above the largest finite one on, and below
that it is finite. So the integers without a double float and the floats without a single one
are known by their size, and no word and no half float is among them.
-/

import VectorRequests.Proofs.Float.Identity
import VectorRequests.Number.IntFormat

namespace VectorRequests

namespace FloatFormat

variable (f : FloatFormat) {n d : Nat}

/-- The places of the largest finite magnitude above those of the fraction field. -/
def topShift : Nat := 2 ^ f.exponentBits - 3

/-- The magnitude that lies half a step above the largest finite one, in halves of a unit. -/
def overflowHalves : Nat := (2 ^ (f.fractionBits + 2) - 1) * 2 ^ f.topShift

theorem le_roundHalfEven (n d : Nat) : n / d ≤ roundHalfEven n d := by
  unfold roundHalfEven
  split
  · exact Nat.le_refl _
  · split <;> omega

theorem roundHalfEven_le (n d : Nat) : roundHalfEven n d ≤ n / d + 1 := by
  unfold roundHalfEven
  split
  · omega
  · split <;> omega

/-- What is rounded up to an even number lies at most half below it. -/
theorem even_le_roundHalfEven_iff {q : Nat} (hd : 0 < d) (heven : q % 2 = 0) (hq : 0 < q) :
    q ≤ roundHalfEven n d ↔ (2 * q - 1) * d ≤ 2 * n := by
  have hsplit : n / d * d + n % d = n := Nat.div_add_mod' n d
  have hrest : n % d < d := Nat.mod_lt n hd
  rcases Nat.lt_trichotomy (n / d + 1) q with hlow | hnext | hhigh
  · have hround := roundHalfEven_le n d
    have hproduct : 2 * (n / d) + 3 ≤ 2 * q - 1 := by omega
    have hscaled : (2 * (n / d) + 3) * d ≤ (2 * q - 1) * d := Nat.mul_le_mul_right d hproduct
    refine iff_of_false (by omega) ?_
    rw [Nat.add_mul, Nat.mul_assoc] at hscaled
    omega
  · have hodd : 2 * q - 1 = 2 * (n / d) + 1 := by omega
    rw [hodd, Nat.add_mul, Nat.mul_assoc]
    unfold roundHalfEven
    split
    · omega
    · split <;> omega
  · have hround := le_roundHalfEven n d
    have hscaled : (2 * q - 1) * d ≤ 2 * (n / d) * d := Nat.mul_le_mul_right d (by omega)
    refine iff_of_true (by omega) ?_
    rw [Nat.mul_assoc] at hscaled
    omega

/-- A quotient that needs no more places than so many is bounded by them. -/
theorem lt_of_log2_le {s : Nat} (hd : 0 < d) (h : (n / d).log2 ≤ s) : n < 2 ^ (s + 1) * d := by
  have hquotient : n / d < 2 ^ (s + 1) :=
    Nat.lt_of_lt_of_le Nat.lt_log2_self (Nat.pow_le_pow_right (by omega) (by omega))
  exact (Nat.div_lt_iff_lt_mul hd).mp hquotient

theorem le_of_le_log2 {s : Nat} (hd : 0 < d) (hs : 0 < s) (h : s ≤ (n / d).log2) :
    2 ^ s * d ≤ n := by
  have hne : n / d ≠ 0 := by
    intro hzero
    rw [hzero, Nat.log2_zero] at h
    omega
  exact (Nat.le_div_iff_mul_le hd).mp ((Nat.le_log2 hne).mp h)

theorem infinityRank_eq (hexponent : 2 ≤ f.exponentBits) :
    f.infinityRank = f.topShift * f.binade + 2 * f.binade := by
  have hfour : 2 ^ 2 ≤ 2 ^ f.exponentBits := Nat.pow_le_pow_right (by omega) hexponent
  rw [infinityRank, topShift, ← Nat.add_mul]
  congr 1
  omega

theorem overflowHalves_mul (d : Nat) :
    f.overflowHalves * d = (2 * (2 * f.binade) - 1) * (d * 2 ^ f.topShift) := by
  have hquad : 2 ^ (f.fractionBits + 2) = 2 * (2 * f.binade) := by
    rw [Nat.pow_succ', Nat.pow_succ', binade]
  rw [overflowHalves, hquad, Nat.mul_assoc, Nat.mul_comm (2 ^ f.topShift)]

theorem two_pow_add_mul (shift d : Nat) :
    2 ^ (f.fractionBits + shift) * d = f.binade * (d * 2 ^ shift) := by
  rw [Nat.pow_add, Nat.mul_assoc, Nat.mul_comm (2 ^ shift), binade]

/-- A magnitude below the top binade does not reach infinity. -/
theorem lt_of_shift_lt_topShift {shift : Nat} (hd : 0 < d)
    (hplaces : (n / d).log2 ≤ f.fractionBits + shift) (h : shift < f.topShift) :
    shift * f.binade + roundHalfEven n (d * 2 ^ shift) <
        f.topShift * f.binade + 2 * f.binade ∧
      2 * n < (2 * (2 * f.binade) - 1) * (d * 2 ^ f.topShift) := by
  have hunit : 0 < d * 2 ^ shift := Nat.mul_pos hd (Nat.two_pow_pos shift)
  have hn : n < 2 * f.binade * (d * 2 ^ shift) := by
    have hlt := lt_of_log2_le hd hplaces
    rwa [Nat.pow_succ', Nat.mul_assoc, f.two_pow_add_mul, ← Nat.mul_assoc] at hlt
  constructor
  · have hquotient : n / (d * 2 ^ shift) < 2 * f.binade := (Nat.div_lt_iff_lt_mul hunit).mpr hn
    have hround := roundHalfEven_le n (d * 2 ^ shift)
    have hstep : (shift + 1) * f.binade ≤ f.topShift * f.binade := Nat.mul_le_mul_right _ h
    rw [Nat.succ_mul] at hstep
    have hpos := f.binade_pos
    omega
  · have htop : 2 * (d * 2 ^ shift) ≤ d * 2 ^ f.topShift := by
      calc 2 * (d * 2 ^ shift) = d * 2 ^ (shift + 1) := by rw [Nat.pow_succ']; ring
        _ ≤ d * 2 ^ f.topShift := Nat.mul_le_mul_left _ (Nat.pow_le_pow_right (by omega) h)
    have hpos := f.binade_pos
    calc 2 * n < 2 * (2 * f.binade * (d * 2 ^ shift)) := by omega
      _ = 2 * f.binade * (2 * (d * 2 ^ shift)) := by ring
      _ ≤ 2 * f.binade * (d * 2 ^ f.topShift) := Nat.mul_le_mul_left _ htop
      _ ≤ (2 * (2 * f.binade) - 1) * (d * 2 ^ f.topShift) :=
        Nat.mul_le_mul_right _ (by omega)

/-- A magnitude above the top binade is beyond infinity. -/
theorem le_of_topShift_lt_shift {shift : Nat} (hd : 0 < d)
    (hplaces : f.fractionBits + shift ≤ (n / d).log2) (h : f.topShift < shift) :
    f.topShift * f.binade + 2 * f.binade ≤
        shift * f.binade + roundHalfEven n (d * 2 ^ shift) ∧
      (2 * (2 * f.binade) - 1) * (d * 2 ^ f.topShift) ≤ 2 * n := by
  have hunit : 0 < d * 2 ^ shift := Nat.mul_pos hd (Nat.two_pow_pos shift)
  have hn : f.binade * (d * 2 ^ shift) ≤ n := by
    have hle := le_of_le_log2 hd (by omega) hplaces
    rwa [f.two_pow_add_mul] at hle
  constructor
  · have hquotient : f.binade ≤ n / (d * 2 ^ shift) := (Nat.le_div_iff_mul_le hunit).mpr hn
    have hround := le_roundHalfEven n (d * 2 ^ shift)
    have hstep : (f.topShift + 1) * f.binade ≤ shift * f.binade := Nat.mul_le_mul_right _ h
    rw [Nat.succ_mul] at hstep
    omega
  · have htop : 2 * (d * 2 ^ f.topShift) ≤ d * 2 ^ shift := by
      calc 2 * (d * 2 ^ f.topShift) = d * 2 ^ (f.topShift + 1) := by rw [Nat.pow_succ']; ring
        _ ≤ d * 2 ^ shift := Nat.mul_le_mul_left _ (Nat.pow_le_pow_right (by omega) h)
    calc (2 * (2 * f.binade) - 1) * (d * 2 ^ f.topShift)
        ≤ 2 * (2 * f.binade) * (d * 2 ^ f.topShift) := Nat.mul_le_mul_right _ (Nat.sub_le _ _)
      _ = 2 * (f.binade * (2 * (d * 2 ^ f.topShift))) := by ring
      _ ≤ 2 * (f.binade * (d * 2 ^ shift)) :=
        Nat.mul_le_mul_left _ (Nat.mul_le_mul_left _ htop)
      _ ≤ 2 * n := Nat.mul_le_mul_left _ hn

/-- The nearest magnitude is infinity from half a step above the largest finite one on. -/
theorem nearestRank_eq_infinityRank_iff (hd : 0 < d) (hexponent : 2 ≤ f.exponentBits) :
    f.nearestRank n d = f.infinityRank ↔ f.overflowHalves * d ≤ 2 * n := by
  unfold nearestRank
  dsimp only
  rw [min_eq_right_iff, f.infinityRank_eq hexponent, f.overflowHalves_mul]
  generalize hshift : (n / d).log2 - f.fractionBits = shift
  rcases Nat.lt_trichotomy shift f.topShift with hlow | rfl | hhigh
  · obtain ⟨hrank, hhalves⟩ := f.lt_of_shift_lt_topShift (n := n) hd (by omega) hlow
    exact iff_of_false (Nat.not_le.mpr hrank) (Nat.not_le.mpr hhalves)
  · have hpos := f.binade_pos
    have hunit : 0 < d * 2 ^ f.topShift := Nat.mul_pos hd (Nat.two_pow_pos _)
    rw [Nat.add_le_add_iff_left, even_le_roundHalfEven_iff hunit (by omega) (by omega)]
  · obtain ⟨hrank, hhalves⟩ := f.le_of_topShift_lt_shift (n := n) hd (by omega) hhigh
    exact iff_of_true hrank hhalves

/-- A finite magnitude has no more units than the top binade gives room for. -/
theorem units_lt {rank : Nat} (h : rank ≤ f.infinityRank) :
    f.units rank < 2 * f.binade * 2 ^ (2 ^ f.exponentBits - 2) := by
  have hpos := f.binade_pos
  unfold units
  split
  · calc rank < 2 * f.binade := by omega
      _ ≤ 2 * f.binade * 2 ^ (2 ^ f.exponentBits - 2) :=
        Nat.le_mul_of_pos_right _ (Nat.two_pow_pos _)
  · have hrest : rank % f.binade < f.binade := Nat.mod_lt _ hpos
    have hplaces : rank / f.binade ≤ 2 ^ f.exponentBits - 1 := by
      have hdiv := Nat.div_le_div_right (c := f.binade) h
      rwa [infinityRank, Nat.mul_div_cancel _ hpos] at hdiv
    calc (f.binade + rank % f.binade) * 2 ^ (rank / f.binade - 1)
        < 2 * f.binade * 2 ^ (rank / f.binade - 1) :=
          Nat.mul_lt_mul_of_pos_right (by omega) (Nat.two_pow_pos _)
      _ ≤ 2 * f.binade * 2 ^ (2 ^ f.exponentBits - 2) :=
        Nat.mul_le_mul_left _ (Nat.pow_le_pow_right (by omega) (by omega))

end FloatFormat

namespace Binary

variable {f g : FloatFormat} {negative : Bool} {n d : Nat}

theorem isInfinite_ofQuotient_iff (hd : 0 < d) (hexponent : 2 ≤ f.exponentBits) :
    (ofQuotient negative n d : Binary f).isInfinite = true ↔
      f.overflowHalves * d ≤ 2 * (n * 2 ^ f.finestBits) := by
  rw [← f.nearestRank_eq_infinityRank_iff hd hexponent]
  have hrank := f.nearestRank_le_infinityRank (n * 2 ^ f.finestBits) d
  show (min (f.nearestRank (n * 2 ^ f.finestBits) d) f.infinityRank == f.infinityRank) = true ↔ _
  rw [Nat.min_eq_left hrank, beq_iff_eq]

/-- Where half a step above the largest float is a whole number, what reaches that number is
infinite. -/
theorem isInfinite_ofQuotient_iff_limit_le {limit : Nat} (hd : 0 < d)
    (hexponent : 2 ≤ f.exponentBits)
    (hlimit : f.overflowHalves = limit * 2 ^ (f.finestBits + 1)) :
    (ofQuotient negative n d : Binary f).isInfinite = true ↔ limit * d ≤ n := by
  have hscaled : f.overflowHalves * d = 2 * (limit * d * 2 ^ f.finestBits) := by
    rw [hlimit, Nat.pow_succ]
    ring
  rw [isInfinite_ofQuotient_iff hd hexponent, hscaled, Nat.mul_le_mul_left_iff Nat.two_pos,
    Nat.mul_le_mul_right_iff (Nat.two_pow_pos _)]

/-- The least magnitude of an integer without a double float. -/
def doubleLimit : Nat := 2 ^ 1024 - 2 ^ 970

theorem overflowHalves_double :
    FloatFormat.double.overflowHalves = doubleLimit * 2 ^ (FloatFormat.double.finestBits + 1) := by
  decide +kernel

/-- An integer has no double float exactly if it lies half a step above the largest one. -/
theorem ofInt?_double_eq_none_iff {i : Int} :
    (ofInt? i : Option Double) = none ↔ doubleLimit ≤ i.natAbs := by
  have hinfinite : (nearestInt i : Double).isInfinite = true ↔ doubleLimit ≤ i.natAbs := by
    rw [nearestInt, isInfinite_ofQuotient_iff_limit_le Nat.one_pos (by decide)
      overflowHalves_double, Nat.mul_one]
  rw [← hinfinite, ofInt?]
  cases (nearestInt i : Double).isInfinite <;> simp

/-- The least magnitude of a number without a single float. -/
def singleLimit : Nat := 2 ^ 128 - 2 ^ 103

theorem overflowHalves_single :
    FloatFormat.single.overflowHalves = singleLimit * 2 ^ (FloatFormat.single.finestBits + 1) := by
  decide +kernel

/-- A finite float that lies half a step or more above the largest single float. -/
def IsBeyondSingle (x : Binary f) : Prop :=
  ∃ n d, x.toQuotient? = some (n, d) ∧ singleLimit * d ≤ n.natAbs

/-- A float cannot be narrowed exactly if it is that large. -/
theorem narrow?_eq_none_iff_isBeyondSingle {x : Binary f} :
    x.narrow? = none ↔ x.IsBeyondSingle := by
  rw [narrow?_eq_none_iff]
  cases x with
  | nan => exact iff_of_false nofun nofun
  | number negative r =>
      by_cases hinf : r.val = f.infinityRank
      · exact iff_of_false (by simp [isFinite, hinf]) (by simp [IsBeyondSingle, toQuotient?, hinf])
      · have hinfinite : ((number negative r).convert : Single).isInfinite = true ↔
            singleLimit * 2 ^ f.finestBits ≤ f.units r.val := by
          rw [convert, if_neg hinf, isInfinite_ofQuotient_iff_limit_le (Nat.two_pow_pos _)
            (by decide) overflowHalves_single]
        have hbeyond : (number negative r).IsBeyondSingle ↔
            singleLimit * 2 ^ f.finestBits ≤ f.units r.val := by
          cases negative <;> simp [IsBeyondSingle, toQuotient?, hinf]
        rw [hinfinite, hbeyond]
        simp [isFinite, hinf]

/-- All other floats are narrowed to the nearest single float. -/
theorem narrow?_eq_some_convert_iff {x : Binary f} :
    x.narrow? = some x.convert ↔ ¬ x.IsBeyondSingle := by
  rw [← narrow?_eq_none_iff_isBeyondSingle]
  constructor
  · intro hsome
    rw [hsome]
    nofun
  · intro hsome
    refine narrow?_of_isNone_eq_false (Option.isNone_eq_false_iff.mpr ?_)
    exact Option.isSome_iff_ne_none.mpr hsome

/-- An integer of no more than eight bytes has a single float. -/
theorem isInfinite_nearestInt_single {i : Int} (h : i.natAbs ≤ 2 ^ 64) :
    (nearestInt i : Single).isInfinite = false := by
  have hlimit : 2 ^ 64 < singleLimit := by decide
  rw [← Bool.not_eq_true, nearestInt,
    isInfinite_ofQuotient_iff_limit_le Nat.one_pos (by decide) overflowHalves_single]
  omega

/-- A finite half float has a single float. -/
theorem isInfinite_of_isInfinite_convert_half {x : Half}
    (h : (x.convert : Single).isInfinite = true) : x.isInfinite = true := by
  cases x with
  | nan => cases h
  | number negative r =>
      have hunits := FloatFormat.half.units_lt (Nat.lt_succ_iff.mp r.isLt)
      have hroom : 2 * FloatFormat.half.binade * 2 ^ (2 ^ FloatFormat.half.exponentBits - 2) ≤
          singleLimit * 2 ^ FloatFormat.half.finestBits := by decide
      rw [isInfinite, beq_iff_eq]
      by_contra hfinite
      rw [convert, if_neg hfinite, isInfinite_ofQuotient_iff_limit_le (Nat.two_pow_pos _)
        (by decide) overflowHalves_single] at h
      omega

end Binary

end VectorRequests
