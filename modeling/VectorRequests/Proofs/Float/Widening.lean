/-
# Widening is exact

A wider format has room for every magnitude of a narrower one: more places for its digits, a
finer unit below and a higher binade above. So a float that is widened is not rounded, and
what is converted by way of a wider format is rounded only once; narrowing it again finds it.
Plain values of stored cells therefore tell the cells apart.
-/

import VectorRequests.Column.Reader
import VectorRequests.Proofs.Float.Range

namespace VectorRequests

namespace FloatFormat

variable (f g : FloatFormat)

/-- A magnitude whose places fill the fraction field, with zeros behind them. -/
theorem units_mul_add {m e : Nat} (hlow : f.binade ≤ m) (hm : m < 2 * f.binade) :
    f.units (e * f.binade + m) = m * 2 ^ e := by
  have hdiv : (e * f.binade + m) / f.binade = e + 1 := by
    rw [Nat.add_comm, Nat.add_mul_div_right _ _ f.binade_pos,
      Nat.div_eq_of_lt_le (k := 1) (by omega) (by omega), Nat.add_comm]
  have hmod : (e * f.binade + m) % f.binade = m - f.binade := by
    rw [Nat.add_comm, Nat.add_mul_mod_self_right, Nat.mod_eq_sub_mod hlow,
      Nat.mod_eq_of_lt (by omega)]
  rw [units, if_neg (by omega), hdiv, hmod, Nat.add_sub_cancel, Nat.add_sub_cancel' hlow]

/-- A format has room for whole numbers of few places that are not too far up. The induction
is on the zeros behind the places, which are moved into them while there is room. -/
theorem exists_units_eq {m e : Nat} (hexponent : 2 ≤ f.exponentBits) (hm : m < 2 * f.binade)
    (he : e ≤ f.topShift) : ∃ rank < f.infinityRank, f.units rank = m * 2 ^ e := by
  have hroom := f.infinityRank_eq hexponent
  induction e generalizing m with
  | zero =>
      by_cases hsmall : m < f.binade
      · refine ⟨m, by omega, ?_⟩
        rw [units, if_pos hsmall, Nat.pow_zero, Nat.mul_one]
      · refine ⟨0 * f.binade + m, by omega, f.units_mul_add (by omega) hm⟩
  | succ e ih =>
      by_cases hsmall : m < f.binade
      · obtain ⟨rank, hrank, hunits⟩ := ih (m := 2 * m) (by omega) (by omega)
        refine ⟨rank, hrank, ?_⟩
        rw [hunits, Nat.pow_succ']
        ring
      · have htop : (e + 1) * f.binade ≤ f.topShift * f.binade := Nat.mul_le_mul_right _ he
        exact ⟨(e + 1) * f.binade + m, by omega, f.units_mul_add (by omega) hm⟩

/-- A finite magnitude is a whole number of few places. -/
theorem exists_places {rank : Nat} (hexponent : 2 ≤ f.exponentBits) (h : rank < f.infinityRank) :
    ∃ m e, m < 2 * f.binade ∧ e ≤ f.topShift ∧ f.units rank = m * 2 ^ e := by
  have hpos := f.binade_pos
  have hroom := f.infinityRank_eq hexponent
  have hdiv : rank / f.binade < f.topShift + 2 := by
    rw [Nat.div_lt_iff_lt_mul hpos, Nat.add_mul]
    omega
  refine ⟨_, _, ?_, ?_, f.units_eq_mul rank⟩
  · have hsplit : rank / f.binade * f.binade + rank % f.binade = rank := Nat.div_add_mod' _ _
    have hrest : rank % f.binade < f.binade := Nat.mod_lt _ hpos
    rw [Nat.sub_mul]
    omega
  · omega

/-- A format that has more places, a unit that is finer by so many bits and a higher top than
another one. -/
structure Widens (finer : Nat) : Prop where
  places : f.fractionBits ≤ g.fractionBits
  finest : g.finestBits = f.finestBits + finer
  top : f.topShift + finer ≤ g.topShift
  exponents : 2 ≤ f.exponentBits ∧ 2 ≤ g.exponentBits

theorem half_widens : Widens half double 1050 := by
  constructor <;> decide

theorem single_widens : Widens single double 925 := by
  constructor <;> decide

theorem double_widens : Widens double double 0 := by
  constructor <;> decide

/-- Which whole number is nearest does not depend on how the quotient is written. -/
theorem roundHalfEven_mul_mul {n d c : Nat} (hc : 0 < c) :
    roundHalfEven (n * c) (d * c) = roundHalfEven n d := by
  have hdouble : 2 * (n % d * c) = 2 * (n % d) * c := (Nat.mul_assoc _ _ _).symm
  simp only [roundHalfEven, Nat.mul_div_mul_right n d hc, Nat.mul_mod_mul_right, hdouble,
    Nat.mul_lt_mul_right hc]

/-- Which magnitude is nearest does not depend on how the quotient is written. -/
theorem nearestRank_mul_mul {n d c : Nat} (hc : 0 < c) :
    f.nearestRank (n * c) (d * c) = f.nearestRank n d := by
  have hunit (shift : Nat) : d * c * 2 ^ shift = d * 2 ^ shift * c := Nat.mul_right_comm _ _ _
  simp only [nearestRank, Nat.mul_div_mul_right n d hc, hunit, roundHalfEven_mul_mul hc]

variable {f g} {finer : Nat}

/-- A finite magnitude is a finite magnitude of a wider format. -/
theorem Widens.exists_units_eq (h : Widens f g finer) {rank : Nat} (hrank : rank < f.infinityRank) :
    ∃ wide < g.infinityRank, g.units wide = f.units rank * 2 ^ finer := by
  obtain ⟨m, e, hm, he, hunits⟩ := f.exists_places h.exponents.1 hrank
  have hplaces : f.binade ≤ g.binade := Nat.pow_le_pow_right (by omega) h.places
  have htop := h.top
  obtain ⟨wide, hwide, hsame⟩ :=
    g.exists_units_eq (m := m) (e := e + finer) h.exponents.2 (by omega) (by omega)
  exact ⟨wide, hwide, by rw [hsame, hunits, Nat.pow_add, Nat.mul_assoc]⟩

end FloatFormat

namespace Binary

variable {f g : FloatFormat} {finer : Nat}

theorem convert_number {negative : Bool} {r : Fin (f.infinityRank + 1)}
    (h : r.val ≠ f.infinityRank) :
    (number negative r : Binary f).convert =
      (ofRank negative (g.nearestRank (f.units r.val * 2 ^ g.finestBits) (2 ^ f.finestBits)) :
        Binary g) := by
  rw [convert, if_neg h, ofQuotient]

/-- A finite float is widened to a finite float of the same size. -/
theorem exists_convert_eq (h : f.Widens g finer) (negative : Bool) {r : Fin (f.infinityRank + 1)}
    (hfinite : r.val ≠ f.infinityRank) :
    ∃ y : Fin (g.infinityRank + 1), y.val ≠ g.infinityRank ∧
      (number negative r : Binary f).convert = (number negative y : Binary g) ∧
      g.units y.val = f.units r.val * 2 ^ finer := by
  have hle : r.val ≤ f.infinityRank := Nat.lt_succ_iff.mp r.isLt
  obtain ⟨wide, hwide, hunits⟩ := h.exists_units_eq (Nat.lt_of_le_of_ne hle hfinite)
  have hup : f.units r.val * 2 ^ g.finestBits = g.units wide * 2 ^ f.finestBits := by
    rw [hunits, h.finest, Nat.pow_add]
    ring
  let y : Fin (g.infinityRank + 1) := ⟨wide, by omega⟩
  refine ⟨y, Nat.ne_of_lt hwide, ?_, hunits⟩
  rw [convert_number hfinite, hup, g.nearestRank_units_mul (by omega) (Nat.two_pow_pos _)]
  exact ofRank_val negative y

theorem convert_infinite {negative : Bool} {r : Fin (f.infinityRank + 1)}
    (h : r.val = f.infinityRank) :
    (number negative r : Binary f).convert =
      (number negative ⟨g.infinityRank, Nat.lt_succ_self _⟩ : Binary g) := by
  rw [convert, if_pos h]
  exact ofRank_val negative ⟨g.infinityRank, Nat.lt_succ_self _⟩

/-- A float that is widened first is rounded as if it were not. -/
theorem convert_convert (h : f.Widens g finer) (k : FloatFormat) (x : Binary f) :
    ((x.convert : Binary g).convert : Binary k) = x.convert := by
  cases x with
  | nan => rfl
  | number negative r =>
      by_cases hinf : r.val = f.infinityRank
      · rw [convert_infinite hinf, convert_infinite rfl, convert_infinite hinf]
      · obtain ⟨y, hfinite, hconvert, hunits⟩ := exists_convert_eq h negative hinf
        have hscaled : g.units y.val * 2 ^ k.finestBits =
            f.units r.val * 2 ^ k.finestBits * 2 ^ finer := by
          rw [hunits]
          ring
        rw [hconvert, convert_number hfinite, convert_number hinf, hscaled, h.finest, Nat.pow_add,
          k.nearestRank_mul_mul (Nat.two_pow_pos finer)]

/-- Widening keeps finite floats finite, and the others what they are. -/
theorem isFinite_convert (h : f.Widens g finer) (x : Binary f) :
    (x.convert : Binary g).isFinite = x.isFinite := by
  cases x with
  | nan => rfl
  | number negative r =>
      by_cases hinf : r.val = f.infinityRank
      · rw [convert_infinite hinf]
        simp [isFinite, hinf]
      · obtain ⟨y, hfinite, hconvert, -⟩ := exists_convert_eq h negative hinf
        rw [hconvert, isFinite, isFinite, bne_iff_ne.mpr hfinite, bne_iff_ne.mpr hinf]

/-- A float that is widened first is narrowed to the same single float, if it can be. -/
theorem narrow?_convert (h : f.Widens g finer) (x : Binary f) :
    (x.convert : Binary g).narrow? = x.narrow? := by
  rw [narrow?, narrow?, convert_convert h, isFinite_convert h]

end Binary

/-- Plain values tell the cells of a typed array apart. -/
theorem NumericKind.plain_injective (kind : NumericKind) :
    Function.Injective kind.elementType.plain := by
  cases kind with
  | long | int =>
      intro v w h
      have hvalue := Value.int.inj h
      rw [← IntFormat.wrap_value _ v, ← IntFormat.wrap_value _ w]
      exact congrArg _ hvalue
  | bool => exact fun _ _ h => Value.bool.inj h
  | float =>
      intro x y h
      have hwide : (Binary.convert (f := .single) x : Double) = Binary.convert (f := .single) y :=
        Value.float.inj h
      have hback := congrArg (Binary.convert (g := .single)) hwide
      have hself (z : Single) : ((z.convert : Double).convert : Single) = z :=
        (Binary.convert_convert FloatFormat.single_widens _ z).trans (Binary.convert_self z)
      exact (hself x).symm.trans (hback.trans (hself y))
  | double =>
      intro x y h
      have hsame : (Binary.convert (f := .double) x : Double) = Binary.convert (f := .double) y :=
        Value.float.inj h
      exact (Binary.convert_self (f := .double) x).symm.trans
        (hsame.trans (Binary.convert_self (f := .double) y))

end VectorRequests
