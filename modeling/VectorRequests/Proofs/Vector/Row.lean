/-
# Reading a row of floats

A row is read if all its components are real numbers that can be narrowed to single floats.
What a row is called matters only to the refusal of one. Reading fails without a refusal only
at an integer that is too large for a double float, in a row of nothing but real numbers.
-/

import VectorRequests.Vector.Row
import VectorRequests.Proofs.Float.Range
import VectorRequests.Proofs.Outcome

namespace VectorRequests.Row

theorem narrow_eq_ok_iff {name : String} {xs : List Double} {row : List Single} :
    narrow name xs = .ok row ↔ xs.mapM Binary.narrow? = some row := by
  unfold narrow
  split
  next ys hys => simp [hys]
  next hnone => simp [hnone, Error.refuse]

/-- Floats are real numbers, and doubles already. -/
theorem read_floats (name : String) (xs : List Double) :
    read name (.list (xs.map .float)) = narrow name xs := by
  have hreal : (xs.map Value.float).forM (checkComponent name) = .ok () := by
    rw [Outcome.forM_eq_ok_iff]
    exact List.forall_mem_map.mpr fun _ _ => rfl
  have hdoubles : (xs.map Value.float).mapM toDouble = .ok xs := by
    rw [Outcome.mapM_eq_ok_iff, List.forall₂_map_left_iff]
    exact List.forall₂_same.mpr fun _ _ => rfl
  rw [read, readComponents, hreal, Outcome.ok_bind, hdoubles, Outcome.ok_bind]

theorem checkComponent_eq_ok_iff {name : String} {v : Value} :
    checkComponent name v = .ok () ↔ isReal v = true := by
  unfold checkComponent
  split
  next hreal => simp [hreal]
  next hreal => simp [hreal, Error.refuse]

theorem readComponents_eq_ok_iff {name : String} {xs : List Value} {row : List Single} :
    readComponents name xs = .ok row ↔
      (∀ x ∈ xs, isReal x = true) ∧
        ∃ ds, xs.mapM toDouble = .ok ds ∧ ds.mapM Binary.narrow? = some row := by
  rw [readComponents, Outcome.bind_eq_ok]
  constructor
  · rintro ⟨⟨⟩, hcheck, hrest⟩
    obtain ⟨ds, hds, hnarrow⟩ := Outcome.bind_eq_ok.mp hrest
    refine ⟨?_, ds, hds, narrow_eq_ok_iff.mp hnarrow⟩
    intro x hx
    exact checkComponent_eq_ok_iff.mp (Outcome.forM_eq_ok_iff.mp hcheck x hx)
  · rintro ⟨hreal, ds, hds, hnarrow⟩
    refine ⟨(), Outcome.forM_eq_ok_iff.mpr ?_, ?_⟩
    · intro x hx
      exact checkComponent_eq_ok_iff.mpr (hreal x hx)
    · exact Outcome.bind_eq_ok.mpr ⟨ds, hds, narrow_eq_ok_iff.mpr hnarrow⟩

/-- The name of a row matters only to its refusal. -/
theorem read_eq_ok_of_name {name other : String} {v : Value} {row : List Single}
    (h : read name v = .ok row) : read other v = .ok row := by
  cases v with
  | list xs => exact readComponents_eq_ok_iff.mpr (readComponents_eq_ok_iff.mp h)
  | tuple xs => exact readComponents_eq_ok_iff.mpr (readComponents_eq_ok_iff.mp h)
  | tensor t =>
      rw [read] at h ⊢
      by_cases hrow : t.shape.length = 1 ∧ t.type.isNumeric = true
      · rw [if_pos hrow] at h ⊢
        exact narrow_eq_ok_iff.mpr (narrow_eq_ok_iff.mp h)
      · rw [if_neg hrow] at h
        cases h
  | null | bool | int | float | text | bytes | buffer | set | range | mapping | sized | dataType
    | placeholderType | msgType | dslType | scalarKind | metric | vector | column
    | record | object => cases h

/-! ## Numbers beyond double floats -/

/-- An integer beyond the range of double floats. -/
def IsHuge (v : Value) : Prop :=
  ∃ i, v.toInt? = some i ∧ Binary.doubleLimit ≤ i.natAbs

/-- A row of real numbers, one of which is an integer beyond the range of double floats. -/
def HoldsHuge (v : Value) : Prop :=
  ∃ xs, (v = .list xs ∨ v = .tuple xs) ∧ (∀ x ∈ xs, isReal x = true) ∧ ∃ x ∈ xs, IsHuge x

/-- Numbers are given one by one in lists and tuples only. -/
theorem not_holdsHuge {v : Value} (h : ∀ xs, v ≠ .list xs ∧ v ≠ .tuple xs) : ¬ HoldsHuge v := by
  rintro ⟨xs, hlist | htuple, -⟩
  · exact (h xs).1 hlist
  · exact (h xs).2 htuple

theorem toDouble_eq_error_iff {v : Value} {e : Error} (hreal : isReal v = true) :
    toDouble v = .error e ↔ e = .failed .overflow ∧ IsHuge v := by
  unfold toDouble
  split
  next x => simp [IsHuge, Value.toInt?]
  next type cell => simp [IsHuge, Value.toInt?]
  next hfloat hsized =>
    have hint : v.toInt?.isSome = true := by
      cases v with
      | bool b => cases hreal
      | float x => exact absurd rfl (hfloat x)
      | sized type cell => exact absurd rfl (hsized type cell)
      | _ => exact hreal
    obtain ⟨i, hi⟩ := Option.isSome_iff_exists.mp hint
    have hhuge : IsHuge v ↔ (Binary.ofInt? i : Option Double) = none := by
      simp [IsHuge, hi, Binary.ofInt?_double_eq_none_iff]
    rw [hhuge, hi, Option.bind_some]
    cases (Binary.ofInt? i : Option Double) with
    | some x => simp
    | none => simp [Error.fail, eq_comm]

theorem narrow_ne_failed {name : String} {xs : List Double} {fault : Fault} :
    narrow name xs ≠ .error (.failed fault) := by
  unfold narrow
  split <;> simp [Error.refuse]

theorem checkComponent_ne_failed {name : String} {v : Value} {fault : Fault} :
    checkComponent name v ≠ .error (.failed fault) := by
  unfold checkComponent
  split <;> simp [Error.refuse]

/-- Components fail to be read exactly if they are real and one of them is too large. -/
theorem readComponents_eq_failed_iff {name : String} {xs : List Value} {fault : Fault} :
    readComponents name xs = .error (.failed fault) ↔
      fault = .overflow ∧ (∀ x ∈ xs, isReal x = true) ∧ ∃ x ∈ xs, IsHuge x := by
  have hcheck : xs.forM (checkComponent name) = .ok () ↔ ∀ x ∈ xs, isReal x = true := by
    simp only [Outcome.forM_eq_ok_iff, checkComponent_eq_ok_iff]
  rw [readComponents, Outcome.bind_eq_error]
  constructor
  · rintro (hwalk | ⟨⟨⟩, hpass, hrest⟩)
    · have hnever : Outcome.FailsOnly (· ≠ .failed fault) (xs.forM (checkComponent name)) :=
        Outcome.failsOnly_forM fun _ _ => Outcome.failsOnly_ne_iff.mpr checkComponent_ne_failed
      exact absurd hwalk (Outcome.failsOnly_ne_iff.mp hnever)
    · have hreal := hcheck.mp hpass
      obtain hdoubles | ⟨ds, -, hnarrow⟩ := Outcome.bind_eq_error.mp hrest
      · obtain ⟨before, x, after, rfl, -, hx⟩ := Outcome.mapM_eq_error_iff.mp hdoubles
        have hmem : x ∈ before ++ x :: after := by simp
        obtain ⟨hfault, hhuge⟩ := (toDouble_eq_error_iff (hreal x hmem)).mp hx
        cases hfault
        exact ⟨rfl, hreal, x, hmem, hhuge⟩
      · exact absurd hnarrow narrow_ne_failed
  · rintro ⟨rfl, hreal, x, hmem, hhuge⟩
    refine .inr ⟨(), hcheck.mpr hreal, Outcome.bind_eq_error.mpr (.inl ?_)⟩
    cases hdoubles : xs.mapM toDouble with
    | error e =>
        obtain ⟨before, y, after, rfl, -, hy⟩ := Outcome.mapM_eq_error_iff.mp hdoubles
        rw [((toDouble_eq_error_iff (hreal y (by simp))).mp hy).1]
    | ok ds =>
        have hx : toDouble x = .error (.failed .overflow) :=
          (toDouble_eq_error_iff (hreal x hmem)).mpr ⟨rfl, hhuge⟩
        obtain ⟨d, hd⟩ := Outcome.exists_mapM_eq_ok_iff.mp ⟨ds, hdoubles⟩ x hmem
        rw [hx] at hd
        cases hd

/-- A row fails to be read exactly if it is a row of real numbers with a huge one. -/
theorem read_eq_failed_iff {name : String} {v : Value} {fault : Fault} :
    read name v = .error (.failed fault) ↔ fault = .overflow ∧ HoldsHuge v := by
  cases v with
  | list xs =>
      rw [read, readComponents_eq_failed_iff]
      simp [HoldsHuge]
  | tuple xs =>
      rw [read, readComponents_eq_failed_iff]
      simp [HoldsHuge]
  | tensor t =>
      have hnever : read name (.tensor t) ≠ .error (.failed fault) := by
        rw [read]
        split
        · exact narrow_ne_failed
        · nofun
      exact iff_of_false hnever (by simp [HoldsHuge])
  | _ => simp [read, HoldsHuge, Error.refuse]

end VectorRequests.Row
