/-
# Rows of a column

A column that is given comes with its items as rows. Rows of vectors pass the check exactly if
each of them can be read, there are some, and all share a size above zero.
-/

import VectorRequests.Column.Marshal
import VectorRequests.Proofs.Value.Sequence
import VectorRequests.Proofs.Value.Text

namespace VectorRequests.Column

variable {field : Value} {type : DataType}

/-! ## Rows that are given -/

/-- The rows that a column is checked and packed with are its items. -/
theorem iterate_of_rowsOf {column : Value} {values : List Value}
    (h : rowsOf field type column = .ok values) :
    column.iterate = .ok values ∧ column.length = .ok values.length := by
  cases column with
  | list xs =>
      cases h
      exact ⟨rfl, rfl⟩
  | tuple xs =>
      cases h
      exact ⟨rfl, rfl⟩
  | range start stop step =>
      have hiterate : (Value.range start stop step).iterate = .ok values := by
        rw [rowsOf] at h
        split at h
        · obtain ⟨_, -, hitems⟩ := Outcome.bind_eq_ok.mp h
          exact iterate_of_itemsFor hitems
        · exact iterate_of_itemsFor h
      exact ⟨hiterate, length_of_iterate trivial hiterate⟩
  | tensor t =>
      have hiterate : (Value.tensor t).iterate = .ok values := h
      exact ⟨hiterate, length_of_iterate trivial hiterate⟩
  | null | bool | int | float | text | bytes | buffer | set | mapping | sized | dataType
    | placeholderType | msgType | dslType | scalarKind | metric | vector | column
    | record | object => cases h

theorem isProper_of_properType {given : Value} (h : properType field given = .ok type) :
    type.isProper = true ∧ given = .dataType type := by
  cases given with
  | dataType t =>
      rw [properType] at h
      by_cases hproper : t.isProper = true
      · rw [if_pos hproper] at h
        cases h
        exact ⟨hproper, rfl⟩
      · rw [if_neg hproper] at h
        cases h
  | _ => cases (Value.withText_eq_ok_iff.mp h).2

/-- A column that is given comes with a proper type and with the rows that a walk over it
visits, as many as its length says. -/
theorem of_typedRows {given column : Value} {values : List Value}
    (h : typedRows field given column = .ok (type, values)) :
    given = .dataType type ∧ type.isProper = true ∧ column.iterate = .ok values ∧
      column.length = .ok values.length := by
  have hparts : (do
      let type ← properType field given
      return (type, ← rowsOf field type column)) = .ok (type, values) := by
    cases column with
    | null => cases h
    | _ => exact h
  obtain ⟨t, htype, hrest⟩ := Outcome.bind_eq_ok.mp hparts
  obtain ⟨xs, hrows, hpair⟩ := Outcome.bind_eq_ok.mp hrest
  cases hpair
  obtain ⟨hproper, hgiven⟩ := isProper_of_properType htype
  exact ⟨hgiven, hproper, iterate_of_rowsOf hrows⟩

/-! ## Checks of rows -/

/-- The name that rows of a column have in messages. -/
abbrev rowName : String := "The type of FloatVector"

theorem binaryRow_eq_ok_iff {v : Value} {bs : List UInt8} :
    binaryRow field v = .ok bs ↔ v = .bytes bs ∨ v = .buffer bs := by
  cases v with
  | bytes ys => simp [binaryRow]
  | buffer ys => simp [binaryRow]
  | _ => simp [binaryRow, Error.refuseField]

theorem inField_eq_ok {α : Type} {x : Outcome α} {a : α} :
    inField field x = .ok a ↔ x = .ok a := by
  unfold inField
  split
  · simp [Error.refuseField]
  · rfl

theorem checkSizes_eq_ok_iff {fault : Nat → Nat → Nat → ParamFault} {expected index : Nat}
    {sizes : List Nat} :
    checkSizes field fault expected index sizes = .ok () ↔ ∀ size ∈ sizes, size = expected := by
  induction sizes generalizing index with
  | nil => simp [checkSizes]
  | cons size sizes ih =>
      rw [checkSizes, List.forall_mem_cons]
      by_cases hsize : size = expected
      · rw [if_pos hsize, ih]
        simp [hsize]
      · rw [if_neg hsize]
        simp [hsize, Error.refuseField]

/-- Rows pass if there are some and all share a size above zero. -/
theorem checkRows_eq_ok_iff {kind : VectorKind} {fault : Nat → Nat → Nat → ParamFault}
    {sizes : List Nat} :
    checkRows field kind fault sizes = .ok () ↔
      sizes ≠ [] ∧ ∃ shared, 0 < shared ∧ ∀ size ∈ sizes, size = shared := by
  cases sizes with
  | nil => simp [checkRows, Error.refuseField]
  | cons size sizes =>
      cases size with
      | zero =>
          simp only [checkRows, Error.refuseField, reduceCtorEq, false_iff, not_and]
          rintro - ⟨shared, hpos, hall⟩
          have hzero : 0 = shared := hall 0 (List.mem_cons_self ..)
          omega
      | succ size =>
          rw [checkRows, checkSizes_eq_ok_iff]
          · constructor
            · intro hall
              refine ⟨by simp, size + 1, Nat.succ_pos _, ?_⟩
              exact List.forall_mem_cons.mpr ⟨rfl, hall⟩
            · rintro ⟨-, shared, -, hall⟩
              obtain ⟨hhead, hrest⟩ := List.forall_mem_cons.mp hall
              rw [hhead]
              exact hrest
          · simp

theorem floatRows_eq_ok_iff {values : List Value} {rows : List (List Single)} :
    floatRows field values = .ok rows ↔
      List.Forall₂ (fun v row => Row.read rowName v = .ok row) values rows ∧
        rows ≠ [] ∧ ∃ dim, 0 < dim ∧ ∀ row ∈ rows, row.length = dim := by
  have hwalk (rows : List (List Single)) :
      (values.mapM fun row => inField field (Row.read rowName row)) = .ok rows ↔
        List.Forall₂ (fun v row => Row.read rowName v = .ok row) values rows := by
    rw [Outcome.mapM_eq_ok_iff]
    simp only [inField_eq_ok]
  unfold floatRows
  rw [Outcome.bind_eq_ok]
  constructor
  · rintro ⟨found, hfound, hrest⟩
    obtain ⟨⟨⟩, hcheck, hsame⟩ := Outcome.bind_eq_ok.mp hrest
    cases hsame
    obtain ⟨hsome, dim, hpos, hsize⟩ := checkRows_eq_ok_iff.mp hcheck
    refine ⟨(hwalk _).mp hfound, ?_, dim, hpos, ?_⟩
    · simpa using hsome
    · simpa using hsize
  · rintro ⟨hrows, hsome, dim, hpos, hsize⟩
    refine ⟨rows, (hwalk rows).mpr hrows, Outcome.bind_eq_ok.mpr ⟨(), ?_, rfl⟩⟩
    exact checkRows_eq_ok_iff.mpr ⟨by simpa using hsome, dim, hpos, by simpa using hsize⟩

theorem binaryRows_eq_ok_iff {values : List Value} {rows : List (List UInt8)} :
    binaryRows field values = .ok rows ↔
      List.Forall₂ (fun v row => binaryRow field v = .ok row) values rows ∧
        rows ≠ [] ∧ ∃ width, 0 < width ∧ ∀ row ∈ rows, row.length = width := by
  unfold binaryRows
  rw [Outcome.bind_eq_ok]
  constructor
  · rintro ⟨found, hfound, hrest⟩
    obtain ⟨⟨⟩, hcheck, hsame⟩ := Outcome.bind_eq_ok.mp hrest
    cases hsame
    obtain ⟨hsome, width, hpos, hsize⟩ := checkRows_eq_ok_iff.mp hcheck
    refine ⟨Outcome.mapM_eq_ok_iff.mp hfound, ?_, width, hpos, ?_⟩
    · simpa using hsome
    · simpa using hsize
  · rintro ⟨hrows, hsome, width, hpos, hsize⟩
    refine ⟨rows, Outcome.mapM_eq_ok_iff.mpr hrows, Outcome.bind_eq_ok.mpr ⟨(), ?_, rfl⟩⟩
    exact checkRows_eq_ok_iff.mpr ⟨by simpa using hsome, width, hpos, by simpa using hsize⟩

end VectorRequests.Column
