/-
# Columns that are not refused but break

Marshalling a column ends in a column or in a refusal that names the field, unless an operation
on values fails first. A row by itself breaks a column of float vectors with an integer beyond
the range of double floats, and a column of integers with one that is out of range and too long
for the text of the refusal. As a whole a column of a proper type breaks where it has no
dimension to walk over, or where its length is no machine number. What is no data type at all
breaks the refusal if it has no text.
-/

import VectorRequests.Proofs.Column.Agreement
import VectorRequests.Proofs.Text.Integer
import VectorRequests.Proofs.Vector.Row

namespace VectorRequests.Column

open VectorRequests.Text

variable {field : Value} {type : DataType} {fault : Fault}

/-! ## Rows by themselves -/

/-- The rows that break a column of a proper type, each with the fault that it breaks with. -/
inductive RowBreaks (type : DataType) : Value → Fault → Prop
  | huge {row : Value} (htype : type = .floatVector) (hrow : Row.HoldsHuge row) :
      RowBreaks type row .overflow
  | unwritable {f : IntFormat} {i : Int} (hformat : type.intFormat? = some f)
      (hlong : ¬ Integer.IsShort i) : RowBreaks type (.int i) .badValue

theorem inField_eq_failed_iff {α : Type} {x : Outcome α} :
    inField field x = .error (.failed fault) ↔ x = .error (.failed fault) := by
  unfold inField
  split
  · simp [Error.refuseField]
  · rfl

/-- The integers of a type have a text. -/
theorem isShort_of_inRange {f : IntFormat} {i : Int} (hformat : type.intFormat? = some f)
    (hleast : f.least ≤ i) (hgreatest : i ≤ f.greatest) : Integer.IsShort i := by
  have hbounds : -(2 ^ (63 : Nat)) ≤ f.least ∧ f.greatest < 2 ^ (63 : Nat) := by
    cases type with
    | int8 | int16 | int32 | int64 =>
        cases hformat
        exact ⟨by decide, by decide⟩
    | unrecognized | none | bool | float | double | string | varchar | binaryVector
      | floatVector => cases hformat
  have hdigits : i.natAbs < 10 ^ 19 := by omega
  exact Integer.isShort_of_lt (by decide) (by decide) hdigits

/-- Only integers are items without a text. -/
theorem int_of_accepts {item : ItemKind} {v : Value} (haccepts : item.accepts v = true)
    (htext : v.hasText = false) : item = .int ∧ ∃ i, v = .int i ∧ ¬ Integer.IsShort i := by
  cases v with
  | int i =>
      cases item with
      | int => exact ⟨rfl, i, rfl, of_decide_eq_false htext⟩
      | bool | float | text => cases haccepts
  | list | tuple | set | range | mapping | column | record => cases item <;> cases haccepts
  | _ => cases htext

/-- Only an item that is out of the range of its type, and has no text to show, is neither taken
nor refused. -/
theorem of_checkItem_eq_failed {item : ItemKind} {v : Value}
    (h : checkItem field type item v = .error (.failed fault)) :
    item.accepts v = true ∧ v.hasText = false ∧ fault = .badValue := by
  unfold checkItem at h
  split at h
  · cases h
  next haccepts =>
    split at h
    next hrange =>
      obtain ⟨-, hrefused⟩ | ⟨htext, hfault⟩ := Value.withText_eq_error_iff.mp h
      · cases hrefused
      · cases hfault
        exact ⟨not_not.mp haccepts, htext, rfl⟩
    · cases h

/-- An integer without a text is out of the range of every type. -/
theorem checkItem_of_not_isShort {f : IntFormat} (hformat : type.intFormat? = some f) {i : Int}
    (hlong : ¬ Integer.IsShort i) :
    checkItem field type .int (.int i) = .error (.failed .badValue) := by
  have hrange : isOutOfRange type (.int i) = true := by
    have hi : ItemKind.int? (.int i) = some i := rfl
    rw [isOutOfRange, hformat, hi]
    by_contra hin
    simp only [Bool.or_eq_true, decide_eq_true_eq, not_or, Int.not_lt] at hin
    exact hlong (isShort_of_inRange hformat hin.1 hin.2)
  have haccepts : ¬ ¬ ItemKind.int.accepts (.int i) = true := not_not.mpr rfl
  have htext : (Value.int i).hasText = false := decide_eq_false hlong
  rw [checkItem, if_neg haccepts, if_pos hrange]
  exact Value.withText_of_not_hasText htext _

/-- Integers are the items of exactly the types that have a range of integers. -/
theorem eq_int_iff_of_storage? {storage : ScalarKind} {item : ItemKind}
    (hstorage : type.storage? = some (storage, item)) :
    item = .int ↔ ∃ f, type.intFormat? = some f := by
  cases type with
  | int8 | int16 | int32 | int64 =>
      cases hstorage
      exact iff_of_true rfl ⟨_, rfl⟩
  | bool | float | double | string | varchar =>
      cases hstorage
      simp [DataType.intFormat?]
  | unrecognized | none | binaryVector | floatVector => cases hstorage

/-- An item is out of the range of an integer type, and there is no text of it to show. -/
theorem checkItem_eq_failed_iff {storage : ScalarKind} {item : ItemKind}
    (hstorage : type.storage? = some (storage, item)) {v : Value} :
    checkItem field type item v = .error (.failed fault) ↔ RowBreaks type v fault := by
  constructor
  · intro h
    obtain ⟨haccepts, htext, rfl⟩ := of_checkItem_eq_failed h
    obtain ⟨hitem, i, rfl, hlong⟩ := int_of_accepts haccepts htext
    obtain ⟨f, hformat⟩ := (eq_int_iff_of_storage? hstorage).mp hitem
    exact .unwritable hformat hlong
  · intro h
    cases h with
    | huge htype =>
        subst htype
        cases hstorage
    | unwritable hformat hlong =>
        obtain rfl := (eq_int_iff_of_storage? hstorage).mpr ⟨_, hformat⟩
        exact checkItem_of_not_isShort hformat hlong

theorem checkRow_eq_failed_iff (hproper : type.isProper = true) {v : Value} :
    checkRow field type v = .error (.failed fault) ↔ RowBreaks type v fault := by
  by_cases hfloat : type = .floatVector
  · subst hfloat
    rw [checkRow, Outcome.discard_eq_error_iff, inField_eq_failed_iff, Row.read_eq_failed_iff]
    constructor
    · rintro ⟨rfl, hhuge⟩
      exact .huge rfl hhuge
    · rintro (⟨-, hhuge⟩ | hformat)
      · exact ⟨rfl, hhuge⟩
      · cases hformat
  · by_cases hbinary : type = .binaryVector
    · subst hbinary
      rw [checkRow, Outcome.discard_eq_error_iff]
      refine iff_of_false (ne_failed_of_refuses (refuses_binaryRow v)) ?_
      rintro (⟨htype, -⟩ | hformat)
      · cases htype
      · cases hformat
    · obtain ⟨storage, item, hstorage⟩ := exists_storage? hproper hfloat hbinary
      rw [checkRow_scalars hstorage, checkItem_eq_failed_iff hstorage]

/-! ## Rows together -/

/-- A row breaks what comes after rows that all pass. -/
def BreaksAt (field : Value) (type : DataType) (rows : List Value) (fault : Fault) : Prop :=
  ∃ before row after, rows = before ++ row :: after ∧
    (∀ v ∈ before, checkRow field type v = .ok ()) ∧ RowBreaks type row fault

theorem checkRow_floatVector_eq_ok_iff {v : Value} :
    checkRow field .floatVector v = .ok () ↔ ∃ xs, inField field (Row.read rowName v) = .ok xs :=
  Outcome.discard_eq_ok_iff

theorem floatRows_eq_failed_iff {values : List Value} :
    floatRows field values = .error (.failed fault) ↔
      BreaksAt field .floatVector values fault := by
  have hrest (rows : List (List Single)) :
      (do checkRows field .float .unequalFloatRow (rows.map List.length)
          return rows) ≠ .error (.failed fault) := by
    intro h
    rcases Outcome.check_bind_eq_error.mp h with hrows | ⟨-, hpure⟩
    · refine ne_failed_of_refuses (refuses_checkRows ?_ _) hrows
      rintro _ _ _ ⟨⟩
    · cases hpure
  have hrow (v : Value) : inField field (Row.read rowName v) = .error (.failed fault) ↔
      RowBreaks .floatVector v fault := by
    rw [← @checkRow_eq_failed_iff field .floatVector fault rfl v, checkRow,
      Outcome.discard_eq_error_iff]
  rw [floatRows, Outcome.bind_eq_error, BreaksAt]
  simp only [hrest, and_false, exists_false, or_false, Outcome.mapM_eq_error_iff, hrow,
    checkRow_floatVector_eq_ok_iff]

/-- Rows that are given break a column at the first of them that breaks it. -/
theorem checkContent_eq_failed_iff (hproper : type.isProper = true) {values : List Value} :
    checkContent field type values = .error (.failed fault) ↔
      BreaksAt field type values fault := by
  by_cases hfloat : type = .floatVector
  · subst hfloat
    rw [checkContent, Outcome.discard_eq_error_iff, floatRows_eq_failed_iff]
  · by_cases hbinary : type = .binaryVector
    · subst hbinary
      rw [checkContent, Outcome.discard_eq_error_iff]
      refine iff_of_false (ne_failed_of_refuses (refuses_binaryRows values)) ?_
      rintro ⟨_, _, _, -, -, hrow⟩
      rcases hrow with ⟨htype, -⟩ | hformat
      · cases htype
      · cases hformat
    · obtain ⟨storage, item, hstorage⟩ := exists_storage? hproper hfloat hbinary
      rw [checkContent_scalars hstorage, Outcome.forM_eq_error_iff, BreaksAt]
      simp only [checkRow_scalars hstorage, checkItem_eq_failed_iff hstorage]

/-! ## Columns -/

/-- The rows that a walk over a column comes to. -/
def visited : Value → List Value
  | .list xs => xs
  | .tuple xs => xs
  | .range start stop step => (Value.rangeTerms start stop step).map .int
  | .tensor t => t.items?.getD []
  | _ => []

/-- The columns of a proper type that break, each with the fault that it breaks with. -/
inductive Breaks (field : Value) (type : DataType) : Value → Fault → Prop
  | shapeless {t : Tensor} (hshape : t.shape = []) : Breaks field type (.tensor t) .wrongType
  | longRange {start stop step : Int} (hvector : type.isVector = true)
      (hlong : Value.maxLength < Value.rangeCount start stop step) :
      Breaks field type (.range start stop step) .overflow
  | longTerms {start stop step : Int} (hlong : IsUnlistable type start stop step) :
      Breaks field type (.range start stop step) .overflow
  | row {column : Value} {fault : Fault} (hrow : BreaksAt field type (visited column) fault) :
      Breaks field type column fault

theorem not_breaksAt_nil : ¬ BreaksAt field type [] fault := by
  rintro ⟨before, row, after, hsplit, -⟩
  simp at hsplit

/-- Integers break no column of vectors. -/
theorem not_breaksAt_ints (hvector : type.isVector = true) {is : List Int} :
    ¬ BreaksAt field type (is.map .int) fault := by
  rintro ⟨before, row, after, hsplit, -, hrow⟩
  have hmem : row ∈ is.map Value.int := by
    rw [hsplit]
    simp
  obtain ⟨i, -, rfl⟩ := List.mem_map.mp hmem
  cases hrow with
  | huge _ hhuge => exact Row.not_holdsHuge (by simp) hhuge
  | unwritable hformat =>
      cases type with
      | floatVector | binaryVector => cases hformat
      | _ => cases hvector

theorem runLoop_checkRow_eq_failed_iff (hproper : type.isProper = true) {start stop step : Int} :
    Value.runLoop (checkRow field type) (fun k => .int (start + k * step))
        (Value.rangeCount start stop step) 0 = .error (.failed fault) ↔
      BreaksAt field type ((Value.rangeTerms start stop step).map .int) fault := by
  rw [runLoop_range_eq_error_iff, BreaksAt]
  simp only [Unique.exists_iff, checkRow_eq_failed_iff hproper]

/-- A walk that comes to its end has not been broken. -/
theorem not_breaksAt_of_runLoop (hproper : type.isProper = true) {start stop step : Int}
    (h : Value.runLoop (checkRow field type) (fun k => .int (start + k * step))
      (Value.rangeCount start stop step) 0 = .ok ()) :
    ¬ BreaksAt field type ((Value.rangeTerms start stop step).map .int) fault := by
  intro hbreaks
  cases h.symm.trans ((runLoop_checkRow_eq_failed_iff hproper).mpr hbreaks)

/-- A range breaks a column of vectors only by its length. -/
theorem breaks_range_iff_of_isVector (hvector : type.isVector = true) {start stop step : Int} :
    Breaks field type (.range start stop step) fault ↔
      Value.maxLength < Value.rangeCount start stop step ∧ fault = .overflow := by
  constructor
  · intro h
    cases h with
    | longRange _ hlong => exact ⟨hlong, rfl⟩
    | longTerms hlong => exact ⟨hlong.unlisted, rfl⟩
    | row hrow => exact absurd hrow (not_breaksAt_ints hvector)
  · rintro ⟨hlong, rfl⟩
    exact .longRange hvector hlong

/-- A range whose terms all pass breaks a column of scalars only by its length. -/
theorem breaks_range_iff_of_runLoop (hproper : type.isProper = true)
    (hvector : ¬ type.isVector = true) {start stop step : Int}
    (hloop : Value.runLoop (checkRow field type) (fun k => .int (start + k * step))
      (Value.rangeCount start stop step) 0 = .ok ()) :
    Breaks field type (.range start stop step) fault ↔
      Value.maxLength < Value.rangeCount start stop step ∧ fault = .overflow := by
  constructor
  · intro h
    cases h with
    | longRange hvector' => exact absurd hvector' hvector
    | longTerms hlong => exact ⟨hlong.unlisted, rfl⟩
    | row hrow => exact absurd hrow (not_breaksAt_of_runLoop hproper hloop)
  · rintro ⟨hmany, rfl⟩
    have hsome := Nat.zero_lt_of_lt hmany
    exact .longTerms ⟨(runLoop_checkRow_eq_ok_iff hproper hsome).mp hloop, hmany⟩

/-- A range with a term that does not pass breaks a column of scalars at that term. -/
theorem breaks_range_iff_of_runLoop_eq_error (hproper : type.isProper = true)
    (hvector : ¬ type.isVector = true) {start stop step : Int} {e : Error}
    (hloop : Value.runLoop (checkRow field type) (fun k => .int (start + k * step))
      (Value.rangeCount start stop step) 0 = .error e) :
    Breaks field type (.range start stop step) fault ↔ e = .failed fault := by
  have hterms : e = .failed fault ↔
      BreaksAt field type ((Value.rangeTerms start stop step).map .int) fault := by
    rw [← runLoop_checkRow_eq_failed_iff hproper, hloop, Except.error.injEq]
  rw [hterms]
  constructor
  · intro h
    cases h with
    | longRange hvector' => exact absurd hvector' hvector
    | longTerms hlong =>
        have hpass := (@runLoop_checkRow_eq_ok_iff field type hproper start stop step
          (Nat.zero_lt_of_lt hlong.unlisted)).mpr hlong.admitted
        cases hloop.symm.trans hpass
    | row hrow => exact hrow
  · exact fun hrow => .row hrow

/-- The terms of a range that has a length are all refused as vectors. -/
theorem vector_terms_ne_failed (hproper : type.isProper = true) (hvector : type.isVector = true)
    {start stop step : Int} (hshort : Value.rangeCount start stop step ≤ Value.maxLength) :
    ((Value.range start stop step).itemsFor (checkRow field type) >>= checkContent field type) ≠
      .error (.failed fault) := by
  intro h
  obtain hitems | ⟨values, hvalues, hcontent⟩ := Outcome.bind_eq_error.mp h
  · rw [Value.itemsFor, Outcome.check_bind_eq_error] at hitems
    obtain hloop | ⟨-, hiterate⟩ := hitems
    · exact not_breaksAt_ints hvector ((runLoop_checkRow_eq_failed_iff hproper).mp hloop)
    · have hmany := (Value.iterate_range_eq_error_iff.mp hiterate).1
      exact absurd hshort (Nat.not_le.mpr hmany)
  · obtain ⟨rfl, -⟩ := Value.eq_terms_of_iterate (iterate_of_itemsFor hvalues)
    exact not_breaksAt_ints hvector ((checkContent_eq_failed_iff hproper).mp hcontent)

/-- A range of vectors is asked for its length, and then its first term is refused. -/
theorem range_eq_failed_iff_of_isVector (hproper : type.isProper = true)
    (hvector : type.isVector = true) {start stop step : Int} :
    (rowsOf field type (.range start stop step) >>= checkContent field type) =
        .error (.failed fault) ↔
      Breaks field type (.range start stop step) fault := by
  rw [breaks_range_iff_of_isVector hvector, rowsOf, if_pos hvector]
  cases hlength : (Value.range start stop step).length with
  | error e =>
      obtain ⟨hmany, rfl⟩ := Value.length_range_eq_error_iff.mp hlength
      show (.error _ : Outcome Unit) = _ ↔ _
      simp only [Except.error.injEq, Error.failed.injEq, hmany, true_and, eq_comm]
  | ok n =>
      have hshort : Value.rangeCount start stop step ≤ Value.maxLength := by
        by_contra hmany
        have herror := Value.length_range_eq_error_iff.mpr ⟨Nat.not_le.mp hmany, rfl⟩
        cases hlength.symm.trans herror
      refine iff_of_false (vector_terms_ne_failed hproper hvector hshort) ?_
      exact fun hmany => absurd hshort (Nat.not_le.mpr hmany.1)

/-- A range of scalars is walked over, and then it is listed. -/
theorem range_eq_failed_iff_of_not_isVector (hproper : type.isProper = true)
    (hvector : ¬ type.isVector = true) {start stop step : Int} :
    (rowsOf field type (.range start stop step) >>= checkContent field type) =
        .error (.failed fault) ↔
      Breaks field type (.range start stop step) fault := by
  rw [rowsOf_range_scalars hvector]
  cases hloop : Value.runLoop (checkRow field type) (fun k => .int (start + k * step))
      (Value.rangeCount start stop step) 0 with
  | error e =>
      show (.error e : Outcome Unit) = _ ↔ _
      rw [breaks_range_iff_of_runLoop_eq_error hproper hvector hloop, Except.error.injEq]
  | ok u =>
      rw [breaks_range_iff_of_runLoop hproper hvector hloop, Outcome.ok_bind]
      cases hiterate : (Value.range start stop step).iterate with
      | error e =>
          obtain ⟨hmany, rfl⟩ := Value.iterate_range_eq_error_iff.mp hiterate
          show (.error _ : Outcome Unit) = _ ↔ _
          simp only [Except.error.injEq, Error.failed.injEq, hmany, true_and, eq_comm]
      | ok values =>
          obtain ⟨rfl, hcount⟩ := Value.eq_terms_of_iterate hiterate
          have hpass : ∀ v ∈ (Value.rangeTerms start stop step).map .int,
              checkRow field type v = .ok () := by
            simpa only [Unique.exists_iff] using runLoop_range_eq_ok_iff.mp hloop
          rw [Outcome.ok_bind, checkContent_of_checkRow hproper hvector hpass]
          exact iff_of_false (by simp) fun h => absurd h.1 (Nat.not_lt.mpr hcount)

/-- A tensor breaks a column if it has no dimension to walk over, or where one of its items
does. -/
theorem tensor_eq_failed_iff (hproper : type.isProper = true) {t : Tensor} :
    (rowsOf field type (.tensor t) >>= checkContent field type) = .error (.failed fault) ↔
      Breaks field type (.tensor t) fault := by
  have hrows : rowsOf field type (.tensor t) = Value.tensorItems t := rfl
  rw [hrows, Value.tensorItems]
  cases hitems : t.items? with
  | none =>
      have hshape := Tensor.items?_eq_none_iff.mp hitems
      constructor
      · intro h
        cases h
        exact .shapeless hshape
      · intro h
        cases h with
        | shapeless => rfl
        | row hrow =>
            rw [visited, hitems] at hrow
            exact absurd hrow not_breaksAt_nil
  | some items =>
      have hvisited : visited (.tensor t) = items := by rw [visited, hitems]; rfl
      rw [Outcome.ok_bind, checkContent_eq_failed_iff hproper]
      constructor
      · intro h
        exact .row (hvisited ▸ h)
      · intro h
        cases h with
        | shapeless hshape => cases hitems.symm.trans (Tensor.items?_eq_none_iff.mpr hshape)
        | row hrow => exact hvisited ▸ hrow

/-- A column of a proper type breaks where its rows are walked over, or where they are read. -/
theorem breaks_iff (hproper : type.isProper = true) {column : Value} :
    (rowsOf field type column >>= checkContent field type) = .error (.failed fault) ↔
      Breaks field type column fault := by
  cases column with
  | list xs | tuple xs =>
      show checkContent field type xs = _ ↔ _
      rw [checkContent_eq_failed_iff hproper]
      constructor
      · exact fun h => .row h
      · rintro ⟨⟩
        assumption
  | range start stop step =>
      by_cases hvector : type.isVector = true
      · exact range_eq_failed_iff_of_isVector hproper hvector
      · exact range_eq_failed_iff_of_not_isVector hproper hvector
  | tensor t => exact tensor_eq_failed_iff hproper
  | _ =>
      refine iff_of_false nofun ?_
      rintro ⟨⟩
      exact not_breaksAt_nil (by assumption)

/-- What is no data type. -/
theorem properType_eq_failed_iff {given : Value} :
    properType field given = .error (.failed fault) ↔
      (∀ t, given ≠ .dataType t) ∧ given.hasText = false ∧ fault = .badValue := by
  unfold properType
  split
  next t =>
    refine iff_of_false ?_ fun h => h.1 t rfl
    split
    · nofun
    · nofun
  next hnone =>
    rw [Value.withText_eq_error_iff]
    constructor
    · rintro (⟨-, hrefused⟩ | ⟨htext, hfault⟩)
      · cases hrefused
      · cases hfault
        exact ⟨fun t ht => hnone t ht, htext, rfl⟩
    · rintro ⟨-, htext, rfl⟩
      exact .inr ⟨htext, rfl⟩

/-- The columns that are neither marshalled nor refused, each with the fault that comes of it. -/
inductive Fails (field : Value) : Value → Value → Fault → Prop
  | textless {given column : Value} (hsome : column ≠ .null) (hgiven : ∀ t, given ≠ .dataType t)
      (htext : given.hasText = false) : Fails field given column .badValue
  | breaks {type : DataType} {column : Value} {fault : Fault} (hproper : type.isProper = true)
      (h : Breaks field type column fault) : Fails field (.dataType type) column fault

theorem not_breaks_null : ¬ Breaks field type .null fault := by
  rintro ⟨⟩
  exact not_breaksAt_nil (by assumption)

/-- A column of a proper type fails where it is checked. -/
theorem marshal_dataType_eq_failed_iff (hproper : type.isProper = true) {column : Value} :
    marshal field (.dataType type) column = .error (.failed fault) ↔
      Breaks field type column fault := by
  by_cases hnull : column = .null
  · subst hnull
    exact iff_of_false nofun not_breaks_null
  · rw [← breaks_iff hproper, marshal_dataType hproper hnull, Outcome.bind_eq_error,
      Outcome.bind_eq_error]
    simp only [pack_eq_error_iff hproper]

/-- What is no proper type is refused, if it has a text, before the column is looked at. -/
theorem marshal_of_not_isProper {given column : Value} (hsome : column ≠ .null)
    (h : ¬ ∃ type, given = .dataType type ∧ type.isProper = true) :
    marshal field given column = .error (.failed fault) ↔
      properType field given = .error (.failed fault) := by
  rw [marshal, typedRows]
  · cases htype : properType field given with
    | error e =>
        show Except.error e = _ ↔ Except.error e = _
        simp only [Except.error.injEq]
    | ok type =>
        obtain ⟨hproper, hgiven⟩ := isProper_of_properType htype
        exact absurd ⟨type, hgiven, hproper⟩ h
  · exact hsome

theorem marshal_eq_failed_iff {given column : Value} :
    marshal field given column = .error (.failed fault) ↔ Fails field given column fault := by
  by_cases hgiven : ∃ type, given = .dataType type ∧ type.isProper = true
  · obtain ⟨type, rfl, hproper⟩ := hgiven
    rw [marshal_dataType_eq_failed_iff hproper]
    constructor
    · exact .breaks hproper
    · intro h
      cases h with
      | textless _ hgiven => exact absurd rfl (hgiven type)
      | breaks _ hbreaks => exact hbreaks
  · by_cases hnull : column = .null
    · subst hnull
      refine iff_of_false nofun ?_
      intro h
      cases h with
      | textless hsome => exact hsome rfl
      | breaks _ hbreaks => exact not_breaks_null hbreaks
    · rw [marshal_of_not_isProper hnull hgiven, properType_eq_failed_iff]
      constructor
      · rintro ⟨hnone, htext, rfl⟩
        exact .textless hnull hnone htext
      · intro h
        cases h with
        | textless _ hnone htext => exact ⟨hnone, htext, rfl⟩
        | breaks hproper => exact absurd ⟨_, rfl, hproper⟩ hgiven

/-- Marshalling answers with a column or with a refusal that names the field, except for the
columns that fail. Those end in the fault that comes of it. -/
theorem marshal_answers_iff (name : String) (given column : Value) :
    (((∃ r, marshal (.text name) given column = .ok r) ∨
        ∃ refusal, marshal (.text name) given column = .error (.refused refusal (.text name))) ↔
      ∀ fault, ¬ Fails (.text name) given column fault) ∧
      ∀ fault, marshal (.text name) given column = .error (.failed fault) ↔
        Fails (.text name) given column fault := by
  refine ⟨?_, fun fault => marshal_eq_failed_iff⟩
  simp only [← marshal_eq_failed_iff]
  constructor
  · rintro (⟨r, hr⟩ | ⟨refusal, hr⟩) fault hfailed
    · cases hfailed.symm.trans hr
    · cases hfailed.symm.trans hr
  · intro hsound
    cases hmarshal : marshal (.text name) given column with
    | ok r => exact .inl ⟨r, rfl⟩
    | error e =>
        cases complains_marshal (.text name) given column e hmarshal with
        | @refused refusal => exact .inr ⟨refusal, rfl⟩
        | failed fault => exact absurd hmarshal (hsound fault)

/-- An integer beyond the range of double floats in a row of floats is not refused. -/
theorem marshal_huge_number :
    marshal (.text "vec") (.dataType .floatVector) (.list [.list [.int (10 ^ 400)]]) =
      .error (.failed .overflow) ∧
    ¬ ((∃ r, marshal (.text "vec") (.dataType .floatVector) (.list [.list [.int (10 ^ 400)]]) =
          .ok r) ∨
        ∃ refusal, marshal (.text "vec") (.dataType .floatVector)
          (.list [.list [.int (10 ^ 400)]]) = .error (.refused refusal (.text "vec"))) := by
  have hbreaks : marshal (.text "vec") (.dataType .floatVector) (.list [.list [.int (10 ^ 400)]]) =
      .error (.failed .overflow) := by
    have hhuge : Row.IsHuge (.int (10 ^ 400)) := ⟨10 ^ 400, rfl, by decide +kernel⟩
    have hrow : Row.HoldsHuge (.list [.int (10 ^ 400)]) :=
      ⟨[.int (10 ^ 400)], .inl rfl, List.forall_mem_singleton.mpr rfl, _,
        List.mem_singleton_self _, hhuge⟩
    have hfirst : BreaksAt (.text "vec") .floatVector [.list [.int (10 ^ 400)]] .overflow :=
      ⟨[], _, [], rfl, nofun, .huge rfl hrow⟩
    exact marshal_eq_failed_iff.mpr (.breaks rfl (.row hfirst))
  rw [hbreaks]
  exact ⟨rfl, nofun⟩

end VectorRequests.Column
