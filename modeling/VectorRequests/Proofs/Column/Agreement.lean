/-
# Checking and packing agree

Packing a column first makes the checks that validation makes, and whatever passes them is
packed: no storage of cells and no constructor of a record has anything left to refuse. So a
column is packed exactly if it is valid, and otherwise both end in one error. A refusal among
these errors names the field, and it is never one that a constructor of records makes.

Validation only walks over a range where packing lists it. That makes a difference for a range
of integers that are all in range but more than a length can say.
-/

import VectorRequests.Column.Basic
import VectorRequests.Proofs.Column.Packed

namespace VectorRequests

/-- The refusals that the constructors of records make. -/
inductive ParamFault.OfRecord : ParamFault → Prop
  | numbers (type : String) : OfRecord (.numbersOutOfRange type)
  | vectors : OfRecord .vectorPayloads
  | column : OfRecord .fieldPayloads

namespace Column

open Outcome (FailsOnly)

variable {field : Value} {type : DataType}

/-! ## Errors of the checks -/

/-- Refusals that a check makes itself and that name the field. -/
inductive Refuses (field : Value) : Error → Prop
  | intro {fault : ParamFault} (hcheck : ¬ fault.OfRecord) : Refuses field (.refused fault field)

/-- The errors of the checks of a column: refusals, and failures of operations on values. -/
inductive Complains (field : Value) : Error → Prop
  | refused {fault : ParamFault} (hcheck : ¬ fault.OfRecord) :
      Complains field (.refused fault field)
  | failed (fault : Fault) : Complains field (.failed fault)

theorem complains_of_refuses {α : Type} {x : Outcome α} (h : FailsOnly (Refuses field) x) :
    FailsOnly (Complains field) x := by
  refine h.mono ?_
  rintro _ ⟨hcheck⟩
  exact .refused hcheck

/-- A refusal that names the field is a refusal. -/
theorem refuses_of_refuses {α : Type} {x : Outcome α} (h : FailsOnly (Refuses field) x) :
    x.Refuses := by
  refine h.mono ?_
  rintro _ ⟨-⟩
  exact ⟨_, _, rfl⟩

/-- What only refuses does not fail. -/
theorem ne_failed_of_refuses {α : Type} {x : Outcome α} (h : FailsOnly (Refuses field) x)
    {fault : Fault} : x ≠ .error (.failed fault) := by
  intro he
  cases h _ he

theorem refuses_refuseField {α : Type} {fault : ParamFault} (h : ¬ fault.OfRecord) :
    FailsOnly (Refuses field) (Error.refuseField fault field : Outcome α) :=
  Outcome.failsOnly_error (.intro h)

theorem complains_refuseField {α : Type} {fault : ParamFault} (h : ¬ fault.OfRecord) :
    FailsOnly (Complains field) (Error.refuseField fault field : Outcome α) :=
  complains_of_refuses (refuses_refuseField h)

/-! ### Rows of floats, which know of no field -/

theorem complains_toDouble (v : Value) : FailsOnly (Complains .null) (Row.toDouble v) := by
  unfold Row.toDouble
  split
  · exact Outcome.failsOnly_ok _
  · exact Outcome.failsOnly_ok _
  · split
    · exact Outcome.failsOnly_ok _
    · exact Outcome.failsOnly_error (.failed _)

theorem refuses_narrow (name : String) (xs : List Double) :
    FailsOnly (Refuses .null) (Row.narrow name xs) := by
  unfold Row.narrow
  split
  · exact Outcome.failsOnly_ok _
  · exact Outcome.failsOnly_error (.intro nofun)

theorem refuses_checkComponent (name : String) (v : Value) :
    FailsOnly (Refuses .null) (Row.checkComponent name v) := by
  unfold Row.checkComponent
  split
  · exact Outcome.failsOnly_ok _
  · exact Outcome.failsOnly_error (.intro nofun)

theorem complains_readComponents (name : String) (xs : List Value) :
    FailsOnly (Complains .null) (Row.readComponents name xs) := by
  have hcheck (v : Value) := complains_of_refuses (refuses_checkComponent name v)
  refine (Outcome.failsOnly_forM fun v _ => hcheck v).bind fun _ _ => ?_
  exact (Outcome.failsOnly_mapM fun v _ => complains_toDouble v).bind fun ds _ =>
    complains_of_refuses (refuses_narrow name ds)

theorem complains_read (name : String) (v : Value) :
    FailsOnly (Complains .null) (Row.read name v) := by
  cases v with
  | list xs => exact complains_readComponents name xs
  | tuple xs => exact complains_readComponents name xs
  | tensor t =>
      rw [Row.read]
      split
      · exact complains_of_refuses (refuses_narrow name _)
      · exact Outcome.failsOnly_error (.refused nofun)
  | _ => exact Outcome.failsOnly_error (.refused nofun)

/-! ### Rows and items of a column -/

/-- What is wrong with a row is said in the name of the field. -/
theorem complains_inField {α : Type} {x : Outcome α} (h : FailsOnly (Complains .null) x) :
    FailsOnly (Complains field) (inField field x) := by
  cases x with
  | ok a => exact Outcome.failsOnly_ok a
  | error e =>
      cases h e rfl with
      | refused hcheck => exact Outcome.failsOnly_error (.refused hcheck)
      | failed fault => exact Outcome.failsOnly_error (.failed fault)

theorem refuses_binaryRow (v : Value) : FailsOnly (Refuses field) (binaryRow field v) := by
  cases v with
  | bytes bs => exact Outcome.failsOnly_ok bs
  | buffer bs => exact Outcome.failsOnly_ok bs
  | _ => exact refuses_refuseField nofun

theorem refuses_checkSizes {fault : Nat → Nat → Nat → ParamFault}
    (hfault : ∀ index size expected, ¬ (fault index size expected).OfRecord)
    (expected index : Nat) (sizes : List Nat) :
    FailsOnly (Refuses field) (checkSizes field fault expected index sizes) := by
  induction sizes generalizing index with
  | nil => exact Outcome.failsOnly_ok ()
  | cons size sizes ih =>
      rw [checkSizes]
      split
      · exact ih (index + 1)
      · exact refuses_refuseField (hfault _ _ _)

theorem refuses_checkRows {kind : VectorKind} {fault : Nat → Nat → Nat → ParamFault}
    (hfault : ∀ index size expected, ¬ (fault index size expected).OfRecord) (sizes : List Nat) :
    FailsOnly (Refuses field) (checkRows field kind fault sizes) := by
  unfold checkRows
  split
  · exact refuses_refuseField nofun
  · exact refuses_refuseField nofun
  · exact refuses_checkSizes hfault _ _ _

theorem complains_floatRows (values : List Value) :
    FailsOnly (Complains field) (floatRows field values) := by
  refine (Outcome.failsOnly_mapM fun v _ => complains_inField (complains_read _ v)).bind
    fun rows _ => ?_
  refine (complains_of_refuses (refuses_checkRows ?_ _)).bind fun _ _ => Outcome.failsOnly_ok rows
  rintro _ _ _ ⟨⟩

theorem refuses_binaryRows (values : List Value) :
    FailsOnly (Refuses field) (binaryRows field values) := by
  refine (Outcome.failsOnly_mapM fun v _ => refuses_binaryRow v).bind fun rows _ => ?_
  refine (refuses_checkRows ?_ _).bind fun _ _ => Outcome.failsOnly_ok rows
  rintro _ _ _ ⟨⟩

/-- An item with a text can be refused by name. -/
theorem refuses_checkItem (kind : ItemKind) {v : Value} (htext : v.hasText = true) :
    FailsOnly (Refuses field) (checkItem field type kind v) := by
  unfold checkItem
  split
  · exact refuses_refuseField nofun
  · split
    · rw [Value.withText_of_hasText htext]
      exact refuses_refuseField nofun
    · exact Outcome.failsOnly_ok ()

theorem complains_checkItem (kind : ItemKind) (v : Value) :
    FailsOnly (Complains field) (checkItem field type kind v) := by
  unfold checkItem
  split
  · exact complains_refuseField nofun
  · split
    · exact Value.failsOnly_withText (complains_refuseField nofun) fun _ => .failed _
    · exact Outcome.failsOnly_ok ()

theorem complains_checkRow (v : Value) : FailsOnly (Complains field) (checkRow field type v) := by
  unfold checkRow
  split
  · exact Outcome.failsOnly_discard (complains_inField (complains_read _ v))
  · exact complains_of_refuses (Outcome.failsOnly_discard (refuses_binaryRow v))
  · exact complains_checkItem _ v
  · exact Outcome.failsOnly_ok ()

theorem complains_rowsOf (column : Value) :
    FailsOnly (Complains field) (rowsOf field type column) := by
  have hloop : FailsOnly (Complains field) (column.itemsFor (checkRow field type)) :=
    failsOnly_itemsFor complains_checkRow .failed column
  have hsequence (name : String) : ¬ (ParamFault.valuesNotSequence name).OfRecord := nofun
  cases column with
  | list xs => exact Outcome.failsOnly_ok xs
  | tuple xs => exact Outcome.failsOnly_ok xs
  | range start stop step =>
      have hlength : FailsOnly (Complains field) (Value.range start stop step).length := by
        rw [Value.length]
        split
        · exact Outcome.failsOnly_ok _
        · exact Outcome.failsOnly_error (.failed _)
      rw [rowsOf]
      split
      · exact (Outcome.failsOnly_discard hlength).bind fun _ _ => hloop
      · exact hloop
  | tensor t => exact hloop
  | _ => exact complains_refuseField (hsequence _)

theorem complains_properType (given : Value) :
    FailsOnly (Complains field) (properType field given) := by
  unfold properType
  split
  · split
    · exact Outcome.failsOnly_ok _
    · exact complains_refuseField nofun
  · exact Value.failsOnly_withText (complains_refuseField nofun) fun _ => .failed _

theorem complains_typedRows (given column : Value) :
    FailsOnly (Complains field) (typedRows field given column) := by
  cases column with
  | null => exact complains_refuseField nofun
  | _ =>
      exact (complains_properType given).bind fun t _ =>
        (complains_rowsOf _).bind fun rows _ => Outcome.failsOnly_ok _

theorem complains_checkContent (values : List Value) :
    FailsOnly (Complains field) (checkContent field type values) := by
  unfold checkContent
  split
  · exact Outcome.failsOnly_discard (complains_floatRows values)
  · exact complains_of_refuses (Outcome.failsOnly_discard (refuses_binaryRows values))
  · split
    · exact Outcome.failsOnly_forM fun v _ => complains_checkItem _ v
    · exact Outcome.failsOnly_ok ()

/-! ## Packing after the checks -/

theorem pack_eq_ok_of_checkContent {values : List Value} (hproper : type.isProper = true)
    (h : checkContent field type values = .ok ()) : ∃ r, pack field type values = .ok r := by
  obtain ⟨r, hr⟩ := exists_packed_of_checkContent hproper h
  exact ⟨r, pack_of_packed hr⟩

/-- What fails a check is not packed, for the same reason. -/
theorem pack_eq_error_of_checkContent {values : List Value} {e : Error}
    (hproper : type.isProper = true) (h : checkContent field type values = .error e) :
    pack field type values = .error e := by
  by_cases hfloat : type = .floatVector
  · subst hfloat
    have hrows : floatRows field values = .error e := Outcome.discard_eq_error_iff.mp h
    rw [pack, hrows]
    rfl
  · by_cases hbinary : type = .binaryVector
    · subst hbinary
      have hrows : binaryRows field values = .error e := Outcome.discard_eq_error_iff.mp h
      rw [pack, hrows]
      rfl
    · obtain ⟨storage, item, hstorage⟩ := exists_storage? hproper hfloat hbinary
      rw [checkContent_scalars hstorage] at h
      rw [pack_scalars hstorage, h]
      rfl

theorem checkContent_eq_map_pack {values : List Value} (hproper : type.isProper = true) :
    checkContent field type values = (pack field type values).map fun _ => () := by
  cases hcheck : checkContent field type values with
  | ok u =>
      obtain ⟨r, hr⟩ := pack_eq_ok_of_checkContent hproper hcheck
      rw [hr]
      rfl
  | error e =>
      rw [pack_eq_error_of_checkContent hproper hcheck]
      rfl

theorem pack_eq_error_iff (hproper : type.isProper = true) {values : List Value} {e : Error} :
    pack field type values = .error e ↔ checkContent field type values = .error e := by
  rw [checkContent_eq_map_pack hproper]
  cases pack field type values with
  | ok r => exact iff_of_false nofun nofun
  | error e' =>
      show Except.error e' = .error e ↔ Except.error e' = .error e
      simp only [Except.error.injEq]

theorem complains_marshal (field given column : Value) :
    FailsOnly (Complains field) (marshal field given column) := by
  refine (complains_typedRows given column).bind fun ⟨t, rows⟩ htyped => ?_
  intro e he
  have hproper := (of_typedRows htyped).2.1
  exact complains_checkContent rows e ((pack_eq_error_iff hproper).mp he)

/-! ## Columns that are marshalled -/

/-- Rows of scalar types are items of their kind. -/
theorem checkRow_scalars {v : Value} {storage : ScalarKind} {item : ItemKind}
    (h : type.storage? = some (storage, item)) :
    checkRow field type v = checkItem field type item v := by
  cases type with
  | bool | int8 | int16 | int32 | int64 | float | double | string | varchar => cases h; rfl
  | unrecognized | none | binaryVector | floatVector => cases h

/-- Every row of a column that is packed passes by itself. -/
theorem checkRow_of_packed {values : List Value} {r : FieldData}
    (h : Packed field type values r) : ∀ v ∈ values, checkRow field type v = .ok () := by
  intro v hv
  cases h with
  | floats hrows =>
      obtain ⟨row, hread, -⟩ := exists_of_forall₂ hrows (fun _ _ => trivial) v hv
      rw [checkRow, hread]
      rfl
  | packed hrows =>
      obtain ⟨bs, hread, -⟩ := exists_of_forall₂ hrows (fun _ _ => trivial) v hv
      rw [checkRow, hread]
      rfl
  | numeric hstorage hitems =>
      rw [checkRow_scalars hstorage]
      exact hitems v hv
  | strings hstorage hitems =>
      rw [checkRow_scalars hstorage]
      exact hitems v hv

/-- A sequence whose items can be packed is taken as these items. -/
theorem rowsOf_of_packed {column : Value} {values : List Value} {r : FieldData}
    (hsequence : column.IsSequence) (hitems : column.iterate = .ok values)
    (h : Packed field type values r) : rowsOf field type column = .ok values := by
  have hloop : column.itemsFor (checkRow field type) = .ok values :=
    itemsFor_of_iterate hitems fun v hv => ⟨(), checkRow_of_packed h v hv⟩
  cases column with
  | list xs => exact hitems
  | tuple xs => exact hitems
  | range start stop step =>
      rw [rowsOf]
      split
      · rw [length_of_iterate hsequence hitems]
        exact hloop
      · exact hloop
  | tensor t => exact hloop
  | _ => cases hsequence

theorem marshal_dataType (hproper : type.isProper = true) {column : Value}
    (hsome : column ≠ .null) :
    marshal field (.dataType type) column = (rowsOf field type column >>= pack field type) := by
  have htype : properType field (.dataType type) = .ok type := if_pos hproper
  rw [marshal, typedRows, htype, Outcome.ok_bind]
  · cases rowsOf field type column <;> rfl
  · exact hsome

theorem marshal_list {rows : List Value} (hproper : type.isProper = true) :
    marshal field (.dataType type) (.list rows) = pack field type rows :=
  marshal_dataType hproper (by simp)

theorem marshal_tuple {rows : List Value} (hproper : type.isProper = true) :
    marshal field (.dataType type) (.tuple rows) = pack field type rows :=
  marshal_dataType hproper (by simp)

/-- A sequence is marshalled as what its items are packed as. -/
theorem marshal_eq_ok_iff {column : Value} {r : FieldData} (hsequence : column.IsSequence) :
    marshal field (.dataType type) column = .ok r ↔
      ∃ values, column.iterate = .ok values ∧ Packed field type values r := by
  constructor
  · exact exists_packed_of_marshal
  · rintro ⟨values, hitems, hpacked⟩
    have hproper : type.isProper = true := (checkContent_of_pack (pack_of_packed hpacked)).1
    have hsome : column ≠ .null := by
      rintro rfl
      cases hsequence
    rw [marshal_dataType hproper hsome, rowsOf_of_packed hsequence hitems hpacked]
    exact pack_of_packed hpacked

theorem marshal_list_eq_ok_iff {values : List Value} {r : FieldData} :
    marshal field (.dataType type) (.list values) = .ok r ↔ Packed field type values r := by
  have hsequence : (Value.list values).IsSequence := trivial
  rw [marshal_eq_ok_iff hsequence]
  constructor
  · rintro ⟨found, hfound, hpacked⟩
    cases hfound
    exact hpacked
  · intro hpacked
    exact ⟨values, rfl, hpacked⟩

/-! ## Columns that are checked -/

theorem intFormat?_eq_none_of_isVector (hvector : type.isVector = true) :
    type.intFormat? = none := by
  cases type with
  | floatVector | binaryVector => rfl
  | _ => cases hvector

/-- Only the integer types have integers as rows, if these are in their range. -/
theorem checkRow_int_eq_ok_iff (hproper : type.isProper = true) {i : Int} :
    checkRow field type (.int i) = .ok () ↔
      ∃ f, type.intFormat? = some f ∧ f.least ≤ i ∧ i ≤ f.greatest := by
  cases type with
  | unrecognized | none => cases hproper
  | int8 | int16 | int32 | int64 =>
      rw [checkRow_scalars rfl, checkItem_eq_ok_iff]
      simp [ItemKind.accepts, ItemKind.int?, Value.toInt?, isOutOfRange, DataType.intFormat?]
  | bool | float | double | string | varchar =>
      rw [checkRow_scalars rfl, checkItem_eq_ok_iff]
      simp [ItemKind.accepts, ItemKind.double?, DataType.intFormat?]
  | floatVector | binaryVector =>
      refine iff_of_false ?_ (by simp [DataType.intFormat?])
      intro h
      cases h

/-- A range of integers that a type admits, and that are more than a length can say. -/
structure IsUnlistable (type : DataType) (start stop step : Int) : Prop where
  admitted : ∃ f, type.intFormat? = some f ∧
    ∀ i ∈ Value.rangeTerms start stop step, f.least ≤ i ∧ i ≤ f.greatest
  unlisted : Value.maxLength < Value.rangeCount start stop step

/-- The walk over the terms of a range passes if the type admits them all. -/
theorem runLoop_checkRow_eq_ok_iff (hproper : type.isProper = true) {start stop step : Int}
    (hsome : 0 < Value.rangeCount start stop step) :
    Value.runLoop (checkRow field type) (fun k => .int (start + k * step))
        (Value.rangeCount start stop step) 0 = .ok () ↔
      ∃ f, type.intFormat? = some f ∧
        ∀ i ∈ Value.rangeTerms start stop step, f.least ≤ i ∧ i ≤ f.greatest := by
  rw [runLoop_range_eq_ok_iff]
  simp only [List.forall_mem_map, Unique.exists_iff, checkRow_int_eq_ok_iff hproper]
  constructor
  · intro hall
    rw [← length_rangeTerms, List.length_pos_iff_exists_mem] at hsome
    obtain ⟨first, hfirst⟩ := hsome
    obtain ⟨f, hformat, -⟩ := hall first hfirst
    refine ⟨f, hformat, fun i hi => ?_⟩
    obtain ⟨g, hg, hrange⟩ := hall i hi
    cases hformat.symm.trans hg
    exact hrange
  · rintro ⟨f, hformat, hrange⟩ i hi
    exact ⟨f, hformat, hrange i hi⟩

theorem rowsOf_range_scalars (hvector : ¬ type.isVector = true) {start stop step : Int} :
    rowsOf field type (.range start stop step) = (do
      Value.runLoop (checkRow field type) (fun k => .int (start + k * step))
        (Value.rangeCount start stop step) 0
      (Value.range start stop step).iterate) := by
  rw [rowsOf, if_neg hvector]
  rfl

/-- Rows that each pass the check of a scalar type pass it together. -/
theorem checkContent_of_checkRow (hproper : type.isProper = true)
    (hvector : ¬ type.isVector = true) {values : List Value}
    (h : ∀ v ∈ values, checkRow field type v = .ok ()) :
    checkContent field type values = .ok () := by
  have hfloat : type ≠ .floatVector := by
    rintro rfl
    exact hvector rfl
  have hbinary : type ≠ .binaryVector := by
    rintro rfl
    exact hvector rfl
  obtain ⟨storage, item, hstorage⟩ := exists_storage? hproper hfloat hbinary
  rw [checkContent_scalars hstorage]
  refine Outcome.forM_eq_ok_iff.mpr fun v hv => ?_
  rw [← checkRow_scalars hstorage]
  exact h v hv

/-- A range that can be listed, or whose terms do not all pass, is checked as its rows are. -/
theorem checkRange_of_not_isUnlistable (hproper : type.isProper = true) {start stop step : Int}
    (hlisted : ¬ IsUnlistable type start stop step) :
    checkRange field type start stop step =
      (rowsOf field type (.range start stop step) >>= checkContent field type) := by
  unfold checkRange
  split
  next hvector => rfl
  next hvector =>
    rw [rowsOf_range_scalars hvector]
    cases hloop : Value.runLoop (checkRow field type) (fun k => .int (start + k * step))
        (Value.rangeCount start stop step) 0 with
    | error e => rfl
    | ok u =>
        have hcount : Value.rangeCount start stop step ≤ Value.maxLength := by
          by_contra hmany
          have hsome := Nat.zero_lt_of_lt (Nat.not_le.mp hmany)
          exact hlisted ⟨(runLoop_checkRow_eq_ok_iff hproper hsome).mp hloop, Nat.not_le.mp hmany⟩
        have hiterate : (Value.range start stop step).iterate =
            .ok ((Value.rangeTerms start stop step).map .int) := if_pos hcount
        have hrows : ∀ v ∈ (Value.rangeTerms start stop step).map .int,
            checkRow field type v = .ok () := by
          simpa only [Unique.exists_iff] using runLoop_range_eq_ok_iff.mp hloop
        rw [Outcome.ok_bind, hiterate, Outcome.ok_bind,
          checkContent_of_checkRow hproper hvector hrows]

/-- A range whose terms all pass is not listed by the check. -/
theorem checkRange_of_isUnlistable (hproper : type.isProper = true) {start stop step : Int}
    (h : IsUnlistable type start stop step) :
    checkRange field type start stop step = .ok () ∧
      rowsOf field type (.range start stop step) = .error (.failed .overflow) := by
  have hloop := (@runLoop_checkRow_eq_ok_iff field type hproper start stop step
    (Nat.zero_lt_of_lt h.unlisted)).mpr h.admitted
  have hvector : ¬ type.isVector = true := by
    intro hvector
    obtain ⟨f, hformat, -⟩ := h.admitted
    cases (intFormat?_eq_none_of_isVector hvector).symm.trans hformat
  constructor
  · rw [checkRange, if_neg hvector, hloop]
  · rw [rowsOf_range_scalars hvector, hloop]
    exact Value.iterate_range_eq_error_iff.mpr ⟨h.unlisted, rfl⟩

/-- A column of integers that is an unlistable range. -/
def IsOverlong (given column : Value) : Prop :=
  ∃ type start stop step, given = .dataType type ∧ column = .range start stop step ∧
    IsUnlistable type start stop step

/-- A column that is not overlong is checked as its rows are. -/
theorem validate_eq_checkContent {given column : Value} (h : ¬ IsOverlong given column) :
    validate field given column = (do
      let (type, rows) ← typedRows field given column
      checkContent field type rows) := by
  by_cases hrange : ∃ start stop step, column = .range start stop step
  · obtain ⟨start, stop, step, rfl⟩ := hrange
    rw [validate, typedRows]
    · cases htype : properType field given with
      | error e => rfl
      | ok type =>
          obtain ⟨hproper, rfl⟩ := isProper_of_properType htype
          have hlisted : ¬ IsUnlistable type start stop step :=
            fun hlong => h ⟨type, start, stop, step, rfl, rfl, hlong⟩
          rw [Outcome.ok_bind, checkRange_of_not_isUnlistable hproper hlisted, Outcome.ok_bind]
          cases rowsOf field type (.range start stop step) <;> rfl
    · nofun
  · refine validate_of_ne_range fun start stop step hcolumn => ?_
    exact hrange ⟨start, stop, step, hcolumn⟩

/-- Such a column is checked as it is packed, with nothing left of the result but that there
is one. -/
theorem validate_eq_map_marshal {given column : Value} (h : ¬ IsOverlong given column) :
    validate field given column = (marshal field given column).map fun _ => () := by
  rw [validate_eq_checkContent h, marshal]
  cases htyped : typedRows field given column with
  | error e => rfl
  | ok typed =>
      obtain ⟨t, rows⟩ := typed
      exact checkContent_eq_map_pack (of_typedRows htyped).2.1

/-- An overlong column passes the check, and fails where its rows are listed. -/
theorem validate_of_isOverlong {given column : Value} (h : IsOverlong given column) :
    validate field given column = .ok () ∧
      marshal field given column = .error (.failed .overflow) := by
  obtain ⟨type, start, stop, step, rfl, rfl, hlong⟩ := h
  have hproper : type.isProper = true := by
    obtain ⟨f, hformat, -⟩ := hlong.admitted
    cases type with
    | unrecognized | none => cases hformat
    | _ => rfl
  have htype : properType field (.dataType type) = .ok type := if_pos hproper
  obtain ⟨hcheck, hrows⟩ := @checkRange_of_isUnlistable field type hproper start stop step hlong
  constructor
  · rw [validate, htype, Outcome.ok_bind, hcheck]
  · rw [marshal_dataType hproper (by simp), hrows]
    rfl

/-- What is packed passes the check. -/
theorem validate_of_marshal {given column : Value} {r : FieldData}
    (h : marshal field given column = .ok r) : validate field given column = .ok () := by
  have hlisted : ¬ IsOverlong given column := by
    intro hlong
    cases h.symm.trans (@validate_of_isOverlong field given column hlong).2
  rw [validate_eq_map_marshal hlisted, h]
  rfl

/-! ## Columns of an insert -/

theorem attributes_of_ofRows {handle : Nat} {name : Name} {rows : List Value} {c : Column}
    (h : ofRows handle name type rows = .ok c) :
    c.name = name ∧ c.type = type ∧ c.values = rows := by
  unfold ofRows at h
  split at h
  · cases h
  · split at h
    · cases h
      exact ⟨rfl, rfl, rfl⟩
    · cases h

/-- A column that is accepted is packed as the values that it was made of. -/
theorem toFieldData_eq_marshal {handle : Nat} {name given values : Value} {c : Column}
    (h : ofValues handle name given values = .ok c) :
    c.toFieldData = marshal name given values := by
  obtain ⟨checked, hname, hrest⟩ := Outcome.bind_eq_ok.mp h
  obtain ⟨⟨t, rows⟩, htyped, hrows⟩ := Outcome.bind_eq_ok.mp hrest
  obtain ⟨hcname, hctype, hcvalues⟩ := attributes_of_ofRows hrows
  obtain ⟨-, hproper, -⟩ := of_typedRows htyped
  have hpacked : marshal checked.toValue given values = pack checked.toValue t rows := by
    rw [marshal, htyped]
    rfl
  rw [toFieldData, hcname, hctype, hcvalues, marshal_tuple hproper, ← hpacked,
    Check.toValue_of_name_eq_ok hname]

end Column

end VectorRequests
