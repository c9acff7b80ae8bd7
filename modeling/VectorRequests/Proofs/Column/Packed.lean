/-
# What a packed column is

`Packed` says for each kind of data type what a column of given rows is packed as, and under
which conditions: float rows one after the other with the size they share, bit-packed rows
with eight times the bytes they share, numbers as the cells that stand for them, texts as
they are. Packing succeeds exactly then, and so does the check of a column, so a column that
passes the check can always be packed.
-/

import VectorRequests.Proofs.Column.Item
import VectorRequests.Proofs.Column.Rows

namespace VectorRequests.Column

variable {field : Value} {type : DataType}

/-- The marshalled column of a name, a type and rows. -/
inductive Packed (field : Value) : DataType → List Value → FieldData → Prop
  | floats {values : List Value} {rows : List (List Single)} {dim : Nat}
      (hrows : List.Forall₂ (fun v row => Row.read rowName v = .ok row) values rows)
      (hsome : rows ≠ []) (hpos : 0 < dim) (hsize : ∀ row ∈ rows, row.length = dim) :
      Packed field .floatVector values
        ⟨field, .floatVector, .vectors ⟨.int dim, .floats rows.flatten⟩⟩
  | packed {values : List Value} {rows : List (List UInt8)} {width : Nat}
      (hrows : List.Forall₂ (fun v row => binaryRow field v = .ok row) values rows)
      (hsome : rows ≠ []) (hpos : 0 < width) (hsize : ∀ row ∈ rows, row.length = width) :
      Packed field .binaryVector values
        ⟨field, .binaryVector, .vectors ⟨.int (8 * width : Nat), .packed rows.flatten⟩⟩
  | numeric {type : DataType} {values : List Value} {kind : NumericKind} {item : ItemKind}
      {cells : List kind.elementType.Cell} (hstorage : type.storage? = some (.numeric kind, item))
      (hitems : ∀ v ∈ values, checkItem field type item v = .ok ())
      (hcells : List.Forall₂ (StoredAs type kind.elementType) values cells)
      (hrange : Cells.checkRange kind.elementType values cells = .ok ()) :
      Packed field type values ⟨field, type, .scalars (.numeric kind cells)⟩
  | strings {type : DataType} {values : List Value} {item : ItemKind}
      (hstorage : type.storage? = some (.string, item))
      (hitems : ∀ v ∈ values, checkItem field type item v = .ok ()) :
      Packed field type values ⟨field, type, .scalars (.strings values)⟩

/-! ## Packing -/

/-- The length of rows of one size set one after the other. -/
theorem length_flatten_of_forall {α : Type} {rows : List (List α)} {size : Nat}
    (h : ∀ row ∈ rows, row.length = size) : rows.flatten.length = rows.length * size := by
  have hsizes : rows.map List.length = rows.map fun _ => size :=
    List.map_congr_left h
  rw [List.length_flatten, hsizes, List.map_const', List.sum_replicate_nat]

/-- Every proper type that is no type of vectors has a storage. -/
theorem exists_storage? (hproper : type.isProper = true) (hfloat : type ≠ .floatVector)
    (hbinary : type ≠ .binaryVector) : ∃ storage item, type.storage? = some (storage, item) := by
  cases type with
  | unrecognized | none => cases hproper
  | bool | int8 | int16 | int32 | int64 | float | double | string | varchar =>
      exact ⟨_, _, rfl⟩
  | binaryVector => exact absurd rfl hbinary
  | floatVector => exact absurd rfl hfloat

theorem checkContent_scalars {values : List Value} {storage : ScalarKind} {item : ItemKind}
    (h : type.storage? = some (storage, item)) :
    checkContent field type values = values.forM (checkItem field type item) := by
  cases type with
  | bool | int8 | int16 | int32 | int64 | float | double | string | varchar => cases h; rfl
  | unrecognized | none | binaryVector | floatVector => cases h

theorem pack_scalars {values : List Value} {storage : ScalarKind} {item : ItemKind}
    (h : type.storage? = some (storage, item)) :
    pack field type values = (do
      values.forM (checkItem field type item)
      let scalars ← ScalarField.ofValues storage (.list values)
      FieldData.ofParts field type (some scalars) none) := by
  cases type with
  | bool | int8 | int16 | int32 | int64 | float | double | string | varchar => cases h; rfl
  | unrecognized | none | binaryVector | floatVector => cases h

theorem pack_ne_ok_of_not_isProper {values : List Value} {r : FieldData}
    (h : ¬ type.isProper = true) : pack field type values ≠ .ok r := by
  cases type with
  | unrecognized | none => simp [pack, DataType.storage?, Error.refuseField]
  | bool | int8 | int16 | int32 | int64 | float | double | string | varchar | binaryVector
    | floatVector => exact absurd rfl h

theorem isItem_of_checkItem {item : ItemKind} {values : List Value}
    (h : ∀ v ∈ values, checkItem field type item v = .ok ()) : ∀ v ∈ values, Cells.IsItem v := by
  intro v hv
  exact Cells.isItem_of_accepts (checkItem_eq_ok_iff.mp (h v hv)).1

/-- A column is packed as what it is marshalled to. -/
theorem pack_of_packed {values : List Value} {r : FieldData}
    (h : Packed field type values r) : pack field type values = .ok r := by
  cases h with
  | @floats _ rows dim hrows hsome hpos hsize =>
      have hfound : floatRows field values = .ok rows :=
        floatRows_eq_ok_iff.mpr ⟨hrows, hsome, dim, hpos, hsize⟩
      have hdim : rows.flatten.length / rows.length = dim := by
        rw [length_flatten_of_forall hsize]
        exact Nat.mul_div_cancel_left _ (List.length_pos_iff.mpr hsome)
      have hblock : VectorField.ofValues (.int dim)
          (.tensor (Tensor.flat (.float .single) rows.flatten)) .null =
            .ok ⟨.int dim, .floats rows.flatten⟩ :=
        Outcome.bind_eq_ok.mpr
          ⟨rows.flatten, Cells.store_flat (.float .single) rows.flatten, rfl⟩
      rw [pack, hfound, Outcome.ok_bind, hdim]
      exact Outcome.bind_eq_ok.mpr ⟨_, hblock, rfl⟩
  | @packed _ rows width hrows hsome hpos hsize =>
      have hfound : binaryRows field values = .ok rows :=
        binaryRows_eq_ok_iff.mpr ⟨hrows, hsome, width, hpos, hsize⟩
      have hwidth : (rows.head?.getD []).length = width := by
        cases rows with
        | nil => exact absurd rfl hsome
        | cons row rows => exact hsize row (List.mem_cons_self ..)
      rw [pack, hfound, Outcome.ok_bind, hwidth]
      rfl
  | @numeric _ _ kind item cells hstorage hitems hcells hrange =>
      have hstore : Cells.store kind.elementType (.list values) = .ok cells :=
        Cells.store_list (isItem_of_checkItem hitems) (hcells.imp fun _ _ h => h.cell) hrange
      have hpass : values.forM (checkItem field type item) = .ok () :=
        Outcome.forM_eq_ok_iff.mpr hitems
      rw [pack_scalars hstorage, hpass, Outcome.ok_bind, ScalarField.ofValues, hstore]
      rfl
  | @strings _ _ item hstorage hitems =>
      have hpass : values.forM (checkItem field type item) = .ok () :=
        Outcome.forM_eq_ok_iff.mpr hitems
      rw [pack_scalars hstorage, hpass]
      rfl

/-- A column of a proper type that passes the check is marshalled to something. -/
theorem exists_packed_of_checkContent {values : List Value} (hproper : type.isProper = true)
    (h : checkContent field type values = .ok ()) : ∃ r, Packed field type values r := by
  by_cases hfloat : type = .floatVector
  · subst hfloat
    obtain ⟨rows, hfound, -⟩ := Outcome.bind_eq_ok.mp h
    obtain ⟨hrows, hsome, dim, hpos, hsize⟩ := floatRows_eq_ok_iff.mp hfound
    exact ⟨_, .floats hrows hsome hpos hsize⟩
  · by_cases hbinary : type = .binaryVector
    · subst hbinary
      obtain ⟨rows, hfound, -⟩ := Outcome.bind_eq_ok.mp h
      obtain ⟨hrows, hsome, width, hpos, hsize⟩ := binaryRows_eq_ok_iff.mp hfound
      exact ⟨_, .packed hrows hsome hpos hsize⟩
    · obtain ⟨storage, item, hstorage⟩ := exists_storage? hproper hfloat hbinary
      rw [checkContent_scalars hstorage] at h
      have hitems := Outcome.forM_eq_ok_iff.mp h
      cases storage with
      | numeric kind =>
          obtain ⟨cells, hcells, hrange⟩ := exists_cells hstorage hitems
          exact ⟨_, .numeric hstorage hitems hcells hrange⟩
      | string => exact ⟨_, .strings hstorage hitems⟩

/-- Packing succeeds only for columns of proper types that pass the check. -/
theorem checkContent_of_pack {values : List Value} {r : FieldData}
    (h : pack field type values = .ok r) :
    type.isProper = true ∧ checkContent field type values = .ok () := by
  by_cases hfloat : type = .floatVector
  · subst hfloat
    obtain ⟨rows, hfound, -⟩ := Outcome.bind_eq_ok.mp h
    exact ⟨rfl, Outcome.bind_eq_ok.mpr ⟨rows, hfound, rfl⟩⟩
  · by_cases hbinary : type = .binaryVector
    · subst hbinary
      obtain ⟨rows, hfound, -⟩ := Outcome.bind_eq_ok.mp h
      exact ⟨rfl, Outcome.bind_eq_ok.mpr ⟨rows, hfound, rfl⟩⟩
    · by_cases hproper : type.isProper = true
      · obtain ⟨storage, item, hstorage⟩ := exists_storage? hproper hfloat hbinary
        rw [pack_scalars hstorage] at h
        obtain ⟨⟨⟩, hpass, -⟩ := Outcome.bind_eq_ok.mp h
        exact ⟨hproper, (checkContent_scalars hstorage).trans hpass⟩
      · exact absurd h (pack_ne_ok_of_not_isProper hproper)

theorem pack_eq_ok_iff {values : List Value} {r : FieldData} :
    pack field type values = .ok r ↔ Packed field type values r := by
  constructor
  · intro h
    obtain ⟨hproper, hcontent⟩ := checkContent_of_pack h
    obtain ⟨s, hs⟩ := exists_packed_of_checkContent hproper hcontent
    have hsame : (.ok s : Outcome FieldData) = .ok r := (pack_of_packed hs).symm.trans h
    cases hsame
    exact hs
  · exact pack_of_packed

/-- A column that is marshalled is packed as its rows are. -/
theorem exists_packed_of_marshal {column : Value} {r : FieldData}
    (h : marshal field (.dataType type) column = .ok r) :
    ∃ values, column.iterate = .ok values ∧ Packed field type values r := by
  obtain ⟨⟨found, values⟩, htyped, hpack⟩ := Outcome.bind_eq_ok.mp h
  obtain ⟨htype, -, hitems, -⟩ := of_typedRows htyped
  cases htype
  exact ⟨values, hitems, pack_eq_ok_iff.mp hpack⟩

/-! ## The check of a column -/

/-- A column that is no range is checked as its rows are. -/
theorem validate_of_ne_range {given column : Value}
    (h : ∀ start stop step, column ≠ .range start stop step) :
    validate field given column = (do
      let (type, rows) ← typedRows field given column
      checkContent field type rows) := by
  unfold validate
  split
  next start stop step => exact absurd rfl (h start stop step)
  next => rfl

/-- A tuple can be marshalled exactly if it passes the check. -/
theorem validate_tuple_eq_ok_iff {given : Value} {rows : List Value} :
    validate field given (.tuple rows) = .ok () ↔
      ∃ r, marshal field given (.tuple rows) = .ok r := by
  rw [validate_of_ne_range (by simp)]
  constructor
  · intro h
    obtain ⟨⟨t, values⟩, htyped, hcontent⟩ := Outcome.bind_eq_ok.mp h
    obtain ⟨-, hproper, -⟩ := of_typedRows htyped
    obtain ⟨r, hr⟩ := exists_packed_of_checkContent hproper hcontent
    exact ⟨r, Outcome.bind_eq_ok.mpr ⟨(t, values), htyped, pack_of_packed hr⟩⟩
  · rintro ⟨r, h⟩
    obtain ⟨⟨t, values⟩, htyped, hpack⟩ := Outcome.bind_eq_ok.mp h
    obtain ⟨-, hcontent⟩ := checkContent_of_pack hpack
    exact Outcome.bind_eq_ok.mpr ⟨(t, values), htyped, hcontent⟩

end VectorRequests.Column
