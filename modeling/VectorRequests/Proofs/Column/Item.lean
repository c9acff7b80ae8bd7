/-
# Items of scalar columns

An item that passes the check of a scalar type is stored as a cell that reads back as the
item: an integer or a truth value as itself, a float as the float of the type that is nearest
to it. No accepted item falls out of the range of its storage.
-/

import VectorRequests.Proofs.Column.Cells
import VectorRequests.Proofs.Value.Text

namespace VectorRequests

/-- The single float nearest to a float item. -/
def ItemKind.single? : Value → Option Single
  | .float x => some x.convert
  | .sized (.float f) x => some (Binary.convert (f := f) x)
  | _ => none

namespace Column

variable {field : Value} {type : DataType}

/-- What an item of a scalar column reads back as. -/
def ItemReads : DataType → Value → Value → Prop
  | .int8, v, back | .int16, v, back | .int32, v, back | .int64, v, back =>
    ∃ i, ItemKind.int? v = some i ∧ back = .int i
  | .bool, v, back => ∃ b, (v = .bool b ∨ v = .sized .bool b) ∧ back = .bool b
  | .float, v, back => ∃ x, ItemKind.single? v = some x ∧ back = .float x.convert
  | .double, v, back => ∃ x, ItemKind.double? v = some x ∧ back = .float x
  | .string, v, back | .varchar, v, back => back = v
  | _, _, _ => False

theorem checkItem_eq_ok_iff {item : ItemKind} {v : Value} :
    checkItem field type item v = .ok () ↔
      item.accepts v = true ∧ isOutOfRange type v = false := by
  unfold checkItem
  by_cases haccepts : item.accepts v = true
  · by_cases hrange : isOutOfRange type v = true
    · simp [haccepts, hrange, Error.refuseField, Value.withText_eq_ok_iff]
    · simp [haccepts, hrange]
  · simp [haccepts, Error.refuseField]

/-- An integer item that is in the range of its type is worth its word in every format with
room for that range. -/
theorem value_wrap_of_inRange {f g : IntFormat} {v : Value} {i : Int}
    (hformat : type.intFormat? = some g) (hbytes : 0 < f.byteCount) (hleast : f.least ≤ g.least)
    (hgreatest : g.greatest ≤ f.greatest) (hv : ItemKind.int? v = some i)
    (hrange : isOutOfRange type v = false) : f.value (f.wrap i) = i := by
  unfold isOutOfRange at hrange
  rw [hformat, hv] at hrange
  simp only [Bool.or_eq_false_iff, decide_eq_false_iff_not, not_lt] at hrange
  exact IntFormat.value_wrap hbytes (hleast.trans hrange.1) (hrange.2.trans hgreatest)

/-- The integer types are stored with room for all their numbers. -/
theorem exists_format_of_storage? {kind : NumericKind}
    (h : type.storage? = some (.numeric kind, .int)) :
    ∃ f g, kind.elementType = .int f ∧ type.intFormat? = some g ∧ 0 < f.byteCount ∧
      f.least ≤ g.least ∧ g.greatest ≤ f.greatest := by
  cases type with
  | int8 => cases h; exact ⟨.int32, .int8, rfl, rfl, by decide, by decide, by decide⟩
  | int16 => cases h; exact ⟨.int32, .int16, rfl, rfl, by decide, by decide, by decide⟩
  | int32 => cases h; exact ⟨.int32, .int32, rfl, rfl, by decide, by decide, by decide⟩
  | int64 => cases h; exact ⟨.int64, .int64, rfl, rfl, by decide, by decide, by decide⟩
  | unrecognized | none | bool | float | double | string | varchar | binaryVector
    | floatVector => cases h

/-- An integer item that passes the check is stored as its word. -/
theorem exists_intCell {kind : NumericKind} {v : Value}
    (hstorage : type.storage? = some (.numeric kind, .int))
    (h : checkItem field type .int v = .ok ()) :
    ∃ c, Cells.toCell kind.elementType v = .ok c ∧ ItemReads type v (kind.elementType.plain c) := by
  obtain ⟨haccepts, hrange⟩ := checkItem_eq_ok_iff.mp h
  obtain ⟨i, hi⟩ := Option.isSome_iff_exists.mp haccepts
  obtain ⟨f, g, helement, hformat, hbytes, hleast, hgreatest⟩ :=
    exists_format_of_storage? hstorage
  have hfits : f.value (f.wrap i) = i :=
    value_wrap_of_inRange hformat hbytes hleast hgreatest hi hrange
  rw [helement]
  refine ⟨f.wrap i, Cells.toWord_of_int? hi hfits, ?_⟩
  have hplain : (ElementType.int f).plain (f.wrap i) = .int i := congrArg Value.int hfits
  rw [hplain]
  cases type with
  | int8 | int16 | int32 | int64 => exact ⟨i, hi, rfl⟩
  | unrecognized | none | bool | float | double | string | varchar | binaryVector
    | floatVector => cases hformat

theorem exists_boolCell {v : Value} (h : checkItem field .bool .bool v = .ok ()) :
    ∃ c, Cells.toCell .bool v = .ok c ∧ ItemReads .bool v (ElementType.bool.plain c) := by
  obtain ⟨haccepts, -⟩ := checkItem_eq_ok_iff.mp h
  cases v with
  | bool b => exact ⟨b, rfl, b, .inl rfl, rfl⟩
  | sized t c =>
      cases t with
      | bool => exact ⟨c, rfl, c, .inr rfl, rfl⟩
      | int | float => cases haccepts
  | null | int | float | text | bytes | buffer | list | tuple | set | range | mapping | tensor
    | dataType | placeholderType | msgType | dslType | scalarKind | metric | vector | column
    | record | object => cases haccepts

/-- A double float stays what it is, so none overflows. -/
theorem overflows_double {v : Value} {c : Double} (h : Cells.toFloat .double v = .ok c) :
    Cells.overflows .double v c = false := by
  unfold Cells.overflows
  rw [h]
  cases hinf : c.isInfinite with
  | false => rfl
  | true => exact Binary.isFinite_eq_false_of_isInfinite hinf

/-- What is worth a double float overflows exactly if that cannot be narrowed. -/
theorem overflows_single {v : Value} {x : Double} (h : Cells.toFloat .double v = .ok x) :
    Cells.overflows .single v x.convert = true ↔ x.narrow? = none := by
  unfold Cells.overflows
  rw [h, Bool.and_eq_true, Binary.narrow?_eq_none_iff]

theorem exists_doubleCell {v : Value} (h : checkItem field .double .float v = .ok ()) :
    ∃ c : Double, Cells.toFloat .double v = .ok c ∧ Cells.overflows .double v c = false ∧
      ItemReads .double v ((ElementType.float .double).plain c) := by
  obtain ⟨haccepts, -⟩ := checkItem_eq_ok_iff.mp h
  cases v with
  | float x =>
      have hcell : Cells.toFloat .double (.float x) = .ok x :=
        congrArg Except.ok (Binary.convert_self x)
      refine ⟨x, hcell, overflows_double hcell, x, rfl, ?_⟩
      exact congrArg Value.float (Binary.convert_self x)
  | sized t c =>
      cases t with
      | float f =>
          have hcell : Cells.toFloat .double (.sized (.float f) c) =
              .ok (Binary.convert (f := f) c) := rfl
          refine ⟨_, hcell, overflows_double hcell, Binary.convert (f := f) c, rfl, ?_⟩
          exact congrArg Value.float (Binary.convert_self _)
      | int | bool => cases haccepts
  | null | bool | int | text | bytes | buffer | list | tuple | set | range | mapping | tensor
    | dataType | placeholderType | msgType | dslType | scalarKind | metric | vector | column
    | record | object => cases haccepts

theorem exists_singleCell {v : Value} (h : checkItem field .float .float v = .ok ()) :
    ∃ c : Single, Cells.toFloat .single v = .ok c ∧ Cells.overflows .single v c = false ∧
      ItemReads .float v ((ElementType.float .single).plain c) := by
  obtain ⟨haccepts, hrange⟩ := checkItem_eq_ok_iff.mp h
  cases v with
  | float x =>
      have hnarrow : x.narrow? = some x.convert :=
        Binary.narrow?_of_isNone_eq_false hrange
      have hcell : Cells.toFloat .single (.float x) = .ok x.convert := rfl
      refine ⟨x.convert, hcell, ?_, x.convert, rfl, rfl⟩
      have hover := Cells.overflows_eq_false (Binary.isInfinite_of_narrow? hnarrow)
      unfold Cells.overflows at hover ⊢
      have hdouble : Cells.toFloat .double (.float x) = .ok (x.convert : Double) := rfl
      rw [hdouble]
      exact hover
  | sized t c =>
      cases t with
      | float f =>
          have hnarrow : (show Binary f from c).narrow? = some (show Binary f from c).convert :=
            Binary.narrow?_of_isNone_eq_false hrange
          refine ⟨Binary.convert (f := f) c, rfl, ?_, Binary.convert (f := f) c, rfl, rfl⟩
          exact Cells.overflows_eq_false (Binary.isInfinite_of_narrow? hnarrow)
      | int | bool => cases haccepts
  | null | bool | int | text | bytes | buffer | list | tuple | set | range | mapping | tensor
    | dataType | placeholderType | msgType | dslType | scalarKind | metric | vector | column
    | record | object => cases haccepts

/-- The cell that an item of a scalar type is stored as. -/
structure StoredAs (type : DataType) (t : ElementType) (v : Value) (c : t.Cell) : Prop where
  cell : Cells.toCell t v = .ok c
  reads : ItemReads type v (t.plain c)

/-- Checked items of a numeric type are stored as cells that read back as the items. -/
theorem exists_cells {kind : NumericKind} {item : ItemKind} {vs : List Value}
    (hstorage : type.storage? = some (.numeric kind, item))
    (h : ∀ v ∈ vs, checkItem field type item v = .ok ()) :
    ∃ cells, List.Forall₂ (StoredAs type kind.elementType) vs cells ∧
      Cells.checkRange kind.elementType vs cells = .ok () := by
  cases type with
  | int8 | int16 | int32 | int64 =>
      cases hstorage
      obtain ⟨cells, hcells⟩ := exists_forall₂ fun v hv => exists_intCell rfl (h v hv)
      exact ⟨cells, hcells.imp fun _ _ ⟨hcell, hreads⟩ => ⟨hcell, hreads⟩, rfl⟩
  | bool =>
      cases hstorage
      obtain ⟨cells, hcells⟩ := exists_forall₂ fun v hv => exists_boolCell (h v hv)
      exact ⟨cells, hcells.imp fun _ _ ⟨hcell, hreads⟩ => ⟨hcell, hreads⟩, rfl⟩
  | float =>
      cases hstorage
      obtain ⟨cells, hcells⟩ := exists_forall₂ fun v hv => exists_singleCell (h v hv)
      refine ⟨cells, hcells.imp fun _ _ ⟨hcell, _, hreads⟩ => ⟨hcell, hreads⟩, ?_⟩
      exact Cells.checkRange_eq_ok (hcells.imp fun _ _ ⟨_, hover, _⟩ => hover)
  | double =>
      cases hstorage
      obtain ⟨cells, hcells⟩ := exists_forall₂ fun v hv => exists_doubleCell (h v hv)
      refine ⟨cells, hcells.imp fun _ _ ⟨hcell, _, hreads⟩ => ⟨hcell, hreads⟩, ?_⟩
      exact Cells.checkRange_eq_ok (hcells.imp fun _ _ ⟨_, hover, _⟩ => hover)
  | unrecognized | none | string | varchar | binaryVector | floatVector => cases hstorage

end Column

end VectorRequests
