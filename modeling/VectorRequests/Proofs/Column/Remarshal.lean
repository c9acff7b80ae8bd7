/-
# Columns that are marshalled again

Not every record of a column could have been made by marshalling. `IsMarshalled` says which ones
could, without regard to the rows they were made of: blocks of at least one row that all have
the same size above zero, numbers that are in the range of their declared type, which may be
narrower than their storage, and texts. What is read back from such a record passes every check
of the declared type again, and is marshalled to the same record.
-/

import VectorRequests.Proofs.Column.Plain
import VectorRequests.Proofs.Column.ReadBack

namespace VectorRequests

/-- The columns that marshalling makes. -/
inductive FieldData.IsMarshalled : FieldData → Prop
  | floats {name : Value} {rows : List (List Single)} {dim : Nat} (hsome : rows ≠ [])
      (hpos : 0 < dim) (hsize : ∀ row ∈ rows, row.length = dim) :
      IsMarshalled ⟨name, .floatVector, .vectors ⟨.int dim, .floats rows.flatten⟩⟩
  | packed {name : Value} {rows : List (List UInt8)} {width : Nat} (hsome : rows ≠ [])
      (hpos : 0 < width) (hsize : ∀ row ∈ rows, row.length = width) :
      IsMarshalled ⟨name, .binaryVector, .vectors ⟨.int (8 * width : Nat), .packed rows.flatten⟩⟩
  | numeric {name : Value} {type : DataType} {kind : NumericKind} {item : ItemKind}
      {cells : List kind.elementType.Cell} (hstorage : type.storage? = some (.numeric kind, item))
      (hrange : ∀ c ∈ cells, ∀ f i, type.intFormat? = some f →
        kind.elementType.plain c = .int i → f.least ≤ i ∧ i ≤ f.greatest) :
      IsMarshalled ⟨name, type, .scalars (.numeric kind cells)⟩
  | strings {name : Value} {type : DataType} {item : ItemKind} (texts : List String)
      (hstorage : type.storage? = some (.string, item)) :
      IsMarshalled ⟨name, type, .scalars (.strings (texts.map .text))⟩

namespace Column

open FieldData (IsMarshalled)

variable {field : Value} {type : DataType}

/-! ## Cells in plain form -/

section Cells

variable {kind : NumericKind} {item : ItemKind}

/-- A cell in plain form is an item of the type that is stored in such cells. -/
theorem accepts_plain (hstorage : type.storage? = some (.numeric kind, item))
    (c : kind.elementType.Cell) : item.accepts (kind.elementType.plain c) = true := by
  cases type with
  | bool | int8 | int16 | int32 | int64 | float | double =>
      cases hstorage
      rfl
  | unrecognized | none | string | varchar | binaryVector | floatVector => cases hstorage

/-- A single float is what its double float is narrowed to. -/
theorem narrow?_convert_single (x : Single) : (x.convert : Double).narrow? = some x := by
  rw [Binary.narrow?_convert FloatFormat.single_widens, Binary.narrow?, Binary.convert_self]
  cases hinfinite : x.isInfinite with
  | false => rfl
  | true =>
      rw [Binary.isFinite_eq_false_of_isInfinite hinfinite]
      rfl

/-- A single float does not leave the range of single floats. -/
theorem overflowsSingle_plain (x : Single) :
    overflowsSingle ((ElementType.float .single).plain x) = false := by
  show (x.convert : Double).narrow?.isNone = false
  rw [narrow?_convert_single]
  rfl

/-- A cell in plain form passes the check of a type if it is in the range of the type. -/
theorem checkItem_plain (hstorage : type.storage? = some (.numeric kind, item))
    {c : kind.elementType.Cell}
    (hrange : ∀ f i, type.intFormat? = some f → kind.elementType.plain c = .int i →
      f.least ≤ i ∧ i ≤ f.greatest) :
    checkItem field type item (kind.elementType.plain c) = .ok () := by
  refine checkItem_eq_ok_iff.mpr ⟨accepts_plain hstorage c, ?_⟩
  cases type with
  | int8 | int16 | int32 | int64 =>
      cases hstorage
      obtain ⟨hleast, hgreatest⟩ := hrange _ _ rfl rfl
      exact Bool.or_eq_false_iff.mpr
        ⟨decide_eq_false (not_lt.mpr hleast), decide_eq_false (not_lt.mpr hgreatest)⟩
  | float =>
      cases hstorage
      exact overflowsSingle_plain c
  | bool | double =>
      cases hstorage
      rfl
  | unrecognized | none | string | varchar | binaryVector | floatVector => cases hstorage

theorem checkItem_text (hstorage : type.storage? = some (.string, item)) (s : String) :
    checkItem field type item (.text s) = .ok () := by
  cases type with
  | string | varchar =>
      cases hstorage
      rfl
  | unrecognized | none | bool | int8 | int16 | int32 | int64 | float | double | binaryVector
    | floatVector => cases hstorage

/-- A cell in plain form reads back as itself. -/
theorem itemReads_plain (hstorage : type.storage? = some (.numeric kind, item))
    (c : kind.elementType.Cell) :
    ItemReads type (kind.elementType.plain c) (kind.elementType.plain c) := by
  cases type with
  | int8 | int16 | int32 | int64 =>
      cases hstorage
      exact ⟨_, rfl, rfl⟩
  | bool =>
      cases hstorage
      exact ⟨c, .inl rfl, rfl⟩
  | float =>
      cases hstorage
      have hback : ((show Single from c).convert : Double).convert = (show Single from c) :=
        (Binary.convert_convert FloatFormat.single_widens .single _).trans (Binary.convert_self _)
      exact ⟨c, congrArg some hback, rfl⟩
  | double =>
      cases hstorage
      exact ⟨_, rfl, rfl⟩
  | unrecognized | none | string | varchar | binaryVector | floatVector => cases hstorage

end Cells

/-! ## From marshalled columns to rows and back -/

/-- A number is read back from a numeric column in one way. -/
theorem eq_of_itemReads {kind : NumericKind} {item : ItemKind} {v back other : Value}
    (hstorage : type.storage? = some (.numeric kind, item)) (hback : ItemReads type v back)
    (hother : ItemReads type v other) : back = other := by
  rw [← reading?_eq_some_iff hstorage] at hback hother
  exact Option.some.inj (hback.symm.trans hother)

/-- An integer that is read back is in the range of its type. -/
theorem inRange_of_itemReads {item : ItemKind} {f : IntFormat} {v : Value} {i : Int}
    (hformat : type.intFormat? = some f) (hpass : checkItem field type item v = .ok ())
    (hreads : ItemReads type v (.int i)) : f.least ≤ i ∧ i ≤ f.greatest := by
  obtain ⟨-, hrange⟩ := checkItem_eq_ok_iff.mp hpass
  have hint : ItemKind.int? v = some i := by
    cases type with
    | int8 | int16 | int32 | int64 =>
        obtain ⟨j, hj, hsame⟩ := hreads
        cases hsame
        exact hj
    | unrecognized | none | bool | float | double | string | varchar | binaryVector
      | floatVector => cases hformat
  rw [isOutOfRange, hformat, hint] at hrange
  simpa using hrange

/-- Whatever is packed is a column that marshalling makes. -/
theorem isMarshalled_of_packed {values : List Value} {r : FieldData}
    (h : Packed field type values r) : r.IsMarshalled := by
  cases h with
  | floats _ hsome hpos hsize => exact .floats hsome hpos hsize
  | packed _ hsome hpos hsize => exact .packed hsome hpos hsize
  | @numeric _ _ kind item cells hstorage hitems hcells _ =>
      have hboth := (List.forall₂_and_left values cells).mpr ⟨hitems, hcells⟩
      refine .numeric hstorage ?_
      intro c hc f i hformat hplain
      obtain ⟨v, ⟨hpass, hstored⟩, -⟩ := exists_of_forall₂ hboth.flip (fun _ _ => trivial) c hc
      have hreads : ItemReads type v (.int i) := hplain ▸ hstored.reads
      exact inRange_of_itemReads hformat hpass hreads
  | @strings _ _ item hstorage hitems =>
      obtain ⟨texts, htexts⟩ := exists_forall₂ fun v hv =>
        exists_text_of_checkItem hstorage (hitems v hv)
      rw [← List.forall₂_map_right_iff (R := Eq), List.forall₂_eq_eq_eq] at htexts
      rw [htexts]
      exact .strings texts hstorage

/-- A row of single floats in plain form is read as the same row. -/
theorem read_plainRow (name : String) (row : List Single) :
    Row.read name (.list (row.map fun x => .float x.convert)) = .ok row := by
  have hfloats : (row.map fun x => Value.float x.convert) =
      (row.map Binary.convert).map .float := by
    rw [List.map_map]
    rfl
  have hnarrow : (row.map Binary.convert : List Double).mapM Binary.narrow? = some row := by
    rw [mapM_eq_some_iff, List.forall₂_map_left_iff]
    exact List.forall₂_same.mpr fun x _ => narrow?_convert_single x
  rw [hfloats, Row.read_floats]
  exact Row.narrow_eq_ok_iff.mpr hnarrow

/-- A row that is read back as nothing but itself. -/
def ReadsAsItself (type : DataType) (v : Value) : Prop :=
  ∀ back, RowReads type v back → back = v

theorem readsAsItself_plainRow (row : List Single) :
    ReadsAsItself .floatVector (.list (row.map fun x => .float x.convert)) := by
  rintro _ ⟨found, hfound, rfl⟩
  cases (hfound rowName).symm.trans (read_plainRow rowName row)
  rfl

theorem readsAsItself_bytes (bs : List UInt8) : ReadsAsItself .binaryVector (.bytes bs) := by
  rintro _ ⟨found, hbytes | hbuffer, rfl⟩
  · exact hbytes.symm
  · cases hbuffer

theorem readsAsItself_plain {kind : NumericKind} {item : ItemKind}
    (hstorage : type.storage? = some (.numeric kind, item)) (c : kind.elementType.Cell) :
    ReadsAsItself type (kind.elementType.plain c) := by
  intro back hback
  rw [rowReads_iff_itemReads (isVector_of_storage? hstorage)] at hback
  exact eq_of_itemReads hstorage hback (itemReads_plain hstorage c)

theorem readsAsItself_text {item : ItemKind} (hstorage : type.storage? = some (.string, item))
    (s : String) : ReadsAsItself type (.text s) := by
  intro back hback
  cases type with
  | string | varchar => exact hback
  | unrecognized | none | bool | int8 | int16 | int32 | int64 | float | double | binaryVector
    | floatVector => cases hstorage

/-- Rows that are read back as themselves are the rows of what they are packed as. -/
theorem rows_of_packed {values : List Value} {r : FieldData} (h : Packed field type values r)
    (hself : ∀ v ∈ values, ReadsAsItself type v) : r.rows = .ok values := by
  obtain ⟨backs, hrows, hreads⟩ := (readsBack_of_packed h).rows
  have hsame : List.Forall₂ Eq backs values :=
    ((List.forall₂_and_left values backs).mpr ⟨hself, hreads⟩).flip.imp fun _ _ h => h.1 _ h.2
  rw [List.forall₂_eq_eq_eq] at hsame
  rw [hrows, hsame]

/-- Cells in plain form are packed as the cells. -/
theorem packed_plain {kind : NumericKind} {item : ItemKind} {cells : List kind.elementType.Cell}
    (hstorage : type.storage? = some (.numeric kind, item))
    (hrange : ∀ c ∈ cells, ∀ f i, type.intFormat? = some f →
      kind.elementType.plain c = .int i → f.least ≤ i ∧ i ≤ f.greatest) :
    Packed field type (cells.map kind.elementType.plain)
      ⟨field, type, .scalars (.numeric kind cells)⟩ := by
  have hitems : ∀ v ∈ cells.map kind.elementType.plain,
      checkItem field type item v = .ok () := by
    rw [List.forall_mem_map]
    exact fun c hc => checkItem_plain hstorage (hrange c hc)
  obtain ⟨found, hfound, hfoundRange⟩ := exists_cells hstorage hitems
  have hself : ∀ v ∈ cells.map kind.elementType.plain, ReadsAsItself type v := by
    rw [List.forall_mem_map]
    exact fun c _ => readsAsItself_plain hstorage c
  have hsame : found = cells := by
    have hreads := ((List.forall₂_and_left _ found).mpr ⟨hself, hfound⟩).imp fun _ _ h =>
      h.1 _ ((rowReads_iff_itemReads (isVector_of_storage? hstorage)).mpr h.2.reads)
    rw [List.forall₂_map_left_iff] at hreads
    exact List.map_injective_iff.mpr kind.plain_injective
      (map_eq_map_of_forall₂ (hreads.flip.imp fun _ _ h => h))
  rw [hsame] at hfound hfoundRange
  exact .numeric hstorage hitems hfound hfoundRange

/-- The rows of a column that marshalling makes are packed as the column. -/
theorem exists_packed_rows {r : FieldData} (h : r.IsMarshalled) :
    ∃ backs, r.rows = .ok backs ∧ Packed r.name r.type backs r := by
  cases h with
  | @floats name rows dim hsome hpos hsize =>
      have hpacked : Packed name .floatVector
          (rows.map fun row => .list (row.map fun x => .float x.convert))
          ⟨name, .floatVector, .vectors ⟨.int dim, .floats rows.flatten⟩⟩ := by
        refine .floats ?_ hsome hpos hsize
        rw [List.forall₂_map_left_iff]
        exact List.forall₂_same.mpr fun row _ => read_plainRow rowName row
      refine ⟨_, rows_of_packed hpacked ?_, hpacked⟩
      exact List.forall_mem_map.mpr fun row _ => readsAsItself_plainRow row
  | @packed name rows width hsome hpos hsize =>
      have hpacked : Packed name .binaryVector (rows.map .bytes)
          ⟨name, .binaryVector, .vectors ⟨.int (8 * width : Nat), .packed rows.flatten⟩⟩ := by
        refine .packed ?_ hsome hpos hsize
        rw [List.forall₂_map_left_iff]
        exact List.forall₂_same.mpr fun _ _ => rfl
      refine ⟨_, rows_of_packed hpacked ?_, hpacked⟩
      exact List.forall_mem_map.mpr fun bs _ => readsAsItself_bytes bs
  | @numeric name type kind item cells hstorage hrange =>
      have hpacked : Packed name type _ _ := packed_plain hstorage hrange
      refine ⟨_, rows_of_packed hpacked ?_, hpacked⟩
      exact List.forall_mem_map.mpr fun c _ => readsAsItself_plain hstorage c
  | @strings name type item texts hstorage =>
      have hpacked : Packed name type (texts.map .text)
          ⟨name, type, .scalars (.strings (texts.map .text))⟩ := by
        refine .strings hstorage ?_
        rw [List.forall_mem_map]
        intro s _
        exact checkItem_text hstorage s
      refine ⟨_, rows_of_packed hpacked ?_, hpacked⟩
      exact List.forall_mem_map.mpr fun s _ => readsAsItself_text hstorage s

/-- Marshalling makes exactly the columns that are described without regard to any rows. -/
theorem exists_marshal_eq_ok_iff {r : FieldData} :
    (∃ column, marshal field (.dataType type) column = .ok r) ↔
      r.name = field ∧ r.type = type ∧ r.IsMarshalled := by
  constructor
  · rintro ⟨column, h⟩
    obtain ⟨values, -, hpacked⟩ := exists_packed_of_marshal h
    obtain ⟨hname, htype, -⟩ := readsBack_of_packed hpacked
    exact ⟨hname, htype, isMarshalled_of_packed hpacked⟩
  · rintro ⟨rfl, rfl, hmarshalled⟩
    obtain ⟨backs, -, hpacked⟩ := exists_packed_rows hmarshalled
    exact ⟨.list backs, marshal_list_eq_ok_iff.mpr hpacked⟩

/-- What is read back from a marshalled column is marshalled again, under the name and the type
that the column has, and gives the same column. -/
theorem marshal_rows {column : Value} {r : FieldData}
    (h : marshal field (.dataType type) column = .ok r) :
    ∃ backs, r.rows = .ok backs ∧ marshal r.name (.dataType r.type) (.list backs) = .ok r := by
  obtain ⟨-, -, hmarshalled⟩ := exists_marshal_eq_ok_iff.mp ⟨column, h⟩
  obtain ⟨backs, hrows, hpacked⟩ := exists_packed_rows hmarshalled
  exact ⟨backs, hrows, marshal_list_eq_ok_iff.mpr hpacked⟩

/-! ### Integers in a wide format -/

/-- The least and the greatest integer of one byte in two bytes each, the last byte first. -/
def levels : Tensor where
  type := .int .int16
  order := .big
  shape := [2]
  cells := [(IntFormat.int16.wrap (-128) : IntFormat.int16.Word), IntFormat.int16.wrap 127]
  length_cells := rfl

/-- They are marshalled as integers of four bytes, and so are the plain integers that are read
back. -/
theorem marshal_rows_levels :
    marshal (.text "level") (.dataType .int8) (.tensor levels) =
        .ok ⟨.text "level", .int8,
          .scalars (.numeric .int [IntFormat.int32.wrap (-128), IntFormat.int32.wrap 127])⟩ ∧
      ∃ backs,
        FieldData.rows ⟨.text "level", .int8,
          .scalars (.numeric .int [IntFormat.int32.wrap (-128), IntFormat.int32.wrap 127])⟩ =
            .ok backs ∧
        marshal (.text "level") (.dataType .int8) (.list backs) =
          .ok ⟨.text "level", .int8,
            .scalars (.numeric .int [IntFormat.int32.wrap (-128), IntFormat.int32.wrap 127])⟩ := by
  have h : marshal (.text "level") (.dataType .int8) (.tensor levels) =
      .ok ⟨.text "level", .int8,
        .scalars (.numeric .int [IntFormat.int32.wrap (-128), IntFormat.int32.wrap 127])⟩ := rfl
  exact ⟨h, marshal_rows h⟩

end Column

end VectorRequests
