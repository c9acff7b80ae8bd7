/-
# A marshalled column reads back as it was given

Vectors travel as one block without borders between rows. The dimension that is packed with
the block is the size that all rows share, so cutting the block by it finds the same rows
again, in floats as well as in bits. Scalars travel as cells that stand for the items. So
every column that can be marshalled can be read back, row by row.
-/

import VectorRequests.Proofs.Column.Packed
import VectorRequests.Proofs.Vector.Row

namespace VectorRequests

variable {field : Value} {type : DataType}

/-! ## Cutting a block into rows -/

/-- Rows of one size that are set one after the other are found again by that size. -/
theorem chunks_flatten {α : Type} {rows : List (List α)} {width : Nat}
    (h : ∀ row ∈ rows, row.length = width) : chunks width rows.length rows.flatten = rows := by
  induction rows with
  | nil => rfl
  | cons row rows ih =>
      obtain ⟨hrow, hrows⟩ := List.forall_mem_cons.mp h
      rw [List.length_cons, chunks, List.flatten_cons, List.take_left' hrow,
        List.drop_left' hrow, ih hrows]

theorem intQuotient?_mul (count : Nat) {width : Nat} (h : 0 < width) :
    Extent.intQuotient? ((count * width : Nat) : Int) (width : Int) = some (count : Int) := by
  have hne : (width : Int) ≠ 0 := by omega
  have hrest : ((count * width : Nat) : Int) % width = 0 := by
    rw [Nat.cast_mul]
    exact Int.mul_emod_left _ _
  rw [Extent.intQuotient?, if_pos hrest, Nat.cast_mul, Int.mul_ediv_cancel _ hne]

/-- An integer as a dimension is itself. -/
theorem Extent.ofValue_of_toInt? {v : Value} {n : Int} (h : v.toInt? = some n) :
    Extent.ofValue v = .ok (.integer n) := by
  cases v <;> cases h <;> rfl

namespace FieldData

/-- A dimension that is an integer must be above zero and fill whole bytes. -/
theorem checkDimension_of_toInt? (field : Value) (type : DataType) {dim : Value} {n : Int}
    (hint : dim.toInt? = some n) :
    checkDimension field type dim =
      if ¬ 0 < n then .error (.unreadable .invalidDimension field)
      else if type = .binaryVector ∧ n % 8 ≠ 0 then
        dim.withText (.error (.unreadable (.unalignedDimension dim) field))
      else .ok dim := by
  have hpositive : (Extent.integer n).isPositive = decide (0 < n) := rfl
  have haligned : (Extent.integer n).isAligned = decide (n % 8 = 0) := rfl
  rw [checkDimension, Extent.ofValue_of_toInt? hint, Outcome.ok_bind, hpositive, haligned]
  simp only [decide_eq_true_eq, Outcome.pure_eq_ok, ne_eq]

/-- A dimension above zero is accepted, if it fills whole bytes or need not. -/
theorem checkDimension_of_pos {dim : Nat} (hpos : 0 < dim)
    (hbytes : type = .binaryVector → dim % 8 = 0) :
    checkDimension field type (.int dim) = .ok (.int dim) := by
  have hint : (Value.int dim).toInt? = some (dim : Int) := rfl
  have haligned : ¬ (type = .binaryVector ∧ (dim : Int) % 8 ≠ 0) := by
    rintro ⟨htype, hnot⟩
    have hrest := hbytes htype
    omega
  rw [checkDimension_of_toInt? _ _ hint, if_neg (by omega), if_neg haligned]

/-- A payload that is a multiple of the dimension has as many rows. -/
theorem rowCount_of_dimension {c : FieldData} {dim : Value} {count width : Nat}
    (hvector : c.isVector = true) (hdim : c.dimension = .ok dim)
    (hextent : Extent.ofValue dim = .ok (.integer width)) (hpos : 0 < width)
    (hsize : c.payloadSize = .ok (count * width)) : c.rowCount = .ok (.int count) := by
  have hcount : Extent.quotient? (count * width) (.integer width) = .ok (some (.int count)) := by
    rw [Extent.quotient?, intQuotient?_mul count hpos]
    rfl
  rw [rowCount, if_pos hvector, hdim, Outcome.ok_bind, hsize, Outcome.ok_bind, hextent,
    Outcome.ok_bind, hcount]
  rfl

/-- Floats are cut into rows, if a row does not span too many bytes. -/
theorem splitFloats_of_rowIndex? {components : List Single} {count width : Nat} {dim : Value}
    (hdim : dim.rowIndex? = some width) :
    splitFloats components (.int count) dim =
      if (4 * width : Int) ≤ Tensor.maxSpan (4 * components.length) then
        .ok ((chunks width count components).map fun part =>
          .list (part.map (ElementType.float .single).plain))
      else Error.fail .badValue := by
  have hcount : (Value.int count).rowIndex? = some (count : Int) := rfl
  rw [splitFloats, hcount, hdim]
  rfl

/-- Packed bytes are cut into rows of whole bytes. -/
theorem splitPacked_of_rowIndex? {bytes : List UInt8} {count width : Nat} {dim : Value}
    (hdim : dim.rowIndex? = some (8 * width : Nat)) :
    splitPacked bytes (.int count) dim = .ok ((chunks width count bytes).map .bytes) := by
  have hcount : (Value.int count).rowIndex? = some (count : Int) := rfl
  have hwidth : (((8 * width : Nat) : Int) / 8).toNat = width := by omega
  rw [splitPacked, hcount, hdim]
  show Except.ok ((chunks (((8 * width : Nat) : Int) / 8).toNat count bytes).map Value.bytes) = _
  rw [hwidth]

/-- The floats of a block, cut into rows. -/
theorem splitFloats_flatten {rows : List (List Single)} {dim : Nat} (hsome : rows ≠ [])
    (hsize : ∀ row ∈ rows, row.length = dim) :
    splitFloats rows.flatten (.int rows.length) (.int dim) =
      .ok (rows.map fun row => .list (row.map ((ElementType.float .single).plain ·))) := by
  have hindex : (Value.int dim).rowIndex? = some (dim : Int) := rfl
  have hroom : (4 * dim : Int) ≤ Tensor.maxSpan (4 * rows.flatten.length) := by
    have hrow : dim ≤ rows.flatten.length := by
      rw [Column.length_flatten_of_forall hsize]
      exact Nat.le_mul_of_pos_left _ (List.length_pos_iff.mpr hsome)
    unfold Tensor.maxSpan
    omega
  rw [splitFloats_of_rowIndex? hindex, if_pos hroom, chunks_flatten hsize]

/-- The bytes of a block, cut into rows. -/
theorem splitPacked_flatten {rows : List (List UInt8)} {width : Nat}
    (hsize : ∀ row ∈ rows, row.length = width) :
    splitPacked rows.flatten (.int rows.length) (.int (8 * width : Nat)) =
      .ok (rows.map .bytes) := by
  have hindex : (Value.int (8 * width : Nat)).rowIndex? = some ((8 * width : Nat) : Int) := rfl
  rw [splitPacked_of_rowIndex? hindex, chunks_flatten hsize]

end FieldData

namespace Column

/-! ## Reading back -/

/-- What a row of a column reads back as: a float row as the list of its floats, a packed row
as its bytes, an item of a scalar column as itself. -/
def RowReads : DataType → Value → Value → Prop
  | .floatVector, v, back =>
    ∃ row, (∀ name, Row.read name v = .ok row) ∧ back = .list (row.map fun x => .float x.convert)
  | .binaryVector, v, back => ∃ bs, (v = .bytes bs ∨ v = .buffer bs) ∧ back = .bytes bs
  | type, v, back => ItemReads type v back

/-- A marshalled column that reads back as the rows it was made of. -/
structure ReadsBack (field : Value) (type : DataType) (values : List Value) (r : FieldData) :
    Prop where
  name_eq : r.name = field
  type_eq : r.type = type
  rowCount : r.rowCount = .ok (.int values.length)
  rows : ∃ backs, r.rows = .ok backs ∧ List.Forall₂ (RowReads type) values backs
  floatDim : type = .floatVector → ∃ dim : Nat, 0 < dim ∧ r.dimension = .ok (.int dim) ∧
    ∀ v ∈ values, ∃ row, (∀ name, Row.read name v = .ok row) ∧ row.length = dim
  packedDim : type = .binaryVector →
    ∃ width : Nat, 0 < width ∧ r.dimension = .ok (.int (8 * width : Nat)) ∧
      ∀ v ∈ values, ∃ bs, (v = .bytes bs ∨ v = .buffer bs) ∧ bs.length = width

/-- The type of a column that is stored as scalars is no type of vectors. -/
theorem isVector_of_storage? {storage : ScalarKind} {item : ItemKind}
    (h : type.storage? = some (storage, item)) : type.isVector = false := by
  cases type with
  | binaryVector | floatVector => cases h
  | _ => rfl

theorem rowReads_iff_itemReads {v back : Value} (hscalar : type.isVector = false) :
    RowReads type v back ↔ ItemReads type v back := by
  cases type with
  | binaryVector | floatVector => cases hscalar
  | _ => exact Iff.rfl

/-- A block of float rows that share their size is cut into the same rows again. -/
theorem readsBack_floats {values : List Value} {rows : List (List Single)} {dim : Nat}
    (hrows : List.Forall₂ (fun v row => ∀ name, Row.read name v = .ok row) values rows)
    (hsome : rows ≠ []) (hpos : 0 < dim) (hsize : ∀ row ∈ rows, row.length = dim) :
    ReadsBack field .floatVector values
      ⟨field, .floatVector, .vectors ⟨.int dim, .floats rows.flatten⟩⟩ := by
  have hdim : FieldData.dimension
      ⟨field, .floatVector, .vectors ⟨.int dim, .floats rows.flatten⟩⟩ = .ok (.int dim) :=
    FieldData.checkDimension_of_pos hpos nofun
  have hpayload : FieldData.payloadSize
      ⟨field, .floatVector, .vectors ⟨.int dim, .floats rows.flatten⟩⟩ =
        .ok (rows.length * dim) :=
    congrArg Except.ok (length_flatten_of_forall hsize)
  have hcount := FieldData.rowCount_of_dimension rfl hdim rfl hpos hpayload
  have hback : FieldData.rows ⟨field, .floatVector, .vectors ⟨.int dim, .floats rows.flatten⟩⟩ =
      .ok (rows.map fun row => .list (row.map fun x => .float x.convert)) := by
    rw [FieldData.rows, hcount, Outcome.ok_bind]
    show (FieldData.dimension _ >>= FieldData.splitFloats rows.flatten (.int rows.length)) = _
    rw [hdim, Outcome.ok_bind]
    exact FieldData.splitFloats_flatten hsome hsize
  refine ⟨rfl, rfl, ?_, ⟨_, hback, ?_⟩, fun _ => ⟨dim, hpos, hdim, ?_⟩, nofun⟩
  · rw [hrows.length_eq]
    exact hcount
  · rw [List.forall₂_map_right_iff]
    exact hrows.imp fun v row hrow => ⟨row, hrow, rfl⟩
  · exact exists_of_forall₂ hrows hsize

/-- A block of packed rows that share their size is cut into the same rows again. -/
theorem readsBack_packed {values : List Value} {rows : List (List UInt8)} {width : Nat}
    (hrows : List.Forall₂ (fun v bs => v = .bytes bs ∨ v = .buffer bs) values rows)
    (hpos : 0 < width) (hsize : ∀ row ∈ rows, row.length = width) :
    ReadsBack field .binaryVector values
      ⟨field, .binaryVector, .vectors ⟨.int (8 * width : Nat), .packed rows.flatten⟩⟩ := by
  have hdim : FieldData.dimension
      ⟨field, .binaryVector, .vectors ⟨.int (8 * width : Nat), .packed rows.flatten⟩⟩ =
        .ok (.int (8 * width : Nat)) :=
    FieldData.checkDimension_of_pos (by omega) fun _ => Nat.mul_mod_right 8 width
  have hbits : rows.flatten.length * 8 = rows.length * (8 * width) := by
    rw [length_flatten_of_forall hsize, Nat.mul_assoc, Nat.mul_comm width]
  have hpayload : FieldData.payloadSize
      ⟨field, .binaryVector, .vectors ⟨.int (8 * width : Nat), .packed rows.flatten⟩⟩ =
        .ok (rows.length * (8 * width)) :=
    congrArg Except.ok hbits
  have hcount := FieldData.rowCount_of_dimension rfl hdim rfl (by omega) hpayload
  have hback : FieldData.rows
      ⟨field, .binaryVector, .vectors ⟨.int (8 * width : Nat), .packed rows.flatten⟩⟩ =
        .ok (rows.map .bytes) := by
    rw [FieldData.rows, hcount, Outcome.ok_bind]
    show (FieldData.dimension _ >>= FieldData.splitPacked rows.flatten (.int rows.length)) = _
    rw [hdim, Outcome.ok_bind]
    exact FieldData.splitPacked_flatten hsize
  refine ⟨rfl, rfl, ?_, ⟨_, hback, ?_⟩, nofun, fun _ => ⟨width, hpos, hdim, ?_⟩⟩
  · rw [hrows.length_eq]
    exact hcount
  · rw [List.forall₂_map_right_iff]
    exact hrows.imp fun v bs hrow => ⟨bs, hrow, rfl⟩
  · exact exists_of_forall₂ hrows hsize

/-- Scalars are read back one by one. -/
theorem readsBack_scalars {values : List Value} {s : ScalarField}
    (hscalar : type.isVector = false) (hlength : s.length = values.length)
    (hreads : List.Forall₂ (ItemReads type) values (FieldData.scalarValues s)) :
    ReadsBack field type values ⟨field, type, .scalars s⟩ := by
  have hcount : FieldData.rowCount ⟨field, type, .scalars s⟩ = .ok (.int s.length) := by
    rw [FieldData.rowCount, FieldData.isVector, hscalar]
    rfl
  have hback : FieldData.rows ⟨field, type, .scalars s⟩ = .ok (FieldData.scalarValues s) := by
    rw [FieldData.rows, hcount, Outcome.ok_bind]
    cases type with
    | binaryVector | floatVector => cases hscalar
    | _ => rfl
  have hrows := hreads.imp fun _ _ => (rowReads_iff_itemReads hscalar).mpr
  refine ⟨rfl, rfl, ?_, ⟨_, hback, hrows⟩, ?_, ?_⟩
  · rw [hcount, hlength]
  · rintro rfl
    cases hscalar
  · rintro rfl
    cases hscalar

/-- What a column is packed as reads back as the column. -/
theorem readsBack_of_packed {values : List Value} {r : FieldData}
    (h : Packed field type values r) : ReadsBack field type values r := by
  cases h with
  | floats hrows hsome hpos hsize =>
      refine readsBack_floats (hrows.imp ?_) hsome hpos hsize
      intro v row hrow name
      exact Row.read_eq_ok_of_name hrow
  | packed hrows hsome hpos hsize =>
      exact readsBack_packed (hrows.imp fun _ _ => binaryRow_eq_ok_iff.mp) hpos hsize
  | numeric hstorage hitems hcells hrange =>
      refine readsBack_scalars (isVector_of_storage? hstorage) hcells.length_eq.symm ?_
      rw [FieldData.scalarValues, List.forall₂_map_right_iff]
      exact hcells.imp fun _ _ hstored => hstored.reads
  | strings hstorage hitems =>
      refine readsBack_scalars (isVector_of_storage? hstorage) rfl ?_
      apply List.forall₂_same.mpr
      intro v _
      cases type with
      | string | varchar => rfl
      | _ => cases hstorage

/-- Every column that can be marshalled is read back without fail: as many rows as it has,
each as the row that was given, with the dimension that the rows share. -/
theorem marshal_reads_back {column : Value} {r : FieldData}
    (h : marshal field (.dataType type) column = .ok r) :
    ∃ values, column.iterate = .ok values ∧ column.length = .ok values.length ∧
      ReadsBack field type values r := by
  obtain ⟨⟨found, values⟩, htyped, hpack⟩ := Outcome.bind_eq_ok.mp h
  obtain ⟨htype, -, hitems, hlength⟩ := of_typedRows htyped
  cases htype
  exact ⟨values, hitems, hlength, readsBack_of_packed (pack_eq_ok_iff.mp hpack)⟩

/-- Two rows of two bytes each, one of them a buffer, are read back from one block. -/
theorem marshal_reads_back_bytes :
    marshal (.text "tags") (.dataType .binaryVector) (.list [.bytes [1, 2], .buffer [3, 4]]) =
        .ok ⟨.text "tags", .binaryVector, .vectors ⟨.int 16, .packed [1, 2, 3, 4]⟩⟩ ∧
      ∃ values, Value.iterate (.list [.bytes [1, 2], .buffer [3, 4]]) = .ok values ∧
        Value.length (.list [.bytes [1, 2], .buffer [3, 4]]) = .ok values.length ∧
        ReadsBack (.text "tags") .binaryVector values
          ⟨.text "tags", .binaryVector, .vectors ⟨.int 16, .packed [1, 2, 3, 4]⟩⟩ :=
  ⟨rfl, marshal_reads_back rfl⟩

end Column

end VectorRequests
