/-
# Columns in batches

A row is checked and packed without regard to its neighbours, but for the size that all rows of
vectors share. So some of the rows of a column are packed whenever the whole column is, and two
lists of rows that are packed with the same dimension are packed together as the payload of the
first followed by the payload of the second.
-/

import VectorRequests.Proofs.Column.Agreement

namespace VectorRequests

namespace FieldData

/-- The dimension of a column of vectors. -/
def blockDim? (c : FieldData) : Option Value :=
  c.vectors?.map VectorField.dim

/-- A column that has the name, the type and the kind or dimension of two others, and their
payloads one after the other. -/
inductive Joins : FieldData → FieldData → FieldData → Prop
  | floats (name : Value) (type : DataType) (dim : Value) (xs ys : List Single) :
      Joins ⟨name, type, .vectors ⟨dim, .floats xs⟩⟩ ⟨name, type, .vectors ⟨dim, .floats ys⟩⟩
        ⟨name, type, .vectors ⟨dim, .floats (xs ++ ys)⟩⟩
  | packed (name : Value) (type : DataType) (dim : Value) (xs ys : List UInt8) :
      Joins ⟨name, type, .vectors ⟨dim, .packed xs⟩⟩ ⟨name, type, .vectors ⟨dim, .packed ys⟩⟩
        ⟨name, type, .vectors ⟨dim, .packed (xs ++ ys)⟩⟩
  | numeric (name : Value) (type : DataType) (kind : NumericKind)
      (xs ys : List kind.elementType.Cell) :
      Joins ⟨name, type, .scalars (.numeric kind xs)⟩ ⟨name, type, .scalars (.numeric kind ys)⟩
        ⟨name, type, .scalars (.numeric kind (xs ++ ys))⟩
  | strings (name : Value) (type : DataType) (xs ys : List Value) :
      Joins ⟨name, type, .scalars (.strings xs)⟩ ⟨name, type, .scalars (.strings ys)⟩
        ⟨name, type, .scalars (.strings (xs ++ ys))⟩

end FieldData

namespace Column

open FieldData (Joins)

variable {field : Value} {type : DataType}

/-- A column is packed in one way. -/
theorem Packed.unique {values : List Value} {r s : FieldData} (hr : Packed field type values r)
    (hs : Packed field type values s) : r = s :=
  Except.ok.inj ((pack_of_packed hr).symm.trans (pack_of_packed hs))

/-- Items are stored as their cells in one way. -/
theorem cells_unique {t : ElementType} {values : List Value} {cells found : List t.Cell}
    (hcells : List.Forall₂ (StoredAs type t) values cells)
    (hfound : List.Forall₂ (StoredAs type t) values found) : cells = found := by
  have hwalk {cs : List t.Cell} (h : List.Forall₂ (StoredAs type t) values cs) :
      values.mapM (Cells.toCell t) = .ok cs :=
    Outcome.mapM_eq_ok_iff.mpr (h.imp fun _ _ hstored => hstored.cell)
  exact Except.ok.inj ((hwalk hcells).symm.trans (hwalk hfound))

/-! ## Some of the rows -/

/-- Rows that can be read with a size are read as rows of that size. -/
theorem exists_rows_of_subset {α : Type} {read : Value → Outcome (List α)}
    {values part : List Value} {rows : List (List α)} {size : Nat}
    (hrows : List.Forall₂ (fun v row => read v = .ok row) values rows)
    (hsize : ∀ row ∈ rows, row.length = size) (hpart : part ⊆ values) (hsome : part ≠ []) :
    ∃ chosen, List.Forall₂ (fun v row => read v = .ok row) part chosen ∧ chosen ≠ [] ∧
      ∀ row ∈ chosen, row.length = size := by
  have hread := exists_of_forall₂ hrows hsize
  obtain ⟨chosen, hchosen⟩ := exists_forall₂ fun v hv => hread v (hpart hv)
  refine ⟨chosen, hchosen.imp fun _ _ h => h.1, ?_, ?_⟩
  · rintro rfl
    exact hsome (List.forall₂_nil_right_iff.mp hchosen)
  · intro row hrow
    obtain ⟨_, ⟨_, hlength⟩, -⟩ := exists_of_forall₂ hchosen.flip (fun _ _ => trivial) row hrow
    exact hlength

/-- Some of the rows of a column are packed with the dimension of the column; of rows of vectors
there must be at least one. -/
theorem Packed.exists_of_subset {values part : List Value} {r : FieldData}
    (h : Packed field type values r) (hpart : part ⊆ values)
    (hsome : type.isVector = true → part ≠ []) :
    ∃ s, Packed field type part s ∧ s.blockDim? = r.blockDim? := by
  cases h with
  | floats hrows _ hpos hsize =>
      obtain ⟨chosen, hchosen, hleft, hlength⟩ :=
        exists_rows_of_subset hrows hsize hpart (hsome rfl)
      exact ⟨_, .floats hchosen hleft hpos hlength, rfl⟩
  | packed hrows _ hpos hsize =>
      obtain ⟨chosen, hchosen, hleft, hlength⟩ :=
        exists_rows_of_subset hrows hsize hpart (hsome rfl)
      exact ⟨_, .packed hchosen hleft hpos hlength, rfl⟩
  | numeric hstorage hitems =>
      have hpass := fun v hv => hitems v (hpart hv)
      obtain ⟨cells, hcells, hrange⟩ := exists_cells hstorage hpass
      exact ⟨_, .numeric hstorage hpass hcells hrange, rfl⟩
  | strings hstorage hitems =>
      exact ⟨_, .strings hstorage fun v hv => hitems v (hpart hv), rfl⟩

/-- The dimension of a column is that of any of its rows. -/
theorem Packed.blockDim?_of_subset {values part : List Value} {r s : FieldData}
    (h : Packed field type values r) (hs : Packed field type part s) (hpart : part ⊆ values)
    (hsome : type.isVector = true → part ≠ []) : s.blockDim? = r.blockDim? := by
  obtain ⟨s', hs', hdim⟩ := h.exists_of_subset hpart hsome
  rw [hs.unique hs', hdim]

/-- Columns of scalars have no dimension. -/
theorem Packed.blockDim?_of_not_isVector {values : List Value} {r : FieldData}
    (h : Packed field type values r) (htype : ¬ type.isVector = true) : r.blockDim? = none := by
  cases h with
  | floats | packed => exact absurd rfl htype
  | numeric | strings => rfl

/-! ## One list of rows after the other -/

/-- Two lists of rows with one dimension are packed together. -/
theorem Packed.exists_joins {xs ys : List Value} {r s : FieldData}
    (hr : Packed field type xs r) (hs : Packed field type ys s)
    (hdim : r.blockDim? = s.blockDim?) :
    ∃ t, Packed field type (xs ++ ys) t ∧ Joins r s t := by
  cases hr with
  | @floats _ rows dim hrows hsome hpos hsize =>
      cases hs with
      | @floats _ rows' _ hrows' _ _ hsize' =>
          cases hdim
          have hall : ∀ row ∈ rows ++ rows', row.length = dim :=
            List.forall_mem_append.mpr ⟨hsize, hsize'⟩
          have hleft : rows ++ rows' ≠ [] := List.append_ne_nil_of_left_ne_nil hsome _
          refine ⟨_, .floats (List.rel_append hrows hrows') hleft hpos hall, ?_⟩
          rw [List.flatten_append]
          exact .floats ..
      | numeric hstorage | strings hstorage => cases hstorage
  | @packed _ rows width hrows hsome hpos hsize =>
      cases hs with
      | @packed _ rows' width' hrows' _ _ hsize' =>
          have hwidth : width' = width := by
            have hvalue : (8 * width : Nat) = ((8 * width' : Nat) : Int) :=
              Value.int.inj (Option.some.inj hdim)
            omega
          subst hwidth
          have hall : ∀ row ∈ rows ++ rows', row.length = width' :=
            List.forall_mem_append.mpr ⟨hsize, hsize'⟩
          have hleft : rows ++ rows' ≠ [] := List.append_ne_nil_of_left_ne_nil hsome _
          refine ⟨_, .packed (List.rel_append hrows hrows') hleft hpos hall, ?_⟩
          rw [List.flatten_append]
          exact .packed ..
      | numeric hstorage | strings hstorage => cases hstorage
  | @numeric _ _ kind item cells hstorage hitems hcells _ =>
      cases hs with
      | floats | packed => cases hstorage
      | strings hstorage' => cases hstorage.symm.trans hstorage'
      | @numeric _ _ _ _ cells' hstorage' hitems' hcells' _ =>
          cases hstorage.symm.trans hstorage'
          have hall := List.forall_mem_append.mpr ⟨hitems, hitems'⟩
          obtain ⟨both, hboth, hrange⟩ := exists_cells hstorage hall
          cases cells_unique hboth (List.rel_append hcells hcells')
          exact ⟨_, .numeric hstorage hall hboth hrange, .numeric ..⟩
  | strings hstorage hitems =>
      cases hs with
      | floats | packed => cases hstorage
      | numeric hstorage' => cases hstorage.symm.trans hstorage'
      | strings hstorage' hitems' =>
          cases hstorage.symm.trans hstorage'
          exact ⟨_, .strings hstorage (List.forall_mem_append.mpr ⟨hitems, hitems'⟩), .strings ..⟩

/-- Two lists of rows, each with at least one row if they are rows of vectors, are marshalled
one after the other exactly if either is marshalled, with one dimension if they are vectors. The
column has the name, the type, and the kind or dimension of both, and holds the payload of the
first followed by that of the second. -/
theorem marshal_append {xs ys : List Value}
    (hsome : type.isVector = true → xs ≠ [] ∧ ys ≠ []) :
    ((∃ t, marshal field (.dataType type) (.list (xs ++ ys)) = .ok t) ↔
      ∃ r s, marshal field (.dataType type) (.list xs) = .ok r ∧
        marshal field (.dataType type) (.list ys) = .ok s ∧
        (type.isVector = true → r.blockDim? = s.blockDim?)) ∧
      ∀ r s t, marshal field (.dataType type) (.list xs) = .ok r →
        marshal field (.dataType type) (.list ys) = .ok s →
        marshal field (.dataType type) (.list (xs ++ ys)) = .ok t → Joins r s t := by
  simp only [marshal_list_eq_ok_iff]
  have hleft : xs ⊆ xs ++ ys := List.subset_append_left ..
  have hright : ys ⊆ xs ++ ys := List.subset_append_right ..
  constructor
  · constructor
    · rintro ⟨t, ht⟩
      obtain ⟨r, hr, hrdim⟩ := ht.exists_of_subset hleft fun hvector => (hsome hvector).1
      obtain ⟨s, hs, hsdim⟩ := ht.exists_of_subset hright fun hvector => (hsome hvector).2
      exact ⟨r, s, hr, hs, fun _ => hrdim.trans hsdim.symm⟩
    · rintro ⟨r, s, hr, hs, hdim⟩
      have hsame : r.blockDim? = s.blockDim? := by
        by_cases hvector : type.isVector = true
        · exact hdim hvector
        · rw [hr.blockDim?_of_not_isVector hvector, hs.blockDim?_of_not_isVector hvector]
      obtain ⟨t, ht, -⟩ := hr.exists_joins hs hsame
      exact ⟨t, ht⟩
  · intro r s t hr hs ht
    have hrdim := ht.blockDim?_of_subset hr hleft fun hvector => (hsome hvector).1
    have hsdim := ht.blockDim?_of_subset hs hright fun hvector => (hsome hvector).2
    obtain ⟨t', ht', hjoins⟩ := hr.exists_joins hs (hrdim.trans hsdim.symm)
    rwa [ht.unique ht']

/-! ### Bit-packed rows in two lists -/

/-- One row of sixteen bits, and then two that come in a growing and in a fixed form. -/
theorem marshal_twoBatches :
    (DataType.binaryVector.isVector = true →
        [Value.bytes [1, 2]] ≠ [] ∧ [Value.buffer [3, 4], .bytes [5, 6]] ≠ []) ∧
      marshal (.text "code") (.dataType .binaryVector)
          (.list ([.bytes [1, 2]] ++ [.buffer [3, 4], .bytes [5, 6]])) =
        .ok ⟨.text "code", .binaryVector, .vectors ⟨.int 16, .packed [1, 2, 3, 4, 5, 6]⟩⟩ := by
  have hfirst : marshal (.text "code") (.dataType .binaryVector) (.list [.bytes [1, 2]]) =
      .ok ⟨.text "code", .binaryVector, .vectors ⟨.int 16, .packed [1, 2]⟩⟩ := rfl
  have hsecond : marshal (.text "code") (.dataType .binaryVector)
      (.list [.buffer [3, 4], .bytes [5, 6]]) =
        .ok ⟨.text "code", .binaryVector, .vectors ⟨.int 16, .packed [3, 4, 5, 6]⟩⟩ := rfl
  have hsome : DataType.binaryVector.isVector = true →
      [Value.bytes [1, 2]] ≠ [] ∧ [Value.buffer [3, 4], .bytes [5, 6]] ≠ [] := by simp
  obtain ⟨hboth, hjoins⟩ := @marshal_append (.text "code") _ _ _ hsome
  obtain ⟨t, ht⟩ := hboth.mpr ⟨_, _, hfirst, hsecond, fun _ => rfl⟩
  refine ⟨hsome, ?_⟩
  cases hjoins _ _ _ hfirst hsecond ht
  exact ht

end Column

end VectorRequests
