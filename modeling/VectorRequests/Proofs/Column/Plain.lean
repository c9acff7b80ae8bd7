/-
# Columns in plain form

Packing sees little of an item: its components as a row, its bytes or text, and the truth
value, integer or float that it is worth. An item in plain form shows the same, so a column is
marshalled as its items in plain form are, whatever container and cells it came in.

A row without components is the exception: a tensor of truth values without cells is no row,
and the empty list in its place is one. But no column with an empty row is packed.
-/

import VectorRequests.Proofs.Column.Failure
import VectorRequests.Proofs.Value.Plain

namespace VectorRequests

open Value (plain)

/-! ## Components of rows -/

namespace Row

theorem isReal_plain (v : Value) : isReal (plain v) = isReal v := by
  cases v with
  | list | tuple => rfl
  | sized type cell => cases type <;> rfl
  | tensor t =>
      rw [plain]
      split
      · rfl
      · obtain ⟨xs, hxs⟩ := Value.exists_nested_eq t (t.shape.length - 1)
        rw [hxs]
        rfl
  | _ => rfl

theorem toDouble_plain {v : Value} (husual : v.IsUsual) (hreal : isReal v = true) :
    toDouble (plain v) = toDouble v := by
  cases v with
  | sized type cell =>
      cases type with
      | bool => cases hreal
      | int f =>
          have hdouble := ElementType.ofInt?_value husual cell
          rw [plain, ElementType.plain, toDouble, ElementType.toFloat, toDouble]
          · rw [Value.toInt?, Option.bind_some, hdouble]
          · simp
          · simp
      | float f => rfl
  | list | tuple | tensor => cases hreal
  | _ => rfl

theorem readComponents_plain {name : String} {xs : List Value} {row : List Single}
    (husual : ∀ x ∈ xs, x.IsUsual) :
    readComponents name (xs.map plain) = .ok row ↔ readComponents name xs = .ok row := by
  rw [readComponents_eq_ok_iff, readComponents_eq_ok_iff]
  simp only [List.forall_mem_map, isReal_plain]
  apply and_congr_right
  intro hreal
  have hwalk : (xs.map plain).mapM toDouble = xs.mapM toDouble := by
    rw [List.mapM_map]
    exact Outcome.mapM_congr fun x hx => toDouble_plain (husual x hx) (hreal x hx)
  rw [hwalk]

/-- Of items that are no real numbers only the empty row is made. -/
theorem eq_nil_of_readComponents {name : String} {xs : List Value} {row : List Single}
    (hreal : ∀ x ∈ xs, isReal x = false) (h : readComponents name xs = .ok row) : row = [] := by
  cases xs with
  | nil =>
      cases h
      rfl
  | cons x xs =>
      have hx := (readComponents_eq_ok_iff.mp h).1 x (List.mem_cons_self ..)
      rw [hreal x (List.mem_cons_self ..)] at hx
      cases hx

theorem mapM_toDouble_sized {type : ElementType} (cells : List type.Cell) :
    (cells.map (Value.sized type)).mapM toDouble = .ok (cells.map (type.toFloat .double)) := by
  apply Outcome.mapM_eq_ok_iff.mpr
  rw [List.forall₂_map_left_iff, List.forall₂_map_right_iff]
  exact List.forall₂_same.mpr fun _ _ => rfl

/-- A tensor is read as a row as its items are, if there are any. -/
theorem read_tensor {name : String} {t : Tensor} {items : List Value} {row : List Single}
    (h : t.items? = some items) (hsome : row ≠ []) :
    read name (.tensor t) = .ok row ↔ readComponents name items = .ok row := by
  by_cases hrow : t.shape.length = 1 ∧ t.type.isNumeric = true
  · obtain ⟨hshape, hnumeric⟩ := hrow
    obtain ⟨n, hn⟩ := List.length_eq_one_iff.mp hshape
    have hitems : items = t.sizedCells := by
      rw [Tensor.items?, hn] at h
      exact (Option.some.inj h).symm
    have hreal : ∀ x ∈ t.sizedCells, isReal x = true := by
      intro x hx
      obtain ⟨cell, -, rfl⟩ := List.mem_map.mp hx
      exact hnumeric
    have hwalk : t.sizedCells.mapM toDouble = .ok (t.cells.map (t.type.toFloat .double)) :=
      mapM_toDouble_sized t.cells
    rw [read, if_pos ⟨hshape, hnumeric⟩, hitems, readComponents_eq_ok_iff, narrow_eq_ok_iff, hwalk]
    constructor
    · intro hnarrow
      exact ⟨hreal, _, rfl, hnarrow⟩
    · rintro ⟨-, ds, hds, hnarrow⟩
      cases hds
      exact hnarrow
  · rw [read, if_neg hrow]
    refine iff_of_false (by simp [Error.refuse]) ?_
    intro hread
    refine hsome (eq_nil_of_readComponents ?_ hread)
    intro x hx
    obtain ⟨hshape, cell, rfl⟩ | ⟨u, rfl, -⟩ := Tensor.of_mem_items? h hx
    · exact Bool.not_eq_true _ ▸ fun hnumeric => hrow ⟨hshape, hnumeric⟩
    · rfl

/-- A row that has components is read as its plain form is. -/
theorem read_plain {name : String} {v : Value} {row : List Single} (husual : v.IsUsual)
    (hsome : row ≠ []) : read name (plain v) = .ok row ↔ read name v = .ok row := by
  cases v with
  | list xs | tuple xs =>
      rw [plain, Value.plainAll_eq_map]
      exact readComponents_plain (Value.areUsual_iff.mp husual)
  | sized type cell =>
      have hcell : read name (.sized type cell) ≠ .ok row := by
        simp [read, Error.refuse]
      have hnumber : read name (type.plain cell) ≠ .ok row := by
        cases type <;> simp [read, ElementType.plain, Error.refuse]
      exact iff_of_false hnumber hcell
  | tensor t =>
      cases hitems : t.items? with
      | none =>
          have hshape : t.shape = [] := Tensor.items?_eq_none_iff.mp hitems
          rw [plain, if_pos hshape]
      | some items =>
          rw [Value.plain_tensor hitems, read_tensor hitems hsome]
          exact readComponents_plain (Value.isUsual_of_items? husual hitems)
  | _ => exact Iff.rfl

end Row

namespace Column

variable {field : Value} {type : DataType}

/-! ## Items -/

/-- What packing sees of an item, apart from its components as a row. -/
structure ItemView where
  bytes? : Option (List UInt8)
  text? : Option String
  bool? : Option Bool
  int? : Option Int
  double? : Option Double
  single? : Option Single
  overflows : Bool

namespace ItemView

/-- The bytes of an item. -/
def bytesOf : Value → Option (List UInt8)
  | .bytes bs => some bs
  | .buffer bs => some bs
  | _ => none

/-- The text of an item. -/
def textOf : Value → Option String
  | .text s => some s
  | _ => none

/-- The truth value of an item. -/
def boolOf : Value → Option Bool
  | .bool b => some b
  | .sized .bool b => some b
  | _ => none

/-- The view of an item. -/
def of (v : Value) : ItemView where
  bytes? := bytesOf v
  text? := textOf v
  bool? := boolOf v
  int? := ItemKind.int? v
  double? := ItemKind.double? v
  single? := ItemKind.single? v
  overflows := overflowsSingle v

/-- Whether an item with a view is of a kind. -/
def suits (view : ItemView) : ItemKind → Bool
  | .int => view.int?.isSome
  | .bool => view.bool?.isSome
  | .float => view.double?.isSome
  | .text => view.text?.isSome

/-- The number that an item with a view is read back as from a column of a numeric type. -/
def reading? (view : ItemView) : DataType → Option Value
  | .int8 | .int16 | .int32 | .int64 => view.int?.map .int
  | .bool => view.bool?.map .bool
  | .float => view.single?.map fun x => .float x.convert
  | .double => view.double?.map .float
  | _ => none

theorem suits_of (kind : ItemKind) (v : Value) : (of v).suits kind = kind.accepts v := by
  cases kind with
  | int | float => rfl
  | bool =>
      cases v with
      | sized type cell => cases type <;> rfl
      | _ => rfl
  | text => cases v <;> rfl

/-- An item in plain form shows what the item does. -/
theorem of_plain {v : Value} (husual : v.IsUsual) : of (plain v) = of v := by
  cases v with
  | sized type cell =>
      cases type with
      | bool | int => rfl
      | float f =>
          obtain ⟨finer, hwidens⟩ := ElementType.exists_widens husual
          have hsingle := Binary.convert_convert hwidens .single cell
          have hnarrow := Binary.narrow?_convert hwidens cell
          show ItemView.mk none none none none _ (some _) (Option.isNone _) = _
          rw [hsingle, hnarrow]
          rfl
  | tensor t =>
      rw [plain]
      split
      · rfl
      · obtain ⟨xs, hxs⟩ := Value.exists_nested_eq t (t.shape.length - 1)
        rw [hxs]
        rfl
  | _ => rfl

end ItemView

/-- Two items that show the same to packing. -/
structure SeenAlike (v w : Value) : Prop where
  row : ∀ row, row ≠ [] → (Row.read rowName v = .ok row ↔ Row.read rowName w = .ok row)
  view : ItemView.of v = ItemView.of w

theorem SeenAlike.symm {v w : Value} (h : SeenAlike v w) : SeenAlike w v where
  row row hsome := (h.row row hsome).symm
  view := h.view.symm

theorem seenAlike_plain {v : Value} (husual : v.IsUsual) : SeenAlike (plain v) v where
  row _ hsome := Row.read_plain husual hsome
  view := ItemView.of_plain husual

theorem binaryRow_eq_ok_iff_bytesOf {v : Value} {bs : List UInt8} :
    binaryRow field v = .ok bs ↔ (ItemView.of v).bytes? = some bs := by
  rw [binaryRow_eq_ok_iff]
  cases v <;> simp [ItemView.of, ItemView.bytesOf]

theorem isOutOfRange_of_view {v w : Value} (h : ItemView.of v = ItemView.of w) :
    isOutOfRange type v = isOutOfRange type w := by
  have hint : ItemKind.int? v = ItemKind.int? w := congrArg ItemView.int? h
  have hover : overflowsSingle v = overflowsSingle w := congrArg ItemView.overflows h
  rw [isOutOfRange, isOutOfRange, hint, hover]

/-- Items that show the same pass the check together. -/
theorem checkItem_of_view {item : ItemKind} {v w : Value} (h : ItemView.of v = ItemView.of w)
    (hpass : checkItem field type item v = .ok ()) : checkItem field type item w = .ok () := by
  rw [checkItem_eq_ok_iff, ← ItemView.suits_of] at hpass ⊢
  rwa [h, isOutOfRange_of_view h] at hpass

theorem boolOf_eq_some_iff {v : Value} {b : Bool} :
    ItemView.boolOf v = some b ↔ v = .bool b ∨ v = .sized .bool b := by
  constructor
  · intro h
    cases v with
    | bool c =>
        cases h
        exact .inl rfl
    | sized t cell =>
        cases t with
        | bool =>
            cases h
            exact .inr rfl
        | int | float => cases h
    | _ => cases h
  · rintro (rfl | rfl)
    · rfl
    · rfl

/-- What an item of a numeric type is read back as is seen from its view. -/
theorem reading?_eq_some_iff {kind : NumericKind} {item : ItemKind} {v back : Value}
    (hstorage : type.storage? = some (.numeric kind, item)) :
    (ItemView.of v).reading? type = some back ↔ ItemReads type v back := by
  cases type with
  | int8 | int16 | int32 | int64 | float | double =>
      rw [ItemView.reading?, Option.map_eq_some_iff]
      simp only [ItemReads, ItemView.of, eq_comm (a := back)]
  | bool =>
      rw [ItemView.reading?, Option.map_eq_some_iff]
      simp only [ItemReads, ItemView.of, boolOf_eq_some_iff, eq_comm (a := back)]
  | unrecognized | none | string | varchar | binaryVector | floatVector => cases hstorage

theorem exists_text_of_checkItem {item : ItemKind} {v : Value}
    (hstorage : type.storage? = some (.string, item))
    (h : checkItem field type item v = .ok ()) : ∃ s, v = .text s := by
  obtain ⟨haccepts, -⟩ := checkItem_eq_ok_iff.mp h
  cases type with
  | string | varchar =>
      cases hstorage
      cases v with
      | text s => exact ⟨s, rfl⟩
      | _ => cases haccepts
  | unrecognized | none | bool | int8 | int16 | int32 | int64 | float | double | binaryVector
    | floatVector => cases hstorage

/-! ## Packing -/

/-- Items that show the same are stored as the same cells. -/
theorem cells_eq_of_seenAlike {kind : NumericKind} {item : ItemKind} {values others : List Value}
    {cells found : List kind.elementType.Cell}
    (hstorage : type.storage? = some (.numeric kind, item))
    (hseen : List.Forall₂ SeenAlike values others)
    (hcells : List.Forall₂ (StoredAs type kind.elementType) values cells)
    (hfound : List.Forall₂ (StoredAs type kind.elementType) others found) : cells = found := by
  have hreading {vs : List Value} {cs : List kind.elementType.Cell}
      (hstored : List.Forall₂ (StoredAs type kind.elementType) vs cs) :
      (vs.map fun v => (ItemView.of v).reading? type) =
        cs.map fun c => some (kind.elementType.plain c) := by
    apply map_eq_map_of_forall₂
    exact hstored.imp fun _ _ h => (reading?_eq_some_iff hstorage).mpr h.reads
  have hviews : (values.map fun v => (ItemView.of v).reading? type) =
      others.map fun v => (ItemView.of v).reading? type := by
    apply map_eq_map_of_forall₂
    exact hseen.imp fun _ _ h => congrArg (fun view => ItemView.reading? view type) h.view
  have hinjective : Function.Injective fun c => some (kind.elementType.plain c) :=
    (Option.some_injective _).comp kind.plain_injective
  apply List.map_injective_iff.mpr hinjective
  exact (hreading hcells).symm.trans (hviews.trans (hreading hfound))

/-- What shows the same as texts are the same texts. -/
theorem eq_of_seenAlike_texts {values others : List Value}
    (hseen : List.Forall₂ SeenAlike values others) (htexts : ∀ v ∈ values, ∃ s, v = .text s) :
    others = values := by
  have hself : List.Forall₂ (fun v x => v = x ∧ ∃ s, v = .text s) values values := by
    apply List.forall₂_same.mpr
    intro v hv
    exact ⟨rfl, htexts v hv⟩
  have hsame : List.Forall₂ Eq others values := by
    apply forall₂_transfer hseen hself
    rintro v w x - halike ⟨rfl, s, rfl⟩
    have htext : ItemView.textOf w = some s := (congrArg ItemView.text? halike.view).symm
    cases w with
    | text t =>
        cases htext
        rfl
    | _ => cases htext
  rwa [List.forall₂_eq_eq_eq] at hsame

/-- Items that show the same are packed as the same column. -/
theorem Packed.of_seenAlike {values others : List Value} {r : FieldData}
    (hseen : List.Forall₂ SeenAlike values others) (h : Packed field type values r) :
    Packed field type others r := by
  have hchecked {item : ItemKind} (hitems : ∀ v ∈ values, checkItem field type item v = .ok ()) :
      ∀ w ∈ others, checkItem field type item w = .ok () := by
    intro w hw
    obtain ⟨v, halike, hpass⟩ := exists_of_forall₂ hseen.flip hitems w hw
    exact checkItem_of_view halike.view hpass
  cases h with
  | @floats _ rows dim hrows hsome hpos hsize =>
      refine .floats (forall₂_transfer hseen hrows ?_) hsome hpos hsize
      intro v w row hmem halike hread
      have hrow : row ≠ [] := by
        intro hnil
        rw [← hsize row hmem, hnil] at hpos
        exact absurd hpos (Nat.lt_irrefl _)
      exact (halike.row row hrow).mp hread
  | packed hrows hsome hpos hsize =>
      refine .packed (forall₂_transfer hseen hrows ?_) hsome hpos hsize
      intro v w bs _ halike hread
      rw [binaryRow_eq_ok_iff_bytesOf] at hread ⊢
      rwa [← halike.view]
  | @numeric _ _ kind item cells hstorage hitems hcells hrange =>
      obtain ⟨found, hfound, hfoundRange⟩ := exists_cells hstorage (hchecked hitems)
      rw [cells_eq_of_seenAlike hstorage hseen hcells hfound]
      exact .numeric hstorage (hchecked hitems) hfound hfoundRange
  | strings hstorage hitems =>
      rw [eq_of_seenAlike_texts hseen fun v hv => exists_text_of_checkItem hstorage (hitems v hv)]
      exact .strings hstorage hitems

theorem packed_plain_iff {values : List Value} {r : FieldData}
    (husual : ∀ v ∈ values, v.IsUsual) :
    Packed field type (values.map plain) r ↔ Packed field type values r := by
  have hseen : List.Forall₂ SeenAlike (values.map plain) values := by
    rw [List.forall₂_map_left_iff]
    exact List.forall₂_same.mpr fun v hv => seenAlike_plain (husual v hv)
  constructor
  · exact Packed.of_seenAlike hseen
  · exact Packed.of_seenAlike (hseen.flip.imp fun _ _ halike => halike.symm)

/-! ## Columns -/

/-- A list, a tuple, a range or a tensor of the usual numbers is marshalled exactly if its items
can be listed and the list of them in plain form is marshalled, and then as the same column. -/
theorem marshal_plain_iff {column : Value} (hsequence : column.IsSequence)
    (husual : column.IsUsual) (field : Value) (type : DataType) (r : FieldData) :
    marshal field (.dataType type) column = .ok r ↔
      ∃ items, column.iterate = .ok items ∧
        marshal field (.dataType type) (.list (items.map plain)) = .ok r := by
  rw [marshal_eq_ok_iff hsequence]
  simp only [marshal_list_eq_ok_iff]
  apply exists_congr
  intro items
  apply and_congr_right
  intro hitems
  exact (packed_plain_iff (Value.isUsual_of_iterate hsequence husual hitems)).symm

/-! ### A tuple of rows in containers of their own -/

/-- Two half floats, the last byte of each first. -/
def halves : Tensor where
  type := .float .half
  order := .big
  shape := [2]
  cells := [(Binary.zero : Half), (.nan : Half)]
  length_cells := rfl

/-- A tensor and a tuple as rows. -/
def mixedRows : Value :=
  .tuple [.tensor halves, .tuple [.float .nan, .sized (.float .single) (Binary.zero : Single)]]

/-- The same rows as lists of plain floats. -/
def plainRows : List Value :=
  [.list [.float (Binary.zero : Half).convert, .float .nan],
    .list [.float .nan, .float (Binary.zero : Single).convert]]

/-- Either is marshalled as four single floats. -/
theorem marshal_mixedRows :
    marshal (.text "vector") (.dataType .floatVector) (.list plainRows) =
        .ok ⟨.text "vector", .floatVector,
          .vectors ⟨.int 2, .floats [Binary.zero, .nan, .nan, Binary.zero]⟩⟩ ∧
      marshal (.text "vector") (.dataType .floatVector) mixedRows =
        .ok ⟨.text "vector", .floatVector,
          .vectors ⟨.int 2, .floats [Binary.zero, .nan, .nan, Binary.zero]⟩⟩ := by
  have hfirst : Row.read rowName (.list [.float (Binary.zero : Half).convert, .float .nan]) =
      .ok [Binary.zero, .nan] :=
    Row.readComponents_eq_ok_iff.mpr ⟨by simp [Row.isReal], _, rfl, by decide +kernel⟩
  have hsecond : Row.read rowName (.list [.float .nan, .float (Binary.zero : Single).convert]) =
      .ok [.nan, Binary.zero] :=
    Row.readComponents_eq_ok_iff.mpr ⟨by simp [Row.isReal], _, rfl, by decide +kernel⟩
  have hlist : marshal (.text "vector") (.dataType .floatVector) (.list plainRows) =
      .ok ⟨.text "vector", .floatVector,
        .vectors ⟨.int 2, .floats [Binary.zero, .nan, .nan, Binary.zero]⟩⟩ :=
    marshal_list_eq_ok_iff.mpr (.floats (.cons hfirst (.cons hsecond .nil)) (by simp)
      (by decide : 0 < 2) (by simp))
  have husual : mixedRows.IsUsual :=
    ⟨.inl rfl, ⟨trivial, .inr (.inl rfl), trivial⟩, trivial⟩
  have hsequence : mixedRows.IsSequence := trivial
  have hitems : halves.items? =
      some [.sized (.float .half) (Binary.zero : Half), .sized (.float .half) (.nan : Half)] := rfl
  have htensor : plain (.tensor halves) =
      .list [.float (Binary.zero : Half).convert, .float .nan] := Value.plain_tensor hitems
  have hplain : [.tensor halves, .tuple [.float .nan,
      .sized (.float .single) (Binary.zero : Single)]].map plain = plainRows :=
    congrArg (· :: _) htensor
  refine ⟨hlist, (marshal_plain_iff hsequence husual _ _ _).mpr ⟨_, rfl, ?_⟩⟩
  rw [hplain]
  exact hlist

end Column

end VectorRequests
