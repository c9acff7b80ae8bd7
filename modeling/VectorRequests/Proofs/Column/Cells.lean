/-
# Items stored as cells

A cell given already sized is stored as it is, so a tensor is stored as its cells. A plain
item that a scalar type accepts is stored as the cell that stands for the same number, and
nothing is left for the check of float ranges to refuse.
-/

import VectorRequests.Column.Reader
import VectorRequests.Column.Marshal
import VectorRequests.Proofs.Number.Storage
import VectorRequests.Proofs.Outcome

namespace VectorRequests

/-- An integer between the least and the greatest of a format is worth its word. -/
theorem IntFormat.value_wrap {f : IntFormat} (hbytes : 0 < f.byteCount) {i : Int}
    (hleast : f.least ≤ i) (hgreatest : i ≤ f.greatest) : f.value (f.wrap i) = i := by
  have hbits : 0 < f.bits := by
    rw [bits]
    omega
  have hdouble : (2 ^ f.bits : Int) = 2 * 2 ^ (f.bits - 1) := by
    rw [← pow_succ', Nat.sub_add_cancel hbits]
  unfold value wrap
  unfold least at hleast
  unfold greatest at hgreatest
  by_cases hsigned : f.signed
  · rw [if_pos hsigned] at hleast hgreatest ⊢
    rw [BitVec.toInt_ofInt]
    apply Int.bmod_eq_of_le
    · push_cast
      omega
    · push_cast
      omega
  · rw [if_neg hsigned] at hleast hgreatest ⊢
    rw [BitVec.toNat_ofInt]
    push_cast
    rw [Int.emod_eq_of_lt hleast (by omega)]
    omega

namespace Cells

/-- A sized cell is stored as it is. -/
@[simp]
theorem toCell_sized (t : ElementType) (c : t.Cell) : toCell t (.sized t c) = .ok c := by
  cases t with
  | bool => rfl
  | int f => exact congrArg Except.ok (f.wrap_value c)
  | float f => exact congrArg Except.ok (Binary.convert_self (f := f) c)

/-- The range check has nothing against a float that is infinite only where its item is. -/
theorem overflows_eq_false {f g : FloatFormat} {x : Binary g}
    (h : (x.convert : Binary f).isInfinite = true → x.isInfinite = true) :
    overflows f (.sized (.float g) x) x.convert = false := by
  unfold overflows
  cases hinf : (x.convert : Binary f).isInfinite with
  | false => rfl
  | true =>
      have hdouble : (x.convert : Double).isInfinite = true := Binary.isInfinite_convert (h hinf)
      exact Binary.isFinite_eq_false_of_isInfinite hdouble

/-- The range check of floats passes exactly if no float overflows its item. -/
theorem checkRange_eq_ok_iff {f : FloatFormat} {vs : List Value} {xs : List (Binary f)}
    (hlength : vs.length = xs.length) :
    checkRange (.float f) vs xs = .ok () ↔
      List.Forall₂ (fun v x => overflows f v x = false) vs xs := by
  have hany : ((vs.zip xs).any fun (v, x) => overflows f v x) = false ↔
      List.Forall₂ (fun v x => overflows f v x = false) vs xs := by
    simp only [List.any_eq_false, Prod.forall, Bool.not_eq_true, List.forall₂_iff_zip, hlength,
      true_and]
  rw [← hany]
  show (if ((vs.zip xs).any fun (v, x) => overflows f v x) = true then _ else _) = _ ↔ _
  cases (vs.zip xs).any fun (v, x) => overflows f v x with
  | false => simp
  | true => simp [Error.refuse]

theorem checkRange_eq_ok {f : FloatFormat} {vs : List Value} {xs : List (Binary f)}
    (h : List.Forall₂ (fun v x => overflows f v x = false) vs xs) :
    checkRange (.float f) vs xs = .ok () :=
  (checkRange_eq_ok_iff h.length_eq).mpr h

theorem refuses_checkRange (t : ElementType) (vs : List Value) (cells : List t.Cell) :
    (checkRange t vs cells).Refuses := by
  cases t with
  | bool => exact Outcome.refuses_ok ()
  | int f => exact Outcome.refuses_ok ()
  | float f =>
      rw [checkRange]
      split
      · exact Outcome.refuses_refuse _
      · exact Outcome.refuses_ok ()

theorem forall₂_sized {t : ElementType} {R : Value → t.Cell → Prop} {cells : List t.Cell}
    (h : ∀ c, R (.sized t c) c) : List.Forall₂ R (cells.map (.sized t)) cells := by
  rw [List.forall₂_map_left_iff]
  exact List.forall₂_same.mpr fun c _ => h c

/-- A tensor of one dimension is stored as its cells. -/
theorem store_flat (t : ElementType) (cells : List t.Cell) :
    store t (.tensor (Tensor.flat t cells)) = .ok cells := by
  have hcells : (Grid.items (.tensor (Tensor.flat t cells))).mapM (toCell t) = .ok cells :=
    Outcome.mapM_eq_ok_iff.mpr (forall₂_sized (toCell_sized t))
  have hrange : checkRange t (Grid.items (.tensor (Tensor.flat t cells))) cells = .ok () := by
    cases t with
    | bool => rfl
    | int f => rfl
    | float f =>
        have hnone (x : Binary f) : overflows f (.sized (.float f) x) x = false := by
          have hover := overflows_eq_false (f := f) (x := x) fun hinf => by
            rwa [Binary.convert_self] at hinf
          rwa [Binary.convert_self] at hover
        exact checkRange_eq_ok (f := f) (forall₂_sized (t := .float f) hnone)
  have hgrid : isGrid (.tensor (Tensor.flat t cells)) = true := rfl
  unfold store
  simp only [hgrid, not_true, if_false, hcells, hrange, Outcome.ok_bind,
    Outcome.pure_eq_ok]

/-- A value that is a single item of a grid. -/
structure IsItem (v : Value) : Prop where
  shape : Grid.shape? v = some []
  items : Grid.items v = [v]

theorem isItem_of_accepts {kind : ItemKind} {v : Value} (h : kind.accepts v = true) :
    IsItem v := by
  cases v with
  | null | bool | int | float | text | bytes | set | mapping | sized | dataType | placeholderType
    | msgType | dslType | scalarKind | metric | vector | column | record | object =>
      exact ⟨rfl, rfl⟩
  | buffer | list | tuple | range | tensor => cases kind <;> simp [ItemKind.accepts,
      ItemKind.int?, ItemKind.double?, Value.toInt?] at h

theorem shapes_eq_of_isItem {vs : List Value} (h : ∀ v ∈ vs, IsItem v) :
    Grid.shapes vs = List.replicate vs.length (some []) := by
  induction vs with
  | nil => rfl
  | cons v vs ih =>
      obtain ⟨hv, hvs⟩ := List.forall_mem_cons.mp h
      rw [Grid.shapes, hv.shape, ih hvs]
      rfl

theorem itemsOfAll_of_isItem {vs : List Value} (h : ∀ v ∈ vs, IsItem v) :
    Grid.itemsOfAll vs = vs := by
  induction vs with
  | nil => rfl
  | cons v vs ih =>
      obtain ⟨hv, hvs⟩ := List.forall_mem_cons.mp h
      rw [Grid.itemsOfAll, hv.items, ih hvs]
      rfl

theorem isGrid_list_of_isItem {vs : List Value} (h : ∀ v ∈ vs, IsItem v) :
    isGrid (.list vs) = true := by
  have hshape : Grid.shape? (.list vs) = some [vs.length] := by
    rw [Grid.shape?, shapes_eq_of_isItem h]
    cases vs with
    | nil => rfl
    | cons v vs => simp [List.replicate_succ, Grid.jointShape]
  rw [isGrid, hshape]
  rfl

/-- A list of items is stored item by item, and then checked. -/
theorem store_list_eq {t : ElementType} {vs : List Value} (hitems : ∀ v ∈ vs, IsItem v) :
    store t (.list vs) = do
      let cells ← vs.mapM (toCell t)
      checkRange t vs cells
      return cells := by
  have hall : Grid.items (.list vs) = vs := itemsOfAll_of_isItem hitems
  unfold store
  simp only [isGrid_list_of_isItem hitems, hall, not_true, if_false]

/-- A list of items is stored if each item is, and the check passes. -/
theorem store_list {t : ElementType} {vs : List Value} {cells : List t.Cell}
    (hitems : ∀ v ∈ vs, IsItem v)
    (hcells : List.Forall₂ (fun v c => toCell t v = .ok c) vs cells)
    (hrange : checkRange t vs cells = .ok ()) : store t (.list vs) = .ok cells := by
  have hwalk : vs.mapM (toCell t) = .ok cells := Outcome.mapM_eq_ok_iff.mpr hcells
  rw [store_list_eq hitems, hwalk, Outcome.ok_bind, hrange]
  rfl

/-- Whatever counts as an integer is stored as that integer. -/
theorem toWord_of_toInt? {f : IntFormat} {v : Value} {i : Int} (h : v.toInt? = some i) :
    toWord f v = storeInt f i := by
  cases v with
  | bool | int | dataType | placeholderType | msgType | dslType => cases h; rfl
  | null | float | text | bytes | buffer | list | tuple | set | range | mapping | sized | tensor
    | scalarKind | metric | vector | column | record | object => cases h

/-- An integer item in the range of a format is stored as its word. -/
theorem toWord_of_int? {f : IntFormat} {v : Value} {i : Int} (hv : ItemKind.int? v = some i)
    (hfits : f.value (f.wrap i) = i) : toWord f v = .ok (f.wrap i) := by
  have hstore : storeInt f i = .ok (f.wrap i) := by
    rw [storeInt, IntFormat.ofInt?, if_pos hfits]
  have hplain (h : v.toInt? = some i) : toWord f v = .ok (f.wrap i) :=
    (toWord_of_toInt? h).trans hstore
  cases v with
  | int | dataType | placeholderType | msgType | dslType => exact hplain hv
  | sized type c =>
      cases type with
      | int g => cases hv; rfl
      | bool | float => cases hv
  | null | bool | float | text | bytes | buffer | list | tuple | set | range | mapping | tensor
    | scalarKind | metric | vector | column | record | object => cases hv

end Cells

end VectorRequests
