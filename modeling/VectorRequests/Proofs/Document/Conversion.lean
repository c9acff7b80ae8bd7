/-
# Documents that are converted, and those that are not

What is malformed in a document of a record is reported as an unreadable response. Two things
are not. A tensor of double floats that is stored as single floats may hold a finite one beyond
their range: that is found out only where the record is made, and refused as a wrong parameter.
And an array of an element type that tensors do not have, such as texts, fails as the array
library does where its items are no numbers. The numbers of all other types, and all other forms
of a payload, can be stored in whatever kind the document declares.
-/

import VectorRequests.Document.Text
import VectorRequests.Proofs.Column.Item
import VectorRequests.Proofs.Document.Tensor
import VectorRequests.Proofs.Number.Usual

namespace VectorRequests

open Outcome (FailsOnly)

/-! ## Tensors of documents -/

theorem ElementType.isUsual_of_mem_standard : ∀ type ∈ standard, type.IsUsual := by
  decide

theorem TensorDocument.of_toTensor {d : TensorDocument} {t : Tensor} (h : d.toTensor = .ok t) :
    t.type.IsUsual ∧ t.shape.length ≤ Tensor.maxDimensions := by
  obtain ⟨harray, -⟩ := isArray_of_toTensor h
  exact ⟨ElementType.isUsual_of_mem_standard _ harray.standard, harray.dimensions⟩

/-! ## Tensors as cells -/

/-- A tensor holds a finite double float beyond the range of single floats. -/
def Tensor.ExceedsSingle (t : Tensor) : Prop :=
  ∃ x : Double, Value.sized (.float .double) x ∈ t.sizedCells ∧ x.narrow? = none

namespace Cells

/-- A sized cell is stored as stored numbers are converted. -/
theorem toCell_cast (t : ElementType) {s : ElementType} (c : s.Cell) :
    toCell t (.sized s c) = .ok (s.cast t c) := by
  cases t with
  | bool | int | float => rfl

/-- A tensor is stored cell by cell, and only the range of floats is left to be checked. -/
theorem store_tensor (t : ElementType) {u : Tensor}
    (h : u.shape.length ≤ Tensor.maxDimensions) :
    store t (.tensor u) = do
      checkRange t u.sizedCells (u.cells.map (u.type.cast t))
      return u.cells.map (u.type.cast t) := by
  have hgrid : isGrid (.tensor u) = true := decide_eq_true h
  have hwalk : (Grid.items (.tensor u)).mapM (toCell t) = .ok (u.cells.map (u.type.cast t)) := by
    rw [Outcome.mapM_eq_ok_iff]
    show List.Forall₂ _ (u.cells.map (Value.sized u.type)) _
    rw [List.forall₂_map_left_iff, List.forall₂_map_right_iff]
    exact List.forall₂_same.mpr fun c _ => toCell_cast t c
  unfold store
  simp only [hgrid, hwalk, not_true, if_false, Outcome.ok_bind]
  rfl

theorem overflows_nearestInt {i : Int} (h : i.natAbs ≤ 2 ^ 64) (v : Value) :
    overflows .single v (Binary.nearestInt i) = false := by
  rw [overflows, Binary.isInfinite_nearestInt_single h, Bool.false_and]

theorem overflows_single_half (x : Half) :
    overflows .single (.sized (.float .half) x) x.convert = false :=
  overflows_eq_false Binary.isInfinite_of_isInfinite_convert_half

theorem overflows_single_self (x : Single) :
    overflows .single (.sized (.float .single) x) x.convert = false := by
  apply overflows_eq_false
  intro hinf
  rwa [Binary.convert_self] at hinf

theorem overflows_single_double (x : Double) :
    overflows .single (.sized (.float .double) x) x.convert = true ↔ x.narrow? = none :=
  Column.overflows_single (congrArg Except.ok (Binary.convert_self x))

/-- Of the usual numbers only a double float can be finite without a finite single float. -/
theorem overflows_single_iff {s : ElementType} (h : s.IsUsual) (c : s.Cell) :
    overflows .single (.sized s c) (s.toFloat .single c) = true ↔
      ∃ x : Double, Value.sized s c = .sized (.float .double) x ∧ x.narrow? = none := by
  cases s with
  | bool =>
      have hbit (b : Bool) : (Bool.toInt b).natAbs ≤ 2 ^ 64 := by cases b <;> decide
      have hbool := overflows_nearestInt (hbit c) (.sized .bool c)
      exact iff_of_false (Bool.not_eq_true _ ▸ hbool) nofun
  | int f =>
      have hword := overflows_nearestInt (ElementType.natAbs_value_le h c) (.sized (.int f) c)
      exact iff_of_false (Bool.not_eq_true _ ▸ hword) nofun
  | float f =>
      obtain rfl | rfl | rfl := h
      · refine iff_of_false (Bool.not_eq_true _ ▸ overflows_single_half c) ?_
        rintro ⟨x, hx, -⟩
        exact absurd (Value.sized.inj hx).1 (by decide)
      · refine iff_of_false (Bool.not_eq_true _ ▸ overflows_single_self c) ?_
        rintro ⟨x, hx, -⟩
        exact absurd (Value.sized.inj hx).1 (by decide)
      · refine (overflows_single_double c).trans ?_
        constructor
        · intro hnarrow
          exact ⟨c, rfl, hnarrow⟩
        · rintro ⟨x, hx, hnarrow⟩
          cases hx
          exact hnarrow

theorem checkRange_sized (f : FloatFormat) (u : Tensor) :
    checkRange (.float f) u.sizedCells (u.cells.map (u.type.cast (.float f))) =
      if ∃ c ∈ u.cells, overflows f (.sized u.type c) (u.type.toFloat f c) = true then
        Error.refuse (.numbersOutOfRange (ElementType.float f).name)
      else .ok () := by
  rw [checkRange]
  refine if_congr ?_ rfl rfl
  rw [Tensor.sizedCells, List.zip_map', List.any_map, List.any_eq_true]
  rfl

/-- A tensor is stored as single floats unless it exceeds their range, which is refused. -/
theorem store_tensor_single {u : Tensor} (htype : u.type.IsUsual)
    (hshape : u.shape.length ≤ Tensor.maxDimensions) :
    (u.ExceedsSingle → store (.float .single) (.tensor u) =
        Error.refuse (.numbersOutOfRange (ElementType.float .single).name)) ∧
      (¬ u.ExceedsSingle → ∃ cells, store (.float .single) (.tensor u) = .ok cells) := by
  have hexceeds : u.ExceedsSingle ↔
      ∃ c ∈ u.cells, overflows .single (.sized u.type c) (u.type.toFloat .single c) = true := by
    simp only [overflows_single_iff htype]
    constructor
    · rintro ⟨x, hmem, hnarrow⟩
      obtain ⟨c, hc, hx⟩ := List.mem_map.mp hmem
      exact ⟨c, hc, x, hx, hnarrow⟩
    · rintro ⟨c, hc, x, hx, hnarrow⟩
      exact ⟨x, List.mem_map.mpr ⟨c, hc, hx⟩, hnarrow⟩
  rw [store_tensor _ hshape, checkRange_sized, hexceeds]
  constructor
  · intro hover
    rw [if_pos hover]
    rfl
  · intro hnone
    rw [if_neg hnone]
    exact ⟨_, rfl⟩

/-- A tensor is stored as any other kind of numbers. -/
theorem store_tensor_of_ne_single {kind : NumericKind} (hkind : kind ≠ .float) {u : Tensor}
    (hshape : u.shape.length ≤ Tensor.maxDimensions) :
    ∃ cells, store kind.elementType (.tensor u) = .ok cells := by
  rw [store_tensor _ hshape]
  cases kind with
  | float => exact absurd rfl hkind
  | long | int | bool => exact ⟨_, rfl⟩
  | double =>
      have hnone : ¬ ∃ c ∈ u.cells,
          overflows .double (.sized u.type c) (u.type.toFloat .double c) = true := by
        rintro ⟨c, -, hover⟩
        have hcell : toFloat .double (.sized u.type c) = .ok (u.type.toFloat .double c) := rfl
        rw [Column.overflows_double hcell] at hover
        cases hover
      show ∃ cells, (do
        checkRange (.float .double) u.sizedCells (u.cells.map (u.type.cast (.float .double)))
        return u.cells.map (u.type.cast (.float .double)) : Outcome _) = .ok cells
      rw [checkRange_sized, if_neg hnone]
      exact ⟨_, rfl⟩

end Cells

/-! ## Reports of malformed documents -/

/-- The errors that report a malformed response. -/
inductive Error.IsUnreadable : Error → Prop
  | intro (fault : ResponseFault) (field : Value) : IsUnreadable (.unreadable fault field)

theorem Error.not_isUnreadable_failed (cause : Fault) : ¬ (Error.failed cause).IsUnreadable := by
  intro h
  cases h

/-- The refusal of a finite number that has no single float. -/
def Error.beyondSingle : Error :=
  .refused (.numbersOutOfRange (ElementType.float .single).name) .null

/-- A conversion reports whatever is malformed: what it fails with otherwise are exactly its
leaks. -/
def Reports {α : Type} (leaks : Error → Prop) (x : Outcome α) : Prop :=
  ∀ e, (x = .error e ∧ ¬ e.IsUnreadable) ↔ leaks e

namespace Reports

variable {α β : Type} {leaks : Error → Prop}

/-- A conversion that only reports has no leaks. -/
theorem of_failsOnly {x : Outcome α} (h : FailsOnly Error.IsUnreadable x)
    (hnever : ∀ e, ¬ leaks e) : Reports leaks x :=
  fun e => iff_of_false (fun he => he.2 (h e he.1)) (hnever e)

/-- A conversion that is known to fail has one leak. -/
theorem of_error {x : Outcome α} {e : Error} (h : x = .error e) (hother : ¬ e.IsUnreadable)
    (hleaks : ∀ e', leaks e' ↔ e' = e) : Reports leaks x := by
  intro e'
  rw [h, hleaks, Except.error.injEq, eq_comm]
  exact and_iff_left_of_imp fun he => he ▸ hother

/-- Other leaks are leaks of a conversion if they are the same. -/
theorem congr {leaks' : Error → Prop} {x : Outcome α} (h : Reports leaks x)
    (hsame : ∀ e, leaks' e ↔ leaks e) : Reports leaks' x :=
  fun e => (h e).trans (hsame e).symm

/-- What is left to do reports what is malformed as well. -/
theorem bind {x : Outcome α} {f : α → Outcome β} (hx : Reports leaks x)
    (hf : ∀ a, FailsOnly Error.IsUnreadable (f a)) : Reports leaks (x >>= f) := by
  intro e
  rw [← hx e, Outcome.bind_eq_error]
  constructor
  · rintro ⟨hfirst | ⟨a, -, hrest⟩, hother⟩
    · exact ⟨hfirst, hother⟩
    · exact absurd (hf a e hrest) hother
  · rintro ⟨hfirst, hother⟩
    exact ⟨.inl hfirst, hother⟩

/-- A walk leaks where an item does after others that are converted. -/
theorem mapM {f : α → Outcome β} {leaks : α → Error → Prop} (h : ∀ x, Reports (leaks x) (f x))
    (xs : List α) :
    Reports (fun e => ∃ before x after, xs = before ++ x :: after ∧
      (∀ y ∈ before, ∃ z, f y = .ok z) ∧ leaks x e) (xs.mapM f) := by
  intro e
  rw [Outcome.mapM_eq_error_iff]
  constructor
  · rintro ⟨⟨before, x, after, hsplit, hbefore, hx⟩, hother⟩
    exact ⟨before, x, after, hsplit, hbefore, (h x e).mp ⟨hx, hother⟩⟩
  · rintro ⟨before, x, after, hsplit, hbefore, hleaks⟩
    obtain ⟨hx, hother⟩ := (h x e).mpr hleaks
    exact ⟨⟨before, x, after, hsplit, hbefore, hx⟩, hother⟩

end Reports

namespace Document

theorem unreadable_member {α : Type} (vocabulary : Vocabulary) (ofName? : String → Option α)
    (name : String) : FailsOnly Error.IsUnreadable (member vocabulary ofName? name) := by
  unfold member
  split
  · exact Outcome.failsOnly_ok _
  · exact Outcome.failsOnly_error (.intro _ _)

theorem unreadable_bytesOf (column : Value) (s : String) :
    FailsOnly Error.IsUnreadable (bytesOf column s) := by
  unfold bytesOf
  split
  · exact Outcome.failsOnly_ok _
  · exact Outcome.failsOnly_error (.intro _ _)

end Document

/-- Text that is no base64 is reported. -/
theorem Base64.isReported_of_decode {strict : Bool} {text : String} {cause : Fault}
    (h : decode strict text = .error cause) : Document.isReported cause = true := by
  unfold decode at h
  split at h
  · split at h
    · cases h
    · cases h
      rfl
  · cases h
    rfl

/-- Bytes that make no tensor are reported. -/
theorem TensorDocument.isReported_of_toTensor {d : TensorDocument} {cause : Fault}
    (h : d.toTensor = .error cause) : Document.isReported cause = true := by
  unfold toTensor at h
  cases hbytes : Base64.decode false d.b64 with
  | error fault =>
      rw [hbytes] at h
      cases h
      exact Base64.isReported_of_decode hbytes
  | ok bs =>
      rw [hbytes] at h
      dsimp only [bind, Except.bind] at h
      split at h
      · cases h
        unfold unknownType
        split <;> rfl
      · split at h <;> cases h
        rfl

/-! ## Leaks -/

/-- The document of a tensor that holds a finite double float beyond the range of single
floats. -/
def TensorDocument.Exceeds (d : TensorDocument) : Prop :=
  ∃ t, d.toTensor = .ok t ∧ t.ExceedsSingle

/-- Scalars that are to be single floats exceed their range. -/
def ScalarsDocument.Exceeds (d : ScalarsDocument) : Prop :=
  ScalarKind.ofName? d.kind = some (.numeric .float) ∧ ∃ n, d.numeric = some n ∧ n.Exceeds

/-- The components of vectors exceed the range of single floats. -/
def VectorsDocument.Exceeds (d : VectorsDocument) : Prop :=
  ∃ n, d.floatVector = some n ∧ n.Exceeds

/-- The payload that counts exceeds the range of single floats that it is to be stored as. -/
def ColumnDocument.Exceeds (d : ColumnDocument) : Prop :=
  (∃ s, d.scalars = some s ∧ s.Exceeds) ∨
    (d.scalars = none ∧ ∃ v, d.vectors = some v ∧ v.Exceeds)

section

variable [OtherArrays]

namespace OtherArrays

/-- How storing an array fails: the library does not give its items as cells, or not as the double
floats that they are compared with, or a cell is infinite where the item is finite. -/
inductive Unstored (a : OtherArrays.Array) : ElementType → Error → Prop
  | cells {t : ElementType} {fault : Fault} (h : OtherArrays.cells t a = .error fault) :
      Unstored a t (.failed fault)
  | doubles {f : FloatFormat} {xs : List (ElementType.float f).Cell} {fault : Fault}
      (hxs : OtherArrays.cells (.float f) a = .ok xs)
      (h : OtherArrays.cells (.float .double) a = .error fault) :
      Unstored a (.float f) (.failed fault)
  | exceeds {f : FloatFormat} {xs : List (ElementType.float f).Cell}
      {ys : List (ElementType.float .double).Cell} {x : (ElementType.float f).Cell}
      {y : (ElementType.float .double).Cell} (hxs : OtherArrays.cells (.float f) a = .ok xs)
      (hys : OtherArrays.cells (.float .double) a = .ok ys) (hmem : (x, y) ∈ xs.zip ys)
      (hinfinite : Binary.isInfinite (f := f) x = true)
      (hfinite : Binary.isFinite (f := .double) y = true) :
      Unstored a (.float f) (.refused (.numbersOutOfRange (ElementType.float f).name) .null)

variable {t : ElementType} {a : OtherArrays.Array} {e : Error}

theorem cellsOf_eq_error_iff :
    cellsOf t a = .error e ↔ ∃ fault, OtherArrays.cells t a = .error fault ∧ e = .failed fault := by
  unfold cellsOf
  cases OtherArrays.cells t a with
  | ok xs => simp
  | error fault => simp [Error.fail, eq_comm]

theorem cellsOf_eq_ok_iff {xs : List t.Cell} :
    cellsOf t a = .ok xs ↔ OtherArrays.cells t a = .ok xs := by
  unfold cellsOf
  cases OtherArrays.cells t a with
  | ok ys => simp
  | error fault => simp [Error.fail]

/-- Floats are stored unless one is infinite where the item is finite. -/
theorem store_float_eq_error_iff {f : FloatFormat} :
    store (.float f) a = .error e ↔ Unstored a (.float f) e := by
  rw [store]
  constructor
  · intro h
    obtain hcells | ⟨xs, hxs, h⟩ := Outcome.bind_eq_error.mp h
    · obtain ⟨fault, hfault, rfl⟩ := cellsOf_eq_error_iff.mp hcells
      exact .cells hfault
    · obtain hcells | ⟨ys, hys, h⟩ := Outcome.bind_eq_error.mp h
      · obtain ⟨fault, hfault, rfl⟩ := cellsOf_eq_error_iff.mp hcells
        exact .doubles (cellsOf_eq_ok_iff.mp hxs) hfault
      · split at h
        next hany =>
          cases h
          obtain ⟨⟨x, y⟩, hmem, hxy⟩ := List.any_eq_true.mp hany
          obtain ⟨hinfinite, hfinite⟩ := Bool.and_eq_true_iff.mp hxy
          exact .exceeds (cellsOf_eq_ok_iff.mp hxs) (cellsOf_eq_ok_iff.mp hys) hmem hinfinite
            hfinite
        next => cases h
  · intro h
    cases h with
    | cells hfault =>
        rw [cellsOf_eq_error_iff.mpr ⟨_, hfault, rfl⟩]
        rfl
    | doubles hxs hfault =>
        rw [cellsOf_eq_ok_iff.mpr hxs, Outcome.ok_bind,
          cellsOf_eq_error_iff.mpr ⟨_, hfault, rfl⟩]
        rfl
    | exceeds hxs hys hmem hinfinite hfinite =>
        rw [cellsOf_eq_ok_iff.mpr hxs, Outcome.ok_bind, cellsOf_eq_ok_iff.mpr hys,
          Outcome.ok_bind]
        exact if_pos (List.any_eq_true.mpr
          ⟨_, hmem, Bool.and_eq_true_iff.mpr ⟨hinfinite, hfinite⟩⟩)

theorem store_eq_error_iff : store t a = .error e ↔ Unstored a t e := by
  cases t with
  | float f => exact store_float_eq_error_iff
  | bool | int =>
      rw [store]
      · constructor
        · intro h
          obtain ⟨fault, hfault, rfl⟩ := cellsOf_eq_error_iff.mp h
          exact .cells hfault
        · intro h
          cases h with
          | cells hfault => exact cellsOf_eq_error_iff.mpr ⟨_, hfault, rfl⟩
      · nofun

/-- What the array library fails with is no report, and neither is a refusal. -/
theorem Unstored.not_isUnreadable (h : Unstored a t e) : ¬ e.IsUnreadable := by
  cases h with
  | cells | doubles => exact Error.not_isUnreadable_failed _
  | exceeds =>
      intro hreport
      cases hreport

end OtherArrays

/-- What is not reported of a documented array that is to be stored as numbers of a kind: that it
exceeds the range of single floats, or what the array library fails with where it reads an array
of another element type or stores one. -/
inductive TensorDocument.Leaks (kind : NumericKind) (d : TensorDocument) : Error → Prop
  | exceeds (hkind : kind = .float) (hexceeds : d.Exceeds) : Leaks kind d .beyondSingle
  | unread {fault : Fault} (hread : d.ReadsOther (.error fault))
      (hfault : Document.isReported fault = false) : Leaks kind d (.failed fault)
  | unstored {a : OtherArrays.Array} {e : Error} (hread : d.ReadsOther (.ok a))
      (hstore : OtherArrays.Unstored a kind.elementType e) : Leaks kind d e

/-- What is not reported of scalars. -/
def ScalarsDocument.Leaks (d : ScalarsDocument) (e : Error) : Prop :=
  ∃ kind n, ScalarKind.ofName? d.kind = some (.numeric kind) ∧ d.numeric = some n ∧ n.Leaks kind e

/-- What is not reported of vectors. -/
def VectorsDocument.Leaks (d : VectorsDocument) (e : Error) : Prop :=
  ∃ n, d.floatVector = some n ∧ n.Leaks .float e

/-- What is not reported of a column: of the payload that counts. -/
def ColumnDocument.Leaks (d : ColumnDocument) (e : Error) : Prop :=
  (∃ s, d.scalars = some s ∧ s.Leaks e) ∨
    (d.scalars = none ∧ ∃ v, d.vectors = some v ∧ v.Leaks e)

/-- What exceeds the range of single floats leaks as its refusal. -/
theorem ColumnDocument.Exceeds.leaks {d : ColumnDocument} (h : d.Exceeds) :
    d.Leaks .beyondSingle := by
  obtain ⟨s, hs, hkind, n, hn, hexceeds⟩ | ⟨hnone, v, hv, n, hn, hexceeds⟩ := h
  · exact .inl ⟨s, hs, .float, n, hkind, hn, .exceeds rfl hexceeds⟩
  · exact .inr ⟨hnone, v, hv, n, hn, .exceeds rfl hexceeds⟩

namespace ColumnDocument

open Document

variable {kind : NumericKind} {d : TensorDocument}

/-- A tensor leaks only that it exceeds the range of single floats. -/
theorem leaks_iff_of_toTensor {t : Tensor} (h : d.toTensor = .ok t) {e : Error} :
    d.Leaks kind e ↔ (kind = .float ∧ t.ExceedsSingle) ∧ e = .beyondSingle := by
  constructor
  · rintro (⟨hkind, u, hu, hexceeds⟩ | ⟨hread, -⟩ | ⟨hread, -⟩)
    · cases h.symm.trans hu
      exact ⟨⟨hkind, hexceeds⟩, rfl⟩
    · exact absurd hread (TensorDocument.not_readsOther_of_toTensor h _)
    · exact absurd hread (TensorDocument.not_readsOther_of_toTensor h _)
  · rintro ⟨⟨hkind, hexceeds⟩, rfl⟩
    exact .exceeds hkind ⟨t, h, hexceeds⟩

theorem reports_store_tensor {t : Tensor} (h : d.toTensor = .ok t) :
    Reports (d.Leaks kind) (Cells.store kind.elementType (.tensor t)) := by
  obtain ⟨htype, hshape⟩ := TensorDocument.of_toTensor h
  obtain ⟨hrefused, hstored⟩ := Cells.store_tensor_single htype hshape
  by_cases hexceeds : kind = .float ∧ t.ExceedsSingle
  · obtain ⟨rfl, hholds⟩ := hexceeds
    refine .of_error (hrefused hholds) nofun fun e => ?_
    rw [leaks_iff_of_toTensor h]
    exact and_iff_right ⟨rfl, hholds⟩
  · have hcells : ∃ cells, Cells.store kind.elementType (.tensor t) = .ok cells := by
      by_cases hkind : kind = .float
      · subst hkind
        exact hstored fun hholds => hexceeds ⟨rfl, hholds⟩
      · exact Cells.store_tensor_of_ne_single hkind hshape
    obtain ⟨cells, hcells⟩ := hcells
    refine .of_failsOnly ?_ fun e he => hexceeds ((leaks_iff_of_toTensor h).mp he).1
    rw [hcells]
    exact Outcome.failsOnly_ok cells

/-- An array of another element type leaks whatever storing it fails with. -/
theorem reports_store_other {a : OtherArrays.Array} (h : d.ReadsOther (.ok a)) :
    Reports (d.Leaks kind) (OtherArrays.store kind.elementType a) := by
  intro e
  constructor
  · rintro ⟨hstore, -⟩
    exact .unstored h (OtherArrays.store_eq_error_iff.mp hstore)
  · rintro (⟨-, t, ht, -⟩ | ⟨hread, -⟩ | ⟨hread, hstore⟩)
    · exact absurd h (TensorDocument.not_readsOther_of_toTensor ht _)
    · cases (TensorDocument.toArray_of_readsOther h).symm.trans
        (TensorDocument.toArray_of_readsOther hread)
    · cases (TensorDocument.toArray_of_readsOther h).symm.trans
        (TensorDocument.toArray_of_readsOther hread)
      exact ⟨OtherArrays.store_eq_error_iff.mpr hstore, hstore.not_isUnreadable⟩

/-- An array that is not read leaks what the library has failed with, if that is not reported. -/
theorem leaks_iff_of_toArray_eq_error {cause : Fault} (h : d.toArray = .error cause) {e : Error} :
    d.Leaks kind e ↔ isReported cause = false ∧ e = .failed cause := by
  constructor
  · rintro (⟨-, t, ht, -⟩ | ⟨hread, hfault⟩ | ⟨hread, -⟩)
    · cases h.symm.trans (TensorDocument.toArray_of_toTensor ht)
    · cases h.symm.trans (TensorDocument.toArray_of_readsOther hread)
      exact ⟨hfault, rfl⟩
    · cases h.symm.trans (TensorDocument.toArray_of_readsOther hread)
  · rintro ⟨hcause, rfl⟩
    obtain hread | hnone := TensorDocument.toArray_eq_error_cases h
    · exact .unread hread hcause
    · cases hcause.symm.trans (TensorDocument.isReported_of_toTensor hnone)

/-- A documented array is stored as cells of a kind, and only its leaks are not reported. -/
theorem reports_store (column : Value) (kind : NumericKind) (d : TensorDocument) :
    Reports (d.Leaks kind) (do storeArray kind.elementType (← arrayOf column d)) := by
  cases harray : d.toArray with
  | error cause =>
      have hleaks (e : Error) : d.Leaks kind e ↔ isReported cause = false ∧ e = .failed cause :=
        leaks_iff_of_toArray_eq_error harray
      cases hcause : isReported cause with
      | true =>
          have hread : arrayOf column d = .error (.unreadable (.malformedArray cause) column) := by
            rw [arrayOf, harray]
            exact if_pos hcause
          rw [hread]
          refine .of_failsOnly (Outcome.failsOnly_error (.intro _ _)) fun e he => ?_
          cases hcause.symm.trans ((hleaks e).mp he).1
      | false =>
          have hread : arrayOf column d = .error (.failed cause) := by
            rw [arrayOf, harray]
            exact if_neg (Bool.eq_false_iff.mp hcause)
          rw [hread]
          refine .of_error rfl (Error.not_isUnreadable_failed cause) fun e => ?_
          rw [hleaks]
          exact and_iff_right hcause
  | ok a =>
      rw [TensorDocument.arrayOf_eq_ok_iff.mpr harray]
      obtain ⟨t, ht, rfl⟩ | ⟨b, hother, rfl⟩ := TensorDocument.toArray_eq_ok_cases harray
      · exact reports_store_tensor ht
      · exact reports_store_other hother

theorem reports_readScalars (column : Value) (d : ScalarsDocument) :
    Reports d.Leaks (readScalars column d) := by
  unfold readScalars member
  cases hkind : ScalarKind.ofName? d.kind with
  | none =>
      refine .of_failsOnly (Outcome.failsOnly_error (.intro _ _)) ?_
      rintro e ⟨_, _, hsome, -⟩
      cases hkind.symm.trans hsome
  | some kind =>
      cases kind with
      | string =>
          refine .of_failsOnly (Outcome.failsOnly_ok _) ?_
          rintro e ⟨_, _, hnumeric, -⟩
          cases hkind.symm.trans hnumeric
      | numeric kind =>
          cases hnumeric : d.numeric with
          | none =>
              refine .of_failsOnly (Outcome.failsOnly_error (.intro _ _)) ?_
              rintro e ⟨_, _, -, hsome, -⟩
              cases hnumeric.symm.trans hsome
          | some numbers =>
              have hstore := (reports_store column kind numbers).bind
                fun cells => Outcome.failsOnly_ok (ScalarField.numeric kind cells)
              rw [bind_assoc] at hstore
              exact hstore.congr fun e => by simp [ScalarsDocument.Leaks, hkind, hnumeric]

theorem reports_readVectors (column : Value) (d : VectorsDocument) :
    Reports d.Leaks (readVectors column d) := by
  unfold readVectors
  cases hfloats : d.floatVector with
  | some components =>
      have hstore := (reports_store column .float components).bind
        fun cells => Outcome.failsOnly_ok (⟨.int d.dim, .floats cells⟩ : VectorField)
      rw [bind_assoc] at hstore
      exact hstore.congr fun e => by simp [VectorsDocument.Leaks, hfloats]
  | none =>
      have hnever (e : Error) : ¬ d.Leaks e := by
        rintro ⟨n, hn, -⟩
        cases hfloats.symm.trans hn
      cases d.binaryVector with
      | some packed =>
          refine .of_failsOnly ?_ hnever
          exact (unreadable_bytesOf column packed).bind fun bs _ => Outcome.failsOnly_ok _
      | none => exact .of_failsOnly (Outcome.failsOnly_error (.intro _ _)) hnever

theorem reports_readPayload (d : ColumnDocument) : Reports d.Leaks d.readPayload := by
  unfold readPayload
  cases hscalars : d.scalars with
  | some scalars =>
      have hread := (reports_readScalars (.text d.name) scalars).bind
        fun s => Outcome.failsOnly_ok (Payload.scalars s)
      exact hread.congr fun e => by simp [Leaks, hscalars]
  | none =>
      cases hvectors : d.vectors with
      | some vectors =>
          have hread := (reports_readVectors (.text d.name) vectors).bind
            fun v => Outcome.failsOnly_ok (Payload.vectors v)
          exact hread.congr fun e => by simp [Leaks, hscalars, hvectors]
      | none =>
          refine .of_failsOnly (Outcome.failsOnly_error (.intro _ _)) fun e => ?_
          simp [Leaks, hscalars, hvectors]

theorem reports_toFieldData (d : ColumnDocument) : Reports d.Leaks d.toFieldData :=
  d.reports_readPayload.bind fun _ =>
    (unreadable_member _ _ _).bind fun _ _ => Outcome.failsOnly_ok _

end ColumnDocument

namespace InsertDocument

open Document

/-- What is not reported of an insert: of its first column that is not converted. -/
def Leaks (d : InsertDocument) (e : Error) : Prop :=
  (∃ m, MsgType.ofName? d.msgType = some m) ∧
    ∃ before c after, d.fieldsData = before ++ c :: after ∧
      (∀ b ∈ before, ∃ r, b.toFieldData = .ok r) ∧ c.Leaks e

theorem reports_toRequest (d : InsertDocument) : Reports d.Leaks d.toRequest := by
  unfold toRequest member
  cases hkind : MsgType.ofName? d.msgType with
  | none =>
      refine .of_failsOnly (Outcome.failsOnly_error (.intro _ _)) ?_
      rintro e ⟨⟨m, hm⟩, -⟩
      cases hkind.symm.trans hm
  | some m =>
      have hcolumns := Reports.mapM ColumnDocument.reports_toFieldData d.fieldsData
      refine (hcolumns.bind fun _ => Outcome.failsOnly_ok _).congr fun e => ?_
      exact and_iff_right ⟨m, hkind⟩

end InsertDocument

end

section

attribute [local instance] OtherArrays.absent

end

end VectorRequests
