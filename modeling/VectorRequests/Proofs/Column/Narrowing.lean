/-
# Floats stored as single floats

Double floats come to be stored as single floats in five ways: as a scalar column, as the only
row of a column of vectors, as a search target, as the cells of a typed array and as those of a
block of vectors. Each has a range test of its own: an item is tested before it is converted, a
row while it is, and cells afterwards. All of them refuse exactly the finite numbers that lie half
a step or more above the largest single float, which is where rounding would make them infinite.
-/

import VectorRequests.Proofs.Column.Agreement
import VectorRequests.Proofs.Vector.Row
import VectorRequests.Vector.Target

namespace VectorRequests

variable {field : Value} {xs : List Double}

/-- Every one of the numbers can be narrowed to a single float. -/
def AllWithinSingle (xs : List Double) : Prop :=
  ∀ x ∈ xs, ¬ x.IsBeyondSingle

theorem not_allWithinSingle : ¬ AllWithinSingle xs ↔ ∃ x ∈ xs, x.IsBeyondSingle := by
  simp [AllWithinSingle]

/-! ## Range tests -/

/-- The test of a row, for numbers that are narrowed together. -/
theorem Row.narrow_refusedUnless (name : String) (xs : List Double) :
    (narrow name xs).RefusedUnless (AllWithinSingle xs) (xs.map Binary.convert) := by
  refine .of_refuses (Column.refuses_of_refuses (Column.refuses_narrow name xs)) ?_ ?_
  · intro hwithin
    rw [narrow_eq_ok_iff, mapM_eq_some_iff, List.forall₂_map_right_iff]
    refine List.forall₂_same.mpr fun x hx => ?_
    exact Binary.narrow?_eq_some_convert_iff.mpr (hwithin x hx)
  · intro ys hys x hx
    have hwalk := mapM_eq_some_iff.mp (narrow_eq_ok_iff.mp hys)
    obtain ⟨y, hy, -⟩ := exists_of_forall₂ hwalk (fun _ _ => trivial) x hx
    rw [← Binary.narrow?_eq_none_iff_isBeyondSingle, hy]
    nofun

namespace Column

/-- The test of an item, which is narrowed to be tested. -/
theorem checkItem_float_iff {x : Double} :
    checkItem field .float .float (.float x) = .ok () ↔ ¬ x.IsBeyondSingle := by
  rw [checkItem_eq_ok_iff, ← Binary.narrow?_eq_none_iff_isBeyondSingle, ← Option.isNone_iff_eq_none,
    Bool.not_eq_true]
  exact and_iff_right rfl

theorem checkItems_refusedUnless (field : Value) (xs : List Double) :
    ((xs.map Value.float).forM (checkItem field .float .float)).RefusedUnless
      (AllWithinSingle xs) () := by
  have hpass : (xs.map Value.float).forM (checkItem field .float .float) = .ok () ↔
      AllWithinSingle xs := by
    rw [Outcome.forM_eq_ok_iff, List.forall_mem_map]
    exact forall₂_congr fun x _ => checkItem_float_iff
  have hrefuses : Outcome.FailsOnly (Refuses field)
      ((xs.map Value.float).forM (checkItem field .float .float)) := by
    refine Outcome.failsOnly_forM fun v hv => ?_
    obtain ⟨x, -, rfl⟩ := List.mem_map.mp hv
    exact refuses_checkItem _ rfl
  exact .of_refuses (refuses_of_refuses hrefuses) hpass.mpr fun _ => hpass.mp

end Column

namespace Cells

-- The cells have a name, since a list of single floats is one of cells only by computation.
variable {ys : List Single}

/-- The test of cells, which looks at what the numbers have become. -/
theorem checkRange_refusedUnless (hys : ys = xs.map Binary.convert) :
    (checkRange (.float .single) (xs.map Value.float) ys).RefusedUnless
      (AllWithinSingle xs) () := by
  have hover (x : Double) :
      overflows .single (.float x) x.convert = false ↔ ¬ x.IsBeyondSingle := by
    rw [← Bool.not_eq_true, ← Binary.narrow?_eq_none_iff_isBeyondSingle]
    exact not_congr (Column.overflows_single (congrArg Except.ok (Binary.convert_self x)))
  have hpass : checkRange (.float .single) (xs.map Value.float) ys = .ok () ↔
      AllWithinSingle xs := by
    rw [checkRange_eq_ok_iff (by simp [hys]), hys, List.forall₂_map_left_iff,
      List.forall₂_map_right_iff, List.forall₂_same]
    exact forall₂_congr fun x _ => hover x
  exact .of_refuses (refuses_checkRange _ _ _) hpass.mpr fun _ => hpass.mp

theorem store_refusedUnless (hys : ys = xs.map Binary.convert) :
    (store (.float .single) (.list (xs.map .float))).RefusedUnless (AllWithinSingle xs) ys := by
  have hitem (x : Double) : IsItem (.float x) :=
    isItem_of_accepts (show ItemKind.float.accepts (.float x) = true from rfl)
  have hitems : ∀ v ∈ xs.map Value.float, IsItem v := List.forall_mem_map.mpr fun x _ => hitem x
  have hcells : List.Forall₂ (fun v y => toFloat .single v = .ok y) (xs.map Value.float) ys := by
    rw [hys, List.forall₂_map_left_iff, List.forall₂_map_right_iff]
    exact List.forall₂_same.mpr fun _ _ => rfl
  have hwalk : (xs.map Value.float).mapM (toCell (.float .single)) = .ok ys :=
    Outcome.mapM_eq_ok_iff.mpr hcells
  rw [store_list_eq hitems, hwalk]
  exact (checkRange_refusedUnless hys).bind fun _ => rfl

end Cells

/-! ## Five ways to store floats -/

section Stores

variable {dim : Value} {ys : List Single}

theorem ScalarField.ofFloats_refusedUnless (hys : ys = xs.map Binary.convert) :
    (ofValues (.numeric .float) (.list (xs.map .float))).RefusedUnless (AllWithinSingle xs)
      (.numeric .float ys) :=
  (Cells.store_refusedUnless hys).bind fun _ => rfl

theorem VectorField.ofFloats_refusedUnless (hys : ys = xs.map Binary.convert) :
    (ofValues dim (.list (xs.map .float)) .null).RefusedUnless (AllWithinSingle xs)
      ⟨dim, .floats ys⟩ :=
  (Cells.store_refusedUnless hys).bind fun _ => rfl

theorem TargetVector.ofFloats_refusedUnless (hsome : ys ≠ []) (hys : ys = xs.map Binary.convert) :
    (ofFloats (.list (xs.map .float))).RefusedUnless (AllWithinSingle xs) (.float ys hsome) := by
  rw [ofFloats, Row.read_floats]
  subst hys
  exact (Row.narrow_refusedUnless _ xs).bind fun _ => dif_pos hsome

namespace Column

theorem marshal_floats_refusedUnless (hys : ys = xs.map Binary.convert) :
    (marshal field (.dataType .float) (.list (xs.map .float))).RefusedUnless (AllWithinSingle xs)
      ⟨field, .float, .scalars (.numeric .float ys)⟩ := by
  have hstorage : DataType.float.storage? = some (.numeric .float, .float) := rfl
  rw [marshal_list rfl, pack_scalars hstorage]
  refine (checkItems_refusedUnless field xs).bind fun hwithin => ?_
  rw [(ScalarField.ofFloats_refusedUnless hys).ok hwithin]
  rfl

/-- What is wrong with the row is said in the name of the field. -/
theorem inField_refusedUnless {α : Type} {x : Outcome α} {taken : Prop} {a : α}
    (hx : x.RefusedUnless taken a) : (inField field x).RefusedUnless taken a where
  ok htaken := by
    rw [hx.ok htaken]
    rfl
  refused hrest := by
    obtain ⟨fault, found, he⟩ := hx.refused hrest
    rw [he]
    exact ⟨fault, field, rfl⟩

/-- A column of one row is as wide as the row. -/
theorem marshal_floatRow_refusedUnless (hsome : xs ≠ []) (hys : ys = xs.map Binary.convert) :
    (marshal field (.dataType .floatVector) (.list [.list (xs.map .float)])).RefusedUnless
      (AllWithinSingle xs) ⟨field, .floatVector, .vectors ⟨.int xs.length, .floats ys⟩⟩ := by
  have hrow : (inField field (Row.read rowName (.list (xs.map .float)))).RefusedUnless
      (AllWithinSingle xs) ys := by
    rw [Row.read_floats, hys]
    exact inField_refusedUnless (Row.narrow_refusedUnless rowName xs)
  rw [marshal_list rfl]
  constructor
  · intro hwithin
    have hrows : List.Forall₂ (fun v row => Row.read rowName v = .ok row)
        [Value.list (xs.map .float)] [ys] :=
      .cons (inField_eq_ok.mp (hrow.ok hwithin)) .nil
    have hlength : ∀ row ∈ [ys], row.length = xs.length := by simp [hys]
    have hpacked : Packed field .floatVector [.list (xs.map .float)]
        ⟨field, .floatVector, .vectors ⟨.int xs.length, .floats [ys].flatten⟩⟩ :=
      .floats hrows (List.cons_ne_nil _ _) (List.length_pos_iff.mpr hsome) hlength
    rw [List.flatten_singleton] at hpacked
    exact pack_of_packed hpacked
  · intro hbeyond
    obtain ⟨fault, found, he⟩ := hrow.refused hbeyond
    have hwalk : [Value.list (xs.map .float)].mapM
        (fun row => inField field (Row.read rowName row)) = .error (.refused fault found) :=
      Outcome.mapM_eq_error_iff.mpr ⟨[], _, [], rfl, nofun, he⟩
    rw [pack, floatRows, hwalk]
    exact ⟨fault, found, rfl⟩

end Column

end Stores

/-! ## All five or none -/

/-- The floats are stored in all five ways, as the same single floats. -/
structure StoredAsSingles (field : Value) (xs : List Double) (ys : List Single) : Prop where
  column : Column.marshal field (.dataType .float) (.list (xs.map .float)) =
    .ok ⟨field, .float, .scalars (.numeric .float ys)⟩
  row : Column.marshal field (.dataType .floatVector) (.list [.list (xs.map .float)]) =
    .ok ⟨field, .floatVector, .vectors ⟨.int xs.length, .floats ys⟩⟩
  target : ∃ hsome, TargetVector.ofFloats (.list (xs.map .float)) = .ok (.float ys hsome)
  scalars : ScalarField.ofValues (.numeric .float) (.list (xs.map .float)) =
    .ok (.numeric .float ys)
  vectors : VectorField.ofValues (.int xs.length) (.list (xs.map .float)) .null =
    .ok ⟨.int xs.length, .floats ys⟩

/-- The floats are refused in all five ways. -/
structure RefusedAsSingles (field : Value) (xs : List Double) : Prop where
  column : (Column.marshal field (.dataType .float) (.list (xs.map .float))).IsRefused
  row : (Column.marshal field (.dataType .floatVector) (.list [.list (xs.map .float)])).IsRefused
  target : (TargetVector.ofFloats (.list (xs.map .float))).IsRefused
  scalars : (ScalarField.ofValues (.numeric .float) (.list (xs.map .float))).IsRefused
  vectors : (VectorField.ofValues (.int xs.length) (.list (xs.map .float)) .null).IsRefused

theorem storedAsSingles (hsome : xs ≠ []) (hwithin : AllWithinSingle xs) :
    StoredAsSingles field xs (xs.map Binary.convert) where
  column := (Column.marshal_floats_refusedUnless rfl).ok hwithin
  row := (Column.marshal_floatRow_refusedUnless hsome rfl).ok hwithin
  target := ⟨by simpa using hsome, (TargetVector.ofFloats_refusedUnless _ rfl).ok hwithin⟩
  scalars := (ScalarField.ofFloats_refusedUnless rfl).ok hwithin
  vectors := (VectorField.ofFloats_refusedUnless rfl).ok hwithin

theorem refusedAsSingles (hsome : xs ≠ []) (hbeyond : ¬ AllWithinSingle xs) :
    RefusedAsSingles field xs where
  column := (Column.marshal_floats_refusedUnless rfl).refused hbeyond
  row := (Column.marshal_floatRow_refusedUnless hsome rfl).refused hbeyond
  target := (TargetVector.ofFloats_refusedUnless (by simpa using hsome) rfl).refused hbeyond
  scalars := (ScalarField.ofFloats_refusedUnless rfl).refused hbeyond
  vectors := (VectorField.ofFloats_refusedUnless rfl).refused hbeyond

/-- Floats, if there are any, are stored as the nearest single floats in all five ways, and only
what was infinite before is infinite then; or one of them is finite and lies half a step or more
above the largest single float, and they are refused in all five ways. -/
theorem stored_or_refused_asSingles (hsome : xs ≠ []) :
    ((∀ x ∈ xs, ¬ x.IsBeyondSingle) ∧ StoredAsSingles field xs (xs.map Binary.convert) ∧
        ∀ x ∈ xs, (x.convert : Single).isInfinite = true ↔ x.isInfinite = true) ∨
      ((∃ x ∈ xs, x.IsBeyondSingle) ∧ RefusedAsSingles field xs) := by
  by_cases hwithin : AllWithinSingle xs
  · refine .inl ⟨hwithin, storedAsSingles hsome hwithin, fun x hx => ⟨?_, ?_⟩⟩
    · exact Binary.isInfinite_of_narrow? (Binary.narrow?_eq_some_convert_iff.mpr (hwithin x hx))
    · exact Binary.isInfinite_convert
  · exact .inr ⟨not_allWithinSingle.mp hwithin, refusedAsSingles hsome hwithin⟩

/-! ### Around half a step above the largest single float -/

/-- The double float just below that number. -/
def belowHalfStep : Double :=
  Binary.ofBits 0x47EFFFFFEFFFFFFF

/-- That number as a double float. -/
def halfStep : Double :=
  Binary.ofBits 0x47EFFFFFF0000000

/-- The largest single float. -/
def largestSingle : Single :=
  Binary.ofBits 0x7F7FFFFF

/-- One step between doubles decides whether they are stored, and not-a-number always is. -/
theorem halfStep_refused_asSingle :
    [belowHalfStep, .nan] ≠ [] ∧ StoredAsSingles (.text "score") [belowHalfStep, .nan]
        [largestSingle, .nan] ∧
      [.nan, halfStep] ≠ [] ∧ RefusedAsSingles (.text "score") [.nan, halfStep] := by
  have hbelow : belowHalfStep.narrow? = some belowHalfStep.convert := by decide +kernel
  have hlargest : belowHalfStep.convert = largestSingle := by decide +kernel
  have hhalf : halfStep.narrow? = none := by decide +kernel
  refine ⟨by simp, ?_, by simp, ?_⟩
  · rcases stored_or_refused_asSingles (List.cons_ne_nil belowHalfStep [.nan]) with
      ⟨-, hstored, -⟩ | ⟨⟨x, hx, hbeyond⟩, -⟩
    · rwa [List.map_cons, hlargest] at hstored
    · have hwithin := Binary.narrow?_eq_some_convert_iff.mp hbelow
      have hnan : ¬ (Binary.nan : Double).IsBeyondSingle := nofun
      rcases List.mem_pair.mp hx with rfl | rfl
      · exact absurd hbeyond hwithin
      · exact absurd hbeyond hnan
  · rcases stored_or_refused_asSingles (List.cons_ne_nil .nan [halfStep]) with
      ⟨hwithin, -⟩ | ⟨-, hrefused⟩
    · have hbeyond := Binary.narrow?_eq_none_iff_isBeyondSingle.mp hhalf
      exact absurd hbeyond (hwithin halfStep (by simp))
    · exact hrefused

end VectorRequests
