/-
# Walks over sequences

A loop over a value visits the items of the value, in order, and a sequence whose items can
be listed has as many of them as its length says. A loop that is run ahead passes if its body
does for every item, and it fails at the first item that its body fails for. A range cannot be
listed only if it has more terms than a length can say.
-/

import VectorRequests.Value.Sequence
import VectorRequests.Proofs.Outcome

namespace VectorRequests

/-- The values that a column may be. -/
def Value.IsSequence : Value → Prop
  | .list _ | .tuple _ | .range .. | .tensor _ => True
  | _ => False

theorem length_rangeTerms (start stop step : Int) :
    (Value.rangeTerms start stop step).length = Value.rangeCount start stop step := by
  rw [Value.rangeTerms, List.length_map, List.length_range]

theorem Tensor.length_rowsOf (t : ElementType) (order : ByteOrder) (rest : List Nat)
    (count : Nat) (cells : List t.Cell) (h : cells.length = count * cellCount rest) :
    (rowsOf t order rest count cells h).length = count := by
  induction count generalizing cells with
  | zero => rfl
  | succ count ih => rw [rowsOf, List.length_cons, ih]

/-- The rows of a block are of its type and have the dimensions that are left. -/
theorem Tensor.of_mem_rowsOf {t : ElementType} {order : ByteOrder} {rest : List Nat} {count : Nat}
    {cells : List t.Cell} {h : cells.length = count * cellCount rest} {u : Tensor}
    (hu : u ∈ rowsOf t order rest count cells h) :
    u.type = t ∧ u.order = order ∧ u.shape = rest := by
  induction count generalizing cells with
  | zero => cases hu
  | succ count ih =>
      rw [rowsOf, List.mem_cons] at hu
      obtain rfl | hu := hu
      · exact ⟨rfl, rfl, rfl⟩
      · exact ih hu

/-- Every tensor but one without dimensions has items. -/
theorem Tensor.items?_eq_none_iff {t : Tensor} : t.items? = none ↔ t.shape = [] := by
  obtain ⟨type, order, shape, cells, hcells⟩ := t
  cases shape with
  | nil => exact iff_of_true rfl rfl
  | cons count rest =>
      refine iff_of_false ?_ (List.cons_ne_nil _ _)
      cases rest <;> nofun

/-- The items of a tensor are cells or tensors of its type. -/
theorem Tensor.of_mem_items? {t : Tensor} {items : List Value} {x : Value}
    (h : t.items? = some items) (hx : x ∈ items) :
    (t.shape.length = 1 ∧ ∃ cell, x = .sized t.type cell) ∨
      ∃ u, x = .tensor u ∧ u.type = t.type := by
  obtain ⟨type, order, shape, cells, hcells⟩ := t
  cases shape with
  | nil => cases h
  | cons count rest =>
      cases rest with
      | nil =>
          cases h
          obtain ⟨cell, -, rfl⟩ := List.mem_map.mp hx
          exact .inl ⟨rfl, cell, rfl⟩
      | cons =>
          cases h
          obtain ⟨u, hu, rfl⟩ := List.mem_map.mp hx
          exact .inr ⟨u, rfl, (of_mem_rowsOf hu).1⟩

/-- A tensor that can be walked over has as many items as its first dimension says. -/
theorem Tensor.length_eq_of_items? {t : Tensor} {xs : List Value} (h : t.items? = some xs) :
    xs.length = t.shape.headD 0 := by
  obtain ⟨type, order, shape, cells, hcells⟩ := t
  cases shape with
  | nil => cases h
  | cons count rest =>
      cases rest with
      | nil =>
          cases h
          simpa [sizedCells, cellCount] using hcells
      | cons =>
          cases h
          rw [List.length_map, length_rowsOf, List.headD_cons]

theorem Tensor.length_items? {t : Tensor} {xs : List Value} (h : t.items? = some xs) :
    (Value.tensor t).length = .ok xs.length := by
  rw [length_eq_of_items? h]
  obtain ⟨type, order, shape, cells, hcells⟩ := t
  cases shape with
  | nil => cases h
  | cons => rfl

/-- A walk over a tensor visits its items. -/
theorem Tensor.items?_of_iterate {t : Tensor} {xs : List Value}
    (h : (Value.tensor t).iterate = .ok xs) : t.items? = some xs := by
  have hitems : Value.tensorItems t = .ok xs := h
  rw [Value.tensorItems] at hitems
  split at hitems
  next items hfound =>
    cases hitems
    exact hfound
  · cases hitems

/-- A loop over a value visits its items. -/
theorem iterate_of_itemsFor {α : Type} {body : Value → Outcome α} {v : Value} {xs : List Value}
    (h : v.itemsFor body = .ok xs) : v.iterate = .ok xs := by
  cases v with
  | range start stop step =>
      rw [Value.itemsFor] at h
      obtain ⟨_, -, hiterate⟩ := Outcome.bind_eq_ok.mp h
      exact hiterate
  | _ => exact h

/-! ### Loops that are run ahead -/

section

variable {α : Type} {body : Value → Outcome α}

/-- A loop that is run ahead is a walk over the items with these numbers. -/
theorem runLoop_eq_forM {item : Nat → Value} {count k : Nat} :
    Value.runLoop body item count k =
      ((List.range' k count).map item).forM fun v => discard (body v) := by
  induction count generalizing k with
  | zero => rfl
  | succ count ih =>
      show (discard (body (item k)) >>= fun _ => _) = discard (body (item k)) >>= fun _ => _
      rw [ih]

/-- Over a range it visits the terms. -/
theorem runLoop_range_eq_forM {start stop step : Int} :
    Value.runLoop body (fun k => .int (start + k * step)) (Value.rangeCount start stop step) 0 =
      ((Value.rangeTerms start stop step).map .int).forM fun v => discard (body v) := by
  rw [runLoop_eq_forM, Value.rangeTerms, List.map_map, List.range_eq_range']
  rfl

theorem runLoop_range_eq_ok_iff {start stop step : Int} :
    Value.runLoop body (fun k => .int (start + k * step)) (Value.rangeCount start stop step) 0 =
        .ok () ↔
      ∀ x ∈ (Value.rangeTerms start stop step).map .int, ∃ a, body x = .ok a := by
  rw [runLoop_range_eq_forM, Outcome.forM_eq_ok_iff]
  simp only [Outcome.discard_eq_ok_iff]

/-- It fails at the first term that its body fails for. -/
theorem runLoop_range_eq_error_iff {start stop step : Int} {e : Error} :
    Value.runLoop body (fun k => .int (start + k * step)) (Value.rangeCount start stop step) 0 =
        .error e ↔
      ∃ before x after, (Value.rangeTerms start stop step).map .int = before ++ x :: after ∧
        (∀ y ∈ before, ∃ a, body y = .ok a) ∧ body x = .error e := by
  rw [runLoop_range_eq_forM, Outcome.forM_eq_error_iff]
  simp only [Outcome.discard_eq_ok_iff, Outcome.discard_eq_error_iff]

/-- A loop that passes every item visits them all. -/
theorem itemsFor_of_iterate {v : Value} {xs : List Value} (h : v.iterate = .ok xs)
    (hbody : ∀ x ∈ xs, ∃ a, body x = .ok a) : v.itemsFor body = .ok xs := by
  cases v with
  | range start stop step =>
      have hitems : Value.rangeItems start stop step = .ok xs := h
      rw [Value.rangeItems] at hitems
      split at hitems
      · cases hitems
        rw [Value.itemsFor, runLoop_range_eq_ok_iff.mpr hbody]
        exact h
      · cases hitems
  | _ => exact h

end

section

variable {α : Type} {P : Error → Prop} {body : Value → Outcome α}

theorem failsOnly_runLoop {item : Nat → Value} (hbody : ∀ k, Outcome.FailsOnly P (body (item k)))
    (count k : Nat) : Outcome.FailsOnly P (Value.runLoop body item count k) := by
  induction count generalizing k with
  | zero => exact Outcome.failsOnly_ok ()
  | succ count ih => exact (Outcome.failsOnly_discard (hbody k)).bind fun _ _ => ih (k + 1)

/-- What cannot be walked over fails as an operation on values. -/
theorem failsOnly_iterate (hfailed : ∀ fault, P (.failed fault)) (v : Value) :
    Outcome.FailsOnly P v.iterate := by
  cases v with
  | list | tuple | set | mapping | text | bytes | buffer => exact Outcome.failsOnly_ok _
  | range start stop step =>
      show Outcome.FailsOnly P (Value.rangeItems start stop step)
      rw [Value.rangeItems]
      split
      · exact Outcome.failsOnly_ok _
      · exact Outcome.failsOnly_error (hfailed _)
  | tensor t =>
      show Outcome.FailsOnly P (Value.tensorItems t)
      rw [Value.tensorItems]
      split
      · exact Outcome.failsOnly_ok _
      · exact Outcome.failsOnly_error (hfailed _)
  | null | bool | int | float | sized | dataType | placeholderType | msgType | dslType | scalarKind
    | metric | vector | column | record | object => exact Outcome.failsOnly_error (hfailed _)

/-- A loop fails as its body does, or as an operation on values. -/
theorem failsOnly_itemsFor (hbody : ∀ v, Outcome.FailsOnly P (body v))
    (hfailed : ∀ fault, P (.failed fault)) (v : Value) :
    Outcome.FailsOnly P (v.itemsFor body) := by
  have hiterate := failsOnly_iterate hfailed v
  cases v with
  | range start stop step =>
      rw [Value.itemsFor]
      exact (failsOnly_runLoop (fun _ => hbody _) _ _).bind fun _ _ => hiterate
  | _ => exact hiterate

end

/-! ### Too many items -/

namespace Value

variable {start stop step : Int} {e : Error}

/-- What needs the terms of a range to be counted fails only if there are more of them than a
length can say. -/
theorem ite_rangeCount_eq_error_iff {a : α} :
    (if rangeCount start stop step ≤ maxLength then .ok a else Error.fail .overflow : Outcome α) =
        .error e ↔
      maxLength < rangeCount start stop step ∧ e = .failed .overflow := by
  by_cases hcount : rangeCount start stop step ≤ maxLength
  · rw [if_pos hcount]
    exact iff_of_false (by simp) fun hmany => absurd hmany.1 (Nat.not_lt.mpr hcount)
  · rw [if_neg hcount, Error.fail, Except.error.injEq, eq_comm]
    exact (and_iff_right (Nat.not_le.mp hcount)).symm

/-- A range is not listed only if it has more terms than a length can say. -/
theorem iterate_range_eq_error_iff :
    (Value.range start stop step).iterate = .error e ↔
      maxLength < rangeCount start stop step ∧ e = .failed .overflow :=
  ite_rangeCount_eq_error_iff

/-- A range has no length only if it has more terms than a length can say. -/
theorem length_range_eq_error_iff :
    (Value.range start stop step).length = .error e ↔
      maxLength < rangeCount start stop step ∧ e = .failed .overflow :=
  ite_rangeCount_eq_error_iff

/-- The items of a range are its terms. -/
theorem eq_terms_of_iterate {values : List Value}
    (h : (Value.range start stop step).iterate = .ok values) :
    values = (rangeTerms start stop step).map .int ∧
      rangeCount start stop step ≤ maxLength := by
  have hitems : rangeItems start stop step = .ok values := h
  rw [rangeItems] at hitems
  split at hitems
  next hcount =>
    cases hitems
    exact ⟨rfl, hcount⟩
  · cases hitems

end Value

/-- A sequence that can be listed has as many items as its length says. -/
theorem length_of_iterate {v : Value} {xs : List Value} (hsequence : v.IsSequence)
    (h : v.iterate = .ok xs) : v.length = .ok xs.length := by
  cases v with
  | list ys =>
      cases h
      rfl
  | tuple ys =>
      cases h
      rfl
  | range start stop step =>
      have hitems : Value.rangeItems start stop step = .ok xs := h
      rw [Value.rangeItems] at hitems
      split at hitems
      next hword =>
        cases hitems
        rw [Value.length, if_pos hword, List.length_map, length_rangeTerms]
      · cases hitems
  | tensor t => exact Tensor.length_items? (Tensor.items?_of_iterate h)
  | _ => cases hsequence

end VectorRequests
