/-
# Values in plain form

What a caller gives in cells, tuples and tensors can also be written with plain numbers and
lists alone. A tensor becomes a list nested as its dimensions are; one without dimensions is no
sequence and stays, and so does a range, which is written out only where a whole column is. The
items of a tensor in plain form are the items of its plain form.
-/

import VectorRequests.Column.Received
import VectorRequests.Proofs.Number.Usual
import VectorRequests.Proofs.Value.Sequence

namespace VectorRequests.Value

/-! ## Plain form -/

mutual

/-- A value with plain numbers for cells, and with lists for tuples and tensors. -/
def plain : Value → Value
  | .list xs => .list (plainAll xs)
  | .tuple xs => .list (plainAll xs)
  | .sized type cell => type.plain cell
  | .tensor t => if t.shape = [] then .tensor t else Received.nested t (t.shape.length - 1)
  | v => v

/-- Several values in plain form. -/
def plainAll : List Value → List Value
  | [] => []
  | x :: xs => plain x :: plainAll xs

end

theorem plainAll_eq_map (xs : List Value) : plainAll xs = xs.map plain := by
  induction xs with
  | nil => rfl
  | cons x xs ih => rw [plainAll, ih, List.map_cons]

theorem nestedRows_eq_map (ts : List Tensor) (dimensions : Nat) :
    Received.nestedRows ts dimensions = ts.map (Received.nested · dimensions) := by
  induction ts with
  | nil => rw [Received.nestedRows, List.map_nil]
  | cons t ts ih => rw [Received.nestedRows, ih, List.map_cons]

/-- Every nesting is a list. -/
theorem exists_nested_eq (t : Tensor) (dimensions : Nat) :
    ∃ xs, Received.nested t dimensions = .list xs := by
  cases dimensions with
  | zero => exact ⟨_, Received.nested.eq_1 t⟩
  | succ dimensions => exact ⟨_, Received.nested.eq_2 t dimensions⟩

/-- A tensor in plain form is the list of its items in plain form. -/
theorem plain_tensor {t : Tensor} {items : List Value} (h : t.items? = some items) :
    plain (.tensor t) = .list (items.map plain) := by
  obtain ⟨type, order, shape, cells, hcells⟩ := t
  cases shape with
  | nil => cases h
  | cons count rest =>
      rw [plain, if_neg (List.cons_ne_nil _ _)]
      cases rest with
      | nil =>
          cases h
          rw [List.length_singleton, Nat.sub_self, Received.nested, Tensor.sizedCells, List.map_map]
          rfl
      | cons width rest =>
          cases h
          rw [List.length_cons, List.length_cons, Nat.add_sub_cancel, Received.nested,
            nestedRows_eq_map, List.map_map]
          congr 1
          apply List.map_congr_left
          intro u hu
          have hshape : u.shape = width :: rest := (Tensor.of_mem_rowsOf hu).2.2
          simp [plain, hshape]

/-! ## Usual numbers -/

mutual

/-- All cells in a value are of the usual element types. -/
def IsUsual : Value → Prop
  | .list xs => AreUsual xs
  | .tuple xs => AreUsual xs
  | .sized type _ => type.IsUsual
  | .tensor t => t.type.IsUsual
  | _ => True

/-- All cells in several values are of the usual element types. -/
def AreUsual : List Value → Prop
  | [] => True
  | x :: xs => IsUsual x ∧ AreUsual xs

end

theorem areUsual_iff {xs : List Value} : AreUsual xs ↔ ∀ x ∈ xs, IsUsual x := by
  induction xs with
  | nil => simp [AreUsual]
  | cons x xs ih => rw [AreUsual, ih, List.forall_mem_cons]

theorem isUsual_of_items? {t : Tensor} {items : List Value} (h : t.type.IsUsual)
    (hitems : t.items? = some items) : ∀ x ∈ items, x.IsUsual := by
  intro x hx
  obtain ⟨-, cell, rfl⟩ | ⟨u, rfl, htype⟩ := Tensor.of_mem_items? hitems hx
  · exact h
  · rw [← htype] at h
    exact h

/-- The items of a usual sequence are usual. -/
theorem isUsual_of_iterate {v : Value} {items : List Value} (hsequence : v.IsSequence)
    (h : v.IsUsual) (hitems : v.iterate = .ok items) : ∀ x ∈ items, x.IsUsual := by
  cases v with
  | list xs =>
      cases hitems
      exact areUsual_iff.mp h
  | tuple xs =>
      cases hitems
      exact areUsual_iff.mp h
  | range start stop step =>
      have hterms : rangeItems start stop step = .ok items := hitems
      rw [rangeItems] at hterms
      split at hterms
      · cases hterms
        intro x hx
        obtain ⟨i, -, rfl⟩ := List.mem_map.mp hx
        trivial
      · cases hterms
  | tensor t => exact isUsual_of_items? h (Tensor.items?_of_iterate hitems)
  | _ => cases hsequence

end VectorRequests.Value
