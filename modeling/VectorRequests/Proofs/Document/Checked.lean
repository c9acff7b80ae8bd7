/-
# Checks of written documents

What a document is written as passes the check of its model, and the check gives the same
parts again: texts and integers as they are, lists item by item, and a part that is missing
where null stands for it.
-/

import VectorRequests.Document.Checked
import VectorRequests.Json.Basic

namespace VectorRequests.Document

variable {α : Type}

@[simp]
theorem checkText_text (s : String) : checkText (.text s) = .ok s := rfl

@[simp]
theorem checkInt_int (i : Int) : checkInt (.int i) = .ok i := rfl

@[simp]
theorem checkBool_bool (b : Bool) : checkBool (.bool b) = .ok b := rfl

@[simp]
theorem checkObject_mapping (entries : List (Value × Value)) :
    checkObject (.mapping entries) = .ok entries := rfl

@[simp]
theorem under_ok (step : Step) (a : α) : (Checked.ok a).under step = .ok a := rfl

@[simp]
theorem toOutcome_ok (a : α) : (Checked.ok a).toOutcome = .ok a := rfl

/-- A field that is there is checked. -/
theorem required_of_lookup {entries : List (Value × Value)} {name : String} {v : Value} {a : α}
    {check : Value → Checked α} (hlookup : lookup entries name = some v) (hv : check v = .ok a) :
    required entries name check = .ok a := by
  rw [required, hlookup]
  simp only [hv, under_ok]

theorem optional_of_lookup {entries : List (Value × Value)} {name : String} {v : Value} {a : α}
    {check : Value → Checked α} {default : α} (hlookup : lookup entries name = some v)
    (hv : check v = .ok a) : optional entries name check default = .ok a := by
  rw [optional, hlookup]
  simp only [hv, under_ok]

/-- A list of written parts is checked part by part. -/
theorem collect_map {f : α → Value} {check : Value → Checked α} {xs : List α} (start : Nat)
    (h : ∀ x ∈ xs, check (f x) = .ok x) :
    Checked.collect check start (xs.map f) = .ok xs := by
  induction xs generalizing start with
  | nil => rfl
  | cons x xs ih =>
      obtain ⟨hx, hxs⟩ := List.forall_mem_cons.mp h
      rw [List.map_cons, Checked.collect, hx, ih (start + 1) hxs]
      rfl

/-- A part that may be null is checked like one that may not, if it is written as something. -/
theorem checkOptional_of_ne {check : Value → Checked α} {v : Value} {a : α} (hne : v ≠ .null)
    (h : check v = .ok a) : checkOptional check v = .ok (some a) := by
  cases v with
  | null => exact absurd rfl hne
  | _ =>
      rw [checkOptional, h]
      · rfl
      · nofun

theorem itemsToValues_map {f : α → Json} (xs : List α) :
    Json.itemsToValues (xs.map f) = xs.map fun x => (f x).toValue := by
  induction xs with
  | nil => rfl
  | cons x xs ih => rw [List.map_cons, List.map_cons, Json.itemsToValues, ih]

/-- A part that may be missing is found again. -/
theorem checkOptional_optional {check : Value → Checked α} {f : α → Json} {part : Option α}
    (h : ∀ a, part = some a → (f a).toValue ≠ .null ∧ check (f a).toValue = .ok a) :
    checkOptional check (Json.optional f part).toValue = .ok part := by
  cases part with
  | none => rfl
  | some a =>
      obtain ⟨hne, hcheck⟩ := h a rfl
      exact checkOptional_of_ne hne hcheck

end VectorRequests.Document
