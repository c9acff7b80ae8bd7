/-
# What the checks of parameters let through

A name is a text that is not blank, and a count is an integer that is not too small; truth values
are no counts. The checks let names and counts through and refuse everything else. Names that are
given in a list or a tuple are let through if all of them are names.
-/

import VectorRequests.Param.Check
import VectorRequests.Proofs.Outcome

namespace VectorRequests

open VectorRequests.Text

namespace Value

/-- A list or a tuple of the given items. -/
inductive Lists : Value → List Value → Prop
  | list (xs : List Value) : Lists (.list xs) xs
  | tuple (xs : List Value) : Lists (.tuple xs) xs

/-- A text that is not blank. -/
def IsName (v : Value) : Prop :=
  ∃ s, v = .text s ∧ ¬ IsBlank s

/-- An integer that is no truth value and not below the least one. -/
def IsCount (least : Int) (v : Value) : Prop :=
  v.isBool = false ∧ ∃ n, v.toInt? = some n ∧ least ≤ n

section Counts

variable {least n : Int} {v : Value}

theorem not_isCount_bool (b : Bool) : ¬ (Value.bool b).IsCount least := by
  rintro ⟨hbool, -⟩
  cases hbool

theorem not_isCount_of_toInt? (h : v.toInt? = none) : ¬ v.IsCount least := by
  rintro ⟨-, n, hn, -⟩
  cases h.symm.trans hn

theorem isCount_iff_le (hbool : ∀ b, v ≠ .bool b) (hn : v.toInt? = some n) :
    v.IsCount least ↔ least ≤ n := by
  constructor
  · rintro ⟨-, m, hm, hleast⟩
    cases hn.symm.trans hm
    exact hleast
  · intro hleast
    refine ⟨?_, n, hn, hleast⟩
    cases v with
    | bool b => exact absurd rfl (hbool b)
    | sized type cell => cases hn
    | _ => rfl

end Counts

namespace Lists

variable {v : Value} {xs : List Value}

theorem itemsFor_eq {α : Type} (h : v.Lists xs) (body : Value → Outcome α) :
    v.itemsFor body = .ok xs := by
  cases h with
  | list | tuple => rfl

theorem truth_eq (h : v.Lists xs) : v.truth = .ok (!xs.isEmpty) := by
  cases h with
  | list | tuple => rfl

theorem checkPlaces_eq (h : v.Lists xs) : v.checkPlaces = .ok () := by
  cases h with
  | list | tuple => rfl

end Lists

end Value

namespace Check

variable {v : Value} {xs : List Value}

/-! ## Names -/

theorem exists_name_eq_ok_iff {parameter : String} :
    (∃ n, name parameter v = .ok n) ↔ v.IsName := by
  constructor
  · rintro ⟨n, hn⟩
    exact ⟨n.text, (toValue_of_name_eq_ok hn).symm, n.notBlank⟩
  · rintro ⟨s, rfl, hs⟩
    exact ⟨⟨s, hs⟩, name_toValue parameter ⟨s, hs⟩⟩

theorem refuses_name (parameter : String) (v : Value) : (name parameter v).Refuses := by
  unfold name
  split
  · split
    · exact Outcome.refuses_refuse _
    · exact Outcome.refuses_ok _
  · exact Outcome.refuses_refuse _

theorem names_of_lists (h : v.Lists xs) (parameter : String) :
    names parameter v = xs.mapM (name parameter) := by
  rw [names, h.itemsFor_eq, Outcome.ok_bind]

theorem exists_names_eq_ok_iff (h : v.Lists xs) {parameter : String} :
    (∃ ns, names parameter v = .ok ns) ↔ ∀ x ∈ xs, x.IsName := by
  rw [names_of_lists h, Outcome.exists_mapM_eq_ok_iff]
  simp only [exists_name_eq_ok_iff]

theorem refuses_names (h : v.Lists xs) (parameter : String) : (names parameter v).Refuses := by
  rw [names_of_lists h]
  exact Outcome.failsOnly_mapM fun x _ => refuses_name parameter x

/-! ## Counts -/

/-- A check that lets counts through. -/
def count (fault : ParamFault) (least : Int) (v : Value) : Outcome Unit :=
  match v, v.toInt? with
  | .bool _, _ => Error.refuse fault
  | _, some n => if least ≤ n then .ok () else Error.refuse fault
  | _, none => Error.refuse fault

theorem count_eq_ok_iff {fault : ParamFault} {least : Int} :
    count fault least v = .ok () ↔ v.IsCount least := by
  unfold count
  split
  next b => exact iff_of_false nofun (Value.not_isCount_bool b)
  next n hbool hn =>
    rw [Value.isCount_iff_le hbool hn]
    split
    next hleast => exact iff_of_true rfl hleast
    next hless => exact iff_of_false nofun hless
  next _ hnone => exact iff_of_false nofun (Value.not_isCount_of_toInt? hnone)

theorem refuses_count (fault : ParamFault) (least : Int) (v : Value) :
    (count fault least v).Refuses := by
  unfold count
  split
  · exact Outcome.refuses_refuse _
  · split
    · exact Outcome.refuses_ok _
    · exact Outcome.refuses_refuse _
  · exact Outcome.refuses_refuse _

theorem timestamp_eq_count (parameter : String) (v : Value) :
    timestamp parameter v = count (.badTimestamp parameter) 0 v := by
  cases v <;> rfl

theorem timestamp_eq_ok_iff {parameter : String} :
    timestamp parameter v = .ok () ↔ v.IsCount 0 := by
  rw [timestamp_eq_count, count_eq_ok_iff]

theorem refuses_timestamp (parameter : String) (v : Value) : (timestamp parameter v).Refuses := by
  rw [timestamp_eq_count]
  exact refuses_count _ _ _

end Check

end VectorRequests
