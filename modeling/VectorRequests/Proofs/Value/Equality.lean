/-
# Values that equal themselves

Not every value equals itself: a number that is none does not, and a tensor cannot be asked.
Texts, bytes and members of named vocabularies do, and so do tuples and records of values that
do.
-/

import VectorRequests.Value.Equality
import VectorRequests.Proofs.Outcome

namespace VectorRequests.Value

theorem equal_text (s t : String) : equal (.text s) (.text t) = .ok (s == t) := by
  simp [equal, leafEqual, operand?, toInt?, tensor?, plainEqual]

theorem equal_text_self (s : String) : equal (.text s) (.text s) = .ok true := by
  rw [equal_text, beq_self_eq_true]

theorem equal_bytes (bs : List UInt8) : equal (.bytes bs) (.bytes bs) = .ok true := by
  simp [equal, leafEqual, operand?, toInt?, tensor?, plainEqual, bytes?]

theorem equal_placeholderType (t : PlaceholderType) :
    equal (.placeholderType t) (.placeholderType t) = .ok true := by
  rw [equal]
  · cases t <;> rfl
  all_goals simp

/-- A list of values each of which equals itself equals itself. -/
theorem allEqual_self {vs : List Value} (h : ∀ v ∈ vs, equal v v = .ok true) :
    allEqual vs vs = .ok true := by
  induction vs with
  | nil => rw [allEqual]
  | cons v vs ih =>
      obtain ⟨hv, hvs⟩ := List.forall_mem_cons.mp h
      rw [allEqual, hv, Outcome.ok_bind, if_pos rfl, ih hvs]

theorem equal_tuple_self {vs : List Value} (h : ∀ v ∈ vs, equal v v = .ok true) :
    equal (.tuple vs) (.tuple vs) = .ok true := by
  rw [equal, allEqual_self h]

/-- Attributes each of which equals itself equal themselves, if none of them is a payload. -/
theorem attributesEqual_self {kind : RecordKind} {attributes : List (String × Value)}
    (h : ∀ a ∈ attributes, kind.holdsPayload a.1 = false ∧ equal a.2 a.2 = .ok true) :
    attributesEqual kind attributes attributes = .ok true := by
  induction attributes with
  | nil => rw [attributesEqual]
  | cons a attributes ih =>
      obtain ⟨⟨hplain, hsame⟩, hrest⟩ := List.forall_mem_cons.mp h
      obtain ⟨name, v⟩ := a
      rw [attributesEqual, hplain]
      simp only [Bool.false_eq_true, if_false, hsame, Outcome.ok_bind, if_true]
      exact ih hrest

theorem equal_record_self {kind : RecordKind} {attributes : List (String × Value)}
    (h : ∀ a ∈ attributes, kind.holdsPayload a.1 = false ∧ equal a.2 a.2 = .ok true) :
    equal (.record kind attributes) (.record kind attributes) = .ok true := by
  rw [equal, if_pos rfl, attributesEqual_self h]

end VectorRequests.Value
