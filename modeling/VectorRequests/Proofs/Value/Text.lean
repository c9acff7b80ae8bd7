/-
# Asking for the text of a value

Whoever asks for the text of a value either goes on with it or fails, and fails only for a
value that has none. A value that is no integer and holds no other value has a text.
-/

import VectorRequests.Value.Written
import VectorRequests.Proofs.Outcome
import VectorRequests.Proofs.Text.Integer

namespace VectorRequests.Value

open VectorRequests.Text

variable {α : Type} {v : Value} {x : Outcome α}

theorem withText_eq_ok_iff {a : α} : v.withText x = .ok a ↔ v.hasText = true ∧ x = .ok a := by
  cases h : v.hasText with
  | true => rw [withText_of_hasText h, and_iff_right rfl]
  | false =>
      rw [withText_of_not_hasText h]
      exact iff_of_false nofun nofun

theorem withText_eq_error_iff {e : Error} :
    v.withText x = .error e ↔
      (v.hasText = true ∧ x = .error e) ∨ (v.hasText = false ∧ e = .failed .badValue) := by
  cases h : v.hasText with
  | true => simp [withText_of_hasText h]
  | false => simp [withText_of_not_hasText h, Error.fail, eq_comm]

/-- What is done with a text fails as it does, or because there is no text. -/
theorem failsOnly_withText {P : Error → Prop} (hx : x.FailsOnly P)
    (htextless : v.hasText = false → P (.failed .badValue)) : (v.withText x).FailsOnly P := by
  intro e he
  obtain ⟨-, he⟩ | ⟨hnone, rfl⟩ := withText_eq_error_iff.mp he
  · exact hx e he
  · exact htextless hnone

/-- What counts as an integer has a text if the integer has one. -/
theorem hasText_iff_of_toInt? {n : Int} (h : v.toInt? = some n) :
    v.hasText = true ↔ Integer.IsShort n := by
  cases v with
  | int i =>
      cases h
      exact decide_eq_true_iff
  | bool b =>
      cases h
      exact iff_of_true rfl (by cases b <;> decide)
  | dataType t | placeholderType t | msgType t | dslType t =>
      cases h
      exact iff_of_true rfl (by cases t <;> decide)
  | _ => cases h

end VectorRequests.Value
