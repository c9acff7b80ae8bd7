/-
# Checks shared by all parameters

Names and expressions must be texts that are not blank; timestamps must be
integers that are not negative, and truth values are no integers here.
-/

import VectorRequests.Error
import VectorRequests.Text.Blank
import VectorRequests.Value.Sequence

namespace VectorRequests

open VectorRequests.Text

/-- A text that is not blank. -/
structure Name where
  text : String
  notBlank : ¬ IsBlank text
  deriving DecidableEq

namespace Name

/-- The name as a value. -/
def toValue (name : Name) : Value :=
  .text name.text

end Name

namespace Check

/-- A text that is not blank. -/
def name (parameter : String) : Value → Outcome Name
  | .text s =>
    if h : IsBlank s then Error.refuse (.blankText parameter) else .ok ⟨s, h⟩
  | _ => Error.refuse (.blankText parameter)

/-- Texts that are not blank, one for each item of a value. -/
def names (parameter : String) (v : Value) : Outcome (List Name) := do
  (← v.itemsFor (name parameter)).mapM (name parameter)

/-- A timestamp. -/
def timestamp (parameter : String) (v : Value) : Outcome Unit :=
  match v, v.toInt? with
  | .bool _, _ => Error.refuse (.badTimestamp parameter)
  | _, some i => if 0 ≤ i then .ok () else Error.refuse (.badTimestamp parameter)
  | _, none => Error.refuse (.badTimestamp parameter)

theorem name_toValue (parameter : String) (n : Name) : name parameter n.toValue = .ok n := by
  simp [name, Name.toValue, n.notBlank]

theorem toValue_of_name_eq_ok {parameter : String} {v : Value} {n : Name}
    (h : name parameter v = .ok n) : n.toValue = v := by
  unfold name at h
  split at h
  · split at h
    · exact absurd h (by simp [Error.refuse])
    · cases h
      rfl
  · exact absurd h (by simp [Error.refuse])

end Check

end VectorRequests
