/-
# Attributes of drafts

A draft collects the attributes of a parameter one after the other; an attribute
that nobody has written is missing. Lists and mappings can be written whole or be
extended, and extending a missing one starts from nothing.
-/

import VectorRequests.Value.Mapping
import VectorRequests.Value.Sequence

namespace VectorRequests.Draft

/-- The value of an attribute that has no default. -/
def required (given : Option Value) : Outcome Value :=
  match given with
  | some v => .ok v
  | none => Error.fail .wrongType

/-- The items of a list attribute. -/
def items : Option Value → List Value
  | some (.list xs) => xs
  | _ => []

/-- The entries of a mapping attribute. -/
def entries : Option Value → List (Value × Value)
  | some (.mapping entries) => entries
  | _ => []

/-- The items of a value as a list. -/
def listOf (v : Value) : Outcome Value := do
  return .list (← v.iterate)

/-- The two items of a pair. -/
def pairOf (v : Value) : Outcome (Value × Value) := do
  match ← v.iterate with
  | [key, value] => return (key, value)
  | _ => Error.fail .badValue

/-- A mapping as it is, or the mapping of a sequence of pairs. -/
def mappingOf : Value → Outcome Value
  | .mapping entries => .ok (.mapping entries)
  | v => do
    let pairs ← v.itemsFor pairOf
    let entries ← pairs.foldlM (fun entries pair => do
      let (key, value) ← pairOf pair
      Value.putEntry entries key value) []
    return .mapping entries

end VectorRequests.Draft
