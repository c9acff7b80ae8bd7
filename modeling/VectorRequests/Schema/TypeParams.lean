/-
# Parameters of a field type

Parameters are texts with distinct names, kept in the order in which the names
first came; a later value for a name takes the place of the earlier one. The
parameter `dim` is the dimension of a vector field.
-/

import VectorRequests.Schema.FieldSchema
import VectorRequests.Text.Integer
import VectorRequests.Value.Mapping
import VectorRequests.Value.Written

namespace VectorRequests

open VectorRequests.Text

/-- Texts with distinct names. -/
structure TypeParams where
  entries : List (String × String)
  names_nodup : (entries.map (·.1)).Nodup

namespace TypeParams

/-- The name of the dimension. -/
def dimName : String := "dim"

/-- No parameters. -/
def empty : TypeParams := ⟨[], by simp⟩

/-- The entries with a value for a name: in its old place if it was there, and
otherwise at the end. -/
def putEntry (name value : String) : List (String × String) → List (String × String)
  | [] => [(name, value)]
  | entry :: rest =>
    if entry.1 = name then (name, value) :: rest else entry :: putEntry name value rest

theorem mem_names_putEntry {entries : List (String × String)} {name value n : String}
    (h : n ∈ (putEntry name value entries).map (·.1)) :
    n = name ∨ n ∈ entries.map (·.1) := by
  induction entries with
  | nil => simpa [putEntry] using h
  | cons entry rest ih =>
    unfold putEntry at h
    split at h
    · simp only [List.map_cons, List.mem_cons] at h ⊢
      exact h.imp_right .inr
    · simp only [List.map_cons, List.mem_cons] at h ⊢
      rcases h with h | h
      · exact .inr (.inl h)
      · exact (ih h).imp_right .inr

theorem nodup_putEntry {entries : List (String × String)}
    (h : (entries.map (·.1)).Nodup) (name value : String) :
    ((putEntry name value entries).map (·.1)).Nodup := by
  induction entries with
  | nil => simp [putEntry]
  | cons entry rest ih =>
    simp only [List.map_cons, List.nodup_cons] at h
    unfold putEntry
    split
    · rename_i heq
      simpa [← heq] using h
    · rename_i hne
      simp only [List.map_cons, List.nodup_cons]
      refine ⟨fun hmem => ?_, ih h.2⟩
      exact (mem_names_putEntry hmem).elim hne h.1

/-- The parameters with a value for a name. -/
def put (params : TypeParams) (name value : String) : TypeParams :=
  ⟨putEntry name value params.entries, nodup_putEntry params.names_nodup name value⟩

/-- The parameters given one after the other. -/
def ofPairs (pairs : List (String × String)) : TypeParams :=
  pairs.foldl (fun params pair => params.put pair.1 pair.2) empty

/-- The value of a name. -/
def get? (params : TypeParams) (name : String) : Option String :=
  params.entries.lookup name

/-- The texts of the key and the value of an entry. -/
def pairOf (entry : Value × Value) : Outcome (String × String) := do
  return (← entry.1.plainText, ← entry.2.plainText)

/-- The parameters that a value gives: nothing, or a mapping, whose keys and values
are written as texts. -/
def ofValue (v : Value) : Outcome TypeParams := do
  if ← v.truth then
    match v with
    | .mapping entries => return ofPairs (← entries.mapM pairOf)
    | _ => Error.fail .missingAttribute
  else
    return empty

/-- The parameters as a value. -/
def toValue (params : TypeParams) : Value :=
  .mapping (params.entries.map fun entry => (.text entry.1, .text entry.2))

/-- The parameters as pairs on the wire. -/
def toPairs (params : TypeParams) : List KeyValuePair :=
  params.entries.map KeyValuePair.ofTexts

/-- The dimension, if it is given and reads as an integer. -/
def dimension? (params : TypeParams) : Option Int :=
  (params.get? dimName).bind Integer.read?

/-- Whether the parameters give a positive dimension. -/
def HasDimension (params : TypeParams) : Prop :=
  ∃ n, params.dimension? = some n ∧ 0 < n

end TypeParams

end VectorRequests
