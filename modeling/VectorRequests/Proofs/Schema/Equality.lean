/-
# Equality of field types

Two mappings of texts are equal if they have the same entries, in whatever order. So the
parameters of a field type equal those of another one exactly if either are the other in some
order, and asking never fails.

A field type and the one that is made of its schema share everything but the parameters, which
each of them holds in a mapping of its own. They are equal, and so are the field types of a
collection whose schema was made of field types.
-/

import VectorRequests.Proofs.Schema.Conversion
import Mathlib.Data.List.Perm.Subperm

namespace VectorRequests

namespace Value

variable {entries others : List (String × String)}

/-- Texts are found by what they are. -/
theorem findM?_textEntry (name : String) (entries : List (String × String)) :
    (entries.map textEntry).findM? (fun entry =>
        if (text name).sharesKey entry.1 then equal (.text name) entry.1 else .ok false) =
      .ok ((entries.find? (name == ·.1)).map textEntry) := by
  induction entries with
  | nil => rfl
  | cons entry rest ih =>
      rw [List.map_cons, List.findM?, textEntry, equal_text]
      -- Texts that are not equal may still be stored alike, and then are compared in vain.
      by_cases hname : name = entry.1
      · subst hname
        simp [sharesKey, key?, Key.ofText, Key.equal, textEntry]
      · have hmiss : (name == entry.1) = false := beq_eq_false_iff_ne.mpr hname
        rw [List.find?_cons, hmiss, ite_self, Outcome.ok_bind, ← ih]

/-- Every entry is looked for among entries with distinct names, and is there or not. -/
theorem entriesIn_textEntry (hnodup : (others.map Prod.fst).Nodup) :
    entriesIn (entries.map textEntry) (others.map textEntry) =
      .ok (decide (entries ⊆ others)) := by
  induction entries with
  | nil => simp [entriesIn]
  | cons entry rest ih =>
      rw [List.map_cons, textEntry, entriesIn, findM?_textEntry, Outcome.ok_bind]
      cases hfind : others.find? (entry.1 == ·.1) with
      | none =>
          have hmissing : entry ∉ others := by
            intro hmem
            simpa using List.find?_eq_none.mp hfind entry hmem
          simp [hmissing]
      | some other =>
          have hname : entry.1 = other.1 := beq_iff_eq.mp (List.find?_some hfind :)
          have hother := List.mem_of_find?_eq_some hfind
          have hmem : entry ∈ others ↔ entry.2 = other.2 := by
            constructor
            · intro hentry
              rw [List.inj_on_of_nodup_map hnodup hentry hother hname]
            · intro hvalue
              rwa [Prod.ext hname hvalue]
          rw [Option.map_some, textEntry]
          dsimp only
          rw [equal_text, Outcome.ok_bind, ih]
          by_cases hvalue : entry.2 = other.2
          · simp [hvalue, hmem]
          · simp [hvalue, hmem]

end Value

namespace TypeParams

/-- Parameters are equal in any order. -/
theorem equal_toValue (params others : TypeParams) :
    Value.equal params.toValue others.toValue =
      .ok (decide (params.entries.Perm others.entries)) := by
  have hparams : params.entries.Nodup := params.names_nodup.of_map _
  show Value.equal (.mapping (params.entries.map Value.textEntry))
    (.mapping (others.entries.map Value.textEntry)) = _
  rw [Value.equal, List.length_map, List.length_map,
    Value.entriesIn_textEntry others.names_nodup]
  by_cases hlength : params.entries.length = others.entries.length
  · rw [if_pos hlength]
    congr 2
    rw [eq_iff_iff]
    constructor
    · intro hsubset
      exact (List.subperm_of_subset hparams hsubset).perm_of_length_le (Nat.le_of_eq hlength.symm)
    · exact List.Perm.subset
  · rw [if_neg hlength]
    have hperm : ¬ params.entries.Perm others.entries := fun h => hlength h.length_eq
    simp [hperm]

end TypeParams

namespace FieldType

/-- A field type equals the one made of its schema. -/
theorem survivesSchema_eq_ok (t : FieldType) : t.survivesSchema = .ok true := by
  have hparams : Value.equal t.typeParams.toValue t.typeParams.toValue = .ok true := by
    simp [TypeParams.equal_toValue]
  -- All attributes but the parameters are the very same values, which are not compared.
  rw [survivesSchema, ofSchema_toSchema, Outcome.ok_bind, toValue, Value.equalSharing, if_pos rfl]
  have hplain : RecordKind.fieldType.holdsPayload "type_params" = false := rfl
  apply Value.attributesEqual_self
  simpa [hplain] using hparams

/-- A field type comes back from its schema as it was, with its parameters in their order, its
dimension and the key it is looked up by, and it equals the one that comes back. The field types of
a collection come back in their order. -/
theorem comes_back_from_schema (t : FieldType) (ts : List FieldType) (c : CollectionSchema) :
    ofSchema t.toSchema = .ok t ∧ t.survivesSchema = .ok true ∧
      ofCollection { c with fields := ts.map toSchema } = .ok ts := by
  refine ⟨ofSchema_toSchema t, survivesSchema_eq_ok t, ?_⟩
  rw [ofCollection, Outcome.mapM_eq_ok_iff, List.forall₂_map_left_iff]
  exact List.forall₂_same.mpr fun t _ => ofSchema_toSchema t

end FieldType

end VectorRequests
