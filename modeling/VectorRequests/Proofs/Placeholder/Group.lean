/-
# Placeholder groups are read back

A placeholder is a message of its tag, its type and its values, and a group is a message of its
placeholders. Each is read back field by field. What is not written, an empty tag or the type
with number zero, is what a reader starts from.
-/

import VectorRequests.Placeholder.Group
import VectorRequests.Proofs.Outcome
import VectorRequests.Proofs.Text.Utf8
import VectorRequests.Proofs.Wire.Fields

namespace VectorRequests

open VectorRequests.Text

namespace PlaceholderValue

/-- The parts that a placeholder is written in. -/
def parts (p : PlaceholderValue) : List (List UInt8) :=
  (if p.tag.isEmpty then [] else [Wire.encodeBytes 1 (Utf8.encode p.tag)]) ++
    (if p.type.code = 0 then [] else [Wire.encodeNumber 2 p.type.code]) ++
    p.values.map (Wire.encodeBytes 3)

/-- The fields that the parts of a placeholder are read back as. -/
def fields (p : PlaceholderValue) : List Wire.Field :=
  (if p.tag.isEmpty then [] else [⟨1, .bytes (Utf8.encode p.tag)⟩]) ++
    (if p.type.code = 0 then [] else [⟨2, .varint p.type.code⟩]) ++
    p.values.map fun bs => ⟨3, .bytes bs⟩

theorem flatten_parts (p : PlaceholderValue) : p.parts.flatten = p.encode := by
  unfold parts encode
  rw [List.flatten_append, List.flatten_append, List.flatMap_def]
  congr 2
  · split <;> simp
  · split <;> simp

theorem code_lt (t : PlaceholderType) : t.code < 2 ^ 64 := by
  cases t <;> decide

theorem writes_parts (p : PlaceholderValue) : List.Forall₂ Wire.Writes p.parts p.fields := by
  unfold parts fields
  refine List.rel_append (List.rel_append ?_ ?_) ?_
  · split
    · exact .nil
    · exact .cons (Wire.writes_bytes (by decide) (by decide) _) .nil
  · split
    · exact .nil
    · exact .cons (Wire.writes_number (by decide) (by decide) (code_lt _)) .nil
  · rw [List.forall₂_map_left_iff, List.forall₂_map_right_iff]
    exact List.forall₂_same.mpr fun bs _ => Wire.writes_bytes (by decide) (by decide) bs

theorem typeCode_code (t : PlaceholderType) : typeCode t.code = t.code := by
  cases t <;> rfl

/-- Values are added one after the other. -/
theorem foldlM_add_values (r : Raw) (values : List (List UInt8)) :
    (values.map fun bs => (⟨3, .bytes bs⟩ : Wire.Field)).foldlM Raw.add r =
      some { r with values := r.values ++ values } := by
  induction values generalizing r with
  | nil => simp
  | cons bs values ih =>
      rw [List.map_cons, List.foldlM_cons]
      show (values.map fun bs => (⟨3, .bytes bs⟩ : Wire.Field)).foldlM Raw.add
        { r with values := r.values ++ [bs] } = _
      rw [ih, List.append_assoc]
      rfl

theorem add_tag (r : Raw) (tag : String) :
    Raw.add r ⟨1, .bytes (Utf8.encode tag)⟩ = some { r with tag := tag } := by
  show (Utf8.decode? (Utf8.encode tag)).map (fun tag => { r with tag := tag }) = _
  rw [Utf8.decode?_encode]
  rfl

theorem add_type (r : Raw) (t : PlaceholderType) :
    Raw.add r ⟨2, .varint t.code⟩ = some { r with code := t.code } := by
  show some { r with code := typeCode t.code } = _
  rw [typeCode_code]

/-- The fields of a placeholder give the placeholder again. -/
theorem foldlM_add_fields (p : PlaceholderValue) :
    p.fields.foldlM Raw.add ⟨"", 0, []⟩ = some ⟨p.tag, p.type.code, p.values⟩ := by
  have htag : (if p.tag.isEmpty then [] else
      [(⟨1, .bytes (Utf8.encode p.tag)⟩ : Wire.Field)]).foldlM Raw.add ⟨"", 0, []⟩ =
        some ⟨p.tag, 0, []⟩ := by
    by_cases hempty : p.tag.isEmpty = true
    · rw [if_pos hempty, String.isEmpty_iff.mp hempty]
      rfl
    · rw [if_neg hempty, List.foldlM_cons, add_tag]
      rfl
  have htype : (if p.type.code = 0 then [] else
      [(⟨2, .varint p.type.code⟩ : Wire.Field)]).foldlM Raw.add ⟨p.tag, 0, []⟩ =
        some ⟨p.tag, p.type.code, []⟩ := by
    by_cases hzero : p.type.code = 0
    · rw [if_pos hzero, hzero]
      rfl
    · rw [if_neg hzero, List.foldlM_cons, add_type]
      rfl
  rw [fields, List.foldlM_append, List.foldlM_append, htag]
  simp only [Option.bind_eq_bind, Option.bind_some]
  rw [htype]
  simp only [Option.bind_some]
  rw [foldlM_add_values]
  rfl

/-- A placeholder is read back from its bytes. -/
theorem decode?_encode (p : PlaceholderValue) (depth : Nat) :
    Raw.decode? depth p.encode = some ⟨p.tag, p.type.code, p.values⟩ := by
  rw [Raw.decode?, ← flatten_parts, Wire.read?_flatten (writes_parts p)]
  exact foldlM_add_fields p

theorem resolve_code (p : PlaceholderValue) :
    Raw.resolve ⟨p.tag, p.type.code, p.values⟩ = .ok p := by
  rw [Raw.resolve, PlaceholderType.ofCode?_code]

end PlaceholderValue

namespace PlaceholderGroup

theorem mapM_decode? (ps : List PlaceholderValue) (depth : Nat) :
    (ps.map PlaceholderValue.encode).mapM (PlaceholderValue.Raw.decode? depth) =
      some (ps.map fun p => ⟨p.tag, p.type.code, p.values⟩) := by
  induction ps with
  | nil => rfl
  | cons p ps ih =>
      rw [List.map_cons, List.mapM_cons, PlaceholderValue.decode?_encode, ih]
      rfl

/-- The fields of placeholders, each of which is read back. -/
theorem writes_placeholders (ps : List PlaceholderValue) :
    List.Forall₂ Wire.Writes (ps.map fun p => Wire.encodeBytes 1 p.encode)
      (ps.map fun p => ⟨1, .bytes p.encode⟩) := by
  rw [List.forall₂_map_left_iff, List.forall₂_map_right_iff]
  exact List.forall₂_same.mpr fun p _ => Wire.writes_bytes (by decide) (by decide) p.encode

theorem decodeRaw?_encode (g : PlaceholderGroup) :
    decodeRaw? g.encode =
      some (g.placeholders.map fun p => ⟨p.tag, p.type.code, p.values⟩) := by
  have hfields : Wire.read? maxDepth g.encode =
      some (g.placeholders.map fun p => ⟨1, .bytes p.encode⟩) := by
    rw [encode, List.flatMap_def]
    exact Wire.read?_flatten (writes_placeholders g.placeholders) maxDepth
  have hheld : (g.placeholders.map fun p => (⟨1, .bytes p.encode⟩ : Wire.Field)).filterMap
      placeholder? = g.placeholders.map PlaceholderValue.encode := by
    rw [List.filterMap_map, ← List.filterMap_eq_map]
    rfl
  rw [decodeRaw?, hfields]
  simp only [Option.bind_eq_bind, Option.bind_some]
  rw [hheld]
  exact mapM_decode? g.placeholders (maxDepth - 1)

/-- A group of placeholders is read back from its bytes, whatever it holds. -/
theorem decode_encode (g : PlaceholderGroup) : decode g.encode = .ok g := by
  have hresolve : (g.placeholders.map fun p => ⟨p.tag, p.type.code, p.values⟩).mapM
      PlaceholderValue.Raw.resolve = .ok g.placeholders := by
    rw [Outcome.mapM_eq_ok_iff, List.forall₂_map_left_iff]
    exact List.forall₂_same.mpr fun p _ => PlaceholderValue.resolve_code p
  rw [decode, decodeRaw?_encode]
  exact Outcome.bind_eq_ok.mpr ⟨g.placeholders, hresolve, rfl⟩

end PlaceholderGroup

end VectorRequests
