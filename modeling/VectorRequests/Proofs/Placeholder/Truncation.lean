/-
# Groups that are cut short

A group is written as one field of counted bytes for each placeholder. If its bytes end between
two fields, the placeholders in front are a group of their own, unchanged. If they end anywhere
else, within a length, a tag or a value, they are no group at all.
-/

import VectorRequests.Proofs.Placeholder.Decoding
import VectorRequests.Proofs.Wire.Truncation

namespace VectorRequests.PlaceholderGroup

/-- Whole placeholders and the start of another one are not read. -/
theorem decodeRaw?_of_cutShort {g : PlaceholderGroup} {p : PlaceholderValue} {rest : List UInt8}
    (h : CutShort rest (Wire.encodeBytes 1 p.encode)) (hsome : rest ≠ []) :
    decodeRaw? (g.encode ++ rest) = none := by
  have htail (fuel : Nat) : Wire.readFields? fuel maxDepth rest = none :=
    Wire.readFields?_of_cutShort (by decide) (by decide) h hsome
  rw [decodeRaw?, Wire.read?, encode, List.flatMap_def,
    Wire.readFields?_append (writes_placeholders g.placeholders) htail]
  rfl

/-- The start of the bytes of a group is the bytes of its first placeholders and the start of the
next one, of which nothing may be left. -/
theorem exists_take_of_cutShort {g : PlaceholderGroup} {start : List UInt8}
    (h : CutShort start g.encode) :
    ∃ (k : Nat) (p : PlaceholderValue) (rest : List UInt8), k < g.placeholders.length ∧
      start = encode ⟨g.placeholders.take k⟩ ++ rest ∧
      CutShort rest (Wire.encodeBytes 1 p.encode) := by
  rw [encode, List.flatMap_def] at h
  obtain ⟨before, part, after, rest, hparts, rfl, hrest⟩ := h.of_flatten
  obtain ⟨taken, left, hsplit, rfl, hleft⟩ := List.map_eq_append_iff.mp hparts
  obtain ⟨p, others, rfl, rfl, -⟩ := List.map_eq_cons_iff.mp hleft
  refine ⟨taken.length, p, rest, ?_, ?_, hrest⟩
  · rw [hsplit, List.length_append, List.length_cons]
    omega
  · rw [hsplit, List.take_left, encode, List.flatMap_def]

/-- Bytes of a group that end too early are the bytes of the group's first placeholders, and are
decoded to these, or they are not, and then they are out of order. -/
theorem decode_of_cutShort {g : PlaceholderGroup} {start : List UInt8}
    (hstart : start <+: g.encode) (hproper : start ≠ g.encode) :
    (∃ k < g.placeholders.length, start = encode ⟨g.placeholders.take k⟩ ∧
        decode start = .ok ⟨g.placeholders.take k⟩) ∨
      ((∀ k, start ≠ encode ⟨g.placeholders.take k⟩) ∧
        decode start = .error (.unreadable .malformedGroup .null)) := by
  obtain ⟨k, p, rest, hk, rfl, hrest⟩ := exists_take_of_cutShort ⟨hstart, hproper⟩
  by_cases hnil : rest = []
  · refine .inl ⟨k, hk, ?_, ?_⟩
    · rw [hnil, List.append_nil]
    · rw [hnil, List.append_nil, decode_encode]
  · have hraw := decodeRaw?_of_cutShort (g := ⟨g.placeholders.take k⟩) hrest hnil
    have hmalformed := decode_eq_error_iff.mpr (.inl ⟨hraw, rfl⟩)
    refine .inr ⟨?_, hmalformed⟩
    intro j hsame
    rw [hsame, decode_encode] at hmalformed
    cases hmalformed

/-! ### Two placeholders -/

/-- One vector under the usual tag, and an empty blob under no tag and of no type. -/
def twoPlaceholders : PlaceholderGroup :=
  ⟨[⟨vectorTag, .floatVector, [[0, 0, 128, 63]]⟩, ⟨"", .none, [[]]⟩]⟩

/-- Without the last byte, which is the length of the empty blob, they are no group, although
all of the first placeholder is there. -/
theorem decode_twoPlaceholders_cutShort :
    [10, 12, 10, 2, 36, 48, 16, 101, 26, 4, 0, 0, 128, 63, 10, 2, 26] <+: twoPlaceholders.encode ∧
      [10, 12, 10, 2, 36, 48, 16, 101, 26, 4, 0, 0, 128, 63, 10, 2, 26] ≠ twoPlaceholders.encode ∧
      decode [10, 12, 10, 2, 36, 48, 16, 101, 26, 4, 0, 0, 128, 63, 10, 2, 26] =
        .error (.unreadable .malformedGroup .null) := by
  have hbytes : twoPlaceholders.encode =
      [10, 12, 10, 2, 36, 48, 16, 101, 26, 4, 0, 0, 128, 63, 10, 2, 26, 0] := by
    decide +kernel
  have hstart : [10, 12, 10, 2, 36, 48, 16, 101, 26, 4, 0, 0, 128, 63, 10, 2, 26] <+:
      twoPlaceholders.encode := by
    rw [hbytes]
    exact ⟨[0], rfl⟩
  have hproper : [10, 12, 10, 2, 36, 48, 16, 101, 26, 4, 0, 0, 128, 63, 10, 2, 26] ≠
      twoPlaceholders.encode := by
    rw [hbytes]
    decide
  refine ⟨hstart, hproper, ((decode_of_cutShort hstart hproper).resolve_left ?_).2⟩
  rintro ⟨k, hk, hsame, -⟩
  have hlength : ∀ k < 2, (encode ⟨twoPlaceholders.placeholders.take k⟩).length ≠ 17 := by
    decide +kernel
  exact hlength k hk (congrArg List.length hsame).symm

end VectorRequests.PlaceholderGroup
