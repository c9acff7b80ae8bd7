/-
# What decoding a group gives

Bytes that are in order hold placeholders whose types may be any numbers. They are a group
exactly if every number stands for a type, and then the group says the same as they do. So a
group that is decoded can be written again, in a form of its own, and that form holds the same
group. The first number that stands for no type is reported.

A group also equals, as a record, the group that is read back from its bytes.
-/

import VectorRequests.Placeholder.Unchecked
import VectorRequests.Proofs.Placeholder.Group
import VectorRequests.Proofs.Value.Equality
import Mathlib.Data.Set.List

namespace VectorRequests

/-! ## Records of groups -/

namespace PlaceholderValue

theorem equal_toValue (p : PlaceholderValue) : Value.equal p.toValue p.toValue = .ok true := by
  have hvalues : Value.equal (.tuple (p.values.map .bytes)) (.tuple (p.values.map .bytes)) =
      .ok true := by
    apply Value.equal_tuple_self
    intro v hv
    obtain ⟨bs, -, rfl⟩ := List.mem_map.mp hv
    exact Value.equal_bytes bs
  apply Value.equal_record_self
  simp only [List.forall_mem_cons]
  exact ⟨⟨rfl, Value.equal_text_self p.tag⟩, ⟨rfl, Value.equal_placeholderType p.type⟩,
    ⟨rfl, hvalues⟩, nofun⟩

/-- A placeholder is the placeholder that its record is. -/
theorem ofValue?_toValue (p : PlaceholderValue) : ofValue? p.toValue = some p := by
  have hvalues : (p.values.map Value.bytes).mapM Value.toBytes = .ok p.values := by
    rw [Outcome.mapM_eq_ok_iff, List.forall₂_map_left_iff]
    exact List.forall₂_same.mpr fun bs _ => rfl
  have hparts : ofValues p.tag p.type (.tuple (p.values.map .bytes)) = .ok p :=
    Outcome.bind_eq_ok.mpr ⟨_, rfl, Outcome.bind_eq_ok.mpr ⟨p.values, hvalues, rfl⟩⟩
  rw [toValue, ofValue?, hparts]
  rfl

end PlaceholderValue

namespace PlaceholderGroup

theorem equal_toValue (g : PlaceholderGroup) : Value.equal g.toValue g.toValue = .ok true := by
  apply Value.equal_record_self
  rw [List.forall_mem_singleton]
  refine ⟨rfl, Value.equal_tuple_self ?_⟩
  intro v hv
  obtain ⟨p, -, rfl⟩ := List.mem_map.mp hv
  exact p.equal_toValue

theorem ofValue?_toValue (g : PlaceholderGroup) : ofValue? g.toValue = some g := by
  have hplaceholders : (g.placeholders.map PlaceholderValue.toValue).mapM
      PlaceholderValue.ofValue? = some g.placeholders := by
    generalize g.placeholders = ps
    induction ps with
    | nil => rfl
    | cons p ps ih =>
        rw [List.map_cons, List.mapM_cons, p.ofValue?_toValue, ih]
        rfl
  rw [toValue, ofValue?, hplaceholders]
  rfl

/-- The record of a group is written as the group. -/
theorem encode_toValue (g : PlaceholderGroup) : Unchecked.encode g.toValue = .ok g.encode := by
  unfold Unchecked.encode
  rw [ofValue?_toValue]

/-- A group equals the group that is read back from its bytes. -/
theorem survivesWire_toValue (g : PlaceholderGroup) :
    Unchecked.survivesWire g.toValue = .ok true := by
  rw [Unchecked.survivesWire, encode_toValue, Outcome.ok_bind, decode_encode, Outcome.ok_bind,
    g.equal_toValue]

end PlaceholderGroup

/-! ## Placeholders of any numbers -/

/-- A number stands for a type exactly if it is the code of the type. -/
theorem PlaceholderType.ofCode?_eq_some_iff {i : Int} {t : PlaceholderType} :
    ofCode? i = some t ↔ i = t.code := by
  constructor
  · intro h
    have hcode := List.find?_some h
    exact (beq_iff_eq.mp hcode).symm
  · rintro rfl
    exact ofCode?_code t

namespace PlaceholderValue

/-- The placeholder with the number that stands for its type. -/
def toRaw (p : PlaceholderValue) : Raw :=
  ⟨p.tag, p.type.code, p.values⟩

/-- A placeholder of any number is resolved to the one that differs only in how its type is
said. -/
theorem resolve_eq_ok_iff {r : Raw} {p : PlaceholderValue} : r.resolve = .ok p ↔ r = p.toRaw := by
  obtain ⟨tag, code, values⟩ := r
  constructor
  · intro h
    rw [Raw.resolve] at h
    cases htype : PlaceholderType.ofCode? code with
    | none => rw [htype] at h; cases h
    | some type =>
        rw [htype] at h
        cases h
        rw [toRaw, PlaceholderType.ofCode?_eq_some_iff.mp htype]
  · intro h
    rw [h]
    exact resolve_code p

theorem resolve_eq_error_iff {r : Raw} {e : Error} :
    r.resolve = .error e ↔
      PlaceholderType.ofCode? r.code = none ∧
        e = .unreadable (.unknownPlaceholderType r.code) .null := by
  rw [Raw.resolve]
  cases PlaceholderType.ofCode? r.code with
  | none => simp [eq_comm]
  | some type => simp

end PlaceholderValue

namespace PlaceholderGroup

open PlaceholderValue (Raw)

theorem decode_of_decodeRaw? {bs : List UInt8} {raws : List Raw} (h : decodeRaw? bs = some raws) :
    decode bs = (raws.mapM Raw.resolve).map PlaceholderGroup.mk := by
  rw [decode, h]
  cases hwalk : raws.mapM Raw.resolve with
  | ok ps => simp [hwalk, Except.map]
  | error e => simp only [hwalk]; rfl

/-- Bytes are decoded to the group that says what they hold. -/
theorem decode_eq_ok_iff {bs : List UInt8} {g : PlaceholderGroup} :
    decode bs = .ok g ↔ decodeRaw? bs = some (g.placeholders.map PlaceholderValue.toRaw) := by
  cases hraw : decodeRaw? bs with
  | none => simp [decode, hraw]
  | some raws =>
      have hwalk : raws.mapM Raw.resolve = .ok g.placeholders ↔
          raws = g.placeholders.map PlaceholderValue.toRaw := by
        simp only [Outcome.mapM_eq_ok_iff, PlaceholderValue.resolve_eq_ok_iff]
        rw [← List.forall₂_map_right_iff (R := Eq), List.forall₂_eq_eq_eq]
      obtain ⟨placeholders⟩ := g
      rw [decode_of_decodeRaw? hraw, Option.some_inj, ← hwalk]
      cases raws.mapM Raw.resolve <;> simp [Except.map]

/-- Bytes are no group either if they are out of order or if the number of a type is unknown,
and then the first unknown one is reported. -/
theorem decode_eq_error_iff {bs : List UInt8} {e : Error} :
    decode bs = .error e ↔
      (decodeRaw? bs = none ∧ e = .unreadable .malformedGroup .null) ∨
        ∃ (known : List PlaceholderValue) (r : Raw) (rest : List Raw),
          decodeRaw? bs = some (known.map PlaceholderValue.toRaw ++ r :: rest) ∧
            PlaceholderType.ofCode? r.code = none ∧
              e = .unreadable (.unknownPlaceholderType r.code) .null := by
  cases hraw : decodeRaw? bs with
  | none => simp [decode, hraw, eq_comm]
  | some raws =>
      have hwalk : decode bs = .error e ↔ raws.mapM Raw.resolve = .error e := by
        rw [decode_of_decodeRaw? hraw]
        cases raws.mapM Raw.resolve <;> simp [Except.map]
      simp only [reduceCtorEq, false_and, false_or, Option.some_inj]
      rw [hwalk, Outcome.mapM_eq_error_iff]
      constructor
      · rintro ⟨before, r, rest, rfl, hbefore, hr⟩
        have hknown : before ∈ Set.range (List.map PlaceholderValue.toRaw) := by
          rw [Set.range_list_map]
          intro s hs
          obtain ⟨p, hp⟩ := hbefore s hs
          exact ⟨p, (PlaceholderValue.resolve_eq_ok_iff.mp hp).symm⟩
        obtain ⟨known, rfl⟩ := hknown
        exact ⟨known, r, rest, rfl, PlaceholderValue.resolve_eq_error_iff.mp hr⟩
      · rintro ⟨known, r, rest, rfl, hunknown⟩
        refine ⟨_, r, rest, rfl, ?_, PlaceholderValue.resolve_eq_error_iff.mpr hunknown⟩
        intro s hs
        obtain ⟨p, -, rfl⟩ := List.mem_map.mp hs
        exact ⟨p, p.resolve_code⟩

/-- Every group is read back from its bytes, and equals what is read back. Any other bytes are
either refused as a response, because they are out of order or because the number of a type is
unknown, or they are a group that says what they hold: all its types are known, and it is read
back from the bytes that are written for it. -/
theorem encoding_lossless :
    (∀ g : PlaceholderGroup,
      decode g.encode = .ok g ∧ Unchecked.survivesWire g.toValue = .ok true) ∧
      ∀ bs : List UInt8,
        (decodeRaw? bs = none ∧ decode bs = .error (.unreadable .malformedGroup .null)) ∨
          (∃ (known : List PlaceholderValue) (r : Raw) (rest : List Raw),
            decodeRaw? bs = some (known.map PlaceholderValue.toRaw ++ r :: rest) ∧
              PlaceholderType.ofCode? r.code = none ∧
              decode bs = .error (.unreadable (.unknownPlaceholderType r.code) .null)) ∨
          ∃ g : PlaceholderGroup, decode bs = .ok g ∧
            decodeRaw? bs = some (g.placeholders.map PlaceholderValue.toRaw) ∧
            decode g.encode = decode bs := by
  refine ⟨fun g => ⟨decode_encode g, survivesWire_toValue g⟩, fun bs => ?_⟩
  cases hdecode : decode bs with
  | ok g => exact .inr (.inr ⟨g, rfl, decode_eq_ok_iff.mp hdecode, decode_encode g⟩)
  | error e =>
      obtain ⟨hmalformed, rfl⟩ | ⟨known, r, rest, hraw, hcode, rfl⟩ :=
        decode_eq_error_iff.mp hdecode
      · exact .inl ⟨hmalformed, rfl⟩
      · exact .inr (.inl ⟨known, r, rest, hraw, hcode, rfl⟩)

end PlaceholderGroup

end VectorRequests
