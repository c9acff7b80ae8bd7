/-
# Messages that are cut short

Bytes that end too early are missed by every reader: all bytes of a number but the last one say
that another one follows, and counted bytes are fewer than their count. So a message of counted
bytes that is cut short somewhere within a field is not read at all, however many whole fields
stand in front of that one.
-/

import VectorRequests.Proofs.Wire.Fields

namespace VectorRequests

/-! ## Starts of bytes -/

/-- The start of a list that ends before the list does. -/
def CutShort {α : Type} (start xs : List α) : Prop :=
  start <+: xs ∧ start ≠ xs

namespace CutShort

variable {α : Type} {start xs ys : List α}

theorem length_lt (h : CutShort start xs) : start.length < xs.length := by
  obtain ⟨hstart, hne⟩ := h
  refine Nat.lt_of_le_of_ne hstart.length_le fun hlength => hne ?_
  exact hstart.eq_of_length hlength

/-- The start of a list is nothing, or its first item and the start of the others. -/
theorem of_cons {x : α} (h : CutShort start (x :: xs)) :
    start = [] ∨ ∃ rest, start = x :: rest ∧ CutShort rest xs := by
  obtain ⟨hstart, hne⟩ := h
  obtain hnil | ⟨rest, rfl, hrest⟩ := List.prefix_cons_iff.mp hstart
  · exact .inl hnil
  · exact .inr ⟨rest, rfl, hrest, fun hsame => hne (congrArg (x :: ·) hsame)⟩

/-- Two lists one after the other are cut short in the first one or in the second one. -/
theorem of_append (h : CutShort start (xs ++ ys)) :
    CutShort start xs ∨ ∃ rest, start = xs ++ rest ∧ CutShort rest ys := by
  induction xs generalizing start with
  | nil => exact .inr ⟨start, rfl, h⟩
  | cons x xs ih =>
      obtain rfl | ⟨rest, rfl, hrest⟩ := h.of_cons
      · exact .inl ⟨List.nil_prefix, (List.cons_ne_nil x xs).symm⟩
      · obtain hfirst | ⟨tail, rfl, htail⟩ := ih hrest
        · refine .inl ⟨(List.prefix_cons_inj x).mpr hfirst.1, fun hsame => hfirst.2 ?_⟩
          exact (List.cons.inj hsame).2
        · exact .inr ⟨tail, rfl, htail⟩

/-- Parts one after the other are cut short in one of them. -/
theorem of_flatten {parts : List (List α)} (h : CutShort start parts.flatten) :
    ∃ before part after rest, parts = before ++ part :: after ∧
      start = before.flatten ++ rest ∧ CutShort rest part := by
  induction parts generalizing start with
  | nil => exact absurd (List.prefix_nil.mp h.1) h.2
  | cons part parts ih =>
      obtain hfirst | ⟨tail, rfl, htail⟩ := h.of_append
      · exact ⟨[], part, parts, start, rfl, rfl, hfirst⟩
      · obtain ⟨before, found, after, rest, rfl, rfl, hrest⟩ := ih htail
        refine ⟨part :: before, found, after, rest, rfl, ?_, hrest⟩
        rw [List.flatten_cons, List.append_assoc]

end CutShort

/-! ## Numbers -/

namespace Varint

/-- A number is missed without its last byte. -/
theorem readFrom_of_cutShort {limit maxBytes scale low n : Nat} {start : List UInt8}
    (h : CutShort start (encode n)) : readFrom limit maxBytes scale low start = none := by
  induction n using Nat.strongRecOn generalizing maxBytes scale low start with
  | ind n ih =>
      by_cases hsmall : n < 128
      · rw [encode_of_lt hsmall] at h
        obtain rfl | ⟨rest, rfl, hrest⟩ := h.of_cons
        · cases maxBytes <;> rfl
        · exact absurd (List.prefix_nil.mp hrest.1) hrest.2
      · have hlarge : 128 ≤ n := by omega
        rw [encode_of_le hlarge] at h
        obtain rfl | ⟨rest, rfl, hrest⟩ := h.of_cons
        · cases maxBytes <;> rfl
        · cases maxBytes with
          | zero => rfl
          | succ maxBytes =>
              have hbyte : (UInt8.ofNat (128 + n % 128)).toNat = 128 + n % 128 := by
                rw [UInt8.toNat_ofNat']
                omega
              have hmore : ¬ 128 + n % 128 < 128 := by omega
              rw [readFrom, hbyte]
              simp only [if_neg hmore, ih (n / 128) (by omega) hrest, ite_self]

/-- A reader of more bytes and larger numbers reads the same. -/
theorem readFrom_mono {limit most maxBytes moreBytes scale low : Nat} {bs : List UInt8}
    {found : Nat × List UInt8} (hlimit : limit ≤ most) (hbytes : maxBytes ≤ moreBytes)
    (h : readFrom limit maxBytes scale low bs = some found) :
    readFrom most moreBytes scale low bs = some found := by
  induction maxBytes generalizing moreBytes scale low bs with
  | zero => cases h
  | succ maxBytes ih =>
      cases bs with
      | nil => cases h
      | cons b bs =>
          obtain ⟨moreBytes, rfl⟩ : ∃ m, moreBytes = m + 1 := ⟨moreBytes - 1, by omega⟩
          rw [readFrom] at h ⊢
          by_cases hover : limit < low + b.toNat % 128 * scale
          · simp only [if_pos hover] at h
            cases h
          · have hroom : ¬ most < low + b.toNat % 128 * scale := by omega
            simp only [if_neg hover] at h
            simp only [if_neg hroom]
            by_cases hlast : b.toNat < 128
            · rwa [if_pos hlast] at h ⊢
            · rw [if_neg hlast] at h ⊢
              exact ih (Nat.le_of_succ_le_succ hbytes) h

/-- What is read of the bytes of a number, if anything is, is the number. -/
theorem of_readFrom_encode {limit maxBytes n m : Nat} {rest after : List UInt8}
    (h : readFrom limit maxBytes 1 0 (encode n ++ rest) = some (m, after)) :
    m = n ∧ after = rest := by
  have hmore := readFrom_mono (Nat.le_max_left limit n)
    (Nat.le_max_left maxBytes (encode n).length) h
  rw [readFrom_start rest (Nat.le_max_right limit n) (Nat.le_max_right _ _)] at hmore
  cases hmore
  exact ⟨rfl, rfl⟩

end Varint

/-! ## Fields -/

namespace Wire

theorem readTag?_of_cutShort {number form : Nat} {start : List UInt8}
    (h : CutShort start (encodeTag number form)) : readTag? start = none := by
  rw [readTag?, Varint.read32?, Varint.readFrom_of_cutShort h]
  rfl

/-- Counted bytes are missed if some of them, or some of their count, are missing. -/
theorem readCounted?_of_cutShort {bs start : List UInt8}
    (h : CutShort start (Varint.encode bs.length ++ bs)) : readCounted? start = none := by
  obtain hcount | ⟨rest, rfl, hrest⟩ := h.of_append
  · rw [readCounted?, Varint.readCount?, Varint.readFrom_of_cutShort hcount]
    rfl
  · rw [readCounted?]
    cases hread : Varint.readCount? (Varint.encode bs.length ++ rest) with
    | none => rfl
    | some found =>
        obtain ⟨count, after⟩ := found
        obtain ⟨rfl, rfl⟩ := Varint.of_readFrom_encode hread
        exact if_neg (Nat.not_le.mpr hrest.length_lt)

/-- No fields are read of a field of counted bytes that is cut short, unless nothing is left. -/
theorem readFields?_of_cutShort {number fuel depth : Nat} {bs start : List UInt8}
    (hnumber : 0 < number) (hsize : number < 2 ^ 29) (h : CutShort start (encodeBytes number bs))
    (hsome : start ≠ []) : readFields? fuel depth start = none := by
  cases fuel with
  | zero =>
      cases start with
      | nil => exact absurd rfl hsome
      | cons => rfl
  | succ fuel =>
      rw [readFields?_succ hsome]
      rw [encodeBytes, List.append_assoc] at h
      obtain htag | ⟨rest, rfl, hrest⟩ := h.of_append
      · rw [readTag?_of_cutShort htag]
        rfl
      · rw [readTag?_encodeTag hnumber (by omega) (by omega)]
        simp only [Option.bind_eq_bind, Option.bind_some]
        rw [readValue?, readCounted?_of_cutShort hrest]
        rfl

/-- Fields are not read if what follows them is not. -/
theorem readFields?_append {depth fuel : Nat} {parts : List (List UInt8)} {fields : List Field}
    {rest : List UInt8} (h : List.Forall₂ Writes parts fields)
    (hrest : ∀ fuel, readFields? fuel depth rest = none) :
    readFields? fuel depth (parts.flatten ++ rest) = none := by
  induction h generalizing fuel with
  | nil => exact hrest fuel
  | @cons part field parts fields hhead _ ih =>
      have hsome : part ++ (parts.flatten ++ rest) ≠ [] :=
        List.append_ne_nil_of_left_ne_nil hhead.nonempty _
      rw [List.flatten_cons, List.append_assoc]
      cases fuel with
      | zero =>
          cases hall : part ++ (parts.flatten ++ rest) with
          | nil => exact absurd hall hsome
          | cons => rfl
      | succ fuel =>
          obtain ⟨form, value, htag, hvalue⟩ := hhead.reads (parts.flatten ++ rest)
          rw [readFields?_succ hsome, htag]
          simp only [Option.bind_eq_bind, Option.bind_some, hvalue, ih]
          rfl

end Wire

end VectorRequests
