/-
# Texts are read back from UTF-8

The first byte of a character says how many follow it, and the bits of all of them give the
number of the character again.
-/

import VectorRequests.Text.Utf8

namespace VectorRequests.Text.Utf8

/-! ## Characters by the count of their bytes -/

section

variable {a b b' b'' : UInt8} {n n' n'' : Nat} {c : Char} (rest : List UInt8)

theorem decodeChars_one (ha : a.toNat < 0x80) :
    decodeChars (a :: rest) = (decodeChars rest).map (Char.ofNat a.toNat :: ·) := by
  rw [decodeChars.eq_def]
  simp only [if_pos ha]
  cases decodeChars rest <;> rfl

theorem decodeChars_two (hlow : 0xC0 ≤ a.toNat) (hhigh : a.toNat < 0xE0)
    (hb : continuation? b = some n) (hc : char? 0x80 ((a.toNat - 0xC0) * 64 + n) = some c) :
    decodeChars (a :: b :: rest) = (decodeChars rest).map (c :: ·) := by
  have hone : ¬ a.toNat < 0x80 := by omega
  have hcontinued : ¬ a.toNat < 0xC0 := by omega
  rw [decodeChars.eq_def]
  simp only [if_neg hone, if_neg hcontinued, if_pos hhigh, hb, hc, Option.bind_eq_bind,
    Option.bind_some]
  cases decodeChars rest <;> rfl

theorem decodeChars_three (hlow : 0xE0 ≤ a.toNat) (hhigh : a.toNat < 0xF0)
    (hb : continuation? b = some n) (hb' : continuation? b' = some n')
    (hc : char? 0x800 ((a.toNat - 0xE0) * 4096 + n * 64 + n') = some c) :
    decodeChars (a :: b :: b' :: rest) = (decodeChars rest).map (c :: ·) := by
  have hone : ¬ a.toNat < 0x80 := by omega
  have hcontinued : ¬ a.toNat < 0xC0 := by omega
  have htwo : ¬ a.toNat < 0xE0 := by omega
  rw [decodeChars.eq_def]
  simp only [if_neg hone, if_neg hcontinued, if_neg htwo, if_pos hhigh, hb, hb', hc,
    Option.bind_eq_bind, Option.bind_some]
  cases decodeChars rest <;> rfl

theorem decodeChars_four (hlow : 0xF0 ≤ a.toNat) (hhigh : a.toNat < 0xF8)
    (hb : continuation? b = some n) (hb' : continuation? b' = some n')
    (hb'' : continuation? b'' = some n'')
    (hc : char? 0x10000 ((a.toNat - 0xF0) * 262144 + n * 4096 + n' * 64 + n'') = some c) :
    decodeChars (a :: b :: b' :: b'' :: rest) = (decodeChars rest).map (c :: ·) := by
  have hone : ¬ a.toNat < 0x80 := by omega
  have hcontinued : ¬ a.toNat < 0xC0 := by omega
  have htwo : ¬ a.toNat < 0xE0 := by omega
  have hthree : ¬ a.toNat < 0xF0 := by omega
  rw [decodeChars.eq_def]
  simp only [if_neg hone, if_neg hcontinued, if_neg htwo, if_neg hthree, if_pos hhigh]
  -- one bind at a time: a definitional step over all of them makes the kernel compare numbers
  rw [hb, hb', hb'', Option.bind_eq_bind, Option.bind_some, Option.bind_eq_bind,
    Option.bind_some, Option.bind_eq_bind, Option.bind_some, hc]
  cases decodeChars rest <;> rfl

end

/-! ## Characters as they are written -/

/-- A continuation byte gives its six bits again. -/
theorem continuation?_ofNat {n : Nat} (h : n < 64) :
    continuation? (UInt8.ofNat (0x80 + n)) = some n := by
  have hbyte : (UInt8.ofNat (0x80 + n)).toNat = 0x80 + n := by
    rw [UInt8.toNat_ofNat']
    omega
  have hrange : 0x80 ≤ 0x80 + n ∧ 0x80 + n < 0xC0 := by omega
  rw [continuation?, hbyte, if_pos hrange, Nat.add_sub_cancel_left]

/-- The number of a character finds the character. -/
theorem char?_eq_some {c : Char} {least n : Nat} (hn : n = c.toNat) (h : least ≤ n) :
    char? least n = some c := by
  have hvalid : n.isValidChar := by
    rw [hn]
    exact c.valid
  rw [char?, if_pos ⟨h, hvalid⟩, hn, Char.ofNat_toNat]

theorem toNat_lt (c : Char) : c.toNat < 0x110000 := by
  have hvalid : c.toNat.isValidChar := c.valid
  unfold Nat.isValidChar at hvalid
  omega

/-- A character is read back from its bytes. -/
theorem decodeChars_encodeChar (c : Char) (rest : List UInt8) :
    decodeChars (encodeChar c ++ rest) = (decodeChars rest).map (c :: ·) := by
  have hmax := toNat_lt c
  have hlast := continuation?_ofNat (n := c.toNat % 64) (by omega)
  unfold encodeChar
  by_cases hone : c.toNat < 0x80
  · have hbyte : (UInt8.ofNat c.toNat).toNat = c.toNat := by
      rw [UInt8.toNat_ofNat']
      omega
    simp only [if_pos hone, List.singleton_append]
    rw [decodeChars_one rest (by omega), hbyte, Char.ofNat_toNat]
  by_cases htwo : c.toNat < 0x800
  · have hbyte : (UInt8.ofNat (0xC0 + c.toNat / 64)).toNat = 0xC0 + c.toNat / 64 := by
      rw [UInt8.toNat_ofNat']
      omega
    simp only [if_neg hone, if_pos htwo, List.cons_append, List.nil_append]
    exact decodeChars_two rest (by omega) (by omega) hlast
      (char?_eq_some (by rw [hbyte]; omega) (by rw [hbyte]; omega))
  have hmiddle := continuation?_ofNat (n := c.toNat / 64 % 64) (by omega)
  by_cases hthree : c.toNat < 0x10000
  · have hbyte : (UInt8.ofNat (0xE0 + c.toNat / 4096)).toNat = 0xE0 + c.toNat / 4096 := by
      rw [UInt8.toNat_ofNat']
      omega
    simp only [if_neg hone, if_neg htwo, if_pos hthree, List.cons_append, List.nil_append]
    exact decodeChars_three rest (by omega) (by omega) hmiddle hlast
      (char?_eq_some (by rw [hbyte]; omega) (by rw [hbyte]; omega))
  · have hfirst := continuation?_ofNat (n := c.toNat / 4096 % 64) (by omega)
    have hbyte : (UInt8.ofNat (0xF0 + c.toNat / 262144)).toNat = 0xF0 + c.toNat / 262144 := by
      rw [UInt8.toNat_ofNat']
      omega
    simp only [if_neg hone, if_neg htwo, if_neg hthree, List.cons_append, List.nil_append]
    exact decodeChars_four rest (by omega) (by omega) hfirst hmiddle hlast
      (char?_eq_some (by rw [hbyte]; omega) (by rw [hbyte]; omega))

theorem decodeChars_flatMap (cs : List Char) :
    decodeChars (cs.flatMap encodeChar) = some cs := by
  induction cs with
  | nil => rfl
  | cons c cs ih =>
      rw [List.flatMap_cons, decodeChars_encodeChar, ih]
      rfl

/-- Every text is read back from its bytes. -/
theorem decode?_encode (s : String) : decode? (encode s) = some s := by
  rw [decode?, encode, decodeChars_flatMap]
  exact congrArg some (String.ofList_toList)

end VectorRequests.Text.Utf8
