/-
# Bytes are read back from base64

Each letter hands its six bits on, and after a group of four letters the reader stands where it
started, with three bytes more. The last group of a text may be filled up, and the reader stops
where the filling completes it. Since the letters are those of bytes, the strict reader and the
lenient one agree.
-/

import VectorRequests.Encoding.Base64

namespace VectorRequests.Base64

/-! ## One letter -/

theorem sextet?_letter {n : Nat} (h : n < 64) : sextet? (letter n) = some n := by
  have hall : ∀ n < 64, sextet? (letter n) = some n := by decide
  exact hall n h

theorem letter_ne_pad {n : Nat} (h : n < 64) : letter n ≠ '=' := by
  have hall : ∀ n < 64, letter n ≠ '=' := by decide
  exact hall n h

theorem letter_isAscii {n : Nat} (h : n < 64) : (letter n).toNat < 128 := by
  have hall : ∀ n < 64, (letter n).toNat < 128 := by decide
  exact hall n h

/-- A letter is taken where there was no padding before. -/
theorem decodeFrom_letter {strict : Bool} {p : Progress} {n : Nat} (rest : List Char)
    (h : n < 64) (hpadded : p.padded = false) :
    decodeFrom strict p (letter n :: rest) =
      (decodeFrom strict (p.take n).1 rest).map ((p.take n).2.toList ++ ·) := by
  rw [decodeFrom, if_neg (letter_ne_pad h), sextet?_letter h]
  simp [hpadded]

/-! ## Groups of letters -/

theorem ofNat_eq_of_toNat {a : UInt8} {n : Nat} (h : n = a.toNat) : UInt8.ofNat n = a := by
  rw [h, UInt8.ofNat_toNat]

/-- The first two letters give the first byte, and the high bits of the second one. -/
theorem decodeFrom_first {strict : Bool} (a : UInt8) {high : Nat} (rest : List Char)
    (h : high < 16) :
    decodeFrom strict .start (letter (a.toNat / 4) :: letter (a.toNat % 4 * 16 + high) :: rest) =
      (decodeFrom strict ⟨2, high, 0, false⟩ rest).map (a :: ·) := by
  have ha := a.toNat_lt
  have hbyte : UInt8.ofNat (a.toNat / 4 * 4 + (a.toNat % 4 * 16 + high) / 16) = a :=
    ofNat_eq_of_toNat (by omega)
  have hleft : (a.toNat % 4 * 16 + high) % 16 = high := by omega
  rw [decodeFrom_letter _ (by omega) rfl, decodeFrom_letter _ (by omega) rfl]
  simp only [Progress.start, Progress.take, hbyte, hleft, Option.toList, List.nil_append,
    Option.map_id']
  rfl

/-- The third letter gives the second byte, and the high bits of the third one. -/
theorem decodeFrom_second {strict : Bool} (b : UInt8) {high : Nat} (rest : List Char)
    (h : high < 4) :
    decodeFrom strict ⟨2, b.toNat / 16, 0, false⟩ (letter (b.toNat % 16 * 4 + high) :: rest) =
      (decodeFrom strict ⟨3, high, 0, false⟩ rest).map (b :: ·) := by
  have hb := b.toNat_lt
  have hbyte : UInt8.ofNat (b.toNat / 16 * 16 + (b.toNat % 16 * 4 + high) / 4) = b :=
    ofNat_eq_of_toNat (by omega)
  have hleft : (b.toNat % 16 * 4 + high) % 4 = high := by omega
  rw [decodeFrom_letter _ (by omega) rfl]
  simp only [Progress.take, hbyte, hleft]
  rfl

/-- The fourth letter gives the third byte, and a new group starts. -/
theorem decodeFrom_third {strict : Bool} (c : UInt8) (rest : List Char) :
    decodeFrom strict ⟨3, c.toNat / 64, 0, false⟩ (letter (c.toNat % 64) :: rest) =
      (decodeFrom strict .start rest).map (c :: ·) := by
  have hbyte : UInt8.ofNat (c.toNat / 64 * 64 + c.toNat % 64) = c :=
    ofNat_eq_of_toNat (by omega)
  rw [decodeFrom_letter _ (by omega) rfl]
  simp only [Progress.take, hbyte]
  rfl

/-- Two equals signs fill up the letters of one byte. -/
theorem decodeFrom_two_pads (strict : Bool) :
    decodeFrom strict ⟨2, 0, 0, false⟩ ['=', '='] = some [] := by
  cases strict <;> rfl

/-- One equals sign fills up the letters of two bytes. -/
theorem decodeFrom_one_pad (strict : Bool) :
    decodeFrom strict ⟨3, 0, 0, false⟩ ['='] = some [] := by
  cases strict <;> rfl

theorem decodeFrom_encodeChars (strict : Bool) (bs : List UInt8) :
    decodeFrom strict .start (encodeChars bs) = some bs := by
  induction bs using encodeChars.induct with
  | case1 => rfl
  | case2 a =>
      have hlow : a.toNat % 4 * 16 = a.toNat % 4 * 16 + 0 := rfl
      rw [encodeChars, hlow, decodeFrom_first a _ (by omega), decodeFrom_two_pads]
      rfl
  | case3 a b =>
      have hb := b.toNat_lt
      have hlow : b.toNat % 16 * 4 = b.toNat % 16 * 4 + 0 := rfl
      rw [encodeChars, hlow, decodeFrom_first a _ (by omega), decodeFrom_second b _ (by omega),
        decodeFrom_one_pad]
      rfl
  | case4 a b c rest ih =>
      have hb := b.toNat_lt
      have hc := c.toNat_lt
      rw [encodeChars, decodeFrom_first a _ (by omega), decodeFrom_second b _ (by omega),
        decodeFrom_third, ih]
      rfl

/-! ## Whole texts -/

theorem isAscii_of_mem_encodeChars {bs : List UInt8} {c : Char} (h : c ∈ encodeChars bs) :
    c.toNat < 128 := by
  have hpad : '='.toNat < 128 := by decide
  induction bs using encodeChars.induct with
  | case1 => cases h
  | case2 a =>
      have ha := a.toNat_lt
      simp only [encodeChars, List.mem_cons, List.not_mem_nil, or_false] at h
      rcases h with rfl | rfl | rfl | rfl
      · exact letter_isAscii (by omega)
      · exact letter_isAscii (by omega)
      · exact hpad
      · exact hpad
  | case3 a b =>
      have ha := a.toNat_lt
      have hb := b.toNat_lt
      simp only [encodeChars, List.mem_cons, List.not_mem_nil, or_false] at h
      rcases h with rfl | rfl | rfl | rfl
      · exact letter_isAscii (by omega)
      · exact letter_isAscii (by omega)
      · exact letter_isAscii (by omega)
      · exact hpad
  | case4 a b d rest ih =>
      have ha := a.toNat_lt
      have hb := b.toNat_lt
      have hd := d.toNat_lt
      simp only [encodeChars, List.mem_cons] at h
      rcases h with rfl | rfl | rfl | rfl | hrest
      · exact letter_isAscii (by omega)
      · exact letter_isAscii (by omega)
      · exact letter_isAscii (by omega)
      · exact letter_isAscii (by omega)
      · exact ih hrest

theorem head?_encodeChars (bs : List UInt8) : (encodeChars bs).head? ≠ some '=' := by
  cases bs with
  | nil => nofun
  | cons a bs =>
      have ha := a.toNat_lt
      have hhead : (encodeChars (a :: bs)).head? = some (letter (a.toNat / 4)) := by
        cases bs with
        | nil => rfl
        | cons b bs => cases bs <;> rfl
      rw [hhead]
      intro h
      exact letter_ne_pad (by omega) (Option.some.inj h)

/-- The text of bytes is read back, strictly or not. -/
theorem decode_encode (strict : Bool) (bs : List UInt8) :
    decode strict (encode bs) = .ok bs := by
  have hascii : ((encode bs).toList.all (·.toNat < 128)) = true := by
    rw [encode, String.toList_ofList, List.all_eq_true]
    intro c hc
    exact decide_eq_true (isAscii_of_mem_encodeChars hc)
  have hhead : ¬ (strict && (encodeChars bs).head? == some '=') = true := by
    have := head?_encodeChars bs
    simp [this]
  rw [decode, if_pos hascii, encode, String.toList_ofList, decodeChars, if_neg hhead,
    decodeFrom_encodeChars]

end VectorRequests.Base64
