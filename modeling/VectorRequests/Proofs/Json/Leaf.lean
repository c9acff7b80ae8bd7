/-
# Texts and integers are read back from JSON

A text is read back character by character up to its closing quotation mark, and an integer
digit by digit, if nothing follows it that could go on with a number.
-/

import VectorRequests.Json.Reader
import VectorRequests.Json.Writer
import VectorRequests.Proofs.Text.Integer

namespace VectorRequests.Json

open VectorRequests.Text

/-! ## Texts -/

theorem readText?_escaped {c ch : Char} (rest : List Char) (hu : c ≠ 'u')
    (hc : escaped? c = some ch) :
    readText? ('\\' :: c :: rest) = (readText? rest).map (Prod.map (ch :: ·) id) := by
  rw [readText?.eq_def]
  split
  next heq => cases heq
  next heq => cases heq
  next heq => cases heq; exact absurd rfl hu
  next heq =>
    cases heq
    simp only [hc, Option.bind_eq_bind, Option.bind_some]
    cases readText? rest <;> rfl
  next hnot heq => cases heq; exact absurd rfl (hnot c rest rfl)

/-- A control character is written with four hexadecimal digits. -/
theorem unit?_hexDigits {n : Nat} (h : n < 0x20) :
    unit? (hexDigit (n / 16 / 16 / 16)) (hexDigit (n / 16 / 16)) (hexDigit (n / 16))
      (hexDigit n) = some n := by
  have hall : ∀ n < 0x20, unit? (hexDigit (n / 16 / 16 / 16)) (hexDigit (n / 16 / 16))
      (hexDigit (n / 16)) (hexDigit n) = some n := by decide
  exact hall n h

theorem readText?_numbered {a b c d : Char} {n : Nat} {ch : Char} (rest : List Char)
    (hunit : unit? a b c d = some n) (hsingle : single? n = some ch) :
    readText? ('\\' :: 'u' :: a :: b :: c :: d :: rest) =
      (readText? rest).map (Prod.map (ch :: ·) id) := by
  rw [readText?.eq_def]
  simp only [hunit, hsingle, Option.bind_eq_bind, Option.bind_some]
  cases readText? rest <;> rfl

theorem readText?_plain {c : Char} (rest : List Char) (hquote : c ≠ '"') (hslash : c ≠ '\\')
    (hcontrol : ¬ c.toNat < 0x20) :
    readText? (c :: rest) = (readText? rest).map (Prod.map (c :: ·) id) := by
  have hallowed : ¬ (c.toNat < 0x20 || decide (c = '\\')) = true := by
    simp [hslash]
    omega
  rw [readText?.eq_def]
  split
  next heq => cases heq
  next heq => cases heq; exact absurd rfl hquote
  next heq => cases heq; exact absurd rfl hslash
  next heq => cases heq; exact absurd rfl hslash
  next heq =>
    cases heq
    rw [if_neg hallowed]
    simp only [Option.bind_eq_bind]
    cases readText? rest <;> rfl

theorem single?_toNat (c : Char) : single? c.toNat = some c := by
  have hvalid : c.toNat.isValidChar := c.valid
  rw [single?, if_pos hvalid, Char.ofNat_toNat]

/-- A character of a text is read back. -/
theorem readText?_writeChar (c : Char) (rest : List Char) :
    readText? (writeChar c ++ rest) = (readText? rest).map (Prod.map (c :: ·) id) := by
  unfold writeChar
  by_cases hquote : c = '"'
  · rw [if_pos hquote, hquote]
    exact readText?_escaped rest (by decide) rfl
  by_cases hslash : c = '\\'
  · rw [if_neg hquote, if_pos hslash, hslash]
    exact readText?_escaped rest (by decide) rfl
  by_cases hcontrol : c.toNat < 0x20
  · rw [if_neg hquote, if_neg hslash, if_pos hcontrol]
    exact readText?_numbered rest (unit?_hexDigits hcontrol) (single?_toNat c)
  · rw [if_neg hquote, if_neg hslash, if_neg hcontrol]
    exact readText?_plain rest hquote hslash hcontrol

/-- A text is read back up to its closing quotation mark. -/
theorem readText?_flatMap (cs rest : List Char) :
    readText? (cs.flatMap writeChar ++ '"' :: rest) = some (cs, rest) := by
  induction cs with
  | nil => rfl
  | cons c cs ih =>
      rw [List.flatMap_cons, List.append_assoc, readText?_writeChar, ih]
      rfl

/-! ## Integers -/

/-- What follows a number cannot go on with it. -/
def EndsNumber (rest : List Char) : Prop :=
  ∀ c ∈ rest.head?, c.isDigit = false ∧ c ≠ '.' ∧ c ≠ 'e' ∧ c ≠ 'E'

theorem takeDigits_append {digits rest : List Char} (hdigits : ∀ c ∈ digits, c.isDigit = true)
    (hrest : EndsNumber rest) : takeDigits (digits ++ rest) = (digits, rest) := by
  have hstop : rest.takeWhile Char.isDigit = [] ∧ rest.dropWhile Char.isDigit = rest := by
    cases rest with
    | nil => exact ⟨rfl, rfl⟩
    | cons c rest =>
        obtain ⟨hc, -⟩ := hrest c rfl
        simp [hc]
  rw [takeDigits, List.takeWhile_append_of_pos hdigits, List.dropWhile_append_of_pos hdigits,
    hstop.1, hstop.2, List.append_nil]

theorem readFraction?_of_endsNumber {rest : List Char} (h : EndsNumber rest) :
    readFraction? rest = some ([], rest) := by
  cases rest with
  | nil => rfl
  | cons c rest =>
      obtain ⟨-, hpoint, -⟩ := h c rfl
      rw [readFraction?.eq_def]
      split
      next heq => cases heq; exact absurd rfl hpoint
      next => rfl

theorem readExponent?_of_endsNumber {rest : List Char} (h : EndsNumber rest) :
    readExponent? rest = some (none, rest) := by
  cases rest with
  | nil => rfl
  | cons c rest =>
      obtain ⟨-, -, hlower, hupper⟩ := h c rfl
      rw [readExponent?, if_neg (by simp [hlower, hupper])]

theorem number?_writeNat {n : Nat} (negative : Bool)
    (hshort : (Integer.writeNat n).length ≤ Integer.maxDigits) :
    number? negative (Integer.writeNat n) [] none = some (.int (Integer.signed negative n)) := by
  rw [number?, List.append_nil, Integer.mapM_asciiDigit?_writeNat]
  simp only [Option.bind_eq_bind, Option.bind_some]
  rw [if_pos hshort, Integer.ofDigits_digitsOf]

/-- Digits are read as a number, after the sign has been split off. -/
theorem readDigits_writeNat {n : Nat} {rest : List Char} (hrest : EndsNumber rest) :
    takeDigits (Integer.writeNat n ++ rest) = (Integer.writeNat n, rest) ∧
      ¬ ((Integer.writeNat n).isEmpty = true ∨
        (Integer.writeNat n).head? = some '0' ∧ 1 < (Integer.writeNat n).length) := by
  refine ⟨takeDigits_append (fun _ => Integer.isDigit_of_mem_writeNat) hrest, ?_⟩
  rintro (hempty | ⟨hzero, hlong⟩)
  · exact Integer.writeNat_ne_nil n (List.isEmpty_iff.mp hempty)
  · have := Integer.length_writeNat_of_head? hzero
    omega

/-- An integer is read back, if nothing that follows can go on with it. -/
theorem readNumber?_write {i : Int} {rest : List Char} (hrest : EndsNumber rest)
    (hshort : Integer.IsShort i) :
    readNumber? ((Integer.write i).toList ++ rest) = some (.int i, rest) := by
  obtain ⟨hdigits, hwhole⟩ := readDigits_writeNat (n := i.natAbs) hrest
  rw [Integer.write, String.toList_ofList]
  by_cases hneg : i < 0
  · have hvalue : Integer.signed true i.natAbs = i := by
      rw [Integer.signed, if_pos rfl]
      omega
    rw [if_pos hneg, List.cons_append, readNumber?]
    simp only [hdigits, if_neg hwhole, readFraction?_of_endsNumber hrest,
      readExponent?_of_endsNumber hrest, number?_writeNat true hshort, hvalue,
      Option.bind_eq_bind, Option.bind_some]
    rfl
  · have hvalue : Integer.signed false i.natAbs = i := by
      rw [Integer.signed, if_neg (by decide)]
      omega
    have hsign (after : List Char) : Integer.writeNat i.natAbs ++ rest ≠ '-' :: after := by
      obtain ⟨c, cs, hcs⟩ := List.exists_cons_of_ne_nil (Integer.writeNat_ne_nil i.natAbs)
      rw [hcs, List.cons_append]
      rintro heq
      obtain ⟨rfl, -⟩ := List.cons.inj heq
      have hmem : '-' ∈ Integer.writeNat i.natAbs := hcs ▸ List.mem_cons_self ..
      exact absurd (Integer.isDigit_of_mem_writeNat hmem) (by decide)
    rw [if_neg hneg, readNumber?]
    · simp only [hdigits, if_neg hwhole, readFraction?_of_endsNumber hrest,
        readExponent?_of_endsNumber hrest, number?_writeNat false hshort, hvalue,
        Option.bind_eq_bind, Option.bind_some]
      rfl
    · exact hsign

end VectorRequests.Json
