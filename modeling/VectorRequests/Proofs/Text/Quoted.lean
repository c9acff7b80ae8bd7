/-
# Quoted texts are told apart

A quoted text ends at the first quote of its own kind that is not escaped, and what stands before
that is taken up character by character. So whatever follows a quoted text, no other text looks
like it, and a list of quoted texts tells which texts they are, in order.
-/

import VectorRequests.Text.Quoted
import Mathlib.Data.List.Basic

namespace VectorRequests.Text

-- Powers are those of the core library, whichever monoids are in scope.
attribute [local instance (high)] instPowNat

/-! ## Hexadecimal digits -/

/-- What a lower case hexadecimal digit is worth. -/
def hexWorth (c : Char) : Nat :=
  if c.toNat < 'a'.toNat then c.toNat - '0'.toNat else c.toNat - 'a'.toNat + 10

/-- What lower case hexadecimal digits are worth together. -/
def hexNumber (cs : List Char) : Nat :=
  cs.foldl (fun n c => 16 * n + hexWorth c) 0

theorem hexWorth_hexDigit (n : Nat) : hexWorth (hexDigit n) = n % 16 := by
  have hall : ∀ d < 16, hexWorth (hexDigit d) = d := by decide
  have hlast : hexDigit n = hexDigit (n % 16) := by rw [hexDigit, hexDigit, Nat.mod_mod]
  rw [hlast, hall _ (Nat.mod_lt n (by decide))]

theorem length_hexDigits (width n : Nat) : (hexDigits width n).length = width := by
  induction width generalizing n with
  | zero => rfl
  | succ width ih => rw [hexDigits, List.length_append, ih, List.length_singleton]

theorem hexNumber_hexDigits (width n : Nat) :
    hexNumber (hexDigits width n) = n % 16 ^ width := by
  induction width generalizing n with
  | zero => exact (Nat.mod_one n).symm
  | succ width ih =>
      rw [hexDigits, hexNumber, List.foldl_append, ← hexNumber, ih, List.foldl_cons,
        List.foldl_nil, hexWorth_hexDigit, Nat.pow_succ', Nat.mod_mul, Nat.add_comm]

namespace Quoted

/-! ## Characters -/

/-- The character behind a backslash, with what follows it. -/
def unescapeMarked : List Char → Option (Char × List Char)
  | [] => none
  | mark :: rest =>
    if mark = 't' then some ('\t', rest)
    else if mark = 'n' then some ('\n', rest)
    else if mark = 'r' then some ('\r', rest)
    else if mark = 'x' then some (Char.ofNat (hexNumber (rest.take 2)), rest.drop 2)
    else if mark = 'u' then some (Char.ofNat (hexNumber (rest.take 4)), rest.drop 4)
    else if mark = 'U' then some (Char.ofNat (hexNumber (rest.take 8)), rest.drop 8)
    else some (mark, rest)

/-- The first character inside a quoted text, with what follows it. -/
def unescape : List Char → Option (Char × List Char)
  | [] => none
  | c :: rest => if c = '\\' then unescapeMarked rest else some (c, rest)

/-- The characters that enclose quoted texts. -/
def IsQuote (quote : Char) : Prop :=
  quote = '\'' ∨ quote = '"'

theorem isQuote_quoteFor (cs : List Char) : IsQuote (quoteFor cs) := by
  rw [quoteFor]
  split
  · exact .inr rfl
  · exact .inl rfl

variable {quote c : Char} {rest : List Char}

/-- A character is taken up from as many digits as its number needs. -/
theorem unescape_digits {width : Nat} (h : c.toNat < 16 ^ width) (rest : List Char) :
    (Char.ofNat (hexNumber ((hexDigits width c.toNat ++ rest).take width)),
      (hexDigits width c.toNat ++ rest).drop width) = (c, rest) := by
  have hlength := length_hexDigits width c.toNat
  rw [List.take_left' hlength, List.drop_left' hlength, hexNumber_hexDigits,
    Nat.mod_eq_of_lt h, Char.ofNat_toNat]

theorem unescape_numbered (c : Char) (rest : List Char) :
    unescape (numbered c.toNat ++ rest) = some (c, rest) := by
  have hlarge : c.toNat < 16 ^ 8 := c.val.toNat_lt
  rw [numbered]
  split
  next hsmall => exact congrArg some (unescape_digits (hsmall : _ < 16 ^ 2) rest)
  next =>
    split
    next hmiddle => exact congrArg some (unescape_digits (hmiddle : _ < 16 ^ 4) rest)
    next => exact congrArg some (unescape_digits hlarge rest)

/-- A character is taken up from what is written for it. -/
theorem unescape_escape (hquote : IsQuote quote) (c : Char) (rest : List Char) :
    unescape (escape quote c ++ rest) = some (c, rest) := by
  rw [escape]
  split
  next hmarked =>
    have hc : c = '\'' ∨ c = '"' ∨ c = '\\' := by
      simp only [Bool.or_eq_true, beq_iff_eq] at hmarked
      obtain rfl | rfl := hmarked
      · exact hquote.imp_right .inl
      · exact .inr (.inr rfl)
    obtain rfl | rfl | rfl := hc <;> rfl
  next hplain =>
    split
    next htab =>
      obtain rfl := beq_iff_eq.mp htab
      rfl
    next =>
      split
      next hline =>
        obtain rfl := beq_iff_eq.mp hline
        rfl
      next =>
        split
        next hreturn =>
          obtain rfl := beq_iff_eq.mp hreturn
          rfl
        next =>
          split
          · have hslash : c ≠ '\\' := by
              rintro rfl
              simp at hplain
            exact if_neg hslash
          · exact unescape_numbered c rest

/-! ## Texts -/

/-- A quote that ends a text is not the start of a character. -/
theorem escape_append_ne (hquote : IsQuote quote) {xs ys : List Char} :
    escape quote c ++ xs ≠ quote :: ys := by
  intro h
  have hslash : quote ≠ '\\' := by obtain rfl | rfl := hquote <;> decide
  have hread : some (c, xs) = some (quote, ys) := by
    rw [← unescape_escape hquote c xs, h]
    exact if_neg hslash
  cases hread
  rw [escape, if_pos (by simp)] at h
  exact hslash (List.cons.inj h).1.symm

/-- What is quoted is told up to the quote that ends it. -/
theorem flatMap_escape_append_inj (hquote : IsQuote quote) {cs ds xs ys : List Char}
    (h : cs.flatMap (escape quote) ++ quote :: xs = ds.flatMap (escape quote) ++ quote :: ys) :
    cs = ds ∧ xs = ys := by
  induction cs generalizing ds with
  | nil =>
      cases ds with
      | nil => exact ⟨rfl, (List.cons.inj h).2⟩
      | cons d ds =>
          rw [List.flatMap_cons, List.append_assoc] at h
          exact absurd h.symm (escape_append_ne hquote)
  | cons c cs ih =>
      cases ds with
      | nil =>
          rw [List.flatMap_cons, List.append_assoc] at h
          exact absurd h (escape_append_ne hquote)
      | cons d ds =>
          rw [List.flatMap_cons, List.flatMap_cons, List.append_assoc, List.append_assoc] at h
          have hread := congrArg unescape h
          rw [unescape_escape hquote, unescape_escape hquote] at hread
          obtain ⟨rfl, hrest⟩ := Prod.mk.inj (Option.some.inj hread)
          obtain ⟨rfl, hsame⟩ := ih hrest
          exact ⟨rfl, hsame⟩

theorem toList_text (s : String) :
    (text s).toList = quoteFor s.toList ::
      (s.toList.flatMap (escape (quoteFor s.toList)) ++ [quoteFor s.toList]) :=
  String.toList_ofList

/-- A quoted text is told whatever follows it. -/
theorem text_append_inj {s t : String} {xs ys : List Char}
    (h : (text s).toList ++ xs = (text t).toList ++ ys) : s = t ∧ xs = ys := by
  rw [toList_text, toList_text, List.cons_append, List.cons_append, List.append_assoc,
    List.append_assoc, List.cons.injEq] at h
  obtain ⟨hquote, hrest⟩ := h
  rw [← hquote] at hrest
  obtain ⟨hchars, hsame⟩ := flatMap_escape_append_inj (isQuote_quoteFor s.toList) hrest
  exact ⟨String.toList_inj.mp hchars, hsame⟩

/-! ## Lists of texts -/

/-- Quoted texts with a comma between any two of them. -/
def list (texts : List String) : String :=
  ", ".intercalate (texts.map text)

theorem toList_list_cons (s t : String) (texts : List String) :
    (list (s :: t :: texts)).toList =
      (text s).toList ++ ',' :: ' ' :: (list (t :: texts)).toList := by
  rw [list, List.map_cons, List.map_cons, String.intercalate_cons_cons, String.toList_append,
    String.toList_append, List.append_assoc]
  rfl

theorem list_singleton (s : String) : list [s] = text s :=
  String.intercalate_singleton

/-- A list of texts is no end of one. -/
theorem bracket_ne_list {t : String} {ts : List String} {xs ys : List Char} :
    ']' :: xs ≠ (list (t :: ts)).toList ++ ys := by
  intro h
  have hquote : ']' = quoteFor t.toList := by
    cases ts with
    | nil =>
        rw [list_singleton, toList_text] at h
        exact (List.cons.inj h).1
    | cons =>
        rw [toList_list_cons, toList_text] at h
        exact (List.cons.inj h).1
  obtain hsingle | hdouble := isQuote_quoteFor t.toList
  · exact absurd (hquote.trans hsingle) (by decide)
  · exact absurd (hquote.trans hdouble) (by decide)

/-- A list in brackets is told up to the bracket that ends it. -/
theorem list_append_inj {ss ts : List String} {xs ys : List Char}
    (h : (list ss).toList ++ ']' :: xs = (list ts).toList ++ ']' :: ys) : ss = ts := by
  induction ss generalizing ts with
  | nil =>
      cases ts with
      | nil => rfl
      | cons t ts => exact absurd h bracket_ne_list
  | cons s ss ih =>
      cases ts with
      | nil => exact absurd h.symm bracket_ne_list
      | cons t ts =>
          -- The first texts are the same, and then either both lists end or neither does.
          cases ss with
          | nil =>
              cases ts with
              | nil =>
                  rw [list_singleton, list_singleton] at h
                  rw [(text_append_inj h).1]
              | cons t' ts =>
                  rw [list_singleton, toList_list_cons, List.append_assoc] at h
                  cases (text_append_inj h).2
          | cons s' ss =>
              cases ts with
              | nil =>
                  rw [list_singleton, toList_list_cons, List.append_assoc] at h
                  cases (text_append_inj h).2
              | cons t' ts =>
                  rw [toList_list_cons, toList_list_cons, List.append_assoc,
                    List.append_assoc] at h
                  obtain ⟨rfl, hrest⟩ := text_append_inj h
                  have htail := (List.cons.inj (List.cons.inj hrest).2).2
                  rw [ih htail]

end Quoted

end VectorRequests.Text
