/-
# The language of integer texts

A text denotes an integer if it is blanks, a sign or none, a run of digits and blanks again. The
digits may be of any script, and of several; a single underscore may stand between two of them.
These are exactly the texts that are read, each as the integer that it denotes.
-/

import VectorRequests.Proofs.Text.Integer

namespace VectorRequests.Text

/-- Blanks around a text are all that is trimmed. -/
theorem exists_trimBoth (p : Char → Bool) (s : List Char) :
    ∃ before after : List Char, s = before ++ trimBoth p s ++ after ∧
      (∀ c ∈ before, p c = true) ∧ ∀ c ∈ after, p c = true := by
  have hfront := List.takeWhile_append_dropWhile (p := p) (l := s)
  have hback := List.takeWhile_append_dropWhile (p := p) (l := (s.dropWhile p).reverse)
  refine ⟨s.takeWhile p, ((s.dropWhile p).reverse.takeWhile p).reverse, ?_, ?_, ?_⟩
  · have hrest : s.dropWhile p =
        trimBoth p s ++ ((s.dropWhile p).reverse.takeWhile p).reverse := by
      rw [trimBoth, ← List.reverse_append, hback, List.reverse_reverse]
    rw [List.append_assoc, ← hrest, hfront]
  · intro c hc
    exact List.all_eq_true.mp List.all_takeWhile c hc
  · intro c hc
    exact List.all_eq_true.mp List.all_takeWhile c (List.mem_reverse.mp hc)

theorem dropWhile_append_of_forall {p : Char → Bool} {before : List Char} (rest : List Char)
    (h : ∀ c ∈ before, p c = true) : (before ++ rest).dropWhile p = rest.dropWhile p := by
  induction before with
  | nil => rfl
  | cons c before ih =>
      obtain ⟨hc, hbefore⟩ := List.forall_mem_cons.mp h
      rw [List.cons_append, List.dropWhile_cons_of_pos hc, ih hbefore]

theorem dropWhile_of_head? {p : Char → Bool} {s : List Char} (h : ∀ c ∈ s.head?, p c = false) :
    s.dropWhile p = s := by
  cases s with
  | nil => rfl
  | cons c s => rw [List.dropWhile_cons_of_neg (by simp [h c rfl])]

/-- A text that neither starts nor ends with a blank is what is left of it among blanks. -/
theorem trimBoth_append {p : Char → Bool} {before s after : List Char}
    (hbefore : ∀ c ∈ before, p c = true) (hafter : ∀ c ∈ after, p c = true)
    (hhead : ∀ c ∈ s.head?, p c = false) (hlast : ∀ c ∈ s.getLast?, p c = false) :
    trimBoth p (before ++ s ++ after) = s := by
  cases s with
  | nil =>
      have hdrop : (after ++ []).dropWhile p = [] := dropWhile_append_of_forall [] hafter
      rw [List.append_nil] at hdrop
      rw [List.append_nil, trimBoth, dropWhile_append_of_forall _ hbefore, hdrop]
      rfl
  | cons c s =>
      have hfront : (c :: s ++ after).dropWhile p = c :: s ++ after :=
        dropWhile_of_head? hhead
      have hafter' : ∀ c ∈ after.reverse, p c = true :=
        fun c hc => hafter c (List.mem_reverse.mp hc)
      have hback : (c :: s).reverse.dropWhile p = (c :: s).reverse :=
        dropWhile_of_head? (by rwa [List.head?_reverse])
      rw [trimBoth, List.append_assoc, dropWhile_append_of_forall _ hbefore, hfront,
        List.reverse_append, dropWhile_append_of_forall _ hafter', hback, List.reverse_reverse]

namespace Integer

/-! ## Digits -/

/-- A run of digits of any script, most significant first, where a single underscore may stand
between two digits. -/
inductive DigitText : List Char → List Nat → Prop
  | last {c : Char} {d : Nat} (hd : digit? c = some d) : DigitText [c] [d]
  | next {c : Char} {d : Nat} {cs : List Char} {ds : List Nat} (hd : digit? c = some d)
      (h : DigitText cs ds) : DigitText (c :: cs) (d :: ds)
  | underscore {c : Char} {d : Nat} {cs : List Char} {ds : List Nat} (hd : digit? c = some d)
      (h : DigitText cs ds) : DigitText (c :: '_' :: cs) (d :: ds)

theorem isWhiteSpace_of_digit? {c : Char} {d : Nat} (h : digit? c = some d) :
    isWhiteSpace c = false := by
  have hall : ∀ start ∈ digitZeros, ∀ k < 10, isWhiteSpace (Char.ofNat (start + k)) = false := by
    decide +kernel
  obtain ⟨start, hstart, -⟩ := Option.map_eq_some_iff.mp h
  have hrange := List.find?_some hstart
  simp only [Bool.and_eq_true, decide_eq_true_eq] at hrange
  have hc := hall start (List.mem_of_find?_eq_some hstart) (c.toNat - start) (by omega)
  rwa [Nat.add_sub_cancel' hrange.1, Char.ofNat_toNat] at hc

namespace DigitText

variable {cs : List Char} {ds : List Nat}

theorem exists_head (h : DigitText cs ds) :
    ∃ c d rest, cs = c :: rest ∧ digit? c = some d := by
  cases h with
  | last hd | next hd | underscore hd => exact ⟨_, _, _, rfl, hd⟩

theorem exists_getLast (h : DigitText cs ds) :
    ∃ c d, cs.getLast? = some c ∧ digit? c = some d := by
  induction h with
  | last hd => exact ⟨_, _, rfl, hd⟩
  | next hd h ih | underscore hd h ih =>
      obtain ⟨c, d, hlast, hc⟩ := ih
      exact ⟨c, d, by simp [List.getLast?_cons, hlast], hc⟩

/-- Runs of digits are exactly what is read as such. -/
theorem iff_digitRun : DigitText cs ds ↔ digitRun digit? cs = some ds := by
  constructor
  · intro h
    induction h with
    | last hd => simp [digitRun, hd]
    | next hd h ih =>
        obtain ⟨c, d, rest, rfl, hc⟩ := h.exists_head
        have hscore : c ≠ '_' := by
          rintro rfl
          have hnone : digit? '_' = none := by decide
          cases hnone.symm.trans hc
        rw [digitRun, hd, ih]
        · rfl
        · exact List.cons_ne_nil _ _
        · intro tail htail
          exact hscore (List.cons.inj htail).1
    | underscore hd h ih =>
        rw [digitRun, hd, ih]
        rfl
  · intro h
    fun_induction digitRun digit? cs generalizing ds with
    | case1 => cases h
    | case2 c =>
        obtain ⟨d, hd, rfl⟩ := Option.map_eq_some_iff.mp h
        exact .last hd
    | case3 c rest ih =>
        obtain ⟨d, hd, h⟩ := Option.bind_eq_some_iff.mp h
        obtain ⟨ds', hds', h⟩ := Option.bind_eq_some_iff.mp h
        cases h
        exact .underscore hd (ih hds')
    | case4 c rest _ _ ih =>
        obtain ⟨d, hd, h⟩ := Option.bind_eq_some_iff.mp h
        obtain ⟨ds', hds', h⟩ := Option.bind_eq_some_iff.mp h
        cases h
        exact .next hd (ih hds')

end DigitText

/-! ## Signs -/

/-- A sign or none, and whether it is a minus. -/
inductive SignText : List Char → Bool → Prop
  | none : SignText [] false
  | plus : SignText ['+'] false
  | minus : SignText ['-'] true

theorem exists_sign (cs : List Char) :
    ∃ sign, SignText sign (splitSign cs).1 ∧ cs = sign ++ (splitSign cs).2 := by
  unfold splitSign
  split
  · exact ⟨_, .minus, rfl⟩
  · exact ⟨_, .plus, rfl⟩
  · exact ⟨_, .none, rfl⟩

/-- Digits are no signs. -/
theorem splitSign_append {sign digits : List Char} {negative : Bool} {ds : List Nat}
    (hsign : SignText sign negative) (hdigits : DigitText digits ds) :
    splitSign (sign ++ digits) = (negative, digits) := by
  cases hsign with
  | minus | plus => rfl
  | none =>
      obtain ⟨c, d, rest, rfl, hd⟩ := hdigits.exists_head
      have hminus : digit? '-' = Option.none := by decide
      have hplus : digit? '+' = Option.none := by decide
      rw [List.nil_append]
      unfold splitSign
      split
      next h =>
        cases h
        cases hminus.symm.trans hd
      next h =>
        cases h
        cases hplus.symm.trans hd
      next => rfl

/-! ## Integers -/

/-- A text that denotes an integer: blanks, a sign or none, digits, and blanks. -/
inductive Denotes (s : String) : Int → Prop
  | intro {before sign digits after : List Char} {negative : Bool} {ds : List Nat}
      (htext : s.toList = before ++ (sign ++ digits) ++ after)
      (hbefore : ∀ c ∈ before, isWhiteSpace c = true) (hsign : SignText sign negative)
      (hdigits : DigitText digits ds) (hshort : ds.length ≤ maxDigits)
      (hafter : ∀ c ∈ after, isWhiteSpace c = true) : Denotes s (signed negative (ofDigits ds))

/-- Signs and digits are no blanks. -/
theorem trimBoth_of_digitText {before sign digits after : List Char} {negative : Bool}
    {ds : List Nat} (hbefore : ∀ c ∈ before, isWhiteSpace c = true)
    (hsign : SignText sign negative) (hdigits : DigitText digits ds)
    (hafter : ∀ c ∈ after, isWhiteSpace c = true) :
    trimBoth isWhiteSpace (before ++ (sign ++ digits) ++ after) = sign ++ digits := by
  obtain ⟨first, d, rest, hfirst, hd⟩ := hdigits.exists_head
  obtain ⟨last, e, hlast, he⟩ := hdigits.exists_getLast
  apply trimBoth_append hbefore hafter
  · intro c hc
    cases hsign with
    | none =>
        rw [hfirst, List.nil_append, List.head?_cons, Option.mem_some_iff] at hc
        rw [← hc]
        exact isWhiteSpace_of_digit? hd
    | plus | minus =>
        cases hc
        decide
  · intro c hc
    rw [List.getLast?_append, hlast, Option.some_or, Option.mem_some_iff] at hc
    rw [← hc]
    exact isWhiteSpace_of_digit? he

/-- A text is read as an integer exactly if it denotes it. -/
theorem read?_eq_some_iff {s : String} {n : Int} : read? s = some n ↔ Denotes s n := by
  constructor
  · intro h
    obtain ⟨before, after, htext, hbefore, hafter⟩ := exists_trimBoth isWhiteSpace s.toList
    obtain ⟨sign, hsign, hsplit⟩ := exists_sign (trimBoth isWhiteSpace s.toList)
    obtain ⟨ds, hds, h⟩ := Option.bind_eq_some_iff.mp h
    split at h
    next hshort =>
      cases h
      rw [hsplit] at htext
      exact .intro htext hbefore hsign (DigitText.iff_digitRun.mpr hds) hshort hafter
    next => cases h
  · rintro ⟨htext, hbefore, hsign, hdigits, hshort, hafter⟩
    rw [read?, htext, trimBoth_of_digitText hbefore hsign hdigits hafter,
      splitSign_append hsign hdigits]
    dsimp only
    rw [DigitText.iff_digitRun.mp hdigits, Option.bind_eq_bind, Option.bind_some, if_pos hshort]
    rfl

/-- A text that is not read denotes no integer. -/
theorem read?_eq_none_iff {s : String} : read? s = none ↔ ∀ n, ¬ Denotes s n := by
  rw [Option.eq_none_iff_forall_ne_some]
  exact forall_congr' fun n => not_congr read?_eq_some_iff

/-- A text denotes at most one integer. -/
theorem Denotes.unique {s : String} {m n : Int} (hm : Denotes s m) (hn : Denotes s n) :
    m = n :=
  Option.some.inj ((read?_eq_some_iff.mpr hm).symm.trans (read?_eq_some_iff.mpr hn))

end Integer

end VectorRequests.Text
