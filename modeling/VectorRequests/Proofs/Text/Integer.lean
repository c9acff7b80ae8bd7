/-
# Decimal digits give their number again

A natural number is written in ASCII digits without leading zeros, and the digits are worth the
number. So an integer is read from its text, unless it has more digits than readers take.
-/

import VectorRequests.Text.Integer

namespace VectorRequests.Text

-- Powers are those of the core library, whichever monoids are in scope.
attribute [local instance (high)] instPowNat

theorem asciiDigit?_digitChar {d : Nat} (h : d < 10) : asciiDigit? (digitChar d) = some d := by
  have hall : ∀ d < 10, asciiDigit? (digitChar d) = some d := by decide
  exact hall d h

theorem digit?_digitChar {d : Nat} (h : d < 10) : digit? (digitChar d) = some d := by
  have hall : ∀ d < 10, digit? (digitChar d) = some d := by decide
  exact hall d h

theorem isDigit_digitChar (d : Nat) : (digitChar d).isDigit = true := by
  have hall : ∀ d < 10, (digitChar d).isDigit = true := by decide
  have hmod : digitChar d = digitChar (d % 10) := by
    rw [digitChar, digitChar, Nat.mod_mod]
  rw [hmod]
  exact hall (d % 10) (by omega)

theorem dropWhile_of_forall {p : Char → Bool} {s : List Char} (h : ∀ c ∈ s, p c = false) :
    s.dropWhile p = s := by
  cases s with
  | nil => rfl
  | cons c s => rw [List.dropWhile_cons_of_neg (by simp [h])]

/-- A text without a character of a class is not trimmed. -/
theorem trimBoth_of_forall {p : Char → Bool} {s : List Char} (h : ∀ c ∈ s, p c = false) :
    trimBoth p s = s := by
  have hreverse : ∀ c ∈ s.reverse, p c = false := fun c hc => h c (List.mem_reverse.mp hc)
  rw [trimBoth, dropWhile_of_forall h, dropWhile_of_forall hreverse, List.reverse_reverse]

namespace Integer

theorem lt_ten_of_mem_digitsOf {n d : Nat} (hd : d ∈ digitsOf n) : d < 10 := by
  induction n using Nat.strongRecOn with
  | ind n ih =>
      by_cases h : n < 10
      · rw [digitsOf_of_lt h, List.mem_singleton] at hd
        omega
      · rw [digitsOf_of_le (by omega), List.mem_append, List.mem_singleton] at hd
        rcases hd with hd | hd
        · exact ih (n / 10) (by omega) hd
        · omega

/-- The digits of a number above zero do not start with a zero. -/
theorem head?_digitsOf {n : Nat} (h : 0 < n) : (digitsOf n).head? ≠ some 0 := by
  induction n using Nat.strongRecOn with
  | ind n ih =>
      by_cases hsmall : n < 10
      · rw [digitsOf_of_lt hsmall, List.head?_cons]
        intro hzero
        have := Option.some.inj hzero
        omega
      · have hhead := ih (n / 10) (by omega) (by omega)
        obtain ⟨d, ds, hds⟩ := List.exists_cons_of_ne_nil (digitsOf_ne_nil (n / 10))
        rw [hds] at hhead
        rw [digitsOf_of_le (by omega), hds]
        exact hhead

/-- The digits of a number are worth the number. -/
theorem ofDigits_digitsOf (n : Nat) : ofDigits (digitsOf n) = n := by
  induction n using Nat.strongRecOn with
  | ind n ih =>
      by_cases h : n < 10
      · rw [digitsOf_of_lt h]
        show 10 * 0 + n = n
        omega
      · have hrest : ofDigits (digitsOf (n / 10)) = n / 10 := ih (n / 10) (by omega)
        rw [digitsOf_of_le (by omega), ofDigits, List.foldl_append]
        show 10 * ofDigits (digitsOf (n / 10)) + n % 10 = n
        rw [hrest]
        omega

theorem mapM_asciiDigit? {ds : List Nat} (h : ∀ d ∈ ds, d < 10) :
    (ds.map digitChar).mapM asciiDigit? = some ds := by
  induction ds with
  | nil => rfl
  | cons d ds ih =>
      obtain ⟨hd, hds⟩ := List.forall_mem_cons.mp h
      rw [List.map_cons, List.mapM_cons, asciiDigit?_digitChar hd, ih hds]
      rfl

/-- The digits of a number are read from its text. -/
theorem mapM_asciiDigit?_writeNat (n : Nat) :
    (writeNat n).mapM asciiDigit? = some (digitsOf n) :=
  mapM_asciiDigit? fun _ => lt_ten_of_mem_digitsOf

theorem isDigit_of_mem_writeNat {n : Nat} {c : Char} (h : c ∈ writeNat n) :
    c.isDigit = true := by
  obtain ⟨d, -, rfl⟩ := List.mem_map.mp h
  exact isDigit_digitChar d

theorem writeNat_ne_nil (n : Nat) : writeNat n ≠ [] := by
  rw [writeNat, Ne, List.map_eq_nil_iff]
  exact digitsOf_ne_nil n

/-- A text of digits that starts with a zero is that zero. -/
theorem length_writeNat_of_head? {n : Nat} (h : (writeNat n).head? = some '0') :
    (writeNat n).length = 1 := by
  by_cases hzero : n = 0
  · rw [hzero, writeNat, digitsOf_of_lt (by decide)]
    rfl
  · exfalso
    have hhead := head?_digitsOf (Nat.pos_of_ne_zero hzero)
    rw [writeNat, List.head?_map] at h
    obtain ⟨d, hd, hchar⟩ := Option.map_eq_some_iff.mp h
    have hlt : d < 10 := lt_ten_of_mem_digitsOf (List.mem_of_mem_head? hd)
    have hvalue : some d = some 0 := by
      rw [← asciiDigit?_digitChar hlt, hchar]
      rfl
    exact hhead (hd.trans hvalue)

theorem length_digitsOf_le {n k : Nat} (hpos : 0 < k) (h : n < 10 ^ k) :
    (digitsOf n).length ≤ k := by
  induction k generalizing n with
  | zero => omega
  | succ k ih =>
      by_cases hsmall : n < 10
      · rw [digitsOf_of_lt hsmall]
        simp
      · rw [Nat.pow_succ'] at h
        have hrest : n / 10 < 10 ^ k := Nat.div_lt_of_lt_mul h
        have hk : 0 < k := by
          rcases Nat.eq_zero_or_pos k with hzero | hk
          · rw [hzero, Nat.pow_zero] at h
            omega
          · exact hk
        rw [digitsOf_of_le (by omega), List.length_append]
        exact Nat.succ_le_succ (ih hk hrest)

/-- Integers below a power of ten that readers take are short. -/
theorem isShort_of_lt {i : Int} {k : Nat} (hpos : 0 < k) (hmax : k ≤ maxDigits)
    (h : i.natAbs < 10 ^ k) : IsShort i := by
  rw [IsShort, writeNat, List.length_map]
  exact Nat.le_trans (length_digitsOf_le hpos h) hmax

/-! ## Reading an integer that was written -/

/-- A run of digits without underscores. -/
theorem digitRun_map_digitChar {ds : List Nat} (hne : ds ≠ []) (h : ∀ d ∈ ds, d < 10) :
    digitRun digit? (ds.map digitChar) = some ds := by
  induction ds with
  | nil => exact absurd rfl hne
  | cons d ds ih =>
      obtain ⟨hd, hds⟩ := List.forall_mem_cons.mp h
      cases ds with
      | nil =>
          rw [List.map_singleton, digitRun, digit?_digitChar hd]
          rfl
      | cons e ds =>
          have he : digitChar e ≠ '_' := by
            intro h
            have := isDigit_digitChar e
            rw [h] at this
            cases this
          have hrest := ih (List.cons_ne_nil _ _) hds
          rw [List.map_cons] at hrest
          rw [List.map_cons, List.map_cons, digitRun, digit?_digitChar hd, hrest]
          · rfl
          · exact List.cons_ne_nil _ _
          · intro tail htail
            exact he (List.cons.inj htail).1

theorem isWhiteSpace_of_mem_writeNat {n : Nat} {c : Char} (h : c ∈ writeNat n) :
    isWhiteSpace c = false := by
  have hall : ∀ d < 10, isWhiteSpace (digitChar d) = false := by decide
  obtain ⟨d, hd, rfl⟩ := List.mem_map.mp h
  exact hall d (lt_ten_of_mem_digitsOf hd)

theorem splitSign_writeNat (n : Nat) : splitSign (writeNat n) = (false, writeNat n) := by
  have hmem {c : Char} (h : c ∈ writeNat n) : c ≠ '-' ∧ c ≠ '+' := by
    have hdigit := isDigit_of_mem_writeNat h
    constructor
    · rintro rfl
      cases hdigit
    · rintro rfl
      cases hdigit
  unfold splitSign
  split
  next h => exact absurd rfl (hmem (h ▸ List.mem_cons_self ..)).1
  next h => exact absurd rfl (hmem (h ▸ List.mem_cons_self ..)).2
  next => rfl

/-- The sign of an integer stands before its digits. -/
theorem splitSign_write (i : Int) :
    splitSign (trimBoth isWhiteSpace (write i).toList) = (decide (i < 0), writeNat i.natAbs) := by
  have hdigits : ∀ c ∈ writeNat i.natAbs, isWhiteSpace c = false :=
    fun c hc => isWhiteSpace_of_mem_writeNat hc
  rw [write, String.toList_ofList]
  by_cases hneg : i < 0
  · have hall : ∀ c ∈ '-' :: writeNat i.natAbs, isWhiteSpace c = false :=
      List.forall_mem_cons.mpr ⟨by decide, hdigits⟩
    rw [if_pos hneg, trimBoth_of_forall hall, decide_eq_true hneg, splitSign]
  · rw [if_neg hneg, trimBoth_of_forall hdigits, decide_eq_false hneg, splitSign_writeNat]

theorem signed_natAbs (i : Int) : signed (decide (i < 0)) i.natAbs = i := by
  unfold signed
  split
  next hneg =>
    have := of_decide_eq_true hneg
    omega
  next hneg =>
    have := of_decide_eq_false (Bool.eq_false_iff.mpr hneg)
    omega

/-- An integer with no more digits than readers take is read from its text. -/
theorem read?_write {i : Int} (h : IsShort i) : read? (write i) = some i := by
  have hrun : digitRun digit? (writeNat i.natAbs) = some (digitsOf i.natAbs) :=
    digitRun_map_digitChar (digitsOf_ne_nil _) fun _ => lt_ten_of_mem_digitsOf
  have hshort : (digitsOf i.natAbs).length ≤ maxDigits := by
    rwa [IsShort, writeNat, List.length_map] at h
  rw [read?, splitSign_write]
  dsimp only
  rw [hrun, Option.bind_eq_bind, Option.bind_some, if_pos hshort, ofDigits_digitsOf, signed_natAbs]
  rfl

end Integer

end VectorRequests.Text
