/-
# The strict reader and the lenient one

A text is unbroken if it is letters and then padding, with no more padding than completes the
last group. The readers agree on unbroken texts, and the strict reader takes no others. So it
takes exactly the unbroken texts among those that the lenient reader takes, with the same bytes.

The lenient reader makes up for everything else: it keeps the letters, and the padding that
completes a group, and reads what it has kept as the strict reader would.
-/

import VectorRequests.Encoding.Base64

namespace VectorRequests.Base64

/-- Letters, and then padding that follows some letter and does not go beyond the end of a group
that the letters have begun. -/
def IsUnbroken (cs : List Char) : Prop :=
  ∃ (letters : List Char) (pads : Nat), cs = letters ++ List.replicate pads '=' ∧
    (∀ c ∈ letters, (sextet? c).isSome) ∧ (letters = [] → pads = 0) ∧
    (letters.length % 4 ≠ 0 → letters.length % 4 + pads ≤ 4)

theorem sextet?_pad : sextet? '=' = none := by decide

theorem ne_pad_of_sextet? {c : Char} {n : Nat} (h : sextet? c = some n) : c ≠ '=' := by
  rintro rfl
  cases sextet?_pad.symm.trans h

/-! ## One letter -/

theorem taken_take (p : Progress) (n : Nat) (h : p.taken < 4) :
    (p.take n).1.taken = (p.taken + 1) % 4 := by
  obtain ⟨taken, left, pads, padded⟩ := p
  match taken, h with
  | 0, _ | 1, _ | 2, _ | 3, _ => simp [Progress.take]

theorem pads_take (p : Progress) (n : Nat) : (p.take n).1.pads = 0 := by
  unfold Progress.take
  split <;> rfl

theorem padded_take (p : Progress) (n : Nat) : (p.take n).1.padded = p.padded := by
  unfold Progress.take
  split <;> rfl

/-- A letter is taken, by the strict reader only if there was no padding. -/
theorem decodeFrom_sextet {strict : Bool} {p : Progress} {c : Char} {n : Nat} (rest : List Char)
    (hn : sextet? c = some n) (h : strict = true → p.padded = false) :
    decodeFrom strict p (c :: rest) =
      (decodeFrom strict (p.take n).1 rest).map ((p.take n).2.toList ++ ·) := by
  have hpad : ¬ (strict && p.padded) = true := by
    cases strict with
    | false => simp
    | true => simp [h rfl]
  rw [decodeFrom, if_neg (ne_pad_of_sextet? hn), hn]
  exact if_neg hpad

/-! ## Letters, and padding -/

/-- Both readers take letters alike, as long as there was no padding. -/
theorem decodeFrom_letters {letters : List Char} {p : Progress}
    (hletters : ∀ c ∈ letters, (sextet? c).isSome) (htaken : p.taken < 4) (hpads : p.pads = 0)
    (hpadded : p.padded = false) :
    ∃ (q : Progress) (bs : List UInt8), q.taken = (p.taken + letters.length) % 4 ∧ q.pads = 0 ∧
      q.padded = false ∧ ∀ strict rest, decodeFrom strict p (letters ++ rest) =
        (decodeFrom strict q rest).map (bs ++ ·) := by
  induction letters generalizing p with
  | nil => exact ⟨p, [], (Nat.mod_eq_of_lt htaken).symm, hpads, hpadded, by simp⟩
  | cons c letters ih =>
      obtain ⟨hc, hrest⟩ := List.forall_mem_cons.mp hletters
      obtain ⟨n, hn⟩ := Option.isSome_iff_exists.mp hc
      have hnext := taken_take p n htaken
      obtain ⟨q, bs, htaken', hpads', hpadded', hq⟩ := ih hrest
        (by omega) (pads_take p n) ((padded_take p n).trans hpadded)
      refine ⟨q, (p.take n).2.toList ++ bs, ?_, hpads', hpadded', ?_⟩
      · rw [htaken', hnext, List.length_cons]
        omega
      · intro strict rest
        rw [List.cons_append, decodeFrom_sextet _ hn fun _ => hpadded, hq, Option.map_map]
        simp only [Function.comp_def, List.append_assoc]

/-- Padding after whole groups is passed over. -/
theorem decodeFrom_pads_zero (strict : Bool) {p : Progress} (h : p.taken = 0) (pads : Nat) :
    decodeFrom strict p (List.replicate pads '=') = some [] := by
  induction pads generalizing p with
  | zero => simp [decodeFrom, h]
  | succ pads ih =>
      rw [List.replicate_succ, decodeFrom, if_pos rfl, if_neg (by omega)]
      exact ih h

/-- Padding does not complete a group of one letter. -/
theorem decodeFrom_pads_one (strict : Bool) {p : Progress} (h : p.taken = 1) (pads : Nat) :
    decodeFrom strict p (List.replicate pads '=') = none := by
  induction pads generalizing p with
  | zero => simp [decodeFrom, h]
  | succ pads ih =>
      rw [List.replicate_succ, decodeFrom, if_pos rfl, if_neg (by omega)]
      exact ih h

/-- Padding has to complete a group of two letters or three, and where reading is strict it has
to end there. -/
theorem decodeFrom_pads {strict : Bool} {p : Progress} {bs : List UInt8} (h : 2 ≤ p.taken)
    (hlt : p.taken < 4) (hpads : p.pads = 0) (pads : Nat) :
    decodeFrom strict p (List.replicate pads '=') = some bs ↔
      bs = [] ∧ 4 ≤ p.taken + pads ∧ (strict = true → p.taken + pads ≤ 4) := by
  obtain ⟨taken, left, count, padded⟩ := p
  dsimp only at h hlt hpads ⊢
  subst hpads
  have hcases : taken = 2 ∨ taken = 3 := by omega
  obtain rfl | rfl := hcases
  · match pads with
    | 0 => simp [decodeFrom]
    | 1 => simp [List.replicate_succ, decodeFrom]
    | 2 => cases strict <;> simp [List.replicate_succ, decodeFrom, eq_comm]
    | pads + 3 => cases strict <;> simp [List.replicate_succ, decodeFrom, eq_comm] <;> omega
  · match pads with
    | 0 => simp [decodeFrom]
    | 1 => cases strict <;> simp [List.replicate_succ, decodeFrom, eq_comm]
    | pads + 2 => cases strict <;> simp [List.replicate_succ, decodeFrom, eq_comm] <;> omega

/-! ## Strict readers take less -/

/-- After padding the strict reader takes nothing but padding. -/
theorem eq_pad_of_padded {p : Progress} {cs : List Char} {bs : List UInt8}
    (hpadded : p.padded = true) (h : decodeFrom true p cs = some bs) : ∀ c ∈ cs, c = '=' := by
  fun_induction decodeFrom true p cs generalizing bs with
  | case1 => simp
  | case2 | case3 | case7 | case9 => cases h
  | case4 p rest hgroup hcomplete hend => simp_all
  | case5 p rest _ _ ih | case6 p rest _ ih => exact List.forall_mem_cons.mpr ⟨rfl, ih rfl h⟩
  | case8 p c rest hpad hforeign hstrict => exact absurd rfl hstrict
  | case10 p c rest hpad n hn hstart => simp [hpadded] at hstart

/-- What the strict reader takes is letters and then padding. -/
theorem exists_letters_of_strict {p : Progress} {cs : List Char} {bs : List UInt8}
    (h : decodeFrom true p cs = some bs) :
    ∃ (letters : List Char) (pads : Nat), cs = letters ++ List.replicate pads '=' ∧
      ∀ c ∈ letters, (sextet? c).isSome := by
  fun_induction decodeFrom true p cs generalizing bs with
  | case1 => exact ⟨[], 0, rfl, by simp⟩
  | case2 | case3 | case7 | case9 => cases h
  | case4 p rest hgroup hcomplete hend =>
      have hrest : rest = [] := by simpa using hend
      exact ⟨[], 1, by rw [hrest]; rfl, by simp⟩
  | case5 p rest | case6 p rest =>
      have hrest := List.eq_replicate_of_mem (eq_pad_of_padded rfl h)
      exact ⟨[], rest.length + 1, by rw [List.replicate_succ, ← hrest]; rfl, by simp⟩
  | case8 p c rest hpad hforeign hstrict => exact absurd rfl hstrict
  | case10 p c rest hpad n hn hstart next byte htake ih =>
      obtain ⟨bs', hbs', -⟩ := Option.map_eq_some_iff.mp h
      obtain ⟨letters, pads, rfl, hletters⟩ := ih hbs'
      refine ⟨c :: letters, pads, rfl, List.forall_mem_cons.mpr ⟨?_, hletters⟩⟩
      rw [hn]
      rfl

/-- Padding is read strictly exactly if it is read at all and does not go beyond the end of a
group. -/
theorem decodeFrom_pads_strict_iff {p : Progress} {bs : List UInt8} (htaken : p.taken < 4)
    (hpads : p.pads = 0) (pads : Nat) :
    decodeFrom true p (List.replicate pads '=') = some bs ↔
      decodeFrom false p (List.replicate pads '=') = some bs ∧
        (p.taken ≠ 0 → p.taken + pads ≤ 4) := by
  obtain hzero | hone | hmore : p.taken = 0 ∨ p.taken = 1 ∨ 2 ≤ p.taken := by omega
  · simp [decodeFrom_pads_zero _ hzero, hzero]
  · simp [decodeFrom_pads_one _ hone]
  · rw [decodeFrom_pads hmore htaken hpads, decodeFrom_pads hmore htaken hpads]
    have hne : p.taken ≠ 0 := by omega
    simp [hne, and_assoc]

theorem decodeChars_lenient (cs : List Char) :
    decodeChars false cs = decodeFrom false .start cs := rfl

theorem decodeChars_strict {cs : List Char} (h : cs.head? ≠ some '=') :
    decodeChars true cs = decodeFrom true .start cs := by
  rw [decodeChars, if_neg (by simp [h])]

/-- Letters and padding are read strictly exactly if they are read at all and are unbroken. -/
theorem decodeChars_strict_letters {letters : List Char} {bs : List UInt8}
    (hletters : ∀ c ∈ letters, (sextet? c).isSome) (pads : Nat) :
    decodeChars true (letters ++ List.replicate pads '=') = some bs ↔
      decodeChars false (letters ++ List.replicate pads '=') = some bs ∧
        (letters = [] → pads = 0) ∧
        (letters.length % 4 ≠ 0 → letters.length % 4 + pads ≤ 4) := by
  have hhead : (letters ++ List.replicate pads '=').head? = some '=' ↔
      ¬ (letters = [] → pads = 0) := by
    cases letters with
    | nil => cases pads <;> simp [List.replicate_succ]
    | cons c letters =>
        obtain ⟨n, hn⟩ := Option.isSome_iff_exists.mp (List.forall_mem_cons.mp hletters).1
        simp [ne_pad_of_sextet? hn]
  obtain ⟨q, taken, htaken, hpads, -, hq⟩ :=
    decodeFrom_letters hletters (p := .start) (by decide) rfl rfl
  have hstart : letters.length % 4 = q.taken := by
    rw [htaken]
    simp [Progress.start]
  have hlt : q.taken < 4 := by omega
  by_cases hleading : letters = [] → pads = 0
  · rw [decodeChars_strict (fun h => hhead.mp h hleading), decodeChars_lenient, hq, hq, hstart,
      Option.map_eq_some_iff, Option.map_eq_some_iff]
    constructor
    · rintro ⟨rest, hrest, hbs⟩
      obtain ⟨hread, hgroup⟩ := (decodeFrom_pads_strict_iff hlt hpads pads).mp hrest
      exact ⟨⟨rest, hread, hbs⟩, hleading, hgroup⟩
    · rintro ⟨⟨rest, hread, hbs⟩, -, hgroup⟩
      exact ⟨rest, (decodeFrom_pads_strict_iff hlt hpads pads).mpr ⟨hread, hgroup⟩, hbs⟩
  · simp [decodeChars, hhead.mpr hleading, hleading]

/-- The strict reader takes the unbroken texts that the lenient reader takes, and with the same
bytes. -/
theorem decodeChars_strict_iff {cs : List Char} {bs : List UInt8} :
    decodeChars true cs = some bs ↔ decodeChars false cs = some bs ∧ IsUnbroken cs := by
  constructor
  · intro h
    have hfrom : decodeFrom true .start cs = some bs := by
      unfold decodeChars at h
      split at h
      · cases h
      · exact h
    obtain ⟨letters, pads, rfl, hletters⟩ := exists_letters_of_strict hfrom
    obtain ⟨hread, hleading, hgroup⟩ := (decodeChars_strict_letters hletters pads).mp h
    exact ⟨hread, letters, pads, rfl, hletters, hleading, hgroup⟩
  · rintro ⟨hread, letters, pads, rfl, hletters, hleading, hgroup⟩
    exact (decodeChars_strict_letters hletters pads).mpr ⟨hread, hleading, hgroup⟩

/-! ## What the lenient reader keeps -/

/-- The characters that the lenient reader keeps: the letters up to the end of the text or of a
group that padding completes, and that padding. -/
def keptFrom : Progress → List Char → List Char
  | _, [] => []
  | p, c :: rest =>
    if c = '=' then
      if 2 ≤ p.taken then
        if 4 ≤ p.taken + p.pads + 1 then List.replicate (4 - p.taken) '='
        else keptFrom { p with pads := p.pads + 1, padded := true } rest
      else keptFrom { p with padded := true } rest
    else
      match sextet? c with
      | none => keptFrom p rest
      | some n => c :: keptFrom (p.take n).1 rest

/-- The characters of a text that the lenient reader keeps. -/
def kept (cs : List Char) : List Char :=
  keptFrom .start cs

/-- What is kept stands in the text, or is padding that was seen before. -/
theorem keptFrom_sublist (p : Progress) (cs : List Char) :
    (keptFrom p cs).Sublist (List.replicate p.pads '=' ++ cs) := by
  fun_induction keptFrom p cs with
  | case1 => simp
  | case2 p rest hgroup hcomplete =>
      have hpads : List.replicate p.pads '=' ++ ['='] = List.replicate (p.pads + 1) '=' :=
        List.replicate_succ'.symm
      rw [← List.singleton_append, ← List.append_assoc, hpads]
      refine List.Sublist.trans ?_ (List.sublist_append_left _ _)
      exact (List.replicate_sublist_replicate '=').mpr (by omega)
  | case3 p rest hgroup hopen ih =>
      rwa [List.replicate_succ', List.append_assoc] at ih
  | case4 p rest hgroup ih =>
      exact ih.trans ((List.sublist_cons_self _ _).append_left _)
  | case5 p c rest hpad hforeign ih =>
      exact ih.trans ((List.sublist_cons_self _ _).append_left _)
  | case6 p c rest hpad n hn ih =>
      rw [pads_take, List.replicate_zero, List.nil_append] at ih
      exact (ih.cons_cons c).trans (List.sublist_append_right _ _)

theorem kept_sublist (cs : List Char) : (kept cs).Sublist cs :=
  keptFrom_sublist .start cs

/-- A reader that has forgotten all padding. -/
def Progress.clear (p : Progress) : Progress :=
  { p with pads := 0, padded := false }

theorem take_clear (p : Progress) (n : Nat) :
    p.clear.take n = ((p.take n).1.clear, (p.take n).2) := by
  obtain ⟨taken, left, pads, padded⟩ := p
  match taken with
  | 0 | 1 | 2 | _ + 3 => rfl

/-- The lenient reader reads what it keeps as the strict reader does. -/
theorem decodeFrom_keptFrom {p : Progress} (cs : List Char) (h : p.taken < 4) :
    decodeFrom true p.clear (keptFrom p cs) = decodeFrom false p cs := by
  fun_induction keptFrom p cs with
  | case1 p => rfl
  | case2 p rest hgroup hcomplete =>
      have htaken : p.clear.taken = p.taken := rfl
      rw [decodeFrom, if_pos rfl, if_pos hgroup, if_pos hcomplete]
      exact (decodeFrom_pads (p := p.clear) hgroup h rfl _).mpr
        ⟨rfl, by omega, fun _ => by omega⟩
  | case3 p rest hgroup hopen ih =>
      rw [decodeFrom, if_pos rfl, if_pos hgroup, if_neg hopen]
      exact ih h
  | case4 p rest hgroup ih =>
      rw [decodeFrom, if_pos rfl, if_neg hgroup]
      exact ih h
  | case5 p c rest hpad hforeign ih =>
      rw [decodeFrom, if_neg hpad, hforeign]
      exact ih h
  | case6 p c rest hpad n hn ih =>
      have hnext := taken_take p n h
      have hclear : p.clear.padded = false := rfl
      have hlenient : false = true → p.padded = false := nofun
      rw [decodeFrom_sextet (p := p.clear) _ hn fun _ => hclear, decodeFrom_sextet _ hn hlenient,
        take_clear, ih (by omega)]

/-- The first character that is kept is a letter. -/
theorem head?_keptFrom {p : Progress} (cs : List Char) (h : p.taken < 2) :
    (keptFrom p cs).head? ≠ some '=' := by
  fun_induction keptFrom p cs with
  | case1 => simp
  | case2 p rest hgroup | case3 p rest hgroup => omega
  | case4 p rest hgroup ih => exact ih h
  | case5 p c rest hpad hforeign ih => exact ih h
  | case6 p c rest hpad => simpa using hpad

/-- The lenient reader is the strict one on what it keeps of a text. -/
theorem decodeChars_kept (cs : List Char) : decodeChars true (kept cs) = decodeChars false cs := by
  have hstart : Progress.start.taken = 0 := rfl
  rw [kept, decodeChars_strict (head?_keptFrom cs (by omega)), decodeChars_lenient,
    ← decodeFrom_keptFrom cs (by omega)]
  rfl

/-! ## Whole texts -/

theorem decode_eq_ok_iff {strict : Bool} {s : String} {bs : List UInt8} :
    decode strict s = .ok bs ↔
      (∀ c ∈ s.toList, c.toNat < 128) ∧ decodeChars strict s.toList = some bs := by
  unfold decode
  by_cases hascii : s.toList.all (·.toNat < 128) = true
  · have hall : ∀ c ∈ s.toList, c.toNat < 128 := by simpa using hascii
    rw [if_pos hascii]
    cases hread : decodeChars strict s.toList with
    | none => simp
    | some found => simpa using fun _ => hall
  · have hsome : ¬ ∀ c ∈ s.toList, c.toNat < 128 := by simpa using hascii
    rw [if_neg hascii]
    simp [hsome]

/-- A text is read strictly exactly if it is read leniently and is unbroken, and then with the
same bytes. -/
theorem decode_strict_iff {s : String} {bs : List UInt8} :
    decode true s = .ok bs ↔ decode false s = .ok bs ∧ IsUnbroken s.toList := by
  rw [decode_eq_ok_iff, decode_eq_ok_iff, decodeChars_strict_iff, and_assoc]

/-- What is read leniently is what is read strictly of the characters that are kept. -/
theorem decode_kept {s : String} {bs : List UInt8} (h : decode false s = .ok bs) :
    decode true (String.ofList (kept s.toList)) = .ok bs := by
  obtain ⟨hascii, hread⟩ := decode_eq_ok_iff.mp h
  rw [decode_eq_ok_iff, String.toList_ofList, decodeChars_kept]
  exact ⟨fun c hc => hascii c ((kept_sublist _).subset hc), hread⟩

/-- A text that the lenient reader mends: it reads the text, though the text is broken. -/
def IsMended (s : String) : Prop :=
  ¬ IsUnbroken s.toList ∧ ∃ bs, decode false s = .ok bs

end VectorRequests.Base64
