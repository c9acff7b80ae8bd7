/-
# Documents are read back from JSON

A written document is read back if it nests no deeper than the reader goes and its integers
are no longer than the reader takes. Floats are left out: they are read as what their digits
are nearest to, which is a matter of its own. The induction is on the fuel of the reader; what
it carries says for values, for the items of lists and for the entries of objects how much fuel
the characters ahead need.
-/

import VectorRequests.Proofs.Json.Leaf

namespace VectorRequests.Json

open VectorRequests.Text

mutual

/-- A document that can be read back where lists and objects may nest `depth` deep. -/
def Readable : (depth : Nat) → Json → Prop
  | _, .null => True
  | _, .bool _ => True
  | _, .int i => Integer.IsShort i
  | _, .float _ => False
  | _, .text _ => True
  | 0, .list _ => False
  | depth + 1, .list items => ItemsReadable depth items
  | 0, .object _ => False
  | depth + 1, .object entries => EntriesReadable depth entries

/-- Items of a list that can be read back. -/
def ItemsReadable : (depth : Nat) → List Json → Prop
  | _, [] => True
  | depth, x :: xs => Readable depth x ∧ ItemsReadable depth xs

/-- Entries of an object that can be read back. -/
def EntriesReadable : (depth : Nat) → List (String × Json) → Prop
  | _, [] => True
  | depth, (_, x) :: rest => Readable depth x ∧ EntriesReadable depth rest

end

/-! ## Documents without parts -/

theorem skipSpace_cons {c : Char} (rest : List Char) (h : isSpace c = false) :
    skipSpace (c :: rest) = c :: rest := by
  rw [skipSpace, List.dropWhile_cons_of_neg (by simp [h])]

/-- What starts like no text, list or object is a name or a number. -/
theorem readValue?_leaf {fuel depth : Nat} {c : Char} {s : List Char} (hspace : isSpace c = false)
    (htext : c ≠ '"') (hlist : c ≠ '[') (hobject : c ≠ '\x7b') :
    readValue? (fuel + 1) depth (c :: s) = (readName? (c :: s)).or (readNumber? (c :: s)) := by
  rw [readValue?.eq_def]
  simp only [skipSpace_cons s hspace]
  split
  next heq => cases heq; exact absurd rfl htext
  next heq => cases heq; exact absurd rfl hlist
  next heq => cases heq; exact absurd rfl hobject
  next => rfl

theorem readValue?_null (fuel depth : Nat) (rest : List Char) :
    readValue? (fuel + 1) depth (writeChars .null ++ rest) = some (.null, rest) := by
  have hchars : writeChars .null ++ rest = 'n' :: 'u' :: 'l' :: 'l' :: rest := by
    simp [writeChars]
  rw [hchars, readValue?_leaf (by decide) (by decide) (by decide) (by decide)]
  simp [readName?, names]

theorem readValue?_bool (fuel depth : Nat) (b : Bool) (rest : List Char) :
    readValue? (fuel + 1) depth (writeChars (.bool b) ++ rest) = some (.bool b, rest) := by
  cases b with
  | true =>
      have hchars : writeChars (.bool true) ++ rest = 't' :: 'r' :: 'u' :: 'e' :: rest := by
        simp [writeChars]
      rw [hchars, readValue?_leaf (by decide) (by decide) (by decide) (by decide)]
      simp [readName?, names]
  | false =>
      have hchars : writeChars (.bool false) ++ rest =
          'f' :: 'a' :: 'l' :: 's' :: 'e' :: rest := by
        simp [writeChars]
      rw [hchars, readValue?_leaf (by decide) (by decide) (by decide) (by decide)]
      simp [readName?, names]

theorem ne_of_isDigit {c d : Char} (hc : c.isDigit = true) (hd : d.isDigit = false) : c ≠ d := by
  rintro rfl
  rw [hc] at hd
  cases hd

/-- No name starts like a number. -/
theorem readName?_digit {c : Char} (s : List Char) (h : c.isDigit = true) :
    readName? (c :: s) = none ∧ readName? ('-' :: c :: s) = none := by
  have hn : c ≠ 'n' := ne_of_isDigit h (by decide)
  have ht : c ≠ 't' := ne_of_isDigit h (by decide)
  have hf : c ≠ 'f' := ne_of_isDigit h (by decide)
  have hnan : c ≠ 'N' := ne_of_isDigit h (by decide)
  have hinf : c ≠ 'I' := ne_of_isDigit h (by decide)
  have hminus : c ≠ '-' := ne_of_isDigit h (by decide)
  constructor
  · simp [readName?, names, hn.symm, ht.symm, hf.symm, hnan.symm, hinf.symm, hminus.symm]
  · simp [readName?, names, hinf.symm]

theorem isSpace_of_isDigit {c : Char} (h : c.isDigit = true) : isSpace c = false := by
  have hblank : c ≠ ' ' := ne_of_isDigit h (by decide)
  have htab : c ≠ '\t' := ne_of_isDigit h (by decide)
  have hline : c ≠ '\n' := ne_of_isDigit h (by decide)
  have hreturn : c ≠ '\r' := ne_of_isDigit h (by decide)
  simp [isSpace, hblank, htab, hline, hreturn]

theorem readValue?_int {fuel depth : Nat} {i : Int} {rest : List Char}
    (hshort : Integer.IsShort i) (hrest : EndsNumber rest) :
    readValue? (fuel + 1) depth (writeChars (.int i) ++ rest) = some (.int i, rest) := by
  have hnumber := readNumber?_write hrest hshort
  obtain ⟨c, cs, hcs⟩ := List.exists_cons_of_ne_nil (Integer.writeNat_ne_nil i.natAbs)
  have hdigit : c.isDigit = true :=
    Integer.isDigit_of_mem_writeNat (hcs ▸ List.mem_cons_self ..)
  obtain ⟨hname, hminus⟩ := readName?_digit (cs ++ rest) hdigit
  show readValue? (fuel + 1) depth ((Integer.write i).toList ++ rest) = _
  rw [Integer.write, String.toList_ofList, hcs] at hnumber ⊢
  by_cases hneg : i < 0
  · rw [if_pos hneg, List.cons_append, List.cons_append] at hnumber ⊢
    rw [readValue?_leaf (by decide) (by decide) (by decide) (by decide), hminus, hnumber]
    rfl
  · rw [if_neg hneg, List.cons_append] at hnumber ⊢
    rw [readValue?_leaf (isSpace_of_isDigit hdigit) (ne_of_isDigit hdigit (by decide))
      (ne_of_isDigit hdigit (by decide)) (ne_of_isDigit hdigit (by decide)), hname, hnumber]
    rfl

theorem readText?_writeText (s : String) (rest : List Char) :
    ∃ chars, writeText s ++ rest = '"' :: chars ∧
      readText? chars = some (s.toList, rest) := by
  refine ⟨s.toList.flatMap writeChar ++ '"' :: rest, ?_, readText?_flatMap _ _⟩
  rw [writeText, List.cons_append, List.cons_append, List.append_assoc]
  rfl

theorem readValue?_text (fuel depth : Nat) (s : String) (rest : List Char) :
    readValue? (fuel + 1) depth (writeChars (.text s) ++ rest) = some (.text s, rest) := by
  obtain ⟨chars, hchars, hread⟩ := readText?_writeText s rest
  show readValue? (fuel + 1) depth (writeText s ++ rest) = _
  rw [hchars, readValue?.eq_def]
  simp only [skipSpace_cons chars (by decide : isSpace '"' = false), hread, Option.map_some,
    String.ofList_toList]

/-! ## Lists and objects -/

/-- A document that can be read back starts neither with a blank nor with the end of a list. -/
theorem writeChars_head {depth : Nat} {j : Json} (h : Readable depth j) :
    ∃ c cs, writeChars j = c :: cs ∧ isSpace c = false ∧ c ≠ ']' := by
  cases j with
  | null => exact ⟨'n', ['u', 'l', 'l'], by simp [writeChars], by decide, by decide⟩
  | bool b =>
      cases b with
      | true => exact ⟨'t', ['r', 'u', 'e'], by simp [writeChars], by decide, by decide⟩
      | false => exact ⟨'f', ['a', 'l', 's', 'e'], by simp [writeChars], by decide, by decide⟩
  | int i =>
      obtain ⟨c, cs, hcs⟩ := List.exists_cons_of_ne_nil (Integer.writeNat_ne_nil i.natAbs)
      have hdigit : c.isDigit = true :=
        Integer.isDigit_of_mem_writeNat (hcs ▸ List.mem_cons_self ..)
      rw [writeChars, Integer.write, String.toList_ofList]
      by_cases hneg : i < 0
      · rw [if_pos hneg]
        exact ⟨'-', _, rfl, by decide, by decide⟩
      · rw [if_neg hneg]
        exact ⟨c, cs, hcs, isSpace_of_isDigit hdigit, ne_of_isDigit hdigit (by decide)⟩
  | float => simp [Readable] at h
  | text s => exact ⟨'"', _, rfl, by decide, by decide⟩
  | list items => exact ⟨'[', _, rfl, by decide, by decide⟩
  | object entries => exact ⟨'\x7b', _, rfl, by decide, by decide⟩

theorem endsNumber_comma (rest : List Char) : EndsNumber (',' :: rest) := by
  rintro c ⟨⟩
  decide

theorem endsNumber_bracket (rest : List Char) : EndsNumber (']' :: rest) := by
  rintro c ⟨⟩
  decide

theorem endsNumber_brace (rest : List Char) : EndsNumber ('\x7d' :: rest) := by
  rintro c ⟨⟩
  decide

theorem commas_cons {item : List Char} {items : List (List Char)} (h : items ≠ []) :
    commas (item :: items) = item ++ ',' :: commas items := by
  cases items with
  | nil => exact absurd rfl h
  | cons => rfl

theorem commas_head {c : Char} {item cs : List Char} (items : List (List Char))
    (h : item = c :: cs) : ∃ s, commas (item :: items) = c :: s := by
  cases items with
  | nil => exact ⟨cs, h⟩
  | cons next items =>
      rw [commas_cons (List.cons_ne_nil next items), h]
      exact ⟨cs ++ ',' :: commas (next :: items), rfl⟩

/-- Values are read back with so much fuel. -/
def ReadsValues (fuel : Nat) : Prop :=
  ∀ {depth : Nat} {j : Json} (rest : List Char), Readable depth j →
    2 * (writeChars j).length + 1 ≤ fuel → EndsNumber rest →
    readValue? fuel depth (writeChars j ++ rest) = some (j, rest)

/-- Items of lists are read back with so much fuel. -/
def ReadsItems (fuel : Nat) : Prop :=
  ∀ {depth : Nat} {items : List Json} (rest : List Char), items ≠ [] →
    ItemsReadable depth items → 2 * (commas (writeItems items)).length + 2 ≤ fuel →
    readItems? fuel depth (commas (writeItems items) ++ ']' :: rest) = some (items, rest)

/-- Entries of objects are read back with so much fuel. -/
def ReadsEntries (fuel : Nat) : Prop :=
  ∀ {depth : Nat} {entries : List (String × Json)} (rest : List Char), entries ≠ [] →
    EntriesReadable depth entries → 2 * (commas (writeEntries entries)).length + 2 ≤ fuel →
    readEntries? fuel depth (commas (writeEntries entries) ++ '\x7d' :: rest) =
      some (entries, rest)

theorem readItems?_succ {fuel : Nat} (hvalues : ReadsValues fuel) (hitems : ReadsItems fuel) :
    ReadsItems (fuel + 1) := by
  intro depth items rest hne hreadable hfuel
  cases items with
  | nil => exact absurd rfl hne
  | cons item items =>
      obtain ⟨hitem, hrest⟩ := hreadable
      cases items with
      | nil =>
          have hread := hvalues (']' :: rest) hitem
            (by simp only [writeItems, commas] at hfuel; omega) (endsNumber_bracket rest)
          rw [readItems?]
          simp only [writeItems, commas, hread, Option.bind_eq_bind, Option.bind_some,
            skipSpace_cons rest (by decide : isSpace ']' = false)]
          rfl
      | cons next items =>
          have hcommas : commas (writeItems (item :: next :: items)) =
              writeChars item ++ ',' :: commas (writeItems (next :: items)) :=
            commas_cons (by simp [writeItems])
          rw [hcommas, List.length_append, List.length_cons] at hfuel
          obtain ⟨c, cs, hhead, -⟩ := writeChars_head hitem
          have hread := hvalues (',' :: (commas (writeItems (next :: items)) ++ ']' :: rest))
            hitem (by omega) (endsNumber_comma _)
          have hmore := hitems rest (by simp) hrest
            (by rw [hhead, List.length_cons] at hfuel; omega)
          rw [hcommas, List.append_assoc, List.cons_append, readItems?]
          simp only [hread, hmore, Option.bind_eq_bind, Option.bind_some,
            skipSpace_cons _ (by decide : isSpace ',' = false)]
          rfl

/-- The last name of an object and its value are read back. -/
theorem readEntries?_last {fuel depth : Nat} {name : String} {j : Json} {rest : List Char}
    (hread : readValue? fuel depth (writeChars j ++ '\x7d' :: rest) = some (j, '\x7d' :: rest)) :
    readEntries? (fuel + 1) depth (writeText name ++ ':' :: (writeChars j ++ '\x7d' :: rest)) =
      some ([(name, j)], rest) := by
  obtain ⟨chars, hchars, hname⟩ :=
    readText?_writeText name (':' :: (writeChars j ++ '\x7d' :: rest))
  rw [hchars, readEntries?]
  simp only [skipSpace_cons chars (by decide : isSpace '"' = false), hname, Option.bind_eq_bind,
    Option.bind_some, skipSpace_cons _ (by decide : isSpace ':' = false), hread,
    String.ofList_toList, skipSpace_cons rest (by decide : isSpace '\x7d' = false)]
  rfl

/-- A name and its value are read back before a comma. -/
theorem readEntries?_next {fuel depth : Nat} {name : String} {j : Json} {rest after : List Char}
    {entries : List (String × Json)}
    (hread : readValue? fuel depth (writeChars j ++ ',' :: rest) = some (j, ',' :: rest))
    (hmore : readEntries? fuel depth rest = some (entries, after)) :
    readEntries? (fuel + 1) depth (writeText name ++ ':' :: (writeChars j ++ ',' :: rest)) =
      some ((name, j) :: entries, after) := by
  obtain ⟨chars, hchars, hname⟩ :=
    readText?_writeText name (':' :: (writeChars j ++ ',' :: rest))
  rw [hchars, readEntries?]
  simp only [skipSpace_cons chars (by decide : isSpace '"' = false), hname, Option.bind_eq_bind,
    Option.bind_some, skipSpace_cons _ (by decide : isSpace ':' = false), hread,
    String.ofList_toList, skipSpace_cons rest (by decide : isSpace ',' = false), hmore]
  rfl

theorem readEntries?_succ {fuel : Nat} (hvalues : ReadsValues fuel)
    (hentries : ReadsEntries fuel) : ReadsEntries (fuel + 1) := by
  intro depth entries rest hne hreadable hfuel
  cases entries with
  | nil => exact absurd rfl hne
  | cons entry entries =>
      obtain ⟨name, j⟩ := entry
      obtain ⟨hj, hrest⟩ := hreadable
      cases entries with
      | nil =>
          have hcommas : commas (writeEntries [(name, j)]) =
              writeText name ++ ':' :: writeChars j := rfl
          rw [hcommas, List.length_append, List.length_cons] at hfuel
          have hread := hvalues ('\x7d' :: rest) hj (by omega) (endsNumber_brace rest)
          rw [hcommas, List.append_assoc, List.cons_append]
          exact readEntries?_last hread
      | cons next entries =>
          have hcommas : commas (writeEntries ((name, j) :: next :: entries)) =
              (writeText name ++ ':' :: writeChars j) ++
                ',' :: commas (writeEntries (next :: entries)) :=
            commas_cons (by simp [writeEntries])
          rw [hcommas, List.length_append, List.length_append, List.length_cons,
            List.length_cons] at hfuel
          have hread := hvalues
            (',' :: (commas (writeEntries (next :: entries)) ++ '\x7d' :: rest))
            hj (by omega) (endsNumber_comma _)
          have hmore := hentries rest (by simp) hrest (by omega)
          rw [hcommas, List.append_assoc, List.append_assoc, List.cons_append, List.cons_append]
          exact readEntries?_next hread hmore

/-- A list that is not empty is read item by item. -/
theorem readValue?_items {fuel depth : Nat} {c : Char} {s rest : List Char} {items : List Json}
    (hspace : isSpace c = false) (hend : c ≠ ']')
    (hread : readItems? fuel depth (c :: s) = some (items, rest)) :
    readValue? (fuel + 1) (depth + 1) ('[' :: c :: s) = some (.list items, rest) := by
  rw [readValue?.eq_def]
  simp only [skipSpace_cons _ (by decide : isSpace '[' = false), skipSpace_cons s hspace]
  split
  next heq => cases heq; exact absurd rfl hend
  next => rw [hread]; rfl

/-- An object that is not empty is read entry by entry. -/
theorem readValue?_entries {fuel depth : Nat} {s rest : List Char}
    {entries : List (String × Json)}
    (hread : readEntries? fuel depth ('"' :: s) = some (entries, rest)) :
    readValue? (fuel + 1) (depth + 1) ('\x7b' :: '"' :: s) = some (.object entries, rest) := by
  rw [readValue?.eq_def]
  simp only [skipSpace_cons _ (by decide : isSpace '\x7b' = false),
    skipSpace_cons s (by decide : isSpace '"' = false)]
  split
  next heq => cases heq
  next => rw [hread]; rfl

theorem readValue?_nil {fuel depth : Nat} (rest : List Char) :
    readValue? (fuel + 1) (depth + 1) ('[' :: ']' :: rest) = some (.list [], rest) ∧
      readValue? (fuel + 1) (depth + 1) ('\x7b' :: '\x7d' :: rest) = some (.object [], rest) := by
  constructor
  · rw [readValue?.eq_def]
    simp only [skipSpace_cons _ (by decide : isSpace '[' = false),
      skipSpace_cons _ (by decide : isSpace ']' = false)]
  · rw [readValue?.eq_def]
    simp only [skipSpace_cons _ (by decide : isSpace '\x7b' = false),
      skipSpace_cons _ (by decide : isSpace '\x7d' = false)]

theorem readValue?_succ {fuel : Nat} (hitems : ReadsItems fuel) (hentries : ReadsEntries fuel) :
    ReadsValues (fuel + 1) := by
  intro depth j rest hreadable hfuel hrest
  cases j with
  | null => exact readValue?_null fuel depth rest
  | bool b => exact readValue?_bool fuel depth b rest
  | int i => exact readValue?_int (by simpa [Readable] using hreadable) hrest
  | float => simp [Readable] at hreadable
  | text s => exact readValue?_text fuel depth s rest
  | list items =>
      cases depth with
      | zero => simp [Readable] at hreadable
      | succ depth =>
          have hchars : writeChars (.list items) ++ rest =
              '[' :: (commas (writeItems items) ++ ']' :: rest) := by
            simp [writeChars]
          rw [hchars]
          cases items with
          | nil => exact (readValue?_nil rest).1
          | cons item items =>
              have hlength : (writeChars (.list (item :: items))).length =
                  (commas (writeItems (item :: items))).length + 2 := by
                simp [writeChars]
              have hread := hitems rest (by simp) hreadable (by omega)
              obtain ⟨c, cs, hhead, hspace, hend⟩ := writeChars_head hreadable.1
              obtain ⟨s, hs⟩ := commas_head (writeItems items) hhead
              rw [writeItems, hs, List.cons_append] at hread ⊢
              exact readValue?_items hspace hend hread
  | object entries =>
      cases depth with
      | zero => simp [Readable] at hreadable
      | succ depth =>
          have hchars : writeChars (.object entries) ++ rest =
              '\x7b' :: (commas (writeEntries entries) ++ '\x7d' :: rest) := by
            simp [writeChars]
          rw [hchars]
          cases entries with
          | nil => exact (readValue?_nil rest).2
          | cons entry entries =>
              have hlength : (writeChars (.object (entry :: entries))).length =
                  (commas (writeEntries (entry :: entries))).length + 2 := by
                simp [writeChars]
              have hread := hentries rest (by simp) hreadable (by omega)
              obtain ⟨s, hs⟩ := commas_head (writeEntries entries)
                (rfl : writeText entry.1 ++ ':' :: writeChars entry.2 = '"' :: _)
              rw [writeEntries, hs, List.cons_append] at hread ⊢
              exact readValue?_entries hread

/-- With fuel for its characters, every document that can be read back is. -/
theorem reads (fuel : Nat) : ReadsValues fuel ∧ ReadsItems fuel ∧ ReadsEntries fuel := by
  induction fuel with
  | zero =>
      refine ⟨?_, ?_, ?_⟩
      · intro _ _ _ _ hfuel
        omega
      · intro _ _ _ _ _ hfuel
        omega
      · intro _ _ _ _ _ hfuel
        omega
  | succ fuel ih =>
      obtain ⟨hvalues, hitems, hentries⟩ := ih
      exact ⟨readValue?_succ hitems hentries, readItems?_succ hvalues hitems,
        readEntries?_succ hvalues hentries⟩

/-- A document that can be read back is read back from its text. -/
theorem read?_write {j : Json} (h : Readable maxDepth j) : read? j.write = some j := by
  have hends : EndsNumber [] := nofun
  have hlength : j.write.length = (writeChars j).length := String.length_ofList
  have hfuel : 2 * (writeChars j).length + 1 ≤ 2 * j.write.length + 1 := by omega
  have hread := (reads (2 * j.write.length + 1)).1 [] h hfuel hends
  rw [List.append_nil] at hread
  have hchars : j.write.toList = writeChars j := String.toList_ofList
  rw [read?, hchars, hread]
  rfl

end VectorRequests.Json
