/-
# Keys of equal values

Equal values have equal keys, with two exceptions: a sized number is rounded before it is
compared, and so may equal numbers that differ from each other; and the zeros of a float vector
are equal, but not stored alike. Values that are free of both, however deep, are ordinary.

Tuples and records are equal, and have equal keys, if their parts are and do; so ordinary values
that are equal have equal keys.
-/

import VectorRequests.Proofs.Number.Residue
import VectorRequests.Proofs.Outcome
import VectorRequests.Proofs.Vector.Lookup

namespace VectorRequests

namespace Key

variable {ks ls : List Key}

theorem allEqual_iff :
    allEqual ks ls = true ↔ List.Forall₂ (fun k l => k.equal l = true) ks ls := by
  induction ks generalizing ls with
  | nil => cases ls <;> simp [allEqual]
  | cons k ks ih => cases ls <;> simp [allEqual, ih]

theorem allIn_iff : allIn ks ls = true ↔ ∀ k ∈ ks, ∃ l ∈ ls, k.equal l = true := by
  induction ks with
  | nil => simp [allIn]
  | cons k ks ih => simp [allIn, ih]

theorem equal_parts :
    (parts ks).equal (parts ls) = true ↔ List.Forall₂ (fun k l => k.equal l = true) ks ls := by
  rw [equal, allEqual_iff]

theorem equal_bag :
    (bag ks).equal (bag ls) = true ↔
      ks.length = ls.length ∧ ∀ k ∈ ks, ∃ l ∈ ls, k.equal l = true := by
  rw [equal, Bool.and_eq_true, beq_iff_eq, allIn_iff]

theorem equal_ofText (s : String) : (ofText s).equal (ofText s) = true := by
  rw [ofText, equal, beq_self_eq_true]

end Key

namespace Operand

/-- A number that is no cell of an array; truth values are cells of their own. -/
def IsPlain : Operand → Prop
  | .cell .bool _ => True
  | .cell _ _ => False
  | _ => True

theorem worthBeside?_of_isPlain {a b : Operand} (ha : a.IsPlain) (hb : b.IsPlain) :
    a.worthBeside? b = some b.worth := by
  cases a with
  | cell type c =>
      cases type with
      | bool =>
          cases b with
          | cell type d => cases type <;> trivial
          | _ => rfl
      | _ => cases ha
  | _ =>
      cases b with
      | cell type d => cases type <;> trivial
      | _ => rfl

/-- Plain numbers are equal if they are worth the same. -/
theorem equal?_of_isPlain {a b : Operand} (ha : a.IsPlain) (hb : b.IsPlain) :
    a.equal? b = some (a.worth.equal b.worth) := by
  rw [equal?, worthBeside?_of_isPlain hb ha, worthBeside?_of_isPlain ha hb]
  rfl

end Operand

namespace Value

/-! ## Parts of equal values -/

/-- A comparison that goes on only after a positive answer. -/
theorem both_eq_ok_iff {x y : Outcome Bool} :
    (x >>= fun answer => if answer = true then y else pure false) = .ok true ↔
      x = .ok true ∧ y = .ok true := by
  rw [Outcome.bind_eq_ok]
  constructor
  · rintro ⟨answer, hanswer, hrest⟩
    cases answer with
    | true => exact ⟨hanswer, hrest⟩
    | false => cases hrest
  · rintro ⟨hanswer, hrest⟩
    exact ⟨true, hanswer, hrest⟩

theorem allEqual_eq_ok_iff {xs ys : List Value} :
    allEqual xs ys = .ok true ↔ List.Forall₂ (fun x y => equal x y = .ok true) xs ys := by
  induction xs generalizing ys with
  | nil => cases ys <;> simp [allEqual]
  | cons x xs ih =>
      cases ys with
      | nil => simp [allEqual]
      | cons y ys => rw [allEqual, List.forall₂_cons, ← ih, both_eq_ok_iff]

/-- Attributes that hold no payloads are equal if their values are. -/
theorem attributesEqual_eq_ok_iff {kind : RecordKind} {attributes others : List (String × Value)}
    (h : ∀ name, kind.holdsPayload name = false) :
    attributesEqual kind attributes others = .ok true ↔
      List.Forall₂ (fun a b => equal a.2 b.2 = .ok true) attributes others := by
  induction attributes generalizing others with
  | nil => cases others <;> simp [attributesEqual]
  | cons a attributes ih =>
      cases others with
      | nil => simp [attributesEqual]
      | cons b others =>
          obtain ⟨name, value⟩ := a
          obtain ⟨name', value'⟩ := b
          rw [attributesEqual, List.forall₂_cons, ← ih, h, ← both_eq_ok_iff]
          rfl

theorem of_findM? {α : Type} {p : α → Outcome Bool} {xs : List α} {x : α}
    (h : xs.findM? p = .ok (some x)) : x ∈ xs ∧ p x = .ok true := by
  induction xs with
  | nil => cases h
  | cons y xs ih =>
      rw [List.findM?] at h
      obtain ⟨answer, hanswer, h⟩ := Outcome.bind_eq_ok.mp h
      cases answer with
      | true =>
          cases h
          exact ⟨List.mem_cons_self .., hanswer⟩
      | false =>
          obtain ⟨hmem, hx⟩ := ih h
          exact ⟨List.mem_cons_of_mem _ hmem, hx⟩

/-- For every entry of a mapping that equals another one there is an entry of the other, with an
equal value and a key that is looked up alike. -/
theorem exists_entry_of_entriesIn {entries others : List (Value × Value)}
    (h : entriesIn entries others = .ok true) :
    ∀ entry ∈ entries, ∃ other ∈ others,
      entry.1.sharesKey other.1 = true ∧ equal entry.2 other.2 = .ok true := by
  induction entries with
  | nil => simp
  | cons entry rest ih =>
      obtain ⟨key, value⟩ := entry
      rw [entriesIn] at h
      obtain ⟨found, hfound, h⟩ := Outcome.bind_eq_ok.mp h
      cases found with
      | none => cases h
      | some other =>
          obtain ⟨hvalue, hrest⟩ := both_eq_ok_iff.mp h
          obtain ⟨hmem, hkey⟩ := of_findM? hfound
          refine List.forall_mem_cons.mpr ⟨⟨other, hmem, ?_, hvalue⟩, ih hrest⟩
          by_contra hother
          rw [if_neg hother] at hkey
          cases hkey

/-! ## Keys of parts -/

theorem sharesKey_iff {v w : Value} :
    v.sharesKey w = true ↔
      ∃ k l, v.key? = some k ∧ w.key? = some l ∧ k.equal l = true := by
  unfold sharesKey
  cases v.key? <;> cases w.key? <;> simp

theorem keys?_eq_some_iff {xs : List Value} {ks : List Key} :
    keys? xs = some ks ↔ List.Forall₂ (fun x k => x.key? = some k) xs ks := by
  induction xs generalizing ks with
  | nil => cases ks <;> simp [keys?]
  | cons x xs ih =>
      rw [keys?, List.forall₂_cons_left_iff]
      simp only [← ih, Option.bind_eq_bind, Option.bind_eq_some_iff, Option.pure_def,
        Option.some.injEq]
      constructor
      · rintro ⟨k, hk, ks, hks, rfl⟩
        exact ⟨k, ks, hk, hks, rfl⟩
      · rintro ⟨k, ks, hk, hks, rfl⟩
        exact ⟨k, hk, ks, hks, rfl⟩

theorem entryKeys?_eq_some_iff {entries : List (Value × Value)} {ks : List Key} :
    entryKeys? entries = some ks ↔
      List.Forall₂ (fun entry k => ∃ l m, entry.1.key? = some l ∧ entry.2.key? = some m ∧
        k = .parts [l, m]) entries ks := by
  induction entries generalizing ks with
  | nil => cases ks <;> simp [entryKeys?]
  | cons entry entries ih =>
      obtain ⟨key, value⟩ := entry
      rw [entryKeys?, List.forall₂_cons_left_iff]
      simp only [← ih, entryKey, Option.bind_eq_bind, Option.bind_eq_some_iff, Option.pure_def,
        Option.some.injEq]
      constructor
      · rintro ⟨_, ⟨l, hl, m, hm, rfl⟩, ks, hks, rfl⟩
        exact ⟨_, ks, ⟨l, m, hl, hm, rfl⟩, hks, rfl⟩
      · rintro ⟨_, ks, ⟨l, m, hl, hm, rfl⟩, hks, rfl⟩
        exact ⟨_, ⟨l, hl, m, hm, rfl⟩, ks, hks, rfl⟩

/-- What a value adds to the key of a record: its own key, or those of its entries in any
order. -/
def partKey? : Value → Option Key
  | .mapping entries => (entryKeys? entries).map .bag
  | v => v.key?

theorem partKey?_of_key? {v : Value} {k : Key} (h : v.key? = some k) : v.partKey? = some k := by
  unfold partKey?
  split
  · cases h
  · exact h

theorem forall₂_of_attributeKeys? {kind : RecordKind} {attributes : List (String × Value)}
    {ks : List Key} (h : attributeKeys? kind attributes = some ks) :
    List.Forall₂ (fun a k => a.2.partKey? = some k) attributes ks := by
  induction attributes generalizing ks with
  | nil =>
      cases h
      exact .nil
  | cons a attributes ih =>
      obtain ⟨name, value⟩ := a
      unfold attributeKeys? at h
      dsimp only at h
      split at h
      · obtain ⟨k, hk, h⟩ := Option.bind_eq_some_iff.mp h
        obtain ⟨ks, hks, h⟩ := Option.bind_eq_some_iff.mp h
        cases h
        exact .cons hk (ih hks)
      · obtain ⟨k, hk, h⟩ := Option.bind_eq_some_iff.mp h
        obtain ⟨ks, hks, h⟩ := Option.bind_eq_some_iff.mp h
        cases h
        exact .cons (partKey?_of_key? hk) (ih hks)

/-! ## Ordinary values -/

/-- A sized number, or a float vector with a zero. -/
def IsPeculiar : Value → Prop
  | .sized .. => True
  | .vector v => ∃ x ∈ v.components, x.isNonzero = false
  | _ => False

/-- The parts that are compared with those of another value. -/
def parts : Value → List Value
  | .tuple xs => xs
  | .record _ attributes => attributes.map (·.2)
  | .mapping entries => entries.map (·.2)
  | _ => []

/-- A value without anything peculiar, however deep. -/
inductive IsOrdinary : Value → Prop
  | intro {v : Value} (hplain : ¬ v.IsPeculiar) (hparts : ∀ u ∈ v.parts, IsOrdinary u) :
      IsOrdinary v

variable {v w : Value} {k l : Key}

/-! ### Numbers -/

/-- A plain number is keyed by what it is worth. -/
theorem key?_of_operand? {a : Operand} (hplain : ¬ v.IsPeculiar) (h : v.operand? = some a) :
    v.key? = some (Key.ofExact a.worth) ∧ a.IsPlain := by
  cases v with
  | bool b | float b | int b | dataType b | placeholderType b | msgType b | dslType b =>
      cases h
      exact ⟨rfl, trivial⟩
  | sized type c => exact absurd trivial hplain
  | _ => cases h

/-- Plain numbers that are equal have equal keys. -/
theorem equal_of_numbersEqual {a b : Operand} (ha : a.IsPlain) (hb : b.IsPlain)
    (h : numbersEqual a b = .ok true) :
    (Key.ofExact a.worth).equal (Key.ofExact b.worth) = true := by
  rw [numbersEqual, Operand.equal?_of_isPlain ha hb] at h
  exact Key.equal_ofExact (Except.ok.inj h)

/-! ### Values without parts -/

/-- Ranges with the same terms are keyed alike. -/
theorem equal_ofRange {start stop step start' stop' step' : Int}
    (h : rangesEqual start stop step start' stop' step' = true) :
    (Key.ofRange start stop step).equal (Key.ofRange start' stop' step') = true := by
  obtain ⟨hcount, hterms⟩ := (Bool.and_eq_true _ _).mp h
  have hnothing : Key.nothing.equal .nothing = true := rfl
  have hterm (needed : Bool) {i j : Int} (hij : needed = true → i = j) :
      (if needed then Key.ofExact (.ofInt i) else .nothing).equal
        (if needed then Key.ofExact (.ofInt j) else .nothing) = true := by
    cases needed with
    | false => exact hnothing
    | true =>
        rw [hij rfl]
        exact Key.equal_ofInt j
  unfold Key.ofRange
  rw [← eq_of_beq hcount, Key.equal_parts]
  simp only [Bool.or_eq_true, Bool.and_eq_true, beq_iff_eq] at hterms
  refine .cons (Key.equal_ofInt _)
    (.cons (hterm _ fun hpos => ?_) (.cons (hterm _ fun hmany => ?_) .nil))
  · have hpos := of_decide_eq_true hpos
    exact (hterms.resolve_left (by omega)).1
  · have hmany := of_decide_eq_true hmany
    exact (hterms.resolve_left (by omega)).2.resolve_left (by omega)

theorem eq_stored_of_bytes? {bs : List UInt8} (hk : v.partKey? = some k)
    (h : v.bytes? = some bs) : k = .stored bs := by
  cases v with
  | bytes bs =>
      cases hk
      cases h
      rfl
  | buffer bs => cases hk
  | _ => cases h

/-- Values that are equal, and neither numbers nor tensors, have equal keys. -/
theorem equal_of_plainEqual (hv : ¬ v.IsPeculiar) (hk : v.partKey? = some k)
    (hl : w.partKey? = some l) (h : plainEqual v w = true) : k.equal l = true := by
  unfold plainEqual at h
  split at h
  next =>
    cases hk
    cases hl
    rfl
  next s t =>
    cases eq_of_beq h
    cases hk
    cases hl
    exact Key.equal_ofText s
  next =>
    cases hk
    cases hl
    exact equal_ofRange h
  next scalars scalars' =>
    cases eq_of_beq h
    cases hk
    cases hl
    exact beq_self_eq_true _
  next metric metric' =>
    cases eq_of_beq h
    cases hk
    cases hl
    exact beq_self_eq_true _
  next a b =>
    have hnever : ¬ a.HoldOppositeZeros b := by
      rintro ⟨x, y, hpair, hzero, -⟩
      exact hv ⟨x, (List.of_mem_zip hpair).1, hzero⟩
    have hshares := (TargetVector.sharesKey_iff_of_equal h).mpr hnever
    cases hk
    cases hl
    exact hshares
  next column _ _ column' _ _ =>
    cases eq_of_beq h
    cases hk
    cases hl
    exact beq_self_eq_true _
  next object _ _ _ object' _ _ _ =>
    cases eq_of_beq h
    cases hk
    cases hl
    exact beq_self_eq_true _
  next =>
    split at h
    next xs ys hxs hys =>
      cases eq_of_beq h
      rw [eq_stored_of_bytes? hk hxs, eq_stored_of_bytes? hl hys]
      exact beq_self_eq_true _
    next => cases h

theorem tensor?_eq_none (hv : ¬ v.IsPeculiar) (hk : v.partKey? = some k) : v.tensor? = none := by
  cases v with
  | sized type c => exact absurd trivial hv
  | tensor t => cases hk
  | _ => rfl

/-- Values that are not compared part by part have equal keys if they are equal. -/
theorem equal_of_leafEqual (hv : ¬ v.IsPeculiar) (hw : ¬ w.IsPeculiar) (hk : v.partKey? = some k)
    (hl : w.partKey? = some l) (h : leafEqual v w = .ok true) : k.equal l = true := by
  have htensor := tensor?_eq_none hv hk
  have htensor' := tensor?_eq_none hw hl
  unfold leafEqual at h
  split at h
  · cases htensor'
  · cases htensor
  · cases htensor'
  · cases htensor'
  · split at h
    next a b ha hb =>
      obtain ⟨hkey, hplain⟩ := key?_of_operand? hv ha
      obtain ⟨hkey', hplain'⟩ := key?_of_operand? hw hb
      cases (partKey?_of_key? hkey).symm.trans hk
      cases (partKey?_of_key? hkey').symm.trans hl
      exact equal_of_numbersEqual hplain hplain' h
    next ht _ => cases htensor.symm.trans ht
    next ht _ => cases htensor'.symm.trans ht
    next => exact equal_of_plainEqual hv hk hl (Except.ok.inj h)

/-! ### Values with parts -/

/-- Keys of lists are equal one by one, if those of items that are equal are. -/
theorem forall₂_equal {α : Type} {xs ys : List α} {ks ls : List Key} {isKey : α → Key → Prop}
    {areEqual : α → α → Prop} (hequal : List.Forall₂ areEqual xs ys)
    (hks : List.Forall₂ isKey xs ks) (hls : List.Forall₂ isKey ys ls)
    (h : ∀ x ∈ xs, ∀ y ∈ ys, ∀ k l, isKey x k → isKey y l → areEqual x y → k.equal l = true) :
    List.Forall₂ (fun k l => k.equal l = true) ks ls := by
  induction hequal generalizing ks ls with
  | nil =>
      cases hks
      cases hls
      exact .nil
  | cons hhead _ ih =>
      cases hks with
      | cons hk hks =>
          cases hls with
          | cons hl hls =>
              refine .cons (h _ (by simp) _ (by simp) _ _ hk hl hhead) (ih hks hls ?_)
              intro x hx y hy
              exact h x (List.mem_cons_of_mem _ hx) y (List.mem_cons_of_mem _ hy)

/-- Mappings that are equal have the same keys, in whatever order. -/
theorem equal_bag_of_entriesIn {entries others : List (Value × Value)} {ks ls : List Key}
    (hks : entryKeys? entries = some ks) (hls : entryKeys? others = some ls)
    (hlength : entries.length = others.length) (h : entriesIn entries others = .ok true)
    (hvalues : ∀ entry ∈ entries, ∀ other ∈ others, ∀ k l, entry.2.key? = some k →
      other.2.key? = some l → equal entry.2 other.2 = .ok true → k.equal l = true) :
    (Key.bag ks).equal (.bag ls) = true := by
  have hks := entryKeys?_eq_some_iff.mp hks
  have hls := entryKeys?_eq_some_iff.mp hls
  rw [Key.equal_bag]
  refine ⟨by rw [← hks.length_eq, ← hls.length_eq, hlength], ?_⟩
  intro key hkey
  obtain ⟨entry, ⟨k, l, hk, hl, rfl⟩, hentry⟩ :=
    exists_of_forall₂ (List.Forall₂.flip (R := flip _) hks) (fun _ he => he) key hkey
  obtain ⟨other, hother, hshares, hequal⟩ := exists_entry_of_entriesIn h entry hentry
  obtain ⟨_, ⟨k', l', hk', hl', rfl⟩, hmem⟩ := exists_of_forall₂ hls (fun _ hl => hl) other hother
  obtain ⟨_, _, hfound, hfound', hkeys⟩ := sharesKey_iff.mp hshares
  cases hk.symm.trans hfound
  cases hk'.symm.trans hfound'
  refine ⟨_, hmem, Key.equal_parts.mpr (.cons hkeys (.cons ?_ .nil))⟩
  exact hvalues entry hentry other hother l l' hl hl' hequal

/-- A record that has a key holds no payloads, and its key is that of its parts. -/
theorem of_key?_record {kind : RecordKind} {attributes : List (String × Value)}
    (h : (Value.record kind attributes).key? = some k) :
    (∀ name, kind.holdsPayload name = false) ∧
      ∃ ks, attributeKeys? kind attributes = some ks ∧ k = .parts ks := by
  cases kind with
  | scalarField | vectorField => cases h
  | _ =>
      obtain ⟨ks, hks, rfl⟩ := Option.map_eq_some_iff.mp h
      exact ⟨fun _ => rfl, ks, hks, rfl⟩

/-- Ordinary values that are equal have equal keys. -/
theorem equal_of_equal (hv : v.IsOrdinary) (hw : w.IsOrdinary) (hk : v.partKey? = some k)
    (hl : w.partKey? = some l) (h : equal v w = .ok true) : k.equal l = true := by
  induction hv generalizing w k l with
  | @intro v hplain hparts ih =>
      obtain ⟨hplain', hparts'⟩ := hw
      unfold equal at h
      split at h
      next => cases hk
      next xs ys =>
        obtain ⟨ks, hks, rfl⟩ := Option.map_eq_some_iff.mp hk
        obtain ⟨ls, hls, rfl⟩ := Option.map_eq_some_iff.mp hl
        rw [Key.equal_parts]
        refine forall₂_equal (allEqual_eq_ok_iff.mp h) (keys?_eq_some_iff.mp hks)
          (keys?_eq_some_iff.mp hls) ?_
        intro x hx y hy k l hk hl hequal
        exact ih x hx (hparts' y hy) (partKey?_of_key? hk) (partKey?_of_key? hl) hequal
      next => cases hk
      next entries others =>
        obtain ⟨ks, hks, rfl⟩ := Option.map_eq_some_iff.mp hk
        obtain ⟨ls, hls, rfl⟩ := Option.map_eq_some_iff.mp hl
        split at h
        next hlength =>
          refine equal_bag_of_entriesIn hks hls hlength h ?_
          intro entry hentry other hother k l hk hl hequal
          exact ih _ (List.mem_map_of_mem hentry) (hparts' _ (List.mem_map_of_mem hother))
            (partKey?_of_key? hk) (partKey?_of_key? hl) hequal
        next => cases h
      next kind attributes other others =>
        split at h
        next hkind =>
          subst hkind
          obtain ⟨hpayloads, ks, hks, rfl⟩ := of_key?_record hk
          obtain ⟨-, ls, hls, rfl⟩ := of_key?_record hl
          rw [Key.equal_parts]
          refine forall₂_equal ((attributesEqual_eq_ok_iff hpayloads).mp h)
            (forall₂_of_attributeKeys? hks) (forall₂_of_attributeKeys? hls) ?_
          intro a ha b hb k l hk hl hequal
          exact ih _ (List.mem_map_of_mem ha) (hparts' _ (List.mem_map_of_mem hb)) hk hl hequal
        next => cases h
      next => exact equal_of_leafEqual hplain hplain' hk hl h

/-- Ordinary values that are equal are looked up alike. -/
theorem sharesKey_of_equal (hv : v.IsOrdinary) (hw : w.IsOrdinary) (hk : v.isKey = true)
    (hl : w.isKey = true) (h : equal v w = .ok true) : v.sharesKey w = true := by
  obtain ⟨k, hk⟩ := Option.isSome_iff_exists.mp hk
  obtain ⟨l, hl⟩ := Option.isSome_iff_exists.mp hl
  exact sharesKey_iff.mpr ⟨k, l, hk, hl,
    equal_of_equal hv hw (partKey?_of_key? hk) (partKey?_of_key? hl) h⟩

/-! ## Looking up tuples -/

/-- Tuples are looked up alike if their items are, one by one. -/
theorem sharesKey_tuple_iff {xs ys : List Value} :
    (tuple xs).sharesKey (.tuple ys) = true ↔
      List.Forall₂ (fun x y => x.sharesKey y = true) xs ys := by
  rw [sharesKey_iff]
  constructor
  · rintro ⟨_, _, hk, hl, h⟩
    obtain ⟨ks, hks, rfl⟩ := Option.map_eq_some_iff.mp hk
    obtain ⟨ls, hls, rfl⟩ := Option.map_eq_some_iff.mp hl
    have hxs := keys?_eq_some_iff.mp hks
    have hys := keys?_eq_some_iff.mp hls
    have hkeys := Key.equal_parts.mp h
    clear hks hls hk hl h
    induction hkeys generalizing xs ys with
    | nil =>
        cases hxs
        cases hys
        exact .nil
    | cons hhead _ ih =>
        cases hxs with
        | cons hx hxs =>
            cases hys with
            | cons hy hys => exact .cons (sharesKey_iff.mpr ⟨_, _, hx, hy, hhead⟩) (ih hxs hys)
  · intro h
    have hkeys : ∃ ks ls, keys? xs = some ks ∧ keys? ys = some ls ∧
        List.Forall₂ (fun k l => k.equal l = true) ks ls := by
      simp only [keys?_eq_some_iff]
      induction h with
      | nil => exact ⟨[], [], .nil, .nil, .nil⟩
      | cons hhead _ ih =>
          obtain ⟨k, l, hk, hl, hequal⟩ := sharesKey_iff.mp hhead
          obtain ⟨ks, ls, hks, hls, hrest⟩ := ih
          exact ⟨k :: ks, l :: ls, .cons hk hks, .cons hl hls, .cons hequal hrest⟩
    obtain ⟨ks, ls, hks, hls, hequal⟩ := hkeys
    exact ⟨.parts ks, .parts ls, by rw [key?, hks, Option.map_some],
      by rw [key?, hls, Option.map_some], Key.equal_parts.mpr hequal⟩

theorem isKey_tuple {xs : List Value} (h : ∀ x ∈ xs, x.isKey = true) :
    (tuple xs).isKey = true := by
  obtain ⟨ks, hks⟩ := exists_forall₂ fun x hx => Option.isSome_iff_exists.mp (h x hx)
  rw [isKey, key?, keys?_eq_some_iff.mpr hks]
  rfl

theorem isOrdinary_tuple {xs : List Value} (h : ∀ x ∈ xs, x.IsOrdinary) : (tuple xs).IsOrdinary :=
  .intro id h

theorem isOrdinary_text (s : String) : (text s).IsOrdinary :=
  .intro id nofun

/-- Integers, in any of their forms, are ordinary and have keys. -/
theorem isOrdinary_of_toInt? {n : Int} (h : v.toInt? = some n) :
    v.IsOrdinary ∧ v.isKey = true := by
  cases v with
  | bool | int | dataType | placeholderType | msgType | dslType => exact ⟨.intro id nofun, rfl⟩
  | _ => cases h

/-- Integers equal themselves. -/
theorem equal_self_of_toInt? {n : Int} (h : v.toInt? = some n) : equal v v = .ok true := by
  have hself (a : Operand) (i : Int) (ha : a.IsPlain) (hworth : a.worth = .ofInt i) :
      numbersEqual a a = .ok true := by
    rw [numbersEqual, Operand.equal?_of_isPlain ha ha, hworth]
    exact congrArg Except.ok (beq_self_eq_true (i * (1 : Nat)))
  have hleaf : equal v v = leafEqual v v := by
    cases v with
    | bool | int | dataType | placeholderType | msgType | dslType => simp [equal]
    | _ => cases h
  rw [hleaf]
  cases v with
  | bool b => exact hself (.cell .bool b) b.toInt trivial rfl
  | int i => exact hself (.integer i) i trivial rfl
  | dataType t => exact hself (.integer t.code) t.code trivial rfl
  | placeholderType t => exact hself (.integer t.code) t.code trivial rfl
  | msgType t => exact hself (.integer t.code) t.code trivial rfl
  | dslType t => exact hself (.integer t.code) t.code trivial rfl
  | _ => cases h

theorem equal_metric (m : Metric) : equal (.metric m) (.metric m) = .ok true := by
  simp [equal, leafEqual, operand?, toInt?, tensor?, plainEqual]

/-- Vectors are compared as vectors. -/
theorem equal_vector (v w : TargetVector) : equal (.vector v) (.vector w) = .ok (v.equal w) := by
  simp [equal, leafEqual, operand?, toInt?, tensor?, plainEqual]

end Value

end VectorRequests
