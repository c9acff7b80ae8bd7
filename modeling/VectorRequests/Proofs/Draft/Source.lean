/-
# What steps are given

A step is given a value, or a few, and stores what it makes of them: a value as it is, the list
of its items, the vectors that are read from its items, its mapping, its text, or a column. What
may be stored is said here once for all drafts, apart from how it is computed.
-/

import VectorRequests.Draft.FieldType
import VectorRequests.Draft.Insert
import VectorRequests.Draft.Search
import VectorRequests.Proofs.Value.Sequence

namespace VectorRequests.Draft

/-- What a step is given, and what it is to make of it. -/
inductive Source
  | value (v : Value)
  | items (v : Value)
  | vectors (read : Value → Outcome TargetVector) (v : Value)
  | mapping (v : Value)
  | text (v : Value)
  | column (handle : Nat) (name type values : Value)

namespace Source

/-- What a step makes of what it is given. -/
def make : Source → Outcome Value
  | value v => .ok v
  | items v => listOf v
  | vectors read v => SearchDraft.vectorsOf read v
  | mapping v => mappingOf v
  | text v => do return .text (← v.plainText)
  | column handle name type values => do
    return (← Column.ofValues handle name type values).toValue

/-- What may be made of what a step is given. A value that is no mapping lists pairs, which are
entered one after the other. -/
inductive Gives : Source → Value → Prop
  | value (v : Value) : Gives (.value v) v
  | items {v : Value} {xs : List Value} (hitems : v.iterate = .ok xs) : Gives (.items v) (.list xs)
  | vectors {read : Value → Outcome TargetVector} {v : Value} {xs : List Value}
      {vectors : List TargetVector} (hitems : v.iterate = .ok xs)
      (hread : List.Forall₂ (fun x t => read x = .ok t) xs vectors) :
      Gives (.vectors read v) (.list (vectors.map .vector))
  | mapping (entries : List (Value × Value)) :
      Gives (.mapping (.mapping entries)) (.mapping entries)
  | pairs {v : Value} {xs : List Value} {pairs entries : List (Value × Value)}
      (hother : ∀ entries, v ≠ .mapping entries) (hitems : v.iterate = .ok xs)
      (hpairs : List.Forall₂ (fun x pair => x.iterate = .ok [pair.1, pair.2]) xs pairs)
      (hentries : pairs.foldlM (fun entries pair => Value.putEntry entries pair.1 pair.2) [] =
        .ok entries) :
      Gives (.mapping v) (.mapping entries)
  | text {v : Value} {s : String} (htext : v.plainText = .ok s) : Gives (.text v) (.text s)
  | column {handle : Nat} {name type values : Value} {c : Column}
      (hcolumn : Column.ofValues handle name type values = .ok c) :
      Gives (.column handle name type values) c.toValue

variable {source : Source} {v w : Value}

/-! ## Lists and vectors -/

theorem listOf_eq_ok_iff : listOf v = .ok w ↔ ∃ xs, v.iterate = .ok xs ∧ w = .list xs := by
  rw [listOf, Outcome.bind_eq_ok]
  simp only [Outcome.pure_eq_ok, Except.ok.injEq, eq_comm]

/-- The items of a value that are all read one after the other are those of a walk. -/
theorem vectorsOf_eq_ok_iff {read : Value → Outcome TargetVector} :
    SearchDraft.vectorsOf read v = .ok w ↔ ∃ xs vectors, v.iterate = .ok xs ∧
      List.Forall₂ (fun x t => read x = .ok t) xs vectors ∧ w = .list (vectors.map .vector) := by
  constructor
  · intro h
    obtain ⟨xs, hitems, h⟩ := Outcome.bind_eq_ok.mp h
    obtain ⟨vectors, hread, ⟨⟩⟩ := Outcome.bind_eq_ok.mp h
    exact ⟨xs, vectors, iterate_of_itemsFor hitems, Outcome.mapM_eq_ok_iff.mp hread, rfl⟩
  · rintro ⟨xs, vectors, hitems, hread, rfl⟩
    have hmap := Outcome.mapM_eq_ok_iff.mpr hread
    have hall : ∀ x ∈ xs, ∃ t, read x = .ok t :=
      Outcome.exists_mapM_eq_ok_iff.mp ⟨vectors, hmap⟩
    rw [SearchDraft.vectorsOf, itemsFor_of_iterate hitems hall, Outcome.ok_bind, hmap]
    rfl

/-! ## Mappings -/

theorem pairOf_eq_ok_iff {pair : Value × Value} :
    pairOf v = .ok pair ↔ v.iterate = .ok [pair.1, pair.2] := by
  rw [pairOf, Outcome.bind_eq_ok]
  constructor
  · rintro ⟨xs, hitems, h⟩
    split at h
    · cases h
      exact hitems
    · cases h
  · intro h
    exact ⟨_, h, rfl⟩

/-- Entering the pairs that are read from items one after the other is entering the pairs. -/
theorem foldlM_pairOf_eq_ok_iff {xs : List Value} {old new : List (Value × Value)} :
    xs.foldlM (fun entries x => do
        let (key, entry) ← pairOf x
        Value.putEntry entries key entry) old = .ok new ↔
      ∃ pairs : List (Value × Value),
        List.Forall₂ (fun x pair => x.iterate = .ok [pair.1, pair.2]) xs pairs ∧
        pairs.foldlM (fun entries pair => Value.putEntry entries pair.1 pair.2) old =
          .ok new := by
  induction xs generalizing old with
  | nil => simp
  | cons x xs ih =>
      rw [List.foldlM_cons, Outcome.bind_eq_ok]
      constructor
      · rintro ⟨next, hnext, hrest⟩
        obtain ⟨pair, hpair, hnext⟩ := Outcome.bind_eq_ok.mp hnext
        have hput : Value.putEntry old pair.1 pair.2 = .ok next := hnext
        obtain ⟨pairs, hpairs, hentries⟩ := ih.mp hrest
        refine ⟨pair :: pairs, .cons (pairOf_eq_ok_iff.mp hpair) hpairs, ?_⟩
        rw [List.foldlM_cons, hput]
        exact hentries
      · rintro ⟨_, _ | ⟨hpair, hpairs⟩, hentries⟩
        obtain ⟨next, hput, hrest⟩ := Outcome.bind_eq_ok.mp hentries
        refine ⟨next, ?_, ih.mpr ⟨_, hpairs, hrest⟩⟩
        rw [pairOf_eq_ok_iff.mpr hpair]
        exact hput

theorem mappingOf_eq_ok_iff : mappingOf v = .ok w ↔ (mapping v).Gives w := by
  unfold mappingOf
  split
  next entries =>
    constructor
    · rintro ⟨⟩
      exact .mapping entries
    · intro h
      cases h with
      | mapping _ => rfl
      | pairs hother _ _ _ => exact absurd rfl (hother entries)
  next hother =>
    constructor
    · intro h
      obtain ⟨xs, hitems, h⟩ := Outcome.bind_eq_ok.mp h
      obtain ⟨entries, hentries, ⟨⟩⟩ := Outcome.bind_eq_ok.mp h
      obtain ⟨pairs, hpairs, hentries⟩ := foldlM_pairOf_eq_ok_iff.mp hentries
      exact .pairs hother (iterate_of_itemsFor hitems) hpairs hentries
    · intro h
      cases h with
      | mapping entries => exact absurd rfl (hother entries)
      | pairs _ hitems hpairs hentries =>
          have hmap := Outcome.mapM_eq_ok_iff.mpr (hpairs.imp fun _ _ => pairOf_eq_ok_iff.mpr)
          have hall := Outcome.exists_mapM_eq_ok_iff.mp ⟨_, hmap⟩
          rw [itemsFor_of_iterate hitems hall, Outcome.ok_bind,
            foldlM_pairOf_eq_ok_iff.mpr ⟨_, hpairs, hentries⟩]
          rfl

/-- What a step makes of what it is given is what may be made of it. -/
theorem make_eq_ok_iff : source.make = .ok w ↔ source.Gives w := by
  cases source with
  | value v =>
      constructor
      · intro h
        cases h
        exact .value _
      · intro h
        cases h
        rfl
  | items v =>
      rw [make, listOf_eq_ok_iff]
      constructor
      · rintro ⟨xs, hitems, rfl⟩
        exact .items hitems
      · rintro ⟨⟩
        exact ⟨_, ‹_›, rfl⟩
  | vectors read v =>
      rw [make, vectorsOf_eq_ok_iff]
      constructor
      · rintro ⟨xs, vectors, hitems, hread, rfl⟩
        exact .vectors hitems hread
      · rintro ⟨⟩
        exact ⟨_, _, ‹_›, ‹_›, rfl⟩
  | mapping v => exact mappingOf_eq_ok_iff
  | text v =>
      rw [make, Outcome.bind_eq_ok]
      constructor
      · rintro ⟨s, htext, ⟨⟩⟩
        exact .text htext
      · rintro ⟨⟩
        exact ⟨_, ‹_›, rfl⟩
  | column handle name type values =>
      rw [make, Outcome.bind_eq_ok]
      constructor
      · rintro ⟨c, hcolumn, ⟨⟩⟩
        exact .column hcolumn
      · rintro ⟨⟩
        exact ⟨_, ‹_›, rfl⟩

end Source

end VectorRequests.Draft
