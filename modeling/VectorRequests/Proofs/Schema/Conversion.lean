/-
# What a field type keeps of a schema

The parameters of a schema are pairs in the order in which they came; those of a field type
have distinct names. A name that comes again keeps the place where it came first and takes the
value that came last. Nothing else is changed on the way from a schema to a field type and
back, so a schema comes back as it was exactly if no name of a parameter comes twice.
-/

import VectorRequests.Schema.FieldType
import VectorRequests.Proofs.Outcome
import VectorRequests.Proofs.Value.Equality
import VectorRequests.Proofs.Value.Text
import Mathlib.Data.List.Induction
import Mathlib.Data.List.Nodup

namespace VectorRequests

namespace TypeParams

variable {entries pairs : List (String × String)}

/-! ## Pairs put in one after the other -/

theorem names_putEntry (name value : String) (entries : List (String × String)) :
    (putEntry name value entries).map Prod.fst =
      if name ∈ entries.map Prod.fst then entries.map Prod.fst
      else entries.map Prod.fst ++ [name] := by
  induction entries with
  | nil => rfl
  | cons entry rest ih =>
      unfold putEntry
      by_cases hname : entry.1 = name
      · simp [hname]
      · simp only [hname, if_false, List.map_cons, ih, List.mem_cons, Ne.symm hname, false_or]
        split
        · rfl
        · rfl

theorem lookup_putEntry (name value other : String) (entries : List (String × String)) :
    (putEntry name value entries).lookup other =
      if other = name then some value else entries.lookup other := by
  induction entries with
  | nil =>
      by_cases hother : other = name
      · simp [putEntry, hother]
      · have hmiss : (other == name) = false := beq_eq_false_iff_ne.mpr hother
        simp [putEntry, List.lookup_cons, hother, hmiss]
  | cons entry rest ih =>
      obtain ⟨key, given⟩ := entry
      unfold putEntry
      by_cases hkey : key = name
      · subst hkey
        by_cases hother : other = key
        · simp [hother]
        · have hmiss : (other == key) = false := beq_eq_false_iff_ne.mpr hother
          simp [List.lookup_cons, hother, hmiss]
      · by_cases hother : other = key
        · simp [hother, hkey]
        · have hmiss : (other == key) = false := beq_eq_false_iff_ne.mpr hother
          simp [List.lookup_cons, hkey, hmiss, ih]

/-- A new name goes to the end. -/
theorem putEntry_of_not_mem {name value : String} (h : name ∉ entries.map Prod.fst) :
    putEntry name value entries = entries ++ [(name, value)] := by
  induction entries with
  | nil => rfl
  | cons entry rest ih =>
      rw [List.map_cons, List.mem_cons, not_or] at h
      rw [putEntry, if_neg (Ne.symm h.1), ih h.2, List.cons_append]

theorem ofPairs_concat (pairs : List (String × String)) (pair : String × String) :
    ofPairs (pairs ++ [pair]) = (ofPairs pairs).put pair.1 pair.2 := by
  rw [ofPairs, List.foldl_append]
  rfl

/-- Every name stands where it came first. -/
theorem names_ofPairs (pairs : List (String × String)) :
    (ofPairs pairs).entries.map Prod.fst = (pairs.map Prod.fst).eraseDups := by
  induction pairs using List.reverseRecOn with
  | nil => rfl
  | append_singleton pairs pair ih =>
      have hone : [pair.1].eraseDups = [pair.1] := rfl
      rw [ofPairs_concat, put, names_putEntry, ih, List.map_append, List.eraseDups_append]
      by_cases hmem : pair.1 ∈ pairs.map Prod.fst
      · simp [List.removeAll, hmem]
      · simp [List.removeAll, hmem, hone]

/-- Every name has the value that came last. -/
theorem get?_ofPairs (pairs : List (String × String)) (name : String) :
    (ofPairs pairs).get? name = pairs.reverse.lookup name := by
  induction pairs using List.reverseRecOn with
  | nil => rfl
  | append_singleton pairs pair ih =>
      rw [get?] at ih
      obtain ⟨key, value⟩ := pair
      rw [ofPairs_concat, get?, put, lookup_putEntry, ih, List.reverse_append]
      by_cases hname : name = key
      · simp [hname]
      · have hmiss : (name == key) = false := beq_eq_false_iff_ne.mpr hname
        simp [List.lookup_cons, hname, hmiss]

theorem entries_ofPairs (h : (pairs.map Prod.fst).Nodup) : (ofPairs pairs).entries = pairs := by
  induction pairs using List.reverseRecOn with
  | nil => rfl
  | append_singleton pairs pair ih =>
      rw [List.map_append, List.nodup_append] at h
      obtain ⟨hpairs, -, hdisjoint⟩ := h
      have hfresh : pair.1 ∉ pairs.map Prod.fst := by
        intro hmem
        exact hdisjoint _ hmem _ (by simp) rfl
      have hput : ((ofPairs pairs).put pair.1 pair.2).entries =
          putEntry pair.1 pair.2 pairs := congrArg _ (ih hpairs)
      rw [ofPairs_concat, hput, putEntry_of_not_mem hfresh]

/-- Pairs are kept as they are exactly if no name comes twice. -/
theorem entries_ofPairs_eq_iff : (ofPairs pairs).entries = pairs ↔ (pairs.map Prod.fst).Nodup := by
  constructor
  · intro h
    rw [← h]
    exact (ofPairs pairs).names_nodup
  · exact entries_ofPairs

theorem toPairs_ofPairs_eq_iff :
    (ofPairs pairs).toPairs = pairs.map KeyValuePair.ofTexts ↔ (pairs.map Prod.fst).Nodup := by
  have hinjective : Function.Injective KeyValuePair.ofTexts := by
    rintro ⟨k, v⟩ ⟨k', v'⟩ h
    cases h
    rfl
  rw [toPairs, (List.map_injective_iff.mpr hinjective).eq_iff, entries_ofPairs_eq_iff]

theorem ofPairs_entries (params : TypeParams) : ofPairs params.entries = params := by
  obtain ⟨entries, hnodup⟩ := params
  rw [TypeParams.mk.injEq]
  exact entries_ofPairs hnodup

end TypeParams

/-! ## Texts as keys -/

namespace Value

/-- The entry of a mapping that a pair of texts is. -/
def textEntry (pair : String × String) : Value × Value :=
  (.text pair.1, .text pair.2)

theorem isSameKey_text (s t : String) : (Value.text s).isSameKey (.text t) = decide (s = t) := by
  by_cases hst : s = t
  · subst hst
    simp [isSameKey, equal_text, sharesKey, key?, Key.ofText, Key.equal]
  · simp [isSameKey, equal_text, hst]

theorem insertEntry_text (key value : String) (entries : List (String × String)) :
    insertEntry (.text key) (.text value) (entries.map textEntry) =
      (TypeParams.putEntry key value entries).map textEntry := by
  induction entries with
  | nil => rfl
  | cons entry rest ih =>
      rw [List.map_cons, insertEntry, TypeParams.putEntry, textEntry, isSameKey_text]
      by_cases hkey : entry.1 = key
      · simp [hkey, textEntry]
      · simp only [hkey, decide_false, Bool.false_eq_true, if_false, ih, List.map_cons]
        rfl

theorem foldl_insertEntry_text (pairs : List (String × String)) (params : TypeParams) :
    (pairs.map textEntry).foldl (fun found entry => insertEntry entry.1 entry.2 found)
        (params.entries.map textEntry) =
      (pairs.foldl (fun params pair => params.put pair.1 pair.2) params).entries.map textEntry := by
  induction pairs generalizing params with
  | nil => rfl
  | cons pair pairs ih =>
      rw [List.map_cons, List.foldl_cons, List.foldl_cons, ← ih, TypeParams.put,
        ← insertEntry_text]
      rfl

/-- The mapping that pairs of texts give has the names and values of the parameters that they
give. -/
theorem mappingOf_texts (pairs : List (String × String)) :
    mappingOf (pairs.map textEntry) =
      .ok ((TypeParams.ofPairs pairs).entries.map textEntry) := by
  have hkeys : ((pairs.map textEntry).all fun entry => entry.1.isKey) = true := by
    apply List.all_eq_true.mpr
    intro entry hentry
    obtain ⟨pair, -, rfl⟩ := List.mem_map.mp hentry
    rfl
  rw [mappingOf, if_pos hkeys]
  exact congrArg Except.ok (foldl_insertEntry_text pairs .empty)

end Value

namespace TypeParams

/-- Parameters are written if every key and every value has a text. -/
theorem ofValue_mapping (entries : List (Value × Value)) :
    ofValue (.mapping entries) = (Value.mapping entries).withText
      (.ok (ofPairs (entries.map fun entry => (entry.1.write, entry.2.write)))) := by
  have hpairs (entries : List (Value × Value)) : entries.mapM pairOf =
      (Value.mapping entries).withText
        (.ok (entries.map fun entry => (entry.1.write, entry.2.write))) := by
    induction entries with
    | nil => rfl
    | cons entry rest ih =>
        obtain ⟨key, value⟩ := entry
        have htext : (Value.mapping ((key, value) :: rest)).hasText =
            (key.hasText && value.hasText && (Value.mapping rest).hasText) := rfl
        rw [List.mapM_cons, ih, pairOf, Value.plainText, Value.plainText]
        unfold Value.withText
        rw [htext]
        cases key.hasText with
        | false => rfl
        | true =>
            cases value.hasText with
            | false => rfl
            | true => cases (Value.mapping rest).hasText <;> rfl
  cases entries with
  | nil => rfl
  | cons entry rest =>
      show (do return ofPairs (← (entry :: rest).mapM pairOf)) = _
      rw [hpairs]
      unfold Value.withText
      split <;> rfl

/-- Parameters come back from their value. -/
theorem ofValue_toValue (params : TypeParams) : ofValue params.toValue = .ok params := by
  have hwritten : ((params.entries.map Value.textEntry).map fun entry =>
      (entry.1.write, entry.2.write)) = params.entries := by
    rw [List.map_map]
    exact List.map_id _
  have htext : (Value.mapping (params.entries.map Value.textEntry)).hasText = true := by
    show Value.entriesHaveTexts (params.entries.map Value.textEntry) = true
    induction params.entries with
    | nil => rfl
    | cons entry rest ih => exact ih
  rw [toValue, ofValue_mapping]
  refine (Value.withText_of_hasText htext _).trans ?_
  exact congrArg Except.ok ((congrArg ofPairs hwritten).trans (ofPairs_entries params))

/-- A mapping gives a text for a name: it is what the last value is written as whose key is written
as the name. -/
def Gives (entries : List (Value × Value)) (name s : String) : Prop :=
  ∃ before key value after, entries = before ++ (key, value) :: after ∧ key.write = name ∧
    value.write = s ∧ ∀ entry ∈ after, entry.1.write ≠ name

/-- Parameters hold the texts that their mapping gives. -/
theorem get?_eq_some_iff {entries : List (Value × Value)} {params : TypeParams} {name s : String}
    (h : ofValue (.mapping entries) = .ok params) :
    params.get? name = some s ↔ Gives entries name s := by
  rw [ofValue_mapping] at h
  obtain ⟨-, h⟩ := Value.withText_eq_ok_iff.mp h
  cases h
  rw [get?_ofPairs, ← List.map_reverse]
  constructor
  · intro hfound
    obtain ⟨after, before, hentries, hafter⟩ := List.lookup_eq_some_iff.mp hfound
    obtain ⟨later, rest, hreverse, hlater, hrest⟩ := List.map_eq_append_iff.mp hentries
    obtain ⟨⟨key, value⟩, earlier, hcons, hwritten, -⟩ := List.map_eq_cons_iff.mp hrest
    obtain ⟨hkey, hvalue⟩ := Prod.mk.inj hwritten
    refine ⟨earlier.reverse, key, value, later.reverse, ?_, hkey, hvalue, ?_⟩
    · rw [← List.reverse_reverse entries, hreverse, hcons]
      simp
    · intro entry hentry hname
      have hmem : (entry.1.write, entry.2.write) ∈ after := by
        rw [← hlater]
        exact List.mem_map_of_mem (List.mem_reverse.mp hentry)
      simpa [hname] using hafter _ hmem
  · rintro ⟨before, key, value, after, rfl, hkey, hvalue, hafter⟩
    rw [List.lookup_eq_some_iff]
    refine ⟨after.reverse.map fun entry => (entry.1.write, entry.2.write),
      before.reverse.map fun entry => (entry.1.write, entry.2.write), ?_, ?_⟩
    · simp [hkey, hvalue]
    · intro pair hpair
      obtain ⟨entry, hentry, rfl⟩ := List.mem_map.mp hpair
      simpa using Ne.symm (hafter entry (List.mem_reverse.mp hentry))

end TypeParams

namespace FieldType

/-! ## From a schema and back -/

theorem dataType_of_properType {field v : Value} {type : { t : DataType // t.isProper = true }}
    (h : properType field v = .ok type) : .dataType type.val = v := by
  unfold properType at h
  split at h
  · split at h
    · cases h
      rfl
    · cases h
  · cases (Value.withText_eq_ok_iff.mp h).2

/-- A field type that is made has the attributes it is made of. -/
theorem of_ofValues {name dataType description primaryKey autoId params : Value} {t : FieldType}
    (h : ofValues name dataType description primaryKey autoId params = .ok t) :
    t.name.toValue = name ∧ .dataType t.dataType = dataType ∧ t.description = description ∧
      t.primaryKey = primaryKey ∧ t.autoId = autoId ∧
      TypeParams.ofValue params = .ok t.typeParams := by
  rw [ofValues, Outcome.bind_eq_ok] at h
  obtain ⟨checked, hname, h⟩ := h
  obtain ⟨⟨type, hproper⟩, htype, h⟩ := Outcome.bind_eq_ok.mp h
  obtain ⟨given, hparams, h⟩ := Outcome.bind_eq_ok.mp h
  have hname := Check.toValue_of_name_eq_ok hname
  have htype := dataType_of_properType htype
  split at h
  · obtain ⟨⟨hdim⟩, -, h⟩ := Outcome.bind_eq_ok.mp h
    cases h
    exact ⟨hname, htype, rfl, rfl, rfl, hparams⟩
  · cases h
    exact ⟨hname, htype, rfl, rfl, rfl, hparams⟩

theorem checkDimension_eq_ok {params : TypeParams} (field : Value) (h : params.HasDimension) :
    checkDimension field params = .ok ⟨h⟩ := by
  obtain ⟨n, hn, hpos⟩ := h
  obtain ⟨given, hget, hread⟩ := Option.bind_eq_some_iff.mp hn
  fun_cases checkDimension field params with
  | case1 hmissing => cases hget.symm.trans hmissing
  | case2 found hfound hunread =>
      cases hget.symm.trans hfound
      cases hread.symm.trans hunread
  | case3 => rfl
  | case4 found hfound i hi hnonpos =>
      cases hget.symm.trans hfound
      cases hread.symm.trans hi
      exact absurd hpos hnonpos

/-- Every field type can be made of its attributes. -/
theorem ofValues_attributes (t : FieldType) :
    ofValues t.name.toValue (.dataType t.dataType) t.description t.primaryKey t.autoId
      t.typeParams.toValue = .ok t := by
  have htype : properType t.name.toValue (.dataType t.dataType) =
      .ok ⟨t.dataType, t.dataType_isProper⟩ := dif_pos t.dataType_isProper
  rw [ofValues, Check.name_toValue, Outcome.ok_bind, htype, Outcome.ok_bind]
  dsimp only
  rw [TypeParams.ofValue_toValue, Outcome.ok_bind]
  by_cases hvector : t.dataType.isVector = true
  · rw [dif_pos hvector, checkDimension_eq_ok _ (t.hasDimension hvector)]
    rfl
  · rw [dif_neg hvector]
    rfl

section Texts

variable {s : FieldSchema} {pairs : List (String × String)}

theorem ofSchema_texts (hparams : s.typeParams = pairs.map KeyValuePair.ofTexts) :
    ofSchema s = ofValues s.name (.dataType s.dataType) s.description s.isPrimaryKey s.autoId
      (TypeParams.ofPairs pairs).toValue := by
  have hentries : (s.typeParams.map fun p => (p.key, p.value)) = pairs.map Value.textEntry := by
    rw [hparams, List.map_map]
    rfl
  rw [ofSchema, hentries, Value.mappingOf_texts]
  rfl

/-- A schema comes back with the parameters that its field type has kept. -/
theorem toSchema_of_ofSchema {t : FieldType}
    (hparams : s.typeParams = pairs.map KeyValuePair.ofTexts) (h : ofSchema s = .ok t) :
    t.toSchema = { s with typeParams := (TypeParams.ofPairs pairs).toPairs } := by
  rw [ofSchema_texts hparams] at h
  obtain ⟨hname, htype, hdescription, hprimary, hauto, hkept⟩ := of_ofValues h
  rw [TypeParams.ofValue_toValue] at hkept
  rw [toSchema, hname, Value.dataType.inj htype, hdescription, hprimary, hauto,
    ← Except.ok.inj hkept]

end Texts

/-- Every field type comes back from its schema. -/
theorem ofSchema_toSchema (t : FieldType) : ofSchema t.toSchema = .ok t := by
  have hparams : t.toSchema.typeParams = t.typeParams.entries.map KeyValuePair.ofTexts := rfl
  rw [ofSchema_texts hparams, TypeParams.ofPairs_entries]
  exact ofValues_attributes t

/-- A schema whose parameters are texts comes back exactly if no name of a parameter comes
twice. Otherwise each name comes back once, where it came first, and with the value that came
last, and nothing else has changed. -/
theorem schema_comes_back_iff {s : FieldSchema} {pairs : List (String × String)} {t : FieldType}
    (hparams : s.typeParams = pairs.map KeyValuePair.ofTexts) (h : ofSchema s = .ok t) :
    (t.toSchema = s ↔ (pairs.map Prod.fst).Nodup) ∧
      ∃ kept : List (String × String),
        t.toSchema = { s with typeParams := kept.map KeyValuePair.ofTexts } ∧
        kept.map Prod.fst = (pairs.map Prod.fst).eraseDups ∧
        ∀ name, kept.lookup name = pairs.reverse.lookup name := by
  have hback := toSchema_of_ofSchema hparams h
  constructor
  · rw [hback, ← TypeParams.toPairs_ofPairs_eq_iff, ← hparams]
    constructor
    · intro heq
      exact congrArg FieldSchema.typeParams heq
    · intro hkept
      rw [hkept]
  · exact ⟨(TypeParams.ofPairs pairs).entries, hback, TypeParams.names_ofPairs pairs,
      TypeParams.get?_ofPairs pairs⟩

/-! ### A vector field with a remark, and a name that comes twice -/

/-- The name of both fields. -/
def idName : Name := ⟨"id", Text.not_isBlank_of_mem (c := 'i') (by simp) rfl⟩

/-- The schema of a vector field whose dimension stands behind a remark. -/
def remarked : FieldSchema where
  name := idName.toValue
  dataType := .binaryVector
  description := .text "covers"
  typeParams := [("remark", "first"), ("dim", "16")].map KeyValuePair.ofTexts

/-- The field type of it. -/
def remarkedField : FieldType where
  name := idName
  dataType := .binaryVector
  description := .text "covers"
  primaryKey := .bool false
  autoId := .bool false
  typeParams := .ofPairs [("remark", "first"), ("dim", "16")]
  dataType_isProper := rfl
  hasDimension _ := ⟨16, by decide +kernel, by decide⟩

theorem remarked_comes_back :
    ofSchema remarked = .ok remarkedField ∧ remarkedField.toSchema = remarked := by
  have hmade : ofSchema remarked = .ok remarkedField := by
    rw [ofSchema_texts rfl]
    exact ofValues_attributes remarkedField
  exact ⟨hmade, (schema_comes_back_iff rfl hmade).1.mpr (by decide)⟩

/-- A schema that gives `k` twice. -/
def twiceGiven : FieldSchema where
  name := idName.toValue
  dataType := .int16
  typeParams := [("k", "1"), ("k", "2")].map KeyValuePair.ofTexts

/-- The field type of it, which keeps the second. -/
def secondKept : FieldType where
  name := idName
  dataType := .int16
  description := .text ""
  primaryKey := .bool false
  autoId := .bool false
  typeParams := .ofPairs [("k", "2")]
  dataType_isProper := rfl
  hasDimension := nofun

theorem twiceGiven_does_not_come_back :
    ofSchema twiceGiven = .ok secondKept ∧ secondKept.toSchema ≠ twiceGiven := by
  constructor
  · rw [ofSchema_texts rfl]
    exact ofValues_attributes secondKept
  · intro h
    cases congrArg (fun s => s.typeParams.length) h

end FieldType

end VectorRequests
