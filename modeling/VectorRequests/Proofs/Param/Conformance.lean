/-
# Conversion of an insert is conformance to its schema

Every entry of a schema asks one thing of an insert: a field that the service generates must
not be supplied, any other must be, with the declared type. The columns of an insert have been
checked already, so packing them cannot fail, and an insert is converted exactly if it conforms
to every entry. If it does not, the first entry that it offends is the one that is reported.
Columns that no entry asks for are left out, and one warning tells their names.
-/

import VectorRequests.Param.Insert
import VectorRequests.Proofs.Column.ReadBack
import VectorRequests.Proofs.Text.Quoted
import Mathlib.Data.List.Nodup

namespace VectorRequests

open VectorRequests.Text

/-- A column of an insert is packed without fail, and is read back as its rows. -/
theorem Column.exists_toFieldData (c : Column) :
    ∃ d, c.toFieldData = .ok d ∧ Column.ReadsBack c.name.toValue c.type c.values d := by
  obtain ⟨d, hd⟩ := Column.validate_tuple_eq_ok_iff.mp c.accepted
  obtain ⟨⟨type, values⟩, htyped, hpack⟩ := Outcome.bind_eq_ok.mp hd
  obtain ⟨htype, -, hitems, -⟩ := Column.of_typedRows htyped
  cases htype
  cases hitems
  exact ⟨d, hd, Column.readsBack_of_packed (Column.pack_eq_ok_iff.mp hpack)⟩

namespace InsertParam

variable {p : InsertParam} {t : FieldType}

/-- What an entry of a schema asks of an insert. -/
inductive Conforms (p : InsertParam) (t : FieldType) : Prop
  | generated (hflag : t.autoId.truth = .ok true) (hnone : ∀ c ∈ p.columns, c.name ≠ t.name)
  | supplied (hflag : t.autoId.truth = .ok false) (c : Column) (hmem : c ∈ p.columns)
      (hname : c.name = t.name) (htype : c.type = t.dataType)

/-- How an insert offends an entry of a schema, and what is reported about it. The last case
is an entry of which nobody can say whether it is generated. -/
inductive Offends (p : InsertParam) (t : FieldType) : Error → Prop
  | missing (hflag : t.autoId.truth = .ok false) (hnone : ∀ c ∈ p.columns, c.name ≠ t.name) :
      Offends p t (.refused (.notProvided t.name.text) t.name.toValue)
  | generated (hflag : t.autoId.truth = .ok true) (c : Column) (hmem : c ∈ p.columns)
      (hname : c.name = t.name) :
      Offends p t (.refused (.autoGenerated t.name.text) t.name.toValue)
  | mismatch (hflag : t.autoId.truth = .ok false) (c : Column) (hmem : c ∈ p.columns)
      (hname : c.name = t.name) (htype : c.type ≠ t.dataType) :
      Offends p t (.refused (.typeMismatch t.name.text) t.name.toValue)
  | undecided {e : Error} (hflag : t.autoId.truth = .error e) : Offends p t e

/-- The column that a request carries for an entry: the supplied column of that name, packed,
which reads back as all the rows of the insert. -/
structure Carries (p : InsertParam) (t : FieldType) (c : Column) (d : FieldData) : Prop where
  mem : c ∈ p.columns
  name_eq : c.name = t.name
  type_eq : c.type = t.dataType
  marshal_eq : Column.marshal c.name.toValue (.dataType c.type) (.tuple c.values) = .ok d
  rowCount_eq : d.rowCount = .ok (.int p.rowCount)
  rows_eq : ∃ backs, d.rows = .ok backs ∧ backs.length = p.rowCount

/-! ## One entry of the schema -/

theorem column?_eq_none_iff {name : Name} :
    p.column? name = none ↔ ∀ c ∈ p.columns, c.name ≠ name := by
  simp [column?, List.find?_eq_none]

/-- Names are distinct, so a name finds the one column that has it. -/
theorem column?_eq_some_iff {name : Name} {c : Column} :
    p.column? name = some c ↔ c ∈ p.columns ∧ c.name = name := by
  have hof {d : Column} (h : p.column? name = some d) : d ∈ p.columns ∧ d.name = name := by
    rw [column?] at h
    exact ⟨List.mem_of_find?_eq_some h, by simpa using List.find?_some h⟩
  constructor
  · exact hof
  · rintro ⟨hmem, hname⟩
    cases hfound : p.column? name with
    | none => exact absurd hname (column?_eq_none_iff.mp hfound c hmem)
    | some d =>
        obtain ⟨hd, hdname⟩ := hof hfound
        have hsame : d = c :=
          List.inj_on_of_nodup_map p.names_nodup hd hmem (hdname.trans hname.symm)
        rw [hsame]

/-- What one entry of the schema makes of an insert. -/
inductive EntryStep (p : InsertParam) (t : FieldType) : Outcome (Option FieldData) → Prop
  | leftOut (hflag : t.autoId.truth = .ok true) (hnone : ∀ c ∈ p.columns, c.name ≠ t.name) :
      EntryStep p t (.ok none)
  | carried (hflag : t.autoId.truth = .ok false) {c : Column} {d : FieldData}
      (hcarries : Carries p t c d) : EntryStep p t (.ok (some d))
  | offended {e : Error} (h : Offends p t e) : EntryStep p t (.error e)

theorem exists_carries {c : Column} (hmem : c ∈ p.columns) (hname : c.name = t.name)
    (htype : c.type = t.dataType) : ∃ d, c.toFieldData = .ok d ∧ Carries p t c d := by
  obtain ⟨d, hd, hback⟩ := c.exists_toFieldData
  have hrows : c.values.length = p.rowCount := p.rowCount_eq c hmem
  refine ⟨d, hd, hmem, hname, htype, hd, ?_, ?_⟩
  · rw [hback.rowCount, hrows]
  · obtain ⟨backs, hbacks, hreads⟩ := hback.rows
    exact ⟨backs, hbacks, hreads.length_eq.symm.trans hrows⟩

/-- An entry is left out, carried or offended, and nothing else. -/
theorem entryStep (p : InsertParam) (t : FieldType) : EntryStep p t (p.fieldData t) := by
  unfold fieldData
  cases hflag : t.autoId.truth with
  | error e => exact .offended (.undecided hflag)
  | ok generated =>
      rw [Outcome.ok_bind]
      cases hfound : p.column? t.name with
      | none =>
          have hnone := column?_eq_none_iff.mp hfound
          cases generated with
          | true => exact .leftOut hflag hnone
          | false => exact .offended (.missing hflag hnone)
      | some c =>
          obtain ⟨hmem, hname⟩ := column?_eq_some_iff.mp hfound
          cases generated with
          | true => exact .offended (.generated hflag c hmem hname)
          | false =>
              by_cases htype : t.dataType = c.type
              · obtain ⟨d, hd, hcarries⟩ := exists_carries hmem hname htype.symm
                simp only [if_pos htype, hd, Outcome.ok_bind, Outcome.pure_eq_ok]
                exact .carried hflag hcarries
              · simp only [if_neg htype]
                exact .offended (.mismatch hflag c hmem hname (Ne.symm htype))

theorem not_conforms_of_offends {e : Error} (h : Offends p t e) : ¬ Conforms p t := by
  rintro (⟨hgenerated, hnone⟩ | ⟨hgiven, c, hmem, hname, htype⟩)
  · cases h with
    | missing hflag => rw [hflag] at hgenerated; cases hgenerated
    | generated _ c hmem hname => exact hnone c hmem hname
    | mismatch hflag => rw [hflag] at hgenerated; cases hgenerated
    | undecided hflag => rw [hflag] at hgenerated; cases hgenerated
  · cases h with
    | missing _ hnone => exact hnone c hmem hname
    | generated hflag => rw [hflag] at hgiven; cases hgiven
    | mismatch _ d hd hdname hdtype =>
        have hsame : d = c :=
          List.inj_on_of_nodup_map p.names_nodup hd hmem (hdname.trans hname.symm)
        rw [hsame] at hdtype
        exact hdtype htype
    | undecided hflag => rw [hflag] at hgiven; cases hgiven

/-- An insert conforms to an entry exactly if the entry is converted. -/
theorem conforms_iff : Conforms p t ↔ ∃ d, p.fieldData t = .ok d := by
  cases hstep : p.fieldData t with
  | ok d =>
      have h := entryStep p t
      rw [hstep] at h
      refine iff_of_true ?_ ⟨d, rfl⟩
      cases h with
      | leftOut hflag hnone => exact .generated hflag hnone
      | carried hflag hcarries =>
          exact .supplied hflag _ hcarries.mem hcarries.name_eq hcarries.type_eq
  | error e =>
      have h := entryStep p t
      rw [hstep] at h
      cases h with
      | offended hoffends => exact iff_of_false (not_conforms_of_offends hoffends) nofun

theorem offends_of_fieldData {e : Error} (h : p.fieldData t = .error e) : Offends p t e := by
  have hstep := entryStep p t
  rw [h] at hstep
  cases hstep with
  | offended hoffends => exact hoffends

/-! ## The whole schema -/

/-- The entries of a schema that the service does not generate, in order. -/
def supplied (schema : List FieldType) : List FieldType :=
  schema.filter fun t => !t.autoId.isTrue

/-- The results of the entries, without those that are left out, are the columns of the
supplied entries. -/
theorem carries_of_fieldData {schema : List FieldType} {found : List (Option FieldData)}
    (h : List.Forall₂ (fun t d => p.fieldData t = .ok d) schema found) :
    List.Forall₂ (fun t d => ∃ c, Carries p t c d) (supplied schema) (found.filterMap id) := by
  induction h with
  | nil => exact .nil
  | @cons t d schema found hhead _ ih =>
      have hstep := entryStep p t
      rw [hhead] at hstep
      cases hstep with
      | leftOut hflag =>
          have htrue : t.autoId.isTrue = true := by rw [Value.isTrue, hflag]
          have hskip : supplied (t :: schema) = supplied schema :=
            List.filter_cons_of_neg (by simp [htrue])
          rw [hskip, List.filterMap_cons_none rfl]
          exact ih
      | @carried hflag c d hcarries =>
          have hfalse : t.autoId.isTrue = false := by rw [Value.isTrue, hflag]
          have hkeep : supplied (t :: schema) = t :: supplied schema :=
            List.filter_cons_of_pos (by simp [hfalse])
          rw [hkeep, List.filterMap_cons_some (f := id) rfl]
          exact .cons ⟨c, hcarries⟩ ih

/-- The names of supplied columns that no entry of a schema has, in the order supplied. -/
def strangers (p : InsertParam) (schema : List FieldType) : List Name :=
  (p.columns.filter fun c => ∀ t ∈ schema, t.name ≠ c.name).map Column.name

/-- The text of the warning about names: they stand in brackets, each in quotes, in order. -/
def ignoredText (collection : Name) (names : List Name) : String :=
  "Fields [" ++ Quoted.list (names.map Name.text) ++ "] are not in the schema of collection " ++
    collection.text ++ " and were ignored"

/-- The request that an insert is converted to, and the warning that comes with it, which tells
no other names. -/
structure Converts (p : InsertParam) (schema : List FieldType) (result : Converted) : Prop where
  fieldsData : List.Forall₂ (fun t d => ∃ c, Carries p t c d) (supplied schema)
    result.request.fieldsData
  numRows : result.request.numRows = .int p.rowCount
  collectionName : result.request.collectionName = p.collection.toValue
  partitionName : result.request.partitionName = p.partition.toValue
  msgType : result.request.base.msgType = .insert
  silent : (∀ c ∈ p.columns, ∃ t ∈ schema, t.name = c.name) → result.warnings = []
  warned : (∃ c ∈ p.columns, ∀ t ∈ schema, t.name ≠ c.name) →
    result.warnings = [ignoredText p.collection (strangers p schema)]
  told : ∀ names, ignoredText p.collection names = ignoredText p.collection (strangers p schema) →
    names = strangers p schema

theorem warning_eq (p : InsertParam) (names : List Name) :
    p.warning names = ignoredText p.collection names := by
  have hquoted :
      Value.quoteAll (names.map Name.toValue) = (names.map Name.text).map Quoted.text := by
    induction names with
    | nil => rfl
    | cons n names ih => exact congrArg (Quoted.text n.text :: ·) ih
  have hopen : "Fields [" = "Fields " ++ "[" := by decide
  have hclose : "] are not in the schema of collection " =
      "]" ++ " are not in the schema of collection " := by decide
  have hquote : (Value.list (names.map Name.toValue)).quote =
      "[" ++ ", ".intercalate (Value.quoteAll (names.map Name.toValue)) ++ "]" := rfl
  rw [warning, hquote, hquoted, ignoredText, hopen, hclose]
  simp only [Quoted.list, String.append_assoc]

/-- Names are told by the warning about them. -/
theorem ignoredText_injective (collection : Name) :
    Function.Injective (ignoredText collection) := by
  intro names others h
  have hname : Function.Injective Name.text := by
    rintro ⟨text, _⟩ ⟨_, _⟩ ⟨⟩
    rfl
  apply List.map_injective_iff.mpr hname
  have hchars := congrArg String.toList h
  simp only [ignoredText, String.toList_append, List.append_assoc] at hchars
  exact Quoted.list_append_inj (List.append_cancel_left hchars)

theorem ignored_eq_strangers (p : InsertParam) (schema : List FieldType) :
    p.ignored schema = strangers p schema := by
  rw [ignored, strangers, List.filter_map]
  congr 1
  apply List.filter_congr
  intro c _
  simp [eq_comm]

theorem strangers_eq_nil_iff {schema : List FieldType} :
    strangers p schema = [] ↔ ∀ c ∈ p.columns, ∃ t ∈ schema, t.name = c.name := by
  simp [strangers, List.filter_eq_nil_iff]

theorem converts_of_toRequest {schema : List FieldType} {result : Converted}
    (h : p.toRequest schema = .ok result) : Converts p schema result := by
  obtain ⟨found, hfound, hresult⟩ := Outcome.bind_eq_ok.mp h
  cases hresult
  refine ⟨carries_of_fieldData (Outcome.mapM_eq_ok_iff.mp hfound), rfl, rfl, rfl, rfl, ?_, ?_,
    fun names h => ignoredText_injective p.collection h⟩
  · intro hall
    have hnone : p.ignored schema = [] := by
      rw [ignored_eq_strangers]
      exact strangers_eq_nil_iff.mpr hall
    show (if (p.ignored schema).isEmpty = true then [] else [p.warning (p.ignored schema)]) = []
    rw [hnone]
    rfl
  · rintro ⟨c, hmem, hstranger⟩
    have hsome : (p.ignored schema).isEmpty = false := by
      rw [ignored_eq_strangers, List.isEmpty_eq_false_iff]
      intro hnil
      obtain ⟨t, ht, hname⟩ := strangers_eq_nil_iff.mp hnil c hmem
      exact hstranger t ht hname
    show (if (p.ignored schema).isEmpty = true then [] else [p.warning (p.ignored schema)]) = _
    rw [hsome, ignored_eq_strangers, warning_eq]
    rfl

theorem exists_toRequest_iff {schema : List FieldType} :
    (∃ result, p.toRequest schema = .ok result) ↔ ∀ t ∈ schema, Conforms p t := by
  constructor
  · rintro ⟨result, h⟩ t ht
    obtain ⟨found, hfound, -⟩ := Outcome.bind_eq_ok.mp h
    exact conforms_iff.mpr (Outcome.exists_mapM_eq_ok_iff.mp ⟨found, hfound⟩ t ht)
  · intro hall
    have heach : ∀ t ∈ schema, ∃ d, p.fieldData t = .ok d := by
      intro t ht
      exact conforms_iff.mp (hall t ht)
    obtain ⟨found, hfound⟩ := Outcome.exists_mapM_eq_ok_iff.mpr heach
    exact ⟨_, Outcome.bind_eq_ok.mpr ⟨found, hfound, rfl⟩⟩

theorem offends_of_toRequest {schema : List FieldType} {e : Error}
    (h : p.toRequest schema = .error e) :
    ∃ before t after, schema = before ++ t :: after ∧ (∀ s ∈ before, Conforms p s) ∧
      Offends p t e := by
  rcases Outcome.bind_eq_error.mp h with hwalk | ⟨_, _, hnever⟩
  · obtain ⟨before, t, after, hsplit, hbefore, ht⟩ := Outcome.mapM_eq_error_iff.mp hwalk
    refine ⟨before, t, after, hsplit, ?_, offends_of_fieldData ht⟩
    intro s hs
    exact conforms_iff.mpr (hbefore s hs)
  · cases hnever

/-- An insert is converted exactly if it conforms to every entry of the schema. The request then
carries one column for each entry that is not generated, in the order of the schema, and names
of columns that no entry has are listed in one warning. Otherwise the first entry that is
offended is the one that is reported. -/
theorem toRequest_iff_conforms (p : InsertParam) (schema : List FieldType) :
    ((∃ result, p.toRequest schema = .ok result) ↔ ∀ t ∈ schema, Conforms p t) ∧
      (∀ result, p.toRequest schema = .ok result → Converts p schema result) ∧
      ∀ e, p.toRequest schema = .error e →
        ∃ before t after, schema = before ++ t :: after ∧ (∀ s ∈ before, Conforms p s) ∧
          Offends p t e :=
  ⟨exists_toRequest_iff, fun _ => converts_of_toRequest, fun _ => offends_of_toRequest⟩

end InsertParam

end VectorRequests
