/-
# Only what a schema names matters of an insert

An entry of a schema looks a column up by its name, and packs its type and its rows. Which
column that is, where it stands among the others and what else is supplied makes no difference
to the entry, and so none to the walk over the schema. Two inserts that supply the same under
every name of a schema are converted to one request, or are turned away for one reason.
-/

import VectorRequests.Proofs.Param.Conformance

namespace VectorRequests

/-- Columns of one name and type with the same rows are packed alike, whichever they are. -/
theorem Column.toFieldData_congr {c d : Column} (hname : c.name = d.name)
    (htype : c.type = d.type) (hvalues : c.values = d.values) :
    c.toFieldData = d.toFieldData := by
  rw [Column.toFieldData, Column.toFieldData, hname, htype, hvalues]

namespace InsertParam

variable {p q : InsertParam} {t : FieldType} {schema : List FieldType}

/-- Two inserts supply the same under a name: neither has a column of that name, or each has
one, and the two have one type and the same rows. -/
inductive SuppliesAlike (p q : InsertParam) (name : Name) : Prop
  | nothing (hp : ∀ c ∈ p.columns, c.name ≠ name) (hq : ∀ d ∈ q.columns, d.name ≠ name)
  | column {c d : Column} (hc : c ∈ p.columns) (hd : d ∈ q.columns) (hcname : c.name = name)
      (hdname : d.name = name) (htype : c.type = d.type) (hvalues : c.values = d.values)

/-- Two inserts of as many rows into one partition, which supply the same under every name of
a schema. -/
structure AgreeOn (schema : List FieldType) (p q : InsertParam) : Prop where
  collection_eq : p.collection = q.collection
  partition_eq : p.partition = q.partition
  rowCount_eq : p.rowCount = q.rowCount
  supply : ∀ t ∈ schema, SuppliesAlike p q t.name

/-! ## Rearranged columns -/

/-- An insert supplies under a name what any insert with the same columns of that name does. -/
theorem suppliesAlike_of_filter_perm {name : Name}
    (h : (p.columns.filter (·.name = name)).Perm (q.columns.filter (·.name = name))) :
    SuppliesAlike p q name := by
  have hmem (c : Column) : (c ∈ p.columns ∧ c.name = name) ↔ (c ∈ q.columns ∧ c.name = name) := by
    simpa using h.mem_iff (a := c)
  by_cases hsome : ∃ c ∈ p.columns, c.name = name
  · obtain ⟨c, hc, hname⟩ := hsome
    exact .column hc ((hmem c).mp ⟨hc, hname⟩).1 hname hname rfl rfl
  · apply SuppliesAlike.nothing
    · intro c hc hname
      exact hsome ⟨c, hc, hname⟩
    · intro c hc hname
      exact hsome ⟨c, (hmem c).mpr ⟨hc, hname⟩⟩

/-- The order of columns does not matter, nor do columns under names that a schema has not. -/
theorem agreeOn_of_perm {shared left right : List Column}
    (hcollection : p.collection = q.collection)
    (hpartition : p.partition = q.partition) (hcount : p.rowCount = q.rowCount)
    (hp : p.columns.Perm (shared ++ left)) (hq : q.columns.Perm (shared ++ right))
    (hextra : ∀ t ∈ schema, ∀ c ∈ left ++ right, c.name ≠ t.name) : AgreeOn schema p q := by
  refine ⟨hcollection, hpartition, hcount, ?_⟩
  intro t ht
  have hnone {extra : List Column} (hsub : ∀ c ∈ extra, c ∈ left ++ right) :
      extra.filter (·.name = t.name) = [] := by
    apply List.filter_eq_nil_iff.mpr
    intro c hc
    simpa using hextra t ht c (hsub c hc)
  have hleft : (shared ++ left).filter (·.name = t.name) = shared.filter (·.name = t.name) := by
    rw [List.filter_append, hnone fun c hc => List.mem_append_left _ hc, List.append_nil]
  have hright : (shared ++ right).filter (·.name = t.name) = shared.filter (·.name = t.name) := by
    rw [List.filter_append, hnone fun c hc => List.mem_append_right _ hc, List.append_nil]
  apply suppliesAlike_of_filter_perm
  calc
    (p.columns.filter (·.name = t.name)).Perm ((shared ++ left).filter (·.name = t.name)) :=
      hp.filter _
    _ = (shared ++ right).filter (·.name = t.name) := hleft.trans hright.symm
    _ |>.Perm (q.columns.filter (·.name = t.name)) := (hq.filter _).symm

/-! ## One entry, and the whole schema -/

/-- An entry makes the same of two inserts that supply the same under its name. -/
theorem fieldData_congr (h : SuppliesAlike p q t.name) : p.fieldData t = q.fieldData t := by
  cases h with
  | nothing hp hq =>
      rw [fieldData, fieldData, column?_eq_none_iff.mpr hp, column?_eq_none_iff.mpr hq]
  | column hc hd hcname hdname htype hvalues =>
      have hpacked := Column.toFieldData_congr (hcname.trans hdname.symm) htype hvalues
      rw [fieldData, fieldData, column?_eq_some_iff.mpr ⟨hc, hcname⟩,
        column?_eq_some_iff.mpr ⟨hd, hdname⟩]
      apply bind_congr
      intro generated
      cases generated with
      | true => rfl
      | false => simp only [htype, hpacked]

theorem conforms_congr (h : SuppliesAlike p q t.name) : Conforms p t ↔ Conforms q t := by
  rw [conforms_iff, conforms_iff, fieldData_congr h]

theorem fieldData_of_offends {e : Error} (h : Offends p t e) : p.fieldData t = .error e := by
  cases h with
  | missing hflag hnone =>
      rw [fieldData, hflag, column?_eq_none_iff.mpr hnone]
      rfl
  | generated hflag c hmem hname =>
      rw [fieldData, hflag, column?_eq_some_iff.mpr ⟨hmem, hname⟩]
      rfl
  | mismatch hflag c hmem hname htype =>
      rw [fieldData, hflag, column?_eq_some_iff.mpr ⟨hmem, hname⟩]
      exact if_neg (Ne.symm htype)
  | undecided hflag =>
      rw [fieldData, hflag]
      rfl

theorem offends_congr {e : Error} (h : SuppliesAlike p q t.name) :
    Offends p t e ↔ Offends q t e := by
  have hsame := fieldData_congr h
  constructor
  · intro hp
    exact offends_of_fieldData (hsame.symm.trans (fieldData_of_offends hp))
  · intro hq
    exact offends_of_fieldData (hsame.trans (fieldData_of_offends hq))

/-- Apart from the warnings, a conversion depends on what an insert supplies to the schema. -/
theorem map_request_congr (h : AgreeOn schema p q) :
    (p.toRequest schema).map Converted.request = (q.toRequest schema).map Converted.request := by
  have hwalk : schema.mapM p.fieldData = schema.mapM q.fieldData :=
    Outcome.mapM_congr fun t ht => fieldData_congr (h.supply t ht)
  rw [toRequest, toRequest, hwalk]
  cases schema.mapM q.fieldData with
  | error e => rfl
  | ok found =>
      show Except.ok _ = Except.ok _
      rw [h.collection_eq, h.partition_eq, h.rowCount_eq]

/-- An offence is a refusal that names the field, if the entry says whether it is generated. -/
theorem Offends.exists_refused {e : Error} (h : Offends p t e)
    (hflag : ∃ b, t.autoId.truth = .ok b) : ∃ fault, e = .refused fault t.name.toValue := by
  obtain ⟨b, hb⟩ := hflag
  cases h with
  | missing => exact ⟨_, rfl⟩
  | generated => exact ⟨_, rfl⟩
  | mismatch => exact ⟨_, rfl⟩
  | undecided hnone =>
      rw [hb] at hnone
      cases hnone

/-- Two inserts get one answer for a schema: one request, whatever warnings come with it, or one
error, for the same entry. Both conform to all entries before that one, and offend that one in the
same way. -/
inductive AnsweredAlike (schema : List FieldType) (p q : InsertParam) : Prop
  | converted {request : InsertRequest} {warnings others : List String}
      (hp : p.toRequest schema = .ok ⟨request, warnings⟩)
      (hq : q.toRequest schema = .ok ⟨request, others⟩)
  | turnedAway {e : Error} {before after : List FieldType} {t : FieldType}
      (hp : p.toRequest schema = .error e) (hq : q.toRequest schema = .error e)
      (hsplit : schema = before ++ t :: after)
      (hbefore : ∀ s ∈ before, Conforms p s ∧ Conforms q s)
      (hoffends : Offends p t e ∧ Offends q t e)
      (hrefused : (∃ b, t.autoId.truth = .ok b) → ∃ fault, e = .refused fault t.name.toValue)

/-- Inserts that agree on a schema get one answer for it. -/
theorem answeredAlike_of_agreeOn (h : AgreeOn schema p q) : AnsweredAlike schema p q := by
  have hsame := map_request_congr h
  cases hp : p.toRequest schema with
  | ok result =>
      obtain ⟨request, warnings⟩ := result
      cases hq : q.toRequest schema with
      | error e =>
          rw [hp, hq] at hsame
          cases hsame
      | ok other =>
          obtain ⟨request', others⟩ := other
          rw [hp, hq] at hsame
          cases hsame
          exact .converted hp hq
  | error e =>
      cases hq : q.toRequest schema with
      | ok other =>
          rw [hp, hq] at hsame
          cases hsame
      | error e' =>
          rw [hp, hq] at hsame
          cases hsame
          obtain ⟨before, t, after, hsplit, hbefore, hoffends⟩ := offends_of_toRequest hp
          have hsupply : ∀ s ∈ before ++ t :: after, SuppliesAlike p q s.name := by
            rw [← hsplit]
            exact h.supply
          have hq_offends := (offends_congr (hsupply t (by simp))).mp hoffends
          apply AnsweredAlike.turnedAway hp hq hsplit _ ⟨hoffends, hq_offends⟩
            hoffends.exists_refused
          intro s hs
          have hs_conforms := conforms_congr (hsupply s (by simp [hs]))
          exact ⟨hbefore s hs, hs_conforms.mp (hbefore s hs)⟩

/-! ## Two inserts for one schema -/

def keyName : Name := ⟨"key", Text.not_isBlank_of_mem (c := 'k') (by simp) rfl⟩

def noteName : Name := ⟨"note", Text.not_isBlank_of_mem (c := 'n') (by simp) rfl⟩

/-- A field of integers that must be supplied. -/
def keyField : FieldType where
  name := keyName
  dataType := .int32
  description := .text ""
  primaryKey := .bool true
  autoId := .bool false
  typeParams := .empty
  dataType_isProper := rfl
  hasDimension h := absurd h Bool.false_ne_true

/-- Its column. -/
def keyColumn (handle : Nat) : Column := ⟨handle, keyName, .int32, [.int 7], by simp, rfl⟩

/-- A column that the schema does not name. -/
def noteColumn : Column := ⟨1, noteName, .varchar, [.text "seventh"], by simp, rfl⟩

/-- The key alone. -/
def bareInsert : InsertParam where
  collection := keyName
  partition := noteName
  columns := [keyColumn 0]
  rowCount := 1
  nonempty := by simp
  names_nodup := by simp
  rowCount_eq := List.forall_mem_singleton.mpr rfl

/-- The same key behind a note. -/
def notedInsert : InsertParam where
  collection := keyName
  partition := noteName
  columns := [noteColumn, keyColumn 2]
  rowCount := 1
  nonempty := by simp
  names_nodup := by simp [noteColumn, keyColumn, noteName, keyName]
  rowCount_eq := by simp [noteColumn, keyColumn, Column.rowCount]

theorem agreeOn_bareInsert : AgreeOn [keyField] bareInsert notedInsert := by
  refine ⟨rfl, rfl, rfl, List.forall_mem_singleton.mpr ?_⟩
  exact .column (List.mem_singleton_self _) (List.mem_cons_of_mem _ (List.mem_singleton_self _))
    rfl rfl rfl rfl

/-- The note makes no difference to the request. -/
theorem request_without_note :
    AgreeOn [keyField] bareInsert notedInsert ∧
      ∃ request warnings others, bareInsert.toRequest [keyField] = .ok ⟨request, warnings⟩ ∧
        notedInsert.toRequest [keyField] = .ok ⟨request, others⟩ := by
  refine ⟨agreeOn_bareInsert, ?_⟩
  have hconforms : ∀ t ∈ [keyField], Conforms bareInsert t :=
    List.forall_mem_singleton.mpr (.supplied rfl (keyColumn 0) (List.mem_singleton_self _) rfl rfl)
  cases answeredAlike_of_agreeOn agreeOn_bareInsert with
  | converted hp hq => exact ⟨_, _, _, hp, hq⟩
  | turnedAway hp =>
      obtain ⟨result, hresult⟩ := exists_toRequest_iff.mpr hconforms
      rw [hp] at hresult
      cases hresult

end InsertParam

end VectorRequests
