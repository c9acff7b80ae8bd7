/-
# Which inserts are constructed

The columns of an insert are gone through twice: once for their names, of which those met so far
are kept, and once for their numbers of rows, each of which is compared with the first. The first
walk lets through exactly the columns whose names differ pairwise, and the second one those that
have equally many rows pairwise. So an insert is constructed exactly if its names are names and
its columns fit together, and everything else is refused. The columns have been checked before
they were put together, on the values they were given with, and they pass again as they are held.
-/

import VectorRequests.Param.Insert
import VectorRequests.Proofs.Column.Agreement
import VectorRequests.Proofs.Param.Check

namespace VectorRequests

/-! ## Columns as values -/

namespace Column

variable {handle : Nat} {type : DataType} {v : Value} {c : Column}

theorem ofRows_self (c : Column) : ofRows c.handle c.name c.type c.values = .ok c := by
  unfold ofRows
  split
  next e he => cases c.accepted.symm.trans he
  next => exact dif_pos c.nonempty

theorem toValue_of_ofRows {name : Name} {rows : List Value}
    (h : ofRows handle name type rows = .ok c) :
    c.toValue = .column handle name.text type rows := by
  unfold ofRows at h
  split at h
  · cases h
  · split at h
    · cases h
      rfl
    · cases h

/-- The values that are columns are those of columns that have been accepted. -/
theorem ofValue?_eq_some_iff : ofValue? v = some c ↔ v = c.toValue := by
  constructor
  · intro h
    cases v with
    | column handle name type rows =>
        rw [ofValue?] at h
        split at h
        · cases h
        · cases hrows : ofRows handle ⟨name, ‹_›⟩ type rows with
          | error e => rw [hrows] at h; cases h
          | ok d =>
              rw [hrows] at h
              cases h
              exact (toValue_of_ofRows hrows).symm
    | _ => cases h
  · rintro rfl
    rw [toValue, ofValue?, dif_neg c.name.notBlank, ofRows_self]
    rfl

/-- A column that is constructed has been accepted with the values that were given. -/
theorem validate_of_ofValues {name given values : Value}
    (h : ofValues handle name given values = .ok c) : validate name given values = .ok () := by
  obtain ⟨r, hr⟩ := validate_tuple_eq_ok_iff.mp c.accepted
  exact validate_of_marshal ((toFieldData_eq_marshal h).symm.trans hr)

end Column

namespace InsertParam

variable {collection fields partition : Value} {items : List Value} {cs : List Column}
  {p : InsertParam}

/-! ## The two walks over columns -/

/-- Columns that can be inserted together. -/
structure FitTogether (cs : List Column) : Prop where
  nonempty : cs ≠ []
  names_distinct : cs.Pairwise fun c d => c.name ≠ d.name
  rowCounts_equal : ∀ c ∈ cs, ∀ d ∈ cs, c.rowCount = d.rowCount

/-- One more column is read if its name has not been met before, and is met from then on. -/
theorem readColumns_cons_eq_ok_iff {earlier : List Name} {v : Value} {vs : List Value} :
    readColumns earlier (v :: vs) = .ok cs ↔
      ∃ c ds, v = c.toValue ∧ c.name ∉ earlier ∧ readColumns (c.name :: earlier) vs = .ok ds ∧
        cs = c :: ds := by
  simp only [← Column.ofValue?_eq_some_iff]
  rw [readColumns]
  cases Column.ofValue? v with
  | none => simp [Error.refuse]
  | some c =>
      by_cases hmet : c.name ∈ earlier
      · simp [hmet, Error.refuseField]
      · simp only [hmet, if_false, Outcome.bind_eq_ok, Outcome.pure_eq_ok]
        constructor
        · rintro ⟨ds, hds, hcs⟩
          cases hcs
          exact ⟨c, ds, rfl, hmet, hds, rfl⟩
        · rintro ⟨_, ds, ⟨⟩, -, hds, rfl⟩
          exact ⟨ds, hds, rfl⟩

/-- Columns are read if their names differ from each other and from those met before. -/
theorem readColumns_eq_ok_iff {earlier : List Name} :
    readColumns earlier items = .ok cs ↔
      items = cs.map Column.toValue ∧ (cs.Pairwise fun c d => c.name ≠ d.name) ∧
        ∀ c ∈ cs, c.name ∉ earlier := by
  induction items generalizing earlier cs with
  | nil => cases cs <;> simp [readColumns]
  | cons v vs ih =>
      rw [readColumns_cons_eq_ok_iff]
      constructor
      · rintro ⟨c, ds, rfl, hfresh, hds, rfl⟩
        obtain ⟨rfl, hdistinct, hrest⟩ := ih.mp hds
        refine ⟨rfl, List.pairwise_cons.mpr ⟨?_, hdistinct⟩, List.forall_mem_cons.mpr ⟨hfresh, ?_⟩⟩
        · intro d hd hname
          exact hrest d hd (hname ▸ List.mem_cons_self ..)
        · intro d hd hmet
          exact hrest d hd (List.mem_cons_of_mem _ hmet)
      · rintro ⟨hitems, hdistinct, hfresh⟩
        cases cs with
        | nil => cases hitems
        | cons c ds =>
            obtain ⟨hhead, htail⟩ := List.cons.inj hitems
            obtain ⟨hothers, hdistinct⟩ := List.pairwise_cons.mp hdistinct
            obtain ⟨hfirst, hrest⟩ := List.forall_mem_cons.mp hfresh
            refine ⟨c, ds, hhead, hfirst, ih.mpr ⟨htail, hdistinct, ?_⟩, rfl⟩
            intro d hd
            exact List.not_mem_cons_of_ne_of_not_mem (hothers d hd).symm (hrest d hd)

theorem refuses_readColumns (earlier : List Name) (items : List Value) :
    (readColumns earlier items).Refuses := by
  induction items generalizing earlier with
  | nil => exact Outcome.refuses_ok _
  | cons v vs ih =>
      rw [readColumns]
      split
      · exact Outcome.refuses_refuse _
      · split
        · exact Outcome.failsOnly_error ⟨_, _, rfl⟩
        · exact (ih _).bind fun _ _ => Outcome.refuses_ok _

theorem checkRowCounts_eq_ok_iff {expected : Nat} :
    checkRowCounts expected cs = .ok () ↔ ∀ c ∈ cs, c.rowCount = expected := by
  refine ⟨checkRowCounts_eq_ok, ?_⟩
  intro h
  induction cs with
  | nil => rfl
  | cons c cs ih =>
      obtain ⟨hhead, hrest⟩ := List.forall_mem_cons.mp h
      rw [checkRowCounts, if_pos hhead, ih hrest]

theorem refuses_checkRowCounts (expected : Nat) (cs : List Column) :
    (checkRowCounts expected cs).Refuses := by
  induction cs with
  | nil => exact Outcome.refuses_ok ()
  | cons c cs ih =>
      rw [checkRowCounts]
      split
      · exact ih
      · exact Outcome.failsOnly_error ⟨_, _, rfl⟩

section Columns

variable {collectionName partitionName : Name} {hnames : (cs.map Column.name).Nodup}

/-- Columns that all have as many rows as the first one have equally many pairwise. -/
theorem exists_ofColumns_eq_ok_iff :
    (∃ p, ofColumns collectionName partitionName cs hnames = .ok p) ↔
      cs ≠ [] ∧ ∀ c ∈ cs, ∀ d ∈ cs, c.rowCount = d.rowCount := by
  fun_cases ofColumns collectionName partitionName cs hnames with
  | case1 => exact iff_of_false nofun fun h => h.1 rfl
  | case2 first rest hnames e hcounts =>
      refine iff_of_false nofun ?_
      rintro ⟨-, hequal⟩
      have hpass := checkRowCounts_eq_ok_iff.mpr fun c hc =>
        hequal c hc first (List.mem_cons_self ..)
      cases hcounts.symm.trans hpass
  | case3 first rest hnames hcounts =>
      refine iff_of_true ⟨_, rfl⟩ ⟨List.cons_ne_nil _ _, ?_⟩
      intro c hc d hd
      exact (checkRowCounts_eq_ok hcounts c hc).trans (checkRowCounts_eq_ok hcounts d hd).symm

theorem of_ofColumns (h : ofColumns collectionName partitionName cs hnames = .ok p) :
    p.collection = collectionName ∧ p.partition = partitionName ∧ p.columns = cs := by
  revert h
  fun_cases ofColumns collectionName partitionName cs hnames with
  | case1 => nofun
  | case2 => nofun
  | case3 =>
      rintro ⟨⟩
      exact ⟨rfl, rfl, rfl⟩

theorem refuses_ofColumns : (ofColumns collectionName partitionName cs hnames).Refuses := by
  fun_cases ofColumns collectionName partitionName cs hnames with
  | case1 => exact Outcome.refuses_refuse _
  | case2 first rest hnames e hcounts =>
      exact Outcome.failsOnly_error (refuses_checkRowCounts _ _ e hcounts)
  | case3 => exact Outcome.refuses_ok _

end Columns

/-! ## Inserts -/

/-- What a list or a tuple of columns is put together to, once the names have passed. -/
theorem ofValues_of_lists {collectionName partitionName : Name} (hfields : fields.Lists items)
    (hsome : items ≠ [])
    (hcollection : Check.name "Collection name" collection = .ok collectionName)
    (hpartition : Check.name "Partition name" partition = .ok partitionName) :
    ofValues collection fields partition =
      match hcolumns : readColumns [] items with
      | .error e => .error e
      | .ok cs =>
          ofColumns collectionName partitionName cs (readColumns_distinct hcolumns).1 := by
  have htruth : fields.truth = .ok true := by
    rw [hfields.truth_eq, List.isEmpty_eq_false_iff.mpr hsome]
    rfl
  rw [ofValues, hcollection, Outcome.ok_bind, hpartition, Outcome.ok_bind, htruth,
    Outcome.ok_bind, if_pos rfl, hfields.itemsFor_eq, Outcome.ok_bind, hfields.checkPlaces_eq]
  rfl

/-- What an insert has of the attributes that it is made of. -/
structure MadeOf (p : InsertParam) (collection partition : Value) (items : List Value) : Prop where
  collection : p.collection.toValue = collection
  partition : p.partition.toValue = partition
  columns : p.columns.map Column.toValue = items

theorem madeOf_of_ofValues (hfields : fields.Lists items)
    (h : ofValues collection fields partition = .ok p) : p.MadeOf collection partition items := by
  obtain ⟨collectionName, hcollection, hrest⟩ := Outcome.bind_eq_ok.mp h
  obtain ⟨partitionName, hpartition, hrest⟩ := Outcome.bind_eq_ok.mp hrest
  by_cases hsome : items = []
  · subst hsome
    rw [hfields.truth_eq] at hrest
    cases hrest
  · rw [ofValues_of_lists hfields hsome hcollection hpartition] at h
    split at h
    · cases h
    next cs hcolumns =>
        obtain ⟨hcollectionName, hpartitionName, hcs⟩ := of_ofColumns h
        obtain ⟨hitems, -, -⟩ := readColumns_eq_ok_iff.mp hcolumns
        exact {
          collection := by rw [hcollectionName, Check.toValue_of_name_eq_ok hcollection]
          partition := by rw [hpartitionName, Check.toValue_of_name_eq_ok hpartition]
          columns := by rw [hcs, hitems] }

/-- The columns of every insert fit together. -/
theorem fitTogether_columns (p : InsertParam) : FitTogether p.columns where
  nonempty := p.nonempty
  names_distinct := List.pairwise_map.mp p.names_nodup
  rowCounts_equal c hc d hd := (p.rowCount_eq c hc).trans (p.rowCount_eq d hd).symm

theorem rowCount_pos (p : InsertParam) : 1 ≤ p.rowCount := by
  obtain ⟨c, hc⟩ := List.exists_mem_of_ne_nil _ p.nonempty
  rw [← p.rowCount_eq c hc]
  exact List.length_pos_iff.mpr c.nonempty

/-- The attributes of an insert: names for the collection and the partition, and columns that fit
together. -/
structure IsWellFormed (collection partition : Value) (items : List Value) : Prop where
  collection : collection.IsName
  partition : partition.IsName
  columns : ∃ cs, items = cs.map Column.toValue ∧ FitTogether cs

theorem exists_ofValues_eq_ok_iff (hfields : fields.Lists items) :
    (∃ p, ofValues collection fields partition = .ok p) ↔
      IsWellFormed collection partition items := by
  constructor
  · rintro ⟨p, hp⟩
    have h := madeOf_of_ofValues hfields hp
    exact {
      collection := ⟨_, h.collection.symm, p.collection.notBlank⟩
      partition := ⟨_, h.partition.symm, p.partition.notBlank⟩
      columns := ⟨p.columns, h.columns.symm, p.fitTogether_columns⟩ }
  · intro h
    obtain ⟨cs, rfl, hfit⟩ := h.columns
    obtain ⟨collectionName, hcollection⟩ := Check.exists_name_eq_ok_iff.mpr h.collection
    obtain ⟨partitionName, hpartition⟩ := Check.exists_name_eq_ok_iff.mpr h.partition
    have hsome : cs.map Column.toValue ≠ [] := by simpa using hfit.nonempty
    have hcolumns : readColumns [] (cs.map Column.toValue) = .ok cs :=
      readColumns_eq_ok_iff.mpr ⟨rfl, hfit.names_distinct, by simp⟩
    rw [ofValues_of_lists hfields hsome hcollection hpartition]
    split
    next e he => cases hcolumns.symm.trans he
    next ds hds =>
        cases hcolumns.symm.trans hds
        exact exists_ofColumns_eq_ok_iff.mpr ⟨hfit.nonempty, hfit.rowCounts_equal⟩

theorem refuses_ofValues (hfields : fields.Lists items) :
    (ofValues collection fields partition).Refuses := by
  refine (Check.refuses_name _ _).bind fun _ _ => ?_
  refine (Check.refuses_name _ _).bind fun _ _ => ?_
  rw [hfields.truth_eq, Outcome.ok_bind, hfields.itemsFor_eq, Outcome.ok_bind,
    hfields.checkPlaces_eq]
  split
  · split
    next e he => exact Outcome.failsOnly_error (refuses_readColumns _ _ e he)
    next => exact refuses_ofColumns
  · exact Outcome.refuses_refuse _

/-- An insert is constructed from a list or a tuple of values exactly if its names are names and
the values are columns that fit together, and is refused otherwise. It has the names and the
columns that were given, in the order in which they were given, and the number of rows that all
its columns have, which is at least one. Every column of an insert was accepted with the values
that it was constructed with, and it is accepted as it is. -/
theorem constructs_iff_isWellFormed (hfields : fields.Lists items) :
    ((∃ p, ofValues collection fields partition = .ok p) ↔
      IsWellFormed collection partition items) ∧
    (¬ IsWellFormed collection partition items →
      (ofValues collection fields partition).IsRefused) ∧
    ∀ p, ofValues collection fields partition = .ok p →
      p.MadeOf collection partition items ∧
      1 ≤ p.rowCount ∧ (∀ c ∈ p.columns, c.rowCount = p.rowCount) ∧
      ∀ c ∈ p.columns,
        (∀ name given values, Column.ofValues c.handle name given values = .ok c →
          Column.validate name given values = .ok ()) ∧
        Column.validate c.name.toValue (.dataType c.type) (.tuple c.values) = .ok () := by
  refine ⟨exists_ofValues_eq_ok_iff hfields, ?_, ?_⟩
  · intro hinvalid
    rw [← exists_ofValues_eq_ok_iff hfields] at hinvalid
    exact (refuses_ofValues hfields).isRefused hinvalid
  · intro p hp
    refine ⟨madeOf_of_ofValues hfields hp, p.rowCount_pos, p.rowCount_eq, ?_⟩
    intro c _
    exact ⟨fun _ _ _ => Column.validate_of_ofValues, c.accepted⟩

/-! ### Two columns of two rows -/

/-- A column of short integers. -/
def pageColumn : Column :=
  ⟨0, ⟨"page", Text.not_isBlank_of_mem (c := 'p') (by simp) rfl⟩, .int16, [.int 7, .int (-8)],
    by simp, rfl⟩

/-- A column of codes of sixteen bits. -/
def codeColumn : Column :=
  ⟨1, ⟨"code", Text.not_isBlank_of_mem (c := 'c') (by simp) rfl⟩, .binaryVector,
    [.bytes [1, 2], .buffer [3, 4]], by simp, rfl⟩

/-- The columns are put together in the order in which they are given. -/
theorem twoColumns_construct :
    (Value.tuple [pageColumn.toValue, codeColumn.toValue]).Lists
        [pageColumn.toValue, codeColumn.toValue] ∧
      ∃ p, ofValues (.text "books") (.tuple [pageColumn.toValue, codeColumn.toValue])
          (.text "_default") = .ok p ∧
        p.MadeOf (.text "books") (.text "_default") [pageColumn.toValue, codeColumn.toValue] := by
  have hacceptance := @constructs_iff_isWellFormed (.text "books") _ (.text "_default") _
    (.tuple [pageColumn.toValue, codeColumn.toValue])
  have hcollection : (Value.text "books").IsName :=
    ⟨_, rfl, Text.not_isBlank_of_mem (c := 'b') (by simp) rfl⟩
  have hpartition : (Value.text "_default").IsName :=
    ⟨_, rfl, Text.not_isBlank_of_mem (c := 'd') (by simp) rfl⟩
  have hnames : pageColumn.name ≠ codeColumn.name := by simp [pageColumn, codeColumn]
  have hfit : FitTogether [pageColumn, codeColumn] := by
    refine ⟨List.cons_ne_nil _ _, List.pairwise_pair.mpr hnames, ?_⟩
    simp [pageColumn, codeColumn, Column.rowCount]
  obtain ⟨p, hp⟩ := hacceptance.1.mpr ⟨hcollection, hpartition, _, rfl, hfit⟩
  exact ⟨.tuple _, p, hp, (hacceptance.2.2 p hp).1⟩

end InsertParam

end VectorRequests
