/-
# Keys of equal field types

Field types are equal if their names, their data types, their descriptions and flags are, and if
the mappings that they were made of give the same texts for the same names, in whatever order and
by whichever way. The key of a field type counts its parameters in any order as well. So equal
field types have equal keys exactly if their descriptions and flags have, which may be anything
that has a key; ordinary ones do.
-/

import VectorRequests.Proofs.Draft.Construction
import VectorRequests.Proofs.Schema.Equality
import VectorRequests.Proofs.Value.Lookup

namespace VectorRequests

/-! ## The texts that parameters are made of -/

namespace TypeParams

variable {params others : TypeParams} {name s : String}

/-- Names are distinct, so an entry is what its name is looked up as. -/
theorem mem_entries_iff : (name, s) ∈ params.entries ↔ params.get? name = some s := by
  rw [get?, List.lookup_eq_some_iff]
  constructor
  · intro hmem
    obtain ⟨before, after, hsplit⟩ := List.append_of_mem hmem
    refine ⟨before, after, hsplit, fun pair hpair => ?_⟩
    have hnodup := params.names_nodup
    rw [hsplit, List.map_append, List.map_cons, List.nodup_append] at hnodup
    have hne := hnodup.2.2 _ (List.mem_map_of_mem hpair) name (List.mem_cons_self ..)
    simpa using Ne.symm hne
  · rintro ⟨before, after, hsplit, -⟩
    rw [hsplit]
    simp

/-- Parameters are the same in some order if every name is looked up alike. -/
theorem perm_iff_get? :
    params.entries.Perm others.entries ↔
      ∀ name s, params.get? name = some s ↔ others.get? name = some s := by
  rw [List.perm_ext_iff_of_nodup (params.names_nodup.of_map _) (others.names_nodup.of_map _),
    Prod.forall]
  simp only [mem_entries_iff]

end TypeParams

namespace Value

/-- A value gives a text for a name as a parameter: it is a mapping that does. -/
def GivesParam (params : Value) (name s : String) : Prop :=
  ∃ entries, params = .mapping entries ∧ TypeParams.Gives entries name s

/-- What parameters hold is what they were given, which is nothing if they were not made of a
mapping. -/
theorem get?_iff_givesParam {params : Value} {made : TypeParams} {name s : String}
    (h : TypeParams.ofValue params = .ok made) :
    made.get? name = some s ↔ params.GivesParam name s := by
  by_cases hmapping : ∃ entries, params = .mapping entries
  · obtain ⟨entries, rfl⟩ := hmapping
    simp [TypeParams.get?_eq_some_iff h, GivesParam]
  · refine iff_of_false ?_ fun ⟨entries, hentries, _⟩ => hmapping ⟨entries, hentries⟩
    obtain ⟨answer, -, hmade⟩ := Outcome.bind_eq_ok.mp h
    cases answer with
    | true =>
        rw [if_pos rfl] at hmade
        split at hmade
        · exact absurd ⟨_, rfl⟩ hmapping
        · cases hmade
    | false =>
        cases hmade
        nofun

end Value

namespace FieldType

variable {a b t : FieldType}

/-- The ways in which a field type comes from parameters: by its constructor, or by building a
draft that has been given them, however that was done. -/
inductive MadeOf (params : Value) (t : FieldType) : Prop
  | constructed {name dataType description primaryKey autoId : Value}
      (h : ofValues name dataType description primaryKey autoId params = .ok t)
  | built {d : FieldTypeDraft} (hparams : d.typeParams.getD (.mapping []) = params)
      (h : d.build = .ok t)

/-- Either way the parameters are those of the value. -/
theorem MadeOf.ofValue {params : Value} (h : t.MadeOf params) :
    TypeParams.ofValue params = .ok t.typeParams := by
  cases h with
  | constructed h =>
      obtain ⟨-, -, -, -, -, hparams⟩ := of_ofValues h
      exact hparams
  | @built d hparams h =>
      obtain ⟨name, -, h⟩ := Outcome.bind_eq_ok.mp h
      split at h
      · cases h
      · obtain ⟨_, -, h⟩ := Outcome.bind_eq_ok.mp h
        obtain ⟨_, -, h⟩ := Outcome.bind_eq_ok.mp h
        obtain ⟨-, -, -, -, -, hkept⟩ := of_ofValues h
        rwa [hparams] at hkept

/-! ## Equality -/

theorem equal_dataType {t u : DataType} :
    Value.equal (.dataType t) (.dataType u) = .ok true ↔ t = u := by
  have hcodes : t.code = u.code ↔ t = u := by
    cases t <;> cases u <;> simp [DataType.code]
  have hleaf : Value.equal (.dataType t) (.dataType u) =
      Value.numbersEqual (.integer t.code) (.integer u.code) := by
    rw [Value.equal]
    · rfl
    all_goals simp
  have hequal : (Operand.integer t.code).equal? (.integer u.code) =
      some (Exact.equal (.ofInt t.code) (.ofInt u.code)) :=
    Operand.equal?_of_isPlain (a := .integer t.code) (b := .integer u.code) trivial trivial
  rw [hleaf, Value.numbersEqual, hequal, ← hcodes]
  simp [Exact.ofInt, Exact.equal]

/-- Field types are equal if their attributes are, and their parameters in any order. -/
theorem equal_toValue_iff :
    Value.equal a.toValue b.toValue = .ok true ↔
      a.name = b.name ∧ a.dataType = b.dataType ∧
      Value.equal a.description b.description = .ok true ∧
      Value.equal a.primaryKey b.primaryKey = .ok true ∧
      Value.equal a.autoId b.autoId = .ok true ∧
      a.typeParams.entries.Perm b.typeParams.entries := by
  have hname : Value.equal a.name.toValue b.name.toValue = .ok true ↔ a.name = b.name := by
    rw [Name.toValue, Name.toValue, Value.equal_text, Except.ok.injEq, beq_iff_eq]
    exact (Name.mk.injEq ..).to_iff.symm
  rw [toValue, toValue, Value.equal, if_pos rfl, Value.attributesEqual_eq_ok_iff fun _ => rfl]
  simp only [List.forall₂_cons, List.Forall₂.nil, and_true, hname, equal_dataType,
    TypeParams.equal_toValue, Except.ok.injEq, decide_eq_true_eq]

/-! ## Keys -/

/-- What a parameter adds to the key of a field type. -/
def paramKey (entry : String × String) : Key :=
  .parts [Key.ofText entry.1, Key.ofText entry.2]

theorem entryKeys?_textEntry (entries : List (String × String)) :
    Value.entryKeys? (entries.map Value.textEntry) = some (entries.map paramKey) := by
  rw [Value.entryKeys?_eq_some_iff, List.forall₂_map_left_iff, List.forall₂_map_right_iff,
    List.forall₂_same]
  intro entry _
  exact ⟨_, _, rfl, rfl, rfl⟩

/-- An attribute that is not the parameters is keyed by itself. -/
theorem attributeKeys?_cons {kind : RecordKind} {name : String} {value : Value} {k : Key}
    (rest : List (String × Value)) (hname : name ≠ "type_params") (hk : value.key? = some k) :
    Value.attributeKeys? kind ((name, value) :: rest) =
      (Value.attributeKeys? kind rest).map (k :: ·) := by
  rw [Value.attributeKeys?]
  · rw [hk]
    cases Value.attributeKeys? kind rest <;> rfl
  · intro entries _ hparams
    exact absurd hparams hname

/-- The key of a field type whose description and flags have keys. -/
theorem key?_toValue {description primaryKey autoId : Key}
    (hdescription : t.description.key? = some description)
    (hprimary : t.primaryKey.key? = some primaryKey) (hauto : t.autoId.key? = some autoId) :
    t.toValue.key? = some (.parts [Key.ofText t.name.text, Key.ofExact (.ofInt t.dataType.code),
      description, primaryKey, autoId, .bag (t.typeParams.entries.map paramKey)]) := by
  have hparams : Value.attributeKeys? .fieldType [("type_params", t.typeParams.toValue)] =
      some [.bag (t.typeParams.entries.map paramKey)] := by
    have hentries : Value.entryKeys? (t.typeParams.entries.map fun entry =>
        (.text entry.1, .text entry.2)) = some (t.typeParams.entries.map paramKey) :=
      entryKeys?_textEntry t.typeParams.entries
    simp [Value.attributeKeys?, TypeParams.toValue, hentries]
  have hname : t.name.toValue.key? = some (Key.ofText t.name.text) := rfl
  have htype : (Value.dataType t.dataType).key? = some (Key.ofExact (.ofInt t.dataType.code)) := rfl
  have hrecord : t.toValue.key? = (Value.attributeKeys? .fieldType
      [("name", t.name.toValue), ("data_type", .dataType t.dataType),
        ("description", t.description), ("primary_key", t.primaryKey), ("auto_id", t.autoId),
        ("type_params", t.typeParams.toValue)]).map .parts := rfl
  rw [hrecord, attributeKeys?_cons _ (by decide) hname, attributeKeys?_cons _ (by decide) htype,
    attributeKeys?_cons _ (by decide) hdescription, attributeKeys?_cons _ (by decide) hprimary,
    attributeKeys?_cons _ (by decide) hauto, hparams]
  rfl

/-- Parameters in any order have one key. -/
theorem bag_equal_of_perm {entries others : List (String × String)} (h : entries.Perm others) :
    (Key.bag (entries.map paramKey)).equal (.bag (others.map paramKey)) = true := by
  have hself (entry : String × String) : (paramKey entry).equal (paramKey entry) = true :=
    Key.equal_parts.mpr (.cons (Key.equal_ofText _) (.cons (Key.equal_ofText _) .nil))
  rw [Key.equal_bag]
  refine ⟨by simp [h.length_eq], fun k hk => ?_⟩
  obtain ⟨entry, hentry, rfl⟩ := List.mem_map.mp hk
  exact ⟨_, List.mem_map_of_mem (h.mem_iff.mp hentry), hself entry⟩

/-- The descriptions and the flags of two field types. -/
def unchecked (a b : FieldType) : List Value :=
  [a.description, a.primaryKey, a.autoId, b.description, b.primaryKey, b.autoId]

/-- Equal field types are looked up alike exactly if their descriptions and flags are. -/
theorem sharesKey_iff_of_equal (hkeys : ∀ u ∈ unchecked a b, u.isKey = true)
    (h : Value.equal a.toValue b.toValue = .ok true) :
    a.toValue.sharesKey b.toValue = true ↔
      a.description.sharesKey b.description = true ∧
        a.primaryKey.sharesKey b.primaryKey = true ∧ a.autoId.sharesKey b.autoId = true := by
  obtain ⟨hname, htype, -, -, -, hperm⟩ := equal_toValue_iff.mp h
  simp only [unchecked, List.forall_mem_cons, Value.isKey, Option.isSome_iff_exists] at hkeys
  obtain ⟨⟨d, hd⟩, ⟨p, hp⟩, ⟨u, hu⟩, ⟨d', hd'⟩, ⟨p', hp'⟩, ⟨u', hu'⟩, -⟩ := hkeys
  have hnames : (Key.ofText a.name.text).equal (Key.ofText b.name.text) = true := by
    rw [hname]
    exact Key.equal_ofText _
  have htypes : (Key.ofExact (.ofInt a.dataType.code)).equal
      (Key.ofExact (.ofInt b.dataType.code)) = true := by
    rw [htype]
    exact Key.equal_ofInt _
  rw [Value.sharesKey, key?_toValue hd hp hu, key?_toValue hd' hp' hu']
  simp only [Key.equal_parts, List.forall₂_cons, List.Forall₂.nil, hnames, htypes,
    bag_equal_of_perm hperm, Value.sharesKey, hd, hp, hu, hd', hp', hu', and_true, true_and]

/-- A field type whose description and flags can be looked up can be looked up. -/
theorem isKey_toValue (hkeys : ∀ u ∈ [t.description, t.primaryKey, t.autoId], u.isKey = true) :
    t.toValue.isKey = true := by
  simp only [List.forall_mem_cons, Value.isKey, Option.isSome_iff_exists] at hkeys
  obtain ⟨⟨d, hd⟩, ⟨p, hp⟩, ⟨u, hu⟩, -⟩ := hkeys
  rw [Value.isKey, key?_toValue hd hp hu]
  rfl

/-- Two field types whose descriptions and flags can be looked up are equal exactly if these are,
and their names and data types, and if what they were made of gives the same texts for the same
names. They can be looked up, and if they are equal, alike exactly if their descriptions and flags
are, which ordinary ones are. -/
theorem equality_and_lookup {params params' : Value} (ha : a.MadeOf params) (hb : b.MadeOf params')
    (hkeys : ∀ u ∈ unchecked a b, u.isKey = true) :
    (Value.equal a.toValue b.toValue = .ok true ↔
      a.name = b.name ∧ a.dataType = b.dataType ∧
      Value.equal a.description b.description = .ok true ∧
      Value.equal a.primaryKey b.primaryKey = .ok true ∧
      Value.equal a.autoId b.autoId = .ok true ∧
      ∀ name s, params.GivesParam name s ↔ params'.GivesParam name s) ∧
    (a.toValue.isKey = true ∧ b.toValue.isKey = true) ∧
    (Value.equal a.toValue b.toValue = .ok true →
      (a.toValue.sharesKey b.toValue = true ↔
        a.description.sharesKey b.description = true ∧
          a.primaryKey.sharesKey b.primaryKey = true ∧ a.autoId.sharesKey b.autoId = true) ∧
      ((∀ u ∈ unchecked a b, u.IsOrdinary) → a.toValue.sharesKey b.toValue = true)) := by
  have hparams : a.typeParams.entries.Perm b.typeParams.entries ↔
      ∀ name s, params.GivesParam name s ↔ params'.GivesParam name s := by
    rw [TypeParams.perm_iff_get?]
    simp only [Value.get?_iff_givesParam ha.ofValue, Value.get?_iff_givesParam hb.ofValue]
  have hall := hkeys
  simp only [unchecked, List.forall_mem_cons] at hkeys
  obtain ⟨hd, hp, hu, hd', hp', hu', -⟩ := hkeys
  refine ⟨by rw [equal_toValue_iff, hparams],
    ⟨isKey_toValue (by simp [hd, hp, hu]), isKey_toValue (by simp [hd', hp', hu'])⟩,
    fun hequal => ?_⟩
  have hshares := sharesKey_iff_of_equal hall hequal
  refine ⟨hshares, fun hordinary => ?_⟩
  obtain ⟨-, -, hdescription, hprimary, hauto, -⟩ := equal_toValue_iff.mp hequal
  simp only [unchecked, List.forall_mem_cons] at hordinary
  obtain ⟨hd₁, hp₁, hu₁, hd₁', hp₁', hu₁', -⟩ := hordinary
  exact hshares.mpr ⟨Value.sharesKey_of_equal hd₁ hd₁' hd hd' hdescription,
    Value.sharesKey_of_equal hp₁ hp₁' hp hp' hprimary,
    Value.sharesKey_of_equal hu₁ hu₁' hu hu' hauto⟩

/-! ### Parameters in another order, and a description that is rounded -/

/-- The vector field with a remark, with its parameters the other way around. -/
def reordered : FieldType :=
  { remarkedField with
    typeParams := .ofPairs [("dim", "16"), ("remark", "first")]
    hasDimension _ := ⟨16, by decide +kernel, by decide⟩ }

/-- A draft that has been given all that is needed for it. -/
def reorderedDraft : FieldTypeDraft where
  name := some idName.toValue
  dataType := some (.dataType .binaryVector)
  description := some (.text "covers")
  typeParams := some reordered.typeParams.toValue

theorem build_reorderedDraft : reorderedDraft.build = .ok reordered := by
  rw [FieldTypeDraft.build_of_content rfl rfl]
  exact ofValues_attributes reordered

/-- The one is constructed and the other built from a draft, in another order, and they are equal
and looked up alike. -/
theorem reordered_alike :
    remarkedField.MadeOf remarkedField.typeParams.toValue ∧
      reordered.MadeOf reordered.typeParams.toValue ∧
      Value.equal remarkedField.toValue reordered.toValue = .ok true ∧
      remarkedField.toValue.sharesKey reordered.toValue = true := by
  have hconstructed : remarkedField.MadeOf remarkedField.typeParams.toValue :=
    .constructed (ofValues_attributes remarkedField)
  have hbuilt : reordered.MadeOf reordered.typeParams.toValue :=
    .built (d := reorderedDraft) rfl build_reorderedDraft
  have hkeys : ∀ u ∈ unchecked remarkedField reordered, u.isKey = true := by
    simp only [unchecked, List.forall_mem_cons]
    exact ⟨rfl, rfl, rfl, rfl, rfl, rfl, nofun⟩
  have hordinary : ∀ u ∈ unchecked remarkedField reordered, u.IsOrdinary := by
    have hflag := (Value.isOrdinary_of_toInt? (v := .bool false) rfl).1
    simp only [unchecked, List.forall_mem_cons]
    exact ⟨Value.isOrdinary_text _, hflag, hflag, Value.isOrdinary_text _, hflag, hflag, nofun⟩
  have hperm : remarkedField.typeParams.entries.Perm reordered.typeParams.entries := .swap ..
  have hgives := TypeParams.perm_iff_get?.mp hperm
  simp only [Value.get?_iff_givesParam hconstructed.ofValue,
    Value.get?_iff_givesParam hbuilt.ofValue] at hgives
  have hflag := Value.equal_self_of_toInt? (v := .bool false) rfl
  obtain ⟨hequal, -, hlookup⟩ := equality_and_lookup hconstructed hbuilt hkeys
  have hsame := hequal.mpr ⟨rfl, rfl, Value.equal_text_self _, hflag, hflag, hgives⟩
  exact ⟨hconstructed, hbuilt, hsame, (hlookup hsame).2 hordinary⟩

/-- A field of floats whose description may be a number. -/
def numbered (description : Value) : FieldType where
  name := idName
  dataType := .float
  description := description
  primaryKey := .bool false
  autoId := .bool false
  typeParams := .empty
  dataType_isProper := rfl
  hasDimension := nofun

theorem ofValues_numbered (description : Value) :
    ofValues (.text "id") (.dataType .float) description (.bool false) (.bool false)
      (.mapping []) = .ok (numbered description) :=
  ofValues_attributes (numbered description)

theorem equal_sized_int (type : ElementType) (c : type.Cell) (i : Int) :
    Value.equal (.sized type c) (.int i) = Value.numbersEqual (.cell type c) (.integer i) := by
  simp [Value.equal, Value.leafEqual, Value.operand?, Value.toInt?]

/-- The single float 2 ^ 24. -/
def roundCell : (ElementType.float .single).Cell :=
  (Binary.ofRank false 0x4b800000 : Single)

/-- The same as a sized number. -/
def sizedNumber : Value :=
  .sized (.float .single) roundCell

/-- Beside a single float 2 ^ 24 + 1 is rounded to 2 ^ 24, so the descriptions are equal; they are
not looked up alike, and neither are the field types. -/
theorem rounded_not_shared :
    ofValues (.text "id") (.dataType .float) sizedNumber (.bool false) (.bool false)
        (.mapping []) = .ok (numbered sizedNumber) ∧
      ofValues (.text "id") (.dataType .float) (.int 16777217) (.bool false) (.bool false)
        (.mapping []) = .ok (numbered (.int 16777217)) ∧
      (∀ u ∈ unchecked (numbered sizedNumber) (numbered (.int 16777217)), u.isKey = true) ∧
      Value.equal (numbered sizedNumber).toValue (numbered (.int 16777217)).toValue = .ok true ∧
      ¬ (numbered sizedNumber).toValue.sharesKey (numbered (.int 16777217)).toValue = true := by
  have hkeys : ∀ u ∈ unchecked (numbered sizedNumber) (numbered (.int 16777217)),
      u.isKey = true := by
    simp only [unchecked, List.forall_mem_cons]
    exact ⟨by decide +kernel, rfl, rfl, rfl, rfl, rfl, nofun⟩
  have hrounded : Value.equal sizedNumber (.int 16777217) = .ok true := by
    have hnumbers : (Operand.cell (.float .single) roundCell).equal? (.integer 16777217) =
        some true := by decide +kernel
    rw [sizedNumber, equal_sized_int, Value.numbersEqual, hnumbers]
  have hflag := Value.equal_self_of_toInt? (v := .bool false) rfl
  have hequal : Value.equal (numbered sizedNumber).toValue (numbered (.int 16777217)).toValue =
      .ok true :=
    equal_toValue_iff.mpr ⟨rfl, rfl, hrounded, hflag, hflag, .refl _⟩
  refine ⟨ofValues_numbered _, ofValues_numbered _, hkeys, hequal, ?_⟩
  rw [sharesKey_iff_of_equal hkeys hequal]
  have hdifferent : sizedNumber.sharesKey (.int 16777217) = false := by decide +kernel
  rintro ⟨hshares, -⟩
  cases hdifferent.symm.trans hshares

end FieldType

end VectorRequests
