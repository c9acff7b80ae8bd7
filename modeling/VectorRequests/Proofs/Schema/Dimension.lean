/-
# Dimensions of field types

The dimension of a field type is kept as a text. It is read when a vector field is made, which
must have one that denotes a positive integer, and again whenever it is asked for, whatever the
type of the field is. So a vector field is always told its dimension. A field of another type is
not asked for one when it is made, and may have been given a text that denotes no integer; asking
for its dimension then fails. No field is made of parameters that cannot be written.
-/

import VectorRequests.Proofs.Param.Check
import VectorRequests.Proofs.Schema.Conversion
import VectorRequests.Proofs.Text.Numeral

namespace VectorRequests

open Text Integer

namespace TypeParams

variable {entries : List (Value × Value)} {params : TypeParams}

/-- The parameters give a positive dimension exactly if the mapping gives a text that denotes a
positive integer. -/
theorem hasDimension_iff (h : ofValue (.mapping entries) = .ok params) :
    params.HasDimension ↔ ∃ s n, Gives entries dimName s ∧ Denotes s n ∧ 0 < n := by
  have hdimension (n : Int) :
      params.dimension? = some n ↔ ∃ s, Gives entries dimName s ∧ Denotes s n := by
    rw [dimension?, Option.bind_eq_some_iff]
    simp only [get?_eq_some_iff h, read?_eq_some_iff]
  constructor
  · rintro ⟨n, hn, hpos⟩
    obtain ⟨s, hgives, hdenotes⟩ := (hdimension n).mp hn
    exact ⟨s, n, hgives, hdenotes, hpos⟩
  · rintro ⟨s, n, hgives, hdenotes, hpos⟩
    exact ⟨n, (hdimension n).mpr ⟨s, hgives, hdenotes⟩, hpos⟩

end TypeParams

namespace FieldType

open TypeParams

/-! ## Making a field type -/

theorem refuses_properType (field : Value) (type : DataType) :
    (properType field (.dataType type)).Refuses := by
  unfold properType
  dsimp only
  split
  · exact Outcome.refuses_ok _
  · exact Outcome.failsOnly_error ⟨_, _, rfl⟩

theorem refuses_checkDimension (field : Value) (params : TypeParams) :
    (checkDimension field params).Refuses := by
  fun_cases checkDimension field params with
  | case1 | case2 | case4 => exact Outcome.failsOnly_error ⟨_, _, rfl⟩
  | case3 => exact Outcome.refuses_ok _

variable {name description primaryKey autoId : Value} {type : DataType}
  {entries : List (Value × Value)}

/-- If no field type is made of a mapping that can be written, it is refused. -/
theorem refuses_ofValues (htext : (Value.mapping entries).hasText = true) :
    (ofValues name (.dataType type) description primaryKey autoId (.mapping entries)).Refuses := by
  refine (Check.refuses_name _ _).bind fun name _ => ?_
  refine (refuses_properType _ _).bind fun ⟨type, hproper⟩ _ => ?_
  dsimp only
  rw [ofValue_mapping, Value.withText_of_hasText htext, Outcome.ok_bind]
  split
  · exact (refuses_checkDimension _ _).bind fun _ _ => Outcome.refuses_ok _
  · exact Outcome.refuses_ok _

/-- Without a name, a field type is refused before its parameters are written. -/
theorem isRefused_of_not_isName (h : ¬ name.IsName) :
    (ofValues name (.dataType type) description primaryKey autoId
      (.mapping entries)).IsRefused := by
  refine (Check.refuses_name _ _).isRefused_bind fun checked hchecked => ?_
  exact absurd (Check.exists_name_eq_ok_iff.mp ⟨checked, hchecked⟩) h

/-- Parameters that cannot be written end the making of a field type. -/
theorem ofValues_of_not_hasText (hname : name.IsName) (hproper : type.isProper = true)
    (htext : (Value.mapping entries).hasText = false) :
    ofValues name (.dataType type) description primaryKey autoId (.mapping entries) =
      .error (.failed .badValue) := by
  obtain ⟨checked, hchecked⟩ := Check.exists_name_eq_ok_iff.mpr hname
  have htype : properType checked.toValue (.dataType type) = .ok ⟨type, hproper⟩ := dif_pos hproper
  rw [ofValues, hchecked, Outcome.ok_bind, htype, Outcome.ok_bind]
  dsimp only
  rw [ofValue_mapping, Value.withText_of_not_hasText htext]
  rfl

theorem isProper_of_isVector (h : type.isVector = true) : type.isProper = true := by
  cases type with
  | binaryVector | floatVector => rfl
  | _ => cases h

/-- A vector field is made exactly if it has a name, its parameters can be written, and one of
them is a text for its dimension that denotes a positive integer. -/
theorem exists_ofValues_vector_iff (hvector : type.isVector = true) :
    (∃ t, ofValues name (.dataType type) description primaryKey autoId (.mapping entries) =
        .ok t) ↔
      name.IsName ∧ (Value.mapping entries).hasText = true ∧
        ∃ s n, Gives entries dimName s ∧ Denotes s n ∧ 0 < n := by
  constructor
  · rintro ⟨t, ht⟩
    obtain ⟨hname, htype, -, -, -, hparams⟩ := of_ofValues ht
    cases htype
    have htext := (Value.withText_eq_ok_iff.mp ((ofValue_mapping entries).symm.trans hparams)).1
    exact ⟨⟨t.name.text, hname.symm, t.name.notBlank⟩, htext,
      (hasDimension_iff hparams).mp (t.hasDimension hvector)⟩
  · rintro ⟨hname, htext, hgives⟩
    obtain ⟨checked, hchecked⟩ := Check.exists_name_eq_ok_iff.mpr hname
    have hproper : properType checked.toValue (.dataType type) =
        .ok ⟨type, isProper_of_isVector hvector⟩ := dif_pos _
    have hparams := (ofValue_mapping entries).trans (Value.withText_of_hasText htext _)
    have hdim := (hasDimension_iff hparams).mpr hgives
    refine ⟨⟨checked, type, description, primaryKey, autoId, _, isProper_of_isVector hvector,
      fun _ => hdim⟩, ?_⟩
    rw [ofValues, hchecked, Outcome.ok_bind, hproper, Outcome.ok_bind]
    dsimp only
    rw [hparams, Outcome.ok_bind, dif_pos hvector, checkDimension_eq_ok _ hdim]
    rfl

/-! ## Asking for the dimension -/

/-- The dimension can be asked for, and a vector field has a positive one. -/
def HasUsableDimension (t : FieldType) : Prop :=
  ∃ d, t.dimension = .ok d ∧ (t.dataType.isVector = true → ∃ n, d = some n ∧ 0 < n)

section Made

variable {t : FieldType} (h : ofValues name (.dataType type) description primaryKey autoId
  (.mapping entries) = .ok t)

include h

/-- The dimension is the integer that the given text denotes. -/
theorem dimension_eq_some_iff (n : Int) :
    t.dimension = .ok (some n) ↔ ∃ s, Gives entries dimName s ∧ Denotes s n := by
  obtain ⟨-, -, -, -, -, hparams⟩ := of_ofValues h
  simp only [← get?_eq_some_iff hparams, ← read?_eq_some_iff]
  unfold dimension
  cases t.typeParams.get? dimName with
  | none => simp
  | some given => cases hread : read? given <;> simp [hread, Error.fail]

/-- There is none if no text was given. -/
theorem dimension_eq_none_iff :
    t.dimension = .ok none ↔ ∀ s, ¬ Gives entries dimName s := by
  obtain ⟨-, -, -, -, -, hparams⟩ := of_ofValues h
  simp only [← get?_eq_some_iff hparams]
  unfold dimension
  cases t.typeParams.get? dimName with
  | none => simp
  | some given => cases hread : read? given <;> simp [hread, Error.fail]

/-- Asking fails if the given text denotes no integer, and always in the same way. -/
theorem dimension_eq_error_iff (e : Error) :
    t.dimension = .error e ↔
      (∃ s, Gives entries dimName s ∧ ∀ n, ¬ Denotes s n) ∧ e = .failed .badValue := by
  obtain ⟨-, -, -, -, -, hparams⟩ := of_ofValues h
  simp only [← get?_eq_some_iff hparams, ← read?_eq_none_iff]
  unfold dimension
  cases t.typeParams.get? dimName with
  | none => simp
  | some given => cases hread : read? given <;> simp [hread, Error.fail, eq_comm]

/-- The dimension is usable for vectors, and for other fields unless the given text denotes no
integer. -/
theorem hasUsableDimension_iff :
    t.HasUsableDimension ↔
      type.isVector = true ∨ ∀ s, Gives entries dimName s → ∃ n, Denotes s n := by
  obtain ⟨-, htype, -, -, -, hparams⟩ := of_ofValues h
  cases htype
  constructor
  · rintro ⟨d, hd, -⟩
    refine .inr fun s hgives => ?_
    by_contra hnone
    have hfails := (dimension_eq_error_iff h (.failed .badValue)).mpr
      ⟨⟨s, hgives, not_exists.mp hnone⟩, rfl⟩
    cases hd.symm.trans hfails
  · intro hcases
    by_cases hvector : t.dataType.isVector = true
    · obtain ⟨s, n, hgives, hdenotes, hpos⟩ :=
        (hasDimension_iff hparams).mp (t.hasDimension hvector)
      exact ⟨some n, (dimension_eq_some_iff h n).mpr ⟨s, hgives, hdenotes⟩, fun _ => ⟨n, rfl, hpos⟩⟩
    · have hdenotes := hcases.resolve_left hvector
      cases hdim : t.dimension with
      | ok d => exact ⟨d, hdim, fun hv => absurd hv hvector⟩
      | error e =>
          obtain ⟨⟨s, hgives, hnone⟩, -⟩ := (dimension_eq_error_iff h e).mp hdim
          obtain ⟨n, hn⟩ := hdenotes s hgives
          exact absurd hn (hnone n)

end Made

/-- A vector field is made exactly if it is named, its parameters can be written, and its dimension
is given as a text that denotes a positive integer; otherwise it is refused, unless it is named and
its parameters cannot be written. Then the making of any field fails. Every field that is made has
a usable dimension, which is the integer that the text denotes, unless it is no vector field and
was given a text that denotes no integer. -/
theorem usable_dimension_iff (name description primaryKey autoId : Value) (type : DataType)
    (entries : List (Value × Value)) :
    (type.isVector = true →
      ((∃ t, ofValues name (.dataType type) description primaryKey autoId (.mapping entries) =
          .ok t) ↔
        name.IsName ∧ (Value.mapping entries).hasText = true ∧
          ∃ s n, Gives entries dimName s ∧ Denotes s n ∧ 0 < n) ∧
      ((¬ ∃ t, ofValues name (.dataType type) description primaryKey autoId (.mapping entries) =
          .ok t) → ¬ (name.IsName ∧ (Value.mapping entries).hasText = false) →
        (ofValues name (.dataType type) description primaryKey autoId
          (.mapping entries)).IsRefused)) ∧
    (name.IsName → type.isProper = true → (Value.mapping entries).hasText = false →
      ofValues name (.dataType type) description primaryKey autoId (.mapping entries) =
        .error (.failed .badValue)) ∧
    ∀ t, ofValues name (.dataType type) description primaryKey autoId (.mapping entries) = .ok t →
      (t.HasUsableDimension ↔
        type.isVector = true ∨ ∀ s, Gives entries dimName s → ∃ n, Denotes s n) ∧
      ∀ n, t.dimension = .ok (some n) ↔ ∃ s, Gives entries dimName s ∧ Denotes s n := by
  refine ⟨fun hvector => ⟨exists_ofValues_vector_iff hvector, ?_⟩, ofValues_of_not_hasText, ?_⟩
  · intro hnone hwritten
    by_cases hname : name.IsName
    · have htext : (Value.mapping entries).hasText = true := by
        by_contra hfalse
        exact hwritten ⟨hname, Bool.eq_false_iff.mpr hfalse⟩
      exact (refuses_ofValues htext).isRefused hnone
    · exact isRefused_of_not_isName hname
  · intro t ht
    exact ⟨hasUsableDimension_iff ht, dimension_eq_some_iff ht⟩

/-! ### An integer field with a word for its dimension -/

/-- A field of small integers that was given `x` for its dimension. -/
def worded : FieldType where
  name := idName
  dataType := .int8
  description := .text ""
  primaryKey := .bool false
  autoId := .bool false
  typeParams := .ofPairs [("dim", "x")]
  dataType_isProper := rfl
  hasDimension := nofun

/-- It is made, and asking for its dimension fails. -/
theorem worded_not_usable :
    ofValues (.text "id") (.dataType .int8) (.text "") (.bool false) (.bool false)
        (.mapping [(.text "dim", .text "x")]) = .ok worded ∧
      worded.dimension = .error (.failed .badValue) ∧ ¬ worded.HasUsableDimension := by
  have hmade : ofValues (.text "id") (.dataType .int8) (.text "") (.bool false) (.bool false)
      (.mapping [(.text "dim", .text "x")]) = .ok worded := ofValues_attributes worded
  have hgives : Gives [(.text "dim", .text "x")] dimName "x" :=
    ⟨[], _, _, [], rfl, rfl, rfl, nofun⟩
  have hread : read? "x" = none := by decide +kernel
  have hfails := (dimension_eq_error_iff hmade (.failed .badValue)).mpr
    ⟨⟨"x", hgives, read?_eq_none_iff.mp hread⟩, rfl⟩
  refine ⟨hmade, hfails, ?_⟩
  rintro ⟨d, hd, -⟩
  cases hd.symm.trans hfails

end FieldType

end VectorRequests
