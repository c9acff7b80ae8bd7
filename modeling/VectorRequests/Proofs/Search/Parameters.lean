/-
# Search parameters that can be read

The parameters of a search request have distinct keys, and whoever asks for one of them finds what
the search says: names as they are, and numbers as decimal texts that are read as the numbers
again. The number of decimals may also be a truth value, though no other number of a search may.
Then its text is the name of the truth value, which is not read as a number.
-/

import VectorRequests.Proofs.Param.Search
import VectorRequests.Proofs.Search.Acceptance
import VectorRequests.Proofs.Value.Equality
import Mathlib.Data.List.Nodup

namespace VectorRequests

open VectorRequests.Text

/-! ## Parameters found by their keys -/

namespace KeyValuePair

theorem get_key (p : KeyValuePair) : p.toValue.get "key" = .ok p.key := by
  simp [toValue, Value.get, Value.get?]

theorem get_value (p : KeyValuePair) : p.toValue.get "value" = .ok p.value := by
  simp [toValue, Value.get, Value.get?, List.lookup_cons]

end KeyValuePair

namespace SearchRequest

/-- The parameter with a text for its key. -/
def namedParam (entry : String × Value) : KeyValuePair :=
  ⟨.text entry.1, entry.2⟩

theorem findParam_namedParam (key : String) (entries : List (String × Value)) :
    findParam (.text key) ((entries.map namedParam).map KeyValuePair.toValue) =
      .ok ((entries.lookup key).getD .null) := by
  induction entries with
  | nil => rfl
  | cons entry entries ih =>
      obtain ⟨name, value⟩ := entry
      rw [List.map_cons, List.map_cons, findParam, KeyValuePair.get_key, KeyValuePair.get_value,
        Outcome.ok_bind, namedParam, Value.equal_text, Outcome.ok_bind, ih, List.lookup_cons]
      by_cases hname : name = key
      · simp [hname]
      · have hmiss : (key == name) = false := beq_eq_false_iff_ne.mpr (Ne.symm hname)
        simp [hname, hmiss]

end SearchRequest

namespace SearchParam

/-- The search parameters by their keys. -/
def paramEntries (p : SearchParam) : List (String × Value) :=
  [(vectorFieldKey, p.vectorField.toValue), (topKKey, .text p.topK.write),
    (metricKey, .text p.metric.name), (roundDecimalKey, .text p.roundDecimal.write)] ++
    if p.params.isTrue then [(paramsKey, p.params)] else []

theorem writtenParams_eq_map (p : SearchParam) :
    p.writtenParams = p.paramEntries.map SearchRequest.namedParam := by
  rw [writtenParams, paramEntries, List.map_append]
  split
  · rfl
  · rfl

theorem getSearchParam_toRequest {p : SearchParam} {r : SearchRequest} (h : p.toRequest = .ok r)
    (key : String) :
    r.getSearchParam (.text key) = .ok ((p.paramEntries.lookup key).getD .null) := by
  rw [(toRequest_eq_ok_iff.mp h).2, SearchRequest.getSearchParam, writtenParams_eq_map,
    SearchRequest.findParam_namedParam]

theorem keys_nodup {p : SearchParam} {r : SearchRequest} (h : p.toRequest = .ok r) :
    (r.searchParams.map KeyValuePair.key).Nodup := by
  have hnames : (p.paramEntries.map Prod.fst).Nodup := by
    rw [paramEntries]
    split
    · exact (by decide : [vectorFieldKey, topKKey, metricKey, roundDecimalKey, paramsKey].Nodup)
    · exact (by decide : [vectorFieldKey, topKKey, metricKey, roundDecimalKey].Nodup)
  have hkeys : r.searchParams.map KeyValuePair.key =
      (p.paramEntries.map Prod.fst).map Value.text := by
    rw [(toRequest_eq_ok_iff.mp h).2, writtenParams_eq_map, List.map_map, List.map_map]
    rfl
  rw [hkeys]
  exact hnames.map fun _ _ h => Value.text.inj h

theorem lookup_paramsKey {p : SearchParam} {params : String} (h : p.params = .text params) :
    (p.paramEntries.lookup paramsKey).getD .null =
      if params = "" then .null else .text params := by
  rw [paramEntries, h]
  by_cases hempty : params = ""
  · subst hempty
    rfl
  · have htrue : (Value.text params).isTrue = true := by
      simp [Value.isTrue, Value.truth, hempty]
    rw [if_pos htrue, if_neg hempty]
    rfl

end SearchParam

/-! ## The texts of numbers -/

namespace Value

/-- Integers are written as what they are worth, apart from truth values. -/
theorem write_of_toInt? {v : Value} {n : Int} (hn : v.toInt? = some n) (hbool : v.isBool = false) :
    v.write = Integer.write n := by
  cases v with
  | bool b => cases hbool
  | int | dataType | placeholderType | msgType | dslType =>
      cases hn
      rfl
  | _ => cases hn

theorem read?_write_bool (b : Bool) : Integer.read? (Value.bool b).write = none := by
  cases b <;> decide

/-- A truth value is an integer, but its text is not read as one. -/
theorem read?_write_of_isBool {v : Value} {n : Int} (hn : v.toInt? = some n)
    (hbool : v.isBool = true) : Integer.read? v.write = none := by
  cases v with
  | bool b => exact read?_write_bool b
  | sized => cases hn
  | _ => cases hbool

end Value

/-! ## What a search says -/

namespace SearchParam

section Construction

variable {collection vectorField topK vectors metric partitions outFields roundDecimal travel
  guarantee : Value} {expr params : String} {p : SearchParam}

/-- A search has a request exactly if its number of results has a text. The parameters of the
request have distinct keys. The vector field and the metric, which is one for the kind of every
target, are found as their names, and the extra parameters as they are, if there are any. The
number of results is found as its decimal text, which is read as the number. The number of
decimals is found as a text that is read as the number, if it is no truth value, and otherwise as
a text that is not read at all. -/
theorem parameters_readable
    (h : ofValues collection vectorField topK vectors metric partitions outFields (.text expr)
      roundDecimal (.text params) travel guarantee = .ok p) :
    ((∃ r, p.toRequest = .ok r) ↔ topK.hasText = true) ∧
    ∀ r, p.toRequest = .ok r →
      (r.searchParams.map KeyValuePair.key).Nodup ∧
      r.getSearchParam (.text "anns_field") = .ok vectorField ∧
      (∃ n, topK.toInt? = some n ∧ 0 < n ∧
        r.getSearchParam (.text "topk") = .ok (.text (Integer.write n)) ∧
        Integer.read? (Integer.write n) = some n) ∧
      (∃ m, Names metric m ∧ (∀ t ∈ p.targets, (t.kind = .float ↔ m = .l2 ∨ m = .ip)) ∧
        r.getSearchParam (.text "metric_type") = .ok (.text m.name)) ∧
      (∃ n s, roundDecimal.toInt? = some n ∧ -1 ≤ n ∧ n ≤ 6 ∧
        r.getSearchParam (.text "round_decimal") = .ok (.text s) ∧
        (roundDecimal.isBool = false → s = Integer.write n ∧ Integer.read? s = some n) ∧
        (roundDecimal.isBool = true → Integer.read? s = none)) ∧
      r.getSearchParam (.text "params") =
        .ok (if params = "" then .null else .text params) := by
  have hmade := madeOf_of_ofValues h
  obtain ⟨htopK, hcheck⟩ := hmade.topK
  obtain ⟨hcount, n, hn, hpos⟩ := checkTopK_eq_ok_iff.mp hcheck
  obtain ⟨hround, d, hd, hlow, hhigh⟩ := hmade.roundDecimal
  have hparams : p.params = .text params :=
    (Except.ok.inj ((orEmpty_text params).symm.trans hmade.params)).symm
  refine ⟨htopK ▸ exists_toRequest_eq_ok_iff, fun r hr => ?_⟩
  have htext : topK.hasText = true := htopK ▸ (toRequest_eq_ok_iff.mp hr).1
  have hshort := (Value.hasText_iff_of_toInt? hn).mp htext
  refine ⟨keys_nodup hr, ?_, ⟨n, hn, hpos, ?_, Integer.read?_write hshort⟩, ⟨p.metric, ?_, ?_, ?_⟩,
    ⟨d, roundDecimal.write, hd, hlow, hhigh, ?_, ?_, ?_⟩, ?_⟩
  · rw [getSearchParam_toRequest hr, ← Check.toValue_of_name_eq_ok hmade.vectorField]
    rfl
  · rw [getSearchParam_toRequest hr, ← Value.write_of_toInt? hn hcount, ← htopK]
    rfl
  · exact readMetric_eq_ok_iff.mp hmade.metric
  · intro t ht
    rw [(p.targets_alike t ht).1]
    exact Metric.suits_iff.mp p.metric_suits
  · rw [getSearchParam_toRequest hr]
    rfl
  · rw [getSearchParam_toRequest hr, ← hround]
    rfl
  · intro hbool
    have hdecimals : roundDecimal.hasText = true := hasText_of_isDecimals ⟨d, hd, hlow, hhigh⟩
    rw [Value.write_of_toInt? hd hbool]
    exact ⟨rfl, Integer.read?_write ((Value.hasText_iff_of_toInt? hd).mp hdecimals)⟩
  · exact Value.read?_write_of_isBool hd
  · rw [getSearchParam_toRequest hr]
    exact congrArg Except.ok (lookup_paramsKey hparams)

end Construction

/-! ### A search for one float vector -/

theorem oneTarget_constructs {roundDecimal : Value} (h : IsDecimals roundDecimal) :
    ∃ p, ofValues (.text "c") (.text "vec") (.int 5) (.list [.vector oneTarget]) (.metric .l2)
      (.tuple []) (.tuple []) (.text "") roundDecimal (.text "\x7b\x7d") (.int 0) (.int 1) =
        .ok p := by
  refine (exists_ofValues_eq_ok_iff (.list _) (.tuple _) (.tuple _)).mpr ?_
  exact {
    collection := ⟨_, rfl, not_isBlank_of_mem (c := 'c') (by simp) rfl⟩
    vectorField := ⟨_, rfl, not_isBlank_of_mem (c := 'c') (by simp) rfl⟩
    partitions := nofun
    outFields := nofun
    topK := ⟨rfl, 5, rfl, by decide⟩
    roundDecimal := h
    travel := ⟨rfl, 0, rfl, by decide⟩
    guarantee := ⟨rfl, 1, rfl, by decide⟩
    targets := ⟨.l2, .member .l2, oneTarget_areTargets⟩ }

theorem twoDecimals_readable :
    ∃ p r, ofValues (.text "c") (.text "vec") (.int 5) (.list [.vector oneTarget]) (.metric .l2)
        (.tuple []) (.tuple []) (.text "") (.int 2) (.text "\x7b\x7d") (.int 0) (.int 1) = .ok p ∧
      p.toRequest = .ok r ∧
      r.getSearchParam (.text "round_decimal") = .ok (.text (Integer.write 2)) := by
  obtain ⟨p, hp⟩ := oneTarget_constructs (show IsDecimals (.int 2) from ⟨2, rfl, by decide⟩)
  have hshort : Integer.IsShort 5 := by decide
  obtain ⟨hmade, hread⟩ := parameters_readable hp
  obtain ⟨r, hr⟩ := hmade.mpr (decide_eq_true hshort)
  obtain ⟨-, -, -, -, ⟨n, s, hn, -, -, hs, hinteger, -⟩, -⟩ := hread r hr
  cases hn
  obtain ⟨rfl, -⟩ := hinteger rfl
  exact ⟨p, r, hp, hr, hs⟩

/-- A truth value is let through as a number of decimals, and its text is not read as one. -/
theorem truthValue_not_readable :
    ∃ p r, ofValues (.text "c") (.text "vec") (.int 5) (.list [.vector oneTarget]) (.metric .l2)
        (.tuple []) (.tuple []) (.text "") (.bool true) (.text "\x7b\x7d") (.int 0) (.int 1) =
          .ok p ∧
      p.toRequest = .ok r ∧
      r.getSearchParam (.text "round_decimal") = .ok (.text "True") ∧
      Integer.read? "True" = none := by
  obtain ⟨p, hp⟩ := oneTarget_constructs (show IsDecimals (.bool true) from ⟨1, rfl, by decide⟩)
  have hmade := madeOf_of_ofValues hp
  have htopK : p.topK.hasText = true := by
    have hshort : Integer.IsShort 5 := by decide
    rw [hmade.topK.1]
    exact decide_eq_true hshort
  obtain ⟨r, hr⟩ := exists_toRequest_eq_ok_iff.mpr htopK
  refine ⟨p, r, hp, hr, ?_, by decide⟩
  rw [getSearchParam_toRequest hr]
  show Except.ok (Value.text p.roundDecimal.write) = _
  rw [hmade.roundDecimal.1]
  rfl

end SearchParam

end VectorRequests
