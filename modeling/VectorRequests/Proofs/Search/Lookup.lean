/-
# Keys of equal searches

Searches are equal if their attributes are, and have equal keys if their attributes have. Most
attributes of a search are checked, and are ordinary: names, integers and metrics. Besides them a
search has targets, whose zeros need not be stored alike, and an expression and extra parameters,
which may be anything that has a key. So equal searches have equal keys exactly if their targets
hold no opposite zeros and these two have equal keys.
-/

import VectorRequests.Proofs.Search.Acceptance
import VectorRequests.Proofs.Value.Equality
import VectorRequests.Proofs.Value.Lookup
import VectorRequests.Proofs.Vector.Row

namespace VectorRequests

namespace SearchParam

variable {p q : SearchParam}

/-- A search that was made of some attributes. -/
def IsConstructed (p : SearchParam) : Prop :=
  ∃ collection vectorField topK vectors metric partitions outFields expr roundDecimal params travel
    guarantee : Value, ofValues collection vectorField topK vectors metric partitions outFields expr
      roundDecimal params travel guarantee = .ok p

/-- In some place, the searches have targets with opposite zeros. -/
def HoldOppositeZeros (p q : SearchParam) : Prop :=
  ∃ v w, (v, w) ∈ p.targets.zip q.targets ∧ v.HoldOppositeZeros w

/-- The attributes of a search that are checked, apart from the targets. -/
def checked (p : SearchParam) : List Value :=
  [p.collection.toValue, p.vectorField.toValue, p.topK, .metric p.metric,
    .tuple (p.partitions.map Name.toValue), .tuple (p.outFields.map Name.toValue), p.roundDecimal,
    p.travelTimestamp, p.guaranteeTimestamp]

theorem toInt?_of_isCount {least : Int} {v : Value} (h : v.IsCount least) :
    ∃ n, v.toInt? = some n := by
  obtain ⟨-, n, hn, -⟩ := h
  exact ⟨n, hn⟩

/-- The numbers of a search that was made are integers. -/
theorem IsConstructed.integers (h : p.IsConstructed) :
    ∀ v ∈ [p.topK, p.roundDecimal, p.travelTimestamp, p.guaranteeTimestamp],
      ∃ n, v.toInt? = some n := by
  obtain ⟨_, _, _, _, _, _, _, _, _, _, _, _, h⟩ := h
  obtain ⟨_, -, h⟩ := Outcome.bind_eq_ok.mp h
  obtain ⟨_, -, h⟩ := Outcome.bind_eq_ok.mp h
  obtain ⟨_, -, h⟩ := Outcome.bind_eq_ok.mp h
  obtain ⟨_, -, h⟩ := Outcome.bind_eq_ok.mp h
  obtain ⟨_, htopK, h⟩ := Outcome.bind_eq_ok.mp h
  obtain ⟨_, -, h⟩ := Outcome.bind_eq_ok.mp h
  obtain ⟨⟨hround⟩, -, h⟩ := Outcome.bind_eq_ok.mp h
  obtain ⟨_, htravel, h⟩ := Outcome.bind_eq_ok.mp h
  obtain ⟨_, hguarantee, h⟩ := Outcome.bind_eq_ok.mp h
  obtain ⟨_, -, h⟩ := Outcome.bind_eq_ok.mp h
  obtain ⟨_, -, h⟩ := Outcome.bind_eq_ok.mp h
  obtain ⟨_, -, h⟩ := Outcome.bind_eq_ok.mp h
  cases h
  obtain ⟨n, hn, -⟩ := hround
  have htopK := toInt?_of_isCount (checkTopK_eq_ok_iff.mp htopK)
  have htravel := toInt?_of_isCount (Check.timestamp_eq_ok_iff.mp htravel)
  have hguarantee := toInt?_of_isCount (Check.timestamp_eq_ok_iff.mp hguarantee)
  simp only [List.forall_mem_cons]
  exact ⟨htopK, ⟨n, hn⟩, htravel, hguarantee, nofun⟩

/-- What is checked is ordinary and has a key. -/
theorem IsConstructed.isOrdinary_checked (h : p.IsConstructed) :
    ∀ v ∈ p.checked, v.IsOrdinary ∧ v.isKey = true := by
  have hintegers {v : Value} (hv : v ∈ [p.topK, p.roundDecimal, p.travelTimestamp,
      p.guaranteeTimestamp]) : v.IsOrdinary ∧ v.isKey = true := by
    obtain ⟨n, hn⟩ := h.integers v hv
    exact Value.isOrdinary_of_toInt? hn
  have htext (s : String) : (Value.text s).IsOrdinary ∧ (Value.text s).isKey = true :=
    ⟨Value.isOrdinary_text s, rfl⟩
  have hnames (names : List Name) :
      (Value.tuple (names.map Name.toValue)).IsOrdinary ∧
        (Value.tuple (names.map Name.toValue)).isKey = true := by
    have hall : ∀ v ∈ names.map Name.toValue, v.IsOrdinary ∧ v.isKey = true := by
      intro v hv
      obtain ⟨name, -, rfl⟩ := List.mem_map.mp hv
      exact htext name.text
    exact ⟨Value.isOrdinary_tuple fun v hv => (hall v hv).1,
      Value.isKey_tuple fun v hv => (hall v hv).2⟩
  have hmetric : (Value.metric p.metric).IsOrdinary := .intro id nofun
  simp only [checked, List.forall_mem_cons]
  exact ⟨htext _, htext _, hintegers (by simp), ⟨hmetric, rfl⟩, hnames _, hnames _,
    hintegers (by simp), hintegers (by simp), hintegers (by simp), nofun⟩

/-- Searches are equal if what is checked is, and the rest. -/
theorem equal_toValue_iff :
    Value.equal p.toValue q.toValue = .ok true ↔
      List.Forall₂ (fun v w => Value.equal v w = .ok true) p.checked q.checked ∧
      List.Forall₂ (fun v w => v.equal w = true) p.targets q.targets ∧
      Value.equal p.expr q.expr = .ok true ∧ Value.equal p.params q.params = .ok true := by
  have htargets : Value.equal (.tuple (p.targets.map .vector)) (.tuple (q.targets.map .vector)) =
      .ok true ↔ List.Forall₂ (fun v w => v.equal w = true) p.targets q.targets := by
    rw [Value.equal, Value.allEqual_eq_ok_iff, List.forall₂_map_left_iff,
      List.forall₂_map_right_iff]
    simp only [Value.equal_vector, Except.ok.injEq]
  rw [toValue, toValue, Value.equal, if_pos rfl, Value.attributesEqual_eq_ok_iff fun _ => rfl]
  simp only [List.forall₂_cons, checked, htargets, List.Forall₂.nil, and_true]
  tauto

/-- Searches are looked up alike if what is checked is, and the rest. -/
theorem sharesKey_toValue_iff :
    p.toValue.sharesKey q.toValue = true ↔
      List.Forall₂ (fun v w => v.sharesKey w = true) p.checked q.checked ∧
      List.Forall₂ (fun v w => (Value.vector v).sharesKey (.vector w) = true) p.targets q.targets ∧
      p.expr.sharesKey q.expr = true ∧ p.params.sharesKey q.params = true := by
  have htargets : (Value.tuple (p.targets.map .vector)).sharesKey
      (.tuple (q.targets.map .vector)) = true ↔
        List.Forall₂ (fun v w => (Value.vector v).sharesKey (.vector w) = true) p.targets
          q.targets := by
    rw [Value.sharesKey_tuple_iff, List.forall₂_map_left_iff, List.forall₂_map_right_iff]
  -- A search is looked up by its attributes, as a tuple of them is.
  have htuple (r : SearchParam) : r.toValue.key? = (Value.tuple
      [r.collection.toValue, r.vectorField.toValue, r.topK, .tuple (r.targets.map .vector),
        .metric r.metric, .tuple (r.partitions.map Name.toValue),
        .tuple (r.outFields.map Name.toValue), r.expr, r.roundDecimal, r.params,
        r.travelTimestamp, r.guaranteeTimestamp]).key? := rfl
  rw [Value.sharesKey, htuple, htuple, ← Value.sharesKey, Value.sharesKey_tuple_iff]
  simp only [List.forall₂_cons, checked, htargets, List.Forall₂.nil, and_true]
  tauto

/-- The targets of equal searches are looked up alike exactly if they hold no opposite zeros. -/
theorem targets_shareKeys_iff (h : List.Forall₂ (fun v w => v.equal w = true) p.targets q.targets) :
    List.Forall₂ (fun v w => (Value.vector v).sharesKey (.vector w) = true) p.targets q.targets ↔
      ¬ p.HoldOppositeZeros q := by
  obtain ⟨hlength, hequal⟩ := List.forall₂_iff_zip.mp h
  rw [List.forall₂_iff_zip]
  constructor
  · rintro ⟨-, hshares⟩ ⟨v, w, hpair, hopposite⟩
    exact (TargetVector.sharesKey_iff_of_equal (hequal hpair)).mp (hshares hpair) hopposite
  · intro hnever
    refine ⟨hlength, fun {v w} hpair => ?_⟩
    rw [TargetVector.sharesKey_iff_of_equal (hequal hpair)]
    exact fun hopposite => hnever ⟨v, w, hpair, hopposite⟩

/-- Equal searches are looked up alike exactly if their targets hold no opposite zeros, and their
expressions and extra parameters are looked up alike. -/
theorem sharesKey_iff_of_equal (hp : p.IsConstructed) (hq : q.IsConstructed)
    (h : Value.equal p.toValue q.toValue = .ok true) :
    p.toValue.sharesKey q.toValue = true ↔
      ¬ p.HoldOppositeZeros q ∧ p.expr.sharesKey q.expr = true ∧
        p.params.sharesKey q.params = true := by
  obtain ⟨hchecked, htargets, -, -⟩ := equal_toValue_iff.mp h
  have hshares : List.Forall₂ (fun v w => v.sharesKey w = true) p.checked q.checked := by
    rw [List.forall₂_iff_zip]
    obtain ⟨hlength, hequal⟩ := List.forall₂_iff_zip.mp hchecked
    refine ⟨hlength, fun {v w} hpair => ?_⟩
    obtain ⟨hv, hw⟩ := List.of_mem_zip hpair
    obtain ⟨hvOrdinary, hvKey⟩ := hp.isOrdinary_checked v hv
    obtain ⟨hwOrdinary, hwKey⟩ := hq.isOrdinary_checked w hw
    exact Value.sharesKey_of_equal hvOrdinary hwOrdinary hvKey hwKey (hequal hpair)
  rw [sharesKey_toValue_iff, targets_shareKeys_iff htargets, and_iff_right hshares]

/-- Equal vectors are looked up alike exactly if they hold no opposite zeros. Equal searches whose
attributes can be looked up are looked up alike exactly if their targets hold no opposite zeros and
their expressions and extra parameters are looked up alike, which ordinary ones are. -/
theorem lookup_agrees_iff (v w : TargetVector) (p q : SearchParam) :
    (Value.equal (.vector v) (.vector w) = .ok true →
      ((Value.vector v).sharesKey (.vector w) = true ↔ ¬ v.HoldOppositeZeros w)) ∧
    (p.IsConstructed → q.IsConstructed → Value.equal p.toValue q.toValue = .ok true →
      (∀ u ∈ [p.expr, p.params, q.expr, q.params], u.isKey = true) →
      (p.toValue.sharesKey q.toValue = true ↔
        ¬ p.HoldOppositeZeros q ∧ p.expr.sharesKey q.expr = true ∧
          p.params.sharesKey q.params = true) ∧
      ((∀ u ∈ [p.expr, p.params, q.expr, q.params], u.IsOrdinary) →
        (p.toValue.sharesKey q.toValue = true ↔ ¬ p.HoldOppositeZeros q))) := by
  constructor
  · intro h
    rw [Value.equal_vector, Except.ok.injEq] at h
    exact TargetVector.sharesKey_iff_of_equal h
  · intro hp hq hequal hkeys
    have hshares := sharesKey_iff_of_equal hp hq hequal
    refine ⟨hshares, fun hordinary => ?_⟩
    obtain ⟨-, -, hexpr, hparams⟩ := equal_toValue_iff.mp hequal
    simp only [List.forall_mem_cons] at hkeys hordinary
    obtain ⟨hkey, hkey', hkey₂, hkey₂', -⟩ := hkeys
    obtain ⟨hplain, hplain', hplain₂, hplain₂', -⟩ := hordinary
    rw [hshares, Value.sharesKey_of_equal hplain hplain₂ hkey hkey₂ hexpr,
      Value.sharesKey_of_equal hplain' hplain₂' hkey' hkey₂' hparams]
    simp

/-! ### The two zeros -/

/-- A vector of one component. -/
def oneFloat (x : Single) : TargetVector :=
  .float [x] (List.cons_ne_nil _ _)

/-- A search for a vector of one component. -/
def searchFor (x : Single) : SearchParam where
  collection := ⟨"c", Text.not_isBlank_of_mem (c := 'c') (by simp) rfl⟩
  vectorField := ⟨"vec", Text.not_isBlank_of_mem (c := 'v') (by simp) rfl⟩
  topK := .int 5
  targets := [oneFloat x]
  kind := .float
  dim := 1
  metric := .l2
  partitions := []
  outFields := []
  expr := .text ""
  roundDecimal := .int (-1)
  params := .text "{}"
  travelTimestamp := .int 0
  guaranteeTimestamp := .int 1
  targets_nonempty := List.cons_ne_nil _ _
  targets_alike := List.forall_mem_singleton.mpr ⟨rfl, rfl⟩
  metric_suits := rfl
  roundDecimal_isDecimals := ⟨-1, rfl, by decide⟩

theorem isConstructed_searchFor (x : Single) : (searchFor x).IsConstructed := by
  refine ⟨(searchFor x).collection.toValue, (searchFor x).vectorField.toValue, .int 5,
    .list [.vector (oneFloat x)], .metric .l2, .list [], .list [], .text "", .int (-1),
    .text "{}", .int 0, .int 1, ?_⟩
  rw [ofValues, Check.name_toValue, Outcome.ok_bind, Check.name_toValue, Outcome.ok_bind]
  rfl

/-- The two zeros. -/
def plusZero : Single := .ofRank false 0

def minusZero : Single := .ofRank true 0

/-- Searches for vectors of one component are equal if the vectors are. -/
theorem equal_searchFor {x y : Single} (h : (oneFloat x).equal (oneFloat y) = true) :
    Value.equal (searchFor x).toValue (searchFor y).toValue = .ok true := by
  have hchecked : ∀ v ∈ (searchFor x).checked, Value.equal v v = .ok true := by
    simp only [checked, List.forall_mem_cons]
    exact ⟨Value.equal_text_self _, Value.equal_text_self _, Value.equal_self_of_toInt? rfl,
      Value.equal_metric _, Value.equal_tuple_self nofun, Value.equal_tuple_self nofun,
      Value.equal_self_of_toInt? rfl, Value.equal_self_of_toInt? rfl,
      Value.equal_self_of_toInt? rfl, nofun⟩
  exact equal_toValue_iff.mpr ⟨List.forall₂_same.mpr hchecked, .cons h .nil,
    Value.equal_text_self _, Value.equal_text_self _⟩

theorem ofFloats_oneFloat {x : Double} {y : Single} (h : x.narrow? = some y) :
    TargetVector.ofFloats (.list [.float x]) = .ok (oneFloat y) := by
  have hrow : Row.read Row.usualName (.list [.float x]) = .ok [y] :=
    Row.readComponents_eq_ok_iff.mpr
      ⟨List.forall_mem_singleton.mpr rfl, [x], rfl, by simp [h]⟩
  rw [TargetVector.ofFloats, hrow, Outcome.ok_bind]
  rfl

theorem zeros_hold_opposite :
    (oneFloat plusZero).HoldOppositeZeros (oneFloat minusZero) ∧
      (searchFor plusZero).HoldOppositeZeros (searchFor minusZero) := by
  have hvectors : (oneFloat plusZero).HoldOppositeZeros (oneFloat minusZero) :=
    ⟨plusZero, minusZero, List.mem_singleton_self _, by decide⟩
  exact ⟨hvectors, _, _, List.mem_singleton_self _, hvectors⟩

/-- Vectors of the two zeros are equal, and are not looked up alike. -/
theorem zeros_not_shared :
    TargetVector.ofFloats (.list [.float (.ofRank false 0)]) = .ok (oneFloat plusZero) ∧
      TargetVector.ofFloats (.list [.float (.ofRank true 0)]) = .ok (oneFloat minusZero) ∧
      Value.equal (.vector (oneFloat plusZero)) (.vector (oneFloat minusZero)) = .ok true ∧
      (Value.vector (oneFloat plusZero)).sharesKey (.vector (oneFloat minusZero)) = false := by
  have hequal : (oneFloat plusZero).equal (oneFloat minusZero) = true := rfl
  refine ⟨ofFloats_oneFloat (by decide +kernel), ofFloats_oneFloat (by decide +kernel), ?_, ?_⟩
  · rw [Value.equal_vector, hequal]
  · rw [Bool.eq_false_iff, Ne, TargetVector.sharesKey_iff_of_equal hequal, not_not]
    exact zeros_hold_opposite.1

/-- Searches for the two zeros are made and equal, and are not looked up alike. -/
theorem searches_for_zeros :
    (searchFor plusZero).IsConstructed ∧ (searchFor minusZero).IsConstructed ∧
      Value.equal (searchFor plusZero).toValue (searchFor minusZero).toValue = .ok true ∧
      ¬ (searchFor plusZero).toValue.sharesKey (searchFor minusZero).toValue = true := by
  have hplus := isConstructed_searchFor plusZero
  have hminus := isConstructed_searchFor minusZero
  have hequal := equal_searchFor (x := plusZero) (y := minusZero) rfl
  have hkeys : ∀ u ∈ [(searchFor plusZero).expr, (searchFor plusZero).params,
      (searchFor minusZero).expr, (searchFor minusZero).params], u.isKey = true := by
    simp only [List.forall_mem_cons]
    exact ⟨rfl, rfl, rfl, rfl, nofun⟩
  have hagrees := (lookup_agrees_iff (oneFloat plusZero) (oneFloat minusZero)
    (searchFor plusZero) (searchFor minusZero)).2 hplus hminus hequal hkeys
  refine ⟨hplus, hminus, hequal, fun hshares => ?_⟩
  exact (hagrees.1.mp hshares).1 zeros_hold_opposite.2

end SearchParam

end VectorRequests
