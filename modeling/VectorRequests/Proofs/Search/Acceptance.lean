/-
# Searches that are accepted

A search is accepted exactly if it is valid. Its names are names, its number of results and its
timestamps are counts, its number of decimals is in range, and its vectors are targets that the
metric compares: there is one, they are all of one kind and one dimension, and the metric is one
for their kind. Any other search is refused, and nothing else can happen to it unless the refusal
shows a value without a text. The targets may come in any order.
-/

import VectorRequests.Proofs.Param.Check
import VectorRequests.Proofs.Search.Metric

namespace VectorRequests

open VectorRequests.Text

/-- The metrics of float vectors are the first two. -/
theorem Metric.suits_iff {m : Metric} {kind : VectorKind} :
    m.suits kind = true ↔ (kind = .float ↔ m = .l2 ∨ m = .ip) := by
  cases kind <;> cases m <;> decide

namespace SearchParam

variable {v : Value} {vs : List Value} {m : Metric}

/-! ## Numbers -/

theorem checkTopK_of_isCount (h : v.IsCount 1) : checkTopK v = .ok () := by
  obtain ⟨hbool, n, hn, hpos⟩ := h
  unfold checkTopK
  split
  next b => cases hbool
  next k _ hk =>
    cases hn.symm.trans hk
    exact if_pos hpos
  next hnone => cases hn.symm.trans hnone

/-- What is no number of results is shown by its text. -/
theorem checkTopK_of_not_isCount (h : ¬ v.IsCount 1) :
    checkTopK v = v.withText (Error.refuse (.illegalTopK v)) := by
  unfold checkTopK
  split
  next b => rfl
  next n hbool hn =>
    rw [Value.isCount_iff_le hbool hn] at h
    exact if_neg h
  next => rfl

theorem checkTopK_eq_ok_iff : checkTopK v = .ok () ↔ v.IsCount 1 := by
  constructor
  · intro h
    by_contra hcount
    rw [checkTopK_of_not_isCount hcount] at h
    cases (Value.withText_eq_ok_iff.mp h).2
  · exact checkTopK_of_isCount

/-- A number of results that would have to be shown has no text, or the metric has none. -/
def IsUntold (topK metric : Value) : Prop :=
  (¬ topK.IsCount 1 ∧ topK.hasText = false) ∨ metric.hasText = false

/-- How a search fails: it is refused, or the refusal cannot be told. -/
inductive Complains (topK metric : Value) : Error → Prop
  | refused (fault : ParamFault) (field : Value) : Complains topK metric (.refused fault field)
  | untold (h : IsUntold topK metric) : Complains topK metric (.failed .badValue)

theorem complains_of_refuses {α : Type} {x : Outcome α} {topK metric : Value} (h : x.Refuses) :
    x.FailsOnly (Complains topK metric) := by
  refine h.mono ?_
  rintro _ ⟨fault, field, rfl⟩
  exact .refused fault field

theorem complains_checkTopK (topK metric : Value) :
    (checkTopK topK).FailsOnly (Complains topK metric) := by
  by_cases hcount : topK.IsCount 1
  · rw [checkTopK_of_isCount hcount]
    exact Outcome.failsOnly_ok _
  · rw [checkTopK_of_not_isCount hcount]
    exact Value.failsOnly_withText (complains_of_refuses (Outcome.refuses_refuse _))
      fun htext => .untold (.inl ⟨hcount, htext⟩)

theorem complains_readMetric (topK metric : Value) :
    (readMetric metric).FailsOnly (Complains topK metric) := by
  cases htext : metric.hasText with
  | true => exact complains_of_refuses (refuses_readMetric htext)
  | false =>
      rw [readMetric_of_not_hasText htext]
      exact Outcome.failsOnly_error (.untold (.inr htext))

/-- A number of decimals may be a truth value. -/
theorem exists_checkRoundDecimal_eq_ok (h : IsDecimals v) : ∃ a, checkRoundDecimal v = .ok a := by
  obtain ⟨n, hn, hrange⟩ := h
  unfold checkRoundDecimal
  split
  next k hk =>
    cases hn.symm.trans hk
    exact ⟨_, dif_pos hrange⟩
  next hnone => cases hn.symm.trans hnone

theorem refuses_checkRoundDecimal (v : Value) : (checkRoundDecimal v).Refuses := by
  unfold checkRoundDecimal
  split
  next n hn =>
    by_cases hrange : minRoundDecimal ≤ n ∧ n ≤ maxRoundDecimal
    · rw [dif_pos hrange]
      exact Outcome.refuses_ok _
    · rw [dif_neg hrange]
      exact Outcome.refuses_refuse _
  · exact Outcome.refuses_refuse _

/-! ## Targets -/

/-- Vectors that are searched for with a metric. -/
structure AreTargets (m : Metric) (vs : List Value) : Prop where
  nonempty : vs ≠ []
  vectors : ∀ v ∈ vs, ∃ t, v = .vector t
  alike : ∀ t u, .vector t ∈ vs → .vector u ∈ vs → t.kind = u.kind ∧ t.dim = u.dim
  suited : ∀ t, .vector t ∈ vs → (t.kind = .float ↔ m = .l2 ∨ m = .ip)

/-- Vectors are targets if all of them are like the first one. -/
theorem areTargets_cons_iff {first : TargetVector} {rest : List TargetVector} :
    AreTargets m ((first :: rest).map .vector) ↔
      (∀ t ∈ first :: rest, t.kind = first.kind ∧ t.dim = first.dim) ∧
        m.suits first.kind = true := by
  have hmem (t : TargetVector) :
      .vector t ∈ (first :: rest).map Value.vector ↔ t ∈ first :: rest := by simp
  have hfirst := (hmem first).mpr (List.mem_cons_self ..)
  constructor
  · intro h
    refine ⟨?_, Metric.suits_iff.mpr (h.suited first hfirst)⟩
    intro t ht
    exact h.alike t first ((hmem t).mpr ht) hfirst
  · rintro ⟨halike, hsuits⟩
    refine ⟨List.cons_ne_nil _ _, ?_, ?_, ?_⟩
    · intro v hv
      obtain ⟨t, -, rfl⟩ := List.mem_map.mp hv
      exact ⟨t, rfl⟩
    · intro t u ht hu
      obtain ⟨htkind, htdim⟩ := halike t ((hmem t).mp ht)
      obtain ⟨hukind, hudim⟩ := halike u ((hmem u).mp hu)
      exact ⟨htkind.trans hukind.symm, htdim.trans hudim.symm⟩
    · intro t ht
      rw [(halike t ((hmem t).mp ht)).1]
      exact Metric.suits_iff.mp hsuits

theorem AreTargets.perm {ws : List Value} (h : AreTargets m vs) (hperm : ws.Perm vs) :
    AreTargets m ws where
  nonempty := by
    rintro rfl
    exact h.nonempty hperm.symm.eq_nil
  vectors v hv := h.vectors v (hperm.mem_iff.mp hv)
  alike t u ht hu := h.alike t u (hperm.mem_iff.mp ht) (hperm.mem_iff.mp hu)
  suited t ht := h.suited t (hperm.mem_iff.mp ht)

theorem readTarget_eq_ok_iff {t : TargetVector} : readTarget v = .ok t ↔ v = .vector t := by
  unfold readTarget
  split
  next u => simp
  next hvector => exact iff_of_false nofun (hvector t)

theorem refuses_readTarget (v : Value) : (readTarget v).Refuses := by
  unfold readTarget
  split
  · exact Outcome.refuses_ok _
  · exact Outcome.refuses_refuse _

theorem mapM_readTarget_eq_ok_iff {ts : List TargetVector} :
    vs.mapM readTarget = .ok ts ↔ vs = ts.map .vector := by
  simp only [Outcome.mapM_eq_ok_iff, readTarget_eq_ok_iff]
  rw [← List.forall₂_eq_eq_eq, List.forall₂_map_right_iff]

theorem checkAlike_eq_ok_iff {kind : VectorKind} {dim : Nat} {ts : List TargetVector} :
    checkAlike kind dim ts = .ok () ↔ ∀ t ∈ ts, t.kind = kind ∧ t.dim = dim := by
  refine ⟨checkAlike_eq_ok, ?_⟩
  intro h
  induction ts with
  | nil => rfl
  | cons t ts ih =>
      obtain ⟨⟨hkind, hdim⟩, hrest⟩ := List.forall_mem_cons.mp h
      rw [checkAlike, if_neg (not_not.mpr hkind), if_neg (not_not.mpr hdim), ih hrest]

theorem refuses_checkAlike (kind : VectorKind) (dim : Nat) (ts : List TargetVector) :
    (checkAlike kind dim ts).Refuses := by
  induction ts with
  | nil => exact Outcome.refuses_ok ()
  | cons t ts ih =>
      rw [checkAlike]
      split
      · exact Outcome.refuses_refuse _
      · split
        · exact Outcome.refuses_refuse _
        · exact ih

theorem checkMetric_eq_ok_iff {kind : VectorKind} :
    checkMetric m kind = .ok () ↔ m.suits kind = true := by
  refine ⟨checkMetric_eq_ok, ?_⟩
  intro h
  unfold checkMetric
  rw [if_pos h]

theorem refuses_checkMetric (m : Metric) (kind : VectorKind) : (checkMetric m kind).Refuses := by
  unfold checkMetric
  split
  · exact Outcome.refuses_ok ()
  · cases kind with
    | float | binary => exact Outcome.refuses_refuse _

theorem exists_checkTargets_eq_ok_iff {ts : List TargetVector} :
    (∃ r, checkTargets m ts = .ok r) ↔ AreTargets m (ts.map .vector) := by
  fun_cases checkTargets m ts with
  | case1 => exact iff_of_false nofun fun h => h.nonempty rfl
  | case2 first rest e halike =>
      rw [areTargets_cons_iff, ← checkAlike_eq_ok_iff, halike]
      exact iff_of_false nofun nofun
  | case3 first rest halike e hmetric =>
      rw [areTargets_cons_iff, ← checkMetric_eq_ok_iff, hmetric]
      exact iff_of_false nofun nofun
  | case4 first rest halike hmetric =>
      rw [areTargets_cons_iff, ← checkAlike_eq_ok_iff, ← checkMetric_eq_ok_iff]
      exact iff_of_true ⟨_, rfl⟩ ⟨halike, hmetric⟩

theorem refuses_checkTargets (m : Metric) (ts : List TargetVector) :
    (checkTargets m ts).Refuses := by
  fun_cases checkTargets m ts with
  | case1 => exact Outcome.refuses_refuse _
  | case2 first rest e halike =>
      exact Outcome.failsOnly_error (refuses_checkAlike _ _ _ e halike)
  | case3 first rest halike e hmetric =>
      exact Outcome.failsOnly_error (refuses_checkMetric _ _ e hmetric)
  | case4 => exact Outcome.refuses_ok _

theorem readTargets_of_lists (h : v.Lists vs) (hne : vs ≠ []) :
    readTargets m v = vs.mapM readTarget >>= checkTargets m := by
  have htruth : v.truth = .ok true := by
    rw [h.truth_eq, List.isEmpty_eq_false_iff.mpr hne]
    rfl
  simp only [readTargets, htruth, h.itemsFor_eq, h.checkPlaces_eq, Outcome.ok_bind, if_true]

theorem readTargets_of_lists_nil (h : v.Lists []) : readTargets m v = Error.refuse .noTargets := by
  rw [readTargets, h.truth_eq]
  rfl

theorem exists_readTargets_eq_ok_iff (h : v.Lists vs) :
    (∃ r, readTargets m v = .ok r) ↔ AreTargets m vs := by
  -- Whether there are vectors is asked before any of them is looked at.
  by_cases hne : vs = []
  · subst hne
    rw [readTargets_of_lists_nil h]
    exact iff_of_false nofun fun h => h.nonempty rfl
  · rw [readTargets_of_lists h hne, Outcome.exists_bind_eq_ok]
    simp only [mapM_readTarget_eq_ok_iff, exists_checkTargets_eq_ok_iff]
    constructor
    · rintro ⟨ts, rfl, htargets⟩
      exact htargets
    · intro htargets
      obtain ⟨ts, hts⟩ := exists_forall₂ htargets.vectors
      have hvs : vs = ts.map .vector := by
        rwa [← List.forall₂_eq_eq_eq, List.forall₂_map_right_iff]
      exact ⟨ts, hvs, hvs ▸ htargets⟩

theorem refuses_readTargets (h : v.Lists vs) (m : Metric) : (readTargets m v).Refuses := by
  by_cases hne : vs = []
  · subst hne
    rw [readTargets_of_lists_nil h]
    exact Outcome.refuses_refuse _
  · rw [readTargets_of_lists h hne]
    refine Outcome.FailsOnly.bind ?_ fun ts _ => refuses_checkTargets m ts
    exact Outcome.failsOnly_mapM fun v _ => refuses_readTarget v

/-! ## Searches -/

/-- A text is kept, the empty one included. -/
theorem orEmpty_text (s : String) : orEmpty (.text s) = .ok (.text s) := by
  by_cases hs : s = ""
  · subst hs
    rfl
  · simp [orEmpty, Value.truth, hs]

/-- What a search has of the attributes that it is made of, and the checks they have passed. -/
structure MadeOf (p : SearchParam) (collection vectorField topK vectors metric partitions outFields
    expr roundDecimal params travel guarantee : Value) : Prop where
  collection : Check.name "Collection name" collection = .ok p.collection
  vectorField : Check.name "Target field name" vectorField = .ok p.vectorField
  partitions : Check.names "Partition name" partitions = .ok p.partitions
  outFields : Check.names "Output field name" outFields = .ok p.outFields
  topK : p.topK = topK ∧ checkTopK topK = .ok ()
  metric : readMetric metric = .ok p.metric
  roundDecimal : p.roundDecimal = roundDecimal ∧ IsDecimals roundDecimal
  travel : Check.timestamp "travel timestamp" travel = .ok ()
  guarantee : Check.timestamp "guarantee timestamp" guarantee = .ok ()
  targets : ∃ r, readTargets p.metric vectors = .ok r ∧ r.targets = p.targets
  expr : orEmpty expr = .ok p.expr
  params : orEmpty params = .ok p.params

theorem madeOf_of_ofValues {p : SearchParam} {collection vectorField topK vectors metric partitions
    outFields expr roundDecimal params travel guarantee : Value}
    (h : ofValues collection vectorField topK vectors metric partitions outFields expr roundDecimal
      params travel guarantee = .ok p) :
    p.MadeOf collection vectorField topK vectors metric partitions outFields expr roundDecimal
      params travel guarantee := by
  obtain ⟨_, hcollection, h⟩ := Outcome.bind_eq_ok.mp h
  obtain ⟨_, hvectorField, h⟩ := Outcome.bind_eq_ok.mp h
  obtain ⟨_, hpartitions, h⟩ := Outcome.bind_eq_ok.mp h
  obtain ⟨_, houtFields, h⟩ := Outcome.bind_eq_ok.mp h
  obtain ⟨_, htopK, h⟩ := Outcome.bind_eq_ok.mp h
  obtain ⟨_, hmetric, h⟩ := Outcome.bind_eq_ok.mp h
  obtain ⟨⟨hround⟩, -, h⟩ := Outcome.bind_eq_ok.mp h
  obtain ⟨_, htravel, h⟩ := Outcome.bind_eq_ok.mp h
  obtain ⟨_, hguarantee, h⟩ := Outcome.bind_eq_ok.mp h
  obtain ⟨r, htargets, h⟩ := Outcome.bind_eq_ok.mp h
  obtain ⟨_, hexpr, h⟩ := Outcome.bind_eq_ok.mp h
  obtain ⟨_, hparams, h⟩ := Outcome.bind_eq_ok.mp h
  cases h
  exact ⟨hcollection, hvectorField, hpartitions, houtFields, ⟨rfl, htopK⟩, hmetric, ⟨rfl, hround⟩,
    htravel, hguarantee, ⟨r, htargets, rfl⟩, hexpr, hparams⟩

/-- The attributes of a search that is valid, apart from its expression and its extra
parameters. -/
structure IsValid (collection vectorField topK : Value) (vectors : List Value) (metric : Value)
    (partitions outFields : List Value) (roundDecimal travel guarantee : Value) : Prop where
  collection : collection.IsName
  vectorField : vectorField.IsName
  partitions : ∀ v ∈ partitions, v.IsName
  outFields : ∀ v ∈ outFields, v.IsName
  topK : topK.IsCount 1
  roundDecimal : IsDecimals roundDecimal
  travel : travel.IsCount 0
  guarantee : guarantee.IsCount 0
  targets : ∃ m, Names metric m ∧ AreTargets m vectors

theorem IsValid.perm {collection vectorField topK metric roundDecimal travel guarantee : Value}
    {vs ws ps os : List Value}
    (h : IsValid collection vectorField topK vs metric ps os roundDecimal travel guarantee)
    (hperm : ws.Perm vs) :
    IsValid collection vectorField topK ws metric ps os roundDecimal travel guarantee := by
  obtain ⟨m, hm, htargets⟩ := h.targets
  exact { h with targets := ⟨m, hm, htargets.perm hperm⟩ }

section Construction

variable {collection vectorField topK vectors metric partitions outFields roundDecimal travel
  guarantee : Value} {vs ps os : List Value} {expr params : String}

theorem exists_ofValues_eq_ok_iff (hvectors : vectors.Lists vs) (hpartitions : partitions.Lists ps)
    (houtFields : outFields.Lists os) :
    (∃ p, ofValues collection vectorField topK vectors metric partitions outFields (.text expr)
        roundDecimal (.text params) travel guarantee = .ok p) ↔
      IsValid collection vectorField topK vs metric ps os roundDecimal travel guarantee := by
  constructor
  · rintro ⟨p, hp⟩
    have h := madeOf_of_ofValues hp
    obtain ⟨r, hr, -⟩ := h.targets
    exact {
      collection := Check.exists_name_eq_ok_iff.mp ⟨_, h.collection⟩
      vectorField := Check.exists_name_eq_ok_iff.mp ⟨_, h.vectorField⟩
      partitions := (Check.exists_names_eq_ok_iff hpartitions).mp ⟨_, h.partitions⟩
      outFields := (Check.exists_names_eq_ok_iff houtFields).mp ⟨_, h.outFields⟩
      topK := checkTopK_eq_ok_iff.mp h.topK.2
      roundDecimal := h.roundDecimal.2
      travel := Check.timestamp_eq_ok_iff.mp h.travel
      guarantee := Check.timestamp_eq_ok_iff.mp h.guarantee
      targets := ⟨_, readMetric_eq_ok_iff.mp h.metric,
        (exists_readTargets_eq_ok_iff hvectors).mp ⟨r, hr⟩⟩ }
  · intro h
    obtain ⟨m, hnames, htargets⟩ := h.targets
    obtain ⟨_, hcollection⟩ := Check.exists_name_eq_ok_iff.mpr h.collection
    obtain ⟨_, hvectorField⟩ := Check.exists_name_eq_ok_iff.mpr h.vectorField
    obtain ⟨_, hps⟩ := (Check.exists_names_eq_ok_iff hpartitions).mpr h.partitions
    obtain ⟨_, hos⟩ := (Check.exists_names_eq_ok_iff houtFields).mpr h.outFields
    obtain ⟨_, hvs⟩ := (exists_readTargets_eq_ok_iff hvectors).mpr htargets
    rw [ofValues, hcollection, Outcome.ok_bind, hvectorField, Outcome.ok_bind, hps,
      Outcome.ok_bind, hos, Outcome.ok_bind, checkTopK_eq_ok_iff.mpr h.topK, Outcome.ok_bind,
      readMetric_eq_ok_iff.mpr hnames, Outcome.ok_bind, orEmpty_text, orEmpty_text]
    obtain ⟨_, hround⟩ := exists_checkRoundDecimal_eq_ok h.roundDecimal
    refine Outcome.exists_bind_eq_ok.mpr ⟨_, hround, ?_⟩
    refine Outcome.exists_bind_eq_ok.mpr ⟨_, Check.timestamp_eq_ok_iff.mpr h.travel, ?_⟩
    refine Outcome.exists_bind_eq_ok.mpr ⟨_, Check.timestamp_eq_ok_iff.mpr h.guarantee, ?_⟩
    refine Outcome.exists_bind_eq_ok.mpr ⟨_, hvs, ?_⟩
    exact ⟨_, rfl⟩

theorem complains_ofValues (hvectors : vectors.Lists vs) (hpartitions : partitions.Lists ps)
    (houtFields : outFields.Lists os) :
    (ofValues collection vectorField topK vectors metric partitions outFields (.text expr)
      roundDecimal (.text params) travel guarantee).FailsOnly (Complains topK metric) := by
  rw [ofValues, orEmpty_text, orEmpty_text]
  refine (complains_of_refuses (Check.refuses_name _ _)).bind fun _ _ => ?_
  refine (complains_of_refuses (Check.refuses_name _ _)).bind fun _ _ => ?_
  refine (complains_of_refuses (Check.refuses_names hpartitions _)).bind fun _ _ => ?_
  refine (complains_of_refuses (Check.refuses_names houtFields _)).bind fun _ _ => ?_
  refine (complains_checkTopK _ _).bind fun _ _ => ?_
  refine (complains_readMetric _ _).bind fun m _ => ?_
  refine complains_of_refuses ?_
  refine (refuses_checkRoundDecimal _).bind fun _ _ => ?_
  refine (Check.refuses_timestamp _ _).bind fun _ _ => ?_
  refine (Check.refuses_timestamp _ _).bind fun _ _ => ?_
  exact (refuses_readTargets hvectors m).bind fun _ _ => Outcome.refuses_ok _

end Construction

/-! ### Two bit-packed targets -/

/-- Two targets of sixteen bits. -/
def twoCodes : List Value :=
  [.binary [1, 2] (List.cons_ne_nil _ _), .binary [3, 4] (List.cons_ne_nil _ _)].map .vector

theorem twoCodes_areTargets : AreTargets .hamming twoCodes := by
  unfold twoCodes
  rw [areTargets_cons_iff]
  exact ⟨by decide, rfl⟩

/-- An array without dimensions that holds the text of a metric, in small letters. -/
def namedArray : Value :=
  .object 0 "ndarray" "l2" "array('l2', dtype='<U2')"

/-- A target with the components one and two. -/
def oneTarget : TargetVector :=
  .float [Binary.ofBits 0x3F800000, Binary.ofBits 0x40000000] (List.cons_ne_nil _ _)

theorem oneTarget_areTargets : AreTargets .l2 [.vector oneTarget] := by
  show AreTargets .l2 ([oneTarget].map .vector)
  rw [areTargets_cons_iff]
  exact ⟨by simp, rfl⟩

end SearchParam

end VectorRequests
