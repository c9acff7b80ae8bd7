/-
# Searches

A search has a collection, a vector field and at least one target. All targets are
of one kind and one dimension, and the metric compares vectors of that kind. The
request carries the targets as a single placeholder and the other choices as
search parameters.
-/

import VectorRequests.Param.Check
import VectorRequests.Param.Settings
import VectorRequests.Text.UpperCase
import VectorRequests.Value.Written
import VectorRequests.Vector.Target
import VectorRequests.Wire.Request

namespace VectorRequests

open VectorRequests.Text

/-- Whether a metric compares vectors of a kind. -/
def Metric.suits (metric : Metric) : VectorKind → Bool
  | .float => metric.isFloat
  | .binary => !metric.isFloat

namespace SearchParam

/-- The least number of decimals that distances are rounded to; it stands for no
rounding. -/
def minRoundDecimal : Int := -1

/-- The greatest number of decimals that distances are rounded to. -/
def maxRoundDecimal : Int := 6

/-- A number of decimals that distances can be rounded to. -/
def IsDecimals (v : Value) : Prop :=
  ∃ n, v.toInt? = some n ∧ minRoundDecimal ≤ n ∧ n ≤ maxRoundDecimal

end SearchParam

/-- Targets to be searched for in a collection. -/
structure SearchParam where
  collection : Name
  vectorField : Name
  topK : Value
  targets : List TargetVector
  kind : VectorKind
  dim : Nat
  metric : Metric
  partitions : List Name
  outFields : List Name
  expr : Value
  roundDecimal : Value
  params : Value
  travelTimestamp : Value
  guaranteeTimestamp : Value
  targets_nonempty : targets ≠ []
  targets_alike : ∀ v ∈ targets, v.kind = kind ∧ v.dim = dim
  metric_suits : metric.suits kind = true
  roundDecimal_isDecimals : SearchParam.IsDecimals roundDecimal

namespace SearchParam

/-- The key of the vector field among search parameters. -/
def vectorFieldKey : String := "anns_field"

/-- The key of the number of results. -/
def topKKey : String := "topk"

/-- The key of the metric. -/
def metricKey : String := "metric_type"

/-- The key of the number of decimals. -/
def roundDecimalKey : String := "round_decimal"

/-- The key of the extra parameters. -/
def paramsKey : String := "params"

/-- Refuses a number of results that is no positive integer. -/
def checkTopK (v : Value) : Outcome Unit :=
  match v, v.toInt? with
  | .bool _, _ => Error.refuse (.illegalTopK v)
  | _, some n => if 0 < n then .ok () else v.withText (Error.refuse (.illegalTopK v))
  | _, none => v.withText (Error.refuse (.illegalTopK v))

/-- The metric that a value is, or that its text names in letters of any case. -/
def readMetric : Value → Outcome Metric
  | .metric m => .ok m
  | v => do
    match Metric.ofName? (upperName (← v.plainText)) with
    | some m => .ok m
    | none => Error.refuse (.illegalMetric v)

/-- Refuses a number of decimals that is no integer in range. -/
def checkRoundDecimal (v : Value) : Outcome (PLift (IsDecimals v)) :=
  match hn : v.toInt? with
  | some n =>
    if hrange : minRoundDecimal ≤ n ∧ n ≤ maxRoundDecimal then .ok ⟨n, hn, hrange⟩
    else Error.refuse .illegalRoundDecimal
  | none => Error.refuse .illegalRoundDecimal

/-- The target that a value is. -/
def readTarget : Value → Outcome TargetVector
  | .vector v => .ok v
  | v => Error.refuse (.illegalTarget v.typeName)

/-- Refuses the first target that differs from the others in kind or dimension. -/
def checkAlike (kind : VectorKind) (dim : Nat) : List TargetVector → Outcome Unit
  | [] => .ok ()
  | v :: vs =>
    if v.kind ≠ kind then Error.refuse .mixedTargets
    else if v.dim ≠ dim then Error.refuse .unequalTargets
    else checkAlike kind dim vs

/-- Refuses a metric that does not compare vectors of a kind. -/
def checkMetric (metric : Metric) (kind : VectorKind) : Outcome Unit :=
  if metric.suits kind then .ok ()
  else match kind with
    | .float => Error.refuse (.metricForFloat metric)
    | .binary => Error.refuse (.metricForBinary metric)

theorem checkAlike_eq_ok {kind : VectorKind} {dim : Nat} {vs : List TargetVector}
    (h : checkAlike kind dim vs = .ok ()) : ∀ v ∈ vs, v.kind = kind ∧ v.dim = dim := by
  induction vs with
  | nil => simp
  | cons v vs ih =>
    unfold checkAlike at h
    split at h
    · exact absurd h (by simp [Error.refuse])
    · split at h
      · exact absurd h (by simp [Error.refuse])
      · intro w hw
        rcases List.mem_cons.1 hw with rfl | hw
        · simp_all
        · exact ih h w hw

theorem checkMetric_eq_ok {metric : Metric} {kind : VectorKind}
    (h : checkMetric metric kind = .ok ()) : metric.suits kind = true := by
  unfold checkMetric at h
  split at h
  · assumption
  · cases kind <;> exact absurd h (by simp [Error.refuse])

/-- Targets of one kind and dimension, with a metric that compares them. -/
structure Targets (metric : Metric) where
  targets : List TargetVector
  kind : VectorKind
  dim : Nat
  nonempty : targets ≠ []
  alike : ∀ v ∈ targets, v.kind = kind ∧ v.dim = dim
  suits : metric.suits kind = true

/-- The targets among some vectors, of which there must be at least one. -/
def checkTargets (metric : Metric) (vs : List TargetVector) : Outcome (Targets metric) :=
  match vs with
  | [] => Error.refuse .noTargets
  | first :: rest =>
    match halike : checkAlike first.kind first.dim (first :: rest) with
    | .error e => .error e
    | .ok () =>
      match hsuits : checkMetric metric first.kind with
      | .error e => .error e
      | .ok () =>
        .ok ⟨first :: rest, first.kind, first.dim, by simp, checkAlike_eq_ok halike,
          checkMetric_eq_ok hsuits⟩

/-- The targets that a value holds. -/
def readTargets (metric : Metric) (v : Value) : Outcome (Targets metric) := do
  if ← v.truth then
    let vs ← (← v.itemsFor readTarget).mapM readTarget
    v.checkPlaces
    checkTargets metric vs
  else
    Error.refuse .noTargets

/-- A value, or the empty text in place of nothing. -/
def orEmpty (v : Value) : Outcome Value := do
  return if ← v.truth then v else .text ""

/-- The search with the given attributes. -/
def ofValues (collection vectorField topK vectors metric partitions outFields expr
    roundDecimal params travel guarantee : Value) : Outcome SearchParam := do
  let collection ← Check.name "Collection name" collection
  let vectorField ← Check.name "Target field name" vectorField
  let partitions ← Check.names "Partition name" partitions
  let outFields ← Check.names "Output field name" outFields
  checkTopK topK
  let metric ← readMetric metric
  let ⟨hdecimals⟩ ← checkRoundDecimal roundDecimal
  Check.timestamp "travel timestamp" travel
  Check.timestamp "guarantee timestamp" guarantee
  let targets ← readTargets metric vectors
  let expr ← orEmpty expr
  let params ← orEmpty params
  return {
    collection, vectorField, topK, metric, partitions, outFields, expr, roundDecimal, params
    targets := targets.targets
    kind := targets.kind
    dim := targets.dim
    travelTimestamp := travel
    guaranteeTimestamp := guarantee
    targets_nonempty := targets.nonempty
    targets_alike := targets.alike
    metric_suits := targets.suits
    roundDecimal_isDecimals := hdecimals }

/-- The placeholder group that carries the targets. -/
def placeholderGroup (p : SearchParam) : PlaceholderGroup :=
  PlaceholderGroup.ofVectors p.kind.placeholderType (p.targets.map TargetVector.toBytes) vectorTag

/-- The search parameters; extra parameters are left out if they are nothing. Numbers are
written as texts. -/
def searchParams (p : SearchParam) : Outcome (List KeyValuePair) := do
  let topK ← p.topK.plainText
  let roundDecimal ← p.roundDecimal.plainText
  return [⟨.text vectorFieldKey, p.vectorField.toValue⟩,
      ⟨.text topKKey, .text topK⟩,
      ⟨.text metricKey, .text p.metric.name⟩,
      ⟨.text roundDecimalKey, .text roundDecimal⟩] ++
    (if p.params.isTrue then [⟨.text paramsKey, p.params⟩] else [])

/-- The request of a search, whose number of results must have a text. -/
def toRequest (p : SearchParam) : Outcome SearchRequest := do
  let searchParams ← p.searchParams
  return {
    searchParams
    collectionName := p.collection.toValue
    placeholderGroup := p.placeholderGroup.encode
    dslType := .boolExprV1
    dsl := if p.expr.isTrue then p.expr else .text ""
    partitionNames := p.partitions.map Name.toValue
    outputFields := p.outFields.map Name.toValue
    travelTimestamp := p.travelTimestamp
    guaranteeTimestamp := p.guaranteeTimestamp }

/-- The record as a value. -/
def toValue (p : SearchParam) : Value :=
  .record .searchParam
    [("collection_name", p.collection.toValue), ("vector_field_name", p.vectorField.toValue),
     ("top_k", p.topK), ("vectors", .tuple (p.targets.map .vector)),
     ("metric_type", .metric p.metric),
     ("partition_names", .tuple (p.partitions.map Name.toValue)),
     ("out_fields", .tuple (p.outFields.map Name.toValue)), ("expr", p.expr),
     ("round_decimal", p.roundDecimal), ("params", p.params),
     ("travel_timestamp", p.travelTimestamp),
     ("guarantee_timestamp", p.guaranteeTimestamp)]

/-- The search that a value is. -/
def ofValue? : Value → Option SearchParam
  | .record .searchParam
      [(_, collection), (_, vectorField), (_, topK), (_, vectors), (_, metric),
       (_, partitions), (_, outFields), (_, expr), (_, roundDecimal), (_, params),
       (_, travel), (_, guarantee)] =>
    (ofValues collection vectorField topK vectors metric partitions outFields expr
      roundDecimal params travel guarantee).toOption
  | _ => none

end SearchParam

end VectorRequests
