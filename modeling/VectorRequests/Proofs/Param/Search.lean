/-
# Search targets survive the wire

A search has a request if its number of results has a text; its number of decimals always has one.
The targets travel as the values of one placeholder. Whoever reads the group of a request finds
that placeholder again, with the bytes of every target in the order given, and finds in the bytes
of a float vector the floats it was made of.
-/

import VectorRequests.Param.Search
import VectorRequests.Proofs.Number.Storage
import VectorRequests.Proofs.Placeholder.Group
import VectorRequests.Proofs.Value.Text

namespace VectorRequests

namespace TargetVector

theorem single_fillsBytes : (ElementType.float .single).FillsBytes :=
  ⟨by decide, by decide⟩

/-- The bytes of a float vector are those of a tensor of its components. -/
theorem toBytes_float {components : List Single} (nonempty : components ≠ []) :
    toBytes (.float components nonempty) =
      (Tensor.flat (.float .single) components).toBytes := rfl

/-- A vector takes four bytes for a float, or one for eight bits. -/
theorem length_toBytes (v : TargetVector) :
    v.toBytes.length = match v.kind with
      | .float => 4 * v.dim
      | .binary => v.dim / 8 := by
  cases v with
  | float components nonempty =>
      rw [toBytes_float, Tensor.length_toBytes]
      exact Nat.mul_comm _ _
  | binary packed nonempty =>
      show packed.length = packed.length * 8 / 8
      omega

theorem toBytes_ne_nil (v : TargetVector) : v.toBytes ≠ [] := by
  rw [← List.length_pos_iff]
  cases v with
  | float components nonempty =>
      rw [toBytes_float, Tensor.length_toBytes]
      exact Nat.mul_pos (List.length_pos_iff.mpr nonempty)
        (ElementType.byteCount_pos single_fillsBytes)
  | binary packed nonempty => exact List.length_pos_iff.mpr nonempty

/-- The components of a float vector are read back from its bytes. -/
theorem cellsOf_toBytes {components : List Single} (nonempty : components ≠ []) :
    Tensor.cellsOf (.float .single) .little (toBytes (.float components nonempty)).length
      (toBytes (.float components nonempty)) = components := by
  have hlength := length_toBytes (.float components nonempty)
  have hfuel : components.length ≤ (toBytes (.float components nonempty)).length := by
    rw [hlength]
    show components.length ≤ 4 * components.length
    omega
  exact Tensor.cellsOf_flatMap (Tensor.flat (.float .single) components) single_fillsBytes
    components hfuel

end TargetVector

namespace SearchParam

/-! ## The request -/

/-- The search parameters with the texts of the numbers. -/
def writtenParams (p : SearchParam) : List KeyValuePair :=
  [⟨.text vectorFieldKey, p.vectorField.toValue⟩,
    ⟨.text topKKey, .text p.topK.write⟩,
    ⟨.text metricKey, .text p.metric.name⟩,
    ⟨.text roundDecimalKey, .text p.roundDecimal.write⟩] ++
  (if p.params.isTrue then [⟨.text paramsKey, p.params⟩] else [])

theorem hasText_of_isDecimals {v : Value} (h : IsDecimals v) : v.hasText = true := by
  obtain ⟨n, hn, hlow, hhigh⟩ := h
  have hdigit : n.natAbs < 10 ^ 1 := by
    unfold minRoundDecimal at hlow
    unfold maxRoundDecimal at hhigh
    omega
  exact (Value.hasText_iff_of_toInt? hn).mpr
    (Text.Integer.isShort_of_lt (by decide) (by decide) hdigit)

theorem searchParams_eq (p : SearchParam) :
    p.searchParams = p.topK.withText (.ok p.writtenParams) := by
  rw [searchParams, Value.plainText, Value.plainText,
    Value.withText_of_hasText (hasText_of_isDecimals p.roundDecimal_isDecimals)]
  cases htext : p.topK.hasText with
  | true =>
      rw [Value.withText_of_hasText htext, Value.withText_of_hasText htext]
      rfl
  | false =>
      rw [Value.withText_of_not_hasText htext, Value.withText_of_not_hasText htext]
      rfl

/-- A search whose number of results has a text has a request with the written parameters. -/
theorem toRequest_eq_ok_iff {p : SearchParam} {r : SearchRequest} :
    p.toRequest = .ok r ↔ p.topK.hasText = true ∧ r =
      { searchParams := p.writtenParams
        collectionName := p.collection.toValue
        placeholderGroup := p.placeholderGroup.encode
        dslType := .boolExprV1
        dsl := if p.expr.isTrue then p.expr else .text ""
        partitionNames := p.partitions.map Name.toValue
        outputFields := p.outFields.map Name.toValue
        travelTimestamp := p.travelTimestamp
        guaranteeTimestamp := p.guaranteeTimestamp } := by
  rw [toRequest, searchParams_eq, Outcome.bind_eq_ok]
  simp only [Value.withText_eq_ok_iff, Outcome.pure_eq_ok, Except.ok.injEq]
  constructor
  · rintro ⟨_, ⟨htext, rfl⟩, rfl⟩
    exact ⟨htext, rfl⟩
  · rintro ⟨htext, rfl⟩
    exact ⟨_, ⟨htext, rfl⟩, rfl⟩

theorem exists_toRequest_eq_ok_iff {p : SearchParam} :
    (∃ r, p.toRequest = .ok r) ↔ p.topK.hasText = true := by
  simp only [toRequest_eq_ok_iff]
  constructor
  · rintro ⟨_, htext, -⟩
    exact htext
  · intro htext
    exact ⟨_, htext, rfl⟩

/-- Every reader of a request finds one placeholder with the bytes of the targets. -/
theorem decode_placeholderGroup {p : SearchParam} {r : SearchRequest} (h : p.toRequest = .ok r) :
    PlaceholderGroup.decode r.placeholderGroup =
      .ok ⟨[⟨"$0", p.kind.placeholderType, p.targets.map TargetVector.toBytes⟩]⟩ := by
  rw [(toRequest_eq_ok_iff.mp h).2]
  exact PlaceholderGroup.decode_encode p.placeholderGroup

/-! ## The targets -/

/-- The number of bytes that each target of a search takes. -/
def blobSize (p : SearchParam) : Nat :=
  match p.kind with
  | .float => 4 * p.dim
  | .binary => p.dim / 8

theorem length_toBytes_of_mem {p : SearchParam} {v : TargetVector} (hv : v ∈ p.targets) :
    v.toBytes.length = p.blobSize := by
  obtain ⟨hkind, hdim⟩ := p.targets_alike v hv
  rw [v.length_toBytes, hkind, hdim]
  rfl

theorem blobSize_pos (p : SearchParam) : 0 < p.blobSize := by
  obtain ⟨v, hv⟩ := List.exists_mem_of_ne_nil _ p.targets_nonempty
  rw [← length_toBytes_of_mem hv]
  exact List.length_pos_iff.mpr v.toBytes_ne_nil

end SearchParam

end VectorRequests
