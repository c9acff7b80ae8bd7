/-
# Reading back is consistent

Type, payload and dimension of a received column need not agree, and where they do not the
column is unreadable: it has no rows exactly if they cannot be counted, for the same reason.
Otherwise the rows are as many as the count says, all of the size of the dimension, and one
after the other they are the payload.

Some blocks of floats are counted and still not read, since they cannot be shaped: a block
without components whose rows, of which there are none, would span more bytes than a tensor
may, and a block whose dimension is a truth value, which counts as one but is no size. And where
the reason shows the dimension, a dimension of too many digits is not reported but fails.
-/

import VectorRequests.Proofs.Column.ReadBack
import VectorRequests.Proofs.Float.Widening

namespace VectorRequests

/-! ## Cutting a payload -/

section Chunks

variable {α : Type} {width count : Nat} {xs : List α}

@[simp]
theorem length_chunks : (chunks width count xs).length = count := by
  induction count generalizing xs with
  | zero => rfl
  | succ count ih => rw [chunks, List.length_cons, ih]

/-- What is left behind the first of so many parts makes up one part less. -/
theorem length_drop_of_length_eq_mul (h : xs.length = (count + 1) * width) :
    (xs.drop width).length = count * width := by
  rw [List.length_drop, h, Nat.succ_mul, Nat.add_sub_cancel]

/-- Parts that fill a payload are the payload, one after the other. -/
theorem flatten_chunks (h : xs.length = count * width) : (chunks width count xs).flatten = xs := by
  induction count generalizing xs with
  | zero =>
      rw [Nat.zero_mul, List.length_eq_zero_iff] at h
      rw [h]
      rfl
  | succ count ih =>
      rw [chunks, List.flatten_cons, ih (length_drop_of_length_eq_mul h), List.take_append_drop]

theorem length_of_mem_chunks (h : xs.length = count * width) :
    ∀ part ∈ chunks width count xs, part.length = width := by
  induction count generalizing xs with
  | zero => simp [chunks]
  | succ count ih =>
      rw [chunks, List.forall_mem_cons]
      refine ⟨?_, ih (length_drop_of_length_eq_mul h)⟩
      rw [List.length_take, h, Nat.succ_mul]
      omega

end Chunks

/-- The quotient of a size by a dimension, where there is one, is the number of parts. -/
theorem Extent.intQuotient?_eq_some_iff {size width : Nat} {count : Int} (hpos : 0 < width) :
    intQuotient? size width = some count ↔ ∃ n : Nat, count = n ∧ size = n * width := by
  have hne : (width : Int) ≠ 0 := by omega
  constructor
  · intro h
    rw [intQuotient?, Option.ite_none_right_eq_some, Option.some.injEq] at h
    obtain ⟨hrest, rfl⟩ := h
    refine ⟨size / width, by rw [Int.natCast_ediv], ?_⟩
    have hdvd : width ∣ size := Nat.dvd_of_mod_eq_zero (by omega)
    rw [Nat.div_mul_cancel hdvd]
  · rintro ⟨n, rfl, rfl⟩
    exact intQuotient?_mul n hpos

/-- An integer is a number of rows or their size, unless it is a truth value. -/
theorem Value.rowIndex?_of_toInt? {v : Value} {n : Int} (h : v.toInt? = some n)
    (hbool : v.isBool = false) : v.rowIndex? = some n := by
  rw [rowIndex?, hbool]
  cases v with
  | bool b => cases hbool
  | sized | tensor => cases h
  | _ => exact h

/-- The only truth value that is above zero counts as one. -/
theorem Value.of_isBool {v : Value} {n : Nat} (h : v.toInt? = some (n : Int)) (hpos : 0 < n)
    (hbool : v.isBool = true) : v = .bool true ∧ n = 1 := by
  cases v with
  | bool b =>
      have hvalue : b.toInt = n := Option.some.inj h
      cases b with
      | false =>
          rw [Bool.toInt_false] at hvalue
          omega
      | true =>
          rw [Bool.toInt_true] at hvalue
          exact ⟨rfl, by omega⟩
  | sized => cases h
  | _ => cases hbool

namespace FieldData

variable {c : FieldData}

/-! ## What is wanted of a column -/

/-- A column whose dimension, if it has one, is an integer. Truth values and members of
vocabularies that are numbered on the wire are integers, too. -/
def HasIntegerDim (c : FieldData) : Prop :=
  ∀ block, c.vectors? = some block → ∃ n, block.dim.toInt? = some n

/-- The rows of a column: the parts of its payload, each of the size of its dimension, or its
scalars one by one. -/
inductive AreRows (c : FieldData) : List Value → Prop
  | floats {dim : Value} {width : Nat} {parts : List (List Single)} (htype : c.type = .floatVector)
      (hdim : c.dimension = .ok dim) (hint : dim.toInt? = some width)
      (hpayload : c.payload = .vectors ⟨dim, .floats parts.flatten⟩)
      (hsize : ∀ part ∈ parts, part.length = width) :
      AreRows c (parts.map fun part => .list (part.map (ElementType.float .single).plain))
  | packed {dim : Value} {width : Nat} {parts : List (List UInt8)} (htype : c.type = .binaryVector)
      (hdim : c.dimension = .ok dim) (hint : dim.toInt? = some (8 * width : Nat))
      (hpayload : c.payload = .vectors ⟨dim, .packed parts.flatten⟩)
      (hsize : ∀ part ∈ parts, part.length = width) :
      AreRows c (parts.map .bytes)
  | numeric {kind : NumericKind} {cells : List kind.elementType.Cell}
      (hscalar : c.isVector = false) (hpayload : c.payload = .scalars (.numeric kind cells)) :
      AreRows c (cells.map kind.elementType.plain)
  | strings {values : List Value} (hscalar : c.isVector = false)
      (hpayload : c.payload = .scalars (.strings values)) : AreRows c values

/-- A column has rows exactly if they can be counted, and is unreadable for one and the same
reason otherwise; its rows are as many as were counted, and they are its payload. -/
structure ReadsConsistently (c : FieldData) : Prop where
  ok_iff : (∃ rows, c.rows = .ok rows) ↔ ∃ count, c.rowCount = .ok count
  error_iff : ∀ e, c.rows = .error e ↔ c.rowCount = .error e
  unreadable : ∀ e, c.rows = .error e → ∃ fault, e = .unreadable fault c.name
  counted : ∀ rows, c.rows = .ok rows → c.rowCount = .ok (.int rows.length)
  whole : ∀ rows, c.rows = .ok rows → c.AreRows rows

/-- Blocks of floats that are counted and cannot be shaped, and how the attempt fails: without
components, the rows would span more bytes than a tensor may, or the dimension is a truth
value. -/
inductive IsUnshapeable (c : FieldData) : Fault → Prop
  | wide {dim : Value} {n : Int} (htype : c.type = .floatVector)
      (hpayload : c.payload = .vectors ⟨dim, .floats []⟩) (hint : dim.toInt? = some n)
      (hbool : dim.isBool = false) (hspan : Tensor.maxSpan 0 < 4 * n) : IsUnshapeable c .badValue
  | truth {components : List Single} (htype : c.type = .floatVector)
      (hpayload : c.payload = .vectors ⟨.bool true, .floats components⟩) :
      IsUnshapeable c .wrongType

/-- Columns that are unreadable for a reason that shows the dimension, which has no text: it
does not fill whole bytes, or the payload is no multiple of it. -/
inductive IsUnreportable (c : FieldData) : Prop
  | unaligned {dim : Value} {n : Int} {payload : VectorPayload} (htype : c.type = .binaryVector)
      (hpayload : c.payload = .vectors ⟨dim, payload⟩) (hint : dim.toInt? = some n) (hpos : 0 < n)
      (hbits : n % 8 ≠ 0) (htext : dim.hasText = false)
  | indivisible {dim : Value} {size width : Nat} (hdim : c.dimension = .ok dim)
      (hint : dim.toInt? = some width) (hpos : 0 < width) (hsize : c.payloadSize = .ok size)
      (hrest : ¬ ∃ n : Nat, size = n * width) (htext : dim.hasText = false)

/-! ## The dimension and the payload -/

theorem isVector_eq_true_iff :
    c.isVector = true ↔ c.type = .floatVector ∨ c.type = .binaryVector := by
  rw [isVector]
  cases c.type <;> decide

/-- The dimension of a column of vectors is the one of its block. -/
theorem dimension_of_payload {dim : Value} {payload : VectorPayload} (hvector : c.isVector = true)
    (hpayload : c.payload = .vectors ⟨dim, payload⟩) :
    c.dimension = checkDimension c.name c.type dim := by
  rw [dimension, if_neg (not_not.mpr hvector), vectors?, hpayload]

/-- Only columns of vectors have a dimension. -/
theorem isVector_of_dimension {dim : Value} (h : c.dimension = .ok dim) : c.isVector = true := by
  by_contra hscalar
  rw [dimension, if_pos hscalar] at h
  cases h

/-- A column of vectors that is reported on has no dimension, or one that is above zero and fills
whole bytes. -/
theorem dimension_cases (hdim : c.HasIntegerDim) (hreport : ¬ c.IsUnreportable)
    (hvector : c.isVector = true) :
    (∃ fault, c.dimension = c.unreadable fault) ∨
      ∃ (dim : Value) (width : Nat) (payload : VectorPayload),
        c.payload = .vectors ⟨dim, payload⟩ ∧ dim.toInt? = some width ∧ c.dimension = .ok dim ∧
          0 < width ∧ (c.type = .binaryVector → width % 8 = 0) := by
  cases hpayload : c.payload with
  | scalars s =>
      refine .inl ⟨.invalidDimension, ?_⟩
      rw [dimension, if_neg (not_not.mpr hvector), vectors?, hpayload]
  | vectors block =>
      obtain ⟨n, hint⟩ := hdim block (by rw [vectors?, hpayload])
      have hopen := dimension_of_payload hvector hpayload
      rw [checkDimension_of_toInt? _ _ hint] at hopen
      by_cases hpos : 0 < n
      · rw [if_neg (not_not.mpr hpos)] at hopen
        by_cases hbits : c.type = .binaryVector ∧ n % 8 ≠ 0
        · rw [if_pos hbits] at hopen
          cases htext : block.dim.hasText with
          | true => exact .inl ⟨_, hopen.trans (Value.withText_of_hasText htext _)⟩
          | false =>
              exact absurd (.unaligned hbits.1 hpayload hint hpos hbits.2 htext) hreport
        · obtain ⟨width, rfl⟩ := Int.eq_ofNat_of_zero_le hpos.le
          have hok := hopen.trans (if_neg hbits)
          refine .inr ⟨block.dim, width, block.payload, rfl, hint, hok, by omega, ?_⟩
          intro htype
          by_contra hrest
          exact hbits ⟨htype, by omega⟩
      · exact .inl ⟨_, hopen.trans (if_pos hpos)⟩

/-- A payload that is no multiple of the dimension cannot be counted. -/
theorem rowCount_of_indivisible {dim : Value} {size width : Nat} (hdim : c.dimension = .ok dim)
    (hint : dim.toInt? = some width) (hpos : 0 < width) (hsize : c.payloadSize = .ok size)
    (hrest : ¬ ∃ n : Nat, size = n * width) :
    c.rowCount = dim.withText (c.unreadable (.indivisiblePayload size dim)) := by
  have hnone : Extent.intQuotient? size width = none := by
    refine Option.eq_none_iff_forall_ne_some.mpr fun count hcount => hrest ?_
    obtain ⟨n, -, hn⟩ := (Extent.intQuotient?_eq_some_iff hpos).mp hcount
    exact ⟨n, hn⟩
  rw [rowCount, if_pos (isVector_of_dimension hdim), hdim, Outcome.ok_bind, hsize,
    Outcome.ok_bind, Extent.ofValue_of_toInt? hint, Outcome.ok_bind, Extent.quotient?, hnone]
  rfl

/-- A payload of the wrong form has no size. -/
theorem rowCount_of_payloadSize {fault : ResponseFault} {dim : Value} (hvector : c.isVector = true)
    (hdim : c.dimension = .ok dim) (hsize : c.payloadSize = c.unreadable fault) :
    c.rowCount = c.unreadable fault := by
  rw [rowCount, if_pos hvector, hdim, Outcome.ok_bind, hsize]
  rfl

theorem payloadSize_floats {components : List Single} {dim : Value} (htype : c.type = .floatVector)
    (hpayload : c.payload = .vectors ⟨dim, .floats components⟩) :
    c.payloadSize = .ok components.length := by
  rw [payloadSize, if_pos htype, floatPayload, vectors?, hpayload]
  rfl

/-- A block of floats may have any dimension above zero. -/
theorem dimension_floats {components : List Single} {dim : Value} {width : Nat}
    (htype : c.type = .floatVector) (hpayload : c.payload = .vectors ⟨dim, .floats components⟩)
    (hint : dim.toInt? = some width) (hpos : 0 < width) : c.dimension = .ok dim := by
  rw [dimension_of_payload (isVector_eq_true_iff.mpr (.inl htype)) hpayload,
    checkDimension_of_toInt? _ _ hint, if_neg (by omega), if_neg (by simp [htype])]

/-- A block of floats that is a multiple of its dimension has as many rows. -/
theorem rowCount_floats {components : List Single} {dim : Value} {count width : Nat}
    (htype : c.type = .floatVector) (hpayload : c.payload = .vectors ⟨dim, .floats components⟩)
    (hint : dim.toInt? = some width) (hpos : 0 < width)
    (hsize : components.length = count * width) : c.rowCount = .ok (.int count) := by
  have hvector : c.isVector = true := isVector_eq_true_iff.mpr (.inl htype)
  have hdim := dimension_floats htype hpayload hint hpos
  have hpart := payloadSize_floats htype hpayload
  rw [hsize] at hpart
  exact rowCount_of_dimension hvector hdim (Extent.ofValue_of_toInt? hint) hpos hpart

/-- The rows of a block of floats that can be counted. -/
theorem rows_floats {components : List Single} {dim count : Value} (htype : c.type = .floatVector)
    (hpayload : c.payload = .vectors ⟨dim, .floats components⟩)
    (hdim : c.dimension = .ok dim) (hcount : c.rowCount = .ok count) :
    c.rows = splitFloats components count dim := by
  rw [rows, hcount, Outcome.ok_bind]
  simp only [htype, floatPayload, vectors?, hpayload, Option.bind_some, VectorField.floats?, hdim,
    Outcome.ok_bind]

/-! ## One lemma for each form of a column -/

/-- A column that cannot be counted has no rows, for the same reason. -/
theorem ReadsConsistently.of_unreadable {fault : ResponseFault}
    (h : c.rowCount = c.unreadable fault) : c.ReadsConsistently := by
  have hrows : c.rows = c.unreadable fault := by
    rw [rows, h]
    rfl
  rw [FieldData.unreadable] at h hrows
  constructor
  · simp [h, hrows]
  · simp [h, hrows]
  · rintro e he
    rw [hrows] at he
    cases he
    exact ⟨fault, rfl⟩
  · simp [hrows]
  · simp [hrows]

/-- A payload that is no multiple of the dimension is reported, if the dimension can be shown. -/
theorem ReadsConsistently.of_indivisible {dim : Value} {size width : Nat}
    (hreport : ¬ c.IsUnreportable) (hdim : c.dimension = .ok dim)
    (hint : dim.toInt? = some width) (hpos : 0 < width) (hsize : c.payloadSize = .ok size)
    (hrest : ¬ ∃ n : Nat, size = n * width) : c.ReadsConsistently := by
  have hcount := rowCount_of_indivisible hdim hint hpos hsize hrest
  cases htext : dim.hasText with
  | true => exact .of_unreadable (hcount.trans (Value.withText_of_hasText htext _))
  | false => exact absurd (.indivisible hdim hint hpos hsize hrest htext) hreport

theorem ReadsConsistently.of_rows {values : List Value} (hrows : c.rows = .ok values)
    (hcount : c.rowCount = .ok (.int values.length)) (hare : c.AreRows values) :
    c.ReadsConsistently := by
  constructor
  · exact iff_of_true ⟨_, hrows⟩ ⟨_, hcount⟩
  · simp [hrows, hcount]
  · simp [hrows]
  · rintro _ h
    obtain rfl := Except.ok.inj (hrows.symm.trans h)
    exact hcount
  · rintro _ h
    obtain rfl := Except.ok.inj (hrows.symm.trans h)
    exact hare

/-- A block of floats that can be counted is read, unless it cannot be shaped. There is room for
its rows, unless it has no components. -/
theorem readsConsistently_floats {components : List Single} {dim : Value} {width : Nat}
    (htype : c.type = .floatVector) (hpayload : c.payload = .vectors ⟨dim, .floats components⟩)
    (hint : dim.toInt? = some width) (hdim : c.dimension = .ok dim) (hpos : 0 < width)
    (hreport : ¬ c.IsUnreportable) (hshape : ¬ ∃ fault, c.IsUnshapeable fault) :
    c.ReadsConsistently := by
  have hsize := payloadSize_floats htype hpayload
  by_cases hwhole : ∃ n : Nat, components.length = n * width
  · obtain ⟨n, hn⟩ := hwhole
    have hcount := rowCount_floats htype hpayload hint hpos hn
    have hbool : dim.isBool = false := by
      rw [← Bool.not_eq_true]
      intro htruth
      obtain ⟨rfl, -⟩ := Value.of_isBool hint hpos htruth
      exact hshape ⟨_, .truth htype hpayload⟩
    have hfits : (4 * width : Int) ≤ Tensor.maxSpan (4 * components.length) := by
      cases n with
      | zero =>
          obtain rfl : components = [] := by
            rw [← List.length_eq_zero_iff, hn, Nat.zero_mul]
          exact not_lt.mp fun hspan => hshape ⟨_, .wide htype hpayload hint hbool hspan⟩
      | succ n =>
          have hrow : width ≤ components.length := by
            rw [hn, Nat.succ_mul]
            omega
          unfold Tensor.maxSpan
          omega
    have hrows := rows_floats htype hpayload hdim hcount
    rw [splitFloats_of_rowIndex? (Value.rowIndex?_of_toInt? hint hbool), if_pos hfits] at hrows
    refine .of_rows hrows ?_ (.floats htype hdim hint ?_ (length_of_mem_chunks hn))
    · rw [hcount, List.length_map, length_chunks]
    · rw [flatten_chunks hn, hpayload]
  · exact .of_indivisible hreport hdim hint hpos hsize hwhole

/-- A block of packed vectors is cut into parts of so many bytes. -/
theorem readsConsistently_packed {bytes : List UInt8} {dim : Value} {bits : Nat}
    (htype : c.type = .binaryVector) (hpayload : c.payload = .vectors ⟨dim, .packed bytes⟩)
    (hint : dim.toInt? = some bits) (hdim : c.dimension = .ok dim) (hpos : 0 < bits)
    (hbytes : bits % 8 = 0) (hreport : ¬ c.IsUnreportable) : c.ReadsConsistently := by
  have hvector : c.isVector = true := isVector_eq_true_iff.mpr (.inr htype)
  have hsize : c.payloadSize = .ok (bytes.length * 8) := by
    rw [payloadSize, if_neg (by simp [htype]), packedPayload, vectors?, hpayload]
    rfl
  by_cases hwhole : ∃ n : Nat, bytes.length * 8 = n * bits
  · obtain ⟨n, hn⟩ := hwhole
    obtain ⟨width, rfl⟩ := Nat.dvd_of_mod_eq_zero hbytes
    have hn' : bytes.length = n * width := by
      have hcells : bytes.length * 8 = n * width * 8 := by rw [hn]; ring
      omega
    have hextent := Extent.ofValue_of_toInt? hint
    have hcount := rowCount_of_dimension hvector hdim hextent hpos (hn ▸ hsize)
    have hbool : dim.isBool = false := by
      rw [← Bool.not_eq_true]
      intro htruth
      obtain ⟨-, hone⟩ := Value.of_isBool hint hpos htruth
      omega
    have hrows : c.rows = .ok ((chunks width n bytes).map .bytes) := by
      rw [rows, hcount, Outcome.ok_bind]
      simp only [htype, packedPayload, vectors?, hpayload, Option.bind_some, VectorField.packed?,
        hdim, Outcome.ok_bind]
      exact splitPacked_of_rowIndex? (Value.rowIndex?_of_toInt? hint hbool)
    refine .of_rows hrows ?_ (.packed htype hdim hint ?_ (length_of_mem_chunks hn'))
    · rw [hcount, List.length_map, length_chunks]
    · rw [flatten_chunks hn', hpayload]
  · exact .of_indivisible hreport hdim hint hpos hsize hwhole

/-- A column of another type is read item by item, if it carries scalars. -/
theorem readsConsistently_scalars (hscalar : c.isVector = false) : c.ReadsConsistently := by
  have hvector : ¬ c.isVector = true := by rw [hscalar]; decide
  cases hpayload : c.payload with
  | vectors block =>
      have hcount : c.rowCount = c.unreadable .noScalars := by
        rw [rowCount, if_neg hvector, scalars?, hpayload]
      exact .of_unreadable hcount
  | scalars s =>
      have hcount : c.rowCount = .ok (.int s.length) := by
        rw [rowCount, if_neg hvector, scalars?, hpayload]
        rfl
      have hrows : c.rows = .ok (scalarValues s) := by
        rw [rows, hcount, Outcome.ok_bind, scalars?, hpayload]
        rw [isVector] at hscalar
        cases htype : c.type with
        | floatVector | binaryVector =>
            rw [htype] at hscalar
            cases hscalar
        | _ => rfl
      cases s with
      | numeric kind cells =>
          rw [scalarValues] at hrows
          refine .of_rows hrows ?_ (.numeric hscalar hpayload)
          rw [hcount, ScalarField.length, List.length_map]
      | strings values => exact .of_rows hrows hcount (.strings hscalar hpayload)

/-! ## All columns -/

/-- A block that cannot be shaped is counted, and the attempt to read it fails. -/
theorem IsUnshapeable.outcomes {fault : Fault} (h : c.IsUnshapeable fault) :
    (∃ count, c.rowCount = .ok count) ∧ c.rows = Error.fail fault := by
  cases h with
  | @wide dim n htype hpayload hint hbool hspan =>
      have hpos : 0 < n := by
        unfold Tensor.maxSpan at hspan
        omega
      obtain ⟨width, rfl⟩ := Int.eq_ofNat_of_zero_le hpos.le
      have hnone : ([] : List Single).length = 0 * width := (Nat.zero_mul _).symm
      have hcount := rowCount_floats htype hpayload hint (by omega) hnone
      refine ⟨⟨_, hcount⟩, ?_⟩
      rw [rows_floats htype hpayload (dimension_floats htype hpayload hint (by omega)) hcount,
        splitFloats_of_rowIndex? (Value.rowIndex?_of_toInt? hint hbool)]
      exact if_neg (not_le.mpr hspan)
  | @truth components htype hpayload =>
      have hint : (Value.bool true).toInt? = some (1 : Nat) := rfl
      have hone : components.length = components.length * 1 := (Nat.mul_one _).symm
      have hcount := rowCount_floats htype hpayload hint Nat.one_pos hone
      refine ⟨⟨_, hcount⟩, ?_⟩
      rw [rows_floats htype hpayload (dimension_floats htype hpayload hint Nat.one_pos) hcount]
      rfl

/-- The reason cannot be told, neither where rows are counted nor where they are read. -/
theorem IsUnreportable.outcomes (h : c.IsUnreportable) :
    c.rowCount = Error.fail .badValue ∧ c.rows = Error.fail .badValue := by
  have hcount : c.rowCount = Error.fail .badValue := by
    cases h with
    | unaligned htype hpayload hint hpos hbits htext =>
        have hvector : c.isVector = true := isVector_eq_true_iff.mpr (.inr htype)
        rw [rowCount, if_pos hvector, dimension_of_payload hvector hpayload,
          checkDimension_of_toInt? _ _ hint, if_neg (not_not.mpr hpos), if_pos ⟨htype, hbits⟩,
          Value.withText_of_not_hasText htext]
        rfl
    | indivisible hdim hint hpos hsize hrest htext =>
        rw [rowCount_of_indivisible hdim hint hpos hsize hrest,
          Value.withText_of_not_hasText htext]
  refine ⟨hcount, ?_⟩
  rw [rows, hcount]
  rfl

theorem IsUnreportable.not_readsConsistently (h : c.IsUnreportable) : ¬ c.ReadsConsistently := by
  intro hreads
  obtain ⟨fault, hfault⟩ := hreads.unreadable _ h.outcomes.2
  cases hfault

theorem readsConsistently_of_not_isUnshapeable (hdim : c.HasIntegerDim)
    (hreport : ¬ c.IsUnreportable) (hshape : ¬ ∃ fault, c.IsUnshapeable fault) :
    c.ReadsConsistently := by
  cases hvector : c.isVector with
  | false => exact readsConsistently_scalars hvector
  | true =>
      obtain ⟨fault, hfault⟩ | ⟨dim, width, payload, hpayload, hint, hok, hpos, hbytes⟩ :=
        dimension_cases hdim hreport hvector
      · have hcount : c.rowCount = c.unreadable fault := by
          rw [rowCount, if_pos hvector, hfault]
          rfl
        exact .of_unreadable hcount
      · obtain htype | htype := isVector_eq_true_iff.mp hvector
        · cases payload with
          | floats components =>
              exact readsConsistently_floats htype hpayload hint hok hpos hreport hshape
          | packed bytes =>
              have hsize : c.payloadSize = c.unreadable .noFloats := by
                rw [payloadSize, if_pos htype, floatPayload, vectors?, hpayload]
                rfl
              exact .of_unreadable (rowCount_of_payloadSize hvector hok hsize)
        · cases payload with
          | floats components =>
              have hsize : c.payloadSize = c.unreadable .noPacked := by
                rw [payloadSize, if_neg (by simp [htype]), packedPayload, vectors?, hpayload]
                rfl
              exact .of_unreadable (rowCount_of_payloadSize hvector hok hsize)
          | packed bytes =>
              exact readsConsistently_packed htype hpayload hint hok hpos (hbytes htype) hreport

theorem IsUnshapeable.not_readsConsistently {fault : Fault} (h : c.IsUnshapeable fault) :
    ¬ c.ReadsConsistently := by
  obtain ⟨⟨count, hcount⟩, hrows⟩ := h.outcomes
  intro hreads
  obtain ⟨rows, hok⟩ := hreads.ok_iff.mpr ⟨count, hcount⟩
  rw [hrows] at hok
  cases hok

/-- Whatever its type, its payload and its integer dimension are, a column reads back
consistently, with two exceptions. A block of floats that cannot be shaped is counted, and yet the
attempt to read it fails. And where the reason shows a dimension without a text, both attempts
fail. The plain values of cells tell the cells apart, so rows that are found are the payload and
nothing else. -/
theorem readsConsistently_iff (hdim : c.HasIntegerDim) :
    (c.ReadsConsistently ↔ (¬ ∃ fault, c.IsUnshapeable fault) ∧ ¬ c.IsUnreportable) ∧
      (∀ fault, c.IsUnshapeable fault →
        (∃ count, c.rowCount = .ok count) ∧ c.rows = Error.fail fault) ∧
      (c.IsUnreportable → c.rowCount = Error.fail .badValue ∧ c.rows = Error.fail .badValue) ∧
      ∀ kind : NumericKind, Function.Injective kind.elementType.plain := by
  refine ⟨⟨?_, ?_⟩, fun _ h => h.outcomes, fun h => h.outcomes, NumericKind.plain_injective⟩
  · intro hreads
    constructor
    · rintro ⟨fault, hshape⟩
      exact hshape.not_readsConsistently hreads
    · intro hreport
      exact hreport.not_readsConsistently hreads
  · rintro ⟨hshape, hreport⟩
    exact readsConsistently_of_not_isUnshapeable hdim hreport hshape

/-- Three bytes do not hold vectors of sixteen bits each. -/
theorem readsConsistently_torn :
    HasIntegerDim ⟨.text "tags", .binaryVector, .vectors ⟨.int 16, .packed [1, 2, 3]⟩⟩ ∧
      ReadsConsistently ⟨.text "tags", .binaryVector, .vectors ⟨.int 16, .packed [1, 2, 3]⟩⟩ ∧
      rows ⟨.text "tags", .binaryVector, .vectors ⟨.int 16, .packed [1, 2, 3]⟩⟩ =
        .error (.unreadable (.indivisiblePayload 24 (.int 16)) (.text "tags")) := by
  have hdim : HasIntegerDim
      ⟨.text "tags", .binaryVector, .vectors ⟨.int 16, .packed [1, 2, 3]⟩⟩ := by
    rintro _ ⟨⟩
    exact ⟨16, rfl⟩
  refine ⟨hdim, (readsConsistently_iff hdim).1.mpr ⟨?_, ?_⟩, rfl⟩
  · rintro ⟨_, ⟨⟨⟩⟩ | ⟨⟨⟩⟩⟩
  · intro hreport
    cases hreport with
    | unaligned _ hpayload _ _ _ htext =>
        cases hpayload
        cases htext
    | indivisible hdim _ _ _ _ htext =>
        cases hdim
        cases htext

/-- A column of no vectors, each of 2^61 floats. -/
def wideColumn : FieldData :=
  ⟨.text "vec", .floatVector, .vectors ⟨.int 2305843009213693952, .floats []⟩⟩

theorem wideColumn_isUnshapeable : wideColumn.IsUnshapeable .badValue :=
  .wide rfl rfl rfl rfl (by decide)

/-- A column of no vectors is counted, and its rows, of which there are none, are not read. -/
theorem wideColumn_not_read :
    wideColumn.HasIntegerDim ∧ wideColumn.rowCount = .ok (.int 0) ∧
      wideColumn.rows = Error.fail .badValue ∧ ¬ wideColumn.ReadsConsistently := by
  refine ⟨?_, rfl, wideColumn_isUnshapeable.outcomes.2,
    wideColumn_isUnshapeable.not_readsConsistently⟩
  rintro _ ⟨⟩
  exact ⟨2305843009213693952, rfl⟩

end FieldData

end VectorRequests
