/-
# Integer columns

The integers of a list are stored one by one, and one beyond the range of the words is an
overflow. The integers of a tensor are stored by the low bits of their words, and nothing is
said about those that are not the same number afterwards. So a column of an integer kind holds
the integers that it was given, unless they came as a tensor and one of them is out of range.
A document has all its numbers in a tensor.
-/

import VectorRequests.Proofs.Document.Conversion

namespace VectorRequests

-- Powers are those of the core library, whichever monoids are in scope.
attribute [local instance (high)] instPowNat

/-! ## Integers of a format -/

namespace IntFormat

variable (f : IntFormat)

/-- An integer is in the range of a format. -/
def Admits (i : Int) : Prop := f.least ≤ i ∧ i ≤ f.greatest

instance (i : Int) : Decidable (f.Admits i) := inferInstanceAs (Decidable (_ ∧ _))

/-- The integer that the low bits of an integer stand for. -/
def lowBits (i : Int) : Int := f.value (f.wrap i)

variable {f}

/-- Every word stands for an integer in range. -/
theorem admits_value (hbytes : 0 < f.byteCount) (w : f.Word) : f.Admits (f.value w) := by
  have hbits : 0 < f.bits := by
    rw [bits]
    omega
  unfold Admits least greatest value
  by_cases hsigned : f.signed
  · simp only [if_pos hsigned]
    have hleast := BitVec.le_toInt w
    have hgreatest := BitVec.toInt_lt (x := w)
    omega
  · simp only [if_neg hsigned]
    have hgreatest : (w.toNat : Int) < 2 ^ f.bits := by exact_mod_cast w.isLt
    omega

/-- The low bits stand for the same integer exactly if it is in range. -/
theorem lowBits_eq_iff (hbytes : 0 < f.byteCount) {i : Int} : f.lowBits i = i ↔ f.Admits i := by
  constructor
  · intro hsame
    rw [← hsame]
    exact admits_value hbytes _
  · rintro ⟨hleast, hgreatest⟩
    exact value_wrap hbytes hleast hgreatest

theorem map_lowBits_eq_iff (hbytes : 0 < f.byteCount) {is : List Int} :
    is.map f.lowBits = is ↔ ∀ i ∈ is, f.Admits i := by
  induction is with
  | nil => simp
  | cons i is ih =>
      rw [List.map_cons, List.cons_eq_cons, lowBits_eq_iff hbytes, ih, List.forall_mem_cons]

end IntFormat

/-! ## Integers that are given and held -/

/-- Data gives integers in row-major order: it is a list of them, or a tensor of some integer
type and shape. -/
inductive GivesIntegers : Value → List Int → Prop
  | list {vs : List Value} {is : List Int} (h : List.Forall₂ (fun v i => v.toInt? = some i) vs is) :
      GivesIntegers (.list vs) is
  | tensor (g : IntFormat) (order : ByteOrder) (shape : List Nat) (words : List g.Word)
      (h : words.length = cellCount shape) :
      GivesIntegers (.tensor ⟨.int g, order, shape, words, h⟩) (words.map g.value)

/-- Data is a tensor, of no more dimensions than tensors may have. -/
def IsTensor (data : Value) : Prop :=
  ∃ t, data = .tensor t ∧ t.shape.length ≤ Tensor.maxDimensions

/-- Integers are taken for words of a format: in a tensor always, and in a list if all of them
are in range. -/
def IntFormat.Takes (f : IntFormat) (data : Value) (is : List Int) : Prop :=
  IsTensor data ∨ (∃ vs, data = .list vs) ∧ ∀ i ∈ is, f.Admits i

/-- Scalars are cells of a kind that stand for integers, in order. -/
def ScalarField.Holds (s : ScalarField) (kind : NumericKind) (is : List Int) : Prop :=
  ∃ cells : List kind.elementType.Cell,
    s = .numeric kind cells ∧ cells.map kind.elementType.toInt? = is.map some

/-- A column carries scalars that stand for integers, in order. -/
def FieldData.Holds (c : FieldData) (kind : NumericKind) (is : List Int) : Prop :=
  ∃ s, c.scalars? = some s ∧ s.Holds kind is

/-- A document gives integers for a kind of scalars. -/
def ColumnDocument.GivesIntegers (d : ColumnDocument) (kind : NumericKind) (is : List Int) :
    Prop :=
  ∃ s n t, d.scalars = some s ∧ ScalarKind.ofName? s.kind = some (.numeric kind) ∧
    s.numeric = some n ∧ n.toTensor = .ok t ∧ VectorRequests.GivesIntegers (.tensor t) is

namespace Cells

variable {f : IntFormat} {vs : List Value} {is : List Int}

/-- An integer is stored where it is in range. -/
theorem storeInt_eq (hbytes : 0 < f.byteCount) (i : Int) :
    storeInt f i = if f.Admits i then .ok (f.wrap i) else Error.fail .overflow := by
  rw [storeInt, IntFormat.ofInt?]
  by_cases hadmits : f.Admits i
  · have hsame : f.value (f.wrap i) = i := (IntFormat.lowBits_eq_iff hbytes).mpr hadmits
    rw [if_pos hsame, if_pos hadmits]
  · have hother : f.value (f.wrap i) ≠ i := mt (IntFormat.lowBits_eq_iff hbytes).mp hadmits
    rw [if_neg hother, if_neg hadmits]

/-- Integers are stored one after the other, where all of them are in range. -/
theorem mapM_storeInt (hbytes : 0 < f.byteCount) (is : List Int) :
    is.mapM (storeInt f) =
      if ∀ i ∈ is, f.Admits i then .ok (is.map f.wrap) else Error.fail .overflow := by
  induction is with
  | nil => rfl
  | cons i is ih =>
      rw [List.mapM_cons, storeInt_eq hbytes, ih]
      by_cases hhead : f.Admits i
      · by_cases htail : ∀ j ∈ is, f.Admits j
        · rw [if_pos hhead, if_pos htail, if_pos (List.forall_mem_cons.mpr ⟨hhead, htail⟩)]
          rfl
        · rw [if_pos hhead, if_neg htail, if_neg fun h => htail (List.forall_mem_cons.mp h).2]
          rfl
      · rw [if_neg hhead, if_neg fun h => hhead (List.forall_mem_cons.mp h).1]
        rfl

theorem isItem_of_toInt? {v : Value} {i : Int} (h : v.toInt? = some i) : IsItem v := by
  cases v with
  | bool | int | dataType | placeholderType | msgType | dslType => exact ⟨rfl, rfl⟩
  | null | float | text | bytes | buffer | list | tuple | set | range | mapping | sized | tensor
    | scalarKind | metric | vector | column | record | object => cases h

theorem mapM_toWord_eq (h : List.Forall₂ (fun v i => v.toInt? = some i) vs is) :
    vs.mapM (toWord f) = is.mapM (storeInt f) := by
  induction h with
  | nil => rfl
  | cons hhead _ ih => rw [List.mapM_cons, List.mapM_cons, toWord_of_toInt? hhead, ih]

/-- A list of integers is stored integer by integer. -/
theorem store_integers (hbytes : 0 < f.byteCount)
    (h : List.Forall₂ (fun v i => v.toInt? = some i) vs is) :
    store (.int f) (.list vs) =
      if ∀ i ∈ is, f.Admits i then .ok (is.map f.wrap) else Error.fail .overflow := by
  have hitems : ∀ v ∈ vs, IsItem v := by
    intro v hv
    obtain ⟨i, hi, -⟩ := exists_of_forall₂ h (fun _ _ => trivial) v hv
    exact isItem_of_toInt? hi
  have hwalk : vs.mapM (toCell (.int f)) = is.mapM (storeInt f) := mapM_toWord_eq h
  rw [store_list_eq hitems, hwalk]
  exact (bind_pure (is.mapM (storeInt f))).trans (mapM_storeInt hbytes is)

/-- A tensor of integers is stored word by word, whatever the words. -/
theorem store_words (g : IntFormat) {order : ByteOrder} {shape : List Nat} {words : List g.Word}
    {h : words.length = cellCount shape} (hshape : shape.length ≤ Tensor.maxDimensions) :
    store (.int f) (.tensor ⟨.int g, order, shape, words, h⟩) =
      .ok ((words.map g.value).map f.wrap) := by
  have hwords : (words.map g.value).map f.wrap = words.map fun w => f.wrap (g.value w) :=
    List.map_map
  exact (store_tensor (.int f) hshape).trans (congrArg Except.ok hwords.symm)

/-- Nothing is stored of a tensor of too many dimensions. -/
theorem store_tensor_eq_error {t : ElementType} {u : Tensor}
    (hshape : ¬ u.shape.length ≤ Tensor.maxDimensions) :
    store t (.tensor u) = Error.fail .badValue := by
  have hgrid : isGrid (.tensor u) = false := decide_eq_false hshape
  unfold store
  rw [if_pos (by rw [hgrid]; exact Bool.false_ne_true)]

/-- Integers that are taken are stored as their low bits, and others are not stored. -/
theorem store_givesIntegers (hbytes : 0 < f.byteCount) {data : Value}
    (h : GivesIntegers data is) :
    (store (.int f) data).SucceedsWhen (f.Takes data is) (· = is.map f.wrap) := by
  cases h with
  | @list vs is hvs =>
      have htakes : f.Takes (.list vs) is ↔ ∀ i ∈ is, f.Admits i := by
        constructor
        · rintro (⟨t, ht, -⟩ | ⟨-, hall⟩)
          · cases ht
          · exact hall
        · intro hall
          exact .inr ⟨⟨vs, rfl⟩, hall⟩
      rw [htakes, store_integers hbytes hvs]
      constructor
      · intro hall
        exact ⟨_, if_pos hall, rfl⟩
      · intro hrest
        exact ⟨_, if_neg hrest⟩
  | tensor g order shape words hlength =>
      constructor
      · rintro (⟨t, ht, hshape⟩ | ⟨⟨vs, hvs⟩, -⟩)
        · cases ht
          exact ⟨_, store_words g hshape, rfl⟩
        · cases hvs
      · intro hrest
        exact ⟨_, store_tensor_eq_error fun hshape => hrest (.inl ⟨_, rfl, hshape⟩)⟩

end Cells

/-! ## Scalars and columns of an integer kind -/

theorem NumericKind.byteCount_pos {kind : NumericKind} {f : IntFormat}
    (hkind : kind.elementType = .int f) : 0 < f.byteCount := by
  cases kind with
  | long | int => cases hkind; decide
  | bool | float | double => cases hkind

namespace ScalarField

variable {kind : NumericKind} {f : IntFormat} {is : List Int}

/-- Scalars of an integer kind are made of words. -/
theorem ofValues_words (hkind : kind.elementType = .int f) {data : Value} {taken : Prop}
    {words : List f.Word} (h : (Cells.store (.int f) data).SucceedsWhen taken (· = words)) :
    (ofValues (.numeric kind) data).SucceedsWhen taken (·.Holds kind (words.map f.value)) := by
  cases kind with
  | long | int =>
      cases hkind
      constructor
      · intro htaken
        obtain ⟨_, hstored, rfl⟩ := h.ok htaken
        exact ⟨_, Outcome.bind_eq_ok.mpr ⟨_, hstored, rfl⟩, _, rfl, List.map_map.symm⟩
      · intro hrest
        obtain ⟨e, he⟩ := h.error hrest
        exact ⟨e, Outcome.bind_eq_error.mpr (.inl he)⟩
  | bool | float | double => cases hkind

/-- Scalars of an integer kind hold the low bits of the integers that they are given. -/
theorem ofValues_integers (hkind : kind.elementType = .int f) {data : Value}
    (h : GivesIntegers data is) :
    (ofValues (.numeric kind) data).SucceedsWhen (f.Takes data is)
      (·.Holds kind (is.map f.lowBits)) := by
  have hwords : (is.map f.wrap).map f.value = is.map f.lowBits := List.map_map
  rw [← hwords]
  exact ofValues_words hkind (Cells.store_givesIntegers (NumericKind.byteCount_pos hkind) h)

/-- Scalars hold only one list of integers. -/
theorem Holds.unique {s : ScalarField} {js : List Int} (his : s.Holds kind is)
    (hjs : s.Holds kind js) : is = js := by
  obtain ⟨cells, rfl, hcells⟩ := his
  obtain ⟨_, heq, hothers⟩ := hjs
  cases heq
  exact List.map_injective_iff.mpr (Option.some_injective Int) (hcells.symm.trans hothers)

/-- Scalars that hold the low bits of integers hold the integers if all of them are in range. -/
theorem Holds.lowBits_iff (hbytes : 0 < f.byteCount) {s : ScalarField}
    (h : s.Holds kind (is.map f.lowBits)) : s.Holds kind is ↔ ∀ i ∈ is, f.Admits i := by
  rw [← IntFormat.map_lowBits_eq_iff hbytes]
  constructor
  · intro his
    exact h.unique his
  · intro hsame
    rwa [hsame] at h

end ScalarField

namespace FieldData

variable {kind : NumericKind} {f : IntFormat} {is : List Int}

theorem Holds.lowBits_iff (hbytes : 0 < f.byteCount) {c : FieldData}
    (h : c.Holds kind (is.map f.lowBits)) : c.Holds kind is ↔ ∀ i ∈ is, f.Admits i := by
  obtain ⟨s, hs, hholds⟩ := h
  constructor
  · rintro ⟨_, hother, his⟩
    cases hs.symm.trans hother
    exact (hholds.lowBits_iff hbytes).mp his
  · intro hall
    exact ⟨s, hs, (hholds.lowBits_iff hbytes).mpr hall⟩

end FieldData

section

variable [OtherArrays]

namespace ColumnDocument

variable {kind : NumericKind} {f : IntFormat} {is : List Int} {d : ColumnDocument}

/-- A document that gives integers becomes the column that stores their tensor. -/
theorem GivesIntegers.toFieldData_eq (h : d.GivesIntegers kind is) :
    ∃ t, VectorRequests.GivesIntegers (.tensor t) is ∧ t.shape.length ≤ Tensor.maxDimensions ∧
      d.toFieldData = do
        let s ← ScalarField.ofValues (.numeric kind) (.tensor t)
        let type ← Document.member .dataType DataType.ofName? d.type
        return ⟨.text d.name, type, .scalars s⟩ := by
  obtain ⟨s, n, t, hs, hkind, hn, ht, hgives⟩ := h
  refine ⟨t, hgives, (TensorDocument.of_toTensor ht).2, ?_⟩
  have harray : Document.arrayOf (.text d.name) n = .ok (.inl t) :=
    TensorDocument.arrayOf_eq_ok_iff.mpr (TensorDocument.toArray_of_toTensor ht)
  unfold toFieldData readPayload readScalars Document.member
  simp only [hs, hkind, hn, harray, Document.storeArray, ScalarField.ofValues, Outcome.ok_bind,
    bind_assoc, pure_bind]

/-- A column of integers holds the low bits of what its document gives, if its type is known. -/
theorem toFieldData_integers (hkind : kind.elementType = .int f) (h : d.GivesIntegers kind is) :
    d.toFieldData.SucceedsWhen (∃ type, DataType.ofName? d.type = some type)
      (·.Holds kind (is.map f.lowBits)) := by
  obtain ⟨t, hgives, hshape, heq⟩ := h.toFieldData_eq
  obtain ⟨s, hs, hholds⟩ := (ScalarField.ofValues_integers hkind hgives).ok (.inl ⟨t, rfl, hshape⟩)
  rw [heq, hs, Outcome.ok_bind]
  unfold Document.member
  constructor
  · rintro ⟨type, htype⟩
    rw [htype]
    exact ⟨_, rfl, s, rfl, hholds⟩
  · intro hnone
    rw [Option.eq_none_iff_forall_not_mem.mpr fun type htype => hnone ⟨type, htype⟩]
    exact ⟨_, rfl⟩

end ColumnDocument

/-- Integers come through as they are, except for those of a tensor of which one is out of the
range of the kind. There the column holds the low bits of each. -/
theorem NumericKind.integers_kept_iff {kind : NumericKind} {f : IntFormat}
    (hkind : kind.elementType = .int f) :
    (∀ data is, GivesIntegers data is →
      ((∃ s, ScalarField.ofValues (.numeric kind) data = .ok s) ↔ f.Takes data is) ∧
      (∀ s, ScalarField.ofValues (.numeric kind) data = .ok s → s.Holds kind (is.map f.lowBits)) ∧
      ((∀ s, ScalarField.ofValues (.numeric kind) data = .ok s → s.Holds kind is) ↔
        ¬ (IsTensor data ∧ ∃ i ∈ is, ¬ f.Admits i))) ∧
    ∀ (d : ColumnDocument) is, d.GivesIntegers kind is →
      ((∃ c, d.toFieldData = .ok c) ↔ ∃ type, DataType.ofName? d.type = some type) ∧
      (∀ c, d.toFieldData = .ok c → c.Holds kind (is.map f.lowBits)) ∧
      ((∀ c, d.toFieldData = .ok c → c.Holds kind is) ↔
        ¬ ((∃ type, DataType.ofName? d.type = some type) ∧ ∃ i ∈ is, ¬ f.Admits i)) := by
  have hbytes := NumericKind.byteCount_pos hkind
  constructor
  · intro data is hdata
    have hstored := ScalarField.ofValues_integers hkind hdata
    refine ⟨hstored.exists_iff, fun s hs => hstored.of_eq_ok hs, ?_⟩
    rw [hstored.forall_iff fun s hs => hs.lowBits_iff hbytes]
    constructor
    · rintro hall ⟨htensor, i, hi, hout⟩
      exact hout (hall (.inl htensor) i hi)
    · rintro hnone (htensor | ⟨-, hall⟩) i hi
      · by_contra hout
        exact hnone ⟨htensor, i, hi, hout⟩
      · exact hall i hi
  · intro d is hd
    have hread := ColumnDocument.toFieldData_integers hkind hd
    refine ⟨hread.exists_iff, fun c hc => hread.of_eq_ok hc, ?_⟩
    rw [hread.forall_iff fun c hc => hc.lowBits_iff hbytes]
    constructor
    · rintro hall ⟨htype, i, hi, hout⟩
      exact hout (hall htype i hi)
    · intro hnone htype i hi
      by_contra hout
      exact hnone ⟨htype, i, hi, hout⟩

end

/-! ### Numbers within 32 bits, and one beyond -/

section

attribute [local instance] OtherArrays.absent

/-- The document of a column of 32 bits whose numbers are given in 64. -/
def ColumnDocument.counts (words : List IntFormat.int64.Word) : ColumnDocument where
  name := "count"
  type := "INT32"
  scalars := some ⟨"INT_DATA", some (.ofTensor (.flat (.int .int64) words)), none⟩
  vectors := none

theorem ColumnDocument.givesIntegers_counts (words : List IntFormat.int64.Word) :
    (counts words).GivesIntegers .int (words.map IntFormat.int64.value) :=
  ⟨_, _, _, rfl, ScalarKind.ofName?_name (.numeric .int), rfl, TensorDocument.toTensor_flat .long _,
    .tensor .int64 .little _ _ _⟩

/-- One and minus two come through, from a list and from a document. -/
theorem NumericKind.integers_kept_small :
    (∃ s, ScalarField.ofValues (.numeric .int) (.list [.int 1, .int (-2)]) = .ok s ∧
      s.Holds .int [1, -2]) ∧
    ∃ c, (ColumnDocument.counts [1, -2]).toFieldData = .ok c ∧ c.Holds .int [1, -2] := by
  have hkind : NumericKind.int.elementType = .int .int32 := rfl
  obtain ⟨hscalars, hcolumn⟩ := NumericKind.integers_kept_iff hkind
  have hall : ∀ i ∈ [(1 : Int), -2], IntFormat.int32.Admits i := by decide
  constructor
  · obtain ⟨hok, -, hkept⟩ := hscalars (.list [.int 1, .int (-2)]) [1, -2]
      (.list (.cons rfl (.cons rfl .nil)))
    obtain ⟨s, hs⟩ := hok.mpr (.inr ⟨⟨_, rfl⟩, hall⟩)
    refine ⟨s, hs, hkept.mpr ?_ s hs⟩
    rintro ⟨-, i, hi, hout⟩
    exact hout (hall i hi)
  · obtain ⟨hok, -, hkept⟩ := hcolumn (.counts [1, -2]) [1, -2]
      (ColumnDocument.givesIntegers_counts [1, -2])
    obtain ⟨c, hc⟩ := hok.mpr ⟨.int32, DataType.ofName?_name .int32⟩
    refine ⟨c, hc, hkept.mpr ?_ c hc⟩
    rintro ⟨-, i, hi, hout⟩
    exact hout (hall i hi)

/-- Two to the power of 31 is an overflow in a list, and changes its sign in a tensor and in a
document. -/
theorem NumericKind.beyond_int32 :
    ScalarField.ofValues (.numeric .int) (.list [.int (2 ^ 31)]) = Error.fail .overflow ∧
    (∃ s, ScalarField.ofValues (.numeric .int)
        (.tensor (.flat (.int .int64) [IntFormat.int64.wrap (2 ^ 31)])) = .ok s ∧
      s.Holds .int [-2 ^ 31] ∧ ¬ s.Holds .int [2 ^ 31]) ∧
    ∃ c, (ColumnDocument.counts [IntFormat.int64.wrap (2 ^ 31)]).toFieldData = .ok c ∧
      c.Holds .int [-2 ^ 31] ∧ ¬ c.Holds .int [2 ^ 31] := by
  have hbeyond : ¬ ∀ i ∈ [(2 : Int) ^ 31], IntFormat.int32.Admits i := by decide
  have hkind : NumericKind.int.elementType = .int .int32 := rfl
  have hbytes := NumericKind.byteCount_pos hkind
  refine ⟨rfl, ?_, ?_⟩
  · have hgives : GivesIntegers
        (.tensor (.flat (.int .int64) [IntFormat.int64.wrap (2 ^ 31)])) [2 ^ 31] :=
      .tensor .int64 .little [1] [IntFormat.int64.wrap (2 ^ 31)] rfl
    obtain ⟨s, hs, hholds⟩ :=
      (ScalarField.ofValues_integers hkind hgives).ok (.inl ⟨_, rfl, by decide⟩)
    exact ⟨s, hs, hholds, mt (hholds.lowBits_iff hbytes).mp hbeyond⟩
  · have hgives : (ColumnDocument.counts [IntFormat.int64.wrap (2 ^ 31)]).GivesIntegers .int
        [2 ^ 31] := ColumnDocument.givesIntegers_counts _
    obtain ⟨c, hc, hholds⟩ :=
      (ColumnDocument.toFieldData_integers hkind hgives).ok ⟨.int32, DataType.ofName?_name .int32⟩
    exact ⟨c, hc, hholds, mt (hholds.lowBits_iff hbytes).mp hbeyond⟩

end

end VectorRequests
