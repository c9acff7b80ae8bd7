/-
# The payload of a document

A document of a column has room for four payloads, and only one of them is ever read: scalars
before vectors, floats before packed bytes, and of scalars the form that their kind calls for.
The others are dropped, and strings that are not there are read as none. What is read is the
essential part of a document. It has one payload at each level, all of which is in the column
that it becomes; a document loses nothing exactly if it is its own essential part.
-/

import VectorRequests.Proofs.Document.Conversion

namespace VectorRequests

/-! ## What is read of a document -/

/-- The form of the scalars that their kind calls for. -/
def ScalarsDocument.essential (d : ScalarsDocument) : ScalarsDocument :=
  match ScalarKind.ofName? d.kind with
  | some .string => { d with numeric := none, strings := some (d.strings.getD []) }
  | _ => { d with strings := none }

/-- The form of the vectors that is read. -/
def VectorsDocument.essential (d : VectorsDocument) : VectorsDocument :=
  match d.floatVector with
  | some _ => { d with binaryVector := none }
  | none => d

/-- The document without any payload that is not read. -/
def ColumnDocument.essential (d : ColumnDocument) : ColumnDocument :=
  match d.scalars with
  | some scalars => { d with scalars := some scalars.essential, vectors := none }
  | none => { d with vectors := d.vectors.map VectorsDocument.essential }

namespace ColumnDocument

theorem essential_type (d : ColumnDocument) : d.essential.type = d.type := by
  unfold essential
  split <;> rfl

theorem essential_name (d : ColumnDocument) : d.essential.name = d.name := by
  unfold essential
  split <;> rfl

end ColumnDocument

/-- What is left unread is not what exceeds the range of single floats. -/
theorem ScalarsDocument.exceeds_essential {d : ScalarsDocument} :
    d.essential.Exceeds ↔ d.Exceeds := by
  unfold essential Exceeds
  cases hkind : ScalarKind.ofName? d.kind with
  | none => simp only [hkind]
  | some kind =>
      cases kind with
      | string => simp [hkind]
      | numeric kind => simp only [hkind]

theorem VectorsDocument.exceeds_essential {d : VectorsDocument} :
    d.essential.Exceeds ↔ d.Exceeds := by
  unfold essential Exceeds
  split <;> rfl

theorem ColumnDocument.exceeds_essential {d : ColumnDocument} :
    d.essential.Exceeds ↔ d.Exceeds := by
  unfold essential Exceeds
  cases d.scalars with
  | some scalars => simp [ScalarsDocument.exceeds_essential]
  | none => cases d.vectors <;> simp [VectorsDocument.exceeds_essential]

namespace Document

variable {column : Value}

theorem of_member {α : Type} {vocabulary : Vocabulary} {ofName? : String → Option α}
    {name : String} {a : α} (h : member vocabulary ofName? name = .ok a) :
    ofName? name = some a := by
  unfold member at h
  split at h
  next found hfound =>
    cases h
    exact hfound
  next => cases h

theorem of_bytesOf {text : String} {bs : List UInt8} (h : bytesOf column text = .ok bs) :
    Base64.decode true text = .ok bs := by
  unfold bytesOf at h
  split at h
  next found hfound =>
    cases h
    exact hfound
  next => cases h

end Document

/-! ## Tensors of documents as cells -/

namespace Cells

/-- The cells that a tensor is stored as are its cells, converted. -/
theorem eq_of_store_tensor {t : ElementType} {u : Tensor} {cells : List t.Cell}
    (hshape : u.shape.length ≤ Tensor.maxDimensions) (h : store t (.tensor u) = .ok cells) :
    cells = u.cells.map (u.type.cast t) := by
  rw [store_tensor t hshape] at h
  obtain ⟨-, -, hcells⟩ := Outcome.bind_eq_ok.mp h
  cases hcells
  rfl

/-- A documented tensor is stored as its cells, converted, where it does not exceed the range of
single floats that it is to be stored as. -/
theorem store_documented (kind : NumericKind) {n : TensorDocument} {t : Tensor}
    (hread : n.toTensor = .ok t) (hfits : ¬ (kind = .float ∧ n.Exceeds)) :
    store kind.elementType (.tensor t) = .ok (t.cells.map (t.type.cast kind.elementType)) := by
  obtain ⟨htype, hshape⟩ := TensorDocument.of_toTensor hread
  have hstored : ∃ cells, store kind.elementType (.tensor t) = .ok cells := by
    by_cases hkind : kind = .float
    · subst hkind
      refine (store_tensor_single htype hshape).2 ?_
      intro hexceeds
      exact hfits ⟨rfl, t, hread, hexceeds⟩
    · exact store_tensor_of_ne_single hkind hshape
  obtain ⟨cells, hcells⟩ := hstored
  rw [hcells, eq_of_store_tensor hshape hcells]

end Cells

/-! ## Documents and what is read of them -/

section

variable [OtherArrays]

namespace ColumnDocument

theorem readScalars_essential (column : Value) (d : ScalarsDocument) :
    readScalars column d.essential = readScalars column d := by
  unfold ScalarsDocument.essential
  cases hkind : ScalarKind.ofName? d.kind with
  | none => simp only [readScalars, Document.member, hkind]; rfl
  | some kind =>
      cases kind with
      | string => simp only [readScalars, Document.member, hkind, Outcome.ok_bind, Option.getD_some]
      | numeric kind =>
          simp only [readScalars, Document.member, hkind, Outcome.ok_bind]
          cases d.numeric <;> rfl

theorem readVectors_essential (column : Value) (d : VectorsDocument) :
    readVectors column d.essential = readVectors column d := by
  unfold VectorsDocument.essential
  cases hfloats : d.floatVector with
  | some components => simp only [readVectors, hfloats]
  | none => rfl

/-- A document and its essential part become the same column, or fail alike. -/
theorem toFieldData_essential (d : ColumnDocument) :
    d.essential.toFieldData = d.toFieldData := by
  have hpayload : d.essential.readPayload = d.readPayload := by
    unfold readPayload
    rw [essential_name]
    unfold essential
    cases d.scalars with
    | some scalars => simp only [readScalars_essential]
    | none =>
        cases d.vectors with
        | some vectors => simp only [Option.map_some, readVectors_essential]
        | none => rfl
  unfold toFieldData
  rw [hpayload, essential_name, essential_type]

end ColumnDocument

/-! ## Documents with one payload -/

/-- The numbers of a documented array as cells of a kind: those of a tensor are converted one by
one, and those of an array of another element type are stored by the array library. -/
inductive TensorDocument.Gives (d : TensorDocument) (kind : NumericKind) :
    List kind.elementType.Cell → Prop
  | tensor {t : Tensor} (hread : d.toTensor = .ok t) :
      Gives d kind (t.cells.map (t.type.cast kind.elementType))
  | other {a : OtherArrays.Array} {cells : List kind.elementType.Cell}
      (hread : d.ReadsOther (.ok a)) (hstore : OtherArrays.store kind.elementType a = .ok cells) :
      Gives d kind cells

/-- A document has exactly one payload at each level, the one that is called for, and a column
holds all of it. -/
inductive CarriesOne : ColumnDocument → FieldData → Prop
  | numbers {name typeName kindName : String} {type : DataType} {kind : NumericKind}
      {n : TensorDocument} {cells : List kind.elementType.Cell}
      (htype : DataType.ofName? typeName = some type)
      (hkind : ScalarKind.ofName? kindName = some (.numeric kind)) (hcells : n.Gives kind cells) :
      CarriesOne ⟨name, typeName, some ⟨kindName, some n, none⟩, none⟩
        ⟨.text name, type, .scalars (.numeric kind cells)⟩
  | strings {name typeName kindName : String} {type : DataType} (texts : List String)
      (htype : DataType.ofName? typeName = some type)
      (hkind : ScalarKind.ofName? kindName = some .string) :
      CarriesOne ⟨name, typeName, some ⟨kindName, none, some texts⟩, none⟩
        ⟨.text name, type, .scalars (.strings (texts.map .text))⟩
  | floats {name typeName : String} {type : DataType} (dim : Int) {n : TensorDocument}
      {cells : List Single} (htype : DataType.ofName? typeName = some type)
      (hcells : n.Gives .float cells) :
      CarriesOne ⟨name, typeName, none, some ⟨dim, some n, none⟩⟩
        ⟨.text name, type, .vectors ⟨.int dim, .floats cells⟩⟩
  | packed {name typeName : String} {type : DataType} (dim : Int) {text : String} {bs : List UInt8}
      (htype : DataType.ofName? typeName = some type) (hbs : Base64.decode true text = .ok bs) :
      CarriesOne ⟨name, typeName, none, some ⟨dim, none, some text⟩⟩
        ⟨.text name, type, .vectors ⟨.int dim, .packed bs⟩⟩

/-- Nothing of a document with one payload is left out. -/
theorem CarriesOne.essential_eq {d : ColumnDocument} {c : FieldData} (h : CarriesOne d c) :
    d.essential = d := by
  cases h with
  | numbers htype hkind hcells =>
      simp only [ColumnDocument.essential, ScalarsDocument.essential, hkind]
  | strings texts htype hkind =>
      simp only [ColumnDocument.essential, ScalarsDocument.essential, hkind, Option.getD_some]
  | floats | packed => rfl

namespace ColumnDocument

open Document

variable {column : Value}

/-- A documented array that is stored as cells of a kind gives these cells. -/
theorem gives_of_store {kind : NumericKind} {n : TensorDocument}
    {cells : List kind.elementType.Cell}
    (h : (do storeArray kind.elementType (← arrayOf column n)) = .ok cells) :
    n.Gives kind cells := by
  obtain ⟨a, harray, hstore⟩ := Outcome.bind_eq_ok.mp h
  have hread := TensorDocument.arrayOf_eq_ok_iff.mp harray
  obtain ⟨t, ht, rfl⟩ | ⟨b, hother, rfl⟩ := TensorDocument.toArray_eq_ok_cases hread
  · cases Cells.eq_of_store_tensor (TensorDocument.of_toTensor ht).2 hstore
    exact .tensor ht
  · exact .other hother hstore

/-- A documented array that gives cells is stored as them, where it does not exceed the range of
single floats that it is to be stored as. -/
theorem store_of_gives (column : Value) {kind : NumericKind} {n : TensorDocument}
    {cells : List kind.elementType.Cell} (h : n.Gives kind cells)
    (hfits : ¬ (kind = .float ∧ n.Exceeds)) :
    (do storeArray kind.elementType (← arrayOf column n)) = .ok cells := by
  cases h with
  | tensor ht =>
      rw [TensorDocument.arrayOf_eq_ok_iff.mpr (TensorDocument.toArray_of_toTensor ht)]
      exact Cells.store_documented kind ht hfits
  | @other a cells hother hstore =>
      rw [TensorDocument.arrayOf_eq_ok_iff.mpr (TensorDocument.toArray_of_readsOther hother)]
      exact hstore

/-- What scalars that were read have been read from. -/
theorem of_readScalars {d : ScalarsDocument} {s : ScalarField}
    (h : readScalars column d = .ok s) :
    (∃ kind n cells, ScalarKind.ofName? d.kind = some (.numeric kind) ∧ d.numeric = some n ∧
        n.Gives kind cells ∧ s = .numeric kind cells) ∨
      (ScalarKind.ofName? d.kind = some .string ∧
        s = .strings ((d.strings.getD []).map .text)) := by
  obtain ⟨kind, hkind, hread⟩ := Outcome.bind_eq_ok.mp h
  cases kind with
  | string =>
      cases hread
      exact .inr ⟨of_member hkind, rfl⟩
  | numeric kind =>
      cases hnumeric : d.numeric with
      | none =>
          rw [hnumeric] at hread
          cases hread
      | some n =>
          rw [hnumeric] at hread
          obtain ⟨a, harray, hvalues⟩ := Outcome.bind_eq_ok.mp hread
          obtain ⟨cells, hstore, hs⟩ := Outcome.bind_eq_ok.mp hvalues
          cases hs
          have hcells := gives_of_store (Outcome.bind_eq_ok.mpr ⟨a, harray, hstore⟩)
          exact .inl ⟨kind, n, cells, of_member hkind, rfl, hcells, rfl⟩

/-- What vectors that were read have been read from. -/
theorem of_readVectors {d : VectorsDocument} {v : VectorField}
    (h : readVectors column d = .ok v) :
    (∃ n cells, d.floatVector = some n ∧ n.Gives .float cells ∧
        v = ⟨.int d.dim, .floats cells⟩) ∨
      (∃ text bs, d.floatVector = none ∧ d.binaryVector = some text ∧
        Base64.decode true text = .ok bs ∧ v = ⟨.int d.dim, .packed bs⟩) := by
  unfold readVectors at h
  split at h
  next _ _ n hfloats =>
    obtain ⟨a, harray, hvalues⟩ := Outcome.bind_eq_ok.mp h
    obtain ⟨cells, hstore, hv⟩ := Outcome.bind_eq_ok.mp hvalues
    cases hv
    have hcells : n.Gives .float cells :=
      gives_of_store (Outcome.bind_eq_ok.mpr ⟨a, harray, hstore⟩)
    exact .inl ⟨n, cells, hfloats, hcells, rfl⟩
  next text hfloats hpacked =>
    obtain ⟨bs, hbs, hv⟩ := Outcome.bind_eq_ok.mp h
    cases hv
    exact .inr ⟨text, bs, hfloats, hpacked, of_bytesOf hbs, rfl⟩
  next => cases h

variable {d : ColumnDocument} {c : FieldData}

/-- What an accepted document says is in its column. -/
theorem carriesOne_essential (h : d.toFieldData = .ok c) : CarriesOne d.essential c := by
  obtain ⟨payload, hpayload, hrest⟩ := Outcome.bind_eq_ok.mp h
  obtain ⟨type, hmember, hc⟩ := Outcome.bind_eq_ok.mp hrest
  cases hc
  have htype := of_member hmember
  obtain ⟨name, typeName, scalars, vectors⟩ := d
  cases scalars with
  | some scalars =>
      obtain ⟨s, hs, hfound⟩ := Outcome.bind_eq_ok.mp hpayload
      cases hfound
      obtain ⟨kindName, numeric, strings⟩ := scalars
      obtain ⟨kind, n, cells, hkind, hn, hcells, rfl⟩ | ⟨hkind, rfl⟩ := of_readScalars hs
      · cases hn
        simp only [essential, ScalarsDocument.essential, hkind]
        exact .numbers htype hkind hcells
      · simp only [essential, ScalarsDocument.essential, hkind]
        exact .strings _ htype hkind
  | none =>
      cases vectors with
      | some vectors =>
          obtain ⟨v, hv, hfound⟩ := Outcome.bind_eq_ok.mp hpayload
          cases hfound
          obtain ⟨dim, floats, packed⟩ := vectors
          obtain ⟨n, cells, hn, hcells, rfl⟩ | ⟨text, bs, hnone, htext, hbs, rfl⟩ :=
            of_readVectors hv
          · cases hn
            exact .floats dim htype hcells
          · cases hnone
            cases htext
            exact .packed dim htype hbs
      | none => cases hpayload

/-- A document with one payload becomes the column that holds it, unless the payload exceeds the
range of single floats. -/
theorem toFieldData_of_carriesOne (h : CarriesOne d c) (hfits : ¬ d.Exceeds) :
    d.toFieldData = .ok c := by
  cases h with
  | @numbers name typeName kindName type kind n cells htype hkind hcells =>
      have hstored := store_of_gives (.text name) hcells (by
        rintro ⟨rfl, hexceeds⟩
        exact hfits (.inl ⟨_, rfl, hkind, n, rfl, hexceeds⟩))
      obtain ⟨a, harray, hstore⟩ := Outcome.bind_eq_ok.mp hstored
      simp only [toFieldData, readPayload, readScalars, member, hkind, harray, hstore, htype,
        Outcome.ok_bind, Outcome.pure_eq_ok]
  | strings texts htype hkind =>
      simp only [toFieldData, readPayload, readScalars, member, hkind, htype, Outcome.ok_bind]
      rfl
  | @floats name typeName type dim n cells htype hcells =>
      have hstored := store_of_gives (.text name) hcells (by
        rintro ⟨-, hexceeds⟩
        exact hfits (.inr ⟨rfl, _, rfl, n, rfl, hexceeds⟩))
      obtain ⟨a, harray, hstore⟩ := Outcome.bind_eq_ok.mp hstored
      have hfloats : storeArray (.float .single) a = .ok cells := hstore
      simp only [toFieldData, readPayload, readVectors, member, harray, hfloats, htype,
        Outcome.ok_bind, Outcome.pure_eq_ok]
      rfl
  | packed dim htype hbs =>
      simp only [toFieldData, readPayload, readVectors, member, bytesOf, hbs, htype,
        Outcome.ok_bind]
      rfl

/-- A document becomes a column exactly if its essential part is all in it, and does not exceed
the range of single floats. So an accepted document is all in its column exactly if it has no
other payload, and the one that its kind calls for is there. -/
theorem carriesOne_iff (d : ColumnDocument) (c : FieldData) :
    (d.toFieldData = .ok c ↔ CarriesOne d.essential c ∧ ¬ d.Exceeds) ∧
      (d.toFieldData = .ok c → (CarriesOne d c ↔ d.essential = d)) := by
  constructor
  · constructor
    · intro h
      refine ⟨carriesOne_essential h, ?_⟩
      intro hexceeds
      cases h.symm.trans ((d.reports_toFieldData .beyondSingle).mpr hexceeds.leaks).1
    · rintro ⟨hcarries, hfits⟩
      rw [← toFieldData_essential]
      exact toFieldData_of_carriesOne hcarries (mt exceeds_essential.mp hfits)
  · intro h
    constructor
    · exact CarriesOne.essential_eq
    · intro hwhole
      rw [← hwhole]
      exact carriesOne_essential h

end ColumnDocument

end

/-! ### Texts alone, and texts beside vectors -/

section

attribute [local instance] OtherArrays.absent

namespace ColumnDocument

/-- A column of one text. -/
def oneText : ColumnDocument where
  name := "name"
  type := "VARCHAR"
  scalars := some ⟨"STRING_DATA", none, some ["a"]⟩
  vectors := none

theorem toFieldData_oneText (vectors : Option VectorsDocument) :
    { oneText with vectors }.toFieldData =
      .ok ⟨.text "name", .varchar, .scalars (.strings [.text "a"])⟩ := by
  rfl

/-- A document of one text becomes a column that carries it. -/
theorem carriesOne_oneText :
    oneText.toFieldData = .ok ⟨.text "name", .varchar, .scalars (.strings [.text "a"])⟩ ∧
      CarriesOne oneText ⟨.text "name", .varchar, .scalars (.strings [.text "a"])⟩ := by
  have haccepted := toFieldData_oneText none
  have hcarries := (carriesOne_iff oneText _).2 haccepted
  exact ⟨haccepted, hcarries.mpr (by rfl)⟩

/-- Vectors beside a text are dropped: the column is the same as without them. -/
theorem drops_vectors_beside_text :
    ∃ c, { oneText with vectors := some ⟨8, none, some "Dw=="⟩ }.toFieldData = .ok c ∧
      oneText.toFieldData = .ok c ∧
      ¬ CarriesOne { oneText with vectors := some ⟨8, none, some "Dw=="⟩ } c := by
  refine ⟨_, toFieldData_oneText _, toFieldData_oneText none, ?_⟩
  intro hcarries
  cases hcarries

end ColumnDocument

end

end VectorRequests
