/-
# The last write of each attribute counts

What a draft holds for an attribute is decided by the last step that puts a content there and
the steps that extend it after that. Steps on different attributes commute. So a parameter
depends on nothing else about the steps it is drafted by, and is the one that the constructor
of its record gives for the contents that have been written.
-/

import VectorRequests.Proofs.Draft.Observation

namespace VectorRequests

namespace Draft

/-- The part of a list from the last entry on that has a property; all of it, if none has. -/
def sinceLast {α : Type} (p : α → Bool) : List α → List α
  | [] => []
  | x :: xs => if xs.any p then sinceLast p xs else x :: xs

namespace Drafting.Account

variable {D : Drafting} (A : D.Account)

/-- The steps that edit an attribute. -/
def stepsOn (a : A.Attribute) (steps : List D.Step) : List D.Step :=
  steps.filter fun s => A.key s = a

/-- Whether a step replaces the content of its attribute as a whole. -/
def replaces (s : D.Step) : Bool :=
  (A.edit s).isPut

/-- The steps that decide on an attribute: the last one that replaces its content, and those
that extend it after that. -/
def decisive (a : A.Attribute) (steps : List D.Step) : List D.Step :=
  sinceLast A.replaces (A.stepsOn a steps)

/-- The content that edits leave, one after the other. -/
def edited (old : Option Value) (steps : List D.Step) : Option Value :=
  steps.foldl (fun old s => ((A.edit s).apply old).1) old

/-- The content that steps write to an attribute, if they write any. -/
def written (steps : List D.Step) (a : A.Attribute) : Option Value :=
  A.edited none (A.decisive a steps)

variable {A} {d e : D.State} {steps : List D.Step} {a : A.Attribute}

/-! ## Runs -/

/-- After a run, an attribute holds what the steps on it have left. -/
theorem content_run (h : D.run d steps = .ok e) :
    A.content e a = A.edited (A.content d a) (A.stepsOn a steps) := by
  induction steps generalizing d with
  | nil =>
      cases h
      rfl
  | cons s steps ih =>
      obtain ⟨-, -, hrest⟩ := Outcome.bind_eq_ok.mp h
      rw [ih hrest, A.content_step]
      by_cases ha : A.key s = a
      · subst ha
        rw [Function.update_self, stepsOn, stepsOn, List.filter_cons_of_pos (by simp)]
        rfl
      · rw [Function.update_of_ne (Ne.symm ha), stepsOn, stepsOn,
          List.filter_cons_of_neg (by simpa using ha)]

/-- No step of a run puts a content that fails. -/
theorem exists_of_put (h : D.run d steps = .ok e) {s : D.Step} (hs : s ∈ steps)
    {content : Source} (hput : A.edit s = .put content) : ∃ v, content.make = .ok v := by
  induction steps generalizing d with
  | nil => cases hs
  | cons t steps ih =>
      obtain ⟨⟨⟩, hout, hrest⟩ := Outcome.bind_eq_ok.mp h
      obtain rfl | hs := List.mem_cons.mp hs
      · rw [A.outcome_step, hput, Edit.apply] at hout
        split at hout
        next v hv => exact ⟨v, hv⟩
        · cases hout
      · exact ih hrest hs

/-- One more step, after a run. -/
theorem run_concat (h : D.run d steps = .ok e) {s : D.Step} (hs : (D.step e s).2 = .ok ()) :
    D.run d (steps ++ [s]) = .ok (D.step e s).1 := by
  induction steps generalizing d with
  | nil =>
      cases h
      rw [List.nil_append, run, hs]
      rfl
  | cons t steps ih =>
      obtain ⟨⟨⟩, hout, hrest⟩ := Outcome.bind_eq_ok.mp h
      rw [List.cons_append, run, hout]
      exact ih hrest

/-! ## The steps that decide -/

/-- Steps that only put contents that do not fail. -/
def Succeed (A : D.Account) (steps : List D.Step) : Prop :=
  ∀ s ∈ steps, ∀ content, A.edit s = .put content → ∃ v, content.make = .ok v

/-- Nothing is left of the old content after one has been put. -/
theorem edited_eq_of_any (h : A.Succeed steps) (hput : steps.any A.replaces = true)
    (old new : Option Value) : A.edited old steps = A.edited new steps := by
  induction steps generalizing old new with
  | nil => cases hput
  | cons s steps ih =>
      obtain ⟨hs, hrest⟩ := List.forall_mem_cons.mp h
      rw [edited, edited, List.foldl_cons, List.foldl_cons]
      -- Either a later step puts a content, or this one does.
      by_cases hlater : steps.any A.replaces = true
      · exact ih hrest hlater _ _
      · have hnow : (A.edit s).isPut = true := by
          rw [List.any_cons, Bool.or_eq_true] at hput
          exact hput.resolve_right hlater
        cases hedit : A.edit s with
        | put content =>
            obtain ⟨v, hv⟩ := hs content hedit
            rw [Edit.apply, Edit.apply, hv]
        | append item =>
            rw [hedit] at hnow
            cases hnow
        | enter key value =>
            rw [hedit] at hnow
            cases hnow

/-- Only the steps that decide count. The induction is on the steps on one attribute. -/
theorem edited_sinceLast (h : A.Succeed steps) (old : Option Value) :
    A.edited old (sinceLast A.replaces steps) = A.edited old steps := by
  induction steps generalizing old with
  | nil => rfl
  | cons s steps ih =>
      obtain ⟨-, hrest⟩ := List.forall_mem_cons.mp h
      rw [sinceLast]
      split
      · next hput =>
          rw [ih hrest]
          exact edited_eq_of_any hrest hput _ _
      · rfl

/-- The steps of a run put no content that fails. -/
theorem succeed_stepsOn (h : D.run d steps = .ok e) (a : A.Attribute) :
    A.Succeed (A.stepsOn a steps) := by
  intro s hs content hedit
  exact exists_of_put h (List.mem_of_mem_filter hs) hedit

/-- After a run that starts from nothing, an attribute holds what the steps that decide on it
have written. -/
theorem content_eq_written (h : D.run D.empty steps = .ok d) (a : A.Attribute) :
    A.content d a = A.written steps a := by
  rw [content_run h, A.content_empty, written, decisive, edited_sinceLast (succeed_stepsOn h a)]

/-- An attribute that no step edits is missing. -/
theorem written_eq_none (h : ∀ s ∈ steps, A.key s ≠ a) : A.written steps a = none := by
  have hnone : A.stepsOn a steps = [] := by
    rw [stepsOn, List.filter_eq_nil_iff]
    intro s hs
    simpa using h s hs
  rw [written, decisive, hnone]
  rfl

/-- After a run, an attribute that a step has edited is not missing. -/
theorem exists_content_run (h : D.run d steps = .ok e)
    (ha : (∃ v, A.content d a = some v) ∨ ∃ s ∈ steps, A.key s = a) :
    ∃ v, A.content e a = some v := by
  induction steps generalizing d with
  | nil =>
      cases h
      obtain hv | ⟨s, hs, -⟩ := ha
      · exact hv
      · cases hs
  | cons s steps ih =>
      obtain ⟨⟨⟩, hout, hrest⟩ := Outcome.bind_eq_ok.mp h
      refine ih hrest ?_
      rw [A.content_step]
      by_cases hkey : A.key s = a
      · subst hkey
        rw [A.outcome_step] at hout
        rw [Function.update_self]
        obtain ⟨v, hv, -⟩ := Edit.stores_of_apply hout
        exact .inl ⟨v, hv⟩
      · rw [Function.update_of_ne (Ne.symm hkey)]
        obtain hv | ⟨t, ht, hta⟩ := ha
        · exact .inl hv
        · obtain rfl | ht := List.mem_cons.mp ht
          · exact absurd hta hkey
          · exact .inr ⟨t, ht, hta⟩

/-- Steps on different attributes commute: neither takes notice of the other. -/
theorem step_comm {s t : D.Step} (h : A.key s ≠ A.key t) (d : D.State) :
    (D.step (D.step d s).1 t).1 = (D.step (D.step d t).1 s).1 ∧
      (D.step (D.step d s).1 t).2 = (D.step d t).2 := by
  have hs : A.content (D.step d s).1 (A.key t) = A.content d (A.key t) := by
    rw [A.content_step, Function.update_of_ne h.symm]
  have ht : A.content (D.step d t).1 (A.key s) = A.content d (A.key s) := by
    rw [A.content_step, Function.update_of_ne h]
  refine ⟨A.content_injective ?_, ?_⟩
  · rw [A.content_step (D.step d s).1 t, A.content_step (D.step d t).1 s, hs, ht,
      A.content_step, A.content_step, Function.update_comm h]
  · rw [A.outcome_step, A.outcome_step, hs]

/-! ## What is constructed -/

namespace Construction

variable {settings : Settings} (C : A.Construction settings)

/-- The contents that some attributes have, under the names of the attributes. -/
def named (content : A.Attribute → Option Value) (attributes : List A.Attribute) :
    List (String × Value) :=
  attributes.filterMap fun a => (content a).map fun v => (C.label a, v)

/-- The contents that steps have written, under the names of their attributes. -/
def given (steps : List D.Step) : List (String × Value) :=
  C.named (A.written steps) C.attributes

variable {C} {content : A.Attribute → Option Value} {attributes : List A.Attribute}

theorem exists_of_mem_named {p : String × Value} (hp : p ∈ C.named content attributes) :
    ∃ b ∈ attributes, p.1 = C.label b := by
  obtain ⟨b, hb, hbp⟩ := List.mem_filterMap.mp hp
  obtain ⟨v, -, rfl⟩ := Option.map_eq_some_iff.mp hbp
  exact ⟨b, hb, rfl⟩

theorem lookup_named_of_not_mem (ha : a ∉ attributes) :
    (C.named content attributes).lookup (C.label a) = none := by
  rw [List.lookup_eq_none_iff]
  intro p hp
  obtain ⟨b, hb, hname⟩ := exists_of_mem_named hp
  refine bne_iff_ne.mpr fun hsame => ha ?_
  rwa [C.label_injective (hsame.trans hname)]

/-- A content is found under the name of its attribute. -/
theorem lookup_named (ha : a ∈ attributes) :
    (C.named content attributes).lookup (C.label a) = content a := by
  induction attributes with
  | nil => cases ha
  | cons b attributes ih =>
      cases hb : content b with
      | some v =>
          have hcons : C.named content (b :: attributes) =
              (C.label b, v) :: C.named content attributes :=
            List.filterMap_cons_some (by rw [hb]; rfl)
          rw [hcons, List.lookup_cons]
          by_cases hab : a = b
          · subst hab
            rw [beq_self_eq_true, hb]
          · have hlabel : (C.label a == C.label b) = false :=
              beq_false_of_ne fun hsame => hab (C.label_injective hsame)
            rw [hlabel]
            exact ih ((List.mem_cons.mp ha).resolve_left hab)
      | none =>
          have hskip : C.named content (b :: attributes) = C.named content attributes :=
            List.filterMap_cons_none (by rw [hb]; rfl)
          rw [hskip]
          by_cases hrest : a ∈ attributes
          · exact ih hrest
          · obtain rfl := (List.mem_cons.mp ha).resolve_right hrest
            rw [lookup_named_of_not_mem hrest, hb]

theorem lookup_given : (C.given steps).lookup (C.label a) = A.written steps a :=
  lookup_named (C.mem_attributes a)

/-- An attribute that is not given takes its default. -/
theorem fill_eq {given : List (String × Value)} {w : A.Attribute → Value}
    (hw : (given.lookup (C.label a)).or (C.default a) = some (w a)) :
    Constructor.fill given ⟨C.label a, C.default a⟩ = .ok (C.label a, w a) := by
  rw [Constructor.fill]
  cases hgiven : given.lookup (C.label a) with
  | some v =>
      rw [hgiven, Option.some_or] at hw
      rw [Option.some.inj hw]
  | none =>
      rw [hgiven, Option.none_or] at hw
      rw [hw]

/-- The constructor of the record makes it of what is given and the defaults. -/
theorem apply_given {w : A.Attribute → Value}
    (hw : ∀ a, (A.written steps a).or (C.default a) = some (w a)) (handle : Nat) :
    Constructor.apply handle settings (.record C.record) (C.given steps) =
      Constructor.ofRecord C.record (C.attributes.map fun a => (C.label a, w a)) := by
  have hslots : Constructor.slots settings (.record C.record) =
      C.attributes.map fun a => ⟨C.label a, C.default a⟩ := C.slots_eq
  have hknown : ((C.given steps).all fun p =>
      (C.attributes.map fun a => Slot.mk (C.label a) (C.default a)).any (·.name = p.1)) = true := by
    rw [List.all_eq_true]
    intro p hp
    obtain ⟨a, ha, hname⟩ := exists_of_mem_named hp
    rw [List.any_eq_true]
    exact ⟨_, List.mem_map_of_mem ha, decide_eq_true hname.symm⟩
  have hfill : (C.attributes.map fun a => Slot.mk (C.label a) (C.default a)).mapM
      (Constructor.fill (C.given steps)) = .ok (C.attributes.map fun a => (C.label a, w a)) := by
    rw [Outcome.mapM_eq_ok_iff, List.forall₂_map_left_iff, List.forall₂_map_right_iff,
      List.forall₂_same]
    intro a _
    exact fill_eq (by rw [lookup_given, hw])
  rw [Constructor.apply, hslots, if_pos hknown, hfill, Outcome.ok_bind]

/-! ## What is built -/

/-- Where all is written that must be given, each attribute has a content or a default. -/
theorem exists_content_or_default {C : A.Construction settings} {steps : List D.Step}
    {d : D.State} (hd : D.run D.empty steps = .ok d)
    (hgiven : ∀ a, C.default a = none → ∃ s ∈ steps, A.key s = a) (a : A.Attribute) :
    ∃ v, (A.content d a).or (C.default a) = some v := by
  cases hdefault : C.default a with
  | some v => exact ⟨_, Option.or_some⟩
  | none =>
      obtain ⟨v, hv⟩ := exists_content_run hd (.inr (hgiven a hdefault))
      exact ⟨v, by rw [hv, Option.some_or]⟩

/-- What a parameter that is drafted depends on. -/
structure LastWriteWins (C : A.Construction settings) : Prop where
  /-- A step that goes well stores in its attribute what it is given, and leaves the others. -/
  stored : ∀ {d s}, (D.step d s).2 = .ok () →
    ∃ v, A.content (D.step d s).1 = Function.update (A.content d) (A.key s) (some v) ∧
      (A.edit s).Stores (A.content d (A.key s)) v
  /-- After a run, each attribute holds what the steps that decide on it have written. -/
  held : ∀ {steps d}, D.run D.empty steps = .ok d → A.content d = A.written steps
  /-- Two runs build the same, if in both the same steps decide on each attribute. -/
  decided : ∀ {steps steps' d d'}, D.run D.empty steps = .ok d → D.run D.empty steps' = .ok d' →
    (∀ a, A.decisive a steps = A.decisive a steps') → (D.build d).2 = (D.build d').2
  /-- Steps on different attributes commute. -/
  commute : ∀ {s t}, A.key s ≠ A.key t → ∀ d,
    (D.step (D.step d s).1 t).1 = (D.step (D.step d t).1 s).1 ∧
      (D.step (D.step d s).1 t).2 = (D.step d t).2
  /-- A draft with all that must be given is built as its record is constructed. -/
  constructed : ∀ {steps d}, D.run D.empty steps = .ok d →
    (∀ a, C.default a = none → ∃ s ∈ steps, A.key s = a) → ∀ handle,
      (D.build d).2.map C.toValue =
        Constructor.apply handle settings (.record C.record) (C.given steps)
  /-- What is not written is as if its default had been. -/
  defaulted : ∀ {steps d}, D.run D.empty steps = .ok d → ∀ {a v}, C.default a = some v →
    (∀ s ∈ steps, A.key s ≠ a) →
      ∃ d', D.run D.empty (steps ++ [C.setter a v]) = .ok d' ∧ (D.build d').2 = (D.build d).2
  /-- A draft without what must be given is refused, if the refusal can be told. -/
  refused : ∀ {steps d}, D.run D.empty steps = .ok d → ∀ {a}, C.default a = none →
    (∀ s ∈ steps, A.key s ≠ a) → (D.build d).2.IsRefused ∨
      C.IsUntold (A.written steps) ∧ (D.build d).2 = .error (.failed .badValue)

theorem lastWriteWins (C : A.Construction settings) : C.LastWriteWins where
  stored {d s} h := by
    rw [A.outcome_step] at h
    obtain ⟨v, hv, hstores⟩ := Edit.stores_of_apply h
    exact ⟨v, by rw [A.content_step, hv], hstores⟩
  held hd := funext (content_eq_written hd)
  decided {steps steps' d d'} hd hd' hsame := by
    have hcontent : A.content d = A.content d' := by
      funext a
      rw [content_eq_written hd, content_eq_written hd', written, written, hsame]
    rw [A.content_injective hcontent]
  commute h d := step_comm h d
  constructed {steps d} hd hgiven handle := by
    choose w hw using exists_content_or_default hd hgiven
    rw [C.build_eq d w hw, apply_given (w := w)]
    intro a
    rw [← content_eq_written hd, hw]
  defaulted {steps d} hd a v hdefault hmissing := by
    obtain ⟨w, content, husual, hedit, hmake⟩ := C.edit_setter a v hdefault
    have hkey := C.key_setter a v
    have hnone : A.content d a = none := by
      rw [content_eq_written hd, written_eq_none hmissing]
    have hout : (D.step d (C.setter a v)).2 = .ok () := by
      rw [A.outcome_step, hedit, Edit.apply, hmake]
    refine ⟨_, run_concat hd hout, Alike.build (A := A) (alike_iff.mpr fun b => ?_)⟩
    rw [A.content_step, hkey, hedit, Edit.apply, hmake]
    by_cases hb : b = a
    · subst hb
      rw [Function.update_self, hnone, husual]
      rfl
    · rw [Function.update_of_ne hb]
  refused {steps d} hd a hdefault hmissing := by
    have hnone : A.content d a = none := by
      rw [content_eq_written hd, written_eq_none hmissing]
    rw [← funext (content_eq_written hd)]
    exact C.build_incomplete d a (isSound_run isSound_empty hd) hdefault hnone

end Construction

end Drafting.Account

end Draft

namespace DraftKind

/-- A field type that is given another name before it is built. -/
def renamingSteps : List (drafting {} fieldType).Step :=
  [FieldTypeDraft.Step.name (.text "key"), FieldTypeDraft.Step.dataType (.dataType .int64),
    FieldTypeDraft.Step.name idName.toValue]

/-- The draft that these steps leave. -/
def renamedDraft : FieldTypeDraft :=
  { name := some idName.toValue, dataType := some (.dataType .int64) }

theorem given_renamingSteps : (construction {} fieldType).given renamingSteps =
    [("name", idName.toValue), ("data_type", .dataType .int64)] :=
  rfl

end DraftKind

end VectorRequests
