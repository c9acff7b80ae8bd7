/-
# Drafts as attributes that are edited

All drafts work alike. A draft holds a content for each attribute, and none at first. A step
edits one attribute: it puts a content in the place of the old one, or extends a list or a
mapping, where a missing one counts as empty. Building reads the contents, and takes the usual
one where there is none; it may leave the usual one in the draft.

An account of a kind of drafts says so, attribute by attribute. What follows from it is proved
once for all kinds.
-/

import VectorRequests.Proofs.Draft.Source
import Mathlib.Logic.Function.Basic

namespace VectorRequests.Draft

/-! ## Edits -/

/-- What a step does to the content of an attribute. -/
inductive Edit
  /-- Puts a content in the place of the old one, unless it fails. -/
  | put (content : Source)
  /-- Adds an item to a list, unless it fails. -/
  | append (item : Source)
  /-- Adds an entry to a mapping, unless its value fails. -/
  | enter (key : Value) (value : Source)

/-- The form of a content that can be extended. -/
inductive Shape
  | list
  | mapping

namespace Shape

/-- The content without items or entries. -/
def blank : Shape → Value
  | list => .list []
  | mapping => .mapping []

/-- The contents of a form. -/
inductive Holds : Shape → Value → Prop
  | list (items : List Value) : Holds .list (.list items)
  | mapping (entries : List (Value × Value)) : Holds .mapping (.mapping entries)

theorem holds_blank (shape : Shape) : shape.Holds shape.blank := by
  cases shape with
  | list => exact .list []
  | mapping => exact .mapping []

end Shape

/-- A content that is missing or has the form of its attribute, if that has one. -/
def IsShaped (shape : Option Shape) (content : Option Value) : Prop :=
  ∀ s v, shape = some s → content = some v → s.Holds v

namespace Edit

/-- The content after an edit, and how the edit went. An extension that fails still makes a
missing content an empty one, but nothing is entered for a value that fails. -/
def apply (old : Option Value) : Edit → Option Value × Outcome Unit
  | put content =>
    match content.make with
    | .ok v => (some v, .ok ())
    | .error e => (old, .error e)
  | append item =>
    match item.make with
    | .ok v => (some (.list (items old ++ [v])), .ok ())
    | .error e => (some (.list (items old)), .error e)
  | enter key value =>
    match value.make with
    | .ok v =>
      match Value.putEntry (entries old) key v with
      | .ok entries => (some (.mapping entries), .ok ())
      | .error e => (some (.mapping (entries old)), .error e)
    | .error e => (old, .error e)

/-- What an edit that goes well makes of a content. -/
inductive Stores (old : Option Value) : Edit → Value → Prop
  | put {content : Source} {v : Value} (hv : content.Gives v) : Stores old (.put content) v
  | append {item : Source} {v : Value} (hv : item.Gives v) :
      Stores old (.append item) (.list (items old ++ [v]))
  | enter {key v : Value} {value : Source} {new : List (Value × Value)} (hv : value.Gives v)
      (hnew : Value.putEntry (entries old) key v = .ok new) :
      Stores old (.enter key value) (.mapping new)

/-- Whether an edit takes no notice of the old content. -/
def isPut : Edit → Bool
  | put _ => true
  | append _ => false
  | enter .. => false

/-- The edits of an attribute of a form: what is put has the form, and only a list or a mapping
is extended. -/
inductive Keeps : Option Shape → Edit → Prop
  | put {shape : Option Shape} {content : Source}
      (h : ∀ v, content.Gives v → IsShaped shape (some v)) : Keeps shape (.put content)
  | append (item : Source) : Keeps (some .list) (.append item)
  | enter (key : Value) (value : Source) : Keeps (some .mapping) (.enter key value)

variable {shape : Option Shape} {edit : Edit} {usual : Option Value}

/-- An edit that does not fail stores what it is to. -/
theorem stores_of_apply {old : Option Value} (h : (edit.apply old).2 = .ok ()) :
    ∃ v, (edit.apply old).1 = some v ∧ edit.Stores old v := by
  cases edit with
  | put content =>
      rw [apply] at h ⊢
      split at h
      next v hv => exact ⟨v, rfl, .put (Source.make_eq_ok_iff.mp hv)⟩
      · cases h
  | append item =>
      rw [apply] at h ⊢
      split at h
      next v hv => exact ⟨_, rfl, .append (Source.make_eq_ok_iff.mp hv)⟩
      · cases h
  | enter key value =>
      rw [apply] at h ⊢
      split at h
      next v hv =>
        split at h
        next new hnew => exact ⟨_, rfl, .enter (Source.make_eq_ok_iff.mp hv) hnew⟩
        · cases h
      · cases h

/-- A missing list has the items of an empty one. -/
theorem items_or_blank (old : Option Value) :
    items (old.or (some Shape.list.blank)) = items old := by
  cases old <;> rfl

theorem entries_or_blank (old : Option Value) :
    entries (old.or (some Shape.mapping.blank)) = entries old := by
  cases old <;> rfl

/-- What has the form of a list has items, and what is missing counts as empty. -/
theorem some_items {old : Option Value} (h : IsShaped (some .list) old) :
    some (.list (items old)) = old.or (some Shape.list.blank) := by
  cases old with
  | none => rfl
  | some v =>
      obtain ⟨xs⟩ := h .list v rfl rfl
      rfl

theorem some_entries {old : Option Value} (h : IsShaped (some .mapping) old) :
    some (.mapping (entries old)) = old.or (some Shape.mapping.blank) := by
  cases old with
  | none => rfl
  | some v =>
      obtain ⟨_⟩ | ⟨es⟩ := h .mapping v rfl rfl
      rfl

/-- An edit does not tell a missing content from the usual one. -/
theorem apply_or (old : Option Value) (h : edit.Keeps shape)
    (husual : ∀ s, shape = some s → usual = some s.blank) :
    (edit.apply (old.or usual)).2 = (edit.apply old).2 ∧
      (edit.apply (old.or usual)).1.or usual = (edit.apply old).1.or usual := by
  cases h with
  | @put _ content _ =>
      rw [apply, apply]
      cases content.make with
      | ok v => exact ⟨rfl, rfl⟩
      | error e => exact ⟨rfl, by rw [Option.or_assoc, Option.or_self]⟩
  | append item =>
      rw [husual .list rfl, apply, apply, items_or_blank]
      exact ⟨rfl, rfl⟩
  | enter key value =>
      rw [husual .mapping rfl, apply, apply, entries_or_blank]
      cases value.make with
      | ok v => exact ⟨rfl, rfl⟩
      | error e => exact ⟨rfl, by rw [Option.or_assoc, Option.or_self]⟩

/-- An edit that fails changes nothing, if a missing content counts as the usual one. -/
theorem apply_of_error {old : Option Value} {e : Error} (h : edit.Keeps shape)
    (husual : ∀ s, shape = some s → usual = some s.blank) (hshaped : IsShaped shape old)
    (hfail : (edit.apply old).2 = .error e) : (edit.apply old).1.or usual = old.or usual := by
  cases h with
  | @put _ content _ =>
      rw [apply] at hfail ⊢
      cases hmake : content.make with
      | ok v =>
          rw [hmake] at hfail
          cases hfail
      | error e => rfl
  | append item =>
      rw [husual .list rfl, ← some_items hshaped]
      rw [apply] at hfail ⊢
      cases hmake : item.make with
      | ok v =>
          rw [hmake] at hfail
          cases hfail
      | error e => rfl
  | enter key value =>
      rw [husual .mapping rfl, ← some_entries hshaped]
      rw [apply] at hfail ⊢
      cases hmake : value.make with
      | error e => exact (some_entries hshaped).symm
      | ok v =>
          rw [hmake] at hfail
          dsimp only at hfail ⊢
          cases hput : Value.putEntry (entries old) key v with
          | ok es =>
              rw [hput] at hfail
              cases hfail
          | error e => rfl

theorem isShaped_apply {old : Option Value} (h : edit.Keeps shape) (hshaped : IsShaped shape old) :
    IsShaped shape (edit.apply old).1 := by
  cases h with
  | @put _ content hcontent =>
      rw [apply]
      cases hmake : content.make with
      | ok v => exact hcontent v (Source.make_eq_ok_iff.mp hmake)
      | error e => exact hshaped
  | append item =>
      rw [apply]
      cases item.make <;> · rintro _ _ ⟨⟩ ⟨⟩; exact .list _
  | enter key value =>
      rw [apply]
      cases value.make with
      | error e => exact hshaped
      | ok v =>
          dsimp only
          cases Value.putEntry (entries old) key v <;> · rintro _ _ ⟨⟩ ⟨⟩; exact .mapping _

end Edit

/-! ## Drafts of one kind -/

/-- How the parameters of one class are put together, step by step. -/
structure Drafting where
  State : Type
  Step : Type
  Param : Type
  empty : State
  step : State → Step → State × Outcome Unit
  build : State → State × Outcome Param

namespace Drafting

variable (D : Drafting)

/-- What is done with a draft: a step is taken, or its parameter is built. -/
inductive Action
  | step (s : D.Step)
  | build

/-- The draft after an action, and how the action went; a parameter that is built is the
result. -/
def act (d : D.State) : D.Action → D.State × Outcome (Option D.Param)
  | .step s => ((D.step d s).1, (D.step d s).2.map fun _ => none)
  | .build => ((D.build d).1, (D.build d).2.map some)

/-- Actions one after the other, each with how it went. -/
def trace (d : D.State) : List D.Action → List (D.Action × Outcome (Option D.Param))
  | [] => []
  | a :: actions => (a, (D.act d a).2) :: trace (D.act d a).1 actions

/-- The draft after steps all of which succeed. -/
def run (d : D.State) : List D.Step → Outcome D.State
  | [] => .ok d
  | s :: steps => do
    (D.step d s).2
    run (D.step d s).1 steps

/-- What drafts of one kind hold, attribute by attribute, and what steps and building do
to it. -/
structure Account where
  Attribute : Type
  [decidableEq : DecidableEq Attribute]
  content : D.State → Attribute → Option Value
  key : D.Step → Attribute
  edit : D.Step → Edit
  /-- The form of an attribute that can be extended. -/
  shape : Attribute → Option Shape
  /-- The content that stands for a missing one. -/
  usual : Attribute → Option Value
  /-- The draft with the usual contents in place of missing ones. -/
  fill : D.State → D.State
  content_injective : Function.Injective content
  content_empty : ∀ a, content D.empty a = none
  content_step : ∀ d s, content (D.step d s).1 =
    Function.update (content d) (key s) ((edit s).apply (content d (key s))).1
  outcome_step : ∀ d s, (D.step d s).2 = ((edit s).apply (content d (key s))).2
  keeps_edit : ∀ s, (edit s).Keeps (shape (key s))
  usual_of_shape : ∀ a s, shape a = some s → usual a = some s.blank
  content_fill : ∀ d a, content (fill d) a = (content d a).or (usual a)
  content_build : ∀ d a, content (D.build d).1 a = content d a ∨
    (content d a = none ∧ content (D.build d).1 a = usual a)
  build_fill : ∀ d, (D.build (fill d)).2 = (D.build d).2

namespace Account

variable {D : Drafting} (A : D.Account)

instance : DecidableEq A.Attribute := A.decidableEq

/-- A draft whose lists are lists and whose mappings are mappings. -/
def IsSound (d : D.State) : Prop :=
  ∀ a, IsShaped (A.shape a) (A.content d a)

/-- Drafts that differ at most in contents that are the usual ones here and missing there. -/
def Alike (d e : D.State) : Prop :=
  A.fill d = A.fill e

variable {A} {d e : D.State}

theorem alike_iff : A.Alike d e ↔
    ∀ a, (A.content d a).or (A.usual a) = (A.content e a).or (A.usual a) := by
  rw [Alike, ← A.content_injective.eq_iff, funext_iff]
  simp only [A.content_fill]

/-! ## Sound drafts -/

theorem isSound_empty : A.IsSound D.empty := by
  intro a s v _ hv
  rw [A.content_empty] at hv
  cases hv

theorem isSound_step (h : A.IsSound d) (s : D.Step) : A.IsSound (D.step d s).1 := by
  intro a
  rw [A.content_step]
  by_cases ha : a = A.key s
  · subst ha
    rw [Function.update_self]
    exact Edit.isShaped_apply (A.keeps_edit s) (h _)
  · rw [Function.update_of_ne ha]
    exact h a

theorem isSound_build (h : A.IsSound d) : A.IsSound (D.build d).1 := by
  intro a
  obtain hsame | ⟨-, husual⟩ := A.content_build d a
  · rw [hsame]
    exact h a
  · rw [husual]
    intro s v hs hv
    rw [A.usual_of_shape a s hs] at hv
    cases hv
    exact s.holds_blank

theorem isSound_act (h : A.IsSound d) (a : D.Action) : A.IsSound (D.act d a).1 := by
  cases a with
  | step s => exact isSound_step h s
  | build => exact isSound_build h

theorem isSound_run (h : A.IsSound d) {steps : List D.Step} (hrun : D.run d steps = .ok e) :
    A.IsSound e := by
  induction steps generalizing d with
  | nil =>
      cases hrun
      exact h
  | cons s steps ih =>
      obtain ⟨-, -, hrest⟩ := Outcome.bind_eq_ok.mp hrun
      exact ih (isSound_step h s) hrest

/-! ## Drafts that are alike -/

/-- A step takes like drafts to like drafts, and goes alike in both. -/
theorem Alike.step (h : A.Alike d e) (s : D.Step) :
    (D.step d s).2 = (D.step e s).2 ∧ A.Alike (D.step d s).1 (D.step e s).1 := by
  have husual := A.usual_of_shape (A.key s)
  have hsame := alike_iff.mp h
  obtain ⟨hd, hd'⟩ := Edit.apply_or (A.content d (A.key s)) (A.keeps_edit s) husual
  obtain ⟨he, he'⟩ := Edit.apply_or (A.content e (A.key s)) (A.keeps_edit s) husual
  rw [hsame] at hd hd'
  refine ⟨?_, alike_iff.mpr fun a => ?_⟩
  · rw [A.outcome_step, A.outcome_step, ← hd, he]
  · rw [A.content_step, A.content_step]
    by_cases ha : a = A.key s
    · subst ha
      rw [Function.update_self, Function.update_self, ← hd', he']
    · rw [Function.update_of_ne ha, Function.update_of_ne ha, hsame]

/-- Building leaves a draft that is like the one before. -/
theorem alike_build (d : D.State) : A.Alike (D.build d).1 d := by
  refine alike_iff.mpr fun a => ?_
  obtain hsame | ⟨hnone, husual⟩ := A.content_build d a
  · rw [hsame]
  · rw [hnone, husual, Option.or_self, Option.none_or]

/-- Like drafts build the same parameter, or fail to in the same way. -/
theorem Alike.build (h : A.Alike d e) : (D.build d).2 = (D.build e).2 := by
  rw [← A.build_fill d, h, A.build_fill]

/-- An action goes alike in like drafts, and leaves like drafts. -/
theorem Alike.act (h : A.Alike d e) (a : D.Action) :
    (D.act d a).2 = (D.act e a).2 ∧ A.Alike (D.act d a).1 (D.act e a).1 := by
  cases a with
  | step s =>
      obtain ⟨hout, hnext⟩ := h.step s
      exact ⟨congrArg (Except.map fun _ => none) hout, hnext⟩
  | build =>
      have hnext := (alike_build d).trans (h.trans (alike_build e).symm)
      exact ⟨congrArg (Except.map some) h.build, hnext⟩

/-- A step that fails leaves a draft that is like the one before. -/
theorem alike_step_of_error (h : A.IsSound d) {s : D.Step} {fault : Error}
    (hfail : (D.step d s).2 = .error fault) : A.Alike (D.step d s).1 d := by
  rw [A.outcome_step] at hfail
  refine alike_iff.mpr fun a => ?_
  rw [A.content_step]
  by_cases ha : a = A.key s
  · subst ha
    rw [Function.update_self]
    exact Edit.apply_of_error (A.keeps_edit s) (A.usual_of_shape _) (h _) hfail
  · rw [Function.update_of_ne ha]

end Account

end Drafting

end VectorRequests.Draft
