/-
# Failures and builds leave no trace

A step that fails may already have made a missing list or mapping an empty one, and so may
building. Nothing that is done with the draft later tells the difference, so an action that
fails, or that builds a parameter, can be taken out of any sequence of actions, and every other
action goes as it did.
-/

import VectorRequests.Proofs.Draft.Construction

namespace VectorRequests

/-- What is left of a list when some entries that can be spared have been taken out. -/
inductive Spares {α : Type} (spare : α → Prop) : List α → List α → Prop
  | nil : Spares spare [] []
  | keep (x : α) {xs kept : List α} : Spares spare xs kept → Spares spare (x :: xs) (x :: kept)
  | drop {x : α} {xs kept : List α} : spare x → Spares spare xs kept → Spares spare (x :: xs) kept

namespace Draft.Drafting

variable {D : Drafting} {A : D.Account} {d e : D.State}

/-- An action, with how it went, that can be spared: it has failed, or it has built a
parameter. -/
def IsSpare (entry : D.Action × Outcome (Option D.Param)) : Prop :=
  (∃ fault, entry.2 = .error fault) ∨ entry.1 = .build

namespace Account

theorem alike_act_of_isSpare (h : A.IsSound d) {a : D.Action}
    (hspare : IsSpare (a, (D.act d a).2)) : A.Alike (D.act d a).1 d := by
  cases a with
  | build => exact alike_build d
  | step s =>
      obtain ⟨fault, hfault⟩ | ⟨⟨⟩⟩ := hspare
      have hstep : (D.step d s).2 = .error fault := by
        cases hout : (D.step d s).2 with
        | error e =>
            rw [act, hout] at hfault
            exact congrArg Except.error (Except.error.inj hfault)
        | ok u =>
            rw [act, hout] at hfault
            cases hfault
      exact alike_step_of_error h hstep

/-- The invariant of the two runs: the draft that has seen all actions is sound, and the one
that has seen those that are left is like it. -/
theorem trace_of_spares (hsound : A.IsSound d) (halike : A.Alike d e) {actions : List D.Action}
    {kept : List (D.Action × Outcome (Option D.Param))}
    (h : Spares IsSpare (D.trace d actions) kept) : D.trace e (kept.map Prod.fst) = kept := by
  induction actions generalizing d e kept with
  | nil =>
      cases h
      rfl
  | cons a actions ih =>
      have hnext := isSound_act hsound a
      cases h with
      | keep _ hrest =>
          obtain ⟨hout, hlike⟩ := halike.act a
          rw [List.map_cons, trace, ih hnext hlike hrest, hout]
      | drop hspare hrest =>
          have hlike := (alike_act_of_isSpare hsound hspare).trans halike
          exact ih hnext hlike hrest

end Account

end Draft.Drafting

namespace DraftKind

/-- Whatever is done with a draft of any kind, actions that fail and actions that build a
parameter can be taken out, and all that are left go as they did; and a draft that is built
twice in a row is built to the same end. -/
theorem spare_actions_leave_no_trace (kind : DraftKind) (settings : Settings)
    (actions : List (kind.drafting settings).Action)
    (kept : List ((kind.drafting settings).Action ×
      Outcome (Option (kind.drafting settings).Param)))
    (h : Spares Draft.Drafting.IsSpare
      ((kind.drafting settings).trace (kind.drafting settings).empty actions) kept) :
    (kind.drafting settings).trace (kind.drafting settings).empty (kept.map Prod.fst) = kept ∧
      ∀ d, ((kind.drafting settings).build ((kind.drafting settings).build d).1).2 =
        ((kind.drafting settings).build d).2 := by
  let A := kind.account settings
  refine ⟨A.trace_of_spares A.isSound_empty rfl h, fun d => ?_⟩
  exact (A.alike_build d).build

/-- The name of a field. -/
def idName : Name where
  text := "id"
  notBlank h := by
    have hblank := h 'i' (by simp)
    exact absurd hblank (by decide)

/-- A field of integers. -/
def idField : FieldType where
  name := idName
  dataType := .int64
  description := .text ""
  primaryKey := .bool false
  autoId := .bool false
  typeParams := .empty
  dataType_isProper := rfl
  hasDimension := nofun

/-- Its draft, with an empty mapping in place of the parameters that nobody has written. -/
def idDraft : FieldTypeDraft where
  name := some idName.toValue
  dataType := some (.dataType .int64)
  typeParams := some (.mapping [])

theorem build_idDraft : idDraft.build = .ok idField := by
  rw [FieldTypeDraft.build_of_content rfl rfl, FieldType.ofValues, Check.name_toValue]
  rfl

/-- A parameter is added under a key that is no key, and the draft is built too early, and then
twice. -/
def clumsyActions : List (drafting {} fieldType).Action :=
  [.step (FieldTypeDraft.Step.name idName.toValue),
    .step (FieldTypeDraft.Step.addTypeParam (.list []) (.text "8")), .build,
    .step (FieldTypeDraft.Step.dataType (.dataType .int64)), .build, .build]

/-- What is left when the addition, the early build and one of the others are taken out. -/
def tidyTrace : List ((drafting {} fieldType).Action ×
    Outcome (Option (drafting {} fieldType).Param)) :=
  [(.step (FieldTypeDraft.Step.name idName.toValue), .ok none),
    (.step (FieldTypeDraft.Step.dataType (.dataType .int64)), .ok none),
    (.build, .ok (some idField))]

theorem act_build_fieldType (d : FieldTypeDraft) :
    ((drafting {} fieldType).act d .build).2 = d.build.map some :=
  rfl

theorem spares_tidyTrace : Spares Draft.Drafting.IsSpare
    ((drafting {} fieldType).trace (drafting {} fieldType).empty clumsyActions) tidyTrace := by
  have hlast : ((drafting {} fieldType).act idDraft .build).2 = .ok (some idField) := by
    rw [act_build_fieldType, build_idDraft]
    rfl
  rw [tidyTrace, ← hlast]
  exact .keep _ (.drop (.inl ⟨_, rfl⟩) (.drop (.inr rfl) (.keep _ (.drop (.inr rfl)
    (.keep _ .nil)))))

theorem tidyTrace_leaves_no_trace :
    Spares Draft.Drafting.IsSpare
        ((drafting {} fieldType).trace (drafting {} fieldType).empty clumsyActions) tidyTrace ∧
      (drafting {} fieldType).trace (drafting {} fieldType).empty (tidyTrace.map Prod.fst) =
        tidyTrace :=
  ⟨spares_tidyTrace,
    (spare_actions_leave_no_trace fieldType {} clumsyActions tidyTrace spares_tidyTrace).1⟩

end DraftKind

end VectorRequests
