/-
# Drafts of index questions

A question about an index can be put together step by step.
-/

import VectorRequests.Draft.Attribute
import VectorRequests.Param.Progress

namespace VectorRequests

/-- The attributes of a question that have been given so far. -/
structure ProgressDraft where
  collection : Option Value := none

namespace ProgressDraft

/-- A step of a draft. -/
inductive Step
  | collection (v : Value)

/-- The attribute that a step writes. -/
def Step.key : Step → String
  | .collection _ => "collection_name"

/-- The draft after a step, and how the step went. -/
def step (d : ProgressDraft) : Step → ProgressDraft × Outcome Unit
  | .collection v => ({ d with collection := some v }, .ok ())

/-- The question with the given attribute. -/
def finish (d : ProgressDraft) : Outcome ProgressParam := do
  ProgressParam.ofValues (← Draft.required d.collection)

/-- The question of a draft, which must have a collection. -/
def build (d : ProgressDraft) : Outcome ProgressParam := do
  discard <| Check.name "Collection name" (d.collection.getD .null)
  d.finish

end ProgressDraft

end VectorRequests
