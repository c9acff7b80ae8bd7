/-
# Index progress

The question how far the index of a collection has been built.
-/

import VectorRequests.Param.Check
import VectorRequests.Wire.Request

namespace VectorRequests

/-- The collection whose index is asked about. -/
structure ProgressParam where
  collection : Name

namespace ProgressParam

/-- The question with the given attribute. -/
def ofValues (collection : Value) : Outcome ProgressParam := do
  return ⟨← Check.name "Collection name" collection⟩

/-- The request of a question. -/
def toRequest (p : ProgressParam) : ProgressRequest where
  collectionName := p.collection.toValue

/-- The record as a value. -/
def toValue (p : ProgressParam) : Value :=
  .record .progressParam [("collection_name", p.collection.toValue)]

/-- The question that a value is. -/
def ofValue? : Value → Option ProgressParam
  | .record .progressParam [(_, collection)] => (ofValues collection).toOption
  | _ => none

end ProgressParam

end VectorRequests
