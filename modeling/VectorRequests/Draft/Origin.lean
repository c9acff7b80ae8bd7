/-
# Where attributes come from

Two parameters that are built from one draft hold the very same value of an attribute if
it was not written in between. Such values are not compared, and so even a value that
differs from itself counts as the same. The parameters of a field type are copied each
time it is built.
-/

import VectorRequests.Value.Equality

namespace VectorRequests.Draft

/-- For every attribute that has been written, the number of the last step that wrote
it. -/
structure Origins where
  steps : List (String × Nat) := []

namespace Origins

/-- The origins after a step has written an attribute. -/
def write (o : Origins) (key : String) (step : Nat) : Origins :=
  ⟨(key, step) :: o.steps⟩

/-- The step that an attribute comes from, if it has been written. -/
def step? (o : Origins) (key : String) : Option Nat :=
  o.steps.lookup key

/-- Whether two parameters hold the very same value of an attribute. -/
def areShared (o p : Origins) (key : String) : Bool :=
  key ≠ "type_params" && o.step? key == p.step? key

end Origins

/-- A parameter that has been built, and where its attributes come from. -/
structure Built where
  value : Value
  origins : Origins

/-- Whether two parameters built from one draft are equal. -/
def Built.equal (a b : Built) : Outcome Bool :=
  Value.equalSharing (a.origins.areShared b.origins) a.value b.value

end VectorRequests.Draft
