/-
# Rows of float vectors

A row is a list or tuple of real numbers, or a tensor of integers or floats with
one dimension. Truth values are no numbers here. Each component is first made a
double float and then narrowed to a single float; a finite component must stay
finite.
-/

import VectorRequests.Value.Sequence
import VectorRequests.Error

namespace VectorRequests.Row

/-- The name of a row in messages, unless its user has a better one. -/
def usualName : String := "Float vector"

/-- Whether a value is a real number. -/
def isReal : Value → Bool
  | .bool _ => false
  | .float _ => true
  | .sized type _ => type.isNumeric
  | v => v.toInt?.isSome

/-- A real number as a double float. -/
def toDouble : Value → Outcome Double
  | .float x => .ok x
  | .sized type cell => .ok (type.toFloat .double cell)
  | v =>
    match v.toInt?.bind Binary.ofInt? with
    | some x => .ok x
    | none => Error.fail .overflow

/-- Refuses a component that is no real number. -/
def checkComponent (name : String) (v : Value) : Outcome Unit :=
  if isReal v then .ok () else Error.refuse (.rowElement name v.typeName)

/-- The single floats nearest to the components. -/
def narrow (name : String) (xs : List Double) : Outcome (List Single) :=
  match xs.mapM Binary.narrow? with
  | some ys => .ok ys
  | none => Error.refuse (.rowOutOfRange name)

/-- The components of a row given one by one. -/
def readComponents (name : String) (xs : List Value) : Outcome (List Single) := do
  xs.forM (checkComponent name)
  narrow name (← xs.mapM toDouble)

/-- The components of a row. -/
def read (name : String) : Value → Outcome (List Single)
  | .list xs => readComponents name xs
  | .tuple xs => readComponents name xs
  | .tensor t =>
    if t.shape.length = 1 ∧ t.type.isNumeric then
      narrow name (t.cells.map (t.type.toFloat .double))
    else
      Error.refuse (.rowNotNumeric name t.typeName (Tensor.shapeText t.shape))
  | v => Error.refuse (.rowNotSequence name v.typeName)

end VectorRequests.Row
