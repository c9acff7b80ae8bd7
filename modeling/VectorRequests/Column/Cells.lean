/-
# Values stored as cells

A column of numbers is stored as cells of one element type. The given value is a grid,
whose items are stored in row-major order. Cells that are given already sized are
converted as stored numbers are; plain items must have a meaning in the element type: an
integer must be in range, also one that is left of a float without its fraction, and a
text must read as a number.

For floats, an item that is finite as a double float must not become infinite.
-/

import VectorRequests.Column.Kind
import VectorRequests.Float.Written
import VectorRequests.Number.Buffer
import VectorRequests.Text.Integer
import VectorRequests.Value.Grid

namespace VectorRequests.Cells

open VectorRequests.Text

/-- The text that stands for a number, if the item is one. -/
def numberText? : Value → Option String
  | .text s => some s
  | .bytes bs => some (String.ofList (bs.map fun b => Char.ofNat b.toNat))
  | _ => none

/-- The bytes of a number text are ASCII. -/
def isNumberText (v : Value) : Bool :=
  match v with
  | .bytes bs => bs.all (· < 0x80)
  | _ => true

/-- The word of an integer, which must be in range. -/
def storeInt (f : IntFormat) (i : Int) : Outcome f.Word :=
  match f.ofInt? i with
  | some w => .ok w
  | none => Error.fail .overflow

/-- An item as a word. -/
def toWord (f : IntFormat) (v : Value) : Outcome f.Word :=
  match v, v.toInt?, numberText? v with
  | .sized type cell, _, _ => .ok (type.toWord f cell)
  | .float x, _, _ =>
    match x.truncate? with
    | some i => storeInt f i
    | none => Error.fail (if x = .nan then .badValue else .overflow)
  | _, some i, _ => storeInt f i
  | v, _, some s =>
    match Integer.read? s with
    | some i => if isNumberText v then storeInt f i else Error.fail .badValue
    | none => Error.fail .badValue
  | _, _, none => Error.fail .wrongType

/-- An item as a double float. -/
def toDouble (v : Value) : Outcome Double :=
  match v, v.toInt?, numberText? v with
  | .null, _, _ => .ok .nan
  | .float x, _, _ => .ok x
  | _, some i, _ =>
    match Binary.ofInt? i with
    | some x => .ok x
    | none => Error.fail .overflow
  | v, _, some s =>
    match Binary.read? s with
    | some x => if isNumberText v then .ok x else Error.fail .badValue
    | none => Error.fail .badValue
  | _, _, none => Error.fail .wrongType

/-- An item as a float; sized cells are rounded only once. -/
def toFloat (f : FloatFormat) : Value → Outcome (Binary f)
  | .sized type cell => .ok (type.toFloat f cell)
  | v => do return (← toDouble v).convert

/-- An item as a cell. -/
def toCell : (t : ElementType) → Value → Outcome t.Cell
  | .bool, v => v.truth
  | .int f, v => toWord f v
  | .float f, v => toFloat f v

/-- Whether an item is finite and the float that stands for it is not. -/
def overflows (f : FloatFormat) (v : Value) (x : Binary f) : Bool :=
  x.isInfinite &&
    match toFloat .double v with
    | .ok y => y.isFinite
    | .error _ => false

/-- Refuses floats that are infinite in place of finite items. -/
def checkRange : (t : ElementType) → List Value → List t.Cell → Outcome Unit
  | .float f, vs, xs =>
    if (vs.zip xs).any fun (v, x) => overflows f v x then
      Error.refuse (.numbersOutOfRange (ElementType.float f).name)
    else .ok ()
  | _, _, _ => .ok ()

/-- Whether the parts of a grid fit together as cells of a tensor. -/
def isGrid (v : Value) : Bool :=
  match Grid.shape? v with
  | some shape => shape.length ≤ Tensor.maxDimensions
  | none => false

/-- The cells that store a value. -/
def store (t : ElementType) (v : Value) : Outcome (List t.Cell) := do
  if ¬ isGrid v then
    Error.fail .badValue
  else
    let cells ← (Grid.items v).mapM (toCell t)
    checkRange t (Grid.items v) cells
    return cells

end VectorRequests.Cells
