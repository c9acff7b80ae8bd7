/-
# Values made integers

Where a number is asked for by what it is worth, a float gives the integer that is left
without its fraction, a tensor without dimensions its cell, and a text or ASCII bytes the
integer that they are written as. Not-a-number and what is not written as an integer have
no such worth, and an infinite float has one too large.
-/

import VectorRequests.Text.Integer
import VectorRequests.Value.Sequence

namespace VectorRequests.Value

open VectorRequests.Text

/-- The integer that a float has without its fraction. -/
def integerOfFloat {f : FloatFormat} (x : Binary f) : Outcome Int :=
  match x.truncate? with
  | some i => .ok i
  | none => Error.fail (if x.isInfinite then .overflow else .badValue)

/-- The integer that a cell has without its fraction. -/
def integerOfCell : (t : ElementType) → t.Cell → Outcome Int
  | .bool, b => .ok (Bool.toInt b)
  | .int f, w => .ok (f.value w)
  | .float _, x => integerOfFloat x

/-- The integer that a text is written as. -/
def integerOfText (s : String) : Outcome Int :=
  match Integer.read? s with
  | some i => .ok i
  | none => Error.fail .badValue

/-- The integer that ASCII bytes are written as. -/
def integerOfBytes (bs : List UInt8) : Outcome Int :=
  if bs.all (· < 0x80) then
    integerOfText (String.ofList (bs.map fun b => Char.ofNat b.toNat))
  else
    Error.fail .badValue

/-- The integer that a value is worth. -/
def toInteger (v : Value) : Outcome Int :=
  match v, v.toInt? with
  | _, some i => .ok i
  | .float x, _ => integerOfFloat x
  | .text s, _ => integerOfText s
  | .bytes bs, _ => integerOfBytes bs
  | .buffer bs, _ => integerOfBytes bs
  | .sized type cell, _ => integerOfCell type cell
  | .tensor ⟨type, _, [], [cell], _⟩, _ => integerOfCell type cell
  | _, none => Error.fail .wrongType

end VectorRequests.Value
