/-
# Tensors from bytes

The bytes of a tensor are cut into cells, and the cells are given a shape. One
negative number in the shape is a dimension to be found out from the number of
cells. No tensor has more than `maxDimensions` dimensions or spans more bytes than
`maxSpan` allows, empty dimensions aside.
-/

import VectorRequests.Number.Tensor

namespace VectorRequests.Tensor

-- Powers are those of the core library, whichever monoids are in scope.
attribute [local instance (high)] instPowNat

/-- The most dimensions of a tensor. -/
def maxDimensions : Nat := 64

/-- The most bytes that a tensor may span when so many bytes are there. A machine word
bounds what can be asked for, and there is always room for what is there already. -/
def maxSpan (present : Nat) : Nat := max (2 ^ (63 : Nat) - 1) present

/-- The cells that bytes hold, at most `fuel` of them. -/
def cellsOf (type : ElementType) (order : ByteOrder) : (fuel : Nat) → List UInt8 →
    List type.Cell
  | 0, _ => []
  | _, [] => []
  | fuel + 1, bs =>
    let bytes := bs.take type.byteCount
    let cell := type.ofBytes (match order with
      | .little => bytes
      | .big => bytes.reverse)
    cell :: cellsOf type order fuel (bs.drop type.byteCount)

/-- The dimensions of a shape, where a negative number stands for the one that makes
the shape hold `count` cells. -/
def resolveShape? (count : Nat) (shape : List Int) : Option (List Nat) :=
  let known := cellCount ((shape.filter (0 ≤ ·)).map Int.toNat)
  match shape.filter (· < 0) with
  | [] => if known = count then some (shape.map Int.toNat) else none
  | [_] =>
    if known ≠ 0 ∧ count % known = 0 then
      some (shape.map fun n => if n < 0 then count / known else n.toNat)
    else none
  | _ => none

/-- Whether a tensor of a shape that is made of so many bytes is within the limits. -/
def fits (type : ElementType) (present : Nat) (shape : List Int) (dimensions : List Nat) :
    Bool :=
  shape.length ≤ maxDimensions &&
    shape.all (fun n => -(2 ^ (63 : Nat)) ≤ n && n ≤ maxSpan present) &&
    cellCount (dimensions.filter (· ≠ 0)) * type.byteCount ≤ maxSpan present

/-- The tensor of a shape that bytes hold. -/
def ofBytes? (type : ElementType) (order : ByteOrder) (shape : List Int) (bs : List UInt8) :
    Option Tensor := do
  if bs.length % type.byteCount ≠ 0 then
    none
  else
    let cells := cellsOf type order bs.length bs
    let dimensions ← resolveShape? cells.length shape
    if fits type bs.length shape dimensions then ofCells? type order dimensions cells else none

end VectorRequests.Tensor
