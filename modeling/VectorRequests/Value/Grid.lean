/-
# Values as grids

A grid is a single item, a sequence of items, a tensor, or any nesting of those in which
all parts side by side have the same shape. Its items stand in row-major order. Texts,
bytes, sets, mappings and records are items, and so is a range too long to have a length.
-/

import VectorRequests.Value.Sequence

namespace VectorRequests.Grid

/-- The shape shared by all parts of a sequence, in front of it their number. -/
def jointShape (shapes : List (Option (List Nat))) : Option (List Nat) :=
  match shapes with
  | [] => some [0]
  | first :: rest =>
    if rest.all (· == first) then first.map ((rest.length + 1) :: ·) else none

mutual

/-- The shape of a nesting of sequences; none if parts side by side differ. -/
def shape? : Value → Option (List Nat)
  | .list xs => jointShape (shapes xs)
  | .tuple xs => jointShape (shapes xs)
  | .range start stop step =>
    let count := Value.rangeCount start stop step
    some (if count ≤ Value.maxLength then [count] else [])
  | .buffer bs => some [bs.length]
  | .tensor t => some t.shape
  | _ => some []

/-- The shapes of several values. -/
def shapes : List Value → List (Option (List Nat))
  | [] => []
  | x :: xs => shape? x :: shapes xs

end

mutual

/-- The items of a nesting of sequences in row-major order. -/
def items : Value → List Value
  | .list xs => itemsOfAll xs
  | .tuple xs => itemsOfAll xs
  | .range start stop step =>
    if Value.rangeCount start stop step ≤ Value.maxLength then
      (Value.rangeTerms start stop step).map .int
    else
      [.range start stop step]
  | .buffer bs => bs.map fun b => .sized (.int .uint8) (IntFormat.uint8.wrap b.toNat)
  | .tensor t => t.sizedCells
  | v => [v]

/-- The items of several values, one after the other. -/
def itemsOfAll : List Value → List Value
  | [] => []
  | x :: xs => items x ++ itemsOfAll xs

end

end VectorRequests.Grid
