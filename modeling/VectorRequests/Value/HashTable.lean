/-
# Tables of values

A set is walked in the order of its table, if all its items have keys that are words. It
keeps the order it was given in if not, since its table is not the same every time.

The number of places in a table is a power of two. An item goes to the place that the
last bits of its word say; if that is taken, to one of the next nine, if there are so
many; and if all are taken the search goes on from a place that depends on more and more
of the word. A table that is three fifths full is replaced by a larger one, into which
the items move in order.
-/

import VectorRequests.Value.Key

namespace VectorRequests

/-- The places of a table. -/
abbrev HashTable (α : Type) := List (Option (BitVec 64 × α))

namespace HashTable

variable {α : Type}

/-- The least number of places. -/
def leastSize : Nat := 8

/-- How many places next to the first one are tried. -/
def neighbours : Nat := 9

/-- A table without items. -/
def empty (size : Nat) : HashTable α :=
  List.replicate size none

/-- Whether a place is free. -/
def isFree (t : HashTable α) (place : Nat) : Bool :=
  match t[place]? with
  | some none => true
  | _ => false

/-- The places that are tried together, from one on. -/
def run (size place : Nat) : List Nat :=
  if place + neighbours < size then List.range' place (neighbours + 1) else [place]

/-- The first free place in the order in which places are tried. -/
def freePlace? (t : HashTable α) : (fuel place perturbation : Nat) → Option Nat
  | 0, _, _ => none
  | fuel + 1, place, perturbation =>
    match (run t.length place).find? (isFree t) with
    | some free => some free
    | none =>
      let perturbation := perturbation / 32
      freePlace? t fuel ((5 * place + 1 + perturbation) % t.length) perturbation

/-- A table with an item in a free place. -/
def put (t : HashTable α) (word : BitVec 64) (item : α) : HashTable α :=
  match freePlace? t (t.length + 64) (word.toNat % t.length) word.toNat with
  | some place => t.set place (some (word, item))
  | none => t

/-- The items of a table with their words, in order. -/
def items (t : HashTable α) : List (BitVec 64 × α) :=
  t.filterMap id

/-- The least power of two, from a given one on, above a number. -/
def sizeAbove (count : Nat) : (fuel size : Nat) → Nat
  | 0, size => size
  | fuel + 1, size => if size ≤ count then sizeAbove count fuel (2 * size) else size

/-- How much larger a table becomes. -/
def growth (used : Nat) : Nat :=
  if 50000 < used then 2 else 4

/-- A table with room for more items. -/
def grow (t : HashTable α) (used : Nat) : HashTable α :=
  t.items.foldl (fun t (word, item) => t.put word item)
    (empty (sizeAbove (used * growth used) used leastSize))

/-- A table with one more item. -/
def insert (t : HashTable α) (word : BitVec 64) (item : α) : HashTable α :=
  let t := t.put word item
  let used := t.items.length
  if used * 5 < (t.length - 1) * 3 then t else t.grow used

end HashTable

namespace Value

/-- A value with its word, if it has one that is the same every time. -/
def withWord? (v : Value) : Option (BitVec 64 × Value) := do
  return (← (← v.key?).word?, v)

/-- The items of a set in the order in which they are walked. -/
def walkOrder (xs : List Value) : List Value :=
  match xs.mapM withWord? with
  | some items =>
    (items.foldl (fun t (word, v) => t.insert word v)
      (HashTable.empty HashTable.leastSize)).items.map (·.2)
  | none => xs

end Value

end VectorRequests
