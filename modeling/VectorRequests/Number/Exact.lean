/-
# Exact numbers

What a number of any class is worth: a quotient of an integer by a positive
natural number, one of the two infinities, or not a number. Numbers of different
classes are equal when they are worth the same; not-a-number equals nothing.
`residue` maps equal numbers to equal keys.
-/

import VectorRequests.Number.ElementType

namespace VectorRequests

-- Powers are those of the core library, whichever monoids are in scope.
attribute [local instance (high)] instPowNat

/-- What a number is worth. -/
inductive Exact
  | quotient (n : Int) (d : Nat)
  | infinity (negative : Bool)
  | nan
  deriving DecidableEq, Repr

namespace Exact

def ofInt (i : Int) : Exact :=
  .quotient i 1

/-- What a float is worth. -/
def ofFloat {f : FloatFormat} (x : Binary f) : Exact :=
  match x, x.toQuotient? with
  | _, some (n, d) => .quotient n d
  | .nan, none => .nan
  | .number negative _, none => .infinity negative

/-- What a cell is worth. -/
def ofCell : (t : ElementType) → t.Cell → Exact
  | .bool, b => ofInt (Bool.toInt b)
  | .int f, w => ofInt (f.value w)
  | .float f, x => ofFloat (f := f) x

/-- Whether two numbers are worth the same. -/
def equal : Exact → Exact → Bool
  | .quotient n d, .quotient m e => n * e == m * d
  | .infinity s, .infinity t => s == t
  | _, _ => false

/-- The prime that keys are reduced by. -/
def modulus : Nat := 2 ^ (61 : Nat) - 1

/-- A key shared by equal numbers. Halving a key is multiplication by the inverse
of two, and 61 halvings change nothing. -/
def residue : Exact → Option Int
  | .quotient n d =>
    let halvings := d.log2 % 61
    let r : Int := (n.natAbs * 2 ^ (61 - halvings) % modulus : Nat)
    let key := if n < 0 then -r else r
    some (if key = -1 then -2 else key)
  | .infinity negative => some (if negative then -314159 else 314159)
  | .nan => none

end Exact

end VectorRequests
