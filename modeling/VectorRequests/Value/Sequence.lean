/-
# Values as sequences, conditions and bytes

What a value offers to an operation that walks over it, asks whether it is
nothing, or wants bytes. A walk over a text visits its characters, over a mapping
its keys, over a tensor its rows. Nothing is zero, empty or null; a tensor is a
condition only if it has exactly one cell. Bytes are copied, a count gives so many
zero bytes, and a sequence gives its items, which must be bytes.

A length must fit a machine word. That is the only limit here: how much memory there
is, and how long a walk takes, is not considered.
-/

import VectorRequests.Error

namespace VectorRequests

-- Powers are those of the core library, whichever monoids are in scope.
attribute [local instance (high)] instPowNat

namespace Tensor

/-- The cells of a tensor as sized values. -/
def sizedCells (t : Tensor) : List Value :=
  t.cells.map (.sized t.type)

/-- The items of a tensor: cells if it has one dimension, rows if it has more. -/
def items? (t : Tensor) : Option (List Value) :=
  match t.shape with
  | [_] => some t.sizedCells
  | _ => t.rows?.map (·.map .tensor)

end Tensor

namespace Value

/-- The largest length that a range may be asked for. -/
def maxLength : Nat := 2 ^ (63 : Nat) - 1

/-- The terms of a range as values; there must not be more of them than a length can say. -/
def rangeItems (start stop step : Int) : Outcome (List Value) :=
  if rangeCount start stop step ≤ maxLength then .ok ((rangeTerms start stop step).map .int)
  else Error.fail .overflow

/-- The items of a tensor, which must have a dimension. -/
def tensorItems (t : Tensor) : Outcome (List Value) :=
  match t.items? with
  | some items => .ok items
  | none => Error.fail .wrongType

/-- A byte as an integer. -/
def ofByte (b : UInt8) : Value :=
  .int b.toNat

/-- What a walk over a value visits. -/
def iterate : Value → Outcome (List Value)
  | .list xs => .ok xs
  | .tuple xs => .ok xs
  | .set xs => .ok xs
  | .range start stop step => rangeItems start stop step
  | .mapping entries => .ok (entries.map (·.1))
  | .text s => .ok (s.toList.map fun c => .text c.toString)
  | .bytes bs => .ok (bs.map ofByte)
  | .buffer bs => .ok (bs.map ofByte)
  | .tensor t => tensorItems t
  | _ => Error.fail .wrongType

/-- Runs the body of a loop for the items with numbers from `k` on, until it fails. -/
def runLoop {α : Type} (body : Value → Outcome α) (item : Nat → Value) :
    (count k : Nat) → Outcome Unit
  | 0, _ => .ok ()
  | count + 1, k => do
    discard <| body (item k)
    runLoop body item count (k + 1)

/-- The items that a loop visits. The body has failed for a term of a range before all
terms are listed. -/
def itemsFor {α : Type} (body : Value → Outcome α) (v : Value) : Outcome (List Value) :=
  match v with
  | .range start stop step => do
    runLoop body (fun k => .int (start + k * step)) (rangeCount start stop step) 0
    v.iterate
  | v => v.iterate

/-- The number of items that a value has. -/
def length : Value → Outcome Nat
  | .list xs => .ok xs.length
  | .tuple xs => .ok xs.length
  | .set xs => .ok xs.length
  | .range start stop step =>
    if rangeCount start stop step ≤ maxLength then .ok (rangeCount start stop step)
    else Error.fail .overflow
  | .mapping entries => .ok entries.length
  | .text s => .ok s.length
  | .bytes bs => .ok bs.length
  | .buffer bs => .ok bs.length
  | .tensor ⟨_, _, count :: _, _, _⟩ => .ok count
  | .record .scalarField [_, (_, .tensor t)] => .ok t.cells.length
  | .record .scalarField [_, (_, .tuple xs)] => .ok xs.length
  | _ => Error.fail .wrongType

/-- Fails if a value that can be walked over cannot be asked for an item by its
place: the items of a set have none, and a mapping takes the place for a key. -/
def checkPlaces : Value → Outcome Unit
  | .set _ => Error.fail .wrongType
  | .mapping _ => Error.fail .missingKey
  | _ => .ok ()

/-- Whether a record holds something; only a scalar column can be empty. -/
def holdsSomething (kind : RecordKind) (attributes : List (String × Value)) : Bool :=
  match kind, attributes with
  | .scalarField, [_, (_, .tensor t)] => !t.cells.isEmpty
  | .scalarField, [_, (_, .tuple xs)] => !xs.isEmpty
  | _, _ => true

/-- Whether a value counts as something rather than nothing. -/
def truth : Value → Outcome Bool
  | .null => .ok false
  | .bool b => .ok b
  | .int i => .ok (i != 0)
  | .float x => .ok x.isNonzero
  | .text s => .ok (!s.isEmpty)
  | .bytes bs => .ok (!bs.isEmpty)
  | .buffer bs => .ok (!bs.isEmpty)
  | .list xs => .ok (!xs.isEmpty)
  | .tuple xs => .ok (!xs.isEmpty)
  | .set xs => .ok (!xs.isEmpty)
  | .range start stop step => .ok (rangeCount start stop step != 0)
  | .mapping entries => .ok (!entries.isEmpty)
  | .sized type cell => .ok (type.isNonzero cell)
  | .tensor t =>
    match t.cells with
    | [cell] => .ok (t.type.isNonzero cell)
    | _ => Error.fail .badValue
  | .dataType t => .ok (t.code != 0)
  | .placeholderType t => .ok (t.code != 0)
  | .msgType t => .ok (t.code != 0)
  | .dslType t => .ok (t.code != 0)
  | .record kind attributes => .ok (holdsSomething kind attributes)
  | _ => .ok true

/-- Whether a value counts as something; what is no condition does not. -/
def isTrue (v : Value) : Bool :=
  match v.truth with
  | .ok b => b
  | .error _ => false

/-- The integer that stands for a value as a count or an index. -/
def index? : Value → Option Int
  | .sized .bool b => some (Bool.toInt b)
  | .sized (.int f) w => some (f.value w)
  | .tensor ⟨.int f, _, [], [w], _⟩ => some (f.value w)
  | v => v.toInt?

/-- What is added to bytes where they are stored. -/
def bytesOverhead : Int := 33

/-- So many zero bytes; a count must fit in 64 bits, and so must the place they take. -/
def zeroBytes (count : Int) : Outcome (List UInt8) :=
  if (IntFormat.int64.ofInt? count).isNone then Error.fail .overflow
  else if count < 0 then Error.fail .badValue
  else if maxLength < count + bytesOverhead then Error.fail .overflow
  else .ok (List.replicate count.toNat 0)

/-- A value as one byte. -/
def toByte (v : Value) : Outcome UInt8 :=
  match v.index? with
  | some i => if 0 ≤ i ∧ i < 256 then .ok (UInt8.ofNat i.toNat) else Error.fail .badValue
  | none => Error.fail .wrongType

/-- The bytes that a value is stored as, if it is stored as bytes. -/
def rawBytes? : Value → Option (List UInt8)
  | .bytes bs => some bs
  | .buffer bs => some bs
  | .tensor t => some t.toBytes
  | .sized type cell => some (type.toBytes cell)
  | _ => none

/-- A value as bytes. -/
def toBytes (v : Value) : Outcome (List UInt8) :=
  match v, v.index? with
  | .bytes bs, _ => .ok bs
  | .buffer bs, _ => .ok bs
  | .text _, _ => Error.fail .wrongType
  | _, some count => zeroBytes count
  | .tensor t, none => .ok t.toBytes
  | .sized type cell, none => .ok (type.toBytes cell)
  | .range start stop step, none => do
    discard <| length (.range start stop step)
    (← itemsFor toByte (.range start stop step)).mapM toByte
  | v, none => do (← v.iterate).mapM toByte

end Value

end VectorRequests
