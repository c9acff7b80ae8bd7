/-
# Equality of values

Numbers are compared as numbers whatever their class, bytes in fixed and growing form
alike. Sequences of one class are equal item by item, mappings by the values of their
keys, target vectors by their components, records of one class by their attributes. A
column, or an object of another class, equals only itself.

A tensor is compared cell by cell with whatever stands on the other side, and so is a
sized number with anything but a number. The answers are a condition only if there is
exactly one of them, so the comparison fails if one side is no single item. Comparison
stops at the first difference, and what comes after it cannot fail.
-/

import VectorRequests.Value.Grid
import VectorRequests.Value.Key

namespace VectorRequests

/-- Whether two lists of floats are equal item by item. -/
def floatsEqual {f : FloatFormat} (xs ys : List (Binary f)) : Bool :=
  xs.length == ys.length &&
    (xs.zip ys).all fun (x, y) => (Exact.ofFloat x).equal (Exact.ofFloat y)

namespace TargetVector

/-- Whether two vectors have the same kind and equal components. -/
def equal (v w : TargetVector) : Bool :=
  match v, w with
  | .float xs _, .float ys _ => floatsEqual xs ys
  | .binary xs _, .binary ys _ => xs == ys
  | _, _ => false

end TargetVector

namespace Tensor

/-- Whether two tensors have the same shape and equal cells. -/
def equal (t u : Tensor) : Bool :=
  t.shape == u.shape &&
    (t.cells.zip u.cells).all fun (x, y) =>
      (Exact.ofCell t.type x).equal (Exact.ofCell u.type y)

/-- The tensor without dimensions that holds one cell. -/
def ofCell (type : ElementType) (c : type.Cell) : Tensor where
  type := type
  order := .little
  shape := []
  cells := [c]
  length_cells := rfl

end Tensor

/-- Whether an attribute of a record holds a payload. -/
def RecordKind.holdsPayload (kind : RecordKind) (name : String) : Bool :=
  match kind, name with
  | .scalarField, "data" => true
  | .vectorField, "float_vector" => true
  | .vectorField, "binary_vector" => true
  | _, _ => false

namespace Value

/-- The bytes of a value in fixed or growing form. -/
def bytes? : Value → Option (List UInt8)
  | .bytes bs => some bs
  | .buffer bs => some bs
  | _ => none

/-- A tensor, or a sized number as one. -/
def tensor? : Value → Option Tensor
  | .tensor t => some t
  | .sized type c => some (Tensor.ofCell type c)
  | _ => none

/-- Whether two ranges have the same terms. -/
def rangesEqual (start stop step start' stop' step' : Int) : Bool :=
  let count := rangeCount start stop step
  count == rangeCount start' stop' step' &&
    (count == 0 || start == start' && (count == 1 || step == step'))

/-- Whether two numbers are equal. -/
def numbersEqual (a b : Operand) : Outcome Bool :=
  match a.equal? b with
  | some answer => .ok answer
  | none => Error.fail .overflow

/-- The number that an item of a sequence is beside a cell. Integers become cells of
eight bytes; those that fit none stay what they are worth. -/
def itemOperand? (item : Value) : Option Operand :=
  match item.operand? with
  | some (.integer i) =>
    match IntFormat.int64.ofInt? i, IntFormat.uint64.ofInt? i with
    | some w, _ => some (.cell (.int .int64) w)
    | none, some w => some (.cell (.int .uint64) w)
    | none, none => none
  | some (.float x) => some (.cell (.float .double) x)
  | number? => number?

/-- Whether a cell equals an item of a sequence. Items that are no numbers equal none. -/
def cellEqual (t : ElementType) (c : t.Cell) (item : Value) : Outcome Bool :=
  match itemOperand? item, item.toInt? with
  | some number, _ => numbersEqual (.cell t c) number
  | none, some i => .ok ((Exact.ofCell t c).equal (Exact.ofInt i))
  | none, none => .ok false

/-- Whether the only cell of a tensor equals a number. A number that no cell of the
tensor could be compared with fails first. -/
def tensorEqualsNumber (t : Tensor) (number : Operand) : Outcome Bool :=
  match ((Operand.cell t.type default).worthBeside? number), t.cells with
  | none, _ => Error.fail .overflow
  | some _, [c] => numbersEqual (.cell t.type c) number
  | some _, _ => Error.fail .badValue

/-- Whether the only cell of a tensor equals the only item of a grid. -/
def tensorEquals (t : Tensor) (v : Value) : Outcome Bool :=
  match v.operand?, Grid.shape? v, t.cells, Grid.items v with
  | some number, _, _, _ => tensorEqualsNumber t number
  | none, some _, [c], [item] => cellEqual t.type c item
  | none, _, _, _ => Error.fail .badValue

/-- Equality of values without parts, neither of which is a number or a tensor. -/
def plainEqual (v w : Value) : Bool :=
  match v, w with
  | .null, .null => true
  | .text s, .text t => s == t
  | .range a b c, .range d e f => rangesEqual a b c d e f
  | .scalarKind k, .scalarKind l => k == l
  | .metric m, .metric n => m == n
  | .vector v, .vector w => v.equal w
  | .column handle .., .column other .. => handle == other
  | .object handle .., .object other .. => handle == other
  | v, w =>
    match v.bytes?, w.bytes? with
    | some xs, some ys => xs == ys
    | _, _ => false

/-- Whether a value differs from all values of other classes, tensors among them. -/
def isAloof : Value → Bool
  | .vector (.float ..) => true
  | .record .scalarField _ => true
  | .record .vectorField _ => true
  | _ => false

/-- Equality of values that are not collections or records of one class. -/
def leafEqual (v w : Value) : Outcome Bool :=
  match v, w with
  | .null, .sized .. => .ok false
  | .sized .., .null => .ok false
  | .buffer bs, .tensor t => .ok (bs == t.toBytes)
  | .buffer bs, .sized type c => .ok (bs == type.toBytes c)
  | v, w =>
    match v.operand?, w.operand?, v.tensor?, w.tensor? with
    | some a, some b, _, _ => numbersEqual a b
    | _, _, some t, _ => tensorEquals t w
    | _, _, none, some t => if v.isAloof then .ok false else tensorEquals t v
    | _, _, none, none => .ok (plainEqual v w)

/-- Whether two payloads are equal, if one of them is a tensor. Tensors of payloads are
equal as wholes, and never fail to be compared. -/
def payloadsEqual? (v w : Value) : Option Bool :=
  match v, w with
  | .tensor t, .tensor u => some (t.equal u)
  | .tensor _, _ => some false
  | _, .tensor _ => some false
  | _, _ => none

mutual

/-- Whether two values are equal. -/
def equal : Value → Value → Outcome Bool
  | .list xs, .list ys => if xs.length = ys.length then allEqual xs ys else .ok false
  | .tuple xs, .tuple ys => allEqual xs ys
  | .set xs, .set ys => if xs.length = ys.length then allIn xs ys else .ok false
  | .mapping entries, .mapping others =>
    if entries.length = others.length then entriesIn entries others else .ok false
  | .record kind attributes, .record other others =>
    if kind = other then attributesEqual kind attributes others else .ok false
  | v, w => leafEqual v w

/-- Whether two lists of values are equal item by item. -/
def allEqual : List Value → List Value → Outcome Bool
  | [], [] => .ok true
  | x :: xs, y :: ys => do if ← equal x y then allEqual xs ys else return false
  | _, _ => .ok false

/-- Whether every value of a list is in another list of keys. -/
def allIn : List Value → List Value → Outcome Bool
  | [], _ => .ok true
  | x :: xs, ys => do
    if ← ys.anyM fun y => if x.sharesKey y then equal x y else .ok false then allIn xs ys
    else return false

/-- Whether every entry of a mapping is in another one. -/
def entriesIn : List (Value × Value) → List (Value × Value) → Outcome Bool
  | [], _ => .ok true
  | (key, value) :: rest, others => do
    match ← others.findM? fun other =>
        if key.sharesKey other.1 then equal key other.1 else .ok false with
    | some other => if ← equal value other.2 then entriesIn rest others else return false
    | none => return false

/-- Whether two lists of attributes are equal one by one. -/
def attributesEqual (kind : RecordKind) : List (String × Value) → List (String × Value) →
    Outcome Bool
  | [], [] => .ok true
  | (name, value) :: rest, (_, other) :: rest' => do
    let answer ← match if kind.holdsPayload name then payloadsEqual? value other else none with
      | some answer => pure answer
      | none => equal value other
    if answer then attributesEqual kind rest rest' else return false
  | _, _ => .ok false

end

/-- Whether two lists of attributes are equal one by one, where attributes of some names
hold the very same values, which are not compared. -/
def attributesEqualSharing (isShared : String → Bool) (kind : RecordKind)
    (attributes others : List (String × Value)) : Outcome Bool :=
  attributesEqual kind (attributes.filter fun a => !isShared a.1)
    (others.filter fun a => !isShared a.1)

/-- Whether two values are equal; if they are records of one class, attributes of some
names hold the very same values. -/
def equalSharing (isShared : String → Bool) (v w : Value) : Outcome Bool :=
  match v, w with
  | .record kind attributes, .record other others =>
    if kind = other then attributesEqualSharing isShared kind attributes others else .ok false
  | v, w => equal v w

end Value

end VectorRequests
