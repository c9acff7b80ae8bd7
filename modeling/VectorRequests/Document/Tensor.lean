/-
# Documents of tensors

A tensor is documented by its bytes in base64, the name of its element type and
its shape. A document may name any other element type that arrays can have, such as texts,
complex numbers or dates; how bytes are read as an array of such a type, and what its items
are worth as numbers, is for the array library to say.
-/

import VectorRequests.Document.Checked
import VectorRequests.Encoding.Base64
import VectorRequests.Json.Basic
import VectorRequests.Number.Buffer
import VectorRequests.Number.TypeName

namespace VectorRequests

/-- The document of a tensor. -/
structure TensorDocument where
  b64 : String
  dtype : String
  shape : List Int
  deriving DecidableEq, Repr

namespace TensorDocument

open Document

/-- The document with the given parts. -/
def check (v : Value) : Checked TensorDocument :=
  (checkObject v).andThen fun entries =>
    (((required entries "b64" checkText).map TensorDocument.mk).app
      (required entries "dtype" checkText)).app
      (required entries "shape" (checkList checkInt))

/-- The document of a tensor. -/
def ofTensor (t : Tensor) : TensorDocument where
  b64 := Base64.encode t.toBytes
  dtype := t.typeName
  shape := t.shape.map Int.ofNat

/-- What reading bytes as an array fails with if the name of its element type is unknown.
Objects are known, but not as bytes. -/
def unknownType (dtype : String) : Fault :=
  if dtype = "object" ∨ dtype = "O" then .badValue else .wrongType

/-- The tensor of a document. The bytes are read leniently. -/
def toTensor (d : TensorDocument) : Except Fault Tensor := do
  let bs ← Base64.decode false d.b64
  match ElementType.ofName? d.dtype with
  | none => throw (unknownType d.dtype)
  | some (type, order) =>
    match Tensor.ofBytes? type order d.shape bs with
    | some t => return t
    | none => throw .badValue

/-- The document as JSON. -/
def toJson (d : TensorDocument) : Json :=
  .object [("b64", .text d.b64), ("dtype", .text d.dtype),
    ("shape", .list (d.shape.map .int))]

end TensorDocument

/-- The arrays of other element types, as the array library has them: how bytes are read as one
for the name of a type and a shape, and what its items are as cells. -/
class OtherArrays where
  Array : Type
  read : (dtype : String) → (shape : List Int) → List UInt8 → Except Fault Array
  cells : (t : ElementType) → Array → Except Fault (List t.Cell)

/-- A library that knows no other element types. -/
@[reducible]
def OtherArrays.absent : OtherArrays where
  Array := Empty
  read dtype _ _ := throw (TensorDocument.unknownType dtype)
  cells _ a := a.elim

variable [OtherArrays]

/-- The array of a document: a tensor, or an array of another element type. -/
def TensorDocument.toArray (d : TensorDocument) : Except Fault (Tensor ⊕ OtherArrays.Array) :=
  match ElementType.ofName? d.dtype with
  | some _ => do return .inl (← d.toTensor)
  | none => do
    let bs ← Base64.decode false d.b64
    return .inr (← OtherArrays.read d.dtype d.shape bs)

namespace OtherArrays

/-- The items of an array as cells. What the library fails with is left as it is. -/
def cellsOf (t : ElementType) (a : OtherArrays.Array) : Outcome (List t.Cell) :=
  match OtherArrays.cells t a with
  | .ok xs => .ok xs
  | .error fault => Error.fail fault

/-- The cells that store an array. Floats are compared with the items as double floats, which
must not be finite where they are infinite. -/
def store : (t : ElementType) → OtherArrays.Array → Outcome (List t.Cell)
  | .float f, a => do
    let xs ← cellsOf (.float f) a
    let ys ← cellsOf (.float .double) a
    if (xs.zip ys).any fun (x, y) =>
        Binary.isInfinite (f := f) x && Binary.isFinite (f := .double) y
    then Error.refuse (.numbersOutOfRange (ElementType.float f).name)
    else return xs
  | t, a => cellsOf t a

end OtherArrays

end VectorRequests
