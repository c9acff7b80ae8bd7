/-
# Tensors

A tensor is a block of cells of one element type in row-major order, with a shape
and the byte order of its storage. The shape and the number of cells agree by
construction. A tensor of at least one dimension is a sequence of rows; one
without dimensions holds a single cell and is no sequence.
-/

import VectorRequests.Number.ElementType

namespace VectorRequests

/-- The order in which the bytes of a cell are stored. -/
inductive ByteOrder
  | little
  | big
  deriving DecidableEq, Repr

/-- The number of cells that fill a shape. -/
def cellCount (shape : List Nat) : Nat :=
  shape.foldr (· * ·) 1

/-- A block of cells in row-major order. -/
structure Tensor where
  type : ElementType
  order : ByteOrder
  shape : List Nat
  cells : List type.Cell
  length_cells : cells.length = cellCount shape

namespace Tensor

/-- The tensor with one dimension that holds the given cells. -/
def flat (type : ElementType) (cells : List type.Cell) : Tensor where
  type := type
  order := .little
  shape := [cells.length]
  cells := cells
  length_cells := by simp [cellCount]

/-- A tensor with the given shape, if the number of cells agrees. -/
def ofCells? (type : ElementType) (order : ByteOrder) (shape : List Nat)
    (cells : List type.Cell) : Option Tensor :=
  if h : cells.length = cellCount shape then some ⟨type, order, shape, cells, h⟩ else none

/-- The rows of a block whose first dimension is `count`. -/
def rowsOf (type : ElementType) (order : ByteOrder) (rest : List Nat) :
    (count : Nat) → (cells : List type.Cell) → cells.length = count * cellCount rest →
    List Tensor
  | 0, _, _ => []
  | count + 1, cells, h =>
    have hle : cellCount rest ≤ cells.length := by
      rw [h, Nat.succ_mul]
      exact Nat.le_add_left ..
    ⟨type, order, rest, cells.take (cellCount rest), by simp [Nat.min_eq_left hle]⟩ ::
      rowsOf type order rest count (cells.drop (cellCount rest)) (by
        simp [h, Nat.succ_mul])

/-- The rows of a tensor, unless it has no dimension. -/
def rows? (t : Tensor) : Option (List Tensor) :=
  match h : t.shape with
  | [] => none
  | count :: rest =>
    some (rowsOf t.type t.order rest count t.cells (by
      simpa [h, cellCount] using t.length_cells))

/-- The name of the element type, marked where the storage is big-endian. -/
def typeName (t : Tensor) : String :=
  match t.order, t.type with
  | .big, .int f => (if f.signed then ">i" else ">u") ++ toString f.byteCount
  | .big, .float f => ">f" ++ toString f.byteCount
  | _, type => type.name

/-- A shape in brackets. -/
def shapeText : List Nat → String
  | [] => "()"
  | [n] => "(" ++ toString n ++ ",)"
  | ns => "(" ++ ", ".intercalate (ns.map toString) ++ ")"

/-- The storage bytes of a cell. -/
def cellBytes (t : Tensor) (c : t.type.Cell) : List UInt8 :=
  match t.order with
  | .little => t.type.toBytes c
  | .big => (t.type.toBytes c).reverse

/-- The storage bytes of all cells. -/
def toBytes (t : Tensor) : List UInt8 :=
  t.cells.flatMap t.cellBytes

end Tensor

end VectorRequests
