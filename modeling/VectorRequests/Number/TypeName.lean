/-
# Names of element types

Tensors in documents name their element type. Besides its plain name a type has
older and shorter ones, and a letter with the number of bytes. In front of a short
name a mark may give the byte order; without one, and for cells of one byte, cells
are little-endian.
-/

import VectorRequests.Number.Tensor

namespace VectorRequests

namespace ElementType

/-- The names of element types that take no mark. -/
def plainNames : List (String × ElementType) :=
  [("bool", .bool), ("bool_", .bool),
   ("int8", .int .int8), ("byte", .int .int8),
   ("uint8", .int .uint8), ("ubyte", .int .uint8),
   ("int16", .int .int16), ("short", .int .int16),
   ("uint16", .int .uint16), ("ushort", .int .uint16),
   ("int32", .int .int32), ("intc", .int .int32),
   ("uint32", .int .uint32), ("uintc", .int .uint32),
   ("int64", .int .int64), ("int", .int .int64), ("int_", .int .int64),
   ("long", .int .int64), ("longlong", .int .int64), ("intp", .int .int64),
   ("uint64", .int .uint64), ("uint", .int .uint64), ("ulong", .int .uint64),
   ("ulonglong", .int .uint64), ("uintp", .int .uint64),
   ("float16", .float .half), ("half", .float .half),
   ("float32", .float .single), ("single", .float .single),
   ("float64", .float .double), ("double", .float .double), ("float", .float .double)]

/-- The names of element types that may follow a mark. -/
def shortNames : List (String × ElementType) :=
  [("?", .bool), ("b1", .bool),
   ("b", .int .int8), ("i1", .int .int8), ("B", .int .uint8), ("u1", .int .uint8),
   ("h", .int .int16), ("i2", .int .int16), ("H", .int .uint16), ("u2", .int .uint16),
   ("i", .int .int32), ("i4", .int .int32), ("I", .int .uint32), ("u4", .int .uint32),
   ("l", .int .int64), ("q", .int .int64), ("p", .int .int64), ("n", .int .int64),
   ("i8", .int .int64),
   ("L", .int .uint64), ("Q", .int .uint64), ("P", .int .uint64), ("N", .int .uint64),
   ("u8", .int .uint64),
   ("e", .float .half), ("f2", .float .half),
   ("f", .float .single), ("f4", .float .single),
   ("d", .float .double), ("f8", .float .double)]

/-- The byte order that a mark gives. -/
def markedOrder? (c : Char) : Option ByteOrder :=
  match c with
  | '>' => some .big
  | '<' => some .little
  | '=' => some .little
  | '|' => some .little
  | _ => none

/-- The byte order of cells of a type that are marked with one. -/
def effectiveOrder (t : ElementType) (order : ByteOrder) : ByteOrder :=
  if t.byteCount = 1 then .little else order

/-- The element type and byte order with a name. -/
def ofName? (s : String) : Option (ElementType × ByteOrder) :=
  match (plainNames ++ shortNames).lookup s with
  | some t => some (t, .little)
  | none =>
    match s.toList with
    | [] => none
    | mark :: rest => do
      let order ← markedOrder? mark
      let t ← shortNames.lookup (String.ofList rest)
      return (t, t.effectiveOrder order)

end ElementType

end VectorRequests
