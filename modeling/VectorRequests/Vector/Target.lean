/-
# Search targets

A search target is a float vector or a bit-packed vector. Neither is empty. A
float vector is written as its components in four little-endian bytes each, a
bit-packed one as its bytes.
-/

import VectorRequests.Vector.Row
import VectorRequests.Vector.Kind

namespace VectorRequests.TargetVector

/-- The float vector with the components of a row. -/
def ofFloats (components : Value) : Outcome TargetVector := do
  let row ← Row.read Row.usualName components
  if h : row ≠ [] then .ok (.float row h) else Error.refuse .emptyFloatVector

/-- A bit-packed vector that is not empty. -/
def ofPacked (packed : List UInt8) : Outcome TargetVector :=
  if h : packed ≠ [] then .ok (.binary packed h) else Error.refuse .emptyBinaryVector

/-- The bit-packed vector with the given bytes. -/
def ofBytes : Value → Outcome TargetVector
  | .bytes packed => ofPacked packed
  | .buffer packed => ofPacked packed
  | v => Error.refuse (.packedNotBytes v.typeName)

/-- Dense or bit-packed. -/
def kind : TargetVector → VectorKind
  | .float .. => .float
  | .binary .. => .binary

/-- The number of dimensions. -/
def dim : TargetVector → Nat
  | .float components _ => components.length
  | .binary packed _ => packed.length * 8

/-- The bytes of a vector on the wire. -/
def toBytes : TargetVector → List UInt8
  | .float components _ => components.flatMap ((ElementType.float .single).toBytes ·)
  | .binary packed _ => packed

/-- The tag of a placeholder that holds such vectors. -/
def placeholderType (v : TargetVector) : PlaceholderType :=
  v.kind.placeholderType

end VectorRequests.TargetVector
