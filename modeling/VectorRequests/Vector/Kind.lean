/-
# The two kinds of vectors

A vector is dense, with single floats as components, or bit-packed, with eight
dimensions in a byte.
-/

import VectorRequests.Schema.DataType
import VectorRequests.Wire.Kind

namespace VectorRequests

/-- Dense or bit-packed. -/
inductive VectorKind
  | float
  | binary
  deriving DecidableEq, Repr

namespace VectorKind

/-- The name of the kind in messages. -/
def name : VectorKind → String
  | float => "FloatVector"
  | binary => "BinaryVector"

/-- The data type of a column of such vectors. -/
def dataType : VectorKind → DataType
  | float => .floatVector
  | binary => .binaryVector

/-- The tag of a placeholder that holds such vectors. -/
def placeholderType : VectorKind → PlaceholderType
  | float => .floatVector
  | binary => .binaryVector

end VectorKind

end VectorRequests
