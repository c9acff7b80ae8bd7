/-
# Storage kinds of scalar columns

A scalar column travels as one typed array. The numeric kinds store cells of one
element type; the string kind stores texts. Narrow integer columns are widened to
the 32-bit kind.
-/

import VectorRequests.Number.ElementType

namespace VectorRequests

/-- The typed arrays of numbers. -/
inductive NumericKind
  | long
  | int
  | bool
  | float
  | double
  deriving DecidableEq, Repr

/-- The typed arrays a scalar column can travel as. -/
inductive ScalarKind
  | numeric (kind : NumericKind)
  | string
  deriving DecidableEq, Repr

namespace NumericKind

/-- The element type of a numeric kind. -/
def elementType : NumericKind → ElementType
  | long => .int .int64
  | int => .int .int32
  | bool => .bool
  | float => .float .single
  | double => .float .double

end NumericKind

namespace ScalarKind

def all : List ScalarKind :=
  [.numeric .long, .numeric .int, .numeric .bool, .numeric .float, .numeric .double, .string]

def name : ScalarKind → String
  | .numeric .long => "LONG_DATA"
  | .numeric .int => "INT_DATA"
  | .numeric .bool => "BOOL_DATA"
  | .numeric .float => "FLOAT_DATA"
  | .numeric .double => "DOUBLE_DATA"
  | .string => "STRING_DATA"

def code : ScalarKind → Nat
  | .numeric .long => 1
  | .numeric .int => 2
  | .numeric .bool => 3
  | .numeric .float => 4
  | .numeric .double => 5
  | .string => 6

def ofName? (s : String) : Option ScalarKind :=
  all.find? (·.name == s)

theorem ofName?_name (k : ScalarKind) : ofName? k.name = some k := by
  rcases k with (_ | _ | _ | _ | _) | _ <;> decide

end ScalarKind

end VectorRequests
