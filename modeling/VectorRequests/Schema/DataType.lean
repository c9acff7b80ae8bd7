/-
# Data types of collection fields

The declared type of a field. Every type has a name and the number that stands
for it on the wire. Two members stand for no type at all: `unrecognized` and
`none`; a column cannot have them.
-/

namespace VectorRequests

/-- The declared type of a collection field. -/
inductive DataType
  | unrecognized
  | none
  | bool
  | int8
  | int16
  | int32
  | int64
  | float
  | double
  | string
  | varchar
  | binaryVector
  | floatVector
  deriving DecidableEq, Repr

namespace DataType

/-- All data types, in the order of their numbers. -/
def all : List DataType :=
  [unrecognized, none, bool, int8, int16, int32, int64, float, double, string, varchar,
   binaryVector, floatVector]

/-- The name of a data type. -/
def name : DataType → String
  | unrecognized => "UNRECOGNIZED"
  | none => "NONE"
  | bool => "BOOL"
  | int8 => "INT8"
  | int16 => "INT16"
  | int32 => "INT32"
  | int64 => "INT64"
  | float => "FLOAT"
  | double => "DOUBLE"
  | string => "STRING"
  | varchar => "VARCHAR"
  | binaryVector => "BINARY_VECTOR"
  | floatVector => "FLOAT_VECTOR"

/-- The number of a data type on the wire. -/
def code : DataType → Int
  | unrecognized => -1
  | none => 0
  | bool => 1
  | int8 => 2
  | int16 => 3
  | int32 => 4
  | int64 => 5
  | float => 10
  | double => 11
  | string => 20
  | varchar => 21
  | binaryVector => 100
  | floatVector => 101

/-- The data type with a name. -/
def ofName? (s : String) : Option DataType :=
  all.find? (·.name == s)

/-- Whether the values of a field are vectors. -/
def isVector : DataType → Bool
  | binaryVector => true
  | floatVector => true
  | _ => false

/-- Whether a field can have this type. -/
def isProper : DataType → Bool
  | unrecognized => false
  | none => false
  | _ => true

theorem ofName?_name (t : DataType) : ofName? t.name = some t := by
  cases t <;> decide

end DataType

end VectorRequests
