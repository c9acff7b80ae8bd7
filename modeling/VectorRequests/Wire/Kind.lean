/-
# Kinds of wire messages

The closed vocabularies that requests carry as numbers: which sort of vectors a
placeholder holds, what a message asks for, and which filter language a search
uses.
-/

namespace VectorRequests

/-- The sort of the vectors in a placeholder. -/
inductive PlaceholderType
  | none
  | binaryVector
  | floatVector
  deriving DecidableEq, Repr

namespace PlaceholderType

def all : List PlaceholderType := [none, binaryVector, floatVector]

def name : PlaceholderType → String
  | none => "NONE"
  | binaryVector => "BINARY_VECTOR"
  | floatVector => "FLOAT_VECTOR"

def code : PlaceholderType → Nat
  | none => 0
  | binaryVector => 100
  | floatVector => 101

def ofName? (s : String) : Option PlaceholderType :=
  all.find? (·.name == s)

/-- The placeholder type with a number. -/
def ofCode? (i : Int) : Option PlaceholderType :=
  all.find? fun t => (t.code : Int) == i

theorem ofCode?_code (t : PlaceholderType) : ofCode? t.code = some t := by
  cases t <;> decide

end PlaceholderType

/-- What a message asks the service to do. -/
inductive MsgType
  | undefined
  | insert
  deriving DecidableEq, Repr

namespace MsgType

def all : List MsgType := [undefined, insert]

def name : MsgType → String
  | undefined => "UNDEFINED"
  | insert => "INSERT"

def code : MsgType → Nat
  | undefined => 0
  | insert => 400

def ofName? (s : String) : Option MsgType :=
  all.find? (·.name == s)

theorem ofName?_name (t : MsgType) : ofName? t.name = some t := by
  cases t <;> decide

end MsgType

/-- The language of a search filter. -/
inductive DslType
  | dsl
  | boolExprV1
  deriving DecidableEq, Repr

namespace DslType

def all : List DslType := [dsl, boolExprV1]

def name : DslType → String
  | dsl => "DSL"
  | boolExprV1 => "BOOL_EXPR_V1"

def code : DslType → Nat
  | dsl => 0
  | boolExprV1 => 1

def ofName? (s : String) : Option DslType :=
  all.find? (·.name == s)

theorem ofName?_name (t : DslType) : ofName? t.name = some t := by
  cases t <;> decide

end DslType

end VectorRequests
