/-
# Attributes of values

A record has the attributes of its class, a column and a target vector have those that
describe them, and a member of a vocabulary has its name and what it is worth. Nothing
else has an attribute that this library asks for.
-/

import VectorRequests.Vector.Target

namespace VectorRequests.Value

/-- The attributes of a member of a vocabulary. -/
def memberAttribute? (name : String) (worth : Value) : String → Option Value
  | "name" => some (.text name)
  | "value" => some worth
  | _ => none

/-- The attributes of a column. -/
def columnAttribute? (name : String) (type : DataType) (values : List Value) :
    String → Option Value
  | "name" => some (.text name)
  | "data_type" => some (.dataType type)
  | "values" => some (.tuple values)
  | "row_count" => some (.int values.length)
  | _ => none

/-- The attributes of a target vector. -/
def vectorAttribute? (v : TargetVector) (name : String) : Option Value :=
  match name, v with
  | "dim", _ => some (.int v.dim)
  | "placeholder_type", _ => some (.placeholderType v.placeholderType)
  | "values", .float components _ => some (.tensor (Tensor.flat (.float .single) components))
  | "data", .binary packed _ => some (.bytes packed)
  | _, _ => none

/-- The attribute of a value with a name. -/
def get? (v : Value) (key : String) : Option Value :=
  match v with
  | .record _ attributes => attributes.lookup key
  | .column _ name type values => columnAttribute? name type values key
  | .vector v => vectorAttribute? v key
  | .dataType t => memberAttribute? t.name (.int t.code) key
  | .placeholderType t => memberAttribute? t.name (.int t.code) key
  | .msgType t => memberAttribute? t.name (.int t.code) key
  | .dslType t => memberAttribute? t.name (.int t.code) key
  | .scalarKind k => memberAttribute? k.name (.int k.code) key
  | .metric m => memberAttribute? m.name (.text m.name) key
  | _ => none

/-- The attribute of a value, which must have it. -/
def get (v : Value) (key : String) : Outcome Value :=
  match v.get? key with
  | some w => .ok w
  | none => Error.fail .missingAttribute

end VectorRequests.Value
