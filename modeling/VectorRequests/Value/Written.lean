/-
# Values written as text

A value is written in one of three ways. `Value.quote` shows what it is: texts in
quotes, members of vocabularies with their class, sized numbers with their type.
`Value.write` is the plain text of a value, which shows the value's worth and
quotes only what stands inside a collection. `Value.display` is the text of a
value inside a message; it differs from the plain text only for narrow floats, alone or
as the only cell of a tensor without dimensions. All three say what the text would be;
`Value.plainText` and `Value.shownText` fail for a value that has none.
-/

import VectorRequests.Number.Layout
import VectorRequests.Text.Quoted
import VectorRequests.Value.Text

namespace VectorRequests

/-- The text of an attribute, given what its value is. The parameters of a field type
are a view of a mapping that nobody can write to. -/
def RecordKind.quoteAttribute (kind : RecordKind) (name quoted : String) : String :=
  if kind = .fieldType ∧ name = "type_params" then "mappingproxy(" ++ quoted ++ ")"
  else quoted

namespace Value

open VectorRequests.Text

/-- A member of a vocabulary with its class and its number. -/
def quoteMember (vocabulary name worth : String) : String :=
  "<" ++ vocabulary ++ "." ++ name ++ ": " ++ worth ++ ">"

/-- The terms of a range call. -/
def quoteRange (start stop step : Int) : String :=
  let bounds := Integer.write start ++ ", " ++ Integer.write stop
  "range(" ++ (if step = 1 then bounds else bounds ++ ", " ++ Integer.write step) ++ ")"

/-- A target vector with its components. -/
def quoteVector : TargetVector → String
  | .float components _ =>
    "FloatVector(values=" ++ (Tensor.flat (.float .single) components).quote ++ ")"
  | .binary packed _ => "BinaryVector(data=" ++ Quoted.bytes packed ++ ")"

/-- A data type with its class and number. -/
def quoteType (t : DataType) : String :=
  quoteMember "DataType" t.name (Integer.write t.code)

/-- The texts of the items of a tuple in brackets; a single one keeps its comma. -/
def quoteTuple : List String → String
  | [item] => "(" ++ item ++ ",)"
  | items => "(" ++ ", ".intercalate items ++ ")"

mutual

/-- What a value is. -/
def quote : Value → String
  | .null => "None"
  | .bool b => writeBool b
  | .int i => Integer.write i
  | .float x => x.write
  | .text s => Quoted.text s
  | .bytes bs => Quoted.bytes bs
  | .buffer bs => "bytearray(" ++ Quoted.bytes bs ++ ")"
  | .list xs => "[" ++ ", ".intercalate (quoteAll xs) ++ "]"
  | .tuple xs => quoteTuple (quoteAll xs)
  | .set [] => "set()"
  | .set xs => "\x7b" ++ ", ".intercalate (quoteAll xs) ++ "\x7d"
  | .range start stop step => quoteRange start stop step
  | .mapping entries => "\x7b" ++ ", ".intercalate (quoteEntries entries) ++ "\x7d"
  | .sized type cell => type.quote cell
  | .tensor t => t.quote
  | .dataType t => quoteType t
  | .placeholderType t => quoteMember "PlaceholderType" t.name (Integer.write t.code)
  | .msgType t => quoteMember "MsgType" t.name (Integer.write t.code)
  | .dslType t => quoteMember "DslType" t.name (Integer.write t.code)
  | .scalarKind k => quoteMember "ScalarKind" k.name (Integer.write k.code)
  | .metric m => quoteMember "MetricType" m.name (Quoted.text m.name)
  | .vector v => quoteVector v
  | .column _ name type values =>
    "Field(name=" ++ Quoted.text name ++ ", data_type=" ++ quoteType type ++
      ", values=" ++ quoteTuple (quoteAll values) ++ ")"
  | .record kind attributes =>
    kind.name ++ "(" ++ ", ".intercalate (quoteAttributes kind attributes) ++ ")"
  | .object _ _ _ quoted => quoted

/-- What each of several values is. -/
def quoteAll : List Value → List String
  | [] => []
  | x :: xs => x.quote :: quoteAll xs

/-- What the keys and values of a mapping are. -/
def quoteEntries : List (Value × Value) → List String
  | [] => []
  | (key, value) :: rest => (key.quote ++ ": " ++ value.quote) :: quoteEntries rest

/-- What the attributes of a record are. -/
def quoteAttributes (kind : RecordKind) : List (String × Value) → List String
  | [] => []
  | (name, value) :: rest =>
    (name ++ "=" ++ kind.quoteAttribute name value.quote) :: quoteAttributes kind rest

end

/-- The plain text of a value. -/
def write : Value → String
  | .text s => s
  | .sized type cell => type.write cell
  | .tensor t => t.write
  | .dataType t => Integer.write t.code
  | .placeholderType t => Integer.write t.code
  | .msgType t => Integer.write t.code
  | .dslType t => Integer.write t.code
  | .scalarKind k => "ScalarKind." ++ k.name
  | .metric m => "MetricType." ++ m.name
  | .object _ _ plain _ => plain
  | v => v.quote

/-- The text of a value inside a message. -/
def display : Value → String
  | .sized type cell => type.display cell
  | .tensor ⟨type, _, [], [cell], _⟩ => type.display cell
  | v => v.write

/-- The plain text of a value, which must have one. -/
def plainText (v : Value) : Outcome String :=
  v.withText (.ok v.write)

/-- The text inside a message of a value, which must have one. -/
def shownText (v : Value) : Outcome String :=
  v.withText (.ok v.display)

end Value

end VectorRequests
