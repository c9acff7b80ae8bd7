/-
# Documents of columns

A column is documented by its name, the name of its type, and its payload: scalars
as a tensor or as strings, or vectors as a tensor or in base64. The kind of the
scalars decides which of their two forms counts; of vectors, and of the two forms
of vectors, the first that is there.
-/

import VectorRequests.Document.Tensor
import VectorRequests.Schema.FieldSchema
import VectorRequests.Wire.FieldData

namespace VectorRequests

open Document

/-- The document of a named parameter. -/
structure PairDocument where
  key : String
  value : String
  deriving DecidableEq, Repr

namespace PairDocument

/-- The document with the given parts. -/
def check (v : Value) : Checked PairDocument :=
  (checkObject v).andThen fun entries =>
    ((required entries "key" checkText).map PairDocument.mk).app
      (required entries "value" checkText)

/-- The document of a parameter. -/
def ofPair (p : KeyValuePair) : Outcome PairDocument :=
  (check (.mapping [(.text "key", p.key), (.text "value", p.value)])).toOutcome

/-- The parameter of a document. -/
def toPair (d : PairDocument) : KeyValuePair :=
  ⟨.text d.key, .text d.value⟩

/-- The document as JSON. -/
def toJson (d : PairDocument) : Json :=
  .object [("key", .text d.key), ("value", .text d.value)]

end PairDocument

/-- The document of scalars. -/
structure ScalarsDocument where
  kind : String
  numeric : Option TensorDocument
  strings : Option (List String)
  deriving DecidableEq, Repr

namespace ScalarsDocument

/-- The document with the given parts. -/
def check (v : Value) : Checked ScalarsDocument :=
  (checkObject v).andThen fun entries =>
    (((required entries "kind" checkText).map ScalarsDocument.mk).app
      (optional entries "numeric" (checkOptional TensorDocument.check) none)).app
      (optional entries "strings" (checkOptional (checkList checkText)) none)

/-- The document of scalars. -/
def ofScalars : ScalarField → Outcome ScalarsDocument
  | .numeric kind cells =>
    .ok ⟨(ScalarKind.numeric kind).name,
      some (TensorDocument.ofTensor (Tensor.flat kind.elementType cells)), none⟩
  | .strings values =>
    (Checked.under (.key "strings") (checkList checkText (.list values))).map
      (fun texts => (⟨ScalarKind.string.name, none, some texts⟩ : ScalarsDocument)) |>.toOutcome

/-- The document as JSON. -/
def toJson (d : ScalarsDocument) : Json :=
  .object [("kind", .text d.kind), ("numeric", Json.optional TensorDocument.toJson d.numeric),
    ("strings", Json.optional Json.texts d.strings)]

end ScalarsDocument

/-- The document of vectors. -/
structure VectorsDocument where
  dim : Int
  floatVector : Option TensorDocument
  binaryVector : Option String
  deriving DecidableEq, Repr

namespace VectorsDocument

/-- The document with the given parts. -/
def check (v : Value) : Checked VectorsDocument :=
  (checkObject v).andThen fun entries =>
    (((required entries "dim" checkInt).map VectorsDocument.mk).app
      (optional entries "float_vector" (checkOptional TensorDocument.check) none)).app
      (optional entries "binary_vector" (checkOptional checkText) none)

/-- The document of vectors. -/
def ofVectors (v : VectorField) : Outcome VectorsDocument :=
  (Checked.under (.key "dim") (checkInt v.dim)).map
    (fun dim =>
      match v.payload with
      | .floats components =>
        (⟨dim, some (TensorDocument.ofTensor (Tensor.flat (.float .single) components)), none⟩ :
          VectorsDocument)
      | .packed bytes => ⟨dim, none, some (Base64.encode bytes)⟩) |>.toOutcome

/-- The document as JSON. -/
def toJson (d : VectorsDocument) : Json :=
  .object [("dim", .int d.dim),
    ("float_vector", Json.optional TensorDocument.toJson d.floatVector),
    ("binary_vector", Json.optional .text d.binaryVector)]

end VectorsDocument

/-- The document of a column. -/
structure ColumnDocument where
  name : String
  type : String
  scalars : Option ScalarsDocument
  vectors : Option VectorsDocument
  deriving DecidableEq, Repr

namespace Document

/-- The member of a vocabulary with a name. -/
def member {α : Type} (vocabulary : Vocabulary) (ofName? : String → Option α) (name : String) :
    Outcome α :=
  match ofName? name with
  | some a => .ok a
  | none => .error (.unreadable (.unknownMember vocabulary name) .null)

variable [OtherArrays]

/-- Whether a fault in reading an array is reported as one of the document. -/
def isReported : Fault → Bool
  | .wrongType => true
  | .badValue => true
  | .undecodable => true
  | .badBase64 => true
  | .nonAscii => true
  | _ => false

/-- The array of a document that is part of a column. -/
def arrayOf (column : Value) (d : TensorDocument) : Outcome (Tensor ⊕ OtherArrays.Array) :=
  match d.toArray with
  | .ok a => .ok a
  | .error cause =>
    if isReported cause then .error (.unreadable (.malformedArray cause) column)
    else Error.fail cause

/-- The cells that store the array of a document. -/
def storeArray (t : ElementType) : Tensor ⊕ OtherArrays.Array → Outcome (List t.Cell)
  | .inl u => Cells.store t (.tensor u)
  | .inr a => OtherArrays.store t a

/-- The bytes of a base64 text, which are read strictly. -/
def bytesOf (column : Value) (s : String) : Outcome (List UInt8) :=
  match Base64.decode true s with
  | .ok bs => .ok bs
  | .error cause => .error (.unreadable (.malformedBase64 cause) column)

end Document

namespace ColumnDocument

/-- The document with the given parts. -/
def check (v : Value) : Checked ColumnDocument :=
  (checkObject v).andThen fun entries =>
    ((((required entries "field_name" checkText).map ColumnDocument.mk).app
      (required entries "type" checkText)).app
      (optional entries "scalars" (checkOptional ScalarsDocument.check) none)).app
      (optional entries "vectors" (checkOptional VectorsDocument.check) none)

/-- The document of a payload. -/
def ofPayload : Payload → Outcome (Option ScalarsDocument × Option VectorsDocument)
  | .scalars s => do return (some (← ScalarsDocument.ofScalars s), none)
  | .vectors v => do return (none, some (← VectorsDocument.ofVectors v))

/-- The document of a column with a name and a name of its type. -/
def ofParts (name typeName : Value) (scalars : Option ScalarsDocument)
    (vectors : Option VectorsDocument) : Outcome ColumnDocument :=
  ((((Checked.under (.key "field_name") (checkText name)).map ColumnDocument.mk).app
    (Checked.under (.key "type") (checkText typeName))).map
    fun document => document scalars vectors).toOutcome

/-- The document of a column. -/
def ofFieldData (c : FieldData) : Outcome ColumnDocument := do
  let (scalars, vectors) ← ofPayload c.payload
  ofParts c.name (.text c.type.name) scalars vectors

variable [OtherArrays]

/-- The scalars of a document. -/
def readScalars (column : Value) (d : ScalarsDocument) : Outcome ScalarField := do
  let kind ← member .scalarKind ScalarKind.ofName? d.kind
  match kind, d.numeric with
  | .string, _ => ScalarField.ofValues kind (.list ((d.strings.getD []).map .text))
  | .numeric _, none => .error (.unreadable .noNumbers column)
  | .numeric kind, some numbers =>
    return .numeric kind (← storeArray kind.elementType (← arrayOf column numbers))

/-- The vectors of a document. -/
def readVectors (column : Value) (d : VectorsDocument) : Outcome VectorField :=
  match d.floatVector, d.binaryVector with
  | some components, _ => do
    return ⟨.int d.dim, .floats (← storeArray (.float .single) (← arrayOf column components))⟩
  | none, some packed => do
    VectorField.ofValues (.int d.dim) .null (.bytes (← bytesOf column packed))
  | none, none => .error (.unreadable .noVectorData column)

/-- The payload of a document: the scalars if there are any, else the vectors. -/
def readPayload (d : ColumnDocument) : Outcome Payload :=
  match d.scalars, d.vectors with
  | some scalars, _ => do return .scalars (← readScalars (.text d.name) scalars)
  | none, some vectors => do return .vectors (← readVectors (.text d.name) vectors)
  | none, none => .error (.unreadable .noPayload (.text d.name))

/-- The column of a document. -/
def toFieldData (d : ColumnDocument) : Outcome FieldData := do
  let payload ← d.readPayload
  let type ← member .dataType DataType.ofName? d.type
  return ⟨.text d.name, type, payload⟩

/-- The document as JSON. -/
def toJson (d : ColumnDocument) : Json :=
  .object [("field_name", .text d.name), ("type", .text d.type),
    ("scalars", Json.optional ScalarsDocument.toJson d.scalars),
    ("vectors", Json.optional VectorsDocument.toJson d.vectors)]

end ColumnDocument

end VectorRequests
