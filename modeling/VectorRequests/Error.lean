/-
# Errors

An operation ends in one of four ways other than success. A parameter is refused,
with the cause and the field it concerns; a response cannot be read back, with the
cause and the field; a document does not fit its model, with every issue and its
place; or an operation on values fails before any check has spoken.
-/

import VectorRequests.Value
import VectorRequests.Vector.Kind

namespace VectorRequests

/-- What goes wrong in an operation on values. -/
inductive Fault
  /-- A number is too large for what it is converted to. -/
  | overflow
  /-- A value has a class the operation does not work on. -/
  | wrongType
  /-- A value of the right class has no meaning for the operation. -/
  | badValue
  /-- A value lacks the attribute the operation asks for. -/
  | missingAttribute
  /-- A mapping has no entry for the key that is asked for. -/
  | missingKey
  /-- Bytes that must be a text are none. -/
  | undecodable
  /-- Cells are stored in a way that the operation does not know. -/
  | unsupported
  /-- A text is not base64. -/
  | badBase64
  /-- A text that must be ASCII is not. -/
  | nonAscii
  deriving DecidableEq, Repr

/-- Why a parameter is refused. -/
inductive ParamFault
  | blankText (parameter : String)
  | badTimestamp (parameter : String)
  | rowNotNumeric (row : String) (type shape : String)
  | rowNotSequence (row got : String)
  | rowElement (row got : String)
  | rowOutOfRange (row : String)
  | emptyFloatVector
  | packedNotBytes (got : String)
  | emptyBinaryVector
  | numbersOutOfRange (type : String)
  | vectorPayloads
  | fieldPayloads
  | noValues
  | unsupportedType (type : Value)
  | valuesNotSequence (got : String)
  | noRows (kind : VectorKind)
  | rowNotBytes (got : String)
  | emptyRows (kind : VectorKind)
  | unequalFloatRow (index size expected : Nat)
  | unequalBinaryRow (index size expected : Nat)
  | wrongElement (type : DataType) (expected got : String)
  | elementOutOfRange (element : Value) (type : DataType)
  | illegalType (type : Value)
  | missingDimension
  | dimensionNotInteger (given : String)
  | dimensionNotPositive
  | missingType
  | emptyColumn
  | noColumns
  | notColumn (got : String)
  | repeatedColumn (name : String)
  | unequalColumns
  | illegalTopK (given : Value)
  | illegalMetric (given : Value)
  | illegalRoundDecimal
  | noTargets
  | illegalTarget (got : String)
  | mixedTargets
  | unequalTargets
  | metricForFloat (metric : Metric)
  | metricForBinary (metric : Metric)
  | notProvided (name : String)
  | autoGenerated (name : String)
  | typeMismatch (name : String)

/-- The vocabularies that documents name members of. -/
inductive Vocabulary
  | dataType
  | scalarKind
  | msgType
  | dslType
  deriving DecidableEq, Repr

/-- Why a response cannot be read back. -/
inductive ResponseFault
  | unknownMember (vocabulary : Vocabulary) (name : String)
  | unknownPlaceholderType (code : Int)
  | malformedBase64 (cause : Fault)
  | malformedArray (cause : Fault)
  | malformedGroup
  | noNumbers
  | noVectorData
  | noPayload
  | noDimension
  | invalidDimension
  | unalignedDimension (dim : Value)
  | indivisiblePayload (total : Nat) (dim : Value)
  | noScalars
  | noFloats
  | noPacked

/-- What is wrong at one place of a document. -/
inductive IssueKind
  | jsonInvalid
  | modelType
  | listType
  | missing
  | stringType
  | stringUnicode
  | intType
  | intParsing
  | intParsingSize
  | intFromFloat
  | finiteNumber
  | boolType
  | boolParsing
  deriving DecidableEq, Repr

/-- A step into a document: a key of an object or a place in a list. -/
inductive Step
  | key (name : String)
  | index (i : Nat)
  deriving DecidableEq, Repr

/-- Something wrong in a document, and where. -/
structure Issue where
  kind : IssueKind
  place : List Step
  deriving DecidableEq, Repr

/-- How an operation ends when it does not succeed. -/
inductive Error
  | refused (fault : ParamFault) (field : Value)
  | unreadable (fault : ResponseFault) (field : Value)
  | invalid (issues : List Issue)
  | failed (fault : Fault)

/-- The outcome of an operation. -/
abbrev Outcome (α : Type) := Except Error α

namespace Error

/-- Refuses a parameter that concerns no field. -/
def refuse {α : Type} (fault : ParamFault) : Outcome α :=
  .error (.refused fault .null)

/-- Refuses a parameter that concerns a field. -/
def refuseField {α : Type} (fault : ParamFault) (field : Value) : Outcome α :=
  .error (.refused fault field)

/-- Fails in an operation on values. -/
def fail {α : Type} (fault : Fault) : Outcome α :=
  .error (.failed fault)

end Error

end VectorRequests
