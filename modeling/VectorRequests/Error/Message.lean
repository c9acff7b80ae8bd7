/-
# The wording of errors

Every cause has one message. The full text of an error adds, in brackets, the
parameter and the field it concerns, or for a response the field and the cause; there is
none if the field has no text.
-/

import VectorRequests.Error
import VectorRequests.Value.Written

namespace VectorRequests

open VectorRequests.Text

namespace IssueKind

/-- The name of an issue. -/
def name : IssueKind → String
  | jsonInvalid => "json_invalid"
  | modelType => "model_type"
  | listType => "list_type"
  | missing => "missing"
  | stringType => "string_type"
  | stringUnicode => "string_unicode"
  | intType => "int_type"
  | intParsing => "int_parsing"
  | intParsingSize => "int_parsing_size"
  | intFromFloat => "int_from_float"
  | finiteNumber => "finite_number"
  | boolType => "bool_type"
  | boolParsing => "bool_parsing"

end IssueKind

namespace Vocabulary

def name : Vocabulary → String
  | dataType => "DataType"
  | scalarKind => "ScalarKind"
  | msgType => "MsgType"
  | dslType => "DslType"

end Vocabulary

/-- A message followed by its details in brackets, if it has any. -/
def withDetails (message : String) (details : List (String × String)) : String :=
  if details.isEmpty then message
  else
    message ++ " (" ++ ", ".intercalate (details.map fun (label, s) => label ++ "=" ++ s) ++ ")"

/-- A detail with its text; one that is null does not count. -/
def detailOf? (label : String) : Value → Outcome (Option (String × String))
  | .null => .ok none
  | v => do return some (label, ← v.shownText)

/-- The text of an error with any message and any details. Without details the message is
the text, so it must be one. -/
def describe (message : Value) (details : List (String × Value)) : Outcome String := do
  let given := (← details.mapM fun (label, v) => detailOf? label v).filterMap id
  match message with
  | .text s => return withDetails s given
  | v => if given.isEmpty then Error.fail .wrongType else return withDetails (← v.shownText) given

/-- The field as a detail, unless there is none. -/
def fieldDetail (field : Value) : Outcome (List (String × String)) := do
  return (← detailOf? "field" field).toList

namespace ParamFault

/-- The message of a refused parameter. -/
def message : ParamFault → String
  | blankText parameter => parameter ++ " cannot be null or empty"
  | badTimestamp parameter => "The " ++ parameter ++ " must be a non-negative integer"
  | rowNotNumeric row type shape =>
    row ++ " must be a 1-D numeric array, got " ++ type ++ " with shape " ++ shape
  | rowNotSequence row got => row ++ " must be a list of floats, got " ++ got
  | rowElement row got => row ++ " must be a list of floats, got element of type " ++ got
  | rowOutOfRange row => row ++ " values must be within float32 range"
  | emptyFloatVector => "Float vector cannot be empty"
  | packedNotBytes got => "Binary vector must be bytes, got " ++ got
  | emptyBinaryVector => "Binary vector cannot be empty"
  | numbersOutOfRange type => "Values out of range for " ++ type
  | vectorPayloads => "VectorField must hold exactly one of float_vector or binary_vector"
  | fieldPayloads => "FieldData must hold exactly one of scalars or vectors"
  | noValues => "Cannot generate FieldData from null object"
  | unsupportedType type => "Cannot support this dataType: " ++ type.display
  | valuesNotSequence got => "Values of field must be a list, got " ++ got
  | noRows kind => kind.name ++ " field must have at least one row"
  | rowNotBytes got => "The type of BinaryVector must be bytes, got " ++ got
  | emptyRows kind => kind.name ++ " rows cannot be empty"
  | unequalFloatRow index size expected =>
    "Vector dimension must be equal: row " ++ toString index ++ " has " ++ toString size ++
      ", expected " ++ toString expected
  | unequalBinaryRow index size expected =>
    "Vector dimension must be equal: row " ++ toString index ++ " has " ++ toString size ++
      " bytes, expected " ++ toString expected
  | wrongElement type expected got =>
    "The " ++ type.name ++ " field expects " ++ expected ++ " values, got " ++ got
  | elementOutOfRange element type =>
    "Value " ++ element.display ++ " is out of range for " ++ type.name
  | illegalType type => "Field data type is illegal: " ++ type.display
  | missingDimension => "Vector field dimension must be specified"
  | dimensionNotInteger given => "Vector field dimension must be an integer, got " ++ given
  | dimensionNotPositive => "Vector field dimension must be larger than zero"
  | missingType => "Field data type must be specified"
  | emptyColumn => "Field value cannot be empty"
  | noColumns => "Fields cannot be empty"
  | notColumn got => "Field must be an InsertParam Field, got " ++ got
  | repeatedColumn name => "Duplicated field name: " ++ name
  | unequalColumns => "Row count of fields must be equal"
  | illegalTopK given => "TopK value is illegal: " ++ given.display
  | illegalMetric given => "Metric type is illegal: " ++ given.display
  | illegalRoundDecimal => "round_decimal can not be larger than 6 or less than -1"
  | noTargets => "Target vectors can not be empty"
  | illegalTarget got =>
    "Search target vector type is illegal(Only allow FloatVector or BinaryVector), got " ++ got
  | mixedTargets => "Target vectors must be all float vectors or all binary vectors"
  | unequalTargets => "Target vector dimension must be equal"
  | metricForFloat metric =>
    "Target vector is float but metric type is incorrect: " ++ metric.name
  | metricForBinary metric =>
    "Target vector is binary but metric type is incorrect: " ++ metric.name
  | notProvided name => "The field: " ++ name ++ " is not provided."
  | autoGenerated name =>
    "The primary key: " ++ name ++ " is auto generated, no need to input."
  | typeMismatch name =>
    "The field: " ++ name ++ " data type doesn't match the collection schema."

/-- The parameter that a cause concerns, where it is a single one. -/
def parameter? : ParamFault → Option String
  | blankText parameter => parameter
  | badTimestamp parameter => parameter
  | noColumns => "Fields"
  | notColumn _ => "Fields"
  | illegalTopK _ => "TopK"
  | illegalMetric _ => "Metric type"
  | metricForFloat _ => "Metric type"
  | metricForBinary _ => "Metric type"
  | illegalRoundDecimal => "round_decimal"
  | noTargets => "Vectors"
  | illegalTarget _ => "Vectors"
  | mixedTargets => "Vectors"
  | unequalTargets => "Vectors"
  | _ => none

/-- The full text of a refused parameter. -/
def text (fault : ParamFault) (field : Value) : Outcome String := do
  return withDetails fault.message
    ((fault.parameter?.map fun parameter => ("param", parameter)).toList ++ (← fieldDetail field))

end ParamFault

/-- What made a response unreadable below the level of this library's checks. -/
inductive Cause
  | unknownName
  | undecodable
  | fault (fault : Fault)
  deriving DecidableEq, Repr

namespace ResponseFault

/-- The message of an unreadable response. -/
def message : ResponseFault → String
  | unknownMember vocabulary name => "Unknown " ++ vocabulary.name ++ ": " ++ name
  | unknownPlaceholderType code => "Unknown placeholder type: " ++ Integer.write code
  | malformedBase64 _ => "Malformed base64 payload"
  | malformedArray _ => "Malformed numpy payload"
  | malformedGroup => "Malformed placeholder group"
  | noNumbers => "Numeric scalar field carries no data"
  | noVectorData => "Vector field carries no data"
  | noPayload => "Field data carries no payload"
  | noDimension => "Non-vector field has no dimension"
  | invalidDimension => "Vector field carries no valid dimension"
  | unalignedDimension dim =>
    "Binary vector dimension " ++ dim.display ++ " is not a multiple of 8"
  | indivisiblePayload total dim =>
    "Vector payload of size " ++ toString total ++ " is not a multiple of dim " ++ dim.display
  | noScalars => "Scalar field carries no scalar data"
  | noFloats => "Float vector field carries no float data"
  | noPacked => "Binary vector field carries no binary data"

/-- The cause below a fault, where there is one. -/
def cause? : ResponseFault → Option Cause
  | unknownMember .. => some .unknownName
  | unknownPlaceholderType _ => some (.fault .badValue)
  | malformedBase64 cause => some (.fault cause)
  | malformedArray cause => some (.fault cause)
  | malformedGroup => some .undecodable
  | _ => none

/-- The cause in words, for the faults that word it themselves. -/
def causeText? : ResponseFault → Option String
  | unknownMember _ name => some (Quoted.text name)
  | unknownPlaceholderType code => some (Integer.write code ++ " is not a valid PlaceholderType")
  | _ => none

/-- The full text of an unreadable response. It is not worded where the cause is a
fault of an operation on values. -/
def text? (fault : ResponseFault) (field : Value) : Outcome (Option String) :=
  match fault.cause?, fault.causeText? with
  | none, _ => do return some (withDetails fault.message (← fieldDetail field))
  | some _, some cause => do
    return some (withDetails fault.message ((← fieldDetail field) ++ [("cause", cause)]))
  | some _, none => .ok none

end ResponseFault

end VectorRequests
