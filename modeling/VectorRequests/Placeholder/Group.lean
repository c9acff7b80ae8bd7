/-
# Placeholder groups

The targets of a search travel as a group of placeholders. A placeholder binds a
tag to vectors of one sort, each as its bytes. In a placeholder, field 1 is the
tag, field 2 the number of the type and field 3, once for each vector, its bytes;
in a group, field 1 is a placeholder. An empty tag and the type with number zero
are not written.

A reader skips fields it does not know. Of several tags or types the last one
counts, but every tag must be a text. A type is the low 32 bits of its number,
taken as signed; a number that stands for no type is reported only if the bytes
are in order.
-/

import VectorRequests.Text.Utf8
import VectorRequests.Value.Sequence
import VectorRequests.Wire.Fields

namespace VectorRequests

open VectorRequests.Text

/-- Vectors of one sort and the tag they are bound to. -/
structure PlaceholderValue where
  tag : String
  type : PlaceholderType
  values : List (List UInt8)
  deriving DecidableEq

/-- The placeholders of a search. -/
structure PlaceholderGroup where
  placeholders : List PlaceholderValue
  deriving DecidableEq

/-- The tag that the service binds search targets to. -/
def vectorTag : String := "$0"

namespace PlaceholderValue

/-- A placeholder with the given values as bytes. -/
def ofValues (tag : String) (type : PlaceholderType) (values : Value) :
    Outcome PlaceholderValue := do
  return ⟨tag, type, ← (← values.itemsFor Value.toBytes).mapM Value.toBytes⟩

/-- The bytes of a placeholder. -/
def encode (p : PlaceholderValue) : List UInt8 :=
  (if p.tag.isEmpty then [] else Wire.encodeBytes 1 (Utf8.encode p.tag)) ++
    (if p.type.code = 0 then [] else Wire.encodeNumber 2 p.type.code) ++
    p.values.flatMap (Wire.encodeBytes 3)

/-- A placeholder whose type may be any number. -/
structure Raw where
  tag : String
  code : Int
  values : List (List UInt8)

/-- The number of a type from a 64-bit number: its low 32 bits, signed. -/
def typeCode (n : Nat) : Int :=
  (BitVec.ofNat 32 n).toInt

/-- What one field adds to a placeholder. -/
def Raw.add (p : Raw) (field : Wire.Field) : Option Raw :=
  match field.number, field.value with
  | 1, .bytes bs => (Utf8.decode? bs).map fun tag => { p with tag := tag }
  | 2, .varint n => some { p with code := typeCode n }
  | 3, .bytes bs => some { p with values := p.values ++ [bs] }
  | _, _ => some p

/-- A placeholder in which groups may nest `depth` deep. -/
def Raw.decode? (depth : Nat) (bs : List UInt8) : Option Raw := do
  (← Wire.read? depth bs).foldlM Raw.add ⟨"", 0, []⟩

/-- The placeholder, if its number stands for a type. -/
def Raw.resolve (p : Raw) : Outcome PlaceholderValue :=
  match PlaceholderType.ofCode? p.code with
  | some type => .ok ⟨p.tag, type, p.values⟩
  | none => .error (.unreadable (.unknownPlaceholderType p.code) .null)

/-- The record as a value. -/
def toValue (p : PlaceholderValue) : Value :=
  .record .placeholderValue
    [("tag", .text p.tag), ("type", .placeholderType p.type),
     ("values", .tuple (p.values.map .bytes))]

/-- The placeholder that a value is, if its tag and its type are of the expected
classes. -/
def ofValue? : Value → Option PlaceholderValue
  | .record .placeholderValue [(_, .text tag), (_, .placeholderType type), (_, values)] =>
    (ofValues tag type values).toOption
  | _ => none

end PlaceholderValue

namespace PlaceholderGroup

/-- The group with one placeholder that holds the given vectors. -/
def ofVectors (type : PlaceholderType) (values : List (List UInt8)) (tag : String) :
    PlaceholderGroup :=
  ⟨[⟨tag, type, values⟩]⟩

/-- The bytes of a group. -/
def encode (g : PlaceholderGroup) : List UInt8 :=
  g.placeholders.flatMap fun p => Wire.encodeBytes 1 p.encode

/-- How deep messages and groups may nest. -/
def maxDepth : Nat := 100

/-- The placeholder that a field of a group holds, if it holds one. -/
def placeholder? (field : Wire.Field) : Option (List UInt8) :=
  match field.number, field.value with
  | 1, .bytes bs => some bs
  | _, _ => none

/-- The placeholders that bytes hold, with any numbers as types. -/
def decodeRaw? (bs : List UInt8) : Option (List PlaceholderValue.Raw) := do
  let fields ← Wire.read? maxDepth bs
  (fields.filterMap placeholder?).mapM (PlaceholderValue.Raw.decode? (maxDepth - 1))

/-- The group that bytes hold. -/
def decode (bs : List UInt8) : Outcome PlaceholderGroup :=
  match decodeRaw? bs with
  | some raws => do return ⟨← raws.mapM PlaceholderValue.Raw.resolve⟩
  | none => .error (.unreadable .malformedGroup .null)

/-- The record as a value. -/
def toValue (g : PlaceholderGroup) : Value :=
  .record .placeholderGroup
    [("placeholders", .tuple (g.placeholders.map PlaceholderValue.toValue))]

/-- The group that a value is, if all its placeholders are of the expected class. -/
def ofValue? : Value → Option PlaceholderGroup
  | .record .placeholderGroup [(_, .tuple placeholders)] => do
    return ⟨← placeholders.mapM PlaceholderValue.ofValue?⟩
  | _ => none

end PlaceholderGroup

end VectorRequests
