/-
# Placeholders of any values

Placeholder records do not check what they are given, and so a tag may be no text and a
type no member of its vocabulary. Whatever has a worth as an integer of 32 bits is
written as the number of the type, negative ones in the ten bytes of a 64-bit number;
a tag may be missing, a text, or the bytes of one. A group must hold placeholders and
nothing else.

Target vectors and integers are written as bytes too, each in its own way; their bytes
are seldom those of a group.
-/

import VectorRequests.Placeholder.Group
import VectorRequests.Value.Attribute
import VectorRequests.Value.Equality
import VectorRequests.Value.Integer

namespace VectorRequests.Unchecked

open VectorRequests.Text

-- Powers are those of the core library, whichever monoids are in scope.
attribute [local instance (high)] instPowNat

/-- The bytes of a field with a text as value; an empty text is not written. -/
def encodeText (bs : List UInt8) : List UInt8 :=
  if bs.isEmpty then [] else Wire.encodeBytes 1 bs

/-- The bytes of the tag of a placeholder. -/
def encodeTag : Value → Outcome (List UInt8)
  | .null => .ok []
  | .text s => .ok (encodeText (Utf8.encode s))
  | .bytes bs =>
    if (Utf8.decode? bs).isSome then .ok (encodeText bs) else Error.fail .undecodable
  | _ => Error.fail .wrongType

/-- The bytes of the number of a type, which must fit in 32 bits. -/
def encodeCode (code : Int) : Outcome (List UInt8) :=
  match IntFormat.int32.ofInt? code with
  | none => Error.fail .badValue
  | some _ => .ok (if code = 0 then [] else Wire.encodeNumber 2 (code % 2 ^ (64 : Nat)).toNat)

/-- The bytes of a placeholder whose type is worth an integer. -/
def encodeParts (code : Int) (tag : Value) (values : List (List UInt8)) :
    Outcome (List UInt8) := do
  let tag ← encodeTag tag
  let code ← encodeCode code
  return tag ++ code ++ values.flatMap (Wire.encodeBytes 3)

/-- The bytes that a value gives one by one. -/
def blobs (v : Value) : Outcome (List (List UInt8)) := do
  (← v.itemsFor Value.toBytes).mapM Value.toBytes

/-- What an item of a group is written as. -/
inductive Part
  | placeholder (bs : List UInt8)
  | group

/-- The bytes of a placeholder in a group. -/
def Part.bytes : Part → Outcome (List UInt8)
  | .placeholder bs => .ok (Wire.encodeBytes 1 bs)
  | .group => Error.fail .wrongType

mutual

/-- What a value in a group is written as. A group is written before it is found out
that it is no placeholder. -/
def encodePart : Value → Outcome Part
  | .record .placeholderValue [(_, tag), (_, type), (_, values)] => do
    return .placeholder (← encodeParts (← type.toInteger) tag (← blobs values))
  | .record .placeholderGroup [(_, .tuple items)] => do
    discard <| (← encodeAll items).mapM Part.bytes
    return .group
  | _ => Error.fail .missingAttribute

/-- What the values in a group are written as. -/
def encodeAll : List Value → Outcome (List Part)
  | [] => .ok []
  | v :: vs => do return (← encodePart v) :: (← encodeAll vs)

end

/-- The single byte of an integer. -/
def encodeByte (i : Int) : Outcome (List UInt8) :=
  if 0 ≤ i ∧ i < 256 then .ok [UInt8.ofNat i.toNat] else Error.fail .overflow

/-- The bytes of a value on the wire. -/
def encode (v : Value) : Outcome (List UInt8) :=
  match PlaceholderGroup.ofValue? v, v, v.toInt? with
  | some g, _, _ => .ok g.encode
  | none, .record .placeholderGroup [(_, .tuple items)], _ => do
    return (← (← encodeAll items).mapM Part.bytes).flatten
  | none, .vector target, _ => .ok target.toBytes
  | none, _, some i => encodeByte i
  | none, _, none => Error.fail .missingAttribute

/-- Whether the group that is read back from the bytes of a value equals it. -/
def survivesWire (v : Value) : Outcome Bool := do
  (← PlaceholderGroup.decode (← encode v)).toValue.equal v

/-- The group with one placeholder that holds the given vectors. -/
def ofVectors (type values tag : Value) : Outcome Value := do
  let values ← blobs values
  return .record .placeholderGroup
    [("placeholders", .tuple [.record .placeholderValue
      [("tag", tag), ("type", type), ("values", .tuple (values.map .bytes))]])]

end VectorRequests.Unchecked
