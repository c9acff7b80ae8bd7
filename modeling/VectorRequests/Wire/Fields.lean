/-
# Numbered fields

A message is a sequence of fields. Each starts with a tag, which holds the number
of the field and the way its value is written: a variable-length number, eight or
four fixed bytes, counted bytes, or a group of further fields that ends with a tag
of its own number. `read?` takes a message apart; it fails on numbers that do not
fit, on values that run past the end, on field number zero, and on groups that do
not match or nest too deep.
-/

import VectorRequests.Wire.Varint

namespace VectorRequests.Wire

/-- The value of a field. The contents of groups are not kept. -/
inductive FieldValue
  | varint (n : Nat)
  | fixed64 (bs : List UInt8)
  | bytes (bs : List UInt8)
  | group
  | fixed32 (bs : List UInt8)
  deriving DecidableEq, Repr

/-- A field of a message. -/
structure Field where
  number : Nat
  value : FieldValue
  deriving DecidableEq, Repr

/-- The bytes of a tag. -/
def encodeTag (number form : Nat) : List UInt8 :=
  Varint.encode (number * 8 + form)

/-- The bytes of a field with a number as value. -/
def encodeNumber (number n : Nat) : List UInt8 :=
  encodeTag number 0 ++ Varint.encode n

/-- The bytes of a field with counted bytes as value. -/
def encodeBytes (number : Nat) (bs : List UInt8) : List UInt8 :=
  encodeTag number 2 ++ Varint.encode bs.length ++ bs

/-- The first bytes of a message and the rest, if there are so many. -/
def split? (count : Nat) (bs : List UInt8) : Option (List UInt8 × List UInt8) :=
  if count ≤ bs.length then some (bs.take count, bs.drop count) else none

/-- Counted bytes, and what follows them. -/
def readCounted? (bs : List UInt8) : Option (List UInt8 × List UInt8) := do
  let (count, rest) ← Varint.readCount? bs
  split? count rest

/-- The number and the form of a tag, and what follows it. -/
def readTag? (bs : List UInt8) : Option (Nat × Nat × List UInt8) := do
  let (tag, rest) ← Varint.read32? bs
  if tag / 8 = 0 then none else some (tag / 8, tag % 8, rest)

mutual

/-- The value of a field with a given number and form, and what follows it. Groups
may nest `depth` deep. -/
def readValue? (number form : Nat) : (fuel depth : Nat) → List UInt8 →
    Option (FieldValue × List UInt8)
  | 0, _, _ => none
  | fuel + 1, depth, bs =>
    match form with
    | 0 => (Varint.read64? bs).map fun (n, rest) => (.varint n, rest)
    | 1 => (split? 8 bs).map fun (value, rest) => (.fixed64 value, rest)
    | 2 => (readCounted? bs).map fun (value, rest) => (.bytes value, rest)
    | 3 =>
      match depth with
      | 0 => none
      | depth + 1 => (skipGroup? number fuel depth bs).map fun rest => (.group, rest)
    | 5 => (split? 4 bs).map fun (value, rest) => (.fixed32 value, rest)
    | _ => none

/-- What follows the end of a group with a given number. -/
def skipGroup? (number : Nat) : (fuel depth : Nat) → List UInt8 → Option (List UInt8)
  | 0, _, _ => none
  | fuel + 1, depth, bs => do
    let (inner, form, rest) ← readTag? bs
    if form = 4 then
      if inner = number then some rest else none
    else
      let (_, rest) ← readValue? inner form fuel depth rest
      skipGroup? number fuel depth rest

end

/-- The fields of a message, at most `fuel` of them. -/
def readFields? : (fuel depth : Nat) → List UInt8 → Option (List Field)
  | _, _, [] => some []
  | 0, _, _ :: _ => none
  | fuel + 1, depth, b :: bs => do
    let (number, form, rest) ← readTag? (b :: bs)
    let (value, rest) ← readValue? number form (2 * rest.length + 1) depth rest
    let fields ← readFields? fuel depth rest
    return ⟨number, value⟩ :: fields

/-- The fields of a message whose groups may nest `depth` deep. -/
def read? (depth : Nat) (bs : List UInt8) : Option (List Field) :=
  readFields? bs.length depth bs

end VectorRequests.Wire
