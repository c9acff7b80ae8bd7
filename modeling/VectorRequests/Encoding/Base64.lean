/-
# Base64

Three bytes are written as four letters of six bits each; equals signs fill up the
last four. Reading goes letter by letter through groups of four. Padding ends the
text once it completes a group of at least two letters, and a text that ends
without padding must end with a group.

The strict reader refuses foreign characters, letters after padding, padding at
the start and anything after the end. The lenient reader skips foreign characters,
takes up again after padding that completes nothing, and ignores what follows the
end.
-/

import VectorRequests.Error

namespace VectorRequests.Base64

/-- The letter of six bits. -/
def letter (n : Nat) : Char :=
  let n := n % 64
  if n < 26 then Char.ofNat ('A'.toNat + n)
  else if n < 52 then Char.ofNat ('a'.toNat + (n - 26))
  else if n < 62 then Char.ofNat ('0'.toNat + (n - 52))
  else if n = 62 then '+'
  else '/'

/-- The six bits of a letter. -/
def sextet? (c : Char) : Option Nat :=
  if 'A' ≤ c ∧ c ≤ 'Z' then some (c.toNat - 'A'.toNat)
  else if 'a' ≤ c ∧ c ≤ 'z' then some (c.toNat - 'a'.toNat + 26)
  else if '0' ≤ c ∧ c ≤ '9' then some (c.toNat - '0'.toNat + 52)
  else if c = '+' then some 62
  else if c = '/' then some 63
  else none

/-- The letters of bytes. -/
def encodeChars : List UInt8 → List Char
  | [] => []
  | [a] => [letter (a.toNat / 4), letter (a.toNat % 4 * 16), '=', '=']
  | [a, b] =>
    [letter (a.toNat / 4), letter (a.toNat % 4 * 16 + b.toNat / 16),
     letter (b.toNat % 16 * 4), '=']
  | a :: b :: c :: rest =>
    letter (a.toNat / 4) :: letter (a.toNat % 4 * 16 + b.toNat / 16) ::
      letter (b.toNat % 16 * 4 + c.toNat / 64) :: letter (c.toNat % 64) :: encodeChars rest

/-- The text of bytes. -/
def encode (bs : List UInt8) : String :=
  String.ofList (encodeChars bs)

/-- How far a reader is: the letters taken in the current group, the bits left over
from them, the padding seen since the last letter, and whether there was any
padding at all. -/
structure Progress where
  taken : Nat
  left : Nat
  pads : Nat
  padded : Bool

/-- Before the first letter. -/
def Progress.start : Progress := ⟨0, 0, 0, false⟩

/-- The reader after one more letter, with the byte that the letter completes. -/
def Progress.take (p : Progress) (n : Nat) : Progress × Option UInt8 :=
  match p.taken with
  | 0 => (⟨1, n, 0, p.padded⟩, none)
  | 1 => (⟨2, n % 16, 0, p.padded⟩, some (UInt8.ofNat (p.left * 4 + n / 16)))
  | 2 => (⟨3, n % 4, 0, p.padded⟩, some (UInt8.ofNat (p.left * 16 + n / 4)))
  | _ => (⟨0, 0, 0, p.padded⟩, some (UInt8.ofNat (p.left * 64 + n)))

/-- The bytes of the letters from some point on. -/
def decodeFrom (strict : Bool) : Progress → List Char → Option (List UInt8)
  | p, [] => if p.taken = 0 then some [] else none
  | p, c :: rest =>
    if c = '=' then
      if 2 ≤ p.taken then
        if 4 ≤ p.taken + p.pads + 1 then
          if strict && !rest.isEmpty then none else some []
        else decodeFrom strict { p with pads := p.pads + 1, padded := true } rest
      else decodeFrom strict { p with padded := true } rest
    else
      match sextet? c with
      | none => if strict then none else decodeFrom strict p rest
      | some n =>
        if strict && p.padded then none
        else
          let (next, byte) := p.take n
          (decodeFrom strict next rest).map (byte.toList ++ ·)

/-- The bytes of letters. -/
def decodeChars (strict : Bool) (cs : List Char) : Option (List UInt8) :=
  if strict && cs.head? == some '=' then none else decodeFrom strict .start cs

/-- The bytes of a text, which must be ASCII. -/
def decode (strict : Bool) (s : String) : Except Fault (List UInt8) :=
  if s.toList.all (·.toNat < 128) then
    match decodeChars strict s.toList with
    | some bs => .ok bs
    | none => .error .badBase64
  else
    .error .nonAscii

end VectorRequests.Base64
