/-
# UTF-8

The bytes of a text, and the strict reader: it accepts exactly one byte sequence
for every text, so overlong forms, surrogates and numbers past the last code
point are refused.
-/

namespace VectorRequests.Text.Utf8

/-- The bytes of one character. -/
def encodeChar (c : Char) : List UInt8 :=
  let n := c.toNat
  if n < 0x80 then [UInt8.ofNat n]
  else if n < 0x800 then [UInt8.ofNat (0xC0 + n / 64), UInt8.ofNat (0x80 + n % 64)]
  else if n < 0x10000 then
    [UInt8.ofNat (0xE0 + n / 4096), UInt8.ofNat (0x80 + n / 64 % 64), UInt8.ofNat (0x80 + n % 64)]
  else
    [UInt8.ofNat (0xF0 + n / 262144), UInt8.ofNat (0x80 + n / 4096 % 64),
     UInt8.ofNat (0x80 + n / 64 % 64), UInt8.ofNat (0x80 + n % 64)]

/-- The bytes of a text. -/
def encode (s : String) : List UInt8 :=
  s.toList.flatMap encodeChar

/-- The six bits that a continuation byte adds. -/
def continuation? (b : UInt8) : Option Nat :=
  if 0x80 ≤ b.toNat ∧ b.toNat < 0xC0 then some (b.toNat - 0x80) else none

/-- The character with a number that needs at least `least` to be written with so
many bytes. -/
def char? (least n : Nat) : Option Char :=
  if least ≤ n ∧ Nat.isValidChar n then some (Char.ofNat n) else none

/-- The characters that bytes encode. -/
def decodeChars : List UInt8 → Option (List Char)
  | [] => some []
  | a :: rest =>
    let n := a.toNat
    if n < 0x80 then
      return Char.ofNat n :: (← decodeChars rest)
    else if n < 0xC0 then
      none
    else if n < 0xE0 then
      match rest with
      | b :: rest => do
        let c ← char? 0x80 ((n - 0xC0) * 64 + (← continuation? b))
        return c :: (← decodeChars rest)
      | _ => none
    else if n < 0xF0 then
      match rest with
      | b :: b' :: rest => do
        let c ← char? 0x800
          ((n - 0xE0) * 4096 + (← continuation? b) * 64 + (← continuation? b'))
        return c :: (← decodeChars rest)
      | _ => none
    else if n < 0xF8 then
      match rest with
      | b :: b' :: b'' :: rest => do
        let c ← char? 0x10000
          ((n - 0xF0) * 262144 + (← continuation? b) * 4096 + (← continuation? b') * 64 +
            (← continuation? b''))
        return c :: (← decodeChars rest)
      | _ => none
    else
      none

/-- The text that bytes encode. -/
def decode? (bs : List UInt8) : Option String :=
  (decodeChars bs).map String.ofList

end VectorRequests.Text.Utf8
