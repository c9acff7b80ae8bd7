/-
# Variable-length numbers

A number is written seven bits to a byte, least significant bits first; the top
bit of a byte says that another one follows. A reader takes a bounded number of
bytes and refuses numbers above its limit.
-/

namespace VectorRequests.Varint

-- Powers are those of the core library, whichever monoids are in scope.
attribute [local instance (high)] instPowNat

/-- The bytes of a number. -/
def encode (n : Nat) : List UInt8 :=
  if n < 128 then [UInt8.ofNat n]
  else UInt8.ofNat (128 + n % 128) :: encode (n / 128)
termination_by n

/-- Reads a number of at most `maxBytes` bytes whose bits are worth `scale` times
their usual value, and adds it to `low`. -/
def readFrom (limit : Nat) : (maxBytes scale low : Nat) → List UInt8 →
    Option (Nat × List UInt8)
  | maxBytes + 1, scale, low, b :: rest =>
    let n := low + b.toNat % 128 * scale
    if limit < n then none
    else if b.toNat < 128 then some (n, rest)
    else readFrom limit maxBytes (scale * 128) n rest
  | _, _, _, _ => none

/-- Reads a number of up to 64 bits, and what follows it. -/
def read64? (bs : List UInt8) : Option (Nat × List UInt8) :=
  readFrom (2 ^ (64 : Nat) - 1) 10 1 0 bs

/-- Reads how many of the bytes that follow belong together. A count has up to 64 bits, or
as many as it takes to count all that follows. -/
def readCount? (bs : List UInt8) : Option (Nat × List UInt8) :=
  readFrom (max (2 ^ (64 : Nat) - 1) bs.length) (max 10 (encode bs.length).length) 1 0 bs

/-- Reads a number of up to 32 bits in at most five bytes, and what follows it. -/
def read32? (bs : List UInt8) : Option (Nat × List UInt8) :=
  readFrom (2 ^ (32 : Nat) - 1) 5 1 0 bs

end VectorRequests.Varint
