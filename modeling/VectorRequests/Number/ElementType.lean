/-
# Element types of stored numbers

A stored number is a truth value, an integer of a fixed width or a float. The
cells of an element type are its values; `Cell.toBytes` and `Cell.ofBytes` are
their storage form and `cast` converts a cell to another element type the way
stored numbers are converted: integers keep their low bits, floats lose their
fraction, and a float that no word can hold becomes the least word.
-/

import VectorRequests.Float.Rounding
import VectorRequests.Number.IntFormat
import VectorRequests.Number.LittleEndian

namespace VectorRequests

/-- What the elements of an array are. -/
inductive ElementType
  | bool
  | int (f : IntFormat)
  | float (f : FloatFormat)
  deriving DecidableEq, Repr

namespace ElementType

/-- The values of an element type. -/
def Cell : ElementType → Type
  | .bool => Bool
  | .int f => f.Word
  | .float f => Binary f

instance : (t : ElementType) → DecidableEq t.Cell
  | .bool => inferInstanceAs (DecidableEq Bool)
  | .int f => inferInstanceAs (DecidableEq f.Word)
  | .float f => inferInstanceAs (DecidableEq (Binary f))

instance : (t : ElementType) → Inhabited t.Cell
  | .bool => inferInstanceAs (Inhabited Bool)
  | .int f => inferInstanceAs (Inhabited f.Word)
  | .float f => inferInstanceAs (Inhabited (Binary f))

/-- The bytes of a cell. -/
def byteCount : ElementType → Nat
  | .bool => 1
  | .int f => f.byteCount
  | .float f => f.byteCount

/-- Whether the elements are integers or floats. -/
def isNumeric : ElementType → Bool
  | .bool => false
  | .int _ => true
  | .float _ => true

/-- The name of an element type. -/
def name : ElementType → String
  | .bool => "bool"
  | .int f => (if f.signed then "int" else "uint") ++ toString f.bits
  | .float f => "float" ++ toString (8 * f.byteCount)

/-- The little-endian bytes of a cell. -/
def toBytes : (t : ElementType) → t.Cell → List UInt8
  | .bool, b => [Bool.toUInt8 b]
  | .int f, w => LittleEndian.encode f.byteCount (BitVec.toNat w)
  | .float f, x => LittleEndian.encode f.byteCount (Binary.toBits x)

/-- The cell with the given little-endian bytes. Any byte but zero is true. -/
def ofBytes : (t : ElementType) → List UInt8 → t.Cell
  | .bool, bs => (LittleEndian.decode bs != 0 : Bool)
  | .int f, bs => BitVec.ofNat f.bits (LittleEndian.decode bs)
  | .float _, bs => Binary.ofBits (LittleEndian.decode bs)

/-- The float nearest to a cell. -/
def toFloat (g : FloatFormat) : (t : ElementType) → t.Cell → Binary g
  | .bool, b => Binary.nearestInt (Bool.toInt b)
  | .int f, w => Binary.nearestInt (f.value w)
  | .float _, x => Binary.convert x

/-- The integer of a cell, without a fraction. Infinities and not-a-number have
none. -/
def toInt? : (t : ElementType) → t.Cell → Option Int
  | .bool, b => some (Bool.toInt b)
  | .int f, w => some (f.value w)
  | .float _, x => Binary.truncate? x

/-- Whether a cell differs from zero. -/
def isNonzero : (t : ElementType) → t.Cell → Bool
  | .bool, b => b
  | .int f, w => (show f.Word from w) != 0
  | .float _, x => Binary.isNonzero x

/-- The word that a cell is stored as. -/
def toWord (g : IntFormat) : (t : ElementType) → t.Cell → g.Word
  | .float _, x =>
    g.wrap (((Binary.truncate? x).filter fun i => g.least ≤ i && i ≤ g.greatest).getD g.least)
  | t, c => g.wrap ((t.toInt? c).getD 0)

/-- A cell converted to another element type. -/
def cast (s : ElementType) : (t : ElementType) → s.Cell → t.Cell
  | .bool, c => s.isNonzero c
  | .int g, c => s.toWord g c
  | .float g, c => s.toFloat g c

end ElementType

end VectorRequests
