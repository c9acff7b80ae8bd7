/-
# Integers of a fixed width

An integer format is a width in bytes and whether its numbers are signed. Its
words are bit vectors; `wrap` keeps the low bits of an integer, and an integer
fits when its word stands for the integer itself.
-/

namespace VectorRequests

-- Powers are those of the core library, whichever monoids are in scope.
attribute [local instance (high)] instPowNat

/-- The width and signedness of stored integers. -/
structure IntFormat where
  signed : Bool
  byteCount : Nat
  deriving DecidableEq, Repr

namespace IntFormat

def int8 : IntFormat := ⟨true, 1⟩
def int16 : IntFormat := ⟨true, 2⟩
def int32 : IntFormat := ⟨true, 4⟩
def int64 : IntFormat := ⟨true, 8⟩
def uint8 : IntFormat := ⟨false, 1⟩
def uint16 : IntFormat := ⟨false, 2⟩
def uint32 : IntFormat := ⟨false, 4⟩
def uint64 : IntFormat := ⟨false, 8⟩

variable (f : IntFormat)

/-- The bits of a word. -/
def bits : Nat := 8 * f.byteCount

/-- The words of a format. -/
abbrev Word : Type := BitVec f.bits

/-- The integer a word stands for. -/
def value (w : f.Word) : Int :=
  if f.signed then w.toInt else w.toNat

/-- The word with the low bits of an integer. -/
def wrap (i : Int) : f.Word :=
  BitVec.ofInt f.bits i

/-- The least integer of the format. -/
def least : Int :=
  if f.signed then -(2 ^ (f.bits - 1)) else 0

/-- The greatest integer of the format. -/
def greatest : Int :=
  if f.signed then 2 ^ (f.bits - 1) - 1 else 2 ^ f.bits - 1

/-- The word of an integer that fits. -/
def ofInt? (i : Int) : Option f.Word :=
  if f.value (f.wrap i) = i then some (f.wrap i) else none

theorem wrap_value (w : f.Word) : f.wrap (f.value w) = w := by
  unfold wrap value
  split
  · exact BitVec.ofInt_toInt
  · simp

end IntFormat

end VectorRequests
