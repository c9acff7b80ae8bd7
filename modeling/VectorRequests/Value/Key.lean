/-
# Keys of values

Some values can be looked up in mappings and sets; those have a key, and values that are
equal in every respect have equal keys. Numbers are keyed by what they are worth, texts,
bytes and members of named vocabularies by how they are stored, tuples and records by
the keys of their parts. Lists, sets, mappings, tensors, growing bytes and the payloads
of columns have no key.

A float vector is keyed by its bytes on the wire, so the two zeros, though equal,
give different keys.

The keys of numbers, of nothing but empty texts and bytes, and of tuples and records of
such, are words of 64 bits that are the same every time; other keys are not.
-/

import VectorRequests.Number.Comparison
import VectorRequests.Vector.Target

namespace VectorRequests

/-- What a value is looked up by. -/
inductive Key
  | nothing
  | number (residue : Int)
  | unique
  | stored (bs : List UInt8)
  | handle (n : Nat)
  | parts (keys : List Key)
  | bag (keys : List Key)

namespace Key

/-- The words that the keys of tuples are made with. -/
def firstPrime : BitVec 64 := 11400714785074694791
def secondPrime : BitVec 64 := 14029467366897019727
def startPrime : BitVec 64 := 2870177450012600261

/-- One more item of a tuple. -/
def mixWord (acc word : BitVec 64) : BitVec 64 :=
  (acc + word * secondPrime).rotateLeft 31 * firstPrime

/-- The word of a tuple with items that have words. -/
def tupleWord (words : List (BitVec 64)) : BitVec 64 :=
  let acc := words.foldl mixWord startPrime +
    (BitVec.ofNat 64 words.length ^^^ (startPrime ^^^ 3527539))
  if acc = BitVec.allOnes 64 then 1546275796 else acc

mutual

/-- The word of a key, if it is the same every time. -/
def word? : Key → Option (BitVec 64)
  | .number residue => some (BitVec.ofInt 64 residue)
  | .stored [] => some 0
  | .parts keys => (words? keys).map tupleWord
  | _ => none

/-- The words of several keys, if all are the same every time. -/
def words? : List Key → Option (List (BitVec 64))
  | [] => some []
  | k :: ks => do return (← word? k) :: (← words? ks)

end

/-- Whether two keys of different kinds have the same word. -/
def wordsEqual (k l : Key) : Bool :=
  match k.word?, l.word? with
  | some v, some w => v == w
  | _, _ => false

mutual

/-- Whether two keys are equal. Unique keys equal no other. -/
def equal : Key → Key → Bool
  | .nothing, .nothing => true
  | .number r, .number s => r == s
  | .stored bs, .stored cs => bs == cs
  | .handle n, .handle m => n == m
  | .parts ks, .parts ls => allEqual ks ls
  | .bag ks, .bag ls => ks.length == ls.length && allIn ks ls
  | k, l => wordsEqual k l

/-- Whether two lists of keys are equal one by one. -/
def allEqual : List Key → List Key → Bool
  | [], [] => true
  | k :: ks, l :: ls => equal k l && allEqual ks ls
  | _, _ => false

/-- Whether every key of a list equals one of another list. -/
def allIn : List Key → List Key → Bool
  | [], _ => true
  | k :: ks, ls => ls.any (fun l => equal k l) && allIn ks ls

end

/-- The key of a number; not-a-number has a key of its own every time. -/
def ofExact (x : Exact) : Key :=
  match x.residue with
  | some r => .number r
  | none => .unique

/-- The bytes a text is stored as: one, two or four for each character, as the
largest character requires. -/
def storedText (s : String) : List UInt8 :=
  let largest := s.toList.foldl (fun n c => max n c.toNat) 0
  let width := if largest < 0x100 then 1 else if largest < 0x10000 then 2 else 4
  s.toList.flatMap fun c => LittleEndian.encode width c.toNat

def ofText (s : String) : Key :=
  .stored (storedText s)

/-- The key of a range: its length, and its first term and step where they
matter. -/
def ofRange (start stop step : Int) : Key :=
  let count := Value.rangeCount start stop step
  let term (needed : Bool) (i : Int) : Key :=
    if needed then ofExact (.ofInt i) else .nothing
  .parts [ofExact (.ofInt count), term (0 < count) start, term (1 < count) step]

/-- The key of a target vector. -/
def ofVector : TargetVector → Key
  | .float components h => .stored (TargetVector.float components h).toBytes
  | .binary packed _ => .parts [.stored packed]

end Key

namespace Value

/-- The number that a value is. A truth value is a cell of its own type. -/
def operand? : Value → Option Operand
  | .bool b => some (.cell .bool b)
  | .float x => some (.float x)
  | .sized type c => some (.cell type c)
  | v => v.toInt?.map .integer

/-- The key of an entry of a mapping. -/
def entryKey (key value : Option Key) : Option Key := do
  return .parts [← key, ← value]

mutual

/-- The key of a value, if it has one. -/
def key? : Value → Option Key
  | .null => some .nothing
  | .text s => some (Key.ofText s)
  | .bytes bs => some (.stored bs)
  | .tuple xs => (keys? xs).map .parts
  | .range start stop step => some (Key.ofRange start stop step)
  | .scalarKind k => some (Key.ofText k.name)
  | .metric m => some (Key.ofText m.name)
  | .vector v => some (Key.ofVector v)
  | .column handle .. => some (.handle handle)
  | .object handle .. => some (.handle handle)
  | .record .scalarField _ => none
  | .record .vectorField _ => none
  | .record kind attributes => (attributeKeys? kind attributes).map .parts
  | .list _ => none
  | .set _ => none
  | .mapping _ => none
  | .tensor _ => none
  | .buffer _ => none
  | v => v.operand?.map fun number => Key.ofExact number.worth

/-- The keys of several values, if all have one. -/
def keys? : List Value → Option (List Key)
  | [] => some []
  | x :: xs => do return (← key? x) :: (← keys? xs)

/-- The keys of attributes, if all have one. The parameters of a field type count in
any order. -/
def attributeKeys? (kind : RecordKind) : List (String × Value) → Option (List Key)
  | [] => some []
  | (name, value) :: rest => do
    let key ← match kind, name, value with
      | .fieldType, "type_params", .mapping entries => (entryKeys? entries).map .bag
      | _, _, value => key? value
    return key :: (← attributeKeys? kind rest)

/-- The keys of the entries of a mapping, if all have one. -/
def entryKeys? : List (Value × Value) → Option (List Key)
  | [] => some []
  | (key, value) :: rest => do
    return (← entryKey (key? key) (key? value)) :: (← entryKeys? rest)

end

/-- Whether a value can be looked up. -/
def isKey (v : Value) : Bool :=
  v.key?.isSome

/-- Whether two values are looked up by equal keys. -/
def sharesKey (v w : Value) : Bool :=
  match v.key?, w.key? with
  | some k, some l => k.equal l
  | _, _ => false

end Value

end VectorRequests
