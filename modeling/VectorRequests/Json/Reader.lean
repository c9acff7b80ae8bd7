/-
# Reading JSON

Reading follows the grammar of JSON strictly and also takes the names of the
floats that are no finite numbers. Refused are integers of more than 4300 digits,
halves of surrogate pairs, lists and objects nested deeper than `maxDepth`, and
anything but blanks around the document.
-/

import VectorRequests.Float.Written
import VectorRequests.Json.Basic
import VectorRequests.Text.Integer

namespace VectorRequests.Json

open VectorRequests.Text

/-- How deep lists and objects may nest. -/
def maxDepth : Nat := 200

/-- The blanks between the parts of a document. -/
def isSpace (c : Char) : Bool :=
  c = ' ' || c = '\t' || c = '\n' || c = '\r'

/-- The value of a hexadecimal digit. -/
def hexValue? (c : Char) : Option Nat :=
  if '0' ≤ c ∧ c ≤ '9' then some (c.toNat - '0'.toNat)
  else if 'a' ≤ c ∧ c ≤ 'f' then some (c.toNat - 'a'.toNat + 10)
  else if 'A' ≤ c ∧ c ≤ 'F' then some (c.toNat - 'A'.toNat + 10)
  else none

/-- The number with four hexadecimal digits. -/
def unit? (a b c d : Char) : Option Nat := do
  return (← hexValue? a) * 4096 + (← hexValue? b) * 256 + (← hexValue? c) * 16 + (← hexValue? d)

/-- The character that a letter after a backslash stands for. -/
def escaped? (c : Char) : Option Char :=
  match c with
  | '"' => some '"'
  | '\\' => some '\\'
  | '/' => some '/'
  | 'b' => some '\x08'
  | 'f' => some '\x0c'
  | 'n' => some '\n'
  | 'r' => some '\r'
  | 't' => some '\t'
  | _ => none

/-- The character of a code unit that is no half of a pair. -/
def single? (n : Nat) : Option Char :=
  if n.isValidChar then some (Char.ofNat n) else none

/-- The character of a pair of code units. -/
def pair? (high low : Nat) : Option Char :=
  if 0xD800 ≤ high ∧ high < 0xDC00 ∧ 0xDC00 ≤ low ∧ low < 0xE000 then
    some (Char.ofNat (0x10000 + (high - 0xD800) * 0x400 + (low - 0xDC00)))
  else
    none

/-- The characters of a text up to its closing quotation mark, and what follows. -/
def readText? : List Char → Option (List Char × List Char)
  | [] => none
  | '"' :: rest => some ([], rest)
  | '\\' :: 'u' :: a :: b :: c :: d :: rest => do
    let high ← unit? a b c d
    match single? high with
    | some ch => return ((← readText? rest).map (ch :: ·) id)
    | none =>
      match rest with
      | '\\' :: 'u' :: a :: b :: c :: d :: rest =>
        let ch ← pair? high (← unit? a b c d)
        return ((← readText? rest).map (ch :: ·) id)
      | _ => none
  | '\\' :: c :: rest => do
    let ch ← escaped? c
    return ((← readText? rest).map (ch :: ·) id)
  | c :: rest =>
    if c.toNat < 0x20 || c = '\\' then none
    else do return ((← readText? rest).map (c :: ·) id)

/-- The digits at the start of a text, and what follows. -/
def takeDigits (s : List Char) : List Char × List Char :=
  (s.takeWhile Char.isDigit, s.dropWhile Char.isDigit)

/-- The digits of a fraction, which may be missing, and what follows. -/
def readFraction? : List Char → Option (List Char × List Char)
  | '.' :: rest =>
    let (digits, rest) := takeDigits rest
    if digits.isEmpty then none else some (digits, rest)
  | rest => some ([], rest)

/-- The exponent, if there is one, and what follows. -/
def readExponent? : List Char → Option (Option Int × List Char)
  | [] => some (none, [])
  | c :: rest =>
    if c = 'e' ∨ c = 'E' then
      let (negative, rest) := Integer.splitSign rest
      let (digits, rest) := takeDigits rest
      if digits.isEmpty then none
      else (digits.mapM asciiDigit?).map fun ds =>
        (some (Integer.signed negative (Integer.ofDigits ds)), rest)
    else
      some (none, c :: rest)

/-- The number of its parts: an integer if it has neither fraction nor exponent. -/
def number? (negative : Bool) (whole fraction : List Char) (exponent : Option Int) :
    Option Json := do
  let digits ← (whole ++ fraction).mapM asciiDigit?
  let n := Integer.ofDigits digits
  match fraction, exponent with
  | [], none =>
    if whole.length ≤ Integer.maxDigits then some (.int (Integer.signed negative n)) else none
  | _, _ =>
    let x : Decimal := ⟨n, exponent.getD 0 - fraction.length⟩
    some (.float (Binary.ofDecimal .double negative x))

/-- A number, and what follows. -/
def readNumber? (s : List Char) : Option (Json × List Char) := do
  let (negative, s) := match s with
    | '-' :: rest => (true, rest)
    | rest => (false, rest)
  let (whole, rest) := takeDigits s
  if whole.isEmpty ∨ (whole.head? = some '0' ∧ 1 < whole.length) then
    none
  else
    let (fraction, rest) ← readFraction? rest
    let (exponent, rest) ← readExponent? rest
    return (← number? negative whole fraction exponent, rest)

/-- The names of documents without parts. -/
def names : List (List Char × Json) :=
  [("null".toList, .null), ("true".toList, .bool true), ("false".toList, .bool false),
   ("NaN".toList, .float .nan),
   ("Infinity".toList, .float (.ofRank false FloatFormat.double.infinityRank)),
   ("-Infinity".toList, .float (.ofRank true FloatFormat.double.infinityRank))]

/-- A named document, and what follows. -/
def readName? (s : List Char) : Option (Json × List Char) :=
  names.findSome? fun (name, j) =>
    if name.isPrefixOf s then some (j, s.drop name.length) else none

/-- What follows the blanks at the start of a text. -/
def skipSpace (s : List Char) : List Char :=
  s.dropWhile isSpace

mutual

/-- A document, and what follows. Lists and objects may nest `depth` deep. -/
def readValue? : (fuel depth : Nat) → List Char → Option (Json × List Char)
  | 0, _, _ => none
  | fuel + 1, depth, s =>
    match skipSpace s with
    | '"' :: rest => (readText? rest).map fun (cs, rest) => (.text (String.ofList cs), rest)
    | '[' :: rest =>
      match depth with
      | 0 => none
      | depth + 1 =>
        match skipSpace rest with
        | ']' :: rest => some (.list [], rest)
        | rest => (readItems? fuel depth rest).map fun (items, rest) => (.list items, rest)
    | '\x7b' :: rest =>
      match depth with
      | 0 => none
      | depth + 1 =>
        match skipSpace rest with
        | '\x7d' :: rest => some (.object [], rest)
        | rest =>
          (readEntries? fuel depth rest).map fun (entries, rest) => (.object entries, rest)
    | s => (readName? s).or (readNumber? s)

/-- The items of a list up to its end, and what follows. -/
def readItems? : (fuel depth : Nat) → List Char → Option (List Json × List Char)
  | 0, _, _ => none
  | fuel + 1, depth, s => do
    let (item, rest) ← readValue? fuel depth s
    match skipSpace rest with
    | ',' :: rest =>
      let (items, rest) ← readItems? fuel depth rest
      return (item :: items, rest)
    | ']' :: rest => return ([item], rest)
    | _ => none

/-- The entries of an object up to its end, and what follows. -/
def readEntries? : (fuel depth : Nat) → List Char → Option (List (String × Json) × List Char)
  | 0, _, _ => none
  | fuel + 1, depth, s => do
    match skipSpace s with
    | '"' :: rest =>
      let (name, rest) ← readText? rest
      match skipSpace rest with
      | ':' :: rest =>
        let (value, rest) ← readValue? fuel depth rest
        let entry := (String.ofList name, value)
        match skipSpace rest with
        | ',' :: rest =>
          let (entries, rest) ← readEntries? fuel depth rest
          return (entry :: entries, rest)
        | '\x7d' :: rest => return ([entry], rest)
        | _ => none
      | _ => none
    | _ => none

end

/-- The document that a text holds. -/
def read? (s : String) : Option Json :=
  match readValue? (2 * s.length + 1) maxDepth s.toList with
  | some (j, rest) => if (skipSpace rest).isEmpty then some j else none
  | none => none

end VectorRequests.Json
