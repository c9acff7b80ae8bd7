/-
# Quoted texts and bytes

A text is quoted in apostrophes, or in quotation marks when it holds an
apostrophe and no quotation mark. Inside, the quote in use and the backslash are
escaped, tabs and line ends have their letters, and every other character that is
not printable is written by its number in two, four or eight hexadecimal digits.
Bytes are quoted the same way after a `b`, with all bytes outside printable ASCII
by number.
-/

import VectorRequests.Text.Printable

namespace VectorRequests.Text

/-- The lower case hexadecimal digit of a value below sixteen. -/
def hexDigit (d : Nat) : Char :=
  if d % 16 < 10 then Char.ofNat ('0'.toNat + d % 16) else Char.ofNat ('a'.toNat + d % 16 - 10)

/-- The last `width` hexadecimal digits of a number. -/
def hexDigits : (width : Nat) → Nat → List Char
  | 0, _ => []
  | width + 1, n => hexDigits width (n / 16) ++ [hexDigit n]

namespace Quoted

/-- The quote that encloses a text. -/
def quoteFor (cs : List Char) : Char :=
  if cs.contains '\'' && !cs.contains '"' then '"' else '\''

/-- A character that is written by its number. -/
def numbered (n : Nat) : List Char :=
  if n < 0x100 then '\\' :: 'x' :: hexDigits 2 n
  else if n < 0x10000 then '\\' :: 'u' :: hexDigits 4 n
  else '\\' :: 'U' :: hexDigits 8 n

/-- A character inside a text that the given quote encloses. -/
def escape (quote c : Char) : List Char :=
  if c == quote || c == '\\' then ['\\', c]
  else if c == '\t' then ['\\', 't']
  else if c == '\n' then ['\\', 'n']
  else if c == '\r' then ['\\', 'r']
  else if isPrintable c then [c]
  else numbered c.toNat

/-- A text in quotes. -/
def text (s : String) : String :=
  let quote := quoteFor s.toList
  String.ofList (quote :: s.toList.flatMap (escape quote) ++ [quote])

/-- A byte inside bytes that the given quote encloses. -/
def escapeByte (quote : Char) (b : UInt8) : List Char :=
  if b.toNat < 0x7F then escape quote (Char.ofNat b.toNat) else numbered b.toNat

/-- Bytes in quotes. -/
def bytes (bs : List UInt8) : String :=
  let quote := quoteFor (bs.map fun b => Char.ofNat b.toNat)
  String.ofList ('b' :: quote :: bs.flatMap (escapeByte quote) ++ [quote])

end Quoted

end VectorRequests.Text
