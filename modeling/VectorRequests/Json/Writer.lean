/-
# Writing JSON

A document is written without blanks. In a text, quotation marks, backslashes and
control characters are escaped, and every other character stands for itself.
-/

import VectorRequests.Float.Written
import VectorRequests.Json.Basic
import VectorRequests.Text.Quoted

namespace VectorRequests.Json

open VectorRequests.Text

/-- A character inside a written text. -/
def writeChar (c : Char) : List Char :=
  if c = '"' then ['\\', '"']
  else if c = '\\' then ['\\', '\\']
  else if c.toNat < 0x20 then '\\' :: 'u' :: hexDigits 4 c.toNat
  else [c]

/-- A text in quotation marks. -/
def writeText (s : String) : List Char :=
  '"' :: s.toList.flatMap writeChar ++ ['"']

/-- A number. What is no finite number has a name. -/
def writeFloat : Double → List Char
  | .nan => "NaN".toList
  | .number negative r =>
    if r.val = FloatFormat.double.infinityRank then
      if negative then "-Infinity".toList else "Infinity".toList
    else (Binary.write (.number negative r : Double)).toList

/-- Written items with commas between them. -/
def commas : List (List Char) → List Char
  | [] => []
  | [item] => item
  | item :: items => item ++ ',' :: commas items

mutual

/-- The characters of a document. -/
def writeChars : Json → List Char
  | .null => "null".toList
  | .bool true => "true".toList
  | .bool false => "false".toList
  | .int i => (Integer.write i).toList
  | .float x => writeFloat x
  | .text s => writeText s
  | .list items => '[' :: commas (writeItems items) ++ [']']
  | .object entries => '\x7b' :: commas (writeEntries entries) ++ ['\x7d']

/-- The characters of each item of a list. -/
def writeItems : List Json → List (List Char)
  | [] => []
  | x :: xs => writeChars x :: writeItems xs

/-- The characters of each entry of an object. -/
def writeEntries : List (String × Json) → List (List Char)
  | [] => []
  | (name, x) :: rest => (writeText name ++ ':' :: writeChars x) :: writeEntries rest

end

/-- The text of a document. -/
def write (j : Json) : String :=
  String.ofList (writeChars j)

end VectorRequests.Json
