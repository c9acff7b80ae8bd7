/-
# Integers in documents

Where a document needs an integer, a text may stand for it: white space around it,
one sign, leading zeros, single underscores between digits and a fraction of
nothing but zeros are allowed. Digits are ASCII here.
-/

import VectorRequests.Text.Integer

namespace VectorRequests.Document

open VectorRequests.Text

/-- Why a text is no integer. -/
inductive IntegerFault
  | noInteger
  | tooLong
  deriving DecidableEq, Repr

/-- The text from the first digit on that is not a leading zero; of nothing but
zeros and underscores the last character is left, and of zeros before a point the
last one. -/
def dropZeros (last : Char) : List Char → Option (List Char)
  | [] => some [last]
  | c :: rest =>
    if c = '0' ∨ c = '_' then dropZeros c rest
    else if c = '.' then some (last :: c :: rest)
    else if c.isDigit then some (c :: rest)
    else none

/-- The text without leading zeros, which must start with a digit. -/
def stripZeros : List Char → Option (List Char)
  | '0' :: rest => dropZeros '0' rest
  | c :: rest => if c.isDigit then some (c :: rest) else none
  | [] => none

/-- The text without a fraction of nothing but zeros. -/
def stripFraction (s : List Char) : List Char :=
  match s.dropWhile (· ≠ '.') with
  | _ :: fraction => if fraction.all (· = '0') then s.takeWhile (· ≠ '.') else s
  | [] => s

/-- The integer that a text stands for. -/
def readInteger (s : String) : Except IntegerFault Int :=
  let (negative, s) := Integer.splitSign (trimBoth isWhiteSpace s.toList)
  match (stripZeros s).map stripFraction with
  | none => .error .noInteger
  | some s =>
    match Integer.digitRun asciiDigit? s with
    | none => .error .noInteger
    | some ds =>
      if ds.length ≤ Integer.maxDigits then .ok (Integer.signed negative (Integer.ofDigits ds))
      else .error .tooLong

end VectorRequests.Document
