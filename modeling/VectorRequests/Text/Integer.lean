/-
# Integers written as text

An integer text is an optional run of blanks, an optional sign, digits of any
script with single underscores allowed between two digits, and again blanks.
ASCII information separators are no blanks here. More than `maxDigits` digits are
refused. `write` gives the canonical text: a minus sign where needed and ASCII
digits without leading zeros. An integer has such a text only if it is short enough for
its text to be read again.
-/

import VectorRequests.Text.Blank
import VectorRequests.Text.Digit

namespace VectorRequests.Text.Integer

/-- The longest run of digits that is read or written. -/
def maxDigits : Nat := 4300

/-- Digits separated by single underscores, most significant first. A run neither
starts nor ends with an underscore. -/
def digitRun (digit? : Char → Option Nat) : List Char → Option (List Nat)
  | [] => none
  | [c] => (digit? c).map ([·])
  | c :: '_' :: rest => do
    let d ← digit? c
    let ds ← digitRun digit? rest
    return d :: ds
  | c :: rest => do
    let d ← digit? c
    let ds ← digitRun digit? rest
    return d :: ds

/-- The number with the given digits, most significant first. -/
def ofDigits (ds : List Nat) : Nat :=
  ds.foldl (fun n d => 10 * n + d) 0

/-- A sign, if there is one, and what follows it. -/
def splitSign : List Char → Bool × List Char
  | '-' :: rest => (true, rest)
  | '+' :: rest => (false, rest)
  | rest => (false, rest)

/-- The integer with a sign and a magnitude. -/
def signed (negative : Bool) (n : Nat) : Int :=
  if negative then -(n : Int) else n

/-- Reads an integer text. -/
def read? (s : String) : Option Int := do
  let (negative, rest) := splitSign (trimBoth isWhiteSpace s.toList)
  let ds ← digitRun digit? rest
  if ds.length ≤ maxDigits then
    return signed negative (ofDigits ds)
  else
    none

/-- The digits of a number in base ten, most significant first. -/
def digitsOf (n : Nat) : List Nat :=
  if n < 10 then [n] else digitsOf (n / 10) ++ [n % 10]
termination_by n

/-- The canonical text of a natural number. -/
def writeNat (n : Nat) : List Char :=
  (digitsOf n).map digitChar

/-- The canonical text of an integer. -/
def write (i : Int) : String :=
  String.ofList (if i < 0 then '-' :: writeNat i.natAbs else writeNat i.natAbs)

/-- An integer with no more digits than are read or written. -/
def IsShort (i : Int) : Prop :=
  (writeNat i.natAbs).length ≤ maxDigits

/-- Whether a number has no more digits than a count. -/
def fits : (count : Nat) → Nat → Bool
  | 0, _ => false
  | count + 1, n => n < 10 || fits count (n / 10)

theorem digitsOf_of_lt {n : Nat} (h : n < 10) : digitsOf n = [n] := by
  rw [digitsOf, if_pos h]

theorem digitsOf_of_le {n : Nat} (h : 10 ≤ n) : digitsOf n = digitsOf (n / 10) ++ [n % 10] := by
  rw [digitsOf, if_neg (by omega)]

theorem digitsOf_ne_nil (n : Nat) : digitsOf n ≠ [] := by
  by_cases h : n < 10
  · simp [digitsOf_of_lt h]
  · simp [digitsOf_of_le (by omega : 10 ≤ n)]

theorem fits_iff {count n : Nat} : fits count n = true ↔ (digitsOf n).length ≤ count := by
  induction count generalizing n with
  | zero => simp [fits, digitsOf_ne_nil]
  | succ count ih =>
      by_cases h : n < 10
      · simp [fits, h, digitsOf_of_lt h]
      · simp [fits, h, digitsOf_of_le (by omega : 10 ≤ n), ih]

instance (i : Int) : Decidable (IsShort i) :=
  decidable_of_iff (fits maxDigits i.natAbs = true) <| by
    rw [fits_iff, IsShort, writeNat, List.length_map]

end VectorRequests.Text.Integer
