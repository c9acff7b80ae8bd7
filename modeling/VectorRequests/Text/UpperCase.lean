/-
# Upper case names

Names of metrics are written in ASCII capitals. `upperName` raises a text as far
as that can produce an ASCII capital: the ASCII letters, and the few others whose
capital form is ASCII. Every other character has no ASCII capital form, so it
keeps a text from naming a metric whatever its own capital is, and is left alone.
-/

namespace VectorRequests.Text

/-- The capital form of a character, where that is ASCII, else the character. -/
def upperChar (c : Char) : List Char :=
  match c.toNat with
  | 0xDF => ['S', 'S']
  | 0x131 => ['I']
  | 0x17F => ['S']
  | 0xFB00 => ['F', 'F']
  | 0xFB01 => ['F', 'I']
  | 0xFB02 => ['F', 'L']
  | 0xFB03 => ['F', 'F', 'I']
  | 0xFB04 => ['F', 'F', 'L']
  | 0xFB05 => ['S', 'T']
  | 0xFB06 => ['S', 'T']
  | _ => [c.toUpper]

/-- A text in ASCII capitals, as far as it has them. -/
def upperName (s : String) : String :=
  String.ofList (s.toList.flatMap upperChar)

end VectorRequests.Text
