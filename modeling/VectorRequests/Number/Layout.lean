/-
# Tensors written as text

The rows of a tensor stand in nested brackets. Along the last dimension the cells are
set on lines of a limited width; along the others every row starts a line of its own.
A tensor with very many cells shows only a few rows at both ends of each long
dimension, and its cells are aligned as if it held no others.

`Tensor.write` is the plain text; `Tensor.quote` also names what the text leaves open:
the shape of a tensor that is empty or not shown whole, and an element type that is not
the usual one of its class.
-/

import VectorRequests.Number.Aligned

namespace VectorRequests

/-- The longest line of a written tensor. -/
def lineWidth : Nat := 75

/-- Tensors with more cells are not shown whole. -/
def maxShownCells : Nat := 1000

/-- How many rows are shown at each end of a dimension that is not shown whole. -/
def edgeRows : Nat := 3

/-- What stands for the rows that are not shown. -/
def omission : List Char := "...".toList

/-- A text without blanks at its end. -/
def trimRight (s : List Char) : List Char :=
  (s.reverse.dropWhile (· == ' ')).reverse

/-- The first and the last rows of a dimension. -/
def edges {α : Type} (xs : List α) : List α :=
  xs.take edgeRows ++ xs.drop (xs.length - edgeRows)

/-- Sets words on lines, the first of which has already begun. A word that does not fit
starts a new line, unless the line holds nothing yet. A separator follows every word but
the last. -/
def fillLines (separator indent : List Char) (width : Nat) : (line : List Char) →
    List (List Char) → List Char
  | line, [] => line
  | line, word :: words =>
    let rest (line : List Char) : List Char :=
      fillLines separator indent width (line ++ word ++ if words.isEmpty then [] else separator)
        words
    if width < line.length + word.length ∧ indent.length < line.length then
      trimRight line ++ '\n' :: rest indent
    else
      rest line

/-- A dimension of a written tensor: how many rows are shown, and whether there are
more in the middle. -/
structure Axis where
  shown : Nat
  hasGap : Bool

namespace Axis

/-- The rows of a dimension with something in the place of those that are not shown. -/
def withGap (a : Axis) (rows : List (List Char)) : List (List Char) :=
  if a.hasGap then rows.take edgeRows ++ omission :: rows.drop edgeRows else rows

/-- A dimension of which only the edges are shown if it is long. -/
def ofCount (abridged : Bool) (count : Nat) : Axis :=
  if abridged ∧ 2 * edgeRows < count then ⟨2 * edgeRows, true⟩ else ⟨count, false⟩

end Axis

/-- The cells at the edges of every long dimension. -/
def edgeCells {α : Type} : (shape : List Nat) → List α → List α
  | [], cells => cells
  | count :: rest, cells =>
    let rows := (List.range count).map fun k =>
      (cells.drop (k * cellCount rest)).take (cellCount rest)
    ((if 2 * edgeRows < count then edges rows else rows).map (edgeCells rest)).flatten

/-- The texts of cells in nested brackets; `indent` blanks stand in front of every line
but the first. -/
def brackets (separator : List Char) : List Axis → (indent width : Nat) →
    List (List Char) → List Char
  | [], _, _, texts => texts.flatten
  | [axis], indent, width, texts =>
    let blanks := List.replicate indent ' '
    '[' :: (fillLines separator blanks (width - 1) blanks (axis.withGap texts)).drop indent ++ [']']
  | axis :: rest, indent, width, texts =>
    let cells := cellCount (rest.map Axis.shown)
    let rows := (List.range axis.shown).map fun k =>
      brackets separator rest (indent + 1) (width - 1) ((texts.drop (k * cells)).take cells)
    let lineEnd := trimRight separator ++ List.replicate rest.length '\n' ++
      List.replicate indent ' '
    '[' :: lineEnd.intercalate (axis.withGap rows) ++ [']']

namespace Tensor

/-- Whether a tensor is shown only in part. -/
def isAbridged (t : Tensor) : Bool :=
  maxShownCells < t.cells.length

/-- The texts of the cells that are shown. Only a tensor without dimensions shows a
truth value without a blank in front of it. -/
def shownTexts (t : Tensor) : List (List Char) :=
  let cells := if t.isAbridged then edgeCells t.shape t.cells else t.cells
  if t.shape.isEmpty ∧ t.type = .bool then cells.map fun c => (t.type.write c).toList
  else t.type.alignedTexts cells

/-- The rows of a tensor in nested brackets. -/
def writeRows (t : Tensor) (separator : String) (indent width : Nat) : List Char :=
  if t.cells.isEmpty then ['[', ']']
  else
    brackets separator.toList (t.shape.map (Axis.ofCount t.isAbridged)) indent width t.shownTexts

/-- The plain text of a tensor. -/
def write (t : Tensor) : String :=
  if t.shape.isEmpty then "".intercalate (t.cells.map t.type.write)
  else String.ofList (t.writeRows " " 1 lineWidth)

/-- Whether the texts of its cells show the element type of a tensor. -/
def isUsual (t : Tensor) : Bool :=
  !t.cells.isEmpty && t.order == .little &&
    (t.type == .bool || t.type == .int .int64 || t.type == .float .double)

/-- The name of the element type of a tensor, in quotes if it is marked. -/
def quoteType (t : Tensor) : String :=
  if t.typeName = t.type.name then t.typeName else "'" ++ t.typeName ++ "'"

/-- What the rows of a tensor leave open about it. -/
def details (t : Tensor) : List String :=
  let hidesShape := t.isAbridged || t.cells.isEmpty && t.shape != [0]
  (if hidesShape then ["shape=" ++ shapeText t.shape] else []) ++
    (if t.isUsual then [] else ["dtype=" ++ t.quoteType])

/-- The length of the last line of a text. -/
def lastLineLength (s : List Char) : Nat :=
  (s.reverse.takeWhile (· != '\n')).length

/-- How a quoted tensor begins. -/
def opening : List Char := "array(".toList

/-- A tensor with what its rows leave open. That goes on a new line if it does not fit
on the last one. -/
def quote (t : Tensor) : String :=
  let rows := opening ++ t.writeRows ", " (opening.length + 1) (lineWidth - 1)
  match t.details with
  | [] => String.ofList (rows ++ [')'])
  | details =>
    let rows := rows ++ [',']
    let details := (", ".intercalate details).toList ++ [')']
    let space :=
      if lineWidth < lastLineLength rows + details.length + 1 then
        '\n' :: List.replicate opening.length ' '
      else [' ']
    String.ofList (rows ++ space ++ details)

end Tensor

end VectorRequests
