/-
# JSON documents

A document is null, a truth value, a number, a text, a list or an object. Integers
are exact; other numbers are double floats. The entries of an object stay in the
order they were written.
-/

import VectorRequests.Value.Key

namespace VectorRequests

/-- A document. -/
inductive Json
  | null
  | bool (b : Bool)
  | int (i : Int)
  | float (x : Double)
  | text (s : String)
  | list (items : List Json)
  | object (entries : List (String × Json))

namespace Json

instance : Inhabited Json := ⟨.null⟩

mutual

/-- A document as a value. Of entries with the same name the last one counts. -/
def toValue : Json → Value
  | .null => .null
  | .bool b => .bool b
  | .int i => .int i
  | .float x => .float x
  | .text s => .text s
  | .list items => .list (itemsToValues items)
  | .object entries => .mapping (entriesToValues entries)

/-- Documents as values. -/
def itemsToValues : List Json → List Value
  | [] => []
  | x :: xs => toValue x :: itemsToValues xs

/-- The entries of an object as entries of a mapping. -/
def entriesToValues : List (String × Json) → List (Value × Value)
  | [] => []
  | (name, x) :: rest => (.text name, toValue x) :: entriesToValues rest

end

/-- Texts as a document. -/
def texts (ss : List String) : Json :=
  .list (ss.map .text)

/-- A part that may be missing. -/
def optional {α : Type} (f : α → Json) : Option α → Json
  | some a => f a
  | none => .null

end Json

end VectorRequests
