/-
# Mappings and sets of values

The keys of a mapping and the items of a set are distinct: two values are one key if
they are equal and looked up alike.
-/

import VectorRequests.Value.Equality
import VectorRequests.Value.HashTable

namespace VectorRequests.Value

/-- Whether two values are one key. -/
def isSameKey (v w : Value) : Bool :=
  v.sharesKey w &&
    match equal v w with
    | .ok answer => answer
    | .error _ => false

/-- The entry of a key. -/
def findEntry? (key : Value) (entries : List (Value × Value)) : Option (Value × Value) :=
  entries.find? fun entry => entry.1.isSameKey key

/-- A mapping in which a key has a value: in its old place if it was there, and
otherwise at the end. -/
def insertEntry (key value : Value) : List (Value × Value) → List (Value × Value)
  | [] => [(key, value)]
  | entry :: rest =>
    if entry.1.isSameKey key then (entry.1, value) :: rest
    else entry :: insertEntry key value rest

/-- The entries with one more, whose key must be one that can be looked up. -/
def putEntry (entries : List (Value × Value)) (key value : Value) :
    Outcome (List (Value × Value)) :=
  if key.isKey then .ok (insertEntry key value entries) else Error.fail .wrongType

/-- The entries of a mapping given one after the other; every key must be one that
can be looked up. -/
def mappingOf (entries : List (Value × Value)) : Outcome (List (Value × Value)) :=
  if entries.all fun entry => entry.1.isKey then
    .ok (entries.foldl (fun found entry => insertEntry entry.1 entry.2 found) [])
  else
    Error.fail .wrongType

/-- The set of the given items; every item must be one that can be looked up. -/
def setOf (xs : List Value) : Outcome Value :=
  if xs.all isKey then
    .ok (.set (walkOrder (xs.foldl (fun found x =>
      if found.any (isSameKey · x) then found else found ++ [x]) [])))
  else
    Error.fail .wrongType

end VectorRequests.Value
