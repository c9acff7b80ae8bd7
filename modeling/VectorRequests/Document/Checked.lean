/-
# Checking documents

A document is checked against a model field by field, and every issue is reported
with its place. Checks are lenient: a number may be written as a text, a truth
value as a word or as zero or one, and texts may come as bytes. What is missing
takes its default, if it has one.
-/

import VectorRequests.Error
import VectorRequests.Document.Integer
import VectorRequests.Text.Utf8
import VectorRequests.Value.Written

namespace VectorRequests.Document

open VectorRequests.Text

-- Powers are those of the core library, whichever monoids are in scope.
attribute [local instance (high)] instPowNat

/-- The outcome of a check: a result, or all issues in order. -/
inductive Checked (α : Type)
  | ok (a : α)
  | failed (issues : List Issue)

namespace Checked

/-- An issue at this place. -/
def issue {α : Type} (kind : IssueKind) : Checked α :=
  .failed [⟨kind, []⟩]

/-- The same issues, one step further away. -/
def under {α : Type} (step : Step) : Checked α → Checked α
  | .ok a => .ok a
  | .failed issues => .failed (issues.map fun i => { i with place := step :: i.place })

/-- A function of the result. -/
def map {α β : Type} (f : α → β) : Checked α → Checked β
  | .ok a => .ok (f a)
  | .failed issues => .failed issues

/-- A check that goes on from a result. -/
def andThen {α β : Type} (f : α → Checked β) : Checked α → Checked β
  | .ok a => f a
  | .failed issues => .failed issues

/-- A function applied to a result, with the issues of both. -/
def app {α β : Type} : Checked (α → β) → Checked α → Checked β
  | .ok f, .ok a => .ok (f a)
  | .ok _, .failed issues => .failed issues
  | .failed issues, .ok _ => .failed issues
  | .failed issues, .failed more => .failed (issues ++ more)

/-- The results of checking every item of a list, the first of which stands at
`start`. -/
def collect {α : Type} (check : Value → Checked α) : (start : Nat) → List Value →
    Checked (List α)
  | _, [] => .ok []
  | start, v :: vs =>
    (((check v).under (.index start)).map List.cons).app (collect check (start + 1) vs)

/-- A check as an outcome of the library. -/
def toOutcome {α : Type} : Checked α → Outcome α
  | .ok a => .ok a
  | .failed issues => .error (.invalid issues)

end Checked

/-- A text. Bytes are decoded, and members of vocabularies give their worth. -/
def checkText (v : Value) : Checked String :=
  match v, v.toInt?, v.isBool with
  | .text s, _, _ => .ok s
  | .bytes bs, _, _ =>
    match Utf8.decode? bs with
    | some s => .ok s
    | none => .issue .stringUnicode
  | .buffer bs, _, _ =>
    match Utf8.decode? bs with
    | some s => .ok s
    | none => .issue .stringUnicode
  | .scalarKind k, _, _ => .ok (Integer.write k.code)
  | .metric m, _, _ => .ok m.name
  | .int _, _, _ => .issue .stringType
  | _, some code, false => .ok (Integer.write code)
  | _, _, _ => .issue .stringType

/-- The integers whose floats are taken for integers lie between these. -/
def floatIntegerLimit : Int := 2 ^ (63 : Nat)

/-- The integer that a float is. -/
def integerOfFloat (x : Double) : Checked Int :=
  match x.toInt?, x.isFinite with
  | _, false => .issue .finiteNumber
  | none, true => .issue .intFromFloat
  | some i, true =>
    if -floatIntegerLimit < i ∧ i < floatIntegerLimit then .ok i else .issue .intParsingSize

/-- The integer that a text stands for. -/
def integerOfText (s : String) : Checked Int :=
  match readInteger s with
  | .ok i => .ok i
  | .error .noInteger => .issue .intParsing
  | .error .tooLong => .issue .intParsingSize

/-- The float that a sized number, or the cell of a tensor without dimensions, is worth. -/
def cellFloat? : Value → Option Double
  | .sized type cell => some (type.toFloat .double cell)
  | .tensor ⟨type, _, [], [cell], _⟩ => some (type.toFloat .double cell)
  | _ => none

/-- An integer. -/
def checkInt (v : Value) : Checked Int :=
  match v, v.toInt?, cellFloat? v with
  | _, some i, _ => .ok i
  | .float x, _, _ => integerOfFloat x
  | _, _, some x => integerOfFloat x
  | .text s, _, _ => integerOfText s
  | .bytes bs, _, _ =>
    match Utf8.decode? bs with
    | some s => integerOfText s
    | none => .issue .intParsing
  | .scalarKind k, _, _ => .ok k.code
  | _, _, _ => .issue .intType

/-- The words for truth values, in lower case. -/
def boolWords : List (String × Bool) :=
  [("0", false), ("off", false), ("f", false), ("false", false), ("n", false), ("no", false),
   ("1", true), ("on", true), ("t", true), ("true", true), ("y", true), ("yes", true)]

/-- The truth value that a word stands for. -/
def boolOfText (s : String) : Checked Bool :=
  match boolWords.lookup (String.ofList (s.toList.map Char.toLower)) with
  | some b => .ok b
  | none => .issue .boolParsing

/-- The truth value of zero or one. -/
def boolOfInt (i : Int) : Checked Bool :=
  if i = 0 then .ok false else if i = 1 then .ok true else .issue .boolParsing

/-- The truth value that a float stands for. -/
def boolOfFloat (x : Double) : Checked Bool :=
  match integerOfFloat x with
  | .ok i => boolOfInt i
  | .failed _ => .issue .boolType

/-- A truth value. -/
def checkBool (v : Value) : Checked Bool :=
  match v, v.toInt?, cellFloat? v with
  | .bool b, _, _ => .ok b
  | _, some i, _ =>
    if -floatIntegerLimit ≤ i ∧ i < floatIntegerLimit then boolOfInt i else .issue .boolType
  | .float x, _, _ => boolOfFloat x
  | _, _, some x => boolOfFloat x
  | .text s, _, _ => boolOfText s
  | .bytes bs, _, _ =>
    match Utf8.decode? bs with
    | some s => boolOfText s
    | none => .issue .boolParsing
  | _, _, _ => .issue .boolType

/-- A list of parts. -/
def checkList {α : Type} (check : Value → Checked α) : Value → Checked (List α)
  | .list xs => Checked.collect check 0 xs
  | .tuple xs => Checked.collect check 0 xs
  | _ => .issue .listType

/-- A part that may be null. -/
def checkOptional {α : Type} (check : Value → Checked α) : Value → Checked (Option α)
  | .null => .ok none
  | v => (check v).map some

/-- The entries of an object. -/
def checkObject : Value → Checked (List (Value × Value))
  | .mapping entries => .ok entries
  | _ => .issue .modelType

/-- The last value of a name among the entries of an object. -/
def lookup (entries : List (Value × Value)) (name : String) : Option Value :=
  entries.foldl (fun found entry =>
    match entry.1 with
    | .text s => if s = name then some entry.2 else found
    | _ => found) none

/-- A field that must be there. -/
def required {α : Type} (entries : List (Value × Value)) (name : String)
    (check : Value → Checked α) : Checked α :=
  match lookup entries name with
  | some v => (check v).under (.key name)
  | none => (Checked.issue .missing).under (.key name)

/-- A field with a default. -/
def optional {α : Type} (entries : List (Value × Value)) (name : String)
    (check : Value → Checked α) (default : α) : Checked α :=
  match lookup entries name with
  | some v => (check v).under (.key name)
  | none => .ok default

end VectorRequests.Document
