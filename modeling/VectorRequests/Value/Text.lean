/-
# Values that have a text

An integer of very many digits is not written, and neither is any value whose text would
show one: a collection that holds one, a range with such a bound, a column or a record with
such a part. Whoever asks for the text of such a value fails. An object of another class
always has its texts.
-/

import VectorRequests.Error
import VectorRequests.Text.Integer

namespace VectorRequests.Value

open VectorRequests.Text

/-- Whether the bounds of a range, and its step where it is shown, are short. -/
def isShortRange (start stop step : Int) : Bool :=
  decide (Integer.IsShort start) && decide (Integer.IsShort stop) &&
    (step = 1 || decide (Integer.IsShort step))

mutual

/-- Whether a value has a text. -/
def hasText : Value → Bool
  | .int i => decide (Integer.IsShort i)
  | .list xs => haveTexts xs
  | .tuple xs => haveTexts xs
  | .set xs => haveTexts xs
  | .range start stop step => isShortRange start stop step
  | .mapping entries => entriesHaveTexts entries
  | .column _ _ _ values => haveTexts values
  | .record _ attributes => attributesHaveTexts attributes
  | _ => true

/-- Whether several values have texts. -/
def haveTexts : List Value → Bool
  | [] => true
  | x :: xs => hasText x && haveTexts xs

/-- Whether the keys and values of a mapping have texts. -/
def entriesHaveTexts : List (Value × Value) → Bool
  | [] => true
  | (key, value) :: rest => hasText key && hasText value && entriesHaveTexts rest

/-- Whether the attributes of a record have texts. -/
def attributesHaveTexts : List (String × Value) → Bool
  | [] => true
  | (_, value) :: rest => hasText value && attributesHaveTexts rest

end

/-- What is done with the text of a value, which must have one. -/
def withText {α : Type} (v : Value) (outcome : Outcome α) : Outcome α :=
  if v.hasText then outcome else Error.fail .badValue

theorem withText_of_hasText {α : Type} {v : Value} (h : v.hasText = true) (x : Outcome α) :
    v.withText x = x := by
  rw [withText, if_pos h]

theorem withText_of_not_hasText {α : Type} {v : Value} (h : v.hasText = false) (x : Outcome α) :
    v.withText x = Error.fail .badValue := by
  rw [withText, h]
  rfl

end VectorRequests.Value
