import CheckKeeper.Value.Basic

namespace CheckKeeper

open Calendar

/-! Values as messages show them.

`display` marks texts by quotes and names every value by the form that builds it;
`plain` writes a text as it is.  A value is shown by neither if it holds an integer
of too many digits.
-/

namespace Value

mutual

def display : Value → String
  | .null => "None"
  | .bool true => "True"
  | .bool false => "False"
  | .int number => Number.renderInt number
  | .float number => Number.renderFloat number
  | .text content => Text.quotedText content
  | .moment point => point.describe
  | .day date => date.describe
  | .list items => "[" ++ Text.join ", " (displayItems items) ++ "]"
  | .record fields => "\x7b" ++ Text.join ", " (displayFields fields) ++ "\x7d"

def displayItems : List Value → List String
  | [] => []
  | item :: rest => item.display :: displayItems rest

def displayFields : List (Value × Value) → List String
  | [] => []
  | (name, value) :: rest => (name.display ++ ": " ++ value.display) :: displayFields rest

end

def plain : Value → String
  | .text content => content
  | .moment point => point.renderWith ' '
  | .day date => date.render
  | value => value.display

mutual

/-- Whether a value holds an integer of more digits than are written. -/
def hasLongNumber : Value → Bool
  | .int number => Number.digitLimit < Number.decimalLength number.natAbs
  | .list items => itemsHaveLongNumber items
  | .record fields => fieldsHaveLongNumber fields
  | _ => false

def itemsHaveLongNumber : List Value → Bool
  | [] => false
  | item :: rest => item.hasLongNumber || itemsHaveLongNumber rest

def fieldsHaveLongNumber : List (Value × Value) → Bool
  | [] => false
  | (name, value) :: rest =>
      name.hasLongNumber || value.hasLongNumber || fieldsHaveLongNumber rest

end

end Value

end CheckKeeper
