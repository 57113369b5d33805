/-!
# Writing JSON

Compact JSON for data whose names and texts need no escapes: no space between tokens, members in
the given order.
-/

namespace ForkSchedule.Json

/-- A text in quotation marks. It must hold no mark, no backslash and no control. -/
def plainText (text : List Char) : List Char := '\x22' :: (text ++ ['\x22'])

/-- A number in decimal digits. -/
def numberText (value : Nat) : List Char := Nat.toDigits 10 value

/-- A flag. -/
def flagText : Bool → List Char
  | true => "true".toList
  | false => "false".toList

/-- Members of an object, without the braces. -/
def memberTexts : List (String × List Char) → List Char
  | [] => []
  | [(name, value)] => plainText name.toList ++ ':' :: value
  | (name, value) :: rest => plainText name.toList ++ ':' :: (value ++ ',' :: memberTexts rest)

/-- An object with members in order. -/
def objectText (members : List (String × List Char)) : List Char :=
  '\x7b' :: (memberTexts members ++ ['\x7d'])

end ForkSchedule.Json
