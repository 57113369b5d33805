import ForkSchedule.Text.Quoted
import ForkSchedule.Hash

/-!
# Faults of documents

Why a text is not accepted as a document. Either the text is malformed, which has no wording here,
or the data at one place is not what belongs there, which is worded the same in every format.
-/

namespace ForkSchedule.Document

/-- What a document holds at one place, as far as an error message shows it. -/
inductive Found where
  | null
  | boolean (value : Bool)
  /-- An integer of 64 bits, signed or unsigned. -/
  | integer (value : Int)
  /-- Any other number. -/
  | decimal
  | text (content : List Char)
  | sequence
  | map
  deriving DecidableEq, Repr

/-- What belongs at one place of a document. -/
inductive Expected where
  | number
  | flag
  | text
  /-- The empty value that goes with a chosen name. -/
  | unit
  /-- A record with this title. -/
  | record (title : String)
  deriving DecidableEq, Repr

/-- Why a text is not accepted. -/
inductive Fault where
  /-- The text breaks the rules of its format. -/
  | malformed
  /-- The value is of another kind than the expected one. -/
  | wrongKind (found : Found) (expected : Expected)
  /-- A number is below zero. -/
  | negative (value : Int)
  /-- A field of a record is given twice. -/
  | duplicate (field : String)
  /-- The value does not have the form of a choice. -/
  | noChoice
  /-- The name is none of the choices. -/
  | unknownVariant (name : List Char) (choices : List String)
  /-- The text is no hash. -/
  | hash (fault : HashFault)
  deriving DecidableEq, Repr

/-- A word between grave accents. -/
def Fault.marked (word : String) : String := "`" ++ word ++ "`"

/-- What was found, in words. A number that is no integer is not repeated. -/
def Found.wording? : Found → Option String
  | null => some "null"
  | boolean value => some ("boolean " ++ Fault.marked (if value then "true" else "false"))
  | integer value => some ("integer " ++ Fault.marked (toString value))
  | decimal => none
  | text content => some ("string " ++ Text.quoted (String.ofList content))
  | sequence => some "sequence"
  | map => some "map"

/-- What was expected, in words. -/
def Expected.wording : Expected → String
  | number => "u64"
  | flag => "a boolean"
  | text => "a string"
  | unit => "unit"
  | record title => "struct " ++ title

/-- The choices of a name: two are joined, more are listed. -/
def Fault.choiceWording : List String → String
  | [] => "there are no variants"
  | [only] => "expected " ++ marked only
  | [first, second] => "expected " ++ marked first ++ " or " ++ marked second
  | many => "expected one of " ++ ", ".intercalate (many.map marked)

/-- Why a text is no hash, in words. An offending byte is shown as the character with its number. -/
def hashWording : HashFault → String
  | .oddLength => "Odd number of digits"
  | .badDigit byte position =>
    "Invalid character " ++ Text.quotedChar (Char.ofNat byte.toNat) ++ " at position "
      ++ toString position
  | .wrongSize bytes => "expected 32 bytes, got " ++ toString bytes

/-- The wording of a fault in the data. A malformed text has none, nor has a value that is not
repeated. -/
def Fault.message? : Fault → Option String
  | malformed | noChoice => none
  | wrongKind found expected =>
    found.wording?.map fun wording =>
      "invalid type: " ++ wording ++ ", expected " ++ expected.wording
  | negative value =>
    some ("invalid value: integer " ++ marked (toString value) ++ ", expected "
      ++ Expected.wording .number)
  | duplicate field => some ("duplicate field " ++ marked field)
  | unknownVariant name choices =>
    some ("unknown variant " ++ marked (String.ofList name) ++ ", " ++ choiceWording choices)
  | hash fault => some (hashWording fault)

end ForkSchedule.Document
