import ForkSchedule.Text.Invisible
import ForkSchedule.Text.Extending

/-!
# Quoted text

How a text is shown between quotation marks, so that every character of it can be told apart: the
mark itself and the backslash are escaped, four controls have short escapes, and a character that
would not show as itself is given by its code point.
-/

namespace ForkSchedule.Text

/-- The mark around quoted text. -/
def doubleMark : Char := '\x22'

/-- The mark around a quoted character. -/
def singleMark : Char := '\x27'

/-- Whether a character shows as itself. -/
def showsAsItself (c : Char) : Bool :=
  if c.toNat < 128 then decide (32 ≤ c.toNat ∧ c.toNat < 127)
  else !invisible.has c.toNat && !extending.has c.toNat

/-- The short escapes, by the character they stand for. -/
def shortEscape? (c : Char) : Option Char :=
  if c = '\x00' then some '0'
  else if c = '\t' then some 't'
  else if c = '\n' then some 'n'
  else if c = '\r' then some 'r'
  else none

/-- One character between marks. -/
def escape (mark c : Char) : List Char :=
  if c = mark ∨ c = '\\' then ['\\', c]
  else match shortEscape? c with
    | some letter => ['\\', letter]
    | none =>
      if showsAsItself c then [c]
      else '\\' :: 'u' :: '\x7b' :: (Nat.toDigits 16 c.toNat ++ ['\x7d'])

/-- A text between double marks. -/
def quoted (text : String) : String :=
  String.ofList (doubleMark :: (text.toList.flatMap (escape doubleMark) ++ [doubleMark]))

/-- A character between single marks. -/
def quotedChar (c : Char) : String :=
  String.ofList (singleMark :: (escape singleMark c ++ [singleMark]))

end ForkSchedule.Text
