/-!
# Digits

Reading numbers from their digits in a base of at most sixteen. Letters count in either case.
-/

namespace ForkSchedule.Text

/-- The value of a digit. -/
def digit? (c : Char) : Option Nat :=
  if '0' ≤ c ∧ c ≤ '9' then some (c.toNat - 48)
  else if 'a' ≤ c ∧ c ≤ 'f' then some (c.toNat - 87)
  else if 'A' ≤ c ∧ c ≤ 'F' then some (c.toNat - 55)
  else none

/-- Whether a character is a digit of the base. -/
def isDigitOf (base : Nat) (c : Char) : Bool :=
  match digit? c with
  | some value => decide (value < base)
  | none => false

/-- The number that digits of the base spell, most significant first. -/
def number? (base : Nat) (digits : List Char) : Option Nat :=
  digits.foldlM
    (fun value c => if isDigitOf base c then (digit? c).map (base * value + ·) else none) 0

/-- The character with a number, unless the number is that of a surrogate or too large. -/
def char? (code : Nat) : Option Char :=
  if code.isValidChar then some (Char.ofNat code) else none

end ForkSchedule.Text
