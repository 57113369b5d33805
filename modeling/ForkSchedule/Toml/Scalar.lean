import ForkSchedule.Activation
import ForkSchedule.Text.Digits
import ForkSchedule.Toml.Value

/-!
# TOML scalars

Values written without quotation marks and brackets: flags, integers, floating point numbers, dates
and times. Such a value ends at the first character that cannot belong to one, so the functions
here are given the value alone. A floating point number and a moment are only recognised; nobody
asks which they are.
-/

namespace ForkSchedule.Toml

/-! ## Integers -/

/-- Digits of the base without the underscores between them, each of which has a digit on either
side. There is at least one digit. -/
def ungrouped? (base : Nat) : List Char → Option (List Char)
  | [] => none
  | [c] => if Text.isDigitOf base c then some [c] else none
  | c :: '_' :: rest =>
    if Text.isDigitOf base c then (ungrouped? base rest).map (c :: ·) else none
  | c :: rest => if Text.isDigitOf base c then (ungrouped? base rest).map (c :: ·) else none

/-- Decimal digits without a needless zero in front. -/
def whole? (cs : List Char) : Option (List Char) :=
  match ungrouped? 10 cs with
  | some ('0' :: _ :: _) => none
  | digits => digits

/-- An optional sign, and what follows it. -/
def splitSign : List Char → Bool × List Char
  | '-' :: rest => (true, rest)
  | '+' :: rest => (false, rest)
  | rest => (false, rest)

/-- An integer that fits a word of 64 bits with a sign. -/
def signedWord? (negative : Bool) (magnitude : Nat) : Option Int :=
  if negative then if magnitude ≤ wordLimit / 2 then some (-magnitude) else none
  else if magnitude < wordLimit / 2 then some magnitude else none

/-- Digits of a base other than ten, after the mark of the base. -/
def basedInteger? (base : Nat) (cs : List Char) : Option Int :=
  match ungrouped? base cs with
  | some digits => (Text.number? base digits).bind (signedWord? false)
  | none => none

/-- An integer: hexadecimal, octal, binary, or decimal with an optional sign. -/
def integer? : List Char → Option Int
  | '0' :: 'x' :: digits => basedInteger? 16 digits
  | '0' :: 'o' :: digits => basedInteger? 8 digits
  | '0' :: 'b' :: digits => basedInteger? 2 digits
  | cs =>
    match whole? (splitSign cs).2 with
    | some digits => signedWord? (splitSign cs).1 (Nat.ofDigitChars 10 digits 0)
    | none => none

/-! ## Floating point numbers -/

/-- The smallest number that no binary64 number is nearest to but infinity. -/
def firstInfinite : Nat := Nat.pow 2 1024 - Nat.pow 2 970

/-- Whether digits with a decimal exponent are at or beyond the first infinite number. Its decimal
digits are 309, so that only numbers of that length have to be compared. -/
def overflows (digits : List Char) (exponent : Int) : Bool :=
  let significand := Nat.ofDigitChars 10 digits 0
  let length : Int := (Nat.toDigits 10 significand).length + exponent
  if significand = 0 then false
  else if length < 309 then false
  else if 309 < length then true
  else
    decide (firstInfinite * Nat.pow 10 (-exponent).toNat
      ≤ significand * Nat.pow 10 exponent.toNat)

/-- The digits of a fraction, which may be missing together with its point. -/
def fraction? : List Char → Option (List Char)
  | [] => some []
  | '.' :: digits => ungrouped? 10 digits
  | _ => none

/-- The value of an exponent, which may be missing together with its letter. -/
def exponent? : List Char → Option Int
  | [] => some 0
  | _ :: power =>
    match ungrouped? 10 (splitSign power).2 with
    | some digits =>
      let magnitude : Int := Nat.ofDigitChars 10 digits 0
      some (if (splitSign power).1 then -magnitude else magnitude)
    | none => none

/-- Whether a character starts an exponent. -/
def startsExponent (c : Char) : Bool := c = 'e' || c = 'E'

/-- Whether decimal digits with a fraction, an exponent or both make a number. A number too large
for binary64 is refused if it is positive. -/
def isDecimalNumber (negative : Bool) (cs : List Char) : Bool :=
  let mantissa := cs.takeWhile fun c => !startsExponent c
  let power := cs.dropWhile fun c => !startsExponent c
  let fraction := mantissa.dropWhile (· ≠ '.')
  (!fraction.isEmpty || !power.isEmpty) &&
    match whole? (mantissa.takeWhile (· ≠ '.')), fraction? fraction, exponent? power with
    | some whole, some parts, some exponent =>
      negative || !overflows (whole ++ parts) (exponent - parts.length)
    | _, _, _ => false

/-- Whether a text is a floating point number. -/
def isDecimal (cs : List Char) : Bool :=
  let body := (splitSign cs).2
  body = "inf".toList || body = "nan".toList || isDecimalNumber (splitSign cs).1 body

/-! ## Dates and times -/

/-- The number of two decimal digits. -/
def twoDigits? (tens ones : Char) : Option Nat :=
  if tens.isDigit && ones.isDigit then some (Nat.ofDigitChars 10 [tens, ones] 0) else none

/-- Whether two digits spell a number from `low` to `high`. -/
def within (low high : Nat) (tens ones : Char) : Bool :=
  match twoDigits? tens ones with
  | some value => decide (low ≤ value ∧ value ≤ high)
  | none => false

/-- The number of days of a month. -/
def daysOfMonth (year month : Nat) : Nat :=
  if month = 2 then
    if year % 4 = 0 ∧ (year % 100 ≠ 0 ∨ year % 400 = 0) then 29 else 28
  else if month = 4 ∨ month = 6 ∨ month = 9 ∨ month = 11 then 30
  else 31

/-- What follows a date. -/
def afterDate? : List Char → Option (List Char)
  | y₁ :: y₂ :: y₃ :: y₄ :: '-' :: m₁ :: m₂ :: '-' :: d₁ :: d₂ :: rest =>
    match twoDigits? y₁ y₂, twoDigits? y₃ y₄, twoDigits? m₁ m₂ with
    | some century, some year, some month =>
      if within 1 12 m₁ m₂ && within 1 (daysOfMonth (100 * century + year) month) d₁ d₂ then
        some rest
      else none
    | _, _, _ => none
  | _ => none

/-- What follows the fraction of a second, which may be missing together with its point. -/
def afterSecondFraction? : List Char → Option (List Char)
  | '.' :: c :: rest => if c.isDigit then some (rest.dropWhile Char.isDigit) else none
  | '.' :: [] => none
  | rest => some rest

/-- What follows a time of day. A minute may have a leap second. -/
def afterTime? : List Char → Option (List Char)
  | h₁ :: h₂ :: ':' :: m₁ :: m₂ :: ':' :: s₁ :: s₂ :: rest =>
    if within 0 23 h₁ h₂ && within 0 59 m₁ m₂ && within 0 60 s₁ s₂ then afterSecondFraction? rest
    else none
  | _ => none

/-- Whether a text is an offset from universal time, which may be missing. -/
def isOffset : List Char → Bool
  | [] => true
  | ['Z'] | ['z'] => true
  | [sign, h₁, h₂, ':', m₁, m₂] =>
    (sign = '+' || sign = '-') && within 0 23 h₁ h₂ && within 0 59 m₁ m₂
  | _ => false

/-- Whether a text is a time with an optional offset. -/
def isTimeWithOffset (cs : List Char) : Bool :=
  match afterTime? cs with
  | some rest => isOffset rest
  | none => false

/-- Whether a text is a date without a time. -/
def isDate (cs : List Char) : Bool := afterDate? cs = some []

/-- Whether a text is a date, a time, or a date with a time behind the letter between them. An
offset goes with a date only. -/
def isMoment (cs : List Char) : Bool :=
  match afterDate? cs with
  | some [] => true
  | some (c :: time) => (c = 'T' || c = 't') && isTimeWithOffset time
  | none => afterTime? cs = some []

/-! ## Scalars -/

/-- The value that a text without quotation marks and brackets stands for. -/
def scalar? (cs : List Char) : Option Value :=
  if cs = "true".toList then some (.boolean true)
  else if cs = "false".toList then some (.boolean false)
  else match integer? cs with
    | some value => some (.integer value)
    | none =>
      if isDecimal cs then some .decimal
      else if isMoment cs then some .moment
      else none

end ForkSchedule.Toml
