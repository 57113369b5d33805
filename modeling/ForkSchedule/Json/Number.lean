import ForkSchedule.Activation
import ForkSchedule.Text.Front

/-!
# JSON numbers

A number as the words of 64 bits see it: an integer that fits one, signed or unsigned, or anything
else. Integers are taken exactly, whatever their length.
-/

namespace ForkSchedule.Json

/-- A number of a JSON text. -/
inductive Numeral where
  /-- An integer that fits a signed or an unsigned word of 64 bits. -/
  | integer (value : Int)
  /-- Any other number. -/
  | decimal
  deriving DecidableEq, Repr

/-- The integer with this sign and magnitude. Minus zero is no integer. -/
def Numeral.ofMagnitude (negative : Bool) (magnitude : Nat) : Numeral :=
  if negative then
    if magnitude = 0 ∨ wordLimit / 2 < magnitude then .decimal else .integer (-magnitude)
  else if magnitude < wordLimit then .integer magnitude else .decimal

/-- What follows the fraction of a number, and whether there was one. -/
def afterFraction : List Char → Option (Bool × List Char)
  | '.' :: rest =>
    if rest.takeWhile Char.isDigit = [] then none else some (true, rest.dropWhile Char.isDigit)
  | rest => some (false, rest)

/-- What follows an optional sign. -/
def afterSign : List Char → List Char
  | '+' :: rest => rest
  | '-' :: rest => rest
  | rest => rest

/-- What follows the exponent of a number, and whether there was one. -/
def afterExponent : List Char → Option (Bool × List Char)
  | c :: rest =>
    if c = 'e' ∨ c = 'E' then
      if (afterSign rest).takeWhile Char.isDigit = [] then none
      else some (true, (afterSign rest).dropWhile Char.isDigit)
    else some (false, c :: rest)
  | [] => some (false, [])

/-- A number without its minus sign. Its whole part has no needless zero. -/
def unsigned (negative : Bool) (cs : List Char) : Option (Numeral × List Char) :=
  let whole := cs.takeWhile Char.isDigit
  if whole = [] ∨ (whole.head? = some '0' ∧ whole ≠ ['0']) then none
  else match afterFraction (cs.dropWhile Char.isDigit) with
    | none => none
    | some (fraction, rest) =>
      match afterExponent rest with
      | none => none
      | some (exponent, rest) =>
        if fraction || exponent then some (.decimal, rest)
        else some (Numeral.ofMagnitude negative (Nat.ofDigitChars 10 whole 0), rest)

/-! ## A number takes at least one character -/

theorem afterFraction_length {cs left : List Char} {fraction : Bool}
    (hafter : afterFraction cs = some (fraction, left)) : left.length ≤ cs.length := by
  unfold afterFraction at hafter
  split at hafter
  · split at hafter
    · simp at hafter
    next rest _ =>
      obtain ⟨-, rfl⟩ := by simpa using hafter
      have := Text.length_dropWhile_le Char.isDigit rest
      simp only [List.length_cons]
      omega
  · obtain ⟨-, rfl⟩ := by simpa using hafter
    exact Nat.le_refl _

theorem afterSign_length (cs : List Char) : (afterSign cs).length ≤ cs.length := by
  unfold afterSign
  split <;> simp

theorem afterExponent_length {cs left : List Char} {exponent : Bool}
    (hafter : afterExponent cs = some (exponent, left)) : left.length ≤ cs.length := by
  unfold afterExponent at hafter
  split at hafter
  next c rest =>
    split at hafter
    · split at hafter
      · simp at hafter
      · obtain ⟨-, rfl⟩ := by simpa using hafter
        have := Text.length_dropWhile_le Char.isDigit (afterSign rest)
        have := afterSign_length rest
        simp only [List.length_cons]
        omega
    · obtain ⟨-, rfl⟩ := by simpa using hafter
      exact Nat.le_refl _
  · obtain ⟨-, rfl⟩ := by simpa using hafter
    exact Nat.le_refl _

theorem unsigned_length {negative : Bool} {cs left : List Char} {numeral : Numeral}
    (hunsigned : unsigned negative cs = some (numeral, left)) : left.length < cs.length := by
  unfold unsigned at hunsigned
  simp only at hunsigned
  split at hunsigned
  · simp at hunsigned
  next hwhole =>
    have hne := Text.length_dropWhile_lt (not_or.1 hwhole).1
    split at hunsigned
    · simp at hunsigned
    next fraction rest hfraction =>
      have hle := afterFraction_length hfraction
      split at hunsigned
      · simp at hunsigned
      next exponent last hexponent =>
        have hlast := afterExponent_length hexponent
        split at hunsigned
        · obtain ⟨-, rfl⟩ := by simpa using hunsigned
          omega
        · obtain ⟨-, rfl⟩ := by simpa using hunsigned
          omega

end ForkSchedule.Json
