import ForkSchedule.Text.Digits

/-!
# JSON strings

The inside of a JSON string as pieces, each a character or a UTF-16 unit given by its number. Which
pieces a string has is a matter of its form alone; whether they make characters is not, since a unit
may be half of a pair whose other half is missing.
-/

namespace ForkSchedule.Json

/-- A piece of a string: a character, or a UTF-16 unit given by its number. -/
inductive Piece where
  | char (c : Char)
  | unit (code : Nat)
  deriving DecidableEq, Repr

/-- The characters of the short escapes, by the letter after the backslash. -/
def unescaped? : Char → Option Char
  | '\x22' => some '\x22'
  | '\\' => some '\\'
  | '/' => some '/'
  | 'b' => some '\x08'
  | 'f' => some '\x0c'
  | 'n' => some '\n'
  | 'r' => some '\r'
  | 't' => some '\t'
  | _ => none

/-- The pieces of a string up to its closing mark, and what follows the mark. -/
def pieces : List Char → Option (List Piece × List Char)
  | [] => none
  | '\x22' :: rest => some ([], rest)
  | '\\' :: 'u' :: a :: b :: c :: d :: rest =>
    match Text.number? 16 [a, b, c, d] with
    | some code => (pieces rest).map fun (found, left) => (.unit code :: found, left)
    | none => none
  | '\\' :: letter :: rest =>
    match unescaped? letter with
    | some c => (pieces rest).map fun (found, left) => (.char c :: found, left)
    | none => none
  | c :: rest =>
    if c.toNat < 32 then none
    else (pieces rest).map fun (found, left) => (.char c :: found, left)

/-- Whether a UTF-16 unit is the first half of a pair. -/
def isHighHalf (code : Nat) : Bool := decide (0xD800 ≤ code ∧ code < 0xDC00)

/-- Whether a UTF-16 unit is the second half of a pair. -/
def isLowHalf (code : Nat) : Bool := decide (0xDC00 ≤ code ∧ code < 0xE000)

/-- The character of a pair of halves. -/
def joinHalves (high low : Nat) : Char :=
  Char.ofNat (0x10000 + (high - 0xD800) * 0x400 + (low - 0xDC00))

/-- The characters of a list of pieces, unless a half stands without its other half. -/
def characters : List Piece → Option (List Char)
  | [] => some []
  | .char c :: rest => (characters rest).map (c :: ·)
  | .unit high :: .unit low :: rest =>
    if isHighHalf high then
      if isLowHalf low then (characters rest).map (joinHalves high low :: ·) else none
    else match Text.char? high with
      | some c => (characters (.unit low :: rest)).map (c :: ·)
      | none => none
  | .unit code :: rest =>
    match Text.char? code with
    | some c => (characters rest).map (c :: ·)
    | none => none

/-- Reading a string takes at least its closing mark. -/
theorem pieces_length {cs left : List Char} {found : List Piece}
    (hpieces : pieces cs = some (found, left)) : left.length < cs.length := by
  fun_induction pieces cs generalizing found left with
  | case1 => simp at hpieces
  | case2 rest => simp_all
  | case3 a b c d rest code hcode ih =>
    obtain ⟨⟨found', left'⟩, hrest, heq⟩ := Option.map_eq_some_iff.1 hpieces
    have := ih hrest
    simp_all
    omega
  | case4 => simp at hpieces
  | case5 letter rest _ c hc ih =>
    obtain ⟨⟨found', left'⟩, hrest, heq⟩ := Option.map_eq_some_iff.1 hpieces
    have := ih hrest
    simp_all
    omega
  | case6 => simp at hpieces
  | case7 => simp at hpieces
  | case8 c rest _ _ _ _ ih =>
    obtain ⟨⟨found', left'⟩, hrest, heq⟩ := Option.map_eq_some_iff.1 hpieces
    have := ih hrest
    simp_all
    omega

end ForkSchedule.Json
