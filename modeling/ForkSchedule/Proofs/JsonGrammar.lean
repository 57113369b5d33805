import ForkSchedule.Proofs.IntegerText
import Mathlib.Data.List.Chain

/-!
# The grammar of JSON tokens

How each token of a JSON text may be written, and how a list of tokens stands in a text with white
space around them.
-/

namespace ForkSchedule.Json

/-- White space between tokens. -/
def IsGap (cs : List Char) : Prop := ∀ c ∈ cs, isSpace c = true

/-- Digits, of which there is at least one. -/
def IsDigits (cs : List Char) : Prop := cs ≠ [] ∧ ∀ c ∈ cs, c.isDigit = true

/-- The fraction of a number, which may be missing together with its point. -/
inductive IsFraction : List Char → Prop
  | missing : IsFraction []
  | point {digits : List Char} (hdigits : IsDigits digits) : IsFraction ('.' :: digits)

/-- The sign of an exponent, which may be missing. -/
inductive IsSign : List Char → Prop
  | missing : IsSign []
  | plus : IsSign ['+']
  | minus : IsSign ['-']

/-- The exponent of a number, which may be missing together with its letter. -/
inductive IsExponent : List Char → Prop
  | missing : IsExponent []
  | power {letter : Char} {sign digits : List Char} (hletter : letter = 'e' ∨ letter = 'E')
      (hsign : IsSign sign) (hdigits : IsDigits digits) : IsExponent (letter :: (sign ++ digits))

/-- The ways to write a piece of a string. -/
inductive IsPiece : List Char → Piece → Prop
  | plain {c : Char} (hplain : IsPlain c) : IsPiece [c] (.char c)
  | short {letter c : Char} (hletter : unescaped? letter = some c) :
      IsPiece ['\\', letter] (.char c)
  | unit {a b c d : Char} {code : Nat} (hcode : Text.number? 16 [a, b, c, d] = some code) :
      IsPiece ['\\', 'u', a, b, c, d] (.unit code)

/-- The ways to write the inside of a string. -/
inductive IsInside : List Char → List Piece → Prop
  | nil : IsInside [] []
  | cons {cs rest : List Char} {piece : Piece} {others : List Piece} (hpiece : IsPiece cs piece)
      (hrest : IsInside rest others) : IsInside (cs ++ rest) (piece :: others)

/-- The ways to write a token. -/
inductive Spelling : List Char → Token → Prop
  | openBrace : Spelling ['\x7b'] .openBrace
  | closeBrace : Spelling ['\x7d'] .closeBrace
  | openBracket : Spelling ['['] .openBracket
  | closeBracket : Spelling [']'] .closeBracket
  | colon : Spelling [':'] .colon
  | comma : Spelling [','] .comma
  | null : Spelling ['n', 'u', 'l', 'l'] .null
  | flag (value : Bool) : Spelling (flagText value) (.boolean value)
  | integer (integer : Text.Integer) :
      Spelling integer.chars (.number (.ofMagnitude integer.negative integer.magnitude))
  | decimal (integer : Text.Integer) {fraction exponent : List Char}
      (hfraction : IsFraction fraction) (hexponent : IsExponent exponent)
      (hsome : fraction ++ exponent ≠ []) :
      Spelling (integer.chars ++ (fraction ++ exponent)) (.number .decimal)
  | text {inside : List Char} {found : List Piece} (hinside : IsInside inside found) :
      Spelling ('\x22' :: (inside ++ ['\x22'])) (.text (characters found))

/-- The ways to write a list of tokens, with any white space around each of them. -/
inductive Written : List Token → List Char → Prop
  | nil {gap : List Char} (hgap : IsGap gap) : Written [] gap
  | cons {gap text rest : List Char} {token : Token} {others : List Token} (hgap : IsGap gap)
      (hspelling : Spelling text token) (hrest : Written others rest) :
      Written (token :: others) (gap ++ (text ++ rest))

/-- Whether a token is a number. A number ends only at a character that cannot belong to one. -/
def Token.isNumber : Token → Bool
  | .number _ => true
  | _ => false

/-- No two numbers stand beside each other. -/
def NumbersApart (tokens : List Token) : Prop :=
  tokens.IsChain fun token next => token.isNumber = true → next.isNumber = false

end ForkSchedule.Json
