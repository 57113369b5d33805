import ForkSchedule.Json.Number
import ForkSchedule.Json.Text

/-!
# JSON tokens

A JSON text as the list of its tokens, without the white space between them. A text that stops
being JSON at some character gives the tokens before it and then a broken one, so that a reader can
report what comes first: a fault in the data or the break.
-/

namespace ForkSchedule.Json

/-- A token of a JSON text. -/
inductive Token where
  | openBrace
  | closeBrace
  | openBracket
  | closeBracket
  | colon
  | comma
  | null
  | boolean (value : Bool)
  | number (value : Numeral)
  /-- A string; without a content if an escape in it is half of a surrogate pair. -/
  | text (content : Option (List Char))
  /-- The rest of the text is not JSON. -/
  | broken
  deriving DecidableEq, Repr

/-- The characters that may stand between tokens. -/
def isSpace (c : Char) : Bool := c = ' ' || c = '\t' || c = '\n' || c = '\r'

/-- The first token of a text that does not start with white space, and what follows it. -/
def lexeme : List Char → Option (Token × List Char)
  | '\x7b' :: rest => some (.openBrace, rest)
  | '\x7d' :: rest => some (.closeBrace, rest)
  | '[' :: rest => some (.openBracket, rest)
  | ']' :: rest => some (.closeBracket, rest)
  | ':' :: rest => some (.colon, rest)
  | ',' :: rest => some (.comma, rest)
  | '\x22' :: rest => (pieces rest).map fun (found, left) => (.text (characters found), left)
  | 'n' :: 'u' :: 'l' :: 'l' :: rest => some (.null, rest)
  | 't' :: 'r' :: 'u' :: 'e' :: rest => some (.boolean true, rest)
  | 'f' :: 'a' :: 'l' :: 's' :: 'e' :: rest => some (.boolean false, rest)
  | '-' :: rest => (unsigned true rest).map fun (value, left) => (.number value, left)
  | cs => (unsigned false cs).map fun (value, left) => (.number value, left)

/-- Every token takes at least one character. -/
theorem lexeme_length {cs left : List Char} {token : Token}
    (hlexeme : lexeme cs = some (token, left)) : left.length < cs.length := by
  unfold lexeme at hlexeme
  split at hlexeme
  case h_7 rest =>
    obtain ⟨⟨found, left'⟩, hpieces, heq⟩ := Option.map_eq_some_iff.1 hlexeme
    have := pieces_length hpieces
    simp_all
    omega
  case h_11 rest =>
    obtain ⟨⟨value, left'⟩, hunsigned, heq⟩ := Option.map_eq_some_iff.1 hlexeme
    have := unsigned_length hunsigned
    simp_all
    omega
  case h_12 =>
    obtain ⟨⟨value, left'⟩, hunsigned, heq⟩ := Option.map_eq_some_iff.1 hlexeme
    have := unsigned_length hunsigned
    simp_all
  all_goals
    obtain ⟨-, rfl⟩ := by simpa using hlexeme
    simp only [List.length_cons]
    omega

/-- The tokens of a text. -/
def tokens (cs : List Char) : List Token :=
  match _ : cs.dropWhile isSpace with
  | [] => []
  | c :: rest =>
    match _ : lexeme (c :: rest) with
    | none => [.broken]
    | some (token, left) => token :: tokens left
termination_by cs.length
decreasing_by
  rename_i hspace hlexeme
  have hshort := lexeme_length hlexeme
  have hle := Text.length_dropWhile_le isSpace cs
  rw [hspace] at hle
  omega

end ForkSchedule.Json
