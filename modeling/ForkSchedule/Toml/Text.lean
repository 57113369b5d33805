import ForkSchedule.Text.Digits
import ForkSchedule.Toml.Character

/-!
# TOML texts

Texts between double marks know escapes, texts between single marks do not. Three marks on either
side allow line ends and single marks inside; a line end right after the opening is dropped.
-/

namespace ForkSchedule.Toml

/-- The characters of the short escapes, by the letter after the backslash. -/
def unescaped? : Char → Option Char
  | '\x22' => some '\x22'
  | '\\' => some '\\'
  | 'b' => some '\x08'
  | 'f' => some '\x0c'
  | 'n' => some '\n'
  | 'r' => some '\r'
  | 't' => some '\t'
  | _ => none

/-- The character with the number that hexadecimal digits spell. -/
def charOfDigits? (digits : List Char) : Option Char :=
  (Text.number? 16 digits).bind Text.char?

/-- A character before what has been found of a text. -/
def before (c : Char) (found : Option (List Char × List Char)) : Option (List Char × List Char) :=
  found.map fun (content, left) => (c :: content, left)

/-- The content of a text up to its closing double mark, and what follows the mark. -/
def escaped : List Char → Option (List Char × List Char)
  | [] => none
  | '\x22' :: rest => some ([], rest)
  | '\\' :: 'u' :: a :: b :: c :: d :: rest =>
    match charOfDigits? [a, b, c, d] with
    | some found => before found (escaped rest)
    | none => none
  | '\\' :: 'U' :: a :: b :: c :: d :: e :: f :: g :: h :: rest =>
    match charOfDigits? [a, b, c, d, e, f, g, h] with
    | some found => before found (escaped rest)
    | none => none
  | '\\' :: letter :: rest =>
    match unescaped? letter with
    | some found => before found (escaped rest)
    | none => none
  | c :: rest => if isPlain c then before c (escaped rest) else none

/-- Whether only white space stands before the end of the line. -/
def endsLine (cs : List Char) : Bool :=
  match skipBlank cs with
  | '\n' :: _ => true
  | '\r' :: '\n' :: _ => true
  | _ => false

/-- The content of a text up to three closing double marks. Up to two marks may stand before them.
A backslash at the end of a line takes away the line end and all white space and line ends after
it, while `trimming`. A line end always counts as one line feed. -/
def escapedLines : (trimming : Bool) → List Char → Option (List Char × List Char)
  | _, [] => none
  | _, '\x22' :: '\x22' :: '\x22' :: '\x22' :: '\x22' :: rest => some (['\x22', '\x22'], rest)
  | _, '\x22' :: '\x22' :: '\x22' :: '\x22' :: rest => some (['\x22'], rest)
  | _, '\x22' :: '\x22' :: '\x22' :: rest => some ([], rest)
  | _, '\x22' :: rest => before '\x22' (escapedLines false rest)
  | _, '\\' :: 'u' :: a :: b :: c :: d :: rest =>
    match charOfDigits? [a, b, c, d] with
    | some found => before found (escapedLines false rest)
    | none => none
  | _, '\\' :: 'U' :: a :: b :: c :: d :: e :: f :: g :: h :: rest =>
    match charOfDigits? [a, b, c, d, e, f, g, h] with
    | some found => before found (escapedLines false rest)
    | none => none
  | _, '\\' :: letter :: rest =>
    match unescaped? letter with
    | some found => before found (escapedLines false rest)
    | none => if endsLine (letter :: rest) then escapedLines true (letter :: rest) else none
  | trimming, '\r' :: '\n' :: rest =>
    if trimming then escapedLines true rest else before '\n' (escapedLines false rest)
  | trimming, '\n' :: rest =>
    if trimming then escapedLines true rest else before '\n' (escapedLines false rest)
  | trimming, c :: rest =>
    if trimming && isBlank c then escapedLines true rest
    else if isPlain c then before c (escapedLines false rest)
    else none

/-- The content of a text up to its closing single mark, and what follows the mark. -/
def literal : List Char → Option (List Char × List Char)
  | [] => none
  | '\x27' :: rest => some ([], rest)
  | c :: rest => if isPlain c then before c (literal rest) else none

/-- The content of a text up to three closing single marks. Up to two marks may stand before
them. A line end always counts as one line feed. -/
def literalLines : List Char → Option (List Char × List Char)
  | [] => none
  | '\x27' :: '\x27' :: '\x27' :: '\x27' :: '\x27' :: rest => some (['\x27', '\x27'], rest)
  | '\x27' :: '\x27' :: '\x27' :: '\x27' :: rest => some (['\x27'], rest)
  | '\x27' :: '\x27' :: '\x27' :: rest => some ([], rest)
  | '\r' :: '\n' :: rest => before '\n' (literalLines rest)
  | '\n' :: rest => before '\n' (literalLines rest)
  | c :: rest => if isPlain c then before c (literalLines rest) else none

/-- What follows a line end at the front, if there is one. -/
def dropLineEnd : List Char → List Char
  | '\n' :: rest => rest
  | '\r' :: '\n' :: rest => rest
  | rest => rest

/-- A text with its marks, and what follows it. -/
def text : List Char → Option (List Char × List Char)
  | '\x22' :: '\x22' :: '\x22' :: rest => escapedLines false (dropLineEnd rest)
  | '\x22' :: rest => escaped rest
  | '\x27' :: '\x27' :: '\x27' :: rest => literalLines (dropLineEnd rest)
  | '\x27' :: rest => literal rest
  | _ => none

/-! ## Every text takes at least its closing mark -/

/-- A character more before the content leaves what follows the text as it is. -/
@[grind →]
theorem exists_of_before {c : Char} {found : Option (List Char × List Char)}
    {content left : List Char} (hbefore : before c found = some (content, left)) :
    ∃ rest, found = some (rest, left) := by
  obtain ⟨⟨rest, left⟩, hfound, hsame⟩ := Option.map_eq_some_iff.mp hbefore
  cases hsame
  exact ⟨rest, hfound⟩

theorem escaped_length {cs content left : List Char} (htext : escaped cs = some (content, left)) :
    left.length < cs.length := by
  fun_induction escaped cs generalizing content left <;>
    simp only [List.length_nil, List.length_cons] <;> grind

theorem escapedLines_length {trimming : Bool} {cs content left : List Char}
    (htext : escapedLines trimming cs = some (content, left)) : left.length < cs.length := by
  fun_induction escapedLines trimming cs generalizing content left <;>
    simp only [List.length_nil, List.length_cons] at * <;> grind

theorem literal_length {cs content left : List Char} (htext : literal cs = some (content, left)) :
    left.length < cs.length := by
  fun_induction literal cs generalizing content left with
  | case1 => contradiction
  | case2 rest =>
      cases htext
      exact Nat.lt_add_one _
  | case3 c rest _ hplain ih =>
      obtain ⟨_, hrest⟩ := exists_of_before htext
      exact Nat.lt_add_right 1 (ih hrest)
  | case4 => contradiction

theorem literalLines_length {cs content left : List Char}
    (htext : literalLines cs = some (content, left)) : left.length < cs.length := by
  fun_induction literalLines cs generalizing content left <;>
    simp only [List.length_nil, List.length_cons] <;> grind

theorem dropLineEnd_length (cs : List Char) : (dropLineEnd cs).length ≤ cs.length := by
  unfold dropLineEnd
  split <;> grind

theorem text_length {cs content left : List Char} (htext : text cs = some (content, left)) :
    left.length < cs.length := by
  unfold text at htext
  split at htext
  next rest =>
    have := escapedLines_length htext
    have := dropLineEnd_length rest
    simp only [List.length_cons]
    omega
  next rest _ =>
    have := escaped_length htext
    simp only [List.length_cons]
    omega
  next rest =>
    have := literalLines_length htext
    have := dropLineEnd_length rest
    simp only [List.length_cons]
    omega
  next rest _ =>
    have := literal_length htext
    simp only [List.length_cons]
    omega
  · simp at htext

end ForkSchedule.Toml
