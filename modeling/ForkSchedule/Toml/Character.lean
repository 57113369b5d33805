import ForkSchedule.Text.Front

/-!
# Characters of a TOML text

The classes of characters that the grammar of TOML is built from.
-/

namespace ForkSchedule.Toml

/-- White space within a line. -/
def isBlank (c : Char) : Bool := c = ' ' || c = '\t'

/-- Characters that stand for themselves in comments and texts: all but the controls, and among
those the tabulator. -/
def isPlain (c : Char) : Bool := c = '\t' || (decide (32 ≤ c.toNat) && decide (c.toNat ≠ 127))

/-- Characters of a key without quotation marks. -/
def isBare (c : Char) : Bool := c.isAlphanum || c = '-' || c = '_'

/-- Characters that end a value written without quotation marks. -/
def endsScalar (c : Char) : Bool :=
  isBlank c || c = '\n' || c = '\r' || c = '#' || c = ',' || c = ']' || c = '\x7d'

/-- The text from the first character on that is no white space. -/
def skipBlank (cs : List Char) : List Char := cs.dropWhile isBlank

/-- Passes over white space, line ends and comments. In a comment, everything up to the end of the
line is passed over. -/
def skipLines : (comment : Bool) → List Char → List Char
  | _, [] => []
  | _, '\n' :: rest => skipLines false rest
  | _, '\r' :: '\n' :: rest => skipLines false rest
  | true, c :: rest => if isPlain c then skipLines true rest else c :: rest
  | false, '#' :: rest => skipLines true rest
  | false, c :: rest => if isBlank c then skipLines false rest else c :: rest

/-- What follows a comment, if there is one. -/
def afterComment : List Char → List Char
  | '#' :: rest => rest.dropWhile isPlain
  | rest => rest

/-- What follows the end of the line, before which only white space and a comment may stand. -/
def lineEnd (cs : List Char) : Option (List Char) :=
  match afterComment (skipBlank cs) with
  | [] => some []
  | '\n' :: rest => some rest
  | '\r' :: '\n' :: rest => some rest
  | _ => none

/-! ## What is passed over is taken from the front -/

theorem skipBlank_length (cs : List Char) : (skipBlank cs).length ≤ cs.length :=
  Text.length_dropWhile_le isBlank cs

theorem skipLines_length (comment : Bool) (cs : List Char) :
    (skipLines comment cs).length ≤ cs.length := by
  fun_induction skipLines comment cs with
  | case1 => simp
  | case2 _ _ ih => simp only [List.length_cons]; omega
  | case3 _ _ ih => simp only [List.length_cons]; omega
  | case4 _ _ _ _ _ ih => simp only [List.length_cons]; omega
  | case5 => exact Nat.le_refl _
  | case6 _ ih => simp only [List.length_cons]; omega
  | case7 _ _ _ _ _ _ ih => simp only [List.length_cons]; omega
  | case8 => exact Nat.le_refl _

theorem afterComment_length (cs : List Char) : (afterComment cs).length ≤ cs.length := by
  unfold afterComment
  split
  next rest =>
    have := Text.length_dropWhile_le isPlain rest
    simp only [List.length_cons]
    omega
  · exact Nat.le_refl _

/-- The end of a line takes something from every text that has something left. -/
theorem lineEnd_length {cs left : List Char} (hend : lineEnd cs = some left) :
    left.length ≤ cs.length - 1 := by
  have hle := Nat.le_trans (afterComment_length (skipBlank cs)) (skipBlank_length cs)
  unfold lineEnd at hend
  split at hend
  · obtain rfl := by simpa using hend
    exact Nat.zero_le _
  next hrest =>
    obtain rfl := by simpa using hend
    rw [hrest, List.length_cons] at hle
    omega
  next hrest =>
    obtain rfl := by simpa using hend
    rw [hrest, List.length_cons, List.length_cons] at hle
    omega
  · simp at hend

end ForkSchedule.Toml
