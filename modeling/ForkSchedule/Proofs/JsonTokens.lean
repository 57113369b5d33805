import ForkSchedule.Proofs.JsonNumeral

/-!
# Reading JSON tokens

A text without a break is read as tokens exactly if it is a way to write them, as long as no two
numbers stand beside each other.
-/

namespace ForkSchedule.Json

/-! ## Strings -/

theorem pieces_append {cs rest left : List Char} {piece : Piece} {found : List Piece}
    (hpiece : IsPiece cs piece) (hrest : pieces rest = some (found, left)) :
    pieces (cs ++ rest) = some (piece :: found, left) := by
  cases hpiece with
  | plain hplain =>
      obtain ⟨hcontrol, hmark, hescape⟩ := hplain
      rw [List.singleton_append, pieces, if_neg (Nat.not_lt.mpr hcontrol), hrest]
      · rfl
      all_goals simp_all
  | short hletter =>
      rw [List.cons_append, List.singleton_append, pieces, hletter]
      · simp only [hrest]
        rfl
      · rintro a b c d others rfl
        simp [unescaped?] at hletter
  | unit hcode =>
      simp only [List.cons_append, List.nil_append]
      rw [pieces, hcode]
      simp only [hrest]
      rfl

theorem pieces_inside {inside rest : List Char} {found : List Piece}
    (hinside : IsInside inside found) : pieces (inside ++ '\x22' :: rest) = some (found, rest) := by
  induction hinside with
  | nil => rfl
  | cons hpiece _ ih =>
      rw [List.append_assoc]
      exact pieces_append hpiece ih

theorem exists_of_pieces {cs left : List Char} {found : List Piece}
    (hpieces : pieces cs = some (found, left)) :
    ∃ inside, IsInside inside found ∧ cs = inside ++ '\x22' :: left := by
  fun_induction pieces cs generalizing found left with
  | case1 => contradiction
  | case2 rest =>
      cases hpieces
      exact ⟨[], .nil, rfl⟩
  | case3 a b c d rest code hcode ih =>
      obtain ⟨⟨others, after⟩, hrest, heq⟩ := Option.map_eq_some_iff.mp hpieces
      cases heq
      obtain ⟨inside, hinside, rfl⟩ := ih hrest
      exact ⟨_, .cons (.unit hcode) hinside, rfl⟩
  | case4 => contradiction
  | case5 letter rest _ c hletter ih =>
      obtain ⟨⟨others, after⟩, hrest, heq⟩ := Option.map_eq_some_iff.mp hpieces
      cases heq
      obtain ⟨inside, hinside, rfl⟩ := ih hrest
      exact ⟨_, .cons (.short hletter) hinside, rfl⟩
  | case6 => contradiction
  | case7 => contradiction
  | case8 c rest hmark hunit hshort hcontrol ih =>
      obtain ⟨⟨others, after⟩, hrest, heq⟩ := Option.map_eq_some_iff.mp hpieces
      cases heq
      obtain ⟨inside, hinside, rfl⟩ := ih hrest
      have hescape : c ≠ '\\' := by
        rintro rfl
        obtain ⟨letter, more, hcons⟩ := List.exists_cons_of_ne_nil
          (List.append_ne_nil_of_right_ne_nil inside (List.cons_ne_nil '\x22' left))
        exact hshort letter more rfl hcons
      exact ⟨_, .cons (.plain ⟨Nat.not_lt.mp hcontrol, hmark, hescape⟩) hinside, rfl⟩

/-! ## Tokens -/

theorem Spelling.number (integer : Text.Integer) {fraction exponent : List Char}
    (hfraction : IsFraction fraction) (hexponent : IsExponent exponent) :
    Spelling (integer.chars ++ (fraction ++ exponent)) (.number
      (if fraction ++ exponent = [] then .ofMagnitude integer.negative integer.magnitude
        else .decimal)) := by
  split
  next hnone =>
    rw [hnone, List.append_nil]
    exact .integer integer
  next hsome => exact .decimal integer hfraction hexponent hsome

theorem lexeme_number {integer : Text.Integer} {fraction exponent rest : List Char}
    (hfraction : IsFraction fraction) (hexponent : IsExponent exponent)
    (hends : EndsNumber rest) :
    lexeme (integer.chars ++ (fraction ++ (exponent ++ rest))) = some (.number
      (if fraction ++ exponent = [] then .ofMagnitude integer.negative integer.magnitude
        else .decimal), rest) := by
  have hread := unsigned_append integer integer.negative hfraction hexponent hends
  rw [Text.Integer.chars]
  split
  next hnegative =>
    rw [hnegative] at hread ⊢
    rw [List.cons_append, lexeme, hread]
    rfl
  next hnegative =>
    rw [Bool.not_eq_true] at hnegative
    rw [hnegative] at hread ⊢
    obtain ⟨c, more, hcons, hc, -⟩ := integer.exists_digits_cons
    rw [hcons] at hread ⊢
    rw [List.cons_append, lexeme_digit hc, ← List.cons_append, hread]
    rfl

theorem lexeme_append {text rest : List Char} {token : Token} (hspelling : Spelling text token)
    (hends : token.isNumber = true → EndsNumber rest) :
    lexeme (text ++ rest) = some (token, rest) := by
  cases hspelling with
  | integer integer => exact lexeme_number .missing .missing (hends rfl)
  | decimal integer hfraction hexponent hsome =>
      rw [List.append_assoc, List.append_assoc, lexeme_number hfraction hexponent (hends rfl),
        if_neg hsome]
  | text hinside =>
      rw [List.cons_append, List.append_assoc, lexeme, List.singleton_append,
        pieces_inside hinside]
      rfl
  | flag value => cases value <;> rfl
  | _ => rfl

theorem exists_spelling_of_unsigned {cs left : List Char} {negative : Bool} {value : Numeral}
    (hunsigned : unsigned negative cs = some (value, left)) :
    ∃ text, Spelling text (.number value) ∧
      (if negative then '-' :: cs else cs) = text ++ left := by
  obtain ⟨integer, fraction, exponent, rfl, hfraction, hexponent, rfl, rfl⟩ :=
    exists_of_unsigned hunsigned
  refine ⟨_, .number integer hfraction hexponent, ?_⟩
  rw [Text.Integer.chars]
  split <;> simp

theorem exists_of_lexeme {cs left : List Char} {token : Token}
    (hlexeme : lexeme cs = some (token, left)) :
    ∃ text, Spelling text token ∧ cs = text ++ left := by
  unfold lexeme at hlexeme
  split at hlexeme
  case h_1 => cases hlexeme; exact ⟨_, .openBrace, rfl⟩
  case h_2 => cases hlexeme; exact ⟨_, .closeBrace, rfl⟩
  case h_3 => cases hlexeme; exact ⟨_, .openBracket, rfl⟩
  case h_4 => cases hlexeme; exact ⟨_, .closeBracket, rfl⟩
  case h_5 => cases hlexeme; exact ⟨_, .colon, rfl⟩
  case h_6 => cases hlexeme; exact ⟨_, .comma, rfl⟩
  case h_7 rest =>
    obtain ⟨⟨found, after⟩, hpieces, heq⟩ := Option.map_eq_some_iff.mp hlexeme
    cases heq
    obtain ⟨inside, hinside, rfl⟩ := exists_of_pieces hpieces
    exact ⟨_, .text hinside, by simp⟩
  case h_8 => cases hlexeme; exact ⟨_, .null, rfl⟩
  case h_9 => cases hlexeme; exact ⟨_, .flag true, rfl⟩
  case h_10 => cases hlexeme; exact ⟨_, .flag false, rfl⟩
  case h_11 | h_12 =>
    obtain ⟨⟨value, after⟩, hunsigned, heq⟩ := Option.map_eq_some_iff.mp hlexeme
    cases heq
    exact exists_spelling_of_unsigned hunsigned

theorem isSpace_eq_false_of_number {c : Char} (hc : c = '-' ∨ c.isDigit = true) :
    isSpace c = false := by
  rcases hc with rfl | hdigit
  · rfl
  · exact isSpace_of_isDigit hdigit

/-- A token starts with a character that is no white space and, unless it is a number, belongs to
no number. -/
theorem Spelling.exists_cons {text : List Char} {token : Token} (hspelling : Spelling text token) :
    ∃ c rest, text = c :: rest ∧ isSpace c = false ∧
      (token.isNumber = false → ∀ after, EndsNumber (c :: after)) := by
  cases hspelling with
  | integer integer =>
      obtain ⟨c, rest, hcons, hc, -⟩ := integer.exists_chars_cons
      exact ⟨c, rest, hcons, isSpace_eq_false_of_number hc, by rintro ⟨⟩⟩
  | decimal integer _ _ _ =>
      obtain ⟨c, rest, hcons, hc, -⟩ := integer.exists_chars_cons
      rw [hcons]
      exact ⟨c, _, rfl, isSpace_eq_false_of_number hc, by rintro ⟨⟩⟩
  | flag value =>
      cases value with
      | false => exact ⟨'f', "alse".toList, rfl, rfl, fun _ after => by simp [EndsNumber]⟩
      | true => exact ⟨'t', "rue".toList, rfl, rfl, fun _ after => by simp [EndsNumber]⟩
  | _ => exact ⟨_, _, rfl, by decide, fun _ after => by simp [EndsNumber]⟩

/-- The tokens of a text by what stands behind the white space at its front. -/
theorem tokens_eq (cs : List Char) :
    tokens cs = match cs.dropWhile isSpace with
      | [] => []
      | c :: rest =>
        match lexeme (c :: rest) with
        | none => [.broken]
        | some (token, left) => token :: tokens left := by
  fun_cases tokens cs with
  | case1 hspace => rw [hspace]
  | case2 c rest hspace hlexeme => simp only [hspace, hlexeme]
  | case3 c rest hspace token left hlexeme => simp only [hspace, hlexeme]

theorem tokens_append_gap {gap : List Char} (hgap : IsGap gap) (rest : List Char) :
    tokens (gap ++ rest) = tokens rest := by
  rw [tokens_eq, List.dropWhile_append_of_pos hgap, ← tokens_eq]

theorem tokens_append {text rest : List Char} {token : Token} (hspelling : Spelling text token)
    (hends : token.isNumber = true → EndsNumber rest) :
    tokens (text ++ rest) = token :: tokens rest := by
  obtain ⟨c, more, rfl, hspace, -⟩ := hspelling.exists_cons
  exact tokens_cons_of_lexeme hspace (lexeme_append hspelling hends)

theorem IsGap.endsNumber {gap : List Char} (hgap : IsGap gap) {rest : List Char}
    (hrest : EndsNumber rest) : EndsNumber (gap ++ rest) := by
  cases gap with
  | nil => exact hrest
  | cons c gap =>
      have hspace := hgap c List.mem_cons_self
      simp only [isSpace, Bool.or_eq_true, decide_eq_true_eq] at hspace
      rcases hspace with ((rfl | rfl) | rfl) | rfl <;> simp [EndsNumber]

theorem Written.endsNumber {ts : List Token} {cs : List Char} (hwritten : Written ts cs)
    (hhead : ∀ token ∈ ts.head?, token.isNumber = false) : EndsNumber cs := by
  cases hwritten with
  | nil hgap =>
      have hends : EndsNumber (cs ++ []) := hgap.endsNumber trivial
      rwa [List.append_nil] at hends
  | cons hgap hspelling _ =>
      obtain ⟨c, more, rfl, -, hends⟩ := hspelling.exists_cons
      exact hgap.endsNumber (hends (hhead _ rfl) _)

/-- Tokens that are written in a text are read from it. -/
theorem tokens_of_written {ts : List Token} {cs : List Char} (hwritten : Written ts cs)
    (hapart : NumbersApart ts) : tokens cs = ts := by
  induction hwritten with
  | nil hgap => simpa using tokens_append_gap hgap []
  | cons hgap hspelling hrest ih =>
      obtain ⟨hnext, hothers⟩ := List.isChain_cons.mp hapart
      rw [tokens_append_gap hgap, tokens_append hspelling fun hnumber =>
        hrest.endsNumber fun next hmem => hnext next hmem hnumber, ih hothers]

/-- The tokens that are read from a text are written in it, unless it breaks off. -/
theorem written_tokens {cs : List Char} (hbroken : .broken ∉ tokens cs) :
    Written (tokens cs) cs := by
  fun_induction tokens cs with
  | case1 cs hspace => exact .nil (List.dropWhile_eq_nil_iff.mp hspace)
  | case2 cs c rest hspace hlexeme => simp at hbroken
  | case3 cs c rest hspace token left hlexeme ih =>
      obtain ⟨text, hspelling, hcons⟩ := exists_of_lexeme hlexeme
      have hleft : Written (tokens left) left :=
        ih fun hmem => hbroken (List.mem_cons_of_mem _ hmem)
      have hcs := List.takeWhile_append_dropWhile (p := isSpace) (l := cs)
      rw [hspace, hcons] at hcs
      rw [← hcs]
      exact .cons (fun _ hc => List.mem_takeWhile_imp hc) hspelling hleft

end ForkSchedule.Json
