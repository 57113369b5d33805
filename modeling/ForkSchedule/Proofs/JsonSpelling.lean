import ForkSchedule.Proofs.JsonGrammar

/-!
# Writing JSON texts

Every string can be written, if need be with escapes, and tokens are written behind others by
writing one text behind the other.
-/

namespace ForkSchedule.Json

/-! ## Strings -/

theorem isInside_plain {content : List Char} (hplain : ∀ c ∈ content, IsPlain c) :
    IsInside content (content.map .char) := by
  induction content with
  | nil => exact .nil
  | cons c content ih =>
      obtain ⟨hc, hcontent⟩ := List.forall_mem_cons.mp hplain
      exact .cons (.plain hc) (ih hcontent)

/-- A text without escapes is a way to write the string. -/
theorem spelling_plainText {content : List Char} (hplain : ∀ c ∈ content, IsPlain c) :
    Spelling (plainText content) (.text (some content)) := by
  rw [← characters_map_char]
  exact .text (isInside_plain hplain)

/-- A character by its number, in an escape. -/
def escapeOf (c : Char) : List Char :=
  ['\\', 'u', '0', '0', Nat.digitChar (c.toNat / 16), Nat.digitChar (c.toNat % 16)]

theorem isPiece_escapeOf {c : Char} (hascii : c.toNat < 128) :
    IsPiece (escapeOf c) (.unit c.toNat) := by
  have hall : ∀ code < 128, Text.number? 16
      ['0', '0', Nat.digitChar (code / 16), Nat.digitChar (code % 16)] = some code := by
    decide +kernel
  exact .unit (hall c.toNat hascii)

theorem characters_unit {c : Char} (hascii : c.toNat < 128) (found : List Piece) :
    characters (.unit c.toNat :: found) = (characters found).map (c :: ·) := by
  have hchar : Text.char? c.toNat = some c :=
    (if_pos c.valid).trans (congrArg some (Char.ofNat_toNat c))
  have hhalf : isHighHalf c.toNat = false := by
    rw [isHighHalf, decide_eq_false_iff_not]
    omega
  match found with
  | [] | .char _ :: _ => simp only [characters, hchar]
  | .unit _ :: _ => simp only [characters, hhalf, hchar, Bool.false_eq_true, if_false]

/-- Every list of characters is the content of a string. -/
theorem exists_isInside (content : List Char) :
    ∃ inside found, IsInside inside found ∧ characters found = some content := by
  induction content with
  | nil => exact ⟨[], [], .nil, rfl⟩
  | cons c content ih =>
      obtain ⟨inside, found, hinside, hfound⟩ := ih
      by_cases hplain : IsPlain c
      · refine ⟨_, _, .cons (.plain hplain) hinside, ?_⟩
        rw [characters, hfound]
        rfl
      · have hascii : c.toNat < 128 := by
          by_contra hbeyond
          refine hplain ⟨by omega, ?_, ?_⟩ <;> rintro rfl <;> exact hbeyond (by decide)
        refine ⟨_, _, .cons (isPiece_escapeOf hascii) hinside, ?_⟩
        rw [characters_unit hascii, hfound]
        rfl

theorem exists_spelling_text (content : List Char) :
    ∃ text, Spelling text (.text (some content)) := by
  obtain ⟨inside, found, hinside, hfound⟩ := exists_isInside content
  rw [← hfound]
  exact ⟨_, .text hinside⟩

/-! ## Lists of tokens -/

theorem exists_written_cons {token : Token} {others : List Token}
    (hspelling : ∃ text, Spelling text token) (hothers : ∃ cs, Written others cs) :
    ∃ cs, Written (token :: others) cs := by
  obtain ⟨text, hspelling⟩ := hspelling
  obtain ⟨cs, hwritten⟩ := hothers
  exact ⟨_, .cons (List.forall_mem_nil _) hspelling hwritten⟩

theorem Written.append_gap {gap cs : List Char} {tokens : List Token} (hgap : IsGap gap)
    (hwritten : Written tokens cs) : Written tokens (gap ++ cs) := by
  cases hwritten with
  | nil hother => exact .nil (List.forall_mem_append.mpr ⟨hgap, hother⟩)
  | cons hother hspelling hrest =>
      rw [← List.append_assoc]
      exact .cons (List.forall_mem_append.mpr ⟨hgap, hother⟩) hspelling hrest

theorem Written.append {tokens others : List Token} {cs rest : List Char}
    (hwritten : Written tokens cs) (hothers : Written others rest) :
    Written (tokens ++ others) (cs ++ rest) := by
  induction hwritten with
  | nil hgap => exact hothers.append_gap hgap
  | cons hgap hspelling _ ih =>
      rw [List.append_assoc, List.append_assoc]
      exact .cons hgap hspelling ih

end ForkSchedule.Json
