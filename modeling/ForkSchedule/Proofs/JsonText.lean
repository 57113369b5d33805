import ForkSchedule.Json.Token
import ForkSchedule.Json.Writer

/-!
# Reading the tokens that were written

Every text that is written for a single value is read back as one token. A number needs something
behind it at which it ends; punctuation does for that.
-/

namespace ForkSchedule.Json

theorem tokens_cons_of_lexeme {c : Char} {rest left : List Char} {token : Token}
    (hspace : isSpace c = false) (hlexeme : lexeme (c :: rest) = some (token, left)) :
    tokens (c :: rest) = token :: tokens left := by
  have hstart : (c :: rest).dropWhile isSpace = c :: rest := by
    rw [List.dropWhile_cons, hspace]
    rfl
  rw [tokens]
  split
  next hnil =>
    rw [hstart] at hnil
    contradiction
  next c' rest' hcons =>
    rw [hstart] at hcons
    cases hcons
    split
    next hnone =>
      rw [hlexeme] at hnone
      contradiction
    next token' left' hsome =>
      rw [hlexeme] at hsome
      cases hsome
      rfl

@[simp] theorem tokens_nil : tokens [] = [] := by
  rw [tokens]
  rfl

@[simp] theorem tokens_openBrace (rest : List Char) :
    tokens ('\x7b' :: rest) = .openBrace :: tokens rest :=
  tokens_cons_of_lexeme rfl rfl

@[simp] theorem tokens_closeBrace (rest : List Char) :
    tokens ('\x7d' :: rest) = .closeBrace :: tokens rest :=
  tokens_cons_of_lexeme rfl rfl

@[simp] theorem tokens_colon (rest : List Char) : tokens (':' :: rest) = .colon :: tokens rest :=
  tokens_cons_of_lexeme rfl rfl

@[simp] theorem tokens_comma (rest : List Char) : tokens (',' :: rest) = .comma :: tokens rest :=
  tokens_cons_of_lexeme rfl rfl

/-- No number goes on into this text. -/
def EndsNumber : List Char → Prop
  | [] => True
  | c :: _ => c.isDigit = false ∧ c ≠ '.' ∧ c ≠ 'e' ∧ c ≠ 'E'

/-- A text is read as a single token, whatever follows at which a number ends. -/
def Spells (text : List Char) (token : Token) : Prop :=
  ∀ rest, EndsNumber rest → tokens (text ++ rest) = token :: tokens rest

/-! ## Strings without escapes -/

/-- A character that stands for itself in a string. -/
def IsPlain (c : Char) : Prop := 32 ≤ c.toNat ∧ c ≠ '\x22' ∧ c ≠ '\\'

instance (c : Char) : Decidable (IsPlain c) := inferInstanceAs (Decidable (_ ∧ _ ∧ _))

theorem pieces_plain {text : List Char} (hplain : ∀ c ∈ text, IsPlain c) (rest : List Char) :
    pieces (text ++ '\x22' :: rest) = some (text.map .char, rest) := by
  induction text with
  | nil => rfl
  | cons c text ih =>
      obtain ⟨hcontrol, hmark, hescape⟩ := hplain c List.mem_cons_self
      rw [List.cons_append, pieces]
      · rw [if_neg (Nat.not_lt.mpr hcontrol), ih fun d hd => hplain d (List.mem_cons_of_mem c hd)]
        rfl
      all_goals simp_all

theorem characters_map_char (text : List Char) : characters (text.map .char) = some text := by
  induction text with
  | nil => rfl
  | cons c text ih =>
      rw [List.map_cons, characters, ih]
      rfl

theorem spells_plainText {text : List Char} (hplain : ∀ c ∈ text, IsPlain c) :
    Spells (plainText text) (.text (some text)) := by
  intro rest _
  have hpieces := pieces_plain hplain rest
  rw [plainText, List.cons_append, List.append_assoc]
  apply tokens_cons_of_lexeme rfl
  rw [lexeme, List.singleton_append, hpieces]
  simp only [Option.map_some, characters_map_char]

/-! ## Numbers and flags -/

theorem afterFraction_of_endsNumber {rest : List Char} (hends : EndsNumber rest) :
    afterFraction rest = some (false, rest) := by
  cases rest with
  | nil => rfl
  | cons c rest =>
      obtain ⟨-, hpoint, -⟩ := hends
      rw [afterFraction]
      simpa using hpoint

theorem afterExponent_of_endsNumber {rest : List Char} (hends : EndsNumber rest) :
    afterExponent rest = some (false, rest) := by
  cases rest with
  | nil => rfl
  | cons c rest =>
      obtain ⟨-, -, hlower, hupper⟩ := hends
      rw [afterExponent, if_neg (by simp [hlower, hupper])]

/-- Digits without a needless zero are read as the integer that they make up. -/
theorem unsigned_digits {digits rest : List Char} (negative : Bool) (hne : digits ≠ [])
    (hdigits : ∀ c ∈ digits, c.isDigit = true) (hzero : digits.head? = some '0' → digits = ['0'])
    (hends : EndsNumber rest) :
    unsigned negative (digits ++ rest) =
      some (.ofMagnitude negative (Nat.ofDigitChars 10 digits 0), rest) := by
  have hstops : ∀ c ∈ rest.head?, c.isDigit = false := by
    cases rest with
    | nil => simp
    | cons c rest =>
        rintro d ⟨⟩
        exact hends.1
  have hwhole := Text.takeWhile_append hdigits hstops
  have hleft := Text.dropWhile_append hdigits hstops
  unfold unsigned
  simp only [hwhole, hleft]
  rw [if_neg (by simpa [hne] using hzero), afterFraction_of_endsNumber hends]
  simp only
  rw [afterExponent_of_endsNumber hends]
  rfl

theorem lexeme_digit {c : Char} (hdigit : c.isDigit = true) (rest : List Char) :
    lexeme (c :: rest) = (unsigned false (c :: rest)).map fun (value, left) =>
      (.number value, left) := by
  rw [lexeme]
  all_goals
    intro left heq
    cases heq
    exact absurd hdigit (by decide)

theorem isSpace_of_isDigit {c : Char} (hdigit : c.isDigit = true) : isSpace c = false := by
  rw [← Bool.not_eq_true]
  intro hspace
  simp only [isSpace, Bool.or_eq_true, decide_eq_true_eq] at hspace
  rcases hspace with ((rfl | rfl) | rfl) | rfl <;> contradiction

theorem spells_digits {digits : List Char} (hne : digits ≠ [])
    (hdigits : ∀ c ∈ digits, c.isDigit = true)
    (hzero : digits.head? = some '0' → digits = ['0']) :
    Spells digits (.number (.ofMagnitude false (Nat.ofDigitChars 10 digits 0))) := by
  intro rest hends
  have hread := unsigned_digits false hne hdigits hzero hends
  cases digits with
  | nil => exact absurd rfl hne
  | cons c digits =>
      have hdigit := hdigits c List.mem_cons_self
      apply tokens_cons_of_lexeme (isSpace_of_isDigit hdigit)
      exact (lexeme_digit hdigit _).trans (congrArg (Option.map _) hread)

/-- Written numbers have no needless zero. -/
theorem eq_zero_of_head?_toDigits {value : Nat}
    (hzero : (Nat.toDigits 10 value).head? = some '0') : value = 0 := by
  induction value using Nat.strongRecOn with
  | ind value ih =>
      by_cases hsmall : value < 10
      · rw [Nat.toDigits_of_lt_base hsmall] at hzero
        simpa using hzero
      · obtain ⟨first, others, hfront⟩ :=
          List.exists_cons_of_ne_nil (Nat.toDigits_ne_nil (n := value / 10) (b := 10))
        rw [Nat.toDigits_of_base_le (by decide) (Nat.le_of_not_lt hsmall), hfront] at hzero
        have hsame := ih (value / 10) (by omega) (by rw [hfront]; exact hzero)
        omega

theorem spells_numberText {value : Nat} (hfits : value < wordLimit) :
    Spells (numberText value) (.number (.integer value)) := by
  have hspells : Spells (numberText value)
      (.number (.ofMagnitude false (Nat.ofDigitChars 10 (numberText value) 0))) := by
    apply spells_digits Nat.toDigits_ne_nil
    · exact fun c hc => Nat.isDigit_of_mem_toDigits (by decide) (by decide) hc
    · intro hzero
      rw [eq_zero_of_head?_toDigits hzero]
      rfl
  have hvalue : Numeral.ofMagnitude false (Nat.ofDigitChars 10 (numberText value) 0) =
      .integer value := by
    rw [show numberText value = Nat.toDigits 10 value from rfl, Nat.ofDigitChars_ten_toDigits,
      Numeral.ofMagnitude, if_neg (by decide), if_pos hfits]
  rwa [hvalue] at hspells

theorem spells_flagText (value : Bool) : Spells (flagText value) (.boolean value) := by
  intro rest _
  cases value <;> exact tokens_cons_of_lexeme rfl rfl

end ForkSchedule.Json
