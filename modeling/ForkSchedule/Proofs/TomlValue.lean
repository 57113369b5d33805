import ForkSchedule.Proofs.IntegerText
import ForkSchedule.Toml.Document
import Mathlib.Data.List.TakeWhile

/-!
# Plain TOML values

Integers without underscores, flags and texts without escapes are read as what they are, up to the
end of their text. An integer that fits no word of 64 bits with a sign is no value of any kind.
-/

namespace ForkSchedule.Toml

/-- No value without quotation marks goes on into this text. -/
def EndsValue (cs : List Char) : Prop := ∀ c ∈ cs.head?, endsScalar c = true

/-- What the text of a value is read as, whatever follows at which it ends. -/
structure Denotes (text : List Char) (outcome : Option Value) : Prop where
  exists_cons : ∃ c rest, text = c :: rest ∧ isBlank c = false
  read_append : ∀ rest, EndsValue rest →
    (value depthLimit).read (text ++ rest) = outcome.map (·, rest)

theorem read_value {c : Char} (hbracket : c ≠ '[') (hbrace : c ≠ '\x7b') (rest : List Char) :
    (value depthLimit).read (c :: rest) = plainValue (c :: rest) := by
  change nestedValue (value 78) (c :: rest) = _
  unfold nestedValue
  split
  · simp_all
  · simp_all
  · rfl

theorem text_eq_none {c : Char} (hdouble : c ≠ '\x22') (hsingle : c ≠ '\x27') (rest : List Char) :
    text (c :: rest) = none := by
  unfold text
  split <;> simp_all

/-- A word without quotation marks is read up to its end, unless it is a date. -/
theorem scalar_append {word rest : List Char} (hword : ∀ c ∈ word, isScalarChar c = true)
    (hdate : isDate word = false) (hends : EndsValue rest) :
    scalar (word ++ rest) = (scalar? word).map (·, rest) := by
  have hstops : ∀ c ∈ rest.head?, isScalarChar c = false := by
    intro c hc
    rw [isScalarChar, hends c hc]
    rfl
  have htake := Text.takeWhile_append hword hstops
  have hdrop := Text.dropWhile_append hword hstops
  unfold scalar
  simp only [htake, hdrop, hdate, Bool.false_and, Bool.false_eq_true, if_false]

theorem denotes_scalar {c : Char} {rest : List Char}
    (hstart : c ∉ ['[', '\x7b', '\x22', '\x27']) (hdate : isDate (c :: rest) = false)
    (hword : ∀ d ∈ c :: rest, isScalarChar d = true) :
    Denotes (c :: rest) (scalar? (c :: rest)) := by
  simp only [List.mem_cons, not_or, List.not_mem_nil, not_false_eq_true, and_true] at hstart
  obtain ⟨hbracket, hbrace, hdouble, hsingle⟩ := hstart
  constructor
  · refine ⟨c, rest, rfl, ?_⟩
    have hc := hword c List.mem_cons_self
    simp only [isScalarChar, endsScalar, Bool.not_eq_true', Bool.or_eq_false_iff] at hc
    simp_all
  · intro left hends
    rw [List.cons_append, read_value hbracket hbrace, plainValue, text_eq_none hdouble hsingle,
      ← List.cons_append]
    exact scalar_append hword hdate hends

/-! ## Integers -/

theorem isDigitOf_ten {c : Char} (hdigit : c.isDigit = true) : Text.isDigitOf 10 c = true := by
  have hrange : '0' ≤ c ∧ c ≤ '9' := by
    simpa [Char.isDigit, Char.le_def] using hdigit
  have htop : c.toNat ≤ 57 := hrange.2
  rw [Text.isDigitOf, Text.digit?, if_pos hrange]
  simp only [decide_eq_true_eq]
  omega

theorem ungrouped?_digits {digits : List Char} (hne : digits ≠ [])
    (hdigits : ∀ c ∈ digits, c.isDigit = true) : ungrouped? 10 digits = some digits := by
  fun_induction ungrouped? 10 digits with
  | case1 => contradiction
  | case2 c hc => rfl
  | case3 c hc => exact absurd (isDigitOf_ten (hdigits c List.mem_cons_self)) hc
  | case4 c rest hc ih =>
      have hmark := hdigits '_' (by simp)
      contradiction
  | case5 c rest hc =>
      have hmark := hdigits '_' (by simp)
      contradiction
  | case6 c rest hnil hmark hc ih =>
      rw [ih hnil fun d hd => hdigits d (List.mem_cons_of_mem c hd)]
      rfl
  | case7 c rest _ _ hc => exact absurd (isDigitOf_ten (hdigits c List.mem_cons_self)) hc

theorem whole?_digits (integer : Text.Integer) : whole? integer.digits = some integer.digits := by
  rw [whole?, ungrouped?_digits integer.digits_ne_nil integer.isDigit_of_mem]
  split
  next c rest heq =>
    have hzero := integer.eq_zero_of_head?
    simp_all
  · rfl

/-- Before a literal without a sign stands none that is split off. -/
theorem splitSign_chars (integer : Text.Integer) :
    splitSign integer.chars = (integer.negative, integer.digits) := by
  obtain ⟨c, rest, hcons, hc, -⟩ := integer.exists_digits_cons
  rw [Text.Integer.chars]
  cases hnegative : integer.negative with
  | true => rfl
  | false =>
      rw [hcons]
      unfold splitSign
      split <;> simp_all

theorem integer?_chars (integer : Text.Integer) :
    integer? integer.chars = signedWord? integer.negative integer.magnitude := by
  unfold integer?
  split
  · exact absurd ‹_› (integer.chars_ne_zero_cons _ _)
  · exact absurd ‹_› (integer.chars_ne_zero_cons _ _)
  · exact absurd ‹_› (integer.chars_ne_zero_cons _ _)
  · rw [splitSign_chars, whole?_digits]
    rfl

/-! ## An integer is nothing else -/

theorem ne_of_isDigit {c d : Char} (hdigit : c.isDigit = true) (hother : d.isDigit = false) :
    c ≠ d := by
  rintro rfl
  rw [hdigit] at hother
  contradiction

/-- Behind digits comes neither a fraction nor an exponent. -/
theorem isDecimalNumber_digits {digits : List Char} (negative : Bool)
    (hdigits : ∀ c ∈ digits, c.isDigit = true) : isDecimalNumber negative digits = false := by
  have hexponent : ∀ c ∈ digits, (!startsExponent c) = true := by
    intro c hc
    have hlower : c ≠ 'e' := ne_of_isDigit (hdigits c hc) rfl
    have hupper : c ≠ 'E' := ne_of_isDigit (hdigits c hc) rfl
    simp [startsExponent, hlower, hupper]
  have hpoint : ∀ c ∈ digits, decide (c ≠ '.') = true := by
    intro c hc
    rw [decide_eq_true_eq]
    exact ne_of_isDigit (hdigits c hc) rfl
  unfold isDecimalNumber
  simp only [List.takeWhile_eq_self_iff.mpr hexponent, List.dropWhile_eq_nil_iff.mpr hexponent,
    List.dropWhile_eq_nil_iff.mpr hpoint, List.isEmpty_nil, Bool.not_true, Bool.or_self,
    Bool.false_and]

theorem isDecimal_chars (integer : Text.Integer) : isDecimal integer.chars = false := by
  obtain ⟨c, rest, hcons, hc, -⟩ := integer.exists_digits_cons
  have hinf : integer.digits ≠ "inf".toList := by
    rw [hcons]
    exact fun heq => ne_of_isDigit hc rfl (List.cons.inj heq).1
  have hnan : integer.digits ≠ "nan".toList := by
    rw [hcons]
    exact fun heq => ne_of_isDigit hc rfl (List.cons.inj heq).1
  have hnumber := isDecimalNumber_digits integer.negative integer.isDigit_of_mem
  simp only [isDecimal, splitSign_chars, hinf, hnan, hnumber, decide_false, Bool.or_self]

/-- A date has a minus sign and a time a colon behind the first character. -/
theorem afterDate?_eq_none {c : Char} {rest : List Char} (hrest : ∀ d ∈ rest, d.isDigit = true) :
    afterDate? (c :: rest) = none := by
  unfold afterDate?
  split
  next heq =>
    cases heq
    have := hrest '-' (by simp)
    contradiction
  · rfl

theorem afterTime?_eq_none {c : Char} {rest : List Char} (hrest : ∀ d ∈ rest, d.isDigit = true) :
    afterTime? (c :: rest) = none := by
  unfold afterTime?
  split
  next heq =>
    cases heq
    have := hrest ':' (by simp)
    contradiction
  · rfl

/-- An integer that fits no word is no scalar at all. -/
theorem scalar?_chars (integer : Text.Integer) :
    scalar? integer.chars =
      (signedWord? integer.negative integer.magnitude).map .integer := by
  obtain ⟨c, rest, hcons, hc, hrest⟩ := integer.exists_chars_cons
  have htrue : integer.chars ≠ "true".toList := by
    rw [hcons]
    rintro ⟨⟩
    rcases hc with hc | hc <;> exact absurd hc (by decide)
  have hfalse : integer.chars ≠ "false".toList := by
    rw [hcons]
    rintro ⟨⟩
    rcases hc with hc | hc <;> exact absurd hc (by decide)
  have hmoment : isMoment integer.chars = false := by
    rw [isMoment, hcons, afterDate?_eq_none hrest, afterTime?_eq_none hrest]
    rfl
  rw [scalar?, if_neg htrue, if_neg hfalse, integer?_chars, isDecimal_chars, hmoment]
  cases signedWord? integer.negative integer.magnitude <;> rfl

theorem isScalarChar_of_isDigit {c : Char} (hdigit : c.isDigit = true) : isScalarChar c = true := by
  have hne {d : Char} (hother : d.isDigit = false) : c ≠ d := ne_of_isDigit hdigit hother
  simp [isScalarChar, endsScalar, isBlank, hne]

theorem denotes_integer (integer : Text.Integer) :
    Denotes integer.chars ((signedWord? integer.negative integer.magnitude).map .integer) := by
  rw [← scalar?_chars]
  obtain ⟨c, rest, hcons, hc, hrest⟩ := integer.exists_chars_cons
  have hdate : isDate integer.chars = false := by
    rw [isDate, hcons, afterDate?_eq_none hrest]
    rfl
  rw [hcons] at hdate ⊢
  refine denotes_scalar ?_ hdate ?_
  · rcases hc with rfl | hc
    · decide
    · have hne {d : Char} (hother : d.isDigit = false) : c ≠ d := ne_of_isDigit hc hother
      simp [hne]
  · refine List.forall_mem_cons.mpr ⟨?_, fun d hd => isScalarChar_of_isDigit (hrest d hd)⟩
    rcases hc with rfl | hc
    · rfl
    · exact isScalarChar_of_isDigit hc

/-! ## Flags and texts -/

theorem denotes_true : Denotes "true".toList (some (.boolean true)) :=
  denotes_scalar (by decide) (by decide) (List.all_eq_true.mp (by decide))

/-- A character that stands for itself between double marks. -/
def IsUnescaped (c : Char) : Prop := isPlain c = true ∧ c ≠ '\x22' ∧ c ≠ '\\'

instance (c : Char) : Decidable (IsUnescaped c) := inferInstanceAs (Decidable (_ ∧ _ ∧ _))

theorem escaped_unescaped {content : List Char} (hcontent : ∀ c ∈ content, IsUnescaped c)
    (rest : List Char) : escaped (content ++ '\x22' :: rest) = some (content, rest) := by
  induction content with
  | nil => rfl
  | cons c content ih =>
      obtain ⟨hplain, hmark, hescape⟩ := hcontent c List.mem_cons_self
      rw [List.cons_append, escaped]
      · rw [if_pos hplain, ih fun d hd => hcontent d (List.mem_cons_of_mem c hd)]
        rfl
      all_goals simp_all

theorem denotes_plainText {c : Char} {content : List Char}
    (hcontent : ∀ d ∈ c :: content, IsUnescaped d) :
    Denotes (Json.plainText (c :: content)) (some (.text (c :: content))) := by
  refine ⟨⟨_, _, rfl, rfl⟩, fun rest _ => ?_⟩
  have hmark := (hcontent c List.mem_cons_self).2.1
  have htext : text ('\x22' :: (c :: content ++ '\x22' :: rest)) = some (c :: content, rest) := by
    rw [List.cons_append, text, ← List.cons_append]
    · exact escaped_unescaped hcontent rest
    · rintro left heq
      exact hmark (List.cons.inj heq).1
  rw [Json.plainText, List.cons_append, List.append_assoc, List.singleton_append,
    read_value (by decide) (by decide), plainValue, htext]
  rfl

end ForkSchedule.Toml
