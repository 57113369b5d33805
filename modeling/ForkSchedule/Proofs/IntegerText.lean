import ForkSchedule.Proofs.JsonText

/-!
# Integers as they are written

An integer in plain decimal form: digits without a needless zero in front, maybe behind a minus
sign. Both formats of documents know this form, and it has no bound.
-/

namespace ForkSchedule.Text

/-- An integer as it is written. Minus zero is a form of its own. -/
structure Integer where
  negative : Bool
  digits : List Char
  digits_ne_nil : digits ≠ []
  isDigit_of_mem : ∀ c ∈ digits, c.isDigit = true
  eq_zero_of_head? : digits.head? = some '0' → digits = ['0']

namespace Integer

/-- The number that the digits make up. -/
def magnitude (integer : Integer) : Nat := Nat.ofDigitChars 10 integer.digits 0

/-- The integer that is meant. -/
def value (integer : Integer) : Int :=
  if integer.negative then -integer.magnitude else integer.magnitude

/-- The sign and the digits. -/
def chars (integer : Integer) : List Char :=
  if integer.negative then '-' :: integer.digits else integer.digits

theorem toNat_value (integer : Integer) (hnonneg : 0 ≤ integer.value) :
    integer.value.toNat = integer.magnitude := by
  rw [value] at hnonneg ⊢
  cases hnegative : integer.negative with
  | true =>
      rw [hnegative] at hnonneg
      simp only [if_true] at hnonneg ⊢
      omega
  | false => rfl

/-- The usual form of a number. -/
def ofNat (value : Nat) : Integer where
  negative := false
  digits := Nat.toDigits 10 value
  digits_ne_nil := Nat.toDigits_ne_nil
  isDigit_of_mem _ hc := Nat.isDigit_of_mem_toDigits (by decide) (by decide) hc
  eq_zero_of_head? hzero := by
    rw [Json.eq_zero_of_head?_toDigits hzero]
    rfl

@[simp] theorem magnitude_ofNat (value : Nat) : (ofNat value).magnitude = value :=
  Nat.ofDigitChars_ten_toDigits

@[simp] theorem chars_ofNat (value : Nat) : (ofNat value).chars = Json.numberText value := rfl

/-- The digits by their first one, behind which a zero has no other. -/
theorem exists_digits_cons (integer : Integer) :
    ∃ c rest, integer.digits = c :: rest ∧ c.isDigit = true ∧ (∀ d ∈ rest, d.isDigit = true) ∧
      (c = '0' → rest = []) := by
  obtain ⟨c, rest, hcons⟩ := List.exists_cons_of_ne_nil integer.digits_ne_nil
  have hdigits := integer.isDigit_of_mem
  have hzero := integer.eq_zero_of_head?
  rw [hcons] at hdigits hzero
  refine ⟨c, rest, hcons, hdigits c List.mem_cons_self,
    fun d hd => hdigits d (List.mem_cons_of_mem c hd), ?_⟩
  rintro rfl
  exact (List.cons.inj (hzero rfl)).2

/-- An integer starts with a minus sign or a digit, behind which there are only digits. -/
theorem exists_chars_cons (integer : Integer) :
    ∃ c rest, integer.chars = c :: rest ∧ (c = '-' ∨ c.isDigit = true) ∧
      ∀ d ∈ rest, d.isDigit = true := by
  rw [chars]
  split
  · exact ⟨'-', integer.digits, rfl, .inl rfl, integer.isDigit_of_mem⟩
  · obtain ⟨c, rest, hcons, hc, hrest, -⟩ := integer.exists_digits_cons
    exact ⟨c, rest, hcons, .inr hc, hrest⟩

/-- Behind a zero at the front nothing follows. -/
theorem chars_ne_zero_cons (integer : Integer) (c : Char) (rest : List Char) :
    integer.chars ≠ '0' :: c :: rest := by
  intro hcons
  rw [chars] at hcons
  split at hcons
  · exact absurd (List.cons.inj hcons).1 (by decide)
  · have hzero := integer.eq_zero_of_head? (by rw [hcons]; rfl)
    rw [hzero] at hcons
    cases hcons

end Integer

end ForkSchedule.Text
