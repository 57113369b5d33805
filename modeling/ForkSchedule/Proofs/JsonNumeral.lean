import ForkSchedule.Proofs.JsonGrammar
import Mathlib.Data.List.DropRight

/-!
# Reading JSON numbers

A number is read from the front of a text exactly if it stands there as the grammar has it and ends
where no number goes on: its sign and digits, a fraction and an exponent.
-/

namespace ForkSchedule.Json

/-- No digit stands at the front. -/
def StopsDigits (cs : List Char) : Prop := ∀ c ∈ cs.head?, c.isDigit = false

theorem span_digits {digits rest : List Char} (hdigits : ∀ c ∈ digits, c.isDigit = true)
    (hstops : StopsDigits rest) :
    (digits ++ rest).takeWhile Char.isDigit = digits ∧
      (digits ++ rest).dropWhile Char.isDigit = rest :=
  ⟨Text.takeWhile_append hdigits hstops, Text.dropWhile_append hdigits hstops⟩

theorem isDigits_takeWhile {cs : List Char} (hne : cs.takeWhile Char.isDigit ≠ []) :
    IsDigits (cs.takeWhile Char.isDigit) :=
  ⟨hne, fun _ hc => List.mem_takeWhile_imp hc⟩

theorem afterFraction_append {fraction rest : List Char} (hfraction : IsFraction fraction)
    (hstops : StopsDigits rest) (hpoint : rest.head? ≠ some '.') :
    afterFraction (fraction ++ rest) = some (!fraction.isEmpty, rest) := by
  cases hfraction with
  | missing =>
      cases rest with
      | nil => rfl
      | cons c rest =>
          rw [List.nil_append, afterFraction]
          · rfl
          · rintro left heq
            cases heq
            exact hpoint rfl
  | point hdigits =>
      obtain ⟨htake, hdrop⟩ := span_digits hdigits.2 hstops
      rw [List.cons_append, afterFraction, htake, hdrop, if_neg hdigits.1]
      rfl

theorem exists_of_afterFraction {cs left : List Char} {given : Bool}
    (hafter : afterFraction cs = some (given, left)) :
    ∃ fraction, IsFraction fraction ∧ cs = fraction ++ left ∧ given = !fraction.isEmpty := by
  unfold afterFraction at hafter
  split at hafter
  next rest =>
    split at hafter
    · contradiction
    next hne =>
      obtain ⟨rfl, rfl⟩ := by simpa using hafter
      refine ⟨_, .point (isDigits_takeWhile hne), ?_, rfl⟩
      rw [List.cons_append, List.takeWhile_append_dropWhile]
  · obtain ⟨rfl, rfl⟩ := by simpa using hafter
    exact ⟨[], .missing, rfl, rfl⟩

theorem afterSign_append {sign rest : List Char} (hsign : IsSign sign)
    (hplus : rest.head? ≠ some '+') (hminus : rest.head? ≠ some '-') :
    afterSign (sign ++ rest) = rest := by
  cases hsign with
  | missing =>
      rw [List.nil_append]
      unfold afterSign
      split
      · simp at hplus
      · simp at hminus
      · rfl
  | plus => rfl
  | minus => rfl

theorem exists_sign_append (cs : List Char) : ∃ sign, IsSign sign ∧ cs = sign ++ afterSign cs := by
  unfold afterSign
  split
  · exact ⟨['+'], .plus, rfl⟩
  · exact ⟨['-'], .minus, rfl⟩
  · exact ⟨[], .missing, rfl⟩

theorem IsDigits.exists_cons {digits : List Char} (hdigits : IsDigits digits) :
    ∃ c rest, digits = c :: rest ∧ c.isDigit = true := by
  obtain ⟨c, rest, rfl⟩ := List.exists_cons_of_ne_nil hdigits.1
  exact ⟨c, rest, rfl, hdigits.2 c List.mem_cons_self⟩

theorem EndsNumber.stopsDigits {cs : List Char} (hends : EndsNumber cs) : StopsDigits cs := by
  cases cs with
  | nil => simp [StopsDigits]
  | cons c rest =>
      rintro d ⟨⟩
      exact hends.1

theorem afterExponent_append {exponent rest : List Char} (hexponent : IsExponent exponent)
    (hends : EndsNumber rest) :
    afterExponent (exponent ++ rest) = some (!exponent.isEmpty, rest) := by
  cases hexponent with
  | missing => exact afterExponent_of_endsNumber hends
  | @power letter sign digits hletter hsign hdigits =>
      obtain ⟨htake, hdrop⟩ := span_digits hdigits.2 hends.stopsDigits
      have hafter : afterSign (sign ++ (digits ++ rest)) = digits ++ rest := by
        obtain ⟨c, others, rfl, hc⟩ := hdigits.exists_cons
        apply afterSign_append hsign
        all_goals
          rintro ⟨⟩
          contradiction
      rw [List.cons_append, List.append_assoc, afterExponent, if_pos hletter, hafter, htake, hdrop,
        if_neg hdigits.1]
      rfl

theorem exists_of_afterExponent {cs left : List Char} {given : Bool}
    (hafter : afterExponent cs = some (given, left)) :
    ∃ exponent, IsExponent exponent ∧ cs = exponent ++ left ∧ given = !exponent.isEmpty := by
  unfold afterExponent at hafter
  split at hafter
  next letter rest =>
    split at hafter
    next hletter =>
      split at hafter
      · contradiction
      next hne =>
        obtain ⟨rfl, rfl⟩ := by simpa using hafter
        obtain ⟨sign, hsign, hrest⟩ := exists_sign_append rest
        refine ⟨_, .power hletter hsign (isDigits_takeWhile hne), ?_, rfl⟩
        rw [List.cons_append, List.append_assoc, List.takeWhile_append_dropWhile, ← hrest]
    · obtain ⟨rfl, rfl⟩ := by simpa using hafter
      exact ⟨[], .missing, rfl, rfl⟩
  · obtain ⟨rfl, rfl⟩ := by simpa using hafter
    exact ⟨[], .missing, rfl, rfl⟩

/-- What follows the whole part of a number starts with neither a digit nor, without a fraction,
a point. -/
theorem IsExponent.head?_append {exponent rest : List Char} (hexponent : IsExponent exponent)
    (hends : EndsNumber rest) :
    StopsDigits (exponent ++ rest) ∧ (exponent ++ rest).head? ≠ some '.' := by
  cases hexponent with
  | missing =>
      refine ⟨hends.stopsDigits, ?_⟩
      cases rest with
      | nil => simp
      | cons c rest => simpa using hends.2.1
  | power hletter _ _ => rcases hletter with rfl | rfl <;> simp [StopsDigits]

theorem unsigned_append (integer : Text.Integer) (negative : Bool)
    {fraction exponent rest : List Char} (hfraction : IsFraction fraction)
    (hexponent : IsExponent exponent) (hends : EndsNumber rest) :
    unsigned negative (integer.digits ++ (fraction ++ (exponent ++ rest))) =
      some (if fraction ++ exponent = [] then .ofMagnitude negative integer.magnitude else .decimal,
        rest) := by
  obtain ⟨hstops, hpoint⟩ := hexponent.head?_append hends
  have hbehind : StopsDigits (fraction ++ (exponent ++ rest)) := by
    cases hfraction with
    | missing => exact hstops
    | point _ => simp [StopsDigits]
  obtain ⟨htake, hdrop⟩ := span_digits integer.isDigit_of_mem hbehind
  unfold unsigned
  simp only [htake, hdrop, afterFraction_append hfraction hstops hpoint,
    afterExponent_append hexponent hends]
  rw [if_neg (by simpa [integer.digits_ne_nil] using integer.eq_zero_of_head?)]
  cases fraction <;> cases exponent <;> rfl

theorem exists_of_unsigned {cs left : List Char} {negative : Bool} {numeral : Numeral}
    (hunsigned : unsigned negative cs = some (numeral, left)) :
    ∃ integer : Text.Integer, ∃ fraction exponent, integer.negative = negative ∧
      IsFraction fraction ∧ IsExponent exponent ∧
      cs = integer.digits ++ (fraction ++ (exponent ++ left)) ∧
      numeral = if fraction ++ exponent = [] then .ofMagnitude negative integer.magnitude
        else .decimal := by
  unfold unsigned at hunsigned
  simp only at hunsigned
  split at hunsigned
  · contradiction
  next hwhole =>
    obtain ⟨hne, hzero⟩ := not_or.mp hwhole
    split at hunsigned
    · contradiction
    next fraction? rest hfraction =>
      obtain ⟨fraction, isFraction, hrest, rfl⟩ := exists_of_afterFraction hfraction
      split at hunsigned
      · contradiction
      next exponent? last hexponent =>
        obtain ⟨exponent, isExponent, rfl, rfl⟩ := exists_of_afterExponent hexponent
        have hread : some (if fraction ++ exponent = [] then
            Numeral.ofMagnitude negative (Nat.ofDigitChars 10 (cs.takeWhile Char.isDigit) 0)
            else .decimal, last) = some (numeral, left) := by
          rw [← hunsigned]
          cases fraction <;> cases exponent <;> rfl
        cases hread
        refine ⟨⟨negative, cs.takeWhile Char.isDigit, hne, (isDigits_takeWhile hne).2,
          by simpa using hzero⟩, fraction, exponent, rfl, isFraction, isExponent, ?_, rfl⟩
        rw [← hrest]
        exact List.takeWhile_append_dropWhile.symm

end ForkSchedule.Json
