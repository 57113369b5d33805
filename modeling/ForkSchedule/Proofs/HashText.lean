import ForkSchedule.Hash

/-!
# Hashes come back from their text

The text of a hash spells its bytes, so that different hashes have different texts.
-/

namespace ForkSchedule.Hash

/-- The halves of each byte, high half first: the values of the digits that a hash is written in. -/
def halves (bytes : List UInt8) : List UInt8 := bytes.flatMap fun byte => [byte / 16, byte % 16]

theorem high_lt (byte : UInt8) : byte / 16 < 16 := by
  have := byte.toNat_lt
  rw [UInt8.lt_iff_toNat_lt, UInt8.toNat_div]
  simp only [UInt8.reduceToNat]
  omega

theorem low_lt (byte : UInt8) : byte % 16 < 16 := by
  rw [UInt8.lt_iff_toNat_lt, UInt8.toNat_mod]
  exact Nat.mod_lt _ (by decide)

theorem join_halves (byte : UInt8) : 16 * (byte / 16) + byte % 16 = byte := by
  have := byte.toNat_lt
  rw [← UInt8.toNat_inj, UInt8.toNat_add, UInt8.toNat_mul, UInt8.toNat_div, UInt8.toNat_mod]
  simp only [UInt8.reduceToNat]
  omega

@[simp] theorem length_halves (bytes : List UInt8) : (halves bytes).length = 2 * bytes.length := by
  induction bytes with
  | nil => rfl
  | cons byte bytes ih =>
      change (halves bytes).length + 2 = 2 * (bytes.length + 1)
      omega

theorem joinPairs_halves (bytes : List UInt8) : joinPairs (halves bytes) = bytes := by
  induction bytes with
  | nil => rfl
  | cons byte bytes ih =>
      change (16 * (byte / 16) + byte % 16) :: joinPairs (halves bytes) = byte :: bytes
      rw [join_halves, ih]

/-- What holds of the sixteen digits holds of every number below sixteen. -/
theorem forall_lt_sixteen {p : UInt8 → Prop} (hall : ∀ value : Fin 16, p (UInt8.ofNat value))
    {value : UInt8} (hlt : value < 16) : p value := by
  simpa using hall ⟨value.toNat, UInt8.lt_iff_toNat_lt.mp hlt⟩

theorem map_digitValue?_digit {value : UInt8} (hlt : value < 16) :
    (String.utf8EncodeChar (digit value)).map digitValue? = [some value] := by
  apply forall_lt_sixteen _ hlt
  decide +kernel

theorem map_digitValue?_digits (bytes : List UInt8) :
    (utf8 (digits bytes)).map digitValue? = (halves bytes).map some := by
  induction bytes with
  | nil => rfl
  | cons byte bytes ih =>
      rw [digits, utf8] at ih
      simp only [utf8, digits, halves, digitPair, List.flatMap_cons, List.flatMap_append,
        List.map_append, List.flatMap_nil, List.append_nil, map_digitValue?_digit (high_lt byte),
        map_digitValue?_digit (low_lt byte), ih]
      rfl

theorem digitValues_of_map {text values : List UInt8}
    (hvalues : text.map digitValue? = values.map some) (position : Nat) :
    digitValues position text = .ok values := by
  induction text generalizing values position with
  | nil =>
      rw [List.map_nil, eq_comm, List.map_eq_nil_iff] at hvalues
      rw [hvalues]
      rfl
  | cons byte text ih =>
      obtain ⟨value, others, rfl, hvalue, hothers⟩ := List.map_eq_cons_iff.mp hvalues.symm
      rw [digitValues, ← hvalue]
      simp only [ih hothers.symm]
      rfl

theorem spelled_digits (bytes : List UInt8) : spelled (utf8 (digits bytes)) = .ok bytes := by
  have hmap := map_digitValue?_digits bytes
  have hlength : (utf8 (digits bytes)).length = 2 * bytes.length := by
    simpa using congrArg List.length hmap
  rw [spelled, if_neg (by omega), digitValues_of_map hmap, Except.map, joinPairs_halves]

/-- A hash is read back from its text. -/
theorem ofText_text (hash : Hash) : ofText hash.text = .ok hash := by
  rw [ofText, show withoutMark hash.text = digits hash.bytes from rfl, spelled_digits]
  exact dif_pos hash.length_bytes

end ForkSchedule.Hash
