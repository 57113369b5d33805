import ForkSchedule.Document.Fault
import ForkSchedule.Proofs.HashText

/-!
# The language of hashes

Which texts are hashes, and which reason counts against every other text. A hash is told apart from
others by the bytes that its text spells, so its own text is a normal form: the one among all texts
of the same hash that has a `0x` and no upper case letter.
-/

namespace ForkSchedule.Hash

/-! ## Digits -/

/-- The hexadecimal digits by their values, in lower case. -/
def lowerDigits : List Char :=
  ['0', '1', '2', '3', '4', '5', '6', '7', '8', '9', 'a', 'b', 'c', 'd', 'e', 'f']

/-- The value of a hexadecimal digit, letters of either case being equal. -/
def placeOf? (byte : UInt8) : Option Nat :=
  lowerDigits.idxOf? (Char.ofNat byte.toNat).toLower

/-- Whether a byte is a hexadecimal digit. -/
def IsDigit (byte : UInt8) : Prop := (placeOf? byte).isSome

instance (byte : UInt8) : Decidable (IsDigit byte) := inferInstanceAs (Decidable (_ = true))

/-- What holds of the 256 bytes holds of every byte. -/
theorem forall_byte {p : UInt8 → Prop} (hall : ∀ value : Fin 256, p (UInt8.ofNat value))
    (byte : UInt8) : p byte := by
  simpa using hall ⟨byte.toNat, byte.toNat_lt⟩

/-- The two ways to tell the value of a digit agree; a digit is ASCII and written in lower case by
its value. -/
theorem placeOf?_spec (byte : UInt8) :
    digitValue? byte = (placeOf? byte).map UInt8.ofNat ∧ ∀ place ∈ placeOf? byte,
      place < 16 ∧ byte < 128 ∧ digit (UInt8.ofNat place) = (Char.ofNat byte.toNat).toLower := by
  revert byte
  exact forall_byte (by decide +kernel)

theorem digitValue?_eq (byte : UInt8) : digitValue? byte = (placeOf? byte).map UInt8.ofNat :=
  (placeOf?_spec byte).1

theorem placeOf?_eq_some {byte : UInt8} {place : Nat} (hplace : placeOf? byte = some place) :
    place < 16 ∧ byte < 128 ∧ digit (UInt8.ofNat place) = (Char.ofNat byte.toNat).toLower :=
  (placeOf?_spec byte).2 place hplace

/-- Bytes are spelled by pairs of digits, high half first. -/
inductive Spells : List UInt8 → List UInt8 → Prop
  | nil : Spells [] []
  | cons {high low byte : UInt8} {upper lower : Nat} {text bytes : List UInt8}
      (hhigh : placeOf? high = some upper) (hlow : placeOf? low = some lower)
      (hbyte : byte.toNat = 16 * upper + lower) (hrest : Spells text bytes) :
      Spells (high :: low :: text) (byte :: bytes)

theorem Spells.length_eq {text bytes : List UInt8} (hspells : Spells text bytes) :
    text.length = 2 * bytes.length := by
  induction hspells with
  | nil => rfl
  | cons _ _ _ _ ih =>
      simp only [List.length_cons]
      omega

theorem Spells.exists_values {text bytes : List UInt8} (hspells : Spells text bytes) :
    ∃ values : List UInt8, text.map digitValue? = values.map some ∧ joinPairs values = bytes := by
  induction hspells with
  | nil => exact ⟨[], rfl, rfl⟩
  | @cons high low byte upper lower text bytes hhigh hlow hbyte _ ih =>
      obtain ⟨values, hvalues, hjoin⟩ := ih
      refine ⟨UInt8.ofNat upper :: UInt8.ofNat lower :: values, ?_, ?_⟩
      · simp only [List.map_cons, digitValue?_eq, hhigh, hlow, hvalues, Option.map_some]
      · have hupper := (placeOf?_eq_some hhigh).1
        have hlower := (placeOf?_eq_some hlow).1
        have hsame : 16 * UInt8.ofNat upper + UInt8.ofNat lower = byte := by
          rw [← UInt8.toNat_inj, UInt8.toNat_add, UInt8.toNat_mul, UInt8.toNat_ofNat',
            UInt8.toNat_ofNat']
          simp only [UInt8.reduceToNat]
          omega
        rw [joinPairs, hsame, hjoin]

theorem spelled_of_spells {text bytes : List UInt8} (hspells : Spells text bytes) :
    spelled text = .ok bytes := by
  obtain ⟨values, hvalues, hjoin⟩ := hspells.exists_values
  have hlength := hspells.length_eq
  rw [spelled, if_neg (by omega), digitValues_of_map hvalues, Except.map, hjoin]

/-- Digits that pair up spell bytes. -/
theorem exists_spells {text : List UInt8} (heven : text.length % 2 = 0)
    (hdigits : ∀ byte ∈ text, IsDigit byte) : ∃ bytes, Spells text bytes := by
  fun_induction joinPairs text with
  | case1 high low text ih =>
      have hlength : text.length % 2 = 0 := by
        simp only [List.length_cons] at heven
        omega
      obtain ⟨bytes, hspells⟩ := ih hlength fun byte hbyte => hdigits byte (by simp [hbyte])
      obtain ⟨upper, hupper⟩ := Option.isSome_iff_exists.mp (hdigits high (by simp))
      obtain ⟨lower, hlower⟩ := Option.isSome_iff_exists.mp (hdigits low (by simp))
      have := (placeOf?_eq_some hupper).1
      have := (placeOf?_eq_some hlower).1
      refine ⟨UInt8.ofNat (16 * upper + lower) :: bytes, .cons hupper hlower ?_ hspells⟩
      rw [UInt8.toNat_ofNat']
      omega
  | case2 text hshort =>
      match text, hshort with
      | [], _ => exact ⟨[], .nil⟩
      | [_], _ => contradiction
      | high :: low :: rest, hshort => exact absurd rfl (hshort high low rest)

/-! ## The verdict on a text -/

/-- What becomes of a text, given by its bytes. Of the reasons against a text the first counts: its
length, then a byte that is no digit, then the number of the bytes that it spells. -/
inductive Verdict (text : List UInt8) : Except String Hash → Prop
  | odd (hodd : text.length % 2 = 1) : Verdict text (.error "Odd number of digits")
  | stranger {before after : List UInt8} {byte : UInt8} (heven : text.length % 2 = 0)
      (htext : text = before ++ byte :: after) (hbefore : ∀ digit ∈ before, IsDigit digit)
      (hbyte : ¬ IsDigit byte) :
      Verdict text (.error ("Invalid character " ++ Text.quotedChar (Char.ofNat byte.toNat) ++
        " at position " ++ toString before.length))
  | size (heven : text.length % 2 = 0) (hdigits : ∀ digit ∈ text, IsDigit digit)
      (hlength : text.length ≠ 64) :
      Verdict text (.error ("expected 32 bytes, got " ++ toString (text.length / 2)))
  | hash (hash : Hash) (hspells : Spells text hash.bytes) : Verdict text (.ok hash)

theorem Verdict.spells {text : List UInt8} {hash : Hash} (hverdict : Verdict text (.ok hash)) :
    Spells text hash.bytes := by
  cases hverdict with
  | hash _ hspells => exact hspells

/-- There is a verdict on every text. -/
theorem exists_verdict (text : List UInt8) : ∃ verdict, Verdict text verdict := by
  rcases Nat.mod_two_eq_zero_or_one text.length with heven | hodd
  · by_cases hdigits : ∀ digit ∈ text, IsDigit digit
    · by_cases hlength : text.length = 64
      · obtain ⟨bytes, hspells⟩ := exists_spells heven hdigits
        have hbytes := hspells.length_eq
        exact ⟨_, .hash ⟨bytes, by omega⟩ hspells⟩
      · exact ⟨_, .size heven hdigits hlength⟩
    · have hfind : text.find? (fun byte => ¬ IsDigit byte) ≠ none := by
        simpa [List.find?_eq_none] using hdigits
      obtain ⟨byte, hfound⟩ := Option.ne_none_iff_exists'.mp hfind
      obtain ⟨hbyte, before, after, htext, hbefore⟩ := List.find?_eq_some_iff_append.mp hfound
      refine ⟨_, .stranger heven htext (fun digit hdigit => ?_) (by simpa using hbyte)⟩
      simpa using hbefore digit hdigit
  · exact ⟨_, .odd hodd⟩

theorem digitValues_stranger {before : List UInt8} {byte : UInt8}
    (hbefore : ∀ digit ∈ before, IsDigit digit) (hbyte : ¬ IsDigit byte) (position : Nat)
    (after : List UInt8) :
    digitValues position (before ++ byte :: after) =
      .error (.badDigit byte (position + before.length)) := by
  induction before generalizing position with
  | nil =>
      have hnone : digitValue? byte = none := by
        rw [digitValue?_eq, Option.map_eq_none_iff]
        simpa [IsDigit] using hbyte
      rw [List.nil_append, digitValues, hnone]
      rfl
  | cons digit before ih =>
      obtain ⟨place, hplace⟩ := Option.isSome_iff_exists.mp (hbefore digit List.mem_cons_self)
      rw [List.cons_append, digitValues, digitValue?_eq, hplace,
        ih (fun other hother => hbefore other (List.mem_cons_of_mem _ hother)), List.length_cons,
        Nat.add_right_comm position 1, Nat.add_assoc]
      rfl

/-- The bytes of a text behind its mark, if it has one. -/
abbrev unmarked (text : List Char) : List UInt8 := utf8 (withoutMark text)

theorem ofText_of_spelled {text : List Char} {bytes : List UInt8}
    (hspelled : spelled (unmarked text) = .ok bytes) : ofText text = ofBytes bytes := by
  rw [ofText, hspelled]

theorem ofText_of_fault {text : List Char} {fault : HashFault}
    (hspelled : spelled (unmarked text) = .error fault) : ofText text = .error fault := by
  rw [ofText, hspelled]

/-- Every text comes to what the language of hashes says of its bytes behind the mark. -/
theorem ofText_of_verdict {text : List Char} {verdict : Except String Hash}
    (hverdict : Verdict (unmarked text) verdict) :
    (ofText text).mapError Document.hashWording = verdict := by
  cases hverdict with
  | odd hodd =>
      rw [ofText_of_fault (if_pos hodd)]
      rfl
  | stranger heven htext hbefore hbyte =>
      have hvalues := digitValues_stranger hbefore hbyte 0
      rw [ofText_of_fault (by rw [spelled, if_neg (by omega), htext, hvalues]; rfl), Nat.zero_add]
      rfl
  | size heven hdigits hlength =>
      obtain ⟨bytes, hspells⟩ := exists_spells heven hdigits
      have hbytes := hspells.length_eq
      have hhalf : (unmarked text).length / 2 = bytes.length := by omega
      rw [ofText_of_spelled (spelled_of_spells hspells), ofBytes, dif_neg (by omega), hhalf]
      rfl
  | hash hash hspells =>
      rw [ofText_of_spelled (spelled_of_spells hspells), ofBytes, dif_pos hash.length_bytes]
      rfl

theorem ofText_eq_ok_iff {text : List Char} {hash : Hash} :
    ofText text = .ok hash ↔ Spells (unmarked text) hash.bytes := by
  constructor
  · intro hread
    obtain ⟨verdict, hverdict⟩ := exists_verdict (unmarked text)
    have hsame := ofText_of_verdict hverdict
    rw [hread] at hsame
    cases hsame
    exact hverdict.spells
  · intro hspells
    rw [ofText_of_spelled (spelled_of_spells hspells), ofBytes, dif_pos hash.length_bytes]

theorem exists_fault_of_verdict {text : List Char} {message : String}
    (hverdict : Verdict (unmarked text) (.error message)) :
    ∃ fault, ofText text = .error fault ∧ Document.hashWording fault = message := by
  have hsame := ofText_of_verdict hverdict
  cases hread : ofText text with
  | ok hash =>
      rw [hread] at hsame
      contradiction
  | error fault =>
      rw [hread] at hsame
      cases hsame
      exact ⟨fault, rfl, rfl⟩

/-! ## The normal form of a text -/

/-- The text with one `0x` at the front and no upper case letter. -/
def normalForm (text : List Char) : List Char :=
  '0' :: 'x' :: (withoutMark text).map Char.toLower

theorem digits_of_spells {text bytes : List UInt8} (hspells : Spells text bytes) :
    digits bytes = text.map fun byte => (Char.ofNat byte.toNat).toLower := by
  induction hspells with
  | nil => rfl
  | @cons high low byte upper lower text bytes hhigh hlow hbyte _ ih =>
      obtain ⟨hupper, -, hhighDigit⟩ := placeOf?_eq_some hhigh
      obtain ⟨hlower, -, hlowDigit⟩ := placeOf?_eq_some hlow
      have hquotient : byte / 16 = UInt8.ofNat upper := by
        rw [← UInt8.toNat_inj, UInt8.toNat_div, UInt8.toNat_ofNat', hbyte]
        simp only [UInt8.reduceToNat]
        omega
      have hremainder : byte % 16 = UInt8.ofNat lower := by
        rw [← UInt8.toNat_inj, UInt8.toNat_mod, UInt8.toNat_ofNat', hbyte]
        simp only [UInt8.reduceToNat]
        omega
      rw [List.map_cons, List.map_cons, ← hhighDigit, ← hlowDigit, ← ih, ← hquotient, ← hremainder]
      rfl

theorem continuation_not_lt (bits : Nat) : ¬ UInt8.ofNat (bits % 64 + 128) < 128 := by
  rw [UInt8.lt_iff_toNat_lt, UInt8.toNat_ofNat']
  simp only [UInt8.reduceToNat]
  omega

/-- A character whose bytes are all ASCII is the only one of them: beyond ASCII the last byte is
none. -/
theorem utf8EncodeChar_of_ascii {c : Char}
    (hascii : ∀ byte ∈ String.utf8EncodeChar c, byte < 128) :
    (String.utf8EncodeChar c).map (fun byte => Char.ofNat byte.toNat) = [c] := by
  revert hascii
  fun_cases String.utf8EncodeChar c with
  | case1 code hcode =>
      intro _
      have hsame : code % 256 = c.toNat := Nat.mod_eq_of_lt (Nat.lt_of_le_of_lt hcode (by decide))
      rw [List.map_singleton, UInt8.toNat_ofNat', hsame, Char.ofNat_toNat]
  | case2 code | case3 code | case4 code =>
      intro hascii
      exact absurd (hascii _ (by simp)) (continuation_not_lt code)

theorem map_ofNat_utf8 {text : List Char} (hascii : ∀ byte ∈ utf8 text, byte < 128) :
    (utf8 text).map (fun byte => Char.ofNat byte.toNat) = text := by
  induction text with
  | nil => rfl
  | cons c text ih =>
      rw [utf8, List.flatMap_cons, List.forall_mem_append] at hascii
      rw [utf8, List.flatMap_cons, List.map_append, utf8EncodeChar_of_ascii hascii.1]
      exact congrArg (c :: ·) (ih hascii.2)

theorem ascii_of_spells {text bytes : List UInt8} (hspells : Spells text bytes) :
    ∀ byte ∈ text, byte < 128 := by
  induction hspells with
  | nil => simp
  | cons hhigh hlow _ _ ih =>
      refine List.forall_mem_cons.mpr ⟨?_, List.forall_mem_cons.mpr ⟨?_, ih⟩⟩
      · exact (placeOf?_eq_some hhigh).2.1
      · exact (placeOf?_eq_some hlow).2.1

/-- A hash is written in the normal form of every text that spells its bytes. -/
theorem text_eq_normalForm {text : List Char} {hash : Hash}
    (hspells : Spells (unmarked text) hash.bytes) : hash.text = normalForm text := by
  have hmap : (unmarked text).map (fun byte => (Char.ofNat byte.toNat).toLower) =
      (withoutMark text).map Char.toLower := by
    have hchars := congrArg (List.map Char.toLower) (map_ofNat_utf8 (ascii_of_spells hspells))
    rwa [List.map_map] at hchars
  rw [Hash.text, digits_of_spells hspells, hmap]
  rfl

/-- Different hashes have different texts. -/
theorem text_injective : Function.Injective Hash.text := by
  intro hash other hsame
  have hread := ofText_text hash
  rw [hsame, ofText_text other] at hread
  exact (Except.ok.inj hread).symm

theorem isLower_digit {value : UInt8} (hlt : value < 16) :
    digit value ∈ lowerDigits := by
  apply forall_lt_sixteen _ hlt
  decide +kernel

/-- Behind the mark of a hash's text stand 64 digits, of which none is an upper case letter. -/
theorem digits_of_hash (hash : Hash) :
    (digits hash.bytes).length = 64 ∧ ∀ c ∈ digits hash.bytes, c ∈ lowerDigits := by
  constructor
  · have hpair : (fun byte => (digitPair byte).length) = fun _ => 2 := rfl
    rw [digits, List.length_flatMap, hpair, List.map_const', List.sum_replicate_nat,
      hash.length_bytes]
  · intro c hc
    obtain ⟨byte, -, hpair⟩ := List.mem_flatMap.mp hc
    rw [digitPair, List.mem_cons, List.mem_singleton] at hpair
    rcases hpair with rfl | rfl
    · exact isLower_digit (high_lt byte)
    · exact isLower_digit (low_lt byte)

/-- Two texts have the same hash if they spell the same bytes. -/
theorem eq_iff_spells {text other : List Char} {hash otherHash : Hash}
    (hspells : Spells (unmarked text) hash.bytes)
    (hother : Spells (unmarked other) otherHash.bytes) :
    otherHash = hash ↔ ∃ bytes, Spells (unmarked text) bytes ∧ Spells (unmarked other) bytes := by
  constructor
  · rintro rfl
    exact ⟨_, hspells, hother⟩
  · rintro ⟨bytes, hfirst, hsecond⟩
    have hbytes : hash.bytes = bytes :=
      Except.ok.inj ((spelled_of_spells hspells).symm.trans (spelled_of_spells hfirst))
    have hotherBytes : otherHash.bytes = bytes :=
      Except.ok.inj ((spelled_of_spells hother).symm.trans (spelled_of_spells hsecond))
    cases hash
    cases otherHash
    simp_all

end ForkSchedule.Hash
