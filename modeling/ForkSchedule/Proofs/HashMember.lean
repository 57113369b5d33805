import ForkSchedule.Proofs.HashLanguage
import ForkSchedule.Proofs.JsonSpelling
import ForkSchedule.Proofs.MemberSum

/-!
# The hash of a document

What becomes of a schedule document hangs on the string that it gives for the hash: the schedule has
the hash that the string spells, or the document is refused for what counts against the string.
-/

namespace ForkSchedule.Json

open Document

/-- The member that gives the hash as a string. -/
def hashMember (content : List Char) : Member where
  name := some Field.eip150Hash.name.toList
  value := [.text (some content)]
  isValue := .scalar trivial

/-- A text is an object that gives this string for the hash. Without that member it would be
accepted as a schedule, for which no other member gives a hash. -/
def GivesHash (content : List Char) (rest : Schedule) (text : String) : Prop :=
  ∃ before after without, IsObject (before ++ hashMember content :: after) text ∧
    IsObject (before ++ after) without ∧ Schedule.ofJson without = .ok rest ∧
    Field.eip150Hash ∉ (before ++ after).filterMap Member.field?

/-- Every string can be given for the hash. -/
theorem exists_givesHash (content : List Char) : ∃ text, GivesHash content {} text := by
  obtain ⟨cs, hwritten⟩ : ∃ cs, Written (objectTokens [hashMember content]) cs :=
    exists_written_cons ⟨_, .openBrace⟩ <|
      exists_written_cons (exists_spelling_text Field.eip150Hash.name.toList) <|
        exists_written_cons ⟨_, .colon⟩ <|
          exists_written_cons (exists_spelling_text content) <|
            exists_written_cons ⟨_, .closeBrace⟩ ⟨[], .nil (List.forall_mem_nil _)⟩
  have hempty : IsObject [] "\x7b\x7d" := isObject_of_tokens (by decide +kernel)
  refine ⟨String.ofList cs, [], [], _, ?_, hempty, ?_, List.not_mem_nil⟩
  · rw [IsObject, String.toList_ofList]
    exact hwritten
  · rw [ofJson_of_isObject hempty]
    rfl

section GivesHash

variable {content : List Char} {rest : Schedule} {text : String}

theorem ofJson_of_hash {hash : Hash} (hgiven : GivesHash content rest text)
    (hread : Hash.ofText content = .ok hash) :
    Schedule.ofJson text = .ok { rest with eip150Hash := some hash } := by
  obtain ⟨before, after, without, hobject, hwithout, hrest, hnew⟩ := hgiven
  have htake : takeHash (.text content) = .ok (some hash) := by
    rw [takeHash, hread]
  rw [ofJson_eq_ok_iff hwithout] at hrest
  rw [ofJson_eq_ok_iff hobject, describes_middle_iff]
  exact hrest.cons (Member.field?_eq_some_iff.mpr rfl) List.not_mem_nil hnew rfl htake

theorem ofJson_of_hashFault {fault : HashFault} (hgiven : GivesHash content rest text)
    (hread : Hash.ofText content = .error fault) :
    Schedule.ofJson text = .error (.hash fault) := by
  obtain ⟨before, after, without, hobject, hwithout, hrest, hnew⟩ := hgiven
  have htake : takeHash (.text content) = .error (.hash fault) := by
    rw [takeHash, hread]
  rw [ofJson_eq_ok_iff hwithout] at hrest
  exact ofJson_refused hobject hrest (Member.field?_eq_some_iff.mpr rfl) hnew rfl htake

end GivesHash

/-- The string that is given for the hash decides over a document. There is a verdict on every
string, by its bytes in UTF-8 behind the mark. If it is a reason against the string, the document is
refused in these words. If it is a hash, the document is accepted with it, and the text in which the
hash is written again is a normal form of the string: it has a mark and 64 digits without upper case
letters, it gives the same hash once more, and two strings share it if they spell the same bytes. -/
theorem hash_string_decides {content : List Char} {rest : Schedule} {text : String}
    (hgiven : GivesHash content rest text) :
    (∃ verdict, Hash.Verdict (Hash.unmarked content) verdict) ∧
    (∀ message, Hash.Verdict (Hash.unmarked content) (.error message) →
      ∃ fault, Schedule.ofJson text = .error fault ∧ fault.message? = some message) ∧
    ∀ hash, Hash.Verdict (Hash.unmarked content) (.ok hash) →
      Schedule.ofJson text = .ok { rest with eip150Hash := some hash } ∧
      ("eip150Hash", plainText hash.text) ∈
        Schedule.members { rest with eip150Hash := some hash } ∧
      (∃ digits, hash.text = '0' :: 'x' :: digits ∧ digits.length = 64 ∧
        ∀ c ∈ digits, c ∈ Hash.lowerDigits) ∧
      hash.text = Hash.normalForm content ∧ Hash.normalForm hash.text = hash.text ∧
      (∀ others again, GivesHash hash.text others again →
        Schedule.ofJson again = .ok { others with eip150Hash := some hash }) ∧
      ∀ other otherHash, Hash.Verdict (Hash.unmarked other) (.ok otherHash) →
        (otherHash.text = hash.text ↔
          ∃ bytes, Hash.Spells (Hash.unmarked content) bytes ∧
            Hash.Spells (Hash.unmarked other) bytes) := by
  refine ⟨Hash.exists_verdict _, ?_, ?_⟩
  · intro message hverdict
    obtain ⟨fault, hread, hmessage⟩ := Hash.exists_fault_of_verdict hverdict
    exact ⟨_, ofJson_of_hashFault hgiven hread, congrArg some hmessage⟩
  · intro hash hverdict
    have hspells := hverdict.spells
    have hread := Hash.ofText_eq_ok_iff.mpr hspells
    have hagain := Hash.ofText_text hash
    refine ⟨ofJson_of_hash hgiven hread, ?_, ⟨_, rfl, Hash.digits_of_hash hash⟩,
      Hash.text_eq_normalForm hspells, ?_, ?_, ?_⟩
    · exact List.mem_filterMap.mpr ⟨.eip150Hash, Field.mem_all _, rfl⟩
    · exact (Hash.text_eq_normalForm (Hash.ofText_eq_ok_iff.mp hagain)).symm
    · intro others again hgivenAgain
      exact ofJson_of_hash hgivenAgain hagain
    · intro other otherHash hother
      rw [Hash.text_injective.eq_iff]
      exact Hash.eq_iff_spells hspells hother.spells

/-- The digits may have letters of either case. An umlaut counts for two, so that the other text has
an even length, and its first byte that is no digit is the reason against it. -/
theorem hash_in_mixed_case_and_umlaut :
    Schedule.ofJson ("\x7b\x22chainId\x22:14,\x22eip150Hash\x22:" ++
      "\x220xaBaBaBaBaBaBaBaBaBaBaBaBaBaBaBaBaBaBaBaBaBaBaBaBaBaBaBaBaBaBaBaB\x22\x7d") =
      .ok { chainId := some 14, eip150Hash := some ⟨List.replicate 32 0xAB, rfl⟩ } ∧
    ∃ fault, Schedule.ofJson "\x7b\x22chainId\x22:14,\x22eip150Hash\x22:\x2201gü0\x22\x7d" =
        .error fault ∧
      fault.message? = some "Invalid character 'g' at position 2" := by
  have hothers : IsObject [⟨some "chainId".toList, [.number (.integer 14)], .scalar trivial⟩]
      "\x7b\x22chainId\x22:14\x7d" :=
    isObject_of_tokens (by decide +kernel)
  have hread : Schedule.ofJson "\x7b\x22chainId\x22:14\x7d" = .ok { chainId := some 14 } := by
    rw [ofJson_of_isObject hothers]
    rfl
  constructor
  · have hgiven : GivesHash
        "0xaBaBaBaBaBaBaBaBaBaBaBaBaBaBaBaBaBaBaBaBaBaBaBaBaBaBaBaBaBaBaBaB".toList
        { chainId := some 14 } ("\x7b\x22chainId\x22:14,\x22eip150Hash\x22:" ++
          "\x220xaBaBaBaBaBaBaBaBaBaBaBaBaBaBaBaBaBaBaBaBaBaBaBaBaBaBaBaBaBaBaBaB\x22\x7d") :=
      ⟨[_], [], _, isObject_of_tokens (by decide +kernel), hothers, hread, by decide⟩
    have hspells := Hash.ofText_eq_ok_iff.mp (by decide +kernel :
      Hash.ofText "0xaBaBaBaBaBaBaBaBaBaBaBaBaBaBaBaBaBaBaBaBaBaBaBaBaBaBaBaBaBaBaBaB".toList =
        .ok ⟨List.replicate 32 0xAB, rfl⟩)
    exact ((hash_string_decides hgiven).2.2 _ (.hash _ hspells)).1
  · have hgiven : GivesHash "01gü0".toList { chainId := some 14 }
        "\x7b\x22chainId\x22:14,\x22eip150Hash\x22:\x2201gü0\x22\x7d" :=
      ⟨[_], [], _, isObject_of_tokens (by decide +kernel), hothers, hread, by decide⟩
    have htext : Hash.unmarked "01gü0".toList = [48, 49] ++ 0x67 :: [0xC3, 0xBC, 48] := by
      decide +kernel
    have hbefore : ∀ digit ∈ ([48, 49] : List UInt8), Hash.IsDigit digit := by decide +kernel
    have hverdict := Hash.Verdict.stranger (by rw [htext]; rfl) htext hbefore (by decide +kernel)
    have hwording : "Invalid character " ++ Text.quotedChar (Char.ofNat (0x67 : UInt8).toNat) ++
        " at position " ++ toString ([48, 49] : List UInt8).length =
          "Invalid character 'g' at position 2" := by
      decide +kernel
    rw [hwording] at hverdict
    exact (hash_string_decides hgiven).2.1 _ hverdict

end ForkSchedule.Json
