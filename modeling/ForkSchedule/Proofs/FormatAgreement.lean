import ForkSchedule.Proofs.DocumentText
import ForkSchedule.Proofs.HashLanguage
import ForkSchedule.Proofs.TomlLine

/-!
# Documents of either format

A schedule can be written as TOML with a line for each field that has data. Read from such a
document, whatever the order of its lines, it is the schedule that is read from its JSON document,
as long as its numbers fit a word of 64 bits with a sign.
-/

namespace ForkSchedule

open Document

namespace Hash

theorem isUnescaped_of_mem_text {hash : Hash} {c : Char} (hc : c ∈ hash.text) :
    Toml.IsUnescaped c := by
  have hall : ('x' :: lowerDigits).all fun c => decide (Toml.IsUnescaped c) := by decide
  apply of_decide_eq_true
  apply List.all_eq_true.mp hall
  rcases List.mem_cons.mp hc with rfl | hc
  · decide
  · rcases List.mem_cons.mp hc with rfl | hc
    · exact List.mem_cons_self
    · exact List.mem_cons_of_mem _ ((digits_of_hash hash).2 c hc)

end Hash

namespace Field

theorem isBareKey_name (field : Field) : Toml.IsBareKey field.name.toList := by
  cases field with
  | point fork => cases fork <;> exact ⟨by decide, List.all_eq_true.mp (by decide)⟩
  | _ => exact ⟨by decide, List.all_eq_true.mp (by decide)⟩

theorem Kind.Below.mono {kind : Kind} {data : kind.Data} {limit other : Nat}
    (hbelow : kind.Below limit data) (hle : limit ≤ other) : kind.Below other data := by
  cases kind with
  | number => exact fun number hnumber => Nat.lt_of_lt_of_le (hbelow number hnumber) hle
  | flag | hash => trivial

/-- The text of data is read as a TOML value from which the data are taken. -/
theorem exists_value_of_text? {kind : Kind} {data : kind.Data} {text : List Char}
    (htext : kind.text? data = some text) (hbelow : kind.Below (wordLimit / 2) data) :
    ∃ value, Toml.Denotes text (some value) ∧ kind.take value.found = .ok data := by
  cases kind with
  | number =>
      obtain ⟨number, rfl, rfl⟩ := Option.map_eq_some_iff.mp htext
      have hfits : number < wordLimit / 2 := hbelow number rfl
      have hword : Toml.signedWord? false number = some (number : Int) := by
        rw [Toml.signedWord?, if_neg Bool.false_ne_true, if_pos hfits]
      have hdenotes := Toml.denotes_integer (Text.Integer.ofNat number)
      rw [Text.Integer.chars_ofNat, Text.Integer.magnitude_ofNat] at hdenotes
      refine ⟨.integer number, ?_, rfl⟩
      rwa [show (Text.Integer.ofNat number).negative = false from rfl, hword] at hdenotes
  | flag => cases data with
    | false => contradiction
    | true =>
        obtain rfl := Option.some.inj htext
        exact ⟨.boolean true, Toml.denotes_true, rfl⟩
  | hash =>
      obtain ⟨hash, rfl, rfl⟩ := Option.map_eq_some_iff.mp htext
      refine ⟨.text hash.text, Toml.denotes_plainText fun _ => Hash.isUnescaped_of_mem_text, ?_⟩
      simp only [Kind.take, Toml.Value.found, takeHash, Hash.ofText_text]

theorem takeEntry_name {field : Field} {value : Toml.Value} {data : field.kind.Data}
    (htake : field.kind.take value.found = .ok data) (built : Schedule) :
    Toml.takeEntry Schedule.layout built (field.name.toList, value) =
      .ok (built.set field data) := by
  have hcontent : Toml.content field.slot.content value =
      .ok fun schedule => schedule.set field data :=
    congrArg (Except.map _) htake
  simp only [Toml.takeEntry, slot?_name, hcontent]

end Field

namespace Schedule

theorem mem_members_iff {schedule : Schedule} {line : String × List Char} :
    line ∈ schedule.members ↔ ∃ field : Field, line.1 = field.name ∧
      field.kind.text? (schedule.get field) = some line.2 := by
  obtain ⟨name, text⟩ := line
  simp only [members, List.mem_filterMap, Option.map_eq_some_iff, Prod.mk.injEq]
  constructor
  · rintro ⟨field, -, found, htext, rfl, rfl⟩
    exact ⟨field, rfl, htext⟩
  · rintro ⟨field, rfl, htext⟩
    exact ⟨field, Field.mem_all field, text, htext, rfl, rfl⟩

theorem nodup_map_members (schedule : Schedule) : (schedule.members.map Prod.fst).Nodup := by
  rw [members, List.map_filterMap]
  apply List.Pairwise.filterMap _ _ Field.nodup_all
  intro field other hne name hname later hlater
  simp only [Option.map_map, Option.map_eq_some_iff, Function.comp_apply] at hname hlater
  obtain ⟨-, -, rfl⟩ := hname
  obtain ⟨-, -, rfl⟩ := hlater
  exact Field.name_injective.ne hne

/-- Lines from the document of a schedule overwrite the fields that they name with the data of the
schedule, and no other field. -/
theorem exists_overwritten {schedule : Schedule} (hbelow : schedule.NumbersBelow (wordLimit / 2))
    {lines : List (String × List Char)} (hlines : ∀ line ∈ lines, line ∈ schedule.members) :
    ∃ found : Toml.Entries, List.Forall₂ Toml.Gives lines found ∧
      ∀ built : Schedule, ∃ filled : Schedule,
        found.foldlM (Toml.takeEntry layout) built = .ok filled ∧
        ∀ field : Field,
          (field.name ∈ lines.map Prod.fst → filled.get field = schedule.get field) ∧
          (field.name ∉ lines.map Prod.fst → filled.get field = built.get field) := by
  induction lines with
  | nil => exact ⟨[], .nil, fun built => ⟨built, rfl, by simp⟩⟩
  | cons line lines ih =>
      obtain ⟨found, hfound, hfilled⟩ := ih fun other hother => hlines other (by simp [hother])
      obtain ⟨field, hname, htext⟩ := mem_members_iff.mp (hlines line List.mem_cons_self)
      obtain ⟨value, hdenotes, htake⟩ := Field.exists_value_of_text? htext (hbelow field)
      refine ⟨(field.name.toList, value) :: found, .cons ?_ hfound, fun built => ?_⟩
      · exact ⟨hname ▸ field.isBareKey_name, congrArg String.toList hname.symm, hdenotes⟩
      · obtain ⟨filled, hread, hget⟩ := hfilled (built.set field (schedule.get field))
        refine ⟨filled, ?_, fun other => ?_⟩
        · rw [List.foldlM_cons, Field.takeEntry_name htake]
          exact hread
        · obtain ⟨hnamed, hkept⟩ := hget other
          rw [List.map_cons, List.mem_cons, hname]
          by_cases hlater : other.name ∈ lines.map Prod.fst
          · exact ⟨fun _ => hnamed hlater, fun hnot => absurd (.inr hlater) hnot⟩
          · rw [hkept hlater]
            by_cases hsame : other = field
            · subst hsame
              rw [get_set_self]
              exact ⟨fun _ => rfl, fun hnot => absurd (.inl rfl) hnot⟩
            · rw [get_set_of_ne _ hsame]
              refine ⟨?_, fun _ => rfl⟩
              rintro (hsameName | hlaterName)
              · exact absurd (Field.name_injective hsameName) hsame
              · exact absurd hlaterName hlater

theorem ofToml_of_lines {schedule : Schedule} (hbelow : schedule.NumbersBelow (wordLimit / 2))
    {lines : List (String × List Char)} (hlines : lines.Perm schedule.members) {text : String}
    (htext : Toml.IsLines lines text.toList) : ofToml text = .ok schedule := by
  obtain ⟨found, hfound, hfilled⟩ :=
    exists_overwritten hbelow fun line hline => hlines.mem_iff.mp hline
  obtain ⟨filled, hread, hget⟩ := hfilled {}
  have hnodup : (lines.map Prod.fst).Nodup :=
    (hlines.map Prod.fst).nodup_iff.mpr schedule.nodup_map_members
  have hsame : filled = schedule := by
    apply ext_get
    intro field
    by_cases hname : field.name ∈ lines.map Prod.fst
    · exact (hget field).1 hname
    · have hnone : field.kind.text? (schedule.get field) = none := by
        rw [Option.eq_none_iff_forall_ne_some]
        intro content hcontent
        have hmem : (field.name, content) ∈ schedule.members :=
          mem_members_iff.mpr ⟨field, rfl, hcontent⟩
        exact hname (List.mem_map_of_mem (hlines.mem_iff.mpr hmem))
      rw [(hget field).2 hname, get_empty]
      exact (Field.eq_blank_of_text? hnone).symm
  rw [ofToml, Toml.record, Toml.entries?_of_lines htext hfound hnodup]
  exact hread.trans (congrArg Except.ok hsame)

theorem NumbersBelow.mono {schedule : Schedule} {limit other : Nat}
    (hbelow : schedule.NumbersBelow limit) (hle : limit ≤ other) : schedule.NumbersBelow other :=
  fun field => (hbelow field).mono hle

/-- A document with a line for each field that has data, in any order, is read as the same schedule
as the JSON document, if the numbers of the schedule fit a word of 64 bits with a sign. -/
theorem toml_agrees_with_json {schedule : Schedule}
    (hbelow : schedule.NumbersBelow 9223372036854775808) {lines : List (String × List Char)}
    (hlines : lines.Perm schedule.members) {text : String}
    (htext : Toml.IsLines lines text.toList) :
    ofToml text = .ok schedule ∧ ofJson schedule.document = .ok schedule :=
  ⟨ofToml_of_lines hbelow hlines htext, ofJson_document (hbelow.mono (by decide))⟩

/-- Four fields, the last one first, with the largest number for a fork. -/
theorem toml_agrees_with_json_at_limit :
    ofToml ("istanbulBlock = 9223372036854775807\n" ++
      "eip150Hash = \x220xabababababababababababababababababababababababababababababababab\x22\n" ++
      "daoForkSupport = true\nchainId = 14\n") =
      .ok { chainId := some 14, daoForkSupport := true,
             eip150Hash := some ⟨List.replicate 32 0xAB, rfl⟩,
             istanbul := some 9223372036854775807 } := by
  have hbelow : NumbersBelow
      { chainId := some 14, daoForkSupport := true,
        eip150Hash := some ⟨List.replicate 32 0xAB, rfl⟩,
        istanbul := some 9223372036854775807 } 9223372036854775808 := by
    decide +kernel
  refine (toml_agrees_with_json hbelow (List.reverse_perm _) ?_).1
  exact Toml.isLines_of_eq (by decide +kernel)

end Schedule

end ForkSchedule
