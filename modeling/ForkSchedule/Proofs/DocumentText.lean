import ForkSchedule.Proofs.HashText
import ForkSchedule.Proofs.JsonRecord
import ForkSchedule.Schedule.Document
import Mathlib.Data.List.Nodup

/-!
# Schedules come back from their documents

A schedule is read back from its document as it was written, whichever fields it has. A field
without data is not written; it comes back without data, because nothing is read for it.
-/

namespace ForkSchedule

open Document

namespace Hash

theorem isPlain_digit {value : UInt8} (hlt : value < 16) : Json.IsPlain (digit value) := by
  apply forall_lt_sixteen _ hlt
  decide +kernel

theorem isPlain_of_mem_text {hash : Hash} {c : Char} (hc : c ∈ hash.text) : Json.IsPlain c := by
  rcases List.mem_cons.mp hc with rfl | hc
  · decide
  rcases List.mem_cons.mp hc with rfl | hc
  · decide
  obtain ⟨byte, -, hpair⟩ := List.mem_flatMap.mp hc
  rw [digitPair, List.mem_cons, List.mem_singleton] at hpair
  rcases hpair with rfl | rfl
  · exact isPlain_digit (high_lt byte)
  · exact isPlain_digit (low_lt byte)

end Hash

namespace Field

/-- The number that data of a kind hold, if any, is below a limit. -/
def Kind.Below (limit : Nat) : (kind : Kind) → kind.Data → Prop
  | .number, value => ∀ number ∈ value, number < limit
  | .flag, _ => True
  | .hash, _ => True

instance (limit : Nat) (kind : Kind) (data : kind.Data) : Decidable (kind.Below limit data) :=
  match kind with
  | .number => inferInstanceAs (Decidable (∀ number ∈ data, number < limit))
  | .flag => isTrue trivial
  | .hash => isTrue trivial

theorem eq_blank_of_text? {kind : Kind} {data : kind.Data} (htext : kind.text? data = none) :
    data = kind.blank := by
  cases kind with
  | number => exact Option.map_eq_none_iff.mp htext
  | flag => cases data with
    | false => rfl
    | true => contradiction
  | hash => exact Option.map_eq_none_iff.mp htext

/-- The text of data is one token, from which the data are taken. -/
theorem exists_token_of_text? {kind : Kind} {data : kind.Data} {text : List Char}
    (htext : kind.text? data = some text) (hbelow : kind.Below wordLimit data) :
    ∃ token found, Json.Spells text token ∧ token.found? = some found ∧
      kind.take found = .ok data := by
  cases kind with
  | number =>
      obtain ⟨number, rfl, rfl⟩ := Option.map_eq_some_iff.mp htext
      exact ⟨_, _, Json.spells_numberText (hbelow number rfl), rfl, rfl⟩
  | flag => cases data with
    | false => contradiction
    | true =>
        obtain rfl := Option.some.inj htext
        exact ⟨_, _, Json.spells_flagText true, rfl, rfl⟩
  | hash =>
      obtain ⟨hash, rfl, rfl⟩ := Option.map_eq_some_iff.mp htext
      refine ⟨_, _, Json.spells_plainText fun _ => Hash.isPlain_of_mem_text, rfl, ?_⟩
      simp only [Kind.take, takeHash, Hash.ofText_text]

theorem nodup_map_name : (all.map name).Nodup := by decide

theorem name_injective : Function.Injective name :=
  fun field other hname =>
    List.inj_on_of_nodup_map nodup_map_name (mem_all field) (mem_all other) hname

theorem plain_name (field : Field) : ∀ c ∈ field.name.toList, Json.IsPlain c := by
  cases field with
  | point fork => cases fork <;> simp [name, Fork.fieldName, Json.IsPlain]
  | _ => simp [name, Json.IsPlain]

/-- The field with a name. -/
def ofName? (name : List Char) : Option Field := all.find? (·.name.toList = name)

theorem ofName?_name (field : Field) : ofName? field.name.toList = some field := by
  cases hfound : ofName? field.name.toList with
  | none => simpa using List.find?_eq_none.mp hfound field (mem_all field)
  | some found =>
      have hname := List.find?_some hfound
      rw [decide_eq_true_eq, String.toList_inj] at hname
      rw [name_injective hname]

theorem ofName?_eq_some_iff {name : List Char} {field : Field} :
    ofName? name = some field ↔ name = field.name.toList := by
  constructor
  · intro hfound
    exact (by simpa using List.find?_some hfound : field.name.toList = name).symm
  · rintro rfl
    exact ofName?_name field

theorem ofName?_eq_none_iff {name : List Char} :
    ofName? name = none ↔ ∀ field : Field, name ≠ field.name.toList := by
  rw [Option.eq_none_iff_forall_ne_some]
  exact forall_congr' fun field => not_congr ofName?_eq_some_iff

theorem layout_slot? (name : List Char) :
    Schedule.layout.slot? name = (ofName? name).map slot := by
  rw [Record.slot?, Schedule.layout, List.find?_map]
  rfl

theorem slot?_name (field : Field) :
    Schedule.layout.slot? field.name.toList = some field.slot := by
  rw [layout_slot?, ofName?_name]
  rfl

end Field

namespace Schedule

/-- Every number of a schedule is below a limit. -/
def NumbersBelow (schedule : Schedule) (limit : Nat) : Prop :=
  ∀ field, Field.Kind.Below limit field.kind (schedule.get field)

instance (schedule : Schedule) (limit : Nat) : Decidable (schedule.NumbersBelow limit) :=
  decidable_of_iff (∀ field ∈ Field.all, Field.Kind.Below limit field.kind (schedule.get field))
    ⟨fun hall field => hall field (Field.mem_all field), fun hall field _ => hall field⟩

theorem get_empty (field : Field) : ({} : Schedule).get field = field.kind.blank := by
  cases field with
  | point fork => cases fork <;> rfl
  | _ => rfl

/-- The entry of a field, unless it holds no data. -/
def entryOf (schedule : Schedule) (field : Field) : Option (Json.Entry Schedule) :=
  (field.kind.text? (schedule.get field)).map fun text =>
    { slot := field.slot, text, update := fun built => built.set field (schedule.get field) }

theorem members_eq (schedule : Schedule) :
    schedule.members = (Field.all.filterMap schedule.entryOf).map Json.Entry.member := by
  rw [List.map_filterMap]
  apply List.filterMap_congr
  intro field _
  rw [entryOf, Option.map_map]
  rfl

theorem readable_entry {schedule : Schedule} (hbelow : schedule.NumbersBelow wordLimit)
    {field : Field} {entry : Json.Entry Schedule} (hentry : schedule.entryOf field = some entry) :
    entry.Readable layout := by
  obtain ⟨text, htext, rfl⟩ := Option.map_eq_some_iff.mp hentry
  obtain ⟨token, found, hspells, hfound, htake⟩ :=
    Field.exists_token_of_text? htext (hbelow field)
  refine ⟨field.plain_name, field.slot?_name, token, hspells, fun left => ?_⟩
  exact Json.reads_scalar hfound (by rw [htake]; rfl) left

/-- Filling in the entries of a schedule gives it back, as long as every field without an entry
holds no data from the start. -/
theorem get_filled {schedule built : Schedule} {fields : List Field} {field : Field}
    (hstart : built.get field = schedule.get field ∨
      built.get field = field.kind.blank ∧ field ∈ fields) :
    ((fields.filterMap schedule.entryOf).foldl (fun value entry => entry.update value) built).get
      field = schedule.get field := by
  -- Each field is restored already, or blank and still to come.
  induction fields generalizing built with
  | nil => simpa using hstart
  | cons first fields ih =>
      cases htext : first.kind.text? (schedule.get first) with
      | none =>
          rw [List.filterMap_cons_none (by rw [entryOf, htext]; rfl)]
          apply ih
          rcases hstart with hsame | ⟨hblank, hmem⟩
          · exact .inl hsame
          · rcases List.mem_cons.mp hmem with rfl | hmem
            · exact .inl (hblank.trans (Field.eq_blank_of_text? htext).symm)
            · exact .inr ⟨hblank, hmem⟩
      | some text =>
          rw [List.filterMap_cons_some (by rw [entryOf, htext]; rfl), List.foldl_cons]
          apply ih
          by_cases hfirst : field = first
          · subst hfirst
            exact .inl (get_set_self ..)
          · rw [get_set_of_ne _ hfirst]
            simpa [hfirst] using hstart

theorem ofJson_document {schedule : Schedule} (hbelow : schedule.NumbersBelow wordLimit) :
    ofJson schedule.document = .ok schedule := by
  have hreadable : ∀ entry ∈ Field.all.filterMap schedule.entryOf, entry.Readable layout := by
    intro entry hmem
    obtain ⟨field, -, hentry⟩ := List.mem_filterMap.mp hmem
    exact readable_entry hbelow hentry
  have hdistinct : (Field.all.filterMap schedule.entryOf).Pairwise
      fun entry later => entry.slot.name ≠ later.slot.name := by
    apply List.Pairwise.filterMap schedule.entryOf _ Field.nodup_all
    intro field other hne entry hentry later hlater
    obtain ⟨text, -, rfl⟩ := Option.map_eq_some_iff.mp hentry
    obtain ⟨text', -, rfl⟩ := Option.map_eq_some_iff.mp hlater
    exact Field.name_injective.ne hne
  rw [ofJson, document, members_eq, Json.Entry.whole_objectText hreadable hdistinct]
  congr 1
  apply ext_get
  intro field
  exact get_filled (.inr ⟨get_empty field, Field.mem_all field⟩)

example : document { homestead := some 0, apricotPhase1 := some 150 } =
    "\x7b\x22homesteadBlock\x22:0,\x22apricotPhase1BlockTimestamp\x22:150\x7d" := by decide

/-- A schedule whose numbers are words of 64 bits is read back from its document as it is, fields
without data included, and no other such schedule has the same document. -/
theorem document_read_back {schedule : Schedule} (hbelow : schedule.NumbersBelow wordLimit) :
    ofJson schedule.document = .ok schedule ∧
      ∀ other : Schedule, other.NumbersBelow wordLimit → other.document = schedule.document →
        other = schedule := by
  refine ⟨ofJson_document hbelow, fun other hother hsame => ?_⟩
  have hread : (.ok other : Except Fault Schedule) = .ok schedule := by
    rw [← ofJson_document hother, hsame, ofJson_document hbelow]
  exact Except.ok.inj hread

/-- The largest number, a zero, the flag and a hash; every other field is absent. -/
theorem document_read_back_at_limits :
    NumbersBelow
      { chainId := some 18446744073709551615, homestead := some 0, daoForkSupport := true,
        eip150Hash := some ⟨List.replicate 32 0xAF, rfl⟩ } wordLimit ∧
    ofJson (document
      { chainId := some 18446744073709551615, homestead := some 0, daoForkSupport := true,
        eip150Hash := some ⟨List.replicate 32 0xAF, rfl⟩ }) = .ok
      { chainId := some 18446744073709551615, homestead := some 0, daoForkSupport := true,
        eip150Hash := some ⟨List.replicate 32 0xAF, rfl⟩ } := by
  have hbelow : NumbersBelow
      { chainId := some 18446744073709551615, homestead := some 0, daoForkSupport := true,
        eip150Hash := some ⟨List.replicate 32 0xAF, rfl⟩ } wordLimit := by
    decide
  exact ⟨hbelow, (document_read_back hbelow).1⟩

end Schedule

end ForkSchedule
