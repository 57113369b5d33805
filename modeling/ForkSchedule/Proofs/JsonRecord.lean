import ForkSchedule.Json.Reader
import ForkSchedule.Proofs.JsonText

/-!
# Reading the records that were written

An object that is written member by member is read back member by member, as long as each text is
one token that its slot takes and no slot is written twice.
-/

namespace ForkSchedule.Json

open Document

/-- A reader takes this value from the front of the tokens and leaves the others. -/
def Reads {α : Type} (reader : Reader α) (tokens : List Token) (value : α) (left : List Token) :
    Prop :=
  ∃ rest : Left tokens, reader tokens = .ok (value, rest) ∧ rest.val = left

theorem onlyValue_of_reads {α : Type} {reader : Reader α} {tokens : List Token} {value : α}
    (hreads : Reads reader tokens value []) : onlyValue reader tokens = .ok value := by
  obtain ⟨⟨left, hleft⟩, hread, rfl⟩ := hreads
  rw [onlyValue, hread]

theorem reads_scalar {α : Type} {take : Found → Except Fault α} {token : Token} {found : Found}
    {value : α} (hfound : token.found? = some found) (htake : take found = .ok value)
    (rest : List Token) : Reads (scalar take) (token :: rest) value rest := by
  refine ⟨Left.tail, ?_, rfl⟩
  simp only [scalar, hfound, htake]

section Members

variable {ρ : Type} {shape : Record ρ} {built next : Filling ρ} {slot : Slot ρ} {name : List Char}
  {update : ρ → ρ} {value : ρ} {tokens left rest : List Token}

theorem reads_member (hslot : shape.slot? name = some slot) (hfresh : slot.name ∉ built.given)
    (hcontent : Reads (content slot.content) tokens update left) :
    Reads (member shape built) (.text (some name) :: .colon :: tokens)
      ⟨update built.value, slot.name :: built.given⟩ left := by
  obtain ⟨after, hread, rfl⟩ := hcontent
  refine ⟨after.cons.cons, ?_, rfl⟩
  simp only [member, hslot, if_neg hfresh, knownMember, hread]

theorem reads_members_last
    (hmember : Reads (member shape built) tokens next (.closeBrace :: rest)) :
    Reads (members shape built) tokens next.value rest := by
  obtain ⟨⟨left, hleft⟩, hread, rfl⟩ := hmember
  refine ⟨⟨rest, Nat.lt_of_succ_lt hleft⟩, ?_, rfl⟩
  rw [members, hread]

theorem reads_members_more (hmember : Reads (member shape built) tokens next (.comma :: rest))
    (hmembers : Reads (members shape next) rest value left) :
    Reads (members shape built) tokens value left := by
  obtain ⟨⟨after, hafter⟩, hread, rfl⟩ := hmember
  obtain ⟨last, hreadLast, rfl⟩ := hmembers
  refine ⟨Left.ofFewer (Nat.lt_of_succ_lt hafter) last, ?_, rfl⟩
  rw [members, hread]
  simp only [hreadLast]

theorem reads_record_empty (rest : List Token) :
    Reads (record shape) (.openBrace :: .closeBrace :: rest) shape.empty rest :=
  ⟨Left.tail.cons, rfl, rfl⟩

theorem members_closeBrace (rest : List Token) :
    members shape built (.closeBrace :: rest) = .error .malformed := by
  rw [members]
  rfl

theorem reads_record (hmembers : Reads (members shape ⟨shape.empty, []⟩) tokens value left) :
    Reads (record shape) (.openBrace :: tokens) value left := by
  obtain ⟨after, hread, rfl⟩ := hmembers
  refine ⟨after.cons, ?_, rfl⟩
  rw [record, hread]
  rintro rest rfl
  rw [members_closeBrace] at hread
  contradiction

end Members

/-- A slot that is given, with the text in which its value is written. -/
structure Entry (ρ : Type) where
  slot : Slot ρ
  text : List Char
  /-- What the value does to the record. -/
  update : ρ → ρ

namespace Entry

variable {ρ : Type} {shape : Record ρ}

/-- How the entry stands in an object. -/
def member (entry : Entry ρ) : String × List Char := (entry.slot.name, entry.text)

/-- What an entry makes of a record of which other slots have been given. -/
def fill (built : Filling ρ) (entry : Entry ρ) : Filling ρ :=
  ⟨entry.update built.value, entry.slot.name :: built.given⟩

/-- The slot is found under its name, and it takes the text. -/
structure Readable (shape : Record ρ) (entry : Entry ρ) : Prop where
  plain_name : ∀ c ∈ entry.slot.name.toList, IsPlain c
  slot?_name : shape.slot? entry.slot.name.toList = some entry.slot
  reads_text : ∃ token, Spells entry.text token ∧
    ∀ left, Reads (content entry.slot.content) (token :: left) entry.update left

theorem Readable.reads_member {entry : Entry ρ} (hreadable : entry.Readable shape)
    {built : Filling ρ} (hfresh : entry.slot.name ∉ built.given) (after : List Char)
    (hends : EndsNumber after) :
    Reads (Json.member shape built)
      (tokens (plainText entry.slot.name.toList ++ ':' :: (entry.text ++ after)))
      (entry.fill built) (tokens after) := by
  obtain ⟨token, hspells, hreads⟩ := hreadable.reads_text
  rw [spells_plainText hreadable.plain_name _ (by simp [EndsNumber]), tokens_colon,
    hspells after hends]
  exact Json.reads_member hreadable.slot?_name hfresh (hreads _)

theorem value_foldl_fill (entries : List (Entry ρ)) (built : Filling ρ) :
    (entries.foldl fill built).value =
      entries.foldl (fun value entry => entry.update value) built.value :=
  (List.foldl_hom Filling.value fun _ _ => rfl).symm

theorem memberTexts_last (entry : Entry ρ) (after : List Char) :
    memberTexts [entry.member] ++ after =
      plainText entry.slot.name.toList ++ ':' :: (entry.text ++ after) := by
  simp [memberTexts, member]

theorem memberTexts_more (entry second : Entry ρ) (entries : List (Entry ρ)) (after : List Char) :
    memberTexts ((entry :: second :: entries).map member) ++ after =
      plainText entry.slot.name.toList ++
        ':' :: (entry.text ++ ',' :: (memberTexts ((second :: entries).map member) ++ after)) := by
  simp [memberTexts, member]

theorem reads_members {entry : Entry ρ} {entries : List (Entry ρ)}
    (hreadable : ∀ given ∈ entry :: entries, Readable shape given)
    (hdistinct : (entry :: entries).Pairwise fun given later =>
      given.slot.name ≠ later.slot.name)
    {built : Filling ρ} (hfresh : ∀ given ∈ entry :: entries, given.slot.name ∉ built.given)
    (after : List Char) :
    Reads (members shape built)
      (tokens (memberTexts ((entry :: entries).map member) ++ '\x7d' :: after))
      ((entry :: entries).foldl fill built).value (tokens after) := by
  -- Behind an entry stands a brace or a comma, at either of which a number ends.
  induction entries generalizing entry built with
  | nil =>
      have hmember := (hreadable entry List.mem_cons_self).reads_member
        (hfresh entry List.mem_cons_self) ('\x7d' :: after) (by simp [EndsNumber])
      rw [tokens_closeBrace] at hmember
      rw [List.map_singleton, memberTexts_last]
      exact reads_members_last hmember
  | cons second entries ih =>
      obtain ⟨hfirst, hothers⟩ := List.pairwise_cons.mp hdistinct
      have hfreshOthers : ∀ given ∈ second :: entries,
          given.slot.name ∉ (entry.fill built).given := by
        intro given hgiven
        rw [fill, List.mem_cons, not_or]
        exact ⟨(hfirst given hgiven).symm, hfresh given (List.mem_cons_of_mem _ hgiven)⟩
      have hmember := (hreadable entry List.mem_cons_self).reads_member
        (hfresh entry List.mem_cons_self)
        (',' :: (memberTexts ((second :: entries).map member) ++ '\x7d' :: after))
        (by simp [EndsNumber])
      rw [tokens_comma] at hmember
      rw [memberTexts_more]
      exact reads_members_more hmember
        (ih (fun given hgiven => hreadable given (List.mem_cons_of_mem _ hgiven)) hothers
          hfreshOthers)

/-- An object with entries for different slots is read as the record that they fill. -/
theorem whole_objectText {entries : List (Entry ρ)}
    (hreadable : ∀ entry ∈ entries, Readable shape entry)
    (hdistinct : entries.Pairwise fun entry later => entry.slot.name ≠ later.slot.name) :
    whole (record shape) (String.ofList (objectText (entries.map member))) =
      .ok (entries.foldl (fun value entry => entry.update value) shape.empty) := by
  rw [← value_foldl_fill entries ⟨shape.empty, []⟩, whole, String.toList_ofList, objectText,
    tokens_openBrace]
  apply onlyValue_of_reads
  cases entries with
  | nil =>
      rw [List.map_nil, memberTexts, List.nil_append, tokens_closeBrace, tokens_nil]
      exact reads_record_empty []
  | cons entry entries =>
      rw [← tokens_nil]
      exact reads_record (reads_members hreadable hdistinct (fun _ _ => List.not_mem_nil) [])

end Entry

end ForkSchedule.Json
