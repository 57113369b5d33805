import ForkSchedule.Proofs.MemberSum

/-!
# Members in any order

What an object says of a schedule hangs neither on the order of its members nor on members with
other names, nor on white space. Main statement: a text that is accepted as an object stays
accepted, with the same schedule, when its members are rearranged, members with unknown names come
or go, members without data go, and the tokens are written with other white space between them.
-/

namespace ForkSchedule.Json

open Document

/-- Whether a member is about no field: its key is made of characters, but they are no name of a
field. -/
def Member.IsUnknown (given : Member) : Prop :=
  ∃ name, given.name = some name ∧ ∀ field : Field, name ≠ field.name.toList

/-- Whether a member says that an optional field has no data. -/
def Member.IsNull (given : Member) : Prop :=
  ∃ field : Field, given.name = some field.name.toList ∧ field.kind ≠ .flag ∧
    given.value = [.null]

/-- Members in another order, with or without unknown ones, and without some that hold no data. -/
inductive Rearranged : List Member → List Member → Prop
  | permuted {members others : List Member} (hperm : members.Perm others) :
      Rearranged members others
  | inserted {given : Member} (hunknown : given.IsUnknown) (before after : List Member) :
      Rearranged (before ++ after) (before ++ given :: after)
  | deleted {given : Member} (hunknown : given.IsUnknown) (before after : List Member) :
      Rearranged (before ++ given :: after) (before ++ after)
  | deletedNull {given : Member} (hnull : given.IsNull) (before after : List Member) :
      Rearranged (before ++ given :: after) (before ++ after)
  | trans {members others last : List Member} (hfirst : Rearranged members others)
      (hsecond : Rearranged others last) : Rearranged members last

theorem Member.IsUnknown.field?_eq_none {given : Member} (hunknown : given.IsUnknown) :
    given.field? = none := by
  obtain ⟨name, hname, hne⟩ := hunknown
  rw [Member.field?, hname]
  exact Field.ofName?_eq_none_iff.mpr hne

theorem Member.IsUnknown.name_ne_none {given : Member} (hunknown : given.IsUnknown) :
    given.name ≠ none := by
  obtain ⟨name, hname, -⟩ := hunknown
  simp [hname]

/-- Taking no data gives a field what it has without a member. -/
theorem take_null {kind : Field.Kind} (hkind : kind ≠ .flag) :
    kind.take .null = .ok kind.blank := by
  cases kind with
  | number | hash => rfl
  | flag => contradiction

theorem describes_null {given : Member} {others : List Member} {schedule : Schedule}
    (hnull : given.IsNull) (hdescribes : Describes ⟨{}, []⟩ (given :: others) schedule) :
    Describes ⟨{}, []⟩ others schedule := by
  obtain ⟨field, hname, hkind, hvalue⟩ := hnull
  have hfield : given.field? = some field := Member.field?_eq_some_iff.mpr hname
  have hmap : (given :: others).filterMap Member.field? =
      field :: others.filterMap Member.field? :=
    List.filterMap_cons_some hfield
  obtain ⟨hnamed, hnodup, -, htaken, hkept⟩ := hdescribes
  rw [hmap] at hnodup hkept
  refine ⟨?_, (List.nodup_cons.mp hnodup).2, by simp, ?_, ?_⟩
  · exact fun other hother => hnamed other (List.mem_cons_of_mem _ hother)
  · exact fun other hother => htaken other (List.mem_cons_of_mem _ hother)
  · intro other hother
    by_cases hsame : other = field
    · subst hsame
      obtain ⟨found, hfound, htake⟩ := htaken given List.mem_cons_self other hfield
      rw [Member.found?, hvalue] at hfound
      cases hfound
      rw [take_null hkind] at htake
      exact (Except.ok.inj htake).symm.trans (Schedule.get_empty other).symm
    · exact hkept other (by simp [hsame, hother])

/-- Rearranged members describe the same schedule. -/
theorem Rearranged.describes {members others : List Member} {schedule : Schedule}
    (hrearranged : Rearranged members others)
    (hdescribes : Describes ⟨{}, []⟩ members schedule) :
    Describes ⟨{}, []⟩ others schedule := by
  induction hrearranged with
  | permuted hperm => exact hdescribes.perm hperm
  | inserted hunknown before after =>
      rw [describes_middle_iff, describes_cons_unknown hunknown.field?_eq_none]
      exact ⟨hunknown.name_ne_none, hdescribes⟩
  | deleted hunknown before after =>
      rw [describes_middle_iff, describes_cons_unknown hunknown.field?_eq_none] at hdescribes
      exact hdescribes.2
  | deletedNull hnull before after =>
      exact describes_null hnull (describes_middle_iff.mp hdescribes)
  | trans _ _ ihFirst ihSecond => exact ihSecond (ihFirst hdescribes)

/-- A text that is accepted as an object is made of members, and every text that is made of the
same members rearranged is accepted as the same schedule, whatever white space is in it. -/
theorem rearranged_object_same_schedule {text : String} {schedule : Schedule}
    (hread : Schedule.ofJson text = .ok schedule)
    (hbrace : (text.toList.dropWhile isSpace).head? = some '{') :
    (∃ members, IsObject members text) ∧
      ∀ members others other, IsObject members text → Rearranged members others →
        IsObject others other → Schedule.ofJson other = .ok schedule := by
  refine ⟨exists_isObject hread hbrace, ?_⟩
  intro members others other hobject hrearranged hother
  rw [ofJson_eq_ok_iff hobject] at hread
  rw [ofJson_eq_ok_iff hother]
  exact hrearranged.describes hread

/-- Three members, one of them without data, in another order and beside one that no field asks for.
That one holds a number beyond all bounds and half of a surrogate pair. -/
theorem unknown_inserted_same_schedule :
    Schedule.ofJson
      "\x7b\x22homesteadBlock\x22:0,\x22istanbulBlock\x22:null,\x22chainId\x22:14\x7d" =
      .ok { chainId := some 14, homestead := some 0 } ∧
    Schedule.ofJson
      ("\n\x7b \x22chainId\x22:14, \x22a\x22:[1e400,\x7b\x22\\ud800\x22:-0\x7d]" ++
        ",\t\x22homesteadBlock\x22:0\x7d ") =
      .ok { chainId := some 14, homestead := some 0 } := by
  have hnumber : IsValue [.number .decimal] := .scalar trivial
  have hvalue : IsValue [.openBracket, .number .decimal, .comma, .openBrace, .text none, .colon,
      .number .decimal, .closeBrace, .closeBracket] :=
    .array hnumber (.nextItem (.object none hnumber .endObject) .endArray)
  have hunknown : Member.IsUnknown ⟨some "a".toList, _, hvalue⟩ :=
    ⟨_, rfl, Field.ofName?_eq_none_iff.mp (by decide)⟩
  have hobject : IsObject [⟨some "homesteadBlock".toList, [.number (.integer 0)], .scalar trivial⟩,
      ⟨some "istanbulBlock".toList, [.null], .scalar trivial⟩,
      ⟨some "chainId".toList, [.number (.integer 14)], .scalar trivial⟩]
      "\x7b\x22homesteadBlock\x22:0,\x22istanbulBlock\x22:null,\x22chainId\x22:14\x7d" :=
    isObject_of_tokens (by decide +kernel)
  have htokens : tokens (
      "\n\x7b \x22chainId\x22:14, \x22a\x22:[1e400,\x7b\x22\\ud800\x22:-0\x7d]" ++
      ",\t\x22homesteadBlock\x22:0\x7d ").toList =
      [.openBrace, .text "chainId".toList, .colon, .number (.integer 14), .comma,
        .text "a".toList, .colon, .openBracket, .number .decimal, .comma, .openBrace, .text none,
        .colon, .number .decimal, .closeBrace, .closeBracket, .comma,
        .text "homesteadBlock".toList, .colon, .number (.integer 0), .closeBrace] := by
    decide +kernel
  have hread : Schedule.ofJson
      "\x7b\x22homesteadBlock\x22:0,\x22istanbulBlock\x22:null,\x22chainId\x22:14\x7d" =
      .ok { chainId := some 14, homestead := some 0 } := by
    rw [ofJson_of_isObject hobject]
    rfl
  exact ⟨hread, (rearranged_object_same_schedule hread (by decide)).2 _ _ _ hobject
    ((Rearranged.deletedNull ⟨.point .istanbul, rfl, nofun, rfl⟩ [_] [_]).trans
      ((Rearranged.permuted (.swap _ _ [])).trans (.inserted hunknown [_] [_])))
    (isObject_of_tokens htokens)⟩

end ForkSchedule.Json
