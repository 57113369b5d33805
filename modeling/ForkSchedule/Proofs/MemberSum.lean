import ForkSchedule.Proofs.JsonObject

/-!
# Members that add up to a schedule

The members of an object say together what a schedule holds, each for the field that it names.
Filling them in one after the other gives the schedule that they add up to and fails if there is
none, so that nothing hangs on the way in which they are read.
-/

namespace ForkSchedule.Json

open Document

/-- The field that a member is about. -/
def Member.field? (given : Member) : Option Field := given.name.bind Field.ofName?

theorem Member.field?_eq_some_iff {given : Member} {field : Field} :
    given.field? = some field ↔ given.name = some field.name.toList := by
  simp only [Member.field?, Option.bind_eq_some_iff, Field.ofName?_eq_some_iff, exists_eq_right]

/-- Members add up to a schedule, from one of which some fields have been given: every key is made
of characters, no field is given again, and each field has what its member says or, without one,
what it had. -/
structure Describes (built : Filling Schedule) (members : List Member) (schedule : Schedule) :
    Prop where
  named : ∀ given ∈ members, given.name ≠ none
  nodup : (members.filterMap Member.field?).Nodup
  fresh : ∀ field ∈ members.filterMap Member.field?, field.name ∉ built.given
  taken : ∀ given ∈ members, ∀ field, given.field? = some field →
    ∃ found, given.found? = some found ∧ field.kind.take found = .ok (schedule.get field)
  kept : ∀ field, field ∉ members.filterMap Member.field? →
    schedule.get field = built.value.get field

/-- All that filling in one member can do. -/
theorem fill_eq_ok_iff {built next : Filling Schedule} {given : Member} :
    given.fill built = .ok next ↔
      given.name ≠ none ∧
        (given.field? = none ∧ next = built ∨
          ∃ field found data, given.field? = some field ∧ field.name ∉ built.given ∧
            given.found? = some found ∧ field.kind.take found = .ok data ∧
            next = ⟨built.value.set field data, field.name :: built.given⟩) := by
  fun_cases Member.fill built given with
  | case1 hname => simp [hname]
  | case2 name hname hfield => simp [Member.field?, hname, hfield, eq_comm]
  | case3 name hname field hfield hgiven => simp [Member.field?, hname, hfield, hgiven]
  | case4 name hname field hfield hfresh hfound => simp [Member.field?, hname, hfield, hfound]
  | case5 name hname field hfield hfresh found hfound data htake =>
      simp [Member.field?, hname, hfield, hfresh, hfound, htake, eq_comm]
  | case6 name hname field hfield hfresh found hfound fault htake =>
      simp [Member.field?, hname, hfield, hfound, htake]

section Cons

variable {built : Filling Schedule} {given : Member} {others : List Member} {schedule : Schedule}

theorem describes_nil_iff : Describes built [] schedule ↔ schedule = built.value := by
  constructor
  · intro hdescribes
    exact Schedule.ext_get fun field => hdescribes.kept field List.not_mem_nil
  · rintro rfl
    exact ⟨by simp, by simp, by simp, by simp, fun _ _ => rfl⟩

theorem describes_cons_unknown (hfield : given.field? = none) :
    Describes built (given :: others) schedule ↔
      given.name ≠ none ∧ Describes built others schedule := by
  have hmap : (given :: others).filterMap Member.field? = others.filterMap Member.field? :=
    List.filterMap_cons_none hfield
  constructor
  · intro hdescribes
    refine ⟨hdescribes.named given List.mem_cons_self, ?_, ?_, ?_, ?_, ?_⟩
    · exact fun other hother => hdescribes.named other (List.mem_cons_of_mem _ hother)
    · exact hmap ▸ hdescribes.nodup
    · exact hmap ▸ hdescribes.fresh
    · exact fun other hother => hdescribes.taken other (List.mem_cons_of_mem _ hother)
    · exact hmap ▸ hdescribes.kept
  · rintro ⟨hname, hdescribes⟩
    refine ⟨?_, hmap ▸ hdescribes.nodup, hmap ▸ hdescribes.fresh, ?_, hmap ▸ hdescribes.kept⟩
    · exact List.forall_mem_cons.mpr ⟨hname, hdescribes.named⟩
    · refine List.forall_mem_cons.mpr ⟨fun field hsome => ?_, hdescribes.taken⟩
      rw [hfield] at hsome
      contradiction

theorem describes_cons_known {field : Field} (hfield : given.field? = some field) :
    Describes built (given :: others) schedule ↔
      field.name ∉ built.given ∧ ∃ found data, given.found? = some found ∧
        field.kind.take found = .ok data ∧
        Describes ⟨built.value.set field data, field.name :: built.given⟩ others schedule := by
  have hmap : (given :: others).filterMap Member.field? =
      field :: others.filterMap Member.field? :=
    List.filterMap_cons_some hfield
  have hname : given.name ≠ none := by
    rw [Member.field?_eq_some_iff.mp hfield]
    exact Option.some_ne_none _
  constructor
  · rintro ⟨hnamed, hnodup, hfresh, htaken, hkept⟩
    rw [hmap] at hnodup hfresh hkept
    obtain ⟨hnew, hnodup⟩ := List.nodup_cons.mp hnodup
    obtain ⟨found, hfound, htake⟩ := htaken given List.mem_cons_self field hfield
    refine ⟨hfresh field List.mem_cons_self, found, schedule.get field, hfound, htake, ?_, hnodup,
      ?_, ?_, ?_⟩
    · exact fun other hother => hnamed other (List.mem_cons_of_mem _ hother)
    · intro other hother
      rw [List.mem_cons, not_or]
      refine ⟨fun hsame => ?_, hfresh other (List.mem_cons_of_mem _ hother)⟩
      exact hnew (Field.name_injective hsame ▸ hother)
    · exact fun other hother => htaken other (List.mem_cons_of_mem _ hother)
    · intro other hother
      by_cases hsame : other = field
      · subst hsame
        exact (Schedule.get_set_self ..).symm
      · rw [Schedule.get_set_of_ne _ hsame]
        exact hkept other (by simp [hsame, hother])
  · rintro ⟨hgiven, found, data, hfound, htake, hnamed, hnodup, hfresh, htaken, hkept⟩
    have hnew : field ∉ others.filterMap Member.field? :=
      fun hmem => hfresh field hmem List.mem_cons_self
    have hdata : schedule.get field = data := (hkept field hnew).trans (Schedule.get_set_self ..)
    refine ⟨List.forall_mem_cons.mpr ⟨hname, hnamed⟩, ?_, ?_, ?_, ?_⟩
    · rw [hmap]
      exact List.nodup_cons.mpr ⟨hnew, hnodup⟩
    · rw [hmap]
      refine List.forall_mem_cons.mpr ⟨hgiven, fun other hother hmem => ?_⟩
      exact hfresh other hother (List.mem_cons_of_mem _ hmem)
    · refine List.forall_mem_cons.mpr ⟨fun other hother => ?_, htaken⟩
      obtain rfl := Option.some.inj (hfield.symm.trans hother)
      exact ⟨found, hfound, by rw [hdata]; exact htake⟩
    · intro other hother
      rw [hmap, List.mem_cons, not_or] at hother
      rw [hkept other hother.2, Schedule.get_set_of_ne _ hother.1]

/-- A list of members is described by what its first member fills in. -/
theorem describes_cons_iff :
    Describes built (given :: others) schedule ↔
      ∃ next, given.fill built = .ok next ∧ Describes next others schedule := by
  cases hfield : given.field? with
  | none =>
      rw [describes_cons_unknown hfield]
      simp [fill_eq_ok_iff, hfield, and_assoc]
  | some field =>
      rw [describes_cons_known hfield]
      constructor
      · rintro ⟨hgiven, found, data, hfound, htake, hdescribes⟩
        refine ⟨_, fill_eq_ok_iff.mpr ⟨?_, .inr ⟨field, found, data, hfield, hgiven, hfound, htake,
          rfl⟩⟩, hdescribes⟩
        rw [Member.field?_eq_some_iff.mp hfield]
        exact Option.some_ne_none _
      · rintro ⟨next, hfill, hdescribes⟩
        obtain ⟨-, ⟨hnone, -⟩ | ⟨other, found, data, hother, hgiven, hfound, htake, rfl⟩⟩ :=
          fill_eq_ok_iff.mp hfill
        · rw [hfield] at hnone
          contradiction
        · obtain rfl := Option.some.inj (hfield.symm.trans hother)
          exact ⟨hgiven, found, data, hfound, htake, hdescribes⟩

end Cons

/-- Filling in members gives the schedule that they add up to, and fails if there is none. -/
theorem map_fillAll_eq_ok_iff {built : Filling Schedule} {members : List Member}
    {schedule : Schedule} :
    (fillAll built members).map Filling.value = .ok schedule ↔
      Describes built members schedule := by
  induction members generalizing built with
  | nil => exact (Except.ok.injEq ..).to_iff.trans (eq_comm.trans describes_nil_iff.symm)
  | cons given others ih =>
      rw [fillAll_cons, describes_cons_iff]
      cases given.fill built with
      | error fault => simp [Except.map]
      | ok next => simp [ih]

/-- An object is accepted as the schedule that its members add up to. -/
theorem ofJson_eq_ok_iff {members : List Member} {text : String} {schedule : Schedule}
    (hobject : IsObject members text) :
    Schedule.ofJson text = .ok schedule ↔ Describes ⟨{}, []⟩ members schedule := by
  rw [ofJson_of_isObject hobject, map_fillAll_eq_ok_iff]

/-! ## The order of members -/

theorem Describes.perm {built : Filling Schedule} {members others : List Member}
    {schedule : Schedule} (hdescribes : Describes built members schedule)
    (hperm : members.Perm others) : Describes built others schedule := by
  have hfields := hperm.filterMap Member.field?
  refine ⟨?_, hfields.nodup hdescribes.nodup, ?_, ?_, ?_⟩
  · exact fun given hmem => hdescribes.named given (hperm.mem_iff.mpr hmem)
  · exact fun field hmem => hdescribes.fresh field (hfields.mem_iff.mpr hmem)
  · exact fun given hmem => hdescribes.taken given (hperm.mem_iff.mpr hmem)
  · exact fun field hmem => hdescribes.kept field fun h => hmem (hfields.mem_iff.mp h)

theorem describes_middle_iff {built : Filling Schedule} {given : Member}
    {before after : List Member} {schedule : Schedule} :
    Describes built (before ++ given :: after) schedule ↔
      Describes built (given :: (before ++ after)) schedule :=
  ⟨fun h => h.perm List.perm_middle, fun h => h.perm List.perm_middle.symm⟩

/-- A member more for a field that was not given adds its data to the schedule. -/
theorem Describes.cons {built : Filling Schedule} {given : Member} {others : List Member}
    {schedule : Schedule} {field : Field} {found : Found} {data : field.kind.Data}
    (hdescribes : Describes built others schedule) (hfield : given.field? = some field)
    (hgiven : field.name ∉ built.given) (hnew : field ∉ others.filterMap Member.field?)
    (hfound : given.found? = some found) (htake : field.kind.take found = .ok data) :
    Describes built (given :: others) (schedule.set field data) := by
  rw [describes_cons_known hfield]
  refine ⟨hgiven, found, data, hfound, htake, hdescribes.named, hdescribes.nodup, ?_, ?_, ?_⟩
  · intro other hother
    rw [List.mem_cons, not_or]
    refine ⟨fun hsame => hnew (Field.name_injective hsame ▸ hother), hdescribes.fresh other hother⟩
  · intro other hother named hnamed
    have hne : named ≠ field := by
      rintro rfl
      exact hnew (List.mem_filterMap.mpr ⟨other, hother, hnamed⟩)
    rw [Schedule.get_set_of_ne _ hne]
    exact hdescribes.taken other hother named hnamed
  · intro other hother
    by_cases hsame : other = field
    · subst hsame
      rw [Schedule.get_set_self, Schedule.get_set_self]
    · rw [Schedule.get_set_of_ne _ hsame, Schedule.get_set_of_ne _ hsame]
      exact hdescribes.kept other hother

/-! ## The first member that is refused -/

theorem fillAll_append {built next : Filling Schedule} {members : List Member}
    (hfill : fillAll built members = .ok next) (others : List Member) :
    fillAll built (members ++ others) = fillAll next others := by
  rw [fillAll, List.foldlM_append]
  rw [fillAll] at hfill
  rw [hfill]
  rfl

theorem exists_fillAll_of_append {built filled : Filling Schedule} {members others : List Member}
    (hfill : fillAll built (members ++ others) = .ok filled) :
    ∃ next, fillAll built members = .ok next := by
  cases hfront : fillAll built members with
  | ok next => exact ⟨next, rfl⟩
  | error fault =>
      rw [fillAll] at hfill hfront
      rw [List.foldlM_append, hfront] at hfill
      contradiction

/-- Only what members name is given after them and was not before. -/
theorem notMem_given_of_fillAll {built filled : Filling Schedule} {members : List Member}
    {field : Field} (hfill : fillAll built members = .ok filled)
    (hnew : field ∉ members.filterMap Member.field?) (hfresh : field.name ∉ built.given) :
    field.name ∉ filled.given := by
  induction members generalizing built with
  | nil =>
      cases hfill
      exact hfresh
  | cons given others ih =>
      rw [fillAll_cons] at hfill
      split at hfill
      next next hnext =>
        obtain ⟨-, ⟨hnone, rfl⟩ | ⟨other, found, data, hother, -, -, -, rfl⟩⟩ :=
          fill_eq_ok_iff.mp hnext
        · rw [List.filterMap_cons_none hnone] at hnew
          exact ih hfill hnew hfresh
        · rw [List.filterMap_cons_some hother, List.mem_cons, not_or] at hnew
          refine ih hfill hnew.2 ?_
          rw [List.mem_cons, not_or]
          exact ⟨Field.name_injective.ne hnew.1, hfresh⟩
      · contradiction

theorem fill_refused {built : Filling Schedule} {given : Member} {field : Field} {found : Found}
    {fault : Fault} (hfield : given.field? = some field) (hgiven : field.name ∉ built.given)
    (hfound : given.found? = some found) (htake : field.kind.take found = .error fault) :
    given.fill built = .error fault := by
  simp only [Member.fill, Member.field?_eq_some_iff.mp hfield, Field.ofName?_name, if_neg hgiven,
    hfound, htake]

/-- A member whose data do not belong in its field is the reason against an object, wherever it
stands in it, if the other members add up to a schedule. -/
theorem ofJson_refused {before after : List Member} {given : Member} {text : String}
    {schedule : Schedule} {field : Field} {found : Found} {fault : Fault}
    (hobject : IsObject (before ++ given :: after) text)
    (hothers : Describes ⟨{}, []⟩ (before ++ after) schedule)
    (hfield : given.field? = some field) (hnew : field ∉ (before ++ after).filterMap Member.field?)
    (hfound : given.found? = some found) (htake : field.kind.take found = .error fault) :
    Schedule.ofJson text = .error fault := by
  obtain ⟨filled, hfilled⟩ : ∃ filled, fillAll ⟨{}, []⟩ (before ++ after) = .ok filled := by
    have hread := map_fillAll_eq_ok_iff.mpr hothers
    cases hfill : fillAll ⟨{}, []⟩ (before ++ after) with
    | ok filled => exact ⟨filled, rfl⟩
    | error fault =>
        rw [hfill] at hread
        contradiction
  obtain ⟨next, hnext⟩ := exists_fillAll_of_append hfilled
  rw [List.filterMap_append, List.mem_append, not_or] at hnew
  have hfresh := notMem_given_of_fillAll hnext hnew.1 List.not_mem_nil
  rw [ofJson_of_isObject hobject, fillAll_append hnext, fillAll_cons,
    fill_refused hfield hfresh hfound htake]
  rfl

end ForkSchedule.Json
