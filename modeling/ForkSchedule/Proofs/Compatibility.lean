import ForkSchedule.Proofs.Agreement
import ForkSchedule.Proofs.Search

/-!
# What compatibility means

A check looks at one head and compares scheduled points. What it says about blocks is `Holds`, and a
pass finds nothing exactly if all checks of its axis hold. In total two schedules are compatible if
they treat every block up to the head alike, fork by fork, with the DAO side and the chain
identifier as far as they matter and with the exception that is made for Petersburg.
-/

namespace ForkSchedule

namespace Check

variable {stored new : Schedule} {head : Nat} {axis : Axis}

/-- What a check demands of the blocks up to a head. -/
def Holds (stored new : Schedule) (head : Nat) : Check → Prop
  | moved .petersburg =>
    AgreeUpTo stored.petersburg new.petersburg head ∨
      AgreeUpTo stored.constantinople new.petersburg head
  | moved fork => AgreeUpTo (stored.point fork) (new.point fork) head
  | daoSupport => reached stored.dao (some head) = true → stored.daoForkSupport = new.daoForkSupport
  | chainId => reached stored.eip158 (some head) = true → stored.chainId = new.chainId

theorem holds_moved_of_ne {fork : Fork} (hne : fork ≠ .petersburg) :
    (moved fork).Holds stored new head ↔ AgreeUpTo (stored.point fork) (new.point fork) head := by
  cases fork with
  | petersburg => exact absurd rfl hne
  | _ => rfl

theorem fails_eq_false_iff {check : Check} :
    check.fails stored new head = false ↔ check.Holds stored new head := by
  cases check with
  | moved fork =>
      cases fork with
      | petersburg =>
          simp only [fails, Holds, Bool.and_eq_false_iff, incompatible_eq_false_iff]
      | _ => exact incompatible_eq_false_iff
  | daoSupport => cases hreached : reached stored.dao (some head) <;> simp [fails, Holds, hreached]
  | chainId =>
      cases hreached : reached stored.eip158 (some head) <;> simp [fails, Holds, hreached]

theorem Holds.mono {check : Check} {lower : Nat} (hle : lower ≤ head)
    (hholds : check.Holds stored new head) : check.Holds stored new lower := by
  cases check with
  | moved fork =>
      by_cases hne : fork = .petersburg
      · subst hne
        exact Or.imp (AgreeUpTo.mono hle) (AgreeUpTo.mono hle) hholds
      · rw [holds_moved_of_ne hne] at hholds ⊢
        exact hholds.mono hle
  | daoSupport => exact fun hreached => hholds (reached_mono hle hreached)
  | chainId => exact fun hreached => hholds (reached_mono hle hreached)

/-- A check that fails keeps failing as the chain grows. -/
theorem fails_mono {check : Check} {later : Nat} (hle : head ≤ later)
    (hfails : check.fails stored new head = true) : check.fails stored new later = true := by
  rw [← Bool.not_eq_false]
  intro hlater
  rw [fails_eq_false_iff] at hlater
  rw [fails_eq_false_iff.mpr (hlater.mono hle)] at hfails
  contradiction

/-- Every check runs on the axis of the fork that it reports. -/
theorem mem_onAxis {check : Check} : check ∈ onAxis axis ↔ check.fork.axis = axis := by
  constructor
  · exact axis_fork_of_mem_onAxis
  · rintro rfl
    cases check with
    | moved fork => cases fork <;> decide
    | daoSupport => decide
    | chainId => decide

end Check

variable {stored new : Schedule} {axis : Axis} {head : Nat}

/-- A pass finds nothing exactly if no check of its axis fails. -/
theorem find_eq_none_iff_fails :
    (pass stored new axis).find head = none ↔
      ∀ check ∈ Check.onAxis axis, check.fails stored new head = false := by
  simp only [pass, Check.firstConflict, Option.map_eq_none_iff, List.find?_eq_none,
    Bool.not_eq_true]

theorem find_eq_none_iff :
    (pass stored new axis).find head = none ↔
      ∀ check ∈ Check.onAxis axis, check.Holds stored new head := by
  simp only [find_eq_none_iff_fails, Check.fails_eq_false_iff]

theorem find_eq_none_mono {lower : Nat} (hle : lower ≤ head)
    (hnone : (pass stored new axis).find head = none) :
    (pass stored new axis).find lower = none := by
  rw [find_eq_none_iff] at hnone ⊢
  exact fun check hcheck => (hnone check hcheck).mono hle

/-- A pass finds conflicts on its own axis, between points of which one at least is there. -/
theorem lowerPoint_of_find {conflict : Conflict}
    (hfound : (pass stored new axis).find head = some conflict) :
    conflict.axis = axis ∧ ∃ lower, lowerPoint conflict.stored conflict.new = some lower ∧
      conflict.rewindTo = lower - 1 := by
  obtain ⟨check, hfirst, rfl⟩ := Option.map_eq_some_iff.mp hfound
  have hfails : check.fails stored new head = true := List.find?_some hfirst
  obtain ⟨lower, hlower, -⟩ := reached_eq_true_iff.mp (Check.reached_of_fails hfails)
  exact ⟨Check.axis_fork_of_mem_onAxis (List.mem_of_find?_eq_some hfirst), lower, hlower,
    Conflict.rewindTo_between _ _ hlower⟩

/-- What a pass along the heights demands. -/
theorem find_height_eq_none_iff :
    (pass stored new .height).find head = none ↔
      (∀ fork ∈ Fork.byHeight, fork ≠ .petersburg → stored.AgreeOn new fork head) ∧
      Check.daoSupport.Holds stored new head ∧ Check.chainId.Holds stored new head ∧
      (Check.moved .petersburg).Holds stored new head := by
  rw [find_eq_none_iff]
  constructor
  · intro hholds
    refine ⟨?_, hholds _ (Check.mem_onAxis.mpr rfl), hholds _ (Check.mem_onAxis.mpr rfl),
      hholds _ (Check.mem_onAxis.mpr rfl)⟩
    intro fork hfork hne
    rw [Schedule.agreeOn_iff_of_ne hne, ← Check.holds_moved_of_ne hne]
    exact hholds (.moved fork) (Check.mem_onAxis.mpr (Fork.mem_byHeight.mp hfork))
  · rintro ⟨hforks, hdao, hchain, hpetersburg⟩ check hcheck
    cases check with
    | moved fork =>
        by_cases hne : fork = .petersburg
        · subst hne
          exact hpetersburg
        · rw [Check.holds_moved_of_ne hne, ← Schedule.agreeOn_iff_of_ne hne]
          exact hforks fork (Fork.mem_byHeight.mpr (Check.mem_onAxis.mp hcheck)) hne
    | daoSupport => exact hdao
    | chainId => exact hchain

/-- What a pass along the timestamps demands. -/
theorem find_timestamp_eq_none_iff :
    (pass stored new .timestamp).find head = none ↔
      ∀ fork ∈ Fork.byTimestamp, stored.AgreeOn new fork head := by
  have hupgrade {fork : Fork} (hfork : fork ∈ Fork.byTimestamp) :
      (Check.moved fork).Holds stored new head ↔ stored.AgreeOn new fork head := by
    have hne : fork ≠ .petersburg := by
      rintro rfl
      exact absurd hfork (by decide)
    rw [Check.holds_moved_of_ne hne, Schedule.agreeOn_iff_of_ne hne]
  rw [find_eq_none_iff, Check.onAxis, Check.byTimestamp, List.forall_mem_map]
  exact forall₂_congr fun _ hfork => hupgrade hfork

theorem checkHeights_eq_none_iff {height : Nat} :
    checkHeights stored new height = none ↔ (pass stored new .height).find height = none :=
  lowestConflict_eq_none_iff

/-- Two schedules are compatible at a head exactly if they treat the blocks up to it alike. On the
height axis this holds of every fork but Petersburg, of the side that is taken on the DAO fork and
of the chain identifier; the points of Petersburg agree, or the new one agrees with the stored
Constantinople. On the timestamp axis it holds of every upgrade. -/
theorem compatible_iff_agree (stored new : Schedule) (height timestamp : Nat) :
    (checkHeights stored new height = none ↔
      (∀ fork ∈ Fork.byHeight, fork ≠ .petersburg → stored.AgreeOn new fork height) ∧
      (stored.active .dao height timestamp = true →
        stored.daoForkSupport = new.daoForkSupport) ∧
      (stored.active .eip158 height timestamp = true → stored.chainId = new.chainId) ∧
      (AgreeUpTo stored.petersburg new.petersburg height ∨
        AgreeUpTo stored.constantinople new.petersburg height)) ∧
    ((checkAxes stored new height (some timestamp)).timestamp = none ↔
      ∀ fork ∈ Fork.byTimestamp, stored.AgreeOn new fork timestamp) :=
  ⟨checkHeights_eq_none_iff.trans find_height_eq_none_iff,
    lowestConflict_eq_none_iff.trans find_timestamp_eq_none_iff⟩

end ForkSchedule
