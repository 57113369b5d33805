import ForkSchedule.Proofs.LowestConflict

/-!
# Where a rewind would end

For arbitrary schedules the search along an axis comes to an end after few passes, since each of
them leads back before another fork. It reports a conflict exactly if the first pass finds one, and
the target that it reports lies before the head and is stable: from there on down, nothing is found
any more.
-/

namespace ForkSchedule

/-- The forks along an axis. -/
def Fork.onAxis : Axis → List Fork
  | .height => byHeight
  | .timestamp => byTimestamp

theorem Fork.mem_onAxis {fork : Fork} {axis : Axis} : fork ∈ onAxis axis ↔ fork.axis = axis := by
  cases axis with
  | height => exact mem_byHeight
  | timestamp => exact mem_byTimestamp

/-- Where a search along an axis starts, if anywhere. -/
def Axis.start (axis : Axis) (height : Nat) (timestamp : Option Nat) : Option Nat :=
  match axis with
  | .height => some height
  | .timestamp => timestamp

/-- What is reported on an axis. -/
def AxisConflicts.on (conflicts : AxisConflicts) : Axis → Option Conflict
  | .height => conflicts.height
  | .timestamp => conflicts.timestamp

variable {stored new : Schedule} {axis : Axis} {height point : Nat} {timestamp : Option Nat}
  {conflict : Conflict}

theorem on_checkAxes :
    (checkAxes stored new height timestamp).on axis =
      (axis.start height timestamp).bind (lowestConflict (pass stored new axis)) := by
  cases axis <;> rfl

/-! ## The number of passes -/

/-- The forks along an axis to which a search at `point` can still lead back. -/
def forksAhead (stored new : Schedule) (axis : Axis) (point : Nat) : List Fork :=
  (Fork.onAxis axis).filter fun fork => (Check.moved fork).target stored new < point

/-- A flag leads back to where its fork does. -/
theorem exists_fork_of_find (hfound : (pass stored new axis).find point = some conflict) :
    ∃ fork ∈ Fork.onAxis axis, (Check.moved fork).target stored new = conflict.rewindTo := by
  obtain ⟨check, hfirst, rfl⟩ := Option.map_eq_some_iff.mp hfound
  have haxis := Check.axis_fork_of_mem_onAxis (List.mem_of_find?_eq_some hfirst)
  exact ⟨check.fork, Fork.mem_onAxis.mpr haxis, rfl⟩

theorem length_forksAhead_lt (hfound : (pass stored new axis).find point = some conflict) :
    (forksAhead stored new axis conflict.rewindTo).length < (Fork.onAxis axis).length := by
  obtain ⟨fork, hfork, htarget⟩ := exists_fork_of_find hfound
  exact List.length_filter_lt_length_iff_exists.mpr ⟨fork, hfork, by simp [htarget]⟩

theorem length_forksAhead_lt_of_lt (hfound : (pass stored new axis).find point = some conflict)
    (hlt : conflict.rewindTo < point) :
    (forksAhead stored new axis conflict.rewindTo).length <
      (forksAhead stored new axis point).length := by
  have hfewer : forksAhead stored new axis conflict.rewindTo =
      (forksAhead stored new axis point).filter
        fun fork => (Check.moved fork).target stored new < conflict.rewindTo := by
    rw [forksAhead, forksAhead, List.filter_filter]
    apply List.filter_congr
    intro fork _
    rw [← Bool.decide_and, decide_eq_decide]
    omega
  -- The fork that the pass leads back to drops out, since its target is not before itself.
  obtain ⟨fork, hfork, htarget⟩ := exists_fork_of_find hfound
  rw [hfewer]
  apply List.length_filter_lt_length_iff_exists.mpr
  exact ⟨fork, List.mem_filter.mpr ⟨hfork, by simp [htarget, hlt]⟩, by simp [htarget]⟩

theorem exists_endsAfter_forks (stored new : Schedule) (axis : Axis) (head : Nat) :
    ∃ passes ≤ (Fork.onAxis axis).length + 1,
      EndsAfter (pass stored new axis).find passes head none
        (lowestConflict (pass stored new axis) head) := by
  apply exists_endsAfter_lowestConflict fun point => (forksAhead stored new axis point).length
  · intro point conflict hfound hlt
    exact length_forksAhead_lt_of_lt hfound hlt
  · intro point conflict hfound
    exact length_forksAhead_lt hfound

/-! ## What is reported -/

theorem on_eq_none_iff :
    (checkAxes stored new height timestamp).on axis = none ↔
      (axis.start height timestamp).bind (pass stored new axis).find = none := by
  rw [on_checkAxes]
  cases axis.start height timestamp with
  | none => rfl
  | some start => exact lowestConflict_eq_none_iff

theorem AxisConflicts.isEmpty_iff {conflicts : AxisConflicts} :
    conflicts.isEmpty = true ↔ ∀ axis, conflicts.on axis = none := by
  rw [isEmpty, Bool.and_eq_true, Option.isNone_iff_eq_none, Option.isNone_iff_eq_none,
    Axis.forall_iff]
  rfl

theorem checkOnce_eq_none_iff :
    checkOnce stored new height timestamp = none ↔
      (checkAxes stored new height timestamp).isEmpty = true := by
  rw [AxisConflicts.isEmpty_iff, Axis.forall_iff, on_eq_none_iff, on_eq_none_iff, checkOnce,
    Option.or_eq_none_iff]
  rfl

theorem isEmpty_iff_checkAt :
    (checkAxes stored new height timestamp).isEmpty = true ↔
      checkAt stored new height timestamp = none := by
  rw [AxisConflicts.isEmpty_iff, Axis.forall_iff, checkAt, AxisConflicts.first,
    Option.or_eq_none_iff]
  rfl

theorem exists_on_of_find {start : Nat} (hstart : axis.start height timestamp = some start)
    (hfound : (pass stored new axis).find start = some conflict) :
    ∃ found, (checkAxes stored new height timestamp).on conflict.axis = some found ∧
      found.rewindTo ≤ conflict.rewindTo := by
  obtain rfl := (lowerPoint_of_find hfound).1
  cases hlowest : lowestConflict (pass stored new conflict.axis) start with
  | none =>
      rw [lowestConflict_eq_none_iff.mp hlowest] at hfound
      contradiction
  | some found =>
      refine ⟨found, ?_, rewindTo_le_of_find hfound hlowest⟩
      rw [on_checkAxes, hstart, Option.bind_some, hlowest]

theorem exists_on_of_checkOnce (honce : checkOnce stored new height timestamp = some conflict) :
    ∃ found, (checkAxes stored new height timestamp).on conflict.axis = some found ∧
      found.rewindTo ≤ conflict.rewindTo := by
  rcases Option.or_eq_some_iff.mp honce with hfound | ⟨-, hlater⟩
  · apply exists_on_of_find _ hfound
    rfl
  · obtain ⟨start, hstart, hfound⟩ := Option.bind_eq_some_iff.mp hlater
    apply exists_on_of_find _ hfound
    exact hstart

/-- Nothing is found from a target behind genesis on down. -/
theorem on_eq_none_of_le_target {head : Nat}
    (hlowest : lowestConflict (pass stored new axis) head = some conflict)
    (hpos : 1 ≤ conflict.rewindTo) (hstart : axis.start height timestamp = some point)
    (hle : point ≤ conflict.rewindTo) :
    (checkAxes stored new height timestamp).on axis = none := by
  rw [on_eq_none_iff, hstart, Option.bind_some]
  apply find_eq_none_mono hle
  rcases find_rewindTo_of_lowestConflict hlowest with hzero | hnone
  · omega
  · exact hnone

/-- The search along an axis takes at most one pass more than there are forks, and it reports a
conflict exactly if its first pass finds one; a single pass over both axes therefore finds nothing
exactly if nothing is reported, and it never leads further back than what is reported on the axis of
its conflict. A reported target lies before the start or at genesis, and behind genesis it is
stable: from there on down, nothing is reported on the axis. -/
theorem search_ends_at_stable_point (stored new : Schedule) (height : Nat)
    (timestamp : Option Nat) :
    (∀ axis start, Axis.start axis height timestamp = some start →
      ∃ passes ≤ (Fork.onAxis axis).length + 1,
        EndsAfter (pass stored new axis).find passes start none
          ((checkAxes stored new height timestamp).on axis)) ∧
    (∀ axis, (checkAxes stored new height timestamp).on axis = none ↔
      (Axis.start axis height timestamp).bind (pass stored new axis).find = none) ∧
    (checkOnce stored new height timestamp = none ↔
      (checkAxes stored new height timestamp).isEmpty = true) ∧
    ((checkAxes stored new height timestamp).isEmpty = true ↔
      checkAt stored new height timestamp = none) ∧
    (∀ conflict, checkOnce stored new height timestamp = some conflict →
      ∃ found, (checkAxes stored new height timestamp).on conflict.axis = some found ∧
        found.rewindTo ≤ conflict.rewindTo) ∧
    ∀ axis found, (checkAxes stored new height timestamp).on axis = some found →
      (∃ start, Axis.start axis height timestamp = some start ∧
        (found.rewindTo < start ∨ found.rewindTo = 0)) ∧
      (1 ≤ found.rewindTo → ∀ lower earlier point, Axis.start axis lower earlier = some point →
        point ≤ found.rewindTo → (checkAxes stored new lower earlier).on axis = none) := by
  refine ⟨?_, fun _ => on_eq_none_iff, checkOnce_eq_none_iff, isEmpty_iff_checkAt,
    fun _ => exists_on_of_checkOnce, ?_⟩
  · intro axis start hstart
    rw [on_checkAxes, hstart, Option.bind_some]
    exact exists_endsAfter_forks stored new axis start
  · intro axis found hfound
    rw [on_checkAxes] at hfound
    obtain ⟨start, hstart, hlowest⟩ := Option.bind_eq_some_iff.mp hfound
    refine ⟨⟨start, hstart, rewindTo_of_lowestConflict hlowest⟩, ?_⟩
    intro hpos lower earlier point hpoint hle
    exact on_eq_none_of_le_target hlowest hpos hpoint hle

/-- The stored Petersburg lies before Constantinople. The first pass names Homestead, and the second
one Petersburg, which leads back to block 4; from there on down nothing is found. -/
theorem search_ends_before_early_petersburg :
    ∃ stored new : Schedule,
      stored = { homestead := some 30, constantinople := some 20, petersburg := some 5 } ∧
      new = { homestead := some 31, constantinople := some 20, petersburg := some 30 } ∧
      (∃ passes ≤ 11, EndsAfter (pass stored new .height).find passes 40 none
        (some (.between "Petersburg fork block" .height (some 5) (some 30)))) ∧
      checkOnce stored new 40 (some 90) =
        some (.between "Homestead fork block" .height (some 30) (some 31)) ∧
      (∃ found, (checkAxes stored new 40 (some 90)).height = some found ∧ found.rewindTo ≤ 29) ∧
      (checkAxes stored new 4 none).height = none := by
  refine ⟨_, _, rfl, rfl, ?_⟩
  obtain ⟨hends, -, -, -, honce, hstable⟩ := search_ends_at_stable_point
    { homestead := some 30, constantinople := some 20, petersburg := some 5 }
    { homestead := some 31, constantinople := some 20, petersburg := some 30 } 40 (some 90)
  have hreported : (checkAxes
      { homestead := some 30, constantinople := some 20, petersburg := some 5 }
      { homestead := some 31, constantinople := some 20, petersburg := some 30 } 40
      (some 90)).on .height =
        some (.between "Petersburg fork block" .height (some 5) (some 30)) := by decide +kernel
  have hfirst : checkOnce { homestead := some 30, constantinople := some 20, petersburg := some 5 }
      { homestead := some 31, constantinople := some 20, petersburg := some 30 } 40 (some 90) =
        some (.between "Homestead fork block" .height (some 30) (some 31)) := by decide
  have hpasses := hends .height 40 rfl
  rw [hreported] at hpasses
  exact ⟨hpasses, hfirst, honce _ hfirst,
    (hstable .height _ hreported).2 (by decide) 4 none 4 rfl (by decide)⟩

end ForkSchedule
