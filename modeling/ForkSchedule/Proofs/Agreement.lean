import ForkSchedule.Schedule

/-!
# Agreement on the blocks up to a head

Two schedules that place a rule differently may still have treated every imported block alike.
Agreement compares answers rather than points: first of two activation points, then of two schedules
about a fork. A fork cannot be moved exactly where the points stop agreeing.
-/

namespace ForkSchedule

/-- No head up to `head` tells the two points apart. -/
def AgreeUpTo (first second : Option Nat) (head : Nat) : Prop :=
  ∀ point ≤ head, reached first (some point) = reached second (some point)

namespace AgreeUpTo

variable {first second third : Option Nat} {head lower : Nat}

theorem refl (point : Option Nat) (head : Nat) : AgreeUpTo point point head := fun _ _ => rfl

theorem symm (hagree : AgreeUpTo first second head) : AgreeUpTo second first head :=
  fun point hpoint => (hagree point hpoint).symm

theorem trans (hfirst : AgreeUpTo first second head) (hsecond : AgreeUpTo second third head) :
    AgreeUpTo first third head :=
  fun point hpoint => (hfirst point hpoint).trans (hsecond point hpoint)

theorem mono (hle : lower ≤ head) (hagree : AgreeUpTo first second head) :
    AgreeUpTo first second lower :=
  fun point hpoint => hagree point (Nat.le_trans hpoint hle)

/-- Two points that are both still ahead cannot be told apart. -/
theorem of_not_reached (hfirst : reached first (some head) = false)
    (hsecond : reached second (some head) = false) : AgreeUpTo first second head := by
  intro point hpoint
  have hnever {fork : Option Nat} (hfork : reached fork (some head) = false) :
      reached fork (some point) = false := by
    rw [Bool.eq_false_iff] at hfork ⊢
    exact fun hreached => hfork (reached_mono hpoint hreached)
  rw [hnever hfirst, hnever hsecond]

/-- Points that agree are the same as soon as one of them is reached. -/
theorem eq_of_reached (hagree : AgreeUpTo first second head)
    (hreached : reached first (some head) = true) : first = second := by
  obtain ⟨point, rfl, hpoint⟩ := reached_eq_true_iff.mp hreached
  have hsecond : reached second (some point) = true := by
    rw [← hagree point hpoint]
    simp
  obtain ⟨other, rfl, hother⟩ := reached_eq_true_iff.mp hsecond
  have hfirst := hagree other (Nat.le_trans hother hpoint)
  simp only [reached_some_some, Nat.le_refl, decide_true, decide_eq_true_eq] at hfirst
  rw [Nat.le_antisymm hfirst hother]

end AgreeUpTo

/-- A fork may be moved exactly between points that agree on all that is imported. -/
theorem incompatible_eq_false_iff {stored new : Option Nat} {head : Nat} :
    incompatible stored new (some head) = false ↔ AgreeUpTo stored new head := by
  constructor
  · intro hfits
    by_cases hsame : stored = new
    · subst hsame
      exact AgreeUpTo.refl stored head
    · have hahead : (reached stored (some head) || reached new (some head)) = false := by
        simpa [incompatible, hsame] using hfits
      obtain ⟨hstored, hnew⟩ := Bool.or_eq_false_iff.mp hahead
      exact AgreeUpTo.of_not_reached hstored hnew
  · intro hagree
    rw [Bool.eq_false_iff]
    intro hmoved
    -- A point that is reached determines the other one.
    obtain ⟨hreached, hne⟩ := Bool.and_eq_true_iff.mp hmoved
    apply bne_iff_ne.mp hne
    rcases Bool.or_eq_true_iff.mp hreached with hstored | hnew
    · exact hagree.eq_of_reached hstored
    · exact (hagree.symm.eq_of_reached hnew).symm

/-- The place of a block on an axis. -/
def Axis.place (axis : Axis) (height timestamp : Nat) : Nat :=
  match axis with
  | .height => height
  | .timestamp => timestamp

theorem Axis.place_of_mem_byHeight {fork : Fork} {height timestamp : Nat}
    (hfork : fork ∈ Fork.byHeight) : fork.axis.place height timestamp = height := by
  rw [Fork.mem_byHeight.mp hfork]
  rfl

theorem Axis.place_of_mem_byTimestamp {fork : Fork} {height timestamp : Nat}
    (hfork : fork ∈ Fork.byTimestamp) : fork.axis.place height timestamp = timestamp := by
  rw [Fork.mem_byTimestamp.mp hfork]
  rfl

theorem Axis.place_mono (axis : Axis) {height later timestamp after : Nat}
    (hheight : height ≤ later) (htimestamp : timestamp ≤ after) :
    axis.place height timestamp ≤ axis.place later after := by
  cases axis with
  | height => exact hheight
  | timestamp => exact htimestamp

namespace Schedule

/-- The point from which a fork is active. Petersburg without a point of its own has that of
Constantinople. -/
def rulePoint (schedule : Schedule) : Fork → Option Nat
  | .petersburg => schedule.petersburg.or schedule.constantinople
  | fork => schedule.point fork

theorem rulePoint_of_ne (schedule : Schedule) {fork : Fork} (hne : fork ≠ .petersburg) :
    schedule.rulePoint fork = schedule.point fork := by
  cases fork with
  | petersburg => exact absurd rfl hne
  | _ => rfl

theorem active_eq_reached (schedule : Schedule) (fork : Fork) (height timestamp : Nat) :
    schedule.active fork height timestamp =
      reached (schedule.rulePoint fork) (some (fork.axis.place height timestamp)) := by
  cases fork with
  | petersburg =>
      cases hpoint : schedule.petersburg with
      | none => simp [active, pointReached, point, rulePoint, Fork.axis, Axis.place, hpoint]
      | some own =>
          simp [active, pointReached, point, rulePoint, Fork.axis, Axis.place, hpoint]
  | _ => rfl

/-- Both schedules treat a fork alike in every block up to `head` on the axis of the fork. -/
def AgreeOn (stored new : Schedule) (fork : Fork) (head : Nat) : Prop :=
  ∀ height timestamp, fork.axis.place height timestamp ≤ head →
    stored.active fork height timestamp = new.active fork height timestamp

/-- Schedules agree on a fork exactly if the points from which it is active agree. -/
theorem agreeOn_iff {stored new : Schedule} {fork : Fork} {head : Nat} :
    stored.AgreeOn new fork head ↔
      AgreeUpTo (stored.rulePoint fork) (new.rulePoint fork) head := by
  constructor
  · intro hagree point hpoint
    have hplace : fork.axis.place point point = point := by cases fork.axis <;> rfl
    have hactive := hagree point point (by rwa [hplace])
    rwa [active_eq_reached, active_eq_reached, hplace] at hactive
  · intro hagree height timestamp hplace
    rw [active_eq_reached, active_eq_reached]
    exact hagree _ hplace

theorem agreeOn_iff_of_ne {stored new : Schedule} {fork : Fork} (hne : fork ≠ .petersburg)
    {head : Nat} :
    stored.AgreeOn new fork head ↔ AgreeUpTo (stored.point fork) (new.point fork) head := by
  rw [agreeOn_iff, rulePoint_of_ne stored hne, rulePoint_of_ne new hne]

end Schedule

end ForkSchedule
