import ForkSchedule.Chain
import ForkSchedule.Proofs.Compatibility

/-!
# Updates that were accepted one by one

A node compares a new schedule with the one before it and never with those before that. Nothing
gets lost that way: compatibility at a head is transitive, and what is compatible at a head is so at
every earlier one. So the first schedule of a history of accepted updates is compatible with the
last one at the head where the history began.
-/

namespace ForkSchedule

variable {first second third : Schedule} {axis : Axis} {head : Nat}

theorem find_self (schedule : Schedule) (axis : Axis) (head : Nat) :
    (pass schedule schedule axis).find head = none := by
  rw [find_eq_none_iff]
  intro check _
  cases check with
  | moved fork =>
      by_cases hne : fork = .petersburg
      · subst hne
        exact Or.inl (AgreeUpTo.refl _ head)
      · rw [Check.holds_moved_of_ne hne]
        exact AgreeUpTo.refl _ head
  | daoSupport => exact fun _ => rfl
  | chainId => exact fun _ => rfl

/-- No single check is transitive by itself. The flags are compared only where the stored fork is
active, so that the fork must not have moved; Petersburg may have been put onto Constantinople, so
that this must not have moved either. -/
theorem find_eq_none_trans (hfirst : (pass first second axis).find head = none)
    (hsecond : (pass second third axis).find head = none) :
    (pass first third axis).find head = none := by
  rw [find_eq_none_iff] at hfirst hsecond ⊢
  have hagree : ∀ fork, fork.axis = axis → fork ≠ .petersburg →
      AgreeUpTo (first.point fork) (second.point fork) head := by
    intro fork haxis hne
    rw [← Check.holds_moved_of_ne hne]
    exact hfirst (.moved fork) (Check.mem_onAxis.mpr haxis)
  intro check hcheck
  have haxis := Check.mem_onAxis.mp hcheck
  have hbefore := hfirst check hcheck
  have hafter := hsecond check hcheck
  cases check with
  | moved fork =>
      by_cases hne : fork = .petersburg
      · subst hne
        have hconstantinople : AgreeUpTo first.constantinople second.constantinople head :=
          hagree .constantinople haxis (by decide)
        rcases hafter with hown | honto
        · exact hbefore.imp (fun hagree => hagree.trans hown) (fun hagree => hagree.trans hown)
        · exact Or.inr (hconstantinople.trans honto)
      · rw [Check.holds_moved_of_ne hne] at hbefore hafter ⊢
        exact hbefore.trans hafter
  | daoSupport =>
      intro hreached
      have hmoved := hagree .dao haxis (by decide) head (Nat.le_refl head)
      exact (hbefore hreached).trans (hafter (hmoved.symm.trans hreached))
  | chainId =>
      intro hreached
      have hmoved := hagree .eip158 haxis (by decide) head (Nat.le_refl head)
      exact (hbefore hreached).trans (hafter (hmoved.symm.trans hreached))

/-- A head is at most another one if it lies no further on either axis. -/
instance : LE Head where
  le earlier later := earlier.height ≤ later.height ∧ earlier.timestamp ≤ later.timestamp

/-- The place of a head on an axis. -/
def Head.place (head : Head) (axis : Axis) : Nat := axis.place head.height head.timestamp

theorem Head.place_mono {earlier later : Head} (hle : earlier ≤ later) (axis : Axis) :
    earlier.place axis ≤ later.place axis :=
  axis.place_mono hle.1 hle.2

theorem Head.le_trans {early middle late : Head} (hfirst : early ≤ middle)
    (hsecond : middle ≤ late) : early ≤ late :=
  ⟨Nat.le_trans hfirst.1 hsecond.1, Nat.le_trans hfirst.2 hsecond.2⟩

namespace Schedule

/-- No conflict is found between two schedules at a head, on neither axis. -/
def Compatible (stored new : Schedule) (head : Head) : Prop :=
  (checkAxes stored new head.height (some head.timestamp)).isEmpty = true

theorem compatible_iff {stored new : Schedule} {head : Head} :
    stored.Compatible new head ↔ ∀ axis, (pass stored new axis).find (head.place axis) = none := by
  simp only [Compatible, AxisConflicts.isEmpty, Bool.and_eq_true, Option.isNone_iff_eq_none,
    checkAxes, Option.bind_some, lowestConflict_eq_none_iff, Axis.forall_iff]
  rfl

namespace Compatible

variable {first second third : Schedule} {head : Head}

theorem refl (schedule : Schedule) (head : Head) : schedule.Compatible schedule head :=
  compatible_iff.mpr fun axis => find_self schedule axis _

theorem trans (hfirst : first.Compatible second head) (hsecond : second.Compatible third head) :
    first.Compatible third head := by
  rw [compatible_iff] at hfirst hsecond ⊢
  exact fun axis => find_eq_none_trans (hfirst axis) (hsecond axis)

theorem mono {earlier : Head} (hle : earlier ≤ head) (hcompatible : first.Compatible second head) :
    first.Compatible second earlier := by
  rw [compatible_iff] at hcompatible ⊢
  exact fun axis => find_eq_none_mono (Head.place_mono hle axis) (hcompatible axis)

end Compatible

/-- Compatibility at a head is a preorder that is inherited by earlier heads. Therefore updates
compose: a history of updates, each compatible with the schedule before it at the head of its time,
ends with a schedule that is compatible with the first one at the first head. -/
theorem accepted_updates_compose :
    (∀ (schedules : Nat → Schedule) (heads : Nat → Head) (count : Nat),
      (∀ update, update + 1 < count → heads update ≤ heads (update + 1)) →
      (∀ update < count, (schedules update).Compatible (schedules (update + 1)) (heads update)) →
        (schedules 0).Compatible (schedules count) (heads 0)) ∧
    (∀ schedule head, Compatible schedule schedule head) ∧
    (∀ first second third head, Compatible first second head → Compatible second third head →
      Compatible first third head) ∧
    ∀ first second earlier head, earlier ≤ head → Compatible first second head →
      Compatible first second earlier := by
  refine ⟨?_, Compatible.refl, fun _ _ _ _ => Compatible.trans, fun _ _ _ _ => Compatible.mono⟩
  intro schedules heads count hheads hupdates
  have hgrowing : ∀ update, update < count → heads 0 ≤ heads update := by
    intro update
    induction update with
    | zero => exact fun _ => ⟨Nat.le_refl _, Nat.le_refl _⟩
    | succ update ih =>
        intro hlt
        exact Head.le_trans (ih (Nat.lt_of_succ_lt hlt)) (hheads update hlt)
  -- All updates are looked at from the first head, where they can be chained.
  have hprefix : ∀ update, update ≤ count →
      (schedules 0).Compatible (schedules update) (heads 0) := by
    intro update
    induction update with
    | zero => exact fun _ => Compatible.refl _ _
    | succ update ih =>
        intro hle
        exact (ih (Nat.le_of_succ_le hle)).trans
          ((hupdates update hle).mono (hgrowing update hle))
  exact hprefix count (Nat.le_refl count)

/-- Petersburg is put onto Constantinople at block 7, and an upgrade that is still ahead is moved at
block 9. -/
theorem petersburg_then_upgrade_compatible :
    Compatible { constantinople := some 3, apricotPhase1 := some 150 }
      { constantinople := some 3, petersburg := some 3, apricotPhase1 := some 150 } ⟨7, 100⟩ ∧
    Compatible { constantinople := some 3, petersburg := some 3, apricotPhase1 := some 150 }
      { constantinople := some 3, petersburg := some 3, apricotPhase1 := some 160 } ⟨9, 140⟩ ∧
    Compatible { constantinople := some 3, apricotPhase1 := some 150 }
      { constantinople := some 3, petersburg := some 3, apricotPhase1 := some 160 } ⟨7, 100⟩ := by
  have hpetersburg : Compatible { constantinople := some 3, apricotPhase1 := some 150 }
      { constantinople := some 3, petersburg := some 3, apricotPhase1 := some 150 } ⟨7, 100⟩ :=
    compatible_iff.mpr fun axis => by cases axis <;> decide
  have hupgrade : Compatible
      { constantinople := some 3, petersburg := some 3, apricotPhase1 := some 150 }
      { constantinople := some 3, petersburg := some 3, apricotPhase1 := some 160 } ⟨9, 140⟩ :=
    compatible_iff.mpr fun axis => by cases axis <;> decide
  refine ⟨hpetersburg, hupgrade, accepted_updates_compose.1
    (fun update => match update with
      | 0 => { constantinople := some 3, apricotPhase1 := some 150 }
      | 1 => { constantinople := some 3, petersburg := some 3, apricotPhase1 := some 150 }
      | _ => { constantinople := some 3, petersburg := some 3, apricotPhase1 := some 160 })
    (fun update => if update = 0 then ⟨7, 100⟩ else ⟨9, 140⟩) 2 ?_ ?_⟩
  · intro update hlt
    obtain rfl : update = 0 := by omega
    exact ⟨by decide, by decide⟩
  · intro update hlt
    match update, hlt with
    | 0, _ => exact hpetersburg
    | 1, _ => exact hupgrade

end Schedule

end ForkSchedule
