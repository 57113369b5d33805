import ForkSchedule.Proofs.Compatibility
import ForkSchedule.Proofs.ForkOrder

/-!
# The exception for Petersburg

Petersburg is active from its own point on, or from Constantinople on if it has none; the check for
it compares the own points and lets the new one stand where the stored Constantinople stands. The
two views of the fork are not the same. `petersburgKept` says when a pass that finds nothing also
leaves the rules of Petersburg as they were; between schedules that are in order it always does.
-/

namespace ForkSchedule

/-- Whether the rules of Petersburg stay as they are up to a head, for schedules that are otherwise
compatible there. A point of its own that appears has to fit the stored Constantinople, one that
moves has to fit the stored one, and one that disappears must not have been reached, nor may
Constantinople. -/
def petersburgKept (stored new : Schedule) (head : Nat) : Bool :=
  match stored.petersburg, new.petersburg with
  | none, none => true
  | none, some point => !incompatible stored.constantinople (some point) (some head)
  | some point, some moved => !incompatible (some point) (some moved) (some head)
  | some point, none =>
    !(reached (some point) (some head) || reached stored.constantinople (some head))

variable {stored new : Schedule} {head : Nat}

theorem agreeOn_petersburg_iff (hnone : (pass stored new .height).find head = none) :
    stored.AgreeOn new .petersburg head ↔ petersburgKept stored new head = true := by
  obtain ⟨hforks, -, -, hpetersburg⟩ := find_height_eq_none_iff.mp hnone
  have hconstantinople : AgreeUpTo stored.constantinople new.constantinople head :=
    (Schedule.agreeOn_iff_of_ne (by decide)).mp (hforks .constantinople (by decide) (by decide))
  rw [Schedule.agreeOn_iff]
  simp only [Schedule.rulePoint, Check.Holds] at hpetersburg ⊢
  unfold petersburgKept
  cases hstored : stored.petersburg with
  | none =>
      cases hnew : new.petersburg with
      | none => simpa using hconstantinople
      | some point => simp [← incompatible_eq_false_iff]
  | some point =>
      cases hnew : new.petersburg with
      | some moved => simp [← incompatible_eq_false_iff]
      | none =>
          rw [hstored, hnew] at hpetersburg
          simp only [Option.some_or, Option.none_or, Bool.not_eq_true', Bool.or_eq_false_iff]
          constructor
          · intro hagree
            -- Of the own point and Constantinople one is still ahead, so neither is reached.
            have hpoints := (hagree.trans hconstantinople.symm) head (Nat.le_refl head)
            rcases hpetersburg with hown | hother
            · have hahead := hown head (Nat.le_refl head)
              rw [reached_none_left] at hahead
              exact ⟨hahead, hpoints.symm.trans hahead⟩
            · have hahead := hother head (Nat.le_refl head)
              rw [reached_none_left] at hahead
              exact ⟨hpoints.trans hahead, hahead⟩
          · rintro ⟨hown, hother⟩
            exact (AgreeUpTo.of_not_reached hown hother).trans hconstantinople

/-- Between schedules that are in order the exception is harmless: all forks by height sit at
genesis or nowhere, and Petersburg only where Constantinople does. -/
theorem agreeOn_petersburg_of_order (hstored : stored.checkOrder = .ok ())
    (hnew : new.checkOrder = .ok ()) (hnone : (pass stored new .height).find head = none) :
    stored.AgreeOn new .petersburg head := by
  obtain ⟨-, -, -, hpetersburg⟩ := find_height_eq_none_iff.mp hnone
  rw [agreeOn_petersburg_iff hnone]
  unfold petersburgKept
  cases hown : stored.petersburg with
  | none =>
      cases hmoved : new.petersburg with
      | none => rfl
      | some point =>
          simp only [Check.Holds, hown, hmoved] at hpetersburg
          obtain rfl := Schedule.point_eq_genesis hnew .petersburg rfl hmoved
          rcases hpetersburg with hagree | hagree
          · have hsame := hagree.symm.eq_of_reached (by simp [genesisHeight])
            contradiction
          · simpa using incompatible_eq_false_iff.mpr hagree
  | some point =>
      obtain rfl := Schedule.point_eq_genesis hstored .petersburg rfl hown
      cases hmoved : new.petersburg with
      | some moved =>
          obtain rfl := Schedule.point_eq_genesis hnew .petersburg rfl hmoved
          simp
      | none =>
          simp only [Check.Holds, hown, hmoved] at hpetersburg
          have hconstantinople : reached stored.constantinople (some genesisHeight) = true :=
            Schedule.forkPoint_precedes hstored .constantinople .petersburg (by decide) rfl
              genesisHeight
              (by simp [ForkPoint.activeAt, Schedule.forkPoint, Schedule.point, hown])
          rcases hpetersburg with hagree | hagree
          · have hsame := hagree.eq_of_reached (by simp [genesisHeight])
            contradiction
          · have hnever := hagree genesisHeight (Nat.zero_le head)
            rw [hconstantinople] at hnever
            contradiction

/-- Between schedules that are compatible at a head, blocks up to it keep their Petersburg rules
exactly under the condition of `petersburgKept`. -/
theorem petersburg_agrees_iff_kept (stored new : Schedule) (height : Nat)
    (hcompatible : checkHeights stored new height = none) :
    stored.AgreeOn new .petersburg height ↔ petersburgKept stored new height = true :=
  agreeOn_petersburg_iff (checkHeights_eq_none_iff.mp hcompatible)

/-- Petersburg may get a point of its own where the stored Constantinople stands. -/
theorem petersburg_onto_constantinople :
    checkHeights { constantinople := some 3 } { constantinople := some 3, petersburg := some 3 } 7 =
      none ∧
    (Schedule.AgreeOn { constantinople := some 3 }
      { constantinople := some 3, petersburg := some 3 } .petersburg 7 ↔
        petersburgKept { constantinople := some 3 }
          { constantinople := some 3, petersburg := some 3 } 7 = true) := by
  have hcompatible : checkHeights { constantinople := some 3 }
      { constantinople := some 3, petersburg := some 3 } 7 = none :=
    checkHeights_eq_none_iff.mpr (by decide)
  exact ⟨hcompatible, petersburg_agrees_iff_kept _ _ 7 hcompatible⟩

/-- Petersburg is active at genesis together with Constantinople, and moving it to the next block is
accepted, since its own points are both still ahead. -/
theorem petersburg_moved_off_constantinople :
    ¬ ∀ (stored new : Schedule) (height : Nat), checkHeights stored new height = none →
      stored.AgreeOn new .petersburg height := by
  intro hsound
  have hcompatible : checkHeights
      { homestead := some 0, eip150 := some 0, eip155 := some 0, eip158 := some 0,
        byzantium := some 0, constantinople := some 0 }
      { homestead := some 0, eip150 := some 0, eip155 := some 0, eip158 := some 0,
        byzantium := some 0, constantinople := some 0, petersburg := some 1 } 0 = none :=
    checkHeights_eq_none_iff.mpr (by decide)
  have hactive := hsound _ _ 0 hcompatible 0 0 (Nat.le_refl 0)
  exact absurd hactive (by decide)

end ForkSchedule
