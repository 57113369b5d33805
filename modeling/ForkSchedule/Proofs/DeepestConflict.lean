import ForkSchedule.Proofs.Compatibility
import ForkSchedule.Proofs.StoredChain
import ForkSchedule.Service

/-!
# The conflict that decides a rewind

Of the conflicts on the two axes the service follows the one that leads to the lower height. That
height lies on the chain, and at the blocks that it leaves untouched the passes find nothing.
-/

namespace ForkSchedule

namespace AxisConflicts

variable {conflicts : AxisConflicts} {heightAt : Nat → Nat}

/-- The conflict that needs the deeper rewind, by a look-up of timestamps that always answers. -/
def resolve (heightAt : Nat → Nat) (conflicts : AxisConflicts) : Option (Conflict × Nat) :=
  deeper (conflicts.height.map fun conflict => (conflict, conflict.rewindTo))
    (conflicts.timestamp.map fun conflict => (conflict, heightAt conflict.rewindTo))

@[simp] theorem deeper_none_right (byHeight : Option (Conflict × Nat)) :
    deeper byHeight none = byHeight := by
  cases byHeight <;> rfl

theorem resolve_eq_none_iff :
    conflicts.resolve heightAt = none ↔ conflicts.height = none ∧ conflicts.timestamp = none := by
  obtain ⟨byHeight, byTimestamp⟩ := conflicts
  cases byHeight with
  | none => cases byTimestamp <;> simp [resolve, deeper]
  | some conflict =>
      cases byTimestamp with
      | none => simp [resolve]
      | some later =>
          simp only [resolve, Option.map_some, deeper]
          split <;> simp

/-- The deeper rewind satisfies the conflicts of both axes. -/
theorem le_of_resolve {cause : Conflict} {height : Nat}
    (hresolve : conflicts.resolve heightAt = some (cause, height)) :
    (∀ conflict, conflicts.height = some conflict → height ≤ conflict.rewindTo) ∧
      ∀ conflict, conflicts.timestamp = some conflict → height ≤ heightAt conflict.rewindTo := by
  obtain ⟨byHeight, byTimestamp⟩ := conflicts
  cases byHeight with
  | none =>
      cases byTimestamp with
      | none => simp [resolve] at hresolve
      | some later =>
          simp only [resolve, Option.map_none, Option.map_some, deeper, Option.some.injEq,
            Prod.mk.injEq] at hresolve
          simp [← hresolve.2]
  | some conflict =>
      cases byTimestamp with
      | none =>
          simp only [resolve, Option.map_none, Option.map_some, deeper_none_right,
            Option.some.injEq, Prod.mk.injEq] at hresolve
          simp [← hresolve.2]
      | some later =>
          simp only [resolve, Option.map_some, deeper] at hresolve
          split at hresolve
          all_goals
            simp only [Option.some.injEq, Prod.mk.injEq] at hresolve
            obtain ⟨-, rfl⟩ := hresolve
            simp
            omega

/-- The deeper rewind is that of one of the axes. -/
theorem eq_of_resolve {cause : Conflict} {height : Nat}
    (hresolve : conflicts.resolve heightAt = some (cause, height)) :
    conflicts.height = some cause ∧ height = cause.rewindTo ∨
      conflicts.timestamp = some cause ∧ height = heightAt cause.rewindTo := by
  obtain ⟨byHeight, byTimestamp⟩ := conflicts
  cases byHeight with
  | none =>
      right
      obtain ⟨conflict, hconflict, hpair⟩ := Option.map_eq_some_iff.mp hresolve
      cases hpair
      exact ⟨hconflict, rfl⟩
  | some conflict =>
      cases byTimestamp with
      | none =>
          left
          cases hresolve
          exact ⟨rfl, rfl⟩
      | some later =>
          simp only [resolve, Option.map_some, deeper] at hresolve
          split at hresolve
          · right
            cases hresolve
            exact ⟨rfl, rfl⟩
          · left
            cases hresolve
            exact ⟨rfl, rfl⟩

/-- What the deeper rewind keeps, if there is one at all, neither axis reaches back to. -/
theorem le_of_kept {kept : Nat}
    (hkept : ∀ cause target, conflicts.resolve heightAt = some (cause, target) → kept ≤ target) :
    (∀ conflict, conflicts.height = some conflict → kept ≤ conflict.rewindTo) ∧
      ∀ conflict, conflicts.timestamp = some conflict → kept ≤ heightAt conflict.rewindTo := by
  cases hresolve : conflicts.resolve heightAt with
  | none =>
      obtain ⟨hheight, htimestamp⟩ := resolve_eq_none_iff.mp hresolve
      simp [hheight, htimestamp]
  | some found =>
      obtain ⟨cause, target⟩ := found
      have hbound := hkept cause target hresolve
      obtain ⟨hheight, htimestamp⟩ := le_of_resolve hresolve
      constructor
      · intro conflict hconflict
        exact Nat.le_trans hbound (hheight conflict hconflict)
      · intro conflict hconflict
        exact Nat.le_trans hbound (htimestamp conflict hconflict)

end AxisConflicts

namespace Service

variable {service : Service} {old new : Schedule} {head : Head} {cause : Conflict} {target : Nat}

/-- The conflicts that the service looks for at a head; timestamps only if its settings say so. -/
def conflicts (service : Service) (stored new : Schedule) (head : Head) : AxisConflicts :=
  checkAxes stored new head.height
    (if service.settings.checkTimestamps then some head.timestamp else none)

/-- The conflict that decides how far the chain is rewound, if there is any. -/
def deepest (service : Service) (stored new : Schedule) (head : Head) : Option (Conflict × Nat) :=
  (service.conflicts stored new head).resolve fun timestamp => service.chain.heightAt timestamp

/-- A rewind goes to the target of a height conflict, or to the last block that is no later than the
target of a timestamp conflict. -/
theorem exists_find_of_deepest (hdeepest : service.deepest old new head = some (cause, target)) :
    (∃ point ≤ head.height, (pass old new .height).find point = some cause ∧
      target = cause.rewindTo) ∨
    service.settings.checkTimestamps = true ∧
      ∃ point ≤ head.timestamp, (pass old new .timestamp).find point = some cause ∧
        target = service.chain.heightAt cause.rewindTo := by
  rcases AxisConflicts.eq_of_resolve hdeepest with ⟨hlowest, htarget⟩ | ⟨hlowest, htarget⟩
  · left
    obtain ⟨point, hpoint, hfound⟩ := exists_find_of_lowestConflict hlowest
    exact ⟨point, hpoint, hfound, htarget⟩
  · right
    obtain ⟨timestamp, htimestamp, hlowest⟩ := Option.bind_eq_some_iff.mp hlowest
    obtain ⟨hcheck, hsame⟩ := Option.ite_none_right_eq_some.mp htimestamp
    cases hsame
    obtain ⟨point, hpoint, hfound⟩ := exists_find_of_lowestConflict hlowest
    exact ⟨hcheck, point, hpoint, hfound, htarget⟩

theorem le_head_of_deepest (hhead : service.chain.head = .ok head)
    (hdeepest : service.deepest old new head = some (cause, target)) : target ≤ head.height := by
  rcases exists_find_of_deepest hdeepest with ⟨point, hpoint, hfound, rfl⟩ | ⟨-, point, -, -, rfl⟩
  · have hdescends := (pass old new .height).descends hfound
    omega
  · exact Chain.heightAt_le_head hhead _

/-- The passes find nothing at a block that the deepest rewind that is needed, if any, does not
reach. -/
theorem find_eq_none_of_deepest {height timestamp : Nat} (hordered : service.chain.Ordered)
    (hhead : service.chain.head = .ok head) (hpos : 1 ≤ height)
    (hblock : service.chain.timestamps[height]? = some timestamp)
    (hkept : ∀ cause target, service.deepest old new head = some (cause, target) →
      height ≤ target) :
    (pass old new .height).find height = none ∧
      (service.settings.checkTimestamps = true → 1 ≤ timestamp →
        (pass old new .timestamp).find timestamp = none) := by
  unfold deepest at hkept
  obtain ⟨hheight, htimestamp⟩ := AxisConflicts.le_of_kept hkept
  obtain ⟨hbelow, hbefore⟩ := hordered.le_head hhead hblock
  constructor
  · obtain ⟨stable, hle, hnone⟩ := exists_find_eq_none_of_kept hpos hbelow hheight
    exact find_eq_none_mono hle hnone
  · intro hcheck hlater
    simp only [conflicts, hcheck, if_true] at htimestamp
    -- A timestamp conflict was turned into a height, and that height lies at or before its target.
    obtain ⟨stable, hle, hnone⟩ := exists_find_eq_none_of_kept hlater hbefore
      fun conflict hconflict =>
        (hordered.le_heightAt_iff hpos hblock).mp (htimestamp conflict hconflict)
    exact find_eq_none_mono hle hnone

end Service

end ForkSchedule
