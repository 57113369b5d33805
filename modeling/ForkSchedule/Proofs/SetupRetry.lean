import Mathlib.Control.Monad.Basic
import ForkSchedule.Proofs.SetupStep

/-!
# Setting up again after an interrupted rewind

A setup can stop after it has rewound the chain and before it has written the new schedule. The
chain is then shorter and still has the old schedule, so that another setup compares the two again.
It may even find a conflict again, at genesis or at timestamp zero, but none that leads any further
back.
-/

namespace ForkSchedule

namespace Service

variable {service after : Service} {old new : Schedule} {head : Head} {cause : Conflict}
  {target : Nat}

/-- On the chain that was rewound no conflict needs a deeper rewind than the one before. -/
theorem le_of_deepest_rewind {next : Head} {later : Conflict} {height : Nat}
    (hordered : service.chain.Ordered) (hhead : service.chain.head = .ok head)
    (hdeepest : service.deepest old new head = some (cause, target))
    (hnext : (service.chain.rewind target).head = .ok next)
    (hagain : (service.onChain (Chain.rewind target)).deepest old new next =
      some (later, height)) : target ≤ height := by
  rcases Nat.eq_zero_or_pos target with rfl | hpos
  · exact Nat.zero_le height
  obtain ⟨timestamp, hblock, hnewHead⟩ :=
    Chain.exists_head_rewind hhead (le_head_of_deepest hhead hdeepest)
  obtain rfl := Except.ok.inj (hnewHead.symm.trans hnext)
  have hkept : ∀ other bound, service.deepest old new head = some (other, bound) →
      target ≤ bound := by
    intro other bound hother
    rw [hdeepest] at hother
    cases hother
    exact Nat.le_refl target
  obtain ⟨hheight, htimestamp⟩ := find_eq_none_of_deepest hordered hhead hpos hblock hkept
  rcases exists_find_of_deepest hagain with
    ⟨point, hpoint, hfound, -⟩ | ⟨hcheck, point, hpoint, hfound, rfl⟩
  · rw [find_eq_none_mono hpoint hheight] at hfound
    contradiction
  · -- Only at timestamp zero is something left to find, and no block is earlier than that.
    have hkeptBlock := Chain.getElem?_rewind_eq_some_iff.mpr ⟨Nat.le_refl target, hblock⟩
    apply ((hordered.rewind target).le_heightAt_iff hpos hkeptBlock).mpr
    rcases Nat.eq_zero_or_pos timestamp with rfl | hlater
    · exact Nat.zero_le _
    · rw [find_eq_none_mono hpoint (htimestamp hcheck hlater)] at hfound
      contradiction

theorem cutFor_deepest_rewind {next : Head} (hordered : service.chain.Ordered)
    (hhead : service.chain.head = .ok head)
    (hdeepest : service.deepest old new head = some (cause, target))
    (hnext : (service.chain.rewind target).head = .ok next) :
    (service.chain.rewind target).cutFor
      ((service.onChain (Chain.rewind target)).deepest old new next) =
        service.chain.rewind target := by
  cases hagain : (service.onChain (Chain.rewind target)).deepest old new next with
  | none => rfl
  | some found =>
      obtain ⟨later, height⟩ := found
      have hle := le_of_deepest_rewind hordered hhead hdeepest hnext hagain
      apply Chain.rewind_of_head_le hnext
      obtain ⟨timestamp, -, hnewHead⟩ :=
        Chain.exists_head_rewind hhead (le_head_of_deepest hhead hdeepest)
      obtain rfl := Except.ok.inj (hnewHead.symm.trans hnext)
      exact hle

/-- If a setup fails although its rewind went through, because of the write after it, then it
succeeds when it is made again without failures. It cuts off no further block, and its end is that
of a single setup without failures. -/
theorem interrupted_setup_converges {fault : Error} (hreach : service.chain.Reachable)
    (hrun : service.run (setup new) = (.error fault, after))
    (hcalls : WriteAfterRewind service.calls after.calls target) :
    ∃ outcome again, (after.withOutage []).run (setup new) = (.ok outcome, again) ∧
      (outcome = .updated ∨ ∃ cause height, outcome = .rewound cause height) ∧
      again.chain.timestamps = after.chain.timestamps ∧
      ∃ direct straight, (service.withOutage []).run (setup new) = (.ok direct, straight) ∧
        again.chain = straight.chain ∧ again.active = straight.active := by
  obtain ⟨old, head, cause, calls, horder, hstored, hne, hhead, hdeepest, hauto, -, -, rfl⟩ :=
    interrupted_of_writeAfterRewind hrun hcalls
  obtain ⟨next, hnext⟩ := (hreach.ordered.rewind target).exists_head
  have hcut := cutFor_deepest_rewind hreach.ordered hhead hdeepest hnext
  have hstraight : service.chain.cutFor (service.deepest old new head) =
      service.chain.rewind target := by
    rw [hdeepest]
    rfl
  obtain ⟨_, hagain⟩ := run_setup_of_calm
    (({ service with chain := service.chain.rewind target, calls } : Service).withOutage []) rfl
    horder hstored hne hnext hauto
  obtain ⟨_, hdirect⟩ := run_setup_of_calm (service.withOutage []) rfl horder hstored hne hhead
    hauto
  refine ⟨_, _, hagain, Outcome.ofConflict_cases _, ?_, _, _, hdirect, ?_, rfl⟩
  · exact (congrArg Chain.timestamps hcut :)
  · exact congrArg (Chain.write new) (hcut.trans hstraight.symm)

/-- An upgrade at timestamp zero is in conflict at genesis as well, so that setting it up again
rewinds the chain again, to where it already is. -/
theorem interrupted_setup_converges_at_genesis :
    ∃ after : Service,
      ((start {} ((Chain.genesis (some {}) 0).extend 3 10)).withOutage [.writeSchedule]).run
        (setup { apricotPhase1 := some 0 }) = (.error Method.writeSchedule.failure, after) ∧
      WriteAfterRewind [] after.calls 0 ∧
      ∃ outcome again,
        (after.withOutage []).run (setup { apricotPhase1 := some 0 }) = (.ok outcome, again) ∧
        (outcome = .updated ∨ ∃ cause height, outcome = .rewound cause height) ∧
        again.chain.timestamps = after.chain.timestamps ∧
        ∃ direct straight,
          (((start {} ((Chain.genesis (some {}) 0).extend 3 10)).withOutage
            [.writeSchedule]).withOutage []).run (setup { apricotPhase1 := some 0 }) =
              (.ok direct, straight) ∧
          again.chain = straight.chain ∧ again.active = straight.active := by
  have hreach : ((Chain.genesis (some {}) 0).extend 3 10).Reachable := .extend 3 10 (.genesis _ 0)
  have hfails : (((start {} ((Chain.genesis (some {}) 0).extend 3 10)).withOutage
      [.writeSchedule]).run (setup { apricotPhase1 := some 0 })).1 =
        .error Method.writeSchedule.failure := by decide +kernel
  have hcalls : WriteAfterRewind []
      (((start {} ((Chain.genesis (some {}) 0).extend 3 10)).withOutage [.writeSchedule]).run
        (setup { apricotPhase1 := some 0 })).2.calls 0 :=
    ⟨[.storedSchedule, .head, .heightAt 0], by decide +kernel⟩
  exact ⟨_, Prod.ext hfails rfl, hcalls,
    interrupted_setup_converges hreach (Prod.ext hfails rfl) hcalls⟩

end Service

end ForkSchedule
