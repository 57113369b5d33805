import ForkSchedule.Proofs.ForkOrder
import ForkSchedule.Proofs.LowestConflict
import ForkSchedule.Proofs.SetupStep

/-!
# How deep a rewind reaches

A rewind ends where the schedules part. It does not reach deeper: the first block that it discards
is in conflict, since a check that a pass finds fails right after its own target already. Nor does
it stop short: behind genesis only blocks before the lower of the two points are left. The one
exception is an upgrade at timestamp zero, which has no timestamp before it.
-/

namespace ForkSchedule

namespace Check

variable {stored new : Schedule} {check : Check} {head : Nat} {axis : Axis}

/-- A new Petersburg in order is compared with Constantinople right after the target, provided that
Constantinople itself was not moved. -/
theorem petersburg_reached_of_order (hnew : new.checkOrder = .ok ())
    (hunmoved : (moved .constantinople).fails stored new head = false)
    (hfails : (moved .petersburg).fails stored new head = true) (after : Nat) :
    reached (lowerPoint stored.constantinople new.petersburg) (some after) = true := by
  cases hpetersburg : new.petersburg with
  | some point =>
      obtain rfl := Schedule.point_eq_genesis hnew .petersburg rfl hpetersburg
      simp [reached_lowerPoint, genesisHeight]
  | none =>
      have hcompared := (Bool.and_eq_true_iff.mp hfails).2
      rw [hpetersburg] at hcompared
      have hreached : reached stored.constantinople (some head) = true := by
        simpa using (Bool.and_eq_true_iff.mp hcompared).1
      have hsame : stored.constantinople = new.constantinople :=
        (incompatible_eq_false_iff.mp hunmoved).eq_of_reached hreached
      obtain ⟨point, hpoint, -⟩ := reached_eq_true_iff.mp hreached
      obtain rfl := Schedule.point_eq_genesis hnew .constantinople rfl (hsame.symm.trans hpoint)
      simp [reached_lowerPoint, hpoint, genesisHeight]

/-- The check that a pass against a schedule in order finds fails right after its target already. A
flag does so because its fork was looked at before and had not moved, and Petersburg because of
Constantinople. -/
theorem fails_after_target (hnew : new.checkOrder = .ok ())
    (hfirst : (onAxis axis).find? (·.fails stored new head) = some check) :
    check.fails stored new (check.target stored new + 1) = true := by
  have hfails : check.fails stored new head = true := List.find?_some hfirst
  obtain rfl := mem_onAxis.mp (List.mem_of_find?_eq_some hfirst)
  cases check with
  | moved fork =>
      by_cases hne : fork = .petersburg
      · subst hne
        have hunmoved := eq_false_of_find?_append
          [moved .homestead, moved .dao, daoSupport, moved .eip150, moved .eip155, moved .eip158,
            chainId, moved .byzantium, moved .constantinople]
          (moved .constantinople) hfirst (by decide) (by decide)
        exact petersburg_fails_after_target hfails
          (petersburg_reached_of_order hnew hunmoved hfails _)
      · exact moved_prompt hne hfails
  | daoSupport =>
      have hunmoved := eq_false_of_find?_append [moved .homestead, moved .dao] (moved .dao) hfirst
        (by decide) (by decide)
      exact flag_prompt (Or.inl rfl) hunmoved hfails
  | chainId =>
      have hunmoved := eq_false_of_find?_append
        [moved .homestead, moved .dao, daoSupport, moved .eip150, moved .eip155, moved .eip158]
        (moved .eip158) hfirst (by decide) (by decide)
      exact flag_prompt (Or.inr rfl) hunmoved hfails

end Check

variable {old new : Schedule} {axis : Axis} {point : Nat} {conflict : Conflict}

theorem find_ne_none_after_rewindTo (hnew : new.checkOrder = .ok ())
    (hfound : (pass old new axis).find point = some conflict) {after : Nat}
    (hafter : conflict.rewindTo < after) : (pass old new axis).find after ≠ none := by
  obtain ⟨check, hfirst, rfl⟩ := Option.map_eq_some_iff.mp hfound
  have hfails := Check.fails_mono hafter (Check.fails_after_target hnew hfirst)
  intro hnone
  have hholds := find_eq_none_iff_fails.mp hnone check (List.mem_of_find?_eq_some hfirst)
  rw [hfails] at hholds
  contradiction

namespace Service

variable {service after : Service} {head : Head} {cause : Conflict} {target : Nat}

/-- The block right behind the target of a rewind is in conflict. -/
theorem checkOnce_behind_deepest (hordered : service.chain.Ordered) (hnew : new.checkOrder = .ok ())
    (hdeepest : service.deepest old new head = some (cause, target)) {timestamp : Nat}
    (hblock : service.chain.timestamps[target + 1]? = some timestamp) :
    (checkOnce old new (target + 1)
      (if service.settings.checkTimestamps then some timestamp else none)).isSome := by
  rw [Option.isSome_iff_ne_none]
  intro hnone
  obtain ⟨hheight, htimestamp⟩ := Option.or_eq_none_iff.mp hnone
  rcases exists_find_of_deepest hdeepest with
    ⟨point, -, hfound, rfl⟩ | ⟨hcheck, point, -, hfound, rfl⟩
  · exact find_ne_none_after_rewindTo hnew hfound (Nat.lt_succ_self _) hheight
  -- The look-up stops at the last block no later than its argument, and this is the next one.
  · have hlater : cause.rewindTo < timestamp := by
      apply Nat.lt_of_not_le
      intro hle
      have hkept := (hordered.le_heightAt_iff (Nat.succ_pos _) hblock).mpr hle
      omega
    rw [hcheck, if_pos rfl, Option.bind_some] at htimestamp
    exact find_ne_none_after_rewindTo hnew hfound hlater htimestamp

/-- A setup that rewinds the chain makes a block of it the head, and it discards no more than it
has to: unless that block was the head before, the one behind it is in conflict. -/
theorem setup_rewinds_no_deeper_than_needed (hreach : service.chain.Reachable)
    (hstored : service.chain.stored = some old)
    (hrun : service.run (setup new) = (.ok (.rewound cause target), after)) :
    ∃ head, service.chain.head = .ok head ∧ target ≤ head.height ∧
      (∃ timestamp, after.chain.head = .ok { height := target, timestamp }) ∧
      (target < head.height → ∃ timestamp,
        service.chain.timestamps[target + 1]? = some timestamp ∧
          (checkOnce old new (target + 1)
            (if service.settings.checkTimestamps then some timestamp else none)).isSome) := by
  cases setupStep_of_run hrun with
  | rewound calls horder hold hne hhead hdeepest hauto =>
      obtain rfl := Option.some.inj (hold.symm.trans hstored)
      have hle := le_head_of_deepest hhead hdeepest
      obtain ⟨timestamp, -, hnewHead⟩ := Chain.exists_head_rewind hhead hle
      refine ⟨_, hhead, hle, ⟨timestamp, hnewHead⟩, ?_⟩
      intro hlt
      have hbound := (Chain.head_eq_ok_iff.mp hhead).1
      have hblock := List.getElem?_eq_getElem (l := service.chain.timestamps) (i := target + 1)
        (by omega)
      exact ⟨_, hblock, checkOnce_behind_deepest hreach.ordered horder hdeepest hblock⟩

/-- The stored Istanbul is not in order and leads back to block 2, the moved upgrade only to 4. -/
theorem setup_rewinds_to_block_before_istanbul :
    ∃ after : Service,
      (start {} ((Chain.genesis (some { istanbul := some 3, apricotPhase1 := some 150 }) 100).extend
        10 10)).run (setup { apricotPhase1 := some 170 }) =
          (.ok (.rewound (.between "Istanbul fork block" .height (some 3) none) 2), after) ∧
      (∃ timestamp, after.chain.head = .ok { height := 2, timestamp }) ∧
      (checkOnce { istanbul := some 3, apricotPhase1 := some 150 } { apricotPhase1 := some 170 } 3
        (some 130)).isSome := by
  have hreach : ((Chain.genesis (some { istanbul := some 3, apricotPhase1 := some 150 }) 100).extend
      10 10).Reachable := .extend 10 10 (.genesis _ 100)
  have hrun : (start {} ((Chain.genesis (some { istanbul := some 3, apricotPhase1 := some 150 })
      100).extend 10 10)).run (setup { apricotPhase1 := some 170 }) =
        (.ok (.rewound (.between "Istanbul fork block" .height (some 3) none) 2), _) :=
    run_eq_of_toOption (by decide +kernel)
  obtain ⟨head, hhead, -, hnewHead, hbehind⟩ :=
    setup_rewinds_no_deeper_than_needed hreach rfl hrun
  cases hhead
  obtain ⟨timestamp, hblock, hconflict⟩ := hbehind (by decide)
  cases hblock
  exact ⟨_, hrun, hnewHead, hconflict⟩

/-- What is left behind genesis after a rewind are exactly the old blocks before the lower point of
the conflict, and those at timestamp zero if that is the lower point itself. -/
theorem rewound_keeps_iff_before_conflict (hreach : service.chain.Reachable)
    (hrun : service.run (setup new) = (.ok (.rewound cause target), after)) :
    ∃ lower, lowerPoint cause.stored cause.new = some lower ∧
      ∀ height timestamp, 1 ≤ height →
        (after.chain.timestamps[height]? = some timestamp ↔
          service.chain.timestamps[height]? = some timestamp ∧
            (cause.axis.place height timestamp < lower ∨
              cause.axis = .timestamp ∧ lower = 0 ∧ timestamp = 0)) := by
  cases setupStep_of_run hrun with
  | rewound calls horder hold hne hhead hdeepest hauto =>
      rcases exists_find_of_deepest hdeepest with
        ⟨point, -, hfound, rfl⟩ | ⟨-, point, -, hfound, rfl⟩
      all_goals
        obtain ⟨haxis, lower, hlower, htarget⟩ := lowerPoint_of_find hfound
        refine ⟨lower, hlower, ?_⟩
        intro height timestamp hpos
        refine Chain.getElem?_rewind_eq_some_iff.trans
          (and_comm.trans (and_congr_right fun hblock => ?_))
      · rw [haxis, htarget]
        simp only [Axis.place, reduceCtorEq, false_and, or_false]
        omega
      · rw [hreach.ordered.le_heightAt_iff hpos hblock, haxis, htarget]
        simp only [Axis.place, true_and]
        omega

/-- The upgrade moves away from 140, and of the blocks at 100, 120, 140, 160 and 160 two are
left. -/
theorem rewound_keeps_blocks_before_upgrade :
    ∃ after : Service,
      (start {} (((Chain.genesis (some { apricotPhase1 := some 140 }) 100).extend 3 20).extend
        1 0)).run (setup { apricotPhase1 := some 150 }) =
          (.ok (.rewound (.between "Apricot Phase 1 fork block timestamp" .timestamp (some 140)
            (some 150)) 1), after) ∧
      ∀ height timestamp, 1 ≤ height →
        (after.chain.timestamps[height]? = some timestamp ↔
          [100, 120, 140, 160, 160][height]? = some timestamp ∧ timestamp < 140) := by
  have hreach : (((Chain.genesis (some { apricotPhase1 := some 140 }) 100).extend 3 20).extend
      1 0).Reachable := .extend 1 0 (.extend 3 20 (.genesis _ 100))
  have hrun : (start {} (((Chain.genesis (some { apricotPhase1 := some 140 }) 100).extend 3
      20).extend 1 0)).run (setup { apricotPhase1 := some 150 }) =
        (.ok (.rewound (.between "Apricot Phase 1 fork block timestamp" .timestamp (some 140)
          (some 150)) 1), _) := run_eq_of_toOption (by decide +kernel)
  have hchain : (((Chain.genesis (some { apricotPhase1 := some 140 }) 100).extend 3 20).extend
      1 0).timestamps = [100, 120, 140, 160, 160] := by decide
  obtain ⟨lower, hlower, hkept⟩ := rewound_keeps_iff_before_conflict hreach hrun
  cases hlower
  refine ⟨_, hrun, ?_⟩
  intro height timestamp hpos
  have hblock := hkept height timestamp hpos
  simpa [start, hchain, Axis.place, Conflict.between] using hblock

/-- No timestamp lies before zero, so an upgrade that moves to it leaves the blocks there although
they lie at the upgrade. -/
theorem rewind_leaves_blocks_at_timestamp_zero :
    ¬∀ (service after : Service) (new : Schedule) (cause : Conflict)
        (target lower height timestamp : Nat),
      service.chain.Reachable →
      service.run (setup new) = (.ok (.rewound cause target), after) →
      lowerPoint cause.stored cause.new = some lower →
      1 ≤ height → after.chain.timestamps[height]? = some timestamp →
      cause.axis.place height timestamp < lower := by
  intro hbefore
  have hreach : ((Chain.genesis (some {}) 0).extend 3 0).Reachable :=
    .extend 3 0 (.genesis _ 0)
  have hrun : (start {} ((Chain.genesis (some {}) 0).extend 3 0)).run
      (setup { apricotPhase1 := some 0 }) =
        (.ok (.rewound (.between "Apricot Phase 1 fork block timestamp" .timestamp none
          (some 0)) 3), _) := run_eq_of_toOption (by decide +kernel)
  exact absurd (hbefore _ _ _ _ 3 0 1 0 hreach hrun rfl (Nat.le_refl 1) (by decide +kernel))
    (by decide)

end Service

end ForkSchedule
