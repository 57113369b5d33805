import ForkSchedule.Proofs.Petersburg
import ForkSchedule.Proofs.SetupStep

/-!
# Setups keep the rules of what is left

A setup that succeeds may cut the chain, but every block that it leaves behind genesis is processed
under the new schedule as it was under the stored one. A block that no conflict reaches back to lies
before a point on each axis where the pass finds nothing, and there the schedules agree.
-/

namespace ForkSchedule

/-- A block keeps its rules when one schedule replaces another. Petersburg is included only if the
old schedule was in order, and the upgrades only behind the timestamp of zero. -/
structure KeepsRules (old new : Schedule) (height timestamp : Nat) : Prop where
  forks : ∀ fork ∈ Fork.byHeight, fork ≠ .petersburg →
    old.active fork height timestamp = new.active fork height timestamp
  daoSupport : old.active .dao height timestamp = true → old.daoForkSupport = new.daoForkSupport
  chainId : old.active .eip158 height timestamp = true → old.chainId = new.chainId
  upgrades : 1 ≤ timestamp → ∀ fork ∈ Fork.byTimestamp,
    old.active fork height timestamp = new.active fork height timestamp
  petersburg : old.checkOrder = .ok () →
    old.active .petersburg height timestamp = new.active .petersburg height timestamp

variable {old new : Schedule} {height timestamp : Nat}

theorem KeepsRules.refl (schedule : Schedule) (height timestamp : Nat) :
    KeepsRules schedule schedule height timestamp :=
  ⟨fun _ _ _ => rfl, fun _ => rfl, fun _ => rfl, fun _ _ _ => rfl, fun _ => rfl⟩

/-- A block keeps its rules if the passes find nothing there. -/
theorem keepsRules_of_find_eq_none (hnew : new.checkOrder = .ok ())
    (hheight : (pass old new .height).find height = none)
    (htimestamp : 1 ≤ timestamp → (pass old new .timestamp).find timestamp = none) :
    KeepsRules old new height timestamp := by
  obtain ⟨hforks, hdao, hchain, -⟩ := find_height_eq_none_iff.mp hheight
  constructor
  case forks =>
    intro fork hfork hne
    apply hforks fork hfork hne
    exact Nat.le_of_eq (Axis.place_of_mem_byHeight hfork)
  case daoSupport => exact hdao
  case chainId => exact hchain
  case upgrades =>
    intro hpos fork hfork
    apply find_timestamp_eq_none_iff.mp (htimestamp hpos) fork hfork
    exact Nat.le_of_eq (Axis.place_of_mem_byTimestamp hfork)
  case petersburg =>
    intro hold
    exact agreeOn_petersburg_of_order hold hnew hheight height timestamp (Nat.le_refl height)

namespace Service

variable {service after : Service}

/-- A block keeps its rules if the deepest rewind that is needed, if any, does not reach it. -/
theorem keepsRules_of_deepest {head : Head} (hordered : service.chain.Ordered)
    (hcheck : service.settings.checkTimestamps = true) (hnew : new.checkOrder = .ok ())
    (hhead : service.chain.head = .ok head) (hpos : 1 ≤ height)
    (hblock : service.chain.timestamps[height]? = some timestamp)
    (hkept : ∀ cause target, service.deepest old new head = some (cause, target) →
      height ≤ target) :
    KeepsRules old new height timestamp := by
  obtain ⟨hheight, htimestamp⟩ := find_eq_none_of_deepest hordered hhead hpos hblock hkept
  exact keepsRules_of_find_eq_none hnew hheight (htimestamp hcheck)

/-- Whatever a setup leaves of the stored chain was there before and keeps its rules. -/
theorem setup_keeps_rules {outcome : Outcome} (hreach : service.chain.Reachable)
    (hstored : service.chain.stored = some old) (hcheck : service.settings.checkTimestamps = true)
    (hrun : service.run (setup new) = (.ok outcome, after)) :
    after.chain.timestamps <+: service.chain.timestamps ∧
      ∀ height timestamp, 1 ≤ height → after.chain.timestamps[height]? = some timestamp →
        KeepsRules old new height timestamp := by
  cases setupStep_of_run hrun with
  | initialized calls horder hnone =>
      rw [hnone] at hstored
      contradiction
  | unchanged calls horder hsame =>
      obtain rfl := Option.some.inj (hsame.symm.trans hstored)
      refine ⟨List.prefix_rfl, ?_⟩
      intro height timestamp _ _
      exact KeepsRules.refl _ height timestamp
  | updated calls horder hold hne hhead hdeepest =>
      obtain rfl := Option.some.inj (hold.symm.trans hstored)
      refine ⟨List.prefix_rfl, ?_⟩
      intro height timestamp hpos hblock
      apply keepsRules_of_deepest hreach.ordered hcheck horder hhead hpos hblock
      intro cause target hfound
      rw [hdeepest] at hfound
      contradiction
  | rewound calls horder hold hne hhead hdeepest hauto =>
      obtain rfl := Option.some.inj (hold.symm.trans hstored)
      refine ⟨List.take_prefix _ _, ?_⟩
      intro height timestamp hpos hblock
      obtain ⟨hkept, hblock⟩ := Chain.getElem?_rewind_eq_some_iff.mp hblock
      apply keepsRules_of_deepest hreach.ordered hcheck horder hhead hpos hblock
      intro cause target hfound
      rw [hdeepest] at hfound
      cases hfound
      exact hkept

/-- An upgrade that moves away from the timestamp 150 leaves the blocks before it. -/
theorem setup_keeps_blocks_before_upgrade :
    ∃ after : Service,
      (start {} ((Chain.genesis (some { apricotPhase1 := some 150 }) 100).extend 10 10)).run
        (setup { apricotPhase1 := some 170 }) =
          (.ok (.rewound (.between "Apricot Phase 1 fork block timestamp" .timestamp (some 150)
            (some 170)) 4), after) ∧
      after.chain.timestamps = [100, 110, 120, 130, 140] ∧
      ∀ height timestamp, 1 ≤ height → after.chain.timestamps[height]? = some timestamp →
        KeepsRules { apricotPhase1 := some 150 } { apricotPhase1 := some 170 } height
          timestamp := by
  have hreach : ((Chain.genesis (some { apricotPhase1 := some 150 }) 100).extend 10 10).Reachable :=
    .extend 10 10 (.genesis _ 100)
  have hrun : (start {} ((Chain.genesis (some { apricotPhase1 := some 150 }) 100).extend 10 10)).run
      (setup { apricotPhase1 := some 170 }) =
        (.ok (.rewound (.between "Apricot Phase 1 fork block timestamp" .timestamp (some 150)
          (some 170)) 4), _) := run_eq_of_toOption (by decide +kernel)
  exact ⟨_, hrun, by decide +kernel, (setup_keeps_rules hreach rfl rfl hrun).2⟩

end Service

end ForkSchedule
