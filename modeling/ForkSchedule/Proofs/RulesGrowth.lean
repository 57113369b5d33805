import ForkSchedule.Proofs.Agreement
import ForkSchedule.Proofs.ServiceEvents

/-!
# Rules grow along a chain

A fork is active from one place on its axis on, and its answer depends on nothing but that place.
So the forks that are active for a block are active for every block that is no earlier on either
axis. The blocks of a chain are of that kind, since their timestamps stay in order whatever happens
to a service and to its chain.
-/

namespace ForkSchedule

namespace Schedule

variable {schedule : Schedule} {fork : Fork} {height later timestamp after : Nat}

/-- Only the place on its own axis decides whether a fork is active. -/
theorem active_congr
    (hplace : fork.axis.place height timestamp = fork.axis.place later after) :
    schedule.active fork height timestamp = schedule.active fork later after := by
  rw [active_eq_reached, active_eq_reached, hplace]

theorem active_mono (hheight : height ≤ later) (htimestamp : timestamp ≤ after)
    (hactive : schedule.active fork height timestamp = true) :
    schedule.active fork later after = true := by
  rw [active_eq_reached] at hactive ⊢
  exact reached_mono (fork.axis.place_mono hheight htimestamp) hactive

end Schedule

/-- Every fork that is active under the first rules is active under the second. -/
def Rules.GrowInto (rules others : Rules) : Prop :=
  ∀ fork, rules.active fork = true → others.active fork = true

theorem Schedule.rules_growInto (schedule : Schedule) {height later timestamp after : Nat}
    (hheight : height ≤ later) (htimestamp : timestamp ≤ after) :
    (schedule.rules height timestamp).GrowInto (schedule.rules later after) :=
  fun _ hactive => active_mono hheight htimestamp hactive

namespace Service

/-- The rules that a service hands out for the blocks of its chain only grow from block to block. -/
def RulesGrow (service : Service) : Prop :=
  ∀ first second early late, first ≤ second →
    service.chain.timestamps[first]? = some early →
    service.chain.timestamps[second]? = some late →
    (service.rulesAt first early).GrowInto (service.rulesAt second late)

theorem rulesGrow_of_ordered {service : Service} (hordered : service.chain.Ordered) :
    service.RulesGrow := by
  intro first second early late hle hfirst hsecond
  have htimestamp : early ≤ late := Chain.le_of_sorted hordered.sorted hle hfirst hsecond
  exact service.active.rules_growInto hle htimestamp

/-- Under any schedule the rules of a block are among those of every block that lies no earlier on
either axis; the forks by height are the same at all timestamps, and the upgrades at all heights.
Therefore the rules that a service hands out grow along its chain, whatever happened to both. -/
theorem rules_grow_along_chain (settings : Settings) {chain : Chain} (hreach : chain.Reachable)
    (events : List Event) :
    (∀ (schedule : Schedule) (height later timestamp after : Nat),
      (height ≤ later → timestamp ≤ after →
        (schedule.rules height timestamp).GrowInto (schedule.rules later after)) ∧
      (∀ fork ∈ Fork.byHeight, (schedule.rules height timestamp).active fork =
        (schedule.rules height after).active fork) ∧
      ∀ fork ∈ Fork.byTimestamp, (schedule.rules height timestamp).active fork =
        (schedule.rules later timestamp).active fork) ∧
    ((start settings chain).handleAll events).RulesGrow := by
  constructor
  · intro schedule height later timestamp after
    refine ⟨schedule.rules_growInto, ?_, ?_⟩
    · intro fork hfork
      apply Schedule.active_congr
      rw [Axis.place_of_mem_byHeight hfork, Axis.place_of_mem_byHeight hfork]
    · intro fork hfork
      apply Schedule.active_congr
      rw [Axis.place_of_mem_byTimestamp hfork, Axis.place_of_mem_byTimestamp hfork]
  · have hstart : (start settings chain).chain.Reachable := hreach
    exact rulesGrow_of_ordered (reachable_handleAll events hstart).ordered

/-- A moved upgrade cuts the chain behind 140, and blocks are added at 160, 180, 200 and 220. The
upgrade is not active at 160 yet, but at 180 and therefore at 220. -/
theorem upgrade_stays_active_along_chain :
    ∃ service : Service,
      service = (start {} ((Chain.genesis (some { apricotPhase1 := some 150 }) 100).extend
        10 10)).handleAll
          [.setup { apricotPhase1 := some 170 }, .outage [.head], .extend 4 20, .setupPreset] ∧
      service.chain.timestamps = [100, 110, 120, 130, 140, 160, 180, 200, 220] ∧
      (service.rulesAt 5 160).active .apricotPhase1 = false ∧
      (service.rulesAt 6 180).active .apricotPhase1 = true ∧
      (service.rulesAt 8 220).active .apricotPhase1 = true := by
  have hreach : ((Chain.genesis (some { apricotPhase1 := some 150 }) 100).extend 10 10).Reachable :=
    .extend 10 10 (.genesis _ 100)
  obtain ⟨service, hservice⟩ : ∃ service, service =
      (start {} ((Chain.genesis (some { apricotPhase1 := some 150 }) 100).extend 10 10)).handleAll
        [.setup { apricotPhase1 := some 170 }, .outage [.head], .extend 4 20, .setupPreset] :=
    ⟨_, rfl⟩
  have htimestamps : service.chain.timestamps =
      [100, 110, 120, 130, 140, 160, 180, 200, 220] := by
    rw [hservice]
    decide +kernel
  have hactive : (service.rulesAt 6 180).active .apricotPhase1 = true := by
    rw [hservice]
    decide +kernel
  have hgrow := (rules_grow_along_chain {} hreach
    [.setup { apricotPhase1 := some 170 }, .outage [.head], .extend 4 20, .setupPreset]).2
  rw [← hservice] at hgrow
  refine ⟨service, hservice, htimestamps, ?_, hactive, ?_⟩
  · rw [hservice]
    decide +kernel
  · exact hgrow 6 8 180 220 (by decide) (by rw [htimestamps]; rfl) (by rw [htimestamps]; rfl)
      .apricotPhase1 hactive

end Service

end ForkSchedule
