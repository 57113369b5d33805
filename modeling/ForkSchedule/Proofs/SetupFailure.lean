import Mathlib.Control.Monad.Basic
import ForkSchedule.Proofs.ServiceEvents

/-!
# Setups adopt a schedule or leave things as they are

Whichever methods of the chain store are out of order, a setup that fails has neither stored the new
schedule nor put it in force. It can have touched the chain in one case only: the rewind went
through, and the write after it did not. So the schedule in force and the stored one never drift
apart again once a setup has succeeded.
-/

namespace ForkSchedule

namespace Service

variable {service after : Service} {new : Schedule}

/-- For a new schedule the service finds a conflict that needs a rewind to `target`. -/
def NeedsRewind (service : Service) (new : Schedule) (target : Nat) : Prop :=
  ∃ old head cause, service.chain.stored = some old ∧ service.chain.head = .ok head ∧
    service.deepest old new head = some (cause, target)

theorem chain_of_failed_setup {fault : Error}
    (hrun : service.run (setup new) = (.error fault, after))
    (hcalls : ∀ target, ¬WriteAfterRewind service.calls after.calls target) :
    after.chain = service.chain := by
  cases setupStep_of_run hrun with
  | interrupted calls horder hstored hne hhead hdeepest hauto hout hrewind hquiet =>
      obtain ⟨made, rfl, -⟩ := hquiet
      exact absurd ⟨made, List.append_assoc _ _ _⟩ (hcalls _)
  | _ => rfl

/-- The event is a setup and succeeds. -/
def Adopts (service : Service) : Event → Prop
  | .setup new => ∃ outcome, (service.run (setup new)).1 = .ok outcome
  | .setupPreset => ∃ outcome, (service.run setupPreset).1 = .ok outcome
  | _ => False

theorem Adopts.inForce {event : Event} (hadopts : service.Adopts event) :
    (service.handle event).InForce := by
  have hsetup {new : Schedule} {outcome : Outcome}
      (hanswer : (service.run (setup new)).1 = .ok outcome) :
      (service.run (setup new)).2.InForce := by
    obtain ⟨hstored, hactive⟩ := inForce_of_setup (Prod.ext hanswer rfl)
    rw [InForce, hstored, hactive]
  cases event with
  | setup new =>
      obtain ⟨outcome, hanswer⟩ := hadopts
      exact hsetup hanswer
  | setupPreset =>
      obtain ⟨outcome, hanswer⟩ := hadopts
      rw [run_setupPreset] at hanswer
      rw [handle, run_setupPreset]
      exact hsetup hanswer
  | _ => exact hadopts.elim

/-- A setup that succeeds has stored the new schedule and put it in force, and from then on the two
stay the same unless somebody else writes. A setup that fails leaves both alone, and the chain as
well unless it was interrupted between the rewind and the write. A schedule that is not in order is
refused without a call, and one that does not fit only if rewinding is off. -/
theorem setup_all_or_nothing (service : Service) (new : Schedule) :
    (∀ outcome after, service.run (setup new) = (.ok outcome, after) →
      after.chain.stored = some new ∧ after.active = new) ∧
    (∀ fault after, service.run (setup new) = (.error fault, after) →
      after.chain.stored = service.chain.stored ∧ after.active = service.active ∧
      ((∀ target, ¬WriteAfterRewind service.calls after.calls target) →
        after.chain = service.chain) ∧
      ∀ target, WriteAfterRewind service.calls after.calls target →
        .rewindTo ∉ service.outage ∧ .writeSchedule ∈ service.outage ∧
          service.NeedsRewind new target ∧ after.chain = service.chain.rewind target) ∧
    (∀ offence after, service.run (setup new) = (.error (.invalidSchedule offence), after) →
      after = service) ∧
    (∀ conflict after, service.run (setup new) = (.error (.incompatible conflict), after) →
      service.settings.autoRewind = false) ∧
    ∀ before event later, (service.handleAll before).Adopts event →
      (∀ other ∈ later, other.writesSchedule = false) →
        (service.handleAll (before ++ event :: later)).InForce := by
  refine ⟨fun _ _ => inForce_of_setup, ?_, ?_, ?_, ?_⟩
  · intro fault after hrun
    obtain ⟨hstored, hactive⟩ := unchanged_of_failed_setup hrun
    refine ⟨hstored, hactive, chain_of_failed_setup hrun, ?_⟩
    intro target hcalls
    obtain ⟨old, head, cause, calls, -, hold, -, hhead, hdeepest, -, hout, hrewind, rfl⟩ :=
      interrupted_of_writeAfterRewind hrun hcalls
    exact ⟨hrewind, hout, ⟨old, head, cause, hold, hhead, hdeepest⟩, rfl⟩
  · intro offence after hrun
    cases setupStep_of_run hrun with
    | refused => rfl
    | headless calls horder hhead =>
        have hstore := Chain.eq_store_of_head hhead
        contradiction
  · intro conflict after hrun
    cases setupStep_of_run hrun with
    | incompatible calls horder hstored hne hhead hdeepest hauto => exact hauto
    | headless calls horder hhead =>
        have hstore := Chain.eq_store_of_head hhead
        contradiction
  · intro before event later hadopts hwrites
    rw [handleAll_append]
    exact hadopts.inForce.handleAll hwrites

/-- While schedules cannot be written, a moved upgrade cuts the chain and nothing else. After it was
set up in the end, further failures do not part the active schedule from the stored one. -/
theorem interrupted_setup_then_outages :
    ∃ service after : Service,
      service = (start {} ((Chain.genesis (some { apricotPhase1 := some 150 }) 100).extend
        10 10)).withOutage [.writeSchedule] ∧
      service.run (setup { apricotPhase1 := some 170 }) =
        (.error Method.writeSchedule.failure, after) ∧
      after.chain.stored = service.chain.stored ∧ after.active = service.active ∧
      after.chain = service.chain.rewind 4 ∧
      (service.handleAll ([.setup { apricotPhase1 := some 170 }, .outage []] ++
        .setup { apricotPhase1 := some 170 } ::
          [.extend 9 10, .outage [.rewindTo], .setup {}, .check {}, .outage [.head], .setupPreset,
            .rules 3 150])).InForce := by
  refine ⟨_, _, rfl, Prod.ext (by decide +kernel) rfl, ?_⟩
  obtain ⟨-, hfailed, -, -, hforce⟩ := setup_all_or_nothing
    ((start {} ((Chain.genesis (some { apricotPhase1 := some 150 }) 100).extend
      10 10)).withOutage [.writeSchedule]) { apricotPhase1 := some 170 }
  obtain ⟨hstored, hactive, -, hinterrupted⟩ :=
    hfailed Method.writeSchedule.failure _ (Prod.ext (by decide +kernel) rfl)
  have hcut := hinterrupted 4 ⟨[.storedSchedule, .head, .heightAt 149], by decide +kernel⟩
  refine ⟨hstored, hactive, hcut.2.2.2, ?_⟩
  apply hforce
  · exact ⟨.updated, by decide +kernel⟩
  · decide

end Service

end ForkSchedule
