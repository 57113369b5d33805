import ForkSchedule.Proofs.ServiceEvents
import ForkSchedule.Proofs.Updates

/-!
# A check tells what a setup would do

A check looks for the same conflict as a setup, but always looks for it: a setup that meets its own
schedule in the store stops before that. The two agree since a schedule is never in conflict with
itself.
-/

namespace ForkSchedule

namespace Service

variable {service : Service} {old new : Schedule} {head : Head}

theorem deepest_self (service : Service) (schedule : Schedule) (head : Head) :
    service.deepest schedule schedule head = none := by
  have hheight : (service.conflicts schedule schedule head).height = none :=
    lowestConflict_eq_none_iff.mpr (find_self schedule .height _)
  have htimestamp : (service.conflicts schedule schedule head).timestamp = none := by
    apply Option.bind_eq_none_iff.mpr
    intro timestamp _
    exact lowestConflict_eq_none_iff.mpr (find_self schedule .timestamp timestamp)
  exact AxisConflicts.resolve_eq_none_iff.mpr ⟨hheight, htimestamp⟩

/-- What a setup during which nothing fails answers, by the conflict that decides a rewind. -/
theorem answer_setup_of_calm (hcalm : service.outage = []) (horder : new.checkOrder = .ok ())
    (hstored : service.chain.stored = some old) (hhead : service.chain.head = .ok head) :
    (service.run (setup new)).1 =
      match service.deepest old new head with
      | none => .ok (if old = new then .unchanged else .updated)
      | some (cause, height) =>
        if service.settings.autoRewind then .ok (.rewound cause height)
        else .error (.incompatible cause) := by
  obtain ⟨calls, hrun⟩ := run_setup_over_stored service hcalm horder hstored hhead
  rw [hrun]
  by_cases hsame : old = new
  · subst hsame
    rw [if_pos rfl, deepest_self, if_pos rfl]
  · rw [if_neg hsame]
    cases service.deepest old new head with
    | none => rw [if_neg hsame]
    | some found => cases service.settings.autoRewind <;> rfl

/-- While nothing fails, a check of a schedule in order answers and changes nothing. It finds no
conflict exactly if a setup would leave the chain as it is, and else the very conflict for which a
setup would rewind the chain or, if that is off, refuse the schedule. -/
theorem check_predicts_setup (hreach : service.chain.Reachable)
    (hstored : service.chain.stored = some old) (horder : new.checkOrder = .ok ())
    (hcalm : service.outage = []) :
    (∃ found calls, service.run (check new) = (.ok found, { service with calls })) ∧
    ((service.run (check new)).1 = .ok none ↔
      (service.run (setup new)).1 = .ok .unchanged ∨ (service.run (setup new)).1 = .ok .updated) ∧
    ∀ cause,
      (service.settings.autoRewind = false →
        ((service.run (check new)).1 = .ok (some cause) ↔
          (service.run (setup new)).1 = .error (.incompatible cause))) ∧
      (service.settings.autoRewind = true →
        ((service.run (check new)).1 = .ok (some cause) ↔
          ∃ height, (service.run (setup new)).1 = .ok (.rewound cause height))) := by
  obtain ⟨head, hhead⟩ := hreach.ordered.exists_head
  obtain ⟨answer, calls, hcheck, hanswer⟩ := service.run_check new
  obtain rfl := hanswer head hcalm hhead
  have hsetup := answer_setup_of_calm hcalm horder hstored hhead
  refine ⟨⟨_, calls, hcheck⟩, ?_⟩
  rw [hcheck, hsetup, hstored, Option.getD_some]
  cases service.deepest old new head with
  | none => by_cases hsame : old = new <;> simp [hsame]
  | some found =>
      obtain ⟨cause, height⟩ := found
      cases service.settings.autoRewind <;> simp [eq_comm]

/-- Byzantium and an upgrade have both moved. The check names Byzantium, and a setup rewinds the
chain because of it to block 1, although the upgrade would be content with block 4. -/
theorem check_predicts_rewind_before_byzantium :
    ((start {} ((Chain.genesis (some { byzantium := some 2, apricotPhase1 := some 150 }) 100).extend
      10 10)).run (check { apricotPhase1 := some 170 })).1 =
        .ok (some (.between "Byzantium fork block" .height (some 2) none)) ∧
    ((start {} ((Chain.genesis (some { byzantium := some 2, apricotPhase1 := some 150 }) 100).extend
      10 10)).run (setup { apricotPhase1 := some 170 })).1 =
        .ok (.rewound (.between "Byzantium fork block" .height (some 2) none) 1) := by
  have hrun : (start {} ((Chain.genesis (some { byzantium := some 2, apricotPhase1 := some 150 })
      100).extend 10 10)).run (setup { apricotPhase1 := some 170 }) =
        (.ok (.rewound (.between "Byzantium fork block" .height (some 2) none) 1), _) :=
    run_eq_of_toOption (by decide +kernel)
  have hsetup := congrArg Prod.fst hrun
  have hreach : (start {} ((Chain.genesis (some { byzantium := some 2, apricotPhase1 := some 150 })
      100).extend 10 10)).chain.Reachable := .extend 10 10 (.genesis _ 100)
  have horder : Schedule.checkOrder { apricotPhase1 := some 170 } = .ok () := rfl
  obtain ⟨-, -, hconflict⟩ := check_predicts_setup hreach rfl horder rfl
  exact ⟨((hconflict _).2 rfl).mpr ⟨1, hsetup⟩, hsetup⟩

end Service

end ForkSchedule
