import ForkSchedule.Proofs.DeepestConflict
import ForkSchedule.Service.Run

/-!
# What a setup can do

One statement for all ways in which a setup ends: what it answers, and what it leaves of the chain
and of the active schedule. Of the calls that it made on the way only those are told that a failed
setup shows: whether the chain was rewound, and what came after that.
-/

namespace ForkSchedule

namespace Service

/-- Calls were made since `before`, but no rewind. -/
def Quiet (before after : List Call) : Prop :=
  ∃ made, after = before ++ made ∧ ∀ height, .rewindTo height ∉ made

/-- The last calls that were made since `before` are a rewind and a write. -/
def WriteAfterRewind (before after : List Call) (height : Nat) : Prop :=
  ∃ made, after = before ++ made ++ [.rewindTo height, .writeSchedule]

namespace Quiet

variable {before after : List Call} {height : Nat}

theorem refl (before : List Call) : Quiet before before := ⟨[], by simp, by simp⟩

theorem trans {between : List Call} (hfirst : Quiet before between)
    (hsecond : Quiet between after) : Quiet before after := by
  obtain ⟨first, rfl, hfirst⟩ := hfirst
  obtain ⟨second, rfl, hsecond⟩ := hsecond
  refine ⟨first ++ second, List.append_assoc _ _ _, ?_⟩
  intro height hmem
  rcases List.mem_append.mp hmem with hmem | hmem
  · exact hfirst height hmem
  · exact hsecond height hmem

theorem concat {call : Call} (hquiet : Quiet before after)
    (hcall : ∀ height, call ≠ .rewindTo height) : Quiet before (after ++ [call]) := by
  apply hquiet.trans
  exact ⟨[call], rfl, fun height hmem => hcall height (List.mem_singleton.mp hmem).symm⟩

theorem not_writeAfterRewind (hquiet : Quiet before after) :
    ¬WriteAfterRewind before after height := by
  rintro ⟨others, hothers⟩
  obtain ⟨made, rfl, hmade⟩ := hquiet
  rw [List.append_assoc, List.append_cancel_left_eq] at hothers
  exact hmade height (by simp [hothers])

theorem not_writeAfterRewind_concat (hquiet : Quiet before after) (call : Call) :
    ¬WriteAfterRewind before (after ++ [call]) height := by
  rintro ⟨others, hothers⟩
  obtain ⟨made, rfl, hmade⟩ := hquiet
  have hsplit : before ++ made ++ [call] =
      before ++ others ++ [.rewindTo height] ++ [.writeSchedule] := by simpa using hothers
  have hfront := (List.append_inj' hsplit rfl).1
  rw [List.append_assoc, List.append_cancel_left_eq] at hfront
  exact hmade height (by simp [hfront])

end Quiet

theorem run_lowestConflict (service : Service) (stored new : Schedule) (head : Head) :
    (.heightAt ∈ service.outage ∧ ∃ timestamp, service.run (lowestConflict stored new head) =
      (.error Method.heightAt.failure, service.noted (.heightAt timestamp))) ∨
    ∃ calls, Quiet service.calls calls ∧ service.run (lowestConflict stored new head) =
      (.ok (service.deepest stored new head), { service with calls }) := by
  unfold lowestConflict
  rw [run_bind, run_get]
  change (_ ∧ ∃ _, service.run ((service.conflicts stored new head).lowest heightAt) = _) ∨
    ∃ _, _ ∧ service.run ((service.conflicts stored new head).lowest heightAt) = _
  unfold deepest
  obtain ⟨byHeight, byTimestamp⟩ := service.conflicts stored new head
  cases byTimestamp with
  | none =>
      right
      exact ⟨_, .refl _, by simp [AxisConflicts.lowest, AxisConflicts.resolve]⟩
  | some conflict =>
      simp only [AxisConflicts.lowest, run_bind, run_heightAt]
      by_cases hout : Method.heightAt ∈ service.outage
      · left
        rw [if_pos hout]
        exact ⟨hout, _, rfl⟩
      · right
        rw [if_neg hout]
        exact ⟨_, (Quiet.refl _).concat (by simp), rfl⟩

theorem run_adopt (service : Service) (new : Schedule) :
    service.run (adopt new) =
      if .writeSchedule ∈ service.outage then
        (.error Method.writeSchedule.failure, service.noted .writeSchedule)
      else
        (.ok (), { service.noted .writeSchedule with
          chain := service.chain.write new, active := new }) := by
  rw [adopt, run_bind, run_writeSchedule]
  by_cases hout : Method.writeSchedule ∈ service.outage
  · rw [if_pos hout, if_pos hout]
  · rw [if_neg hout, if_neg hout]
    rfl

/-- All ways in which setting up `new` can end, each with what is left. Only an interrupted rewind
fails after something was changed. -/
inductive SetupStep (service : Service) (new : Schedule) :
    Except Error Outcome → Service → Prop where
  | refused {offence : OrderError} (horder : new.checkOrder = .error offence) :
      SetupStep service new (.error (.invalidSchedule offence)) service
  | failed (call : Call) (calls : List Call) (horder : new.checkOrder = .ok ())
      (hout : call.method ∈ service.outage) (hquiet : Quiet service.calls calls) :
      SetupStep service new (.error call.method.failure)
        { service with calls := calls ++ [call] }
  | headless {fault : Error} (calls : List Call) (horder : new.checkOrder = .ok ())
      (hhead : service.chain.head = .error fault) (hquiet : Quiet service.calls calls) :
      SetupStep service new (.error fault) { service with calls }
  | initialized (calls : List Call) (horder : new.checkOrder = .ok ())
      (hstored : service.chain.stored = none) :
      SetupStep service new (.ok .initialized)
        { service with chain := service.chain.write new, active := new, calls }
  | unchanged (calls : List Call) (horder : new.checkOrder = .ok ())
      (hstored : service.chain.stored = some new) :
      SetupStep service new (.ok .unchanged) { service with active := new, calls }
  | updated {old : Schedule} {head : Head} (calls : List Call)
      (horder : new.checkOrder = .ok ()) (hstored : service.chain.stored = some old)
      (hne : old ≠ new) (hhead : service.chain.head = .ok head)
      (hdeepest : service.deepest old new head = none) :
      SetupStep service new (.ok .updated)
        { service with chain := service.chain.write new, active := new, calls }
  | incompatible {old : Schedule} {head : Head} {cause : Conflict} {height : Nat}
      (calls : List Call) (horder : new.checkOrder = .ok ())
      (hstored : service.chain.stored = some old) (hne : old ≠ new)
      (hhead : service.chain.head = .ok head)
      (hdeepest : service.deepest old new head = some (cause, height))
      (hauto : service.settings.autoRewind = false) (hquiet : Quiet service.calls calls) :
      SetupStep service new (.error (.incompatible cause)) { service with calls }
  | interrupted {old : Schedule} {head : Head} {cause : Conflict} {height : Nat}
      (calls : List Call) (horder : new.checkOrder = .ok ())
      (hstored : service.chain.stored = some old) (hne : old ≠ new)
      (hhead : service.chain.head = .ok head)
      (hdeepest : service.deepest old new head = some (cause, height))
      (hauto : service.settings.autoRewind = true)
      (hout : .writeSchedule ∈ service.outage) (hrewind : .rewindTo ∉ service.outage)
      (hquiet : Quiet service.calls calls) :
      SetupStep service new (.error Method.writeSchedule.failure)
        { service with
          chain := service.chain.rewind height
          calls := calls ++ [.rewindTo height] ++ [.writeSchedule] }
  | rewound {old : Schedule} {head : Head} {cause : Conflict} {height : Nat}
      (calls : List Call) (horder : new.checkOrder = .ok ())
      (hstored : service.chain.stored = some old) (hne : old ≠ new)
      (hhead : service.chain.head = .ok head)
      (hdeepest : service.deepest old new head = some (cause, height))
      (hauto : service.settings.autoRewind = true) :
      SetupStep service new (.ok (.rewound cause height))
        { service with chain := (service.chain.rewind height).write new, active := new, calls }

variable {service after : Service} {old new : Schedule} {result : Except Error Outcome}

theorem setupStep_settle {head : Head} (calls : List Call) (hquiet : Quiet service.calls calls)
    (horder : new.checkOrder = .ok ()) (hstored : service.chain.stored = some old)
    (hne : old ≠ new) (hhead : service.chain.head = .ok head)
    (hrun : ({ service with calls } : Service).run (settle new (service.deepest old new head)) =
      (result, after)) :
    SetupStep service new result after := by
  -- The calls that remain are the rewind, if there is a conflict, and then the write.
  cases hdeepest : service.deepest old new head with
  | none =>
      rw [hdeepest, settle, run_bind, run_adopt] at hrun
      by_cases hout : Method.writeSchedule ∈ service.outage
      · rw [if_pos hout] at hrun
        cases hrun
        exact .failed .writeSchedule calls horder hout hquiet
      · rw [if_neg hout] at hrun
        cases hrun
        exact .updated _ horder hstored hne hhead hdeepest
  | some found =>
      obtain ⟨cause, height⟩ := found
      rw [hdeepest, settle, run_bind, run_get] at hrun
      simp only at hrun
      cases hauto : service.settings.autoRewind with
      | false =>
          rw [if_neg (by simp [hauto]), run_throw] at hrun
          cases hrun
          exact .incompatible _ horder hstored hne hhead hdeepest hauto hquiet
      | true =>
          rw [if_pos hauto, run_bind, run_rewindTo] at hrun
          by_cases hrewind : Method.rewindTo ∈ service.outage
          · rw [if_pos hrewind] at hrun
            cases hrun
            exact .failed (.rewindTo height) calls horder hrewind hquiet
          rw [if_neg hrewind] at hrun
          simp only [run_bind, run_adopt, noted_outage] at hrun
          by_cases hout : Method.writeSchedule ∈ service.outage
          · rw [if_pos hout] at hrun
            cases hrun
            exact .interrupted calls horder hstored hne hhead hdeepest hauto hout hrewind hquiet
          · rw [if_neg hout] at hrun
            cases hrun
            exact .rewound _ horder hstored hne hhead hdeepest hauto

theorem setupStep_reconcile (calls : List Call) (hquiet : Quiet service.calls calls)
    (horder : new.checkOrder = .ok ()) (hstored : service.chain.stored = some old)
    (hne : old ≠ new)
    (hrun : ({ service with calls } : Service).run (reconcile old new) = (result, after)) :
    SetupStep service new result after := by
  have hnoted : Quiet service.calls (calls ++ [.head]) := hquiet.concat (by simp)
  rw [reconcile, run_bind, run_head] at hrun
  by_cases hout : Method.head ∈ service.outage
  · rw [if_pos hout] at hrun
    cases hrun
    exact .failed .head calls horder hout hquiet
  rw [if_neg hout] at hrun
  cases hhead : service.chain.head with
  | error fault =>
      simp only [hhead] at hrun
      cases hrun
      exact .headless _ horder hhead hnoted
  | ok head =>
      simp only [hhead] at hrun
      rw [run_bind] at hrun
      rcases run_lowestConflict (({ service with calls } : Service).noted .head) old new head with
        ⟨hlookup, timestamp, hfailed⟩ | ⟨searched, hsearched, hfound⟩
      · rw [hfailed] at hrun
        cases hrun
        exact .failed (.heightAt timestamp) _ horder hlookup hnoted
      · rw [hfound] at hrun
        exact setupStep_settle searched (hnoted.trans hsearched) horder hstored hne hhead hrun

/-- Every run of a setup is one of the steps. -/
theorem setupStep_of_run (hrun : service.run (setup new) = (result, after)) :
    SetupStep service new result after := by
  unfold setup at hrun
  cases horder : validate new with
  | error offence =>
      rw [horder] at hrun
      cases hrun
      exact .refused horder
  | ok =>
      rw [horder] at hrun
      simp only [run_bind, run_storedSchedule] at hrun
      by_cases hout : Method.storedSchedule ∈ service.outage
      · rw [if_pos hout] at hrun
        cases hrun
        exact .failed .storedSchedule service.calls horder hout (.refl _)
      have hnoted : Quiet service.calls (service.calls ++ [.storedSchedule]) :=
        (Quiet.refl _).concat (by simp)
      rw [if_neg hout] at hrun
      cases hstored : service.chain.stored with
      | none =>
          simp only [hstored, run_bind, run_adopt] at hrun
          by_cases hwrite : Method.writeSchedule ∈ (service.noted .storedSchedule).outage
          · rw [if_pos hwrite] at hrun
            cases hrun
            exact .failed .writeSchedule _ horder hwrite hnoted
          · rw [if_neg hwrite] at hrun
            cases hrun
            exact .initialized _ horder hstored
      | some old =>
          simp only [hstored] at hrun
          by_cases hsame : old = new
          · subst hsame
            rw [if_pos rfl] at hrun
            cases hrun
            exact .unchanged _ horder hstored
          · rw [if_neg hsame] at hrun
            exact setupStep_reconcile _ hnoted horder hstored hsame hrun

/-! ## Setups that complete

A setup that was interrupted shows in its calls. One during which nothing fails goes through to the
end, and what it does is decided by the conflict that it finds. -/

/-- A failed setup that wrote after a rewind did nothing but that rewind, to the height that the
deepest conflict needs. -/
theorem interrupted_of_writeAfterRewind {fault : Error} {target : Nat}
    (hrun : service.run (setup new) = (.error fault, after))
    (hcalls : WriteAfterRewind service.calls after.calls target) :
    ∃ old head cause calls, new.checkOrder = .ok () ∧ service.chain.stored = some old ∧ old ≠ new ∧
      service.chain.head = .ok head ∧ service.deepest old new head = some (cause, target) ∧
      service.settings.autoRewind = true ∧ .writeSchedule ∈ service.outage ∧
      .rewindTo ∉ service.outage ∧
      after = { service with chain := service.chain.rewind target, calls } := by
  cases setupStep_of_run hrun with
  | refused horder => exact absurd hcalls (Quiet.refl _).not_writeAfterRewind
  | failed call calls horder hout hquiet =>
      exact absurd hcalls (hquiet.not_writeAfterRewind_concat call)
  | headless calls horder hhead hquiet => exact absurd hcalls hquiet.not_writeAfterRewind
  | incompatible calls horder hstored hne hhead hdeepest hauto hquiet =>
      exact absurd hcalls hquiet.not_writeAfterRewind
  | interrupted calls horder hstored hne hhead hdeepest hauto hout hrewind hquiet =>
      obtain ⟨made, hmade⟩ := hcalls
      have htarget : [Call.rewindTo _, .writeSchedule] = [.rewindTo target, .writeSchedule] :=
        (List.append_inj' ((List.append_assoc _ _ _).symm.trans hmade) rfl).2
      cases htarget
      exact ⟨_, _, _, _, horder, hstored, hne, hhead, hdeepest, hauto, hout, hrewind, rfl⟩

end Service

/-- The chain rewound to the height that comes with a conflict, if there is one. -/
def Chain.cutFor : Option (Conflict × Nat) → Chain → Chain
  | none, chain => chain
  | some (_, height), chain => chain.rewind height

/-- The outcome of a setup that went through all calls, by the conflict that it found. -/
def Outcome.ofConflict : Option (Conflict × Nat) → Outcome
  | none => .updated
  | some (cause, height) => .rewound cause height

theorem Outcome.ofConflict_cases (found : Option (Conflict × Nat)) :
    ofConflict found = .updated ∨ ∃ cause height, ofConflict found = .rewound cause height := by
  cases found with
  | none => exact Or.inl rfl
  | some found => exact Or.inr ⟨found.1, found.2, rfl⟩

namespace Service

variable {old new : Schedule}

/-- What a setup does during which nothing fails, on a chain that has a schedule already. -/
theorem run_setup_over_stored (service : Service) {head : Head} (hcalm : service.outage = [])
    (horder : new.checkOrder = .ok ()) (hstored : service.chain.stored = some old)
    (hhead : service.chain.head = .ok head) :
    ∃ calls, service.run (setup new) =
      if old = new then (.ok .unchanged, { service with active := new, calls })
      else
        match service.deepest old new head with
        | none =>
          (.ok .updated,
            { service with chain := service.chain.write new, active := new, calls })
        | some (cause, height) =>
          if service.settings.autoRewind then
            (.ok (.rewound cause height),
              { service with
                chain := (service.chain.rewind height).write new, active := new, calls })
          else (.error (.incompatible cause), { service with calls }) := by
  rcases hrun : service.run (setup new) with ⟨result, after⟩
  cases setupStep_of_run hrun with
  | refused hrefused => simp [horder] at hrefused
  | failed call calls _ hout => simp [hcalm] at hout
  | headless calls _ hnone => simp [hhead] at hnone
  | initialized calls _ hnone => simp [hstored] at hnone
  | unchanged calls _ hsame =>
      obtain rfl := Option.some.inj (hsame.symm.trans hstored)
      exact ⟨calls, (if_pos rfl).symm⟩
  | updated calls _ hold hne hother hdeepest =>
      obtain rfl := Option.some.inj (hold.symm.trans hstored)
      obtain rfl := Except.ok.inj (hother.symm.trans hhead)
      refine ⟨calls, ?_⟩
      rw [if_neg hne, hdeepest]
  | incompatible calls _ hold hne hother hdeepest hauto =>
      obtain rfl := Option.some.inj (hold.symm.trans hstored)
      obtain rfl := Except.ok.inj (hother.symm.trans hhead)
      refine ⟨calls, ?_⟩
      rw [if_neg hne, hdeepest, hauto]
      rfl
  | interrupted calls _ _ _ _ _ _ hout => simp [hcalm] at hout
  | rewound calls _ hold hne hother hdeepest hauto =>
      obtain rfl := Option.some.inj (hold.symm.trans hstored)
      obtain rfl := Except.ok.inj (hother.symm.trans hhead)
      refine ⟨calls, ?_⟩
      rw [if_neg hne, hdeepest, hauto]
      rfl

theorem run_setup_of_calm (service : Service) {head : Head} (hcalm : service.outage = [])
    (horder : new.checkOrder = .ok ()) (hstored : service.chain.stored = some old) (hne : old ≠ new)
    (hhead : service.chain.head = .ok head) (hauto : service.settings.autoRewind = true) :
    ∃ calls, service.run (setup new) =
      (.ok (.ofConflict (service.deepest old new head)),
        { service with
          chain := (service.chain.cutFor (service.deepest old new head)).write new
          active := new
          calls }) := by
  obtain ⟨calls, hrun⟩ := run_setup_over_stored service hcalm horder hstored hhead
  refine ⟨calls, ?_⟩
  rw [hrun, if_neg hne, hauto]
  cases service.deepest old new head <;> rfl

end Service

end ForkSchedule
