import ForkSchedule.Service

/-!
# Running the service

What the actions of a service answer and what they make of it, one statement for each. A sequence
of actions stops at the first that fails and keeps what was changed up to there; a call that is out
of order leaves only its note.
-/

namespace ForkSchedule.Service

variable {α β : Type}

@[simp] theorem run_pure (service : Service) (answer : α) :
    service.run (pure answer) = (.ok answer, service) := rfl

@[simp] theorem run_throw (service : Service) (fault : Error) :
    service.run (throw fault : Action α) = (.error fault, service) := rfl

@[simp] theorem run_get (service : Service) :
    service.run (get : Action Service) = (.ok service, service) := rfl

@[simp] theorem run_modify (service : Service) (change : Service → Service) :
    service.run (modify change : Action Unit) = (.ok (), change service) := rfl

theorem run_bind (service : Service) (action : Action α) (next : α → Action β) :
    service.run (action >>= next) =
      match service.run action with
      | (.ok answer, service) => service.run (next answer)
      | (.error fault, service) => (.error fault, service) := by
  simp only [run, bind, ExceptT.bind, ExceptT.mk, ExceptT.run, StateT.bind, StateT.run]
  cases action service with
  | mk result service => cases result <;> rfl

/-- A run that succeeds on a given service is found by evaluation. -/
theorem run_eq_of_toOption {service : Service} {action : Action α} {answer : α}
    (hanswer : (service.run action).1.toOption = some answer) :
    service.run action = (.ok answer, (service.run action).2) := by
  revert hanswer
  obtain ⟨result, after⟩ := service.run action
  intro hanswer
  cases result with
  | error fault => contradiction
  | ok found =>
      cases hanswer
      rfl

/-- The service with one more call noted. -/
def noted (service : Service) (call : Call) : Service :=
  { service with calls := service.calls ++ [call] }

@[simp] theorem noted_outage (service : Service) (call : Call) :
    (service.noted call).outage = service.outage := rfl

theorem run_perform (service : Service) (call : Call)
    (effect : Chain → Except Error (α × Chain)) :
    service.run (perform call effect) =
      if call.method ∈ service.outage then (.error call.method.failure, service.noted call)
      else match effect service.chain with
        | .ok (answer, chain) => (.ok answer, { service.noted call with chain })
        | .error fault => (.error fault, service.noted call) := by
  unfold perform
  rw [run_bind, run_modify]
  simp only
  rw [run_bind, run_get]
  simp only
  by_cases hout : call.method ∈ service.outage
  · rw [if_pos hout, if_pos hout, run_bind, run_throw]
    rfl
  · rw [if_neg hout, if_neg hout]
    cases effect service.chain with
    | error fault => rfl
    | ok result => rfl

theorem run_storedSchedule (service : Service) :
    service.run storedSchedule =
      if .storedSchedule ∈ service.outage then
        (.error Method.storedSchedule.failure, service.noted .storedSchedule)
      else (.ok service.chain.stored, service.noted .storedSchedule) := by
  rw [storedSchedule, run_perform]
  rfl

theorem run_head (service : Service) :
    service.run head =
      if .head ∈ service.outage then (.error Method.head.failure, service.noted .head)
      else (service.chain.head, service.noted .head) := by
  rw [head, run_perform]
  cases service.chain.head <;> rfl

theorem run_writeSchedule (service : Service) (schedule : Schedule) :
    service.run (writeSchedule schedule) =
      if .writeSchedule ∈ service.outage then
        (.error Method.writeSchedule.failure, service.noted .writeSchedule)
      else
        (.ok (), { service.noted .writeSchedule with chain := service.chain.write schedule }) := by
  rw [writeSchedule, run_perform]
  rfl

theorem run_rewindTo (service : Service) (height : Nat) :
    service.run (rewindTo height) =
      if .rewindTo ∈ service.outage then
        (.error Method.rewindTo.failure, service.noted (.rewindTo height))
      else
        (.ok (),
          { service.noted (.rewindTo height) with chain := service.chain.rewind height }) := by
  rw [rewindTo, run_perform]
  rfl

theorem run_heightAt (service : Service) (timestamp : Nat) :
    service.run (heightAt timestamp) =
      if .heightAt ∈ service.outage then
        (.error Method.heightAt.failure, service.noted (.heightAt timestamp))
      else (.ok (service.chain.heightAt timestamp), service.noted (.heightAt timestamp)) := by
  rw [heightAt, run_perform]
  rfl

end ForkSchedule.Service
