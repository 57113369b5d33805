import ForkSchedule.Conflict.Search
import ForkSchedule.Schedule.Rules
import ForkSchedule.Service.Call
import ForkSchedule.Settings

/-!
# The schedule service

The service owns the schedule in force and reconciles new schedules with the stored chain. It
reaches the chain through five calls, each of which may be out of order; a failed call does nothing.
The active schedule is exchanged only after everything else has succeeded.
-/

namespace ForkSchedule

/-- A service and the chain store that it drives. -/
structure Service where
  settings : Settings
  /-- The schedule in force. -/
  active : Schedule
  chain : Chain
  /-- The methods of the chain store that are out of order. -/
  outage : List Method
  /-- The calls that the service has made on the chain store, in order. -/
  calls : List Call
  deriving DecidableEq

/-- What became of a schedule that was set up. -/
inductive Outcome where
  /-- Nothing was stored; the schedule was written. -/
  | initialized
  /-- The stored schedule is the same. -/
  | unchanged
  /-- The schedule fits the stored chain and was written. -/
  | updated
  /-- The stored chain was rewound to a height before the schedule was written. -/
  | rewound (cause : Conflict) (height : Nat)
  deriving DecidableEq, Repr

namespace Service

/-- Something that the service does: it may fail, and whatever it changed before stays changed. -/
abbrev Action := ExceptT Error (StateM Service)

/-- A service over a chain, with the schedule of the network in its settings. -/
def start (settings : Settings) (chain : Chain) : Service where
  settings := settings
  active := settings.network.schedule
  chain := chain
  outage := []
  calls := []

/-- What an action answers and what it makes of the service. -/
def run {α : Type} (service : Service) (action : Action α) : Except Error α × Service :=
  (ExceptT.run action).run service

/-- Makes a call on the chain store. The call is noted whether or not it succeeds. -/
def perform {α : Type} (call : Call) (effect : Chain → Except Error (α × Chain)) : Action α := do
  modify fun service => { service with calls := service.calls ++ [call] }
  let service ← get
  if call.method ∈ service.outage then
    throw call.method.failure
  match effect service.chain with
  | .error fault => throw fault
  | .ok (answer, chain) =>
    set { service with chain }
    pure answer

def storedSchedule : Action (Option Schedule) :=
  perform .storedSchedule fun chain => .ok (chain.stored, chain)

def head : Action Head :=
  perform .head fun chain => chain.head.map fun head => (head, chain)

def writeSchedule (schedule : Schedule) : Action Unit :=
  perform .writeSchedule fun chain => .ok ((), chain.write schedule)

/-- Cuts off the chain behind a height. -/
def rewindTo (height : Nat) : Action Unit :=
  perform (.rewindTo height) fun chain => .ok ((), chain.rewind height)

def heightAt (timestamp : Nat) : Action Nat :=
  perform (.heightAt timestamp) fun chain => .ok (chain.heightAt timestamp, chain)

/-- The conflict of two schedules at a head that needs the deepest rewind, with the height to rewind
to. -/
def lowestConflict (stored new : Schedule) (head : Head) : Action (Option (Conflict × Nat)) := do
  let settings := (← get).settings
  let timestamp := if settings.checkTimestamps then some head.timestamp else none
  (checkAxes stored new head.height timestamp).lowest heightAt

def activate (schedule : Schedule) : Action Unit :=
  modify fun service => { service with active := schedule }

def validate (candidate : Schedule) : Except OrderError Unit := candidate.checkOrder

/-- The conflict that setting up a candidate would meet. Without a stored schedule it is compared
with the active one. -/
def check (candidate : Schedule) : Action (Option Conflict) := do
  let stored ← storedSchedule
  let active := (← get).active
  let head ← head
  let found ← lowestConflict (stored.getD active) candidate head
  pure (found.map (·.1))

def adopt (schedule : Schedule) : Action Unit := do
  writeSchedule schedule
  activate schedule

/-- Adopts a new schedule after the chain was searched. If a conflict was found, the chain is
rewound before that, provided that the settings allow it. -/
def settle (new : Schedule) : Option (Conflict × Nat) → Action Outcome
  | none => do
    adopt new
    pure .updated
  | some (conflict, height) => do
    if (← get).settings.autoRewind then
      rewindTo height
      adopt new
      pure (.rewound conflict height)
    else
      throw (.incompatible conflict)

/-- Reconciles a new schedule with a different one that is stored. -/
def reconcile (stored new : Schedule) : Action Outcome := do
  let head ← head
  let found ← lowestConflict stored new head
  settle new found

/-- Checks a new schedule, reconciles it with the stored chain and puts it in force. -/
def setup (new : Schedule) : Action Outcome := do
  match validate new with
  | .error offence => throw (.invalidSchedule offence)
  | .ok () =>
    match ← storedSchedule with
    | none =>
      adopt new
      pure .initialized
    | some stored =>
      if stored = new then
        activate new
        pure .unchanged
      else
        reconcile stored new

def setupPreset : Action Outcome := do
  setup (← get).settings.network.schedule

/-- The rules of a block under the schedule in force. -/
def rulesAt (service : Service) (height timestamp : Nat) : Rules :=
  service.active.rules height timestamp

/-- The service while exactly the given methods of the chain store are out of order. -/
def withOutage (outage : List Method) (service : Service) : Service := { service with outage }

/-- The service with something done to its chain by somebody else. -/
def onChain (change : Chain → Chain) (service : Service) : Service :=
  { service with chain := change service.chain }

end Service

end ForkSchedule
