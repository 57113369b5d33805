import ForkSchedule.Proofs.SetupStep

/-!
# What happens to a service

A service is asked for something, its chain store breaks down or recovers, and its chain is changed
by others. A run is any sequence of such events. Once a setup has succeeded, the schedule in force
is the stored one for as long as nobody else writes one.
-/

namespace ForkSchedule

/-- Something that happens to a service or to its chain. -/
inductive Event where
  | setup (new : Schedule)
  | setupPreset
  | check (candidate : Schedule)
  | validate (candidate : Schedule)
  | rules (height timestamp : Nat)
  /-- From now on exactly these methods of the chain store are out of order. -/
  | outage (methods : List Method)
  /-- Somebody else adds blocks, cuts blocks off, or writes a schedule. -/
  | extend (count interval : Nat)
  | rewind (height : Nat)
  | write (schedule : Schedule)

namespace Service

/-- The service after an event. -/
def handle (service : Service) : Event → Service
  | .setup new => (service.run (setup new)).2
  | .setupPreset => (service.run setupPreset).2
  | .check candidate => (service.run (check candidate)).2
  | .validate _ | .rules _ _ => service
  | .outage methods => service.withOutage methods
  | .extend count interval => service.onChain (Chain.extend count interval)
  | .rewind height => service.onChain (Chain.rewind height)
  | .write schedule => service.onChain (Chain.write schedule)

/-- The service after a run of events. -/
def handleAll (service : Service) (events : List Event) : Service := events.foldl handle service

variable {service after : Service} {event : Event} {events : List Event}

theorem handleAll_append (service : Service) (first second : List Event) :
    service.handleAll (first ++ second) = (service.handleAll first).handleAll second :=
  List.foldl_append

/-- What every event of a run keeps holds after the run. -/
theorem handleAll_invariant (invariant : Service → Prop)
    (hstep : ∀ event ∈ events, ∀ service, invariant service → invariant (service.handle event))
    (hstart : invariant service) : invariant (service.handleAll events) := by
  induction events generalizing service with
  | nil => exact hstart
  | cons event rest ih =>
      apply ih (fun other hother => hstep other (List.mem_cons_of_mem _ hother))
      exact hstep event List.mem_cons_self service hstart

theorem run_setupPreset (service : Service) :
    service.run setupPreset = service.run (setup service.settings.network.schedule) := by
  rw [setupPreset, run_bind, run_get]

/-- A check changes nothing but the record of calls. If nothing fails, it answers the conflict that
decides a rewind. -/
theorem run_check (service : Service) (candidate : Schedule) :
    ∃ answer calls, service.run (check candidate) = (answer, { service with calls }) ∧
      ∀ head, service.outage = [] → service.chain.head = .ok head →
        answer = .ok ((service.deepest (service.chain.stored.getD service.active) candidate
          head).map (·.1)) := by
  rw [check, run_bind, run_storedSchedule]
  by_cases hstored : Method.storedSchedule ∈ service.outage
  · rw [if_pos hstored]
    exact ⟨_, _, rfl, fun _ hcalm => by simp [hcalm] at hstored⟩
  rw [if_neg hstored]
  simp only [run_bind, run_get, run_head]
  by_cases hhead : Method.head ∈ (service.noted .storedSchedule).outage
  · rw [if_pos hhead]
    exact ⟨_, _, rfl, fun _ hcalm => by simp [hcalm] at hhead⟩
  rw [if_neg hhead, show (service.noted .storedSchedule).chain.head = service.chain.head from rfl]
  cases hfound : service.chain.head with
  | error fault => exact ⟨_, _, rfl, fun _ _ hnone => by contradiction⟩
  | ok head =>
      simp only
      rcases run_lowestConflict ((service.noted .storedSchedule).noted .head)
        (service.chain.stored.getD (service.noted .storedSchedule).active) candidate head with
        ⟨hout, timestamp, hrun⟩ | ⟨calls, -, hrun⟩
      · rw [hrun]
        exact ⟨_, _, rfl, fun _ hcalm => by simp [hcalm] at hout⟩
      · rw [hrun]
        refine ⟨_, calls, rfl, fun other _ hother => ?_⟩
        obtain rfl := Except.ok.inj hother
        rfl

/-- The schedule in force is the one that the chain was built with. -/
def InForce (service : Service) : Prop := service.chain.stored = some service.active

theorem inForce_of_setup {new : Schedule} {outcome : Outcome}
    (hrun : service.run (setup new) = (.ok outcome, after)) :
    after.chain.stored = some new ∧ after.active = new := by
  cases setupStep_of_run hrun with
  | initialized => exact ⟨rfl, rfl⟩
  | unchanged calls horder hstored => exact ⟨hstored, rfl⟩
  | updated => exact ⟨rfl, rfl⟩
  | rewound => exact ⟨rfl, rfl⟩

theorem unchanged_of_failed_setup {new : Schedule} {fault : Error}
    (hrun : service.run (setup new) = (.error fault, after)) :
    after.chain.stored = service.chain.stored ∧ after.active = service.active := by
  cases setupStep_of_run hrun <;> exact ⟨rfl, rfl⟩

/-- A setup changes neither the settings nor what is out of order, and it leaves a chain that a
store can hold. -/
theorem setup_frame {new : Schedule} {result : Except Error Outcome}
    (hreach : service.chain.Reachable) (hrun : service.run (setup new) = (result, after)) :
    after.settings = service.settings ∧ after.outage = service.outage ∧ after.chain.Reachable := by
  cases setupStep_of_run hrun with
  | initialized => exact ⟨rfl, rfl, .write _ hreach⟩
  | updated => exact ⟨rfl, rfl, .write _ hreach⟩
  | interrupted => exact ⟨rfl, rfl, .rewind _ hreach⟩
  | rewound => exact ⟨rfl, rfl, .write _ (.rewind _ hreach)⟩
  | _ => exact ⟨rfl, rfl, hreach⟩

/-- A setup adds no blocks and changes none. -/
theorem front_of_setup {new : Schedule} {result : Except Error Outcome}
    (hrun : service.run (setup new) = (result, after)) :
    after.chain.timestamps <+: service.chain.timestamps := by
  cases setupStep_of_run hrun with
  | interrupted => exact List.take_prefix _ _
  | rewound => exact List.take_prefix _ _
  | _ => exact List.prefix_rfl

theorem InForce.setup (hforce : service.InForce) (new : Schedule) :
    (service.run (setup new)).2.InForce := by
  rcases hrun : service.run (Service.setup new) with ⟨result, after⟩
  cases result with
  | ok outcome =>
      obtain ⟨hstored, hactive⟩ := inForce_of_setup hrun
      rw [InForce, hstored, hactive]
  | error fault =>
      obtain ⟨hstored, hactive⟩ := unchanged_of_failed_setup hrun
      rw [InForce, hstored, hactive]
      exact hforce

end Service

/-- Whether an event puts a schedule into the store without the service. -/
def Event.writesSchedule : Event → Bool
  | write _ => true
  | _ => false

namespace Service

variable {service : Service} {event : Event} {events : List Event}

/-- All that an event can make of a service. Only a setup changes the schedule in force, and only
setups and others change the chain. -/
inductive EventStep (service : Service) : Event → Service → Prop where
  | setup {event : Event} (new : Schedule) :
      EventStep service event (service.run (Service.setup new)).2
  | aside {event : Event} (outage : List Method) (calls : List Call) :
      EventStep service event { service with outage, calls }
  | extend (count interval : Nat) :
      EventStep service (.extend count interval) (service.onChain (Chain.extend count interval))
  | rewind (height : Nat) :
      EventStep service (.rewind height) (service.onChain (Chain.rewind height))
  | write (schedule : Schedule) :
      EventStep service (.write schedule) (service.onChain (Chain.write schedule))

theorem eventStep_of_handle {after : Service} (hhandle : service.handle event = after) :
    EventStep service event after := by
  subst hhandle
  cases event with
  | setup new => exact .setup new
  | setupPreset =>
      rw [handle, run_setupPreset]
      exact .setup _
  | check candidate =>
      obtain ⟨answer, calls, hrun, -⟩ := service.run_check candidate
      rw [handle, hrun]
      exact .aside service.outage calls
  | validate candidate => exact .aside service.outage service.calls
  | rules height timestamp => exact .aside service.outage service.calls
  | outage methods => exact .aside methods service.calls
  | extend count interval => exact .extend count interval
  | rewind height => exact .rewind height
  | write schedule => exact .write schedule

theorem InForce.handle (hforce : service.InForce) (hwrites : event.writesSchedule = false) :
    (service.handle event).InForce := by
  generalize hhandle : service.handle event = after
  cases eventStep_of_handle hhandle with
  | setup new => exact hforce.setup new
  | write schedule => contradiction
  | _ => exact hforce

theorem reachable_handle (event : Event) (hreach : service.chain.Reachable) :
    (service.handle event).chain.Reachable := by
  generalize hhandle : service.handle event = after
  cases eventStep_of_handle hhandle with
  | setup new => exact (setup_frame hreach rfl).2.2
  | aside => exact hreach
  | extend count interval => exact .extend count interval hreach
  | rewind height => exact .rewind height hreach
  | write schedule => exact .write schedule hreach

/-- The chain of a service stays one that a store can hold. -/
theorem reachable_handleAll (events : List Event) (hreach : service.chain.Reachable) :
    (service.handleAll events).chain.Reachable :=
  handleAll_invariant (fun service => service.chain.Reachable)
    (fun event _ _ hreach => reachable_handle event hreach) hreach

theorem InForce.handleAll (hforce : service.InForce)
    (hwrites : ∀ event ∈ events, event.writesSchedule = false) :
    (service.handleAll events).InForce :=
  handleAll_invariant InForce
    (fun event hevent _ hforce => hforce.handle (hwrites event hevent)) hforce

end Service

end ForkSchedule
