import ForkSchedule.Proofs.Agreement
import ForkSchedule.Proofs.ForkOrder
import ForkSchedule.Proofs.ServiceEvents

/-!
# The rules that are handed out

Every fork but the first on its axis builds on another one. Under a schedule that is in order a
fork is active only together with the fork it builds on, and the forks by height are active in every
block or in none. A service never has any other schedule in force: it starts with the schedule of a
network, and a setup puts a new one in force only after its order was checked.
-/

namespace ForkSchedule

namespace Fork

/-- The fork that a fork builds on. The optional forks have none that builds on them. -/
def base? : Fork → Option Fork
  | homestead | apricotPhase1 => none
  | dao | eip150 => some homestead
  | eip155 => some eip150
  | eip158 => some eip155
  | byzantium => some eip158
  | constantinople => some byzantium
  | petersburg => some constantinople
  | istanbul => some petersburg
  | muirGlacier => some istanbul
  | apricotPhase2 => some apricotPhase1
  | apricotPhase3 => some apricotPhase2
  | apricotPhase4 => some apricotPhase3

variable {fork base : Fork}

theorem axis_of_base? (hbase : fork.base? = some base) : base.axis = fork.axis := by
  cases fork <;> cases hbase <;> rfl

theorem optional_of_base? (hbase : fork.base? = some base) : base.optional = false := by
  cases fork <;> cases hbase <;> rfl

theorem sublist_of_base? (hbase : fork.base? = some base) :
    [base, fork].Sublist byHeight ∨ [base, fork].Sublist byTimestamp := by
  cases fork <;> cases hbase <;> decide

end Fork

namespace Schedule

variable {schedule : Schedule} {fork base : Fork} {reference : Nat}

theorem reached_point_of_base (horder : schedule.checkOrder = .ok ())
    (hbase : fork.base? = some base)
    (hreached : reached (schedule.point fork) (some reference) = true) :
    reached (schedule.point base) (some reference) = true := by
  have hmandatory := Fork.optional_of_base? hbase
  rcases Fork.sublist_of_base? hbase with hforks | hforks
  · exact precedes_of_walk (heightOrder_of_checkOrder horder) hforks hmandatory reference hreached
  · exact precedes_of_walk (timestampOrder_of_checkOrder horder) hforks hmandatory reference
      hreached

/-- Where the own point of a fork is reached, its rules hold. -/
theorem reached_rulePoint (hreached : reached (schedule.point fork) (some reference) = true) :
    reached (schedule.rulePoint fork) (some reference) = true := by
  by_cases hne : fork = .petersburg
  · subst hne
    obtain ⟨point, hpoint, hle⟩ := reached_eq_true_iff.mp hreached
    refine reached_eq_true_iff.mpr ⟨point, ?_, hle⟩
    rw [rulePoint, show schedule.petersburg = some point from hpoint, Option.some_or]
  · rwa [rulePoint_of_ne schedule hne]

theorem active_of_base (horder : schedule.checkOrder = .ok ()) (hbase : fork.base? = some base)
    {height timestamp : Nat} (hactive : schedule.active fork height timestamp = true) :
    schedule.active base height timestamp = true := by
  rw [active_eq_reached, Fork.axis_of_base? hbase]
  rw [active_eq_reached] at hactive
  by_cases hown : schedule.rulePoint fork = schedule.point fork
  · rw [hown] at hactive
    exact reached_rulePoint (reached_point_of_base horder hbase hactive)
  · -- Only Petersburg may hold by a point that is not its own, and that is the point of its base.
    cases fork with
    | petersburg =>
        cases hbase
        cases hpoint : schedule.petersburg with
        | none =>
            rw [rulePoint, hpoint, Option.none_or] at hactive
            exact hactive
        | some point => exact absurd (by simp [rulePoint, Schedule.point, hpoint]) hown
    | _ => exact absurd rfl hown

theorem rulePoint_eq_genesis (horder : schedule.checkOrder = .ok ()) (hfork : fork.axis = .height)
    {value : Nat} (hvalue : schedule.rulePoint fork = some value) : value = genesisHeight := by
  by_cases hne : fork = .petersburg
  · subst hne
    rcases Option.or_eq_some_iff.mp hvalue with hown | ⟨-, hconstantinople⟩
    · exact point_eq_genesis horder .petersburg rfl hown
    · exact point_eq_genesis horder .constantinople rfl hconstantinople
  · rw [rulePoint_of_ne schedule hne] at hvalue
    exact point_eq_genesis horder fork hfork hvalue

/-- A fork by height is active in every block as soon as it is active in one. -/
theorem active_everywhere (horder : schedule.checkOrder = .ok ()) (hfork : fork.axis = .height)
    (height timestamp other later : Nat) (hactive : schedule.active fork height timestamp = true) :
    schedule.active fork other later = true := by
  rw [active_eq_reached] at hactive ⊢
  obtain ⟨point, hpoint, -⟩ := reached_eq_true_iff.mp hactive
  obtain rfl := rulePoint_eq_genesis horder hfork hpoint
  exact reached_eq_true_iff.mpr ⟨genesisHeight, hpoint, Nat.zero_le _⟩

end Schedule

theorem Network.checkOrder_schedule (network : Network) : network.schedule.checkOrder = .ok () := by
  cases network <;> rfl

/-- Every fork that is active comes with the one that it builds on. -/
def Rules.InSequence (rules : Rules) : Prop :=
  ∀ fork base, fork.base? = some base → rules.active fork = true → rules.active base = true

namespace Service

variable {service : Service}

/-- A setup leaves a schedule in force that is in order if there was one before. -/
theorem checkOrder_setup (horder : service.active.checkOrder = .ok ()) (new : Schedule) :
    (service.run (setup new)).2.active.checkOrder = .ok () := by
  rcases hrun : service.run (setup new) with ⟨result, after⟩
  cases setupStep_of_run hrun with
  | initialized calls hnew => exact hnew
  | unchanged calls hnew => exact hnew
  | updated calls hnew => exact hnew
  | rewound calls hnew => exact hnew
  | _ => exact horder

theorem checkOrder_handle (event : Event) (horder : service.active.checkOrder = .ok ()) :
    (service.handle event).active.checkOrder = .ok () := by
  generalize hhandle : service.handle event = after
  cases eventStep_of_handle hhandle with
  | setup new => exact checkOrder_setup horder new
  | _ => exact horder

theorem checkOrder_handleAll (settings : Settings) (chain : Chain) (events : List Event) :
    ((start settings chain).handleAll events).active.checkOrder = .ok () :=
  handleAll_invariant (fun service => service.active.checkOrder = .ok ())
    (fun event _ _ horder => checkOrder_handle event horder) settings.network.checkOrder_schedule

/-- Whatever happens to a service and to its chain, the rules that it hands out for a block are
those of a legal sequence of forks. Forks by height are active in all blocks or in none. -/
theorem rules_inSequence (settings : Settings) (chain : Chain) (events : List Event)
    (height timestamp : Nat) :
    (((start settings chain).handleAll events).rulesAt height timestamp).InSequence ∧
      ∀ other later,
        Fork.byHeight.map (((start settings chain).handleAll events).rulesAt other later).active =
          Fork.byHeight.map
            (((start settings chain).handleAll events).rulesAt height timestamp).active := by
  have horder := checkOrder_handleAll settings chain events
  constructor
  · intro fork base hbase hactive
    exact Schedule.active_of_base horder hbase hactive
  · intro other later
    apply List.map_congr_left
    intro fork hfork
    have haxis := Fork.mem_byHeight.mp hfork
    exact Bool.eq_iff_iff.mpr
      ⟨Schedule.active_everywhere horder haxis _ _ _ _,
        Schedule.active_everywhere horder haxis _ _ _ _⟩

end Service

end ForkSchedule
