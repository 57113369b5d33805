import ForkSchedule.Json.Writer
import ForkSchedule.Schedule

/-!
# Rules of a block

A snapshot of what holds for one block: its place, the identity of its chain and the forks that are
active. Forks by height look at the height alone and upgrades at the timestamp alone, so that an
upgrade happens at the same moment for everyone.
-/

namespace ForkSchedule

/-- What holds for one block. A block at another place needs a snapshot of its own. -/
structure Rules where
  height : Nat
  timestamp : Nat
  /-- The chain identifier, or 0 for a schedule without one. -/
  chainId : Nat
  /-- The forks that are active. -/
  active : Fork → Bool

/-- The rules for a block at `height` with `timestamp`. -/
def Schedule.rules (schedule : Schedule) (height timestamp : Nat) : Rules where
  height := height
  timestamp := timestamp
  chainId := schedule.chainId.getD 0
  active := fun fork => schedule.active fork height timestamp

/-- The document text of a rules snapshot. -/
def Rules.document (rules : Rules) : String :=
  let places := [("height", rules.height), ("timestamp", rules.timestamp),
    ("chain_id", rules.chainId)]
  let flags := (Fork.byHeight ++ Fork.byTimestamp).map fun fork =>
    (fork.flagName, Json.flagText (rules.active fork))
  String.ofList (Json.objectText
    (places.map (fun (name, value) => (name, Json.numberText value)) ++ flags))

end ForkSchedule
