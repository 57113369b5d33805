import ForkSchedule.Error
import ForkSchedule.Schedule

/-!
# Stored chains

A stored chain is the schedule it was built with, if one was written, and the timestamps of its
blocks from genesis on. Blocks are only added at the end and taken from the end, so the timestamps
never decrease.
-/

namespace ForkSchedule

structure Head where
  height : Nat
  timestamp : Nat
  deriving DecidableEq, Repr

/-- A stored chain. The block at height `i` has the timestamp at position `i`. -/
structure Chain where
  /-- The schedule that the chain was built with. -/
  stored : Option Schedule
  timestamps : List Nat
  deriving DecidableEq

namespace Chain

/-- The chain that holds only a genesis block, with the schedule that is already written, if any. -/
def genesis (stored : Option Schedule) (timestamp : Nat) : Chain where
  stored := stored
  timestamps := [timestamp]

/-- A timestamp later by some seconds. Timestamps are words of 64 bits, and the last of them stays
the last. -/
def later (timestamp seconds : Nat) : Nat :=
  max timestamp (min (timestamp + seconds) (wordLimit - 1))

/-- The chain with `count` more blocks, each `interval` seconds after the one before. -/
def extend (count interval : Nat) (chain : Chain) : Chain :=
  let last := chain.timestamps.getLast?.getD 0
  { chain with
    timestamps :=
      chain.timestamps ++ (List.range count).map fun i => later last ((i + 1) * interval) }

/-- The number of blocks, with genesis. -/
def length (chain : Chain) : Nat := chain.timestamps.length

def isEmpty (chain : Chain) : Bool := chain.timestamps.isEmpty

def head (chain : Chain) : Except Error Head :=
  match chain.timestamps.getLast? with
  | some timestamp => .ok { height := chain.timestamps.length - 1, timestamp }
  | none => .error (.store "no genesis block")

def write (schedule : Schedule) (chain : Chain) : Chain := { chain with stored := some schedule }

/-- The chain cut off behind a height; a chain that ends before it stays as it is. -/
def rewind (height : Nat) (chain : Chain) : Chain :=
  { chain with timestamps := chain.timestamps.take (height + 1) }

/-- How many blocks at the front are no later than a timestamp, by halving the range from `low` to
`high` in which the first later block lies. The timestamps have to be in order. -/
def countUpTo (timestamp : Nat) (timestamps : List Nat) (low high : Nat) : Nat :=
  if low < high then
    let middle := (low + high) / 2
    if timestamps[middle]?.any (· ≤ timestamp) then
      countUpTo timestamp timestamps (middle + 1) high
    else countUpTo timestamp timestamps low middle
  else low
termination_by high - low

/-- The height of the last block that is no later than a timestamp, and genesis if all are later. -/
def heightAt (timestamp : Nat) (chain : Chain) : Nat :=
  countUpTo timestamp chain.timestamps 0 chain.timestamps.length - 1

end Chain

end ForkSchedule
