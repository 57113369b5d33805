import ForkSchedule.Conflict
import ForkSchedule.Schedule

/-!
# Compatibility checks

The comparisons that decide whether blocks imported under one schedule would be processed
differently under another, each on its own and in canonical order. A pass answers the first that
fails at a head; whether it is also the one that reaches back furthest is another question.
-/

namespace ForkSchedule

/-- One comparison of two schedules. -/
inductive Check where
  /-- A fork must not have moved once either point is reached. -/
  | moved (fork : Fork)
  /-- The DAO fork must not change sides once the stored one is active. -/
  | daoSupport
  /-- The chain identifier is part of a signature from EIP158 on. -/
  | chainId
  deriving DecidableEq, Repr

namespace Check

/-- The fork whose points a failed check reports. -/
def fork : Check → Fork
  | moved fork => fork
  | daoSupport => .dao
  | chainId => .eip158

def rule : Check → String
  | moved fork => fork.ruleName
  | daoSupport => "DAO fork support flag"
  | chainId => "EIP158 chain ID"

/-- Whether a check fails at a head on its own axis. Petersburg may also be moved onto the stored
Constantinople, since without a point of its own it comes with Constantinople. -/
def fails (stored new : Schedule) (head : Nat) : Check → Bool
  | moved .petersburg =>
    incompatible stored.petersburg new.petersburg (some head) &&
      incompatible stored.constantinople new.petersburg (some head)
  | moved fork => incompatible (stored.point fork) (new.point fork) (some head)
  | daoSupport =>
    reached stored.dao (some head) && stored.daoForkSupport != new.daoForkSupport
  | chainId => reached stored.eip158 (some head) && stored.chainId != new.chainId

def conflict (stored new : Schedule) (check : Check) : Conflict :=
  .between check.rule check.fork.axis (stored.point check.fork) (new.point check.fork)

/-- The checks at a block height, in canonical order. -/
def byHeight : List Check :=
  [moved .homestead, moved .dao, daoSupport, moved .eip150, moved .eip155, moved .eip158, chainId,
    moved .byzantium, moved .constantinople, moved .petersburg, moved .istanbul, moved .muirGlacier]

/-- The checks at a block timestamp, in canonical order. -/
def byTimestamp : List Check := Fork.byTimestamp.map moved

def onAxis : Axis → List Check
  | .height => byHeight
  | .timestamp => byTimestamp

/-- The conflict of the first check that fails at a head. -/
def firstConflict (checks : List Check) (stored new : Schedule) (head : Nat) : Option Conflict :=
  (checks.find? (·.fails stored new head)).map (·.conflict stored new)

/-- A check fails only where one of the two points that it reports is reached. -/
theorem reached_of_fails {stored new : Schedule} {check : Check} {head : Nat}
    (hfails : check.fails stored new head = true) :
    reached (lowerPoint (stored.point check.fork) (new.point check.fork)) (some head) = true := by
  rw [reached_lowerPoint]
  cases check with
  | moved fork => cases fork <;> simp_all [fails, incompatible, Check.fork, Schedule.point]
  | daoSupport => simp_all [fails, Check.fork, Schedule.point]
  | chainId => simp_all [fails, Check.fork, Schedule.point]

/-- A pass leads back behind the head, or else to genesis. -/
theorem rewindTo_of_firstConflict {checks : List Check} {stored new : Schedule} {head : Nat}
    {conflict : Conflict} (hfound : firstConflict checks stored new head = some conflict) :
    conflict.rewindTo < head ∨ conflict.rewindTo = 0 := by
  obtain ⟨check, hcheck, rfl⟩ := Option.map_eq_some_iff.mp hfound
  have hfails : check.fails stored new head = true := List.find?_some hcheck
  exact Conflict.rewindTo_between_lt _ _ (reached_of_fails hfails)

/-- A check reports points on the axis it belongs to. -/
theorem axis_fork_of_mem_onAxis {check : Check} {axis : Axis} (hmem : check ∈ onAxis axis) :
    check.fork.axis = axis := by
  cases axis <;> revert check <;> decide

end Check

/-- A pass along one axis: the conflict that it finds at a head. It leads back behind the head or to
genesis, so that passes made one after the other come to an end. -/
structure Pass where
  find : Nat → Option Conflict
  descends : ∀ {head : Nat} {conflict : Conflict},
    find head = some conflict → conflict.rewindTo < head ∨ conflict.rewindTo = 0

/-- The pass that compares two schedules along an axis. -/
def pass (stored new : Schedule) (axis : Axis) : Pass where
  find := Check.firstConflict (Check.onAxis axis) stored new
  descends := Check.rewindTo_of_firstConflict

/-- A single pass at one head, heights before timestamps. Without a timestamp the upgrades are not
compared. -/
def checkOnce (stored new : Schedule) (height : Nat) (timestamp : Option Nat) : Option Conflict :=
  ((pass stored new .height).find height).or (timestamp.bind (pass stored new .timestamp).find)

end ForkSchedule
