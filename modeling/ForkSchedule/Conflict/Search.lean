import ForkSchedule.Conflict.Check

/-!
# The conflict that reaches back furthest

The first conflict in canonical order need not be the one with the lowest target. Each axis is
therefore searched by itself: the pass is made again at the target of the conflict it found, until
it finds nothing that lies lower. The axes meet only where a timestamp can be turned into a height.
-/

namespace ForkSchedule

namespace Pass

/-- What is left of a search that looks at `point` next and found `last` before. Only genesis can
lead to itself, and it does so once. -/
def remaining (point : Nat) (last : Option Conflict) : Nat :=
  2 * point + if last.map (·.rewindTo) = some 0 then 0 else 1

theorem remaining_lt {point : Nat} {last : Option Conflict} {conflict : Conflict}
    (hdescends : conflict.rewindTo < point ∨ conflict.rewindTo = 0)
    (hmoved : last.map (·.rewindTo) ≠ some conflict.rewindTo) :
    remaining conflict.rewindTo (some conflict) < remaining point last := by
  unfold remaining
  simp only [Option.map_some, Option.some.injEq]
  rcases hdescends with hlt | hzero
  · split <;> split <;> omega
  · rw [hzero] at hmoved ⊢
    rw [if_pos rfl, if_neg hmoved]
    omega

/-- The last conflict that repeated passes find on their way down. Each pass looks at the target of
the conflict found before it, and the search ends where nothing is found or the target stays. -/
def search (pass : Pass) (point : Nat) (last : Option Conflict) : Option Conflict :=
  match _hfound : pass.find point with
  | none => last
  | some conflict =>
    if last.map (·.rewindTo) = some conflict.rewindTo then last
    else pass.search conflict.rewindTo (some conflict)
termination_by remaining point last
decreasing_by exact remaining_lt (pass.descends _hfound) ‹_›

end Pass

/-- The conflict that a search from a head ends with. -/
def lowestConflict (pass : Pass) (head : Nat) : Option Conflict := pass.search head none

/-- The lowest conflict found on each axis. -/
structure AxisConflicts where
  height : Option Conflict
  timestamp : Option Conflict
  deriving DecidableEq, Repr

namespace AxisConflicts

def isEmpty (conflicts : AxisConflicts) : Bool :=
  conflicts.height.isNone && conflicts.timestamp.isNone

/-- The height conflict if there is one, else the timestamp conflict. -/
def first (conflicts : AxisConflicts) : Option Conflict := conflicts.height.or conflicts.timestamp

/-- Of two conflicts with the heights they rewind to, the one that rewinds further. A tie goes to
the conflict by height. -/
def deeper : (byHeight byTimestamp : Option (Conflict × Nat)) → Option (Conflict × Nat)
  | some (conflict, height), some (later, resolved) =>
    if resolved < height then some (later, resolved) else some (conflict, height)
  | some byHeight, none => some byHeight
  | none, byTimestamp => byTimestamp

/-- The conflict that needs the deeper rewind, with the height to rewind to. A timestamp is turned
into a height by `heightAt`, which is asked only if there is a timestamp conflict. -/
def lowest {m : Type → Type} [Monad m] (heightAt : Nat → m Nat) (conflicts : AxisConflicts) :
    m (Option (Conflict × Nat)) := do
  let byHeight := conflicts.height.map fun conflict => (conflict, conflict.rewindTo)
  match conflicts.timestamp with
  | none => pure byHeight
  | some conflict =>
    let height ← heightAt conflict.rewindTo
    pure (deeper byHeight (some (conflict, height)))

end AxisConflicts

/-- The lowest conflict of each axis: heights from `height` down, upgrades from `timestamp` down.
Without a timestamp the upgrades are not compared. -/
def checkAxes (stored new : Schedule) (height : Nat) (timestamp : Option Nat) : AxisConflicts where
  height := lowestConflict (pass stored new .height) height
  timestamp := timestamp.bind (lowestConflict (pass stored new .timestamp))

/-- The lowest conflict by height of a chain stored up to `height`. -/
def checkHeights (stored new : Schedule) (height : Nat) : Option Conflict :=
  (checkAxes stored new height none).height

/-- The lowest conflict by height at a head, or else the lowest by timestamp. -/
def checkAt (stored new : Schedule) (height : Nat) (timestamp : Option Nat) : Option Conflict :=
  (checkAxes stored new height timestamp).first

end ForkSchedule
