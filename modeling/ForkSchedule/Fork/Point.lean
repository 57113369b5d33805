import ForkSchedule.Activation
import ForkSchedule.Fork

/-!
# Fork points

A named place in a fork order: where the fork activates, if it does, and whether it may be skipped.
-/

namespace ForkSchedule

/-- One entry of a fork order. -/
structure ForkPoint where
  name : String
  axis : Axis
  /-- The point of activation; an absent one never activates. -/
  value : Option Nat
  /-- An optional point may be absent without holding back the points after it. -/
  optional : Bool
  deriving DecidableEq, Repr

namespace ForkPoint

def scheduled (point : ForkPoint) : Bool := point.value.isSome

def activeAt (point : ForkPoint) (reference : Nat) : Bool := reached point.value (some reference)

/-- A point holds back the points after it unless it is optional and unscheduled. -/
def binding (point : ForkPoint) : Bool := !point.optional || point.scheduled

def text (point : ForkPoint) : String := point.name ++ "=" ++ pointText point.value

end ForkPoint

end ForkSchedule
