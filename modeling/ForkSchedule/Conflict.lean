import ForkSchedule.Activation
import ForkSchedule.Fork

/-!
# Conflicts between schedules

A conflict names a rule that two schedules place differently although the stored chain is already
past one of the two places. The chain has to go back to the point before the lower of them.
-/

namespace ForkSchedule

/-- The lower of two activation points; an absent one is never lower. -/
def lowerPoint : (stored new : Option Nat) → Option Nat
  | some stored, some new => some (min stored new)
  | some stored, none => some stored
  | none, new => new

@[simp] theorem lowerPoint_self (point : Option Nat) : lowerPoint point point = point := by
  cases point <;> simp [lowerPoint]

/-- The lower of two points is reached as soon as either of them is. -/
theorem reached_lowerPoint (stored new : Option Nat) (head : Nat) :
    reached (lowerPoint stored new) (some head) =
      (reached stored (some head) || reached new (some head)) := by
  cases stored with
  | none => rfl
  | some stored =>
      cases new with
      | none => simp [lowerPoint]
      | some new =>
          simp only [lowerPoint, reached_some_some, ← Bool.decide_or, decide_eq_decide]
          omega

/-- A rule that the stored schedule and a new one place differently. -/
structure Conflict where
  rule : String
  /-- The axis that the points and the target lie on. -/
  axis : Axis
  stored : Option Nat
  new : Option Nat
  /-- The point that the chain has to be rewound to. -/
  rewindTo : Nat
  deriving DecidableEq, Repr

namespace Conflict

/-- The conflict of a rule between two points. Its target is one before the lower of them, and
genesis where there is nothing before. -/
def between (rule : String) (axis : Axis) (stored new : Option Nat) : Conflict where
  rule := rule
  axis := axis
  stored := stored
  new := new
  rewindTo := ((lowerPoint stored new).map (· - 1)).getD 0

theorem rewindTo_between (rule : String) (axis : Axis) {stored new : Option Nat} {lower : Nat}
    (hlower : lowerPoint stored new = some lower) :
    (between rule axis stored new).rewindTo = lower - 1 := by
  simp [between, hlower]

/-- A conflict over a point that is reached leads back behind the head, or else to genesis. -/
theorem rewindTo_between_lt (rule : String) (axis : Axis) {stored new : Option Nat} {head : Nat}
    (hreached : reached (lowerPoint stored new) (some head) = true) :
    (between rule axis stored new).rewindTo < head ∨
      (between rule axis stored new).rewindTo = 0 := by
  obtain ⟨lower, hlower, hle⟩ := reached_eq_true_iff.mp hreached
  rw [rewindTo_between rule axis hlower]
  omega

/-- Whether the target is a block height. -/
def isHeightRewind (conflict : Conflict) : Bool := conflict.axis = .height

def message (conflict : Conflict) : String :=
  "mismatching " ++ conflict.rule ++ " in database (have " ++ pointText conflict.stored
    ++ ", want " ++ pointText conflict.new ++ ", rewindto " ++ toString conflict.rewindTo ++ ")"

end Conflict

end ForkSchedule
