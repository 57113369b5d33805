/-!
# Activation points

A fork is scheduled at a point on some axis, or not at all. `reached` says whether it is active at
a head, and `incompatible` whether moving it would change the rules of something already imported.
Every question whether a fork is active is answered by `reached`.
-/

namespace ForkSchedule

/-- The only height at which a fork may be scheduled by height. -/
def genesisHeight : Nat := 0

/-- One more than the largest height, timestamp or chain identifier: all of them are words of
64 bits. -/
def wordLimit : Nat := 18446744073709551616

/-- A scheduled fork is active at every head from its point on. An absent fork is never active,
and nothing is active at an unknown head. -/
def reached : (fork head : Option Nat) → Bool
  | some fork, some head => decide (fork ≤ head)
  | _, _ => false

/-- A fork cannot be moved from `stored` to `new` once the head has reached either point. -/
def incompatible (stored new head : Option Nat) : Bool :=
  (reached stored head || reached new head) && stored != new

@[simp] theorem reached_some_some (fork head : Nat) :
    reached (some fork) (some head) = decide (fork ≤ head) := rfl

@[simp] theorem reached_none_left (head : Option Nat) : reached none head = false := rfl

theorem reached_eq_true_iff {fork : Option Nat} {head : Nat} :
    reached fork (some head) = true ↔ ∃ point, fork = some point ∧ point ≤ head := by
  cases fork with
  | none => simp
  | some point => simp

/-- An active fork stays active at every later head. -/
theorem reached_mono {fork : Option Nat} {head later : Nat} (hle : head ≤ later)
    (hreached : reached fork (some head) = true) : reached fork (some later) = true := by
  obtain ⟨point, rfl, hpoint⟩ := reached_eq_true_iff.mp hreached
  exact reached_eq_true_iff.mpr ⟨point, rfl, Nat.le_trans hpoint hle⟩

/-- A fork that keeps its point is compatible at every head. -/
@[simp] theorem incompatible_self (point head : Option Nat) :
    incompatible point point head = false := by
  simp [incompatible]

/-- How an activation point is shown: an absent one is `nil`. -/
def pointText : Option Nat → String
  | some point => toString point
  | none => "nil"

end ForkSchedule
