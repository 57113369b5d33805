import ForkSchedule.Json.Token

/-!
# Skipping a JSON value

A value that nobody asks for is passed over, whatever it is and however deeply it is nested. Open
arrays and objects are kept in a list, so the depth does not matter.
-/

namespace ForkSchedule.Json

/-- An array or object whose end is still to come. -/
inductive Frame where
  | array
  | object
  deriving DecidableEq, Repr

/-- Passes over tokens until no frame is open. `ready` says that a value comes next; otherwise a
value has just ended. -/
def skipFrom : (ready : Bool) → (frames : List Frame) → List Token → Option (List Token)
  | true, frames, .null :: rest => skipFrom false frames rest
  | true, frames, .boolean _ :: rest => skipFrom false frames rest
  | true, frames, .number _ :: rest => skipFrom false frames rest
  | true, frames, .text _ :: rest => skipFrom false frames rest
  | true, frames, .openBracket :: .closeBracket :: rest => skipFrom false frames rest
  | true, frames, .openBracket :: rest => skipFrom true (.array :: frames) rest
  | true, frames, .openBrace :: .closeBrace :: rest => skipFrom false frames rest
  | true, frames, .openBrace :: .text _ :: .colon :: rest => skipFrom true (.object :: frames) rest
  | true, _, _ => none
  | false, [], rest => some rest
  | false, .array :: frames, .comma :: rest => skipFrom true (.array :: frames) rest
  | false, .array :: frames, .closeBracket :: rest => skipFrom false frames rest
  | false, .object :: frames, .comma :: .text _ :: .colon :: rest =>
    skipFrom true (.object :: frames) rest
  | false, .object :: frames, .closeBrace :: rest => skipFrom false frames rest
  | false, _ :: _, _ => none

/-- What follows the value at the front of a list of tokens. -/
def skip (tokens : List Token) : Option (List Token) := skipFrom true [] tokens

theorem skipFrom_length {ready : Bool} {frames : List Frame} {tokens left : List Token}
    (hskip : skipFrom ready frames tokens = some left) :
    left.length + (if ready then 1 else 0) ≤ tokens.length := by
  fun_induction skipFrom ready frames tokens generalizing left with
  | case9 => simp at hskip
  | case10 => simp_all
  | case15 => simp at hskip
  | case1 _ _ ih | case2 _ _ _ ih | case3 _ _ _ ih | case4 _ _ _ ih | case5 _ _ ih
  | case6 _ _ _ ih | case7 _ _ ih | case8 _ _ _ ih | case11 _ _ ih | case12 _ _ ih
  | case13 _ _ _ ih | case14 _ _ ih =>
    have := ih hskip
    simp only [List.length_cons, if_true, Bool.false_eq_true, if_false] at this ⊢
    omega

/-- Skipping takes at least one token. -/
theorem skip_length {tokens left : List Token} (hskip : skip tokens = some left) :
    left.length < tokens.length := by
  have := skipFrom_length hskip
  simp only [if_true] at this
  omega

end ForkSchedule.Json
