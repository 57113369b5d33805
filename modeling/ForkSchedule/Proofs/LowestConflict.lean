import Mathlib.Data.Nat.Find
import ForkSchedule.Proofs.Compatibility

/-!
# The search finds the lowest conflict

No target is ever compared with another one: a search makes the pass again at the target it was
sent to, and the pass answers the first check that fails there. The answer is nevertheless the first
among the checks with the lowest target of all that fail at the head. What carries the descent is
that the lowest check still fails right after its own target, so that it is met on the way down.
-/

namespace ForkSchedule

namespace Check

/-- The point that a check leads back to. -/
def target (stored new : Schedule) (check : Check) : Nat := (check.conflict stored new).rewindTo

/-- Of the checks that fail at a head, the first of those with the lowest target. -/
structure IsLowest (checks : List Check) (stored new : Schedule) (head : Nat) (check : Check) :
    Prop where
  least : ∀ other ∈ checks, other.fails stored new head = true →
    check.target stored new ≤ other.target stored new
  first : checks.find? (fun other => other.fails stored new head &&
    other.target stored new == check.target stored new) = some check

/-- What should be found at a head: nothing if no check fails, and else the conflict of the first
check among those with the lowest target. -/
def FindsLowest (checks : List Check) (stored new : Schedule) (head : Nat)
    (found : Option Conflict) : Prop :=
  (found = none ↔ ∀ check ∈ checks, check.fails stored new head = false) ∧
    ∀ conflict, found = some conflict →
      ∃ check, IsLowest checks stored new head check ∧ conflict = check.conflict stored new

variable {checks : List Check} {stored new : Schedule} {check : Check} {head : Nat}

theorem target_lt_of_fails (hfails : check.fails stored new head = true) :
    check.target stored new < head ∨ check.target stored new = 0 :=
  Conflict.rewindTo_between_lt _ _ (reached_of_fails hfails)

/-- Right after its target, one of the points that a check reports is reached. -/
theorem reached_after_target (hfails : check.fails stored new head = true) :
    reached (lowerPoint (stored.point check.fork) (new.point check.fork))
      (some (check.target stored new + 1)) = true := by
  obtain ⟨lower, hlower, -⟩ := reached_eq_true_iff.mp (reached_of_fails hfails)
  refine reached_eq_true_iff.mpr ⟨lower, hlower, ?_⟩
  have htarget : check.target stored new = lower - 1 := Conflict.rewindTo_between _ _ hlower
  omega

theorem IsLowest.mem (hlowest : IsLowest checks stored new head check) : check ∈ checks :=
  List.mem_of_find?_eq_some hlowest.first

theorem IsLowest.fails (hlowest : IsLowest checks stored new head check) :
    check.fails stored new head = true := by
  have hboth := List.find?_some hlowest.first
  simp only [Bool.and_eq_true] at hboth
  exact hboth.1

/-- The first element with a property is also the first with any stronger property that it has. -/
theorem find?_eq_some_of_imp {α : Type} {weak : α → Bool} {items : List α} {item : α}
    (strong : α → Bool) (hfind : items.find? weak = some item)
    (himp : ∀ other, strong other = true → weak other = true) (hitem : strong item = true) :
    items.find? strong = some item := by
  obtain ⟨-, before, after, rfl, hbefore⟩ := List.find?_eq_some_iff_append.mp hfind
  refine List.find?_eq_some_iff_append.mpr ⟨hitem, before, after, rfl, ?_⟩
  intro other hother
  have hweak := hbefore other hother
  cases hstrong : strong other with
  | false => rfl
  | true =>
      rw [himp other hstrong] at hweak
      contradiction

/-- What is found behind a front is found there only because nothing in the front has the
property. -/
theorem eq_false_of_find?_append {α : Type} {property : α → Bool} {after : List α} {item : α}
    (before : List α) (earlier : α) (hfind : (before ++ after).find? property = some item)
    (hitem : item ∉ before) (hearlier : earlier ∈ before) : property earlier = false := by
  rw [List.find?_append] at hfind
  cases hfront : before.find? property with
  | none => simpa using List.find?_eq_none.mp hfront earlier hearlier
  | some found =>
      rw [hfront, Option.some_or] at hfind
      cases hfind
      exact absurd (List.mem_of_find?_eq_some hfront) hitem

/-- The lowest check stays the lowest at any earlier head where it still fails. -/
theorem IsLowest.descend {lower : Nat} (hlowest : IsLowest checks stored new head check)
    (hle : lower ≤ head) (hfails : check.fails stored new lower = true) :
    IsLowest checks stored new lower check where
  least := fun other hother hlower => hlowest.least other hother (fails_mono hle hlower)
  first := by
    apply find?_eq_some_of_imp _ hlowest.first
    · intro other hother
      obtain ⟨hlower, htarget⟩ := Bool.and_eq_true_iff.mp hother
      rw [fails_mono hle hlower, htarget]
      rfl
    · simp [hfails]

/-- The first check that fails is the lowest if no other target lies below its own. -/
theorem IsLowest.eq_of_first {found : Check} (hlowest : IsLowest checks stored new head check)
    (hfound : checks.find? (·.fails stored new head) = some found)
    (htarget : found.target stored new = check.target stored new) : found = check := by
  have hfirst := find?_eq_some_of_imp (fun other => other.fails stored new head &&
    other.target stored new == check.target stored new) hfound
    (fun other hother => (Bool.and_eq_true_iff.mp hother).1)
    (by simp [List.find?_some hfound, htarget])
  exact Option.some.inj (hfirst.symm.trans hlowest.first)

theorem exists_isLowest (hsome : ∃ check ∈ checks, check.fails stored new head = true) :
    ∃ check, IsLowest checks stored new head check := by
  classical
  have htargets : ∃ lowest, ∃ check ∈ checks,
      check.fails stored new head = true ∧ check.target stored new = lowest := by
    obtain ⟨check, hcheck, hfails⟩ := hsome
    exact ⟨_, check, hcheck, hfails, rfl⟩
  obtain ⟨least, hleast, hfails, htarget⟩ := Nat.find_spec htargets
  have hfirst : (checks.find? fun other => other.fails stored new head &&
      other.target stored new == Nat.find htargets).isSome :=
    List.find?_isSome.mpr ⟨least, hleast, by simp [hfails, htarget]⟩
  obtain ⟨check, hcheck⟩ := Option.isSome_iff_exists.mp hfirst
  have hlowest := List.find?_some hcheck
  simp only [Bool.and_eq_true, beq_iff_eq] at hlowest
  refine ⟨check, ⟨?_, ?_⟩⟩
  · intro other hother hfails
    rw [hlowest.2]
    exact Nat.find_min' htargets ⟨other, hother, hfails, rfl⟩
  · rw [hlowest.2]
    exact hcheck

/-- Wherever a check is the lowest one, it fails already right after its own target. -/
def Prompt (checks : List Check) (stored new : Schedule) : Prop :=
  ∀ head check, IsLowest checks stored new head check →
    check.fails stored new (check.target stored new + 1) = true

/-- The states of a search above the target of the lowest check. Either that check is still ahead,
and then it is the lowest one at the point that is looked at, or its conflict was just found. -/
inductive Descent (checks : List Check) (stored new : Schedule) (check : Check) :
    Nat → Option Conflict → Prop where
  | ahead {point : Nat} {last : Option Conflict}
      (hlowest : IsLowest checks stored new point check)
      (hlast : ∀ found, last = some found →
        found.rewindTo = point ∧ check.target stored new < point) :
      Descent checks stored new check point last
  | found
      (hleast : ∀ other ∈ checks, other.fails stored new (check.target stored new) = true →
        check.target stored new ≤ other.target stored new) :
      Descent checks stored new check (check.target stored new)
        (some (check.conflict stored new))

variable {axis : Axis} {point : Nat} {last : Option Conflict} {conflict : Conflict}

theorem Descent.step (hprompt : Prompt (onAxis axis) stored new)
    (hdescent : Descent (onAxis axis) stored new check point last)
    (hfound : (pass stored new axis).find point = some conflict)
    (hmoves : last.map (·.rewindTo) ≠ some conflict.rewindTo) :
    Descent (onAxis axis) stored new check conflict.rewindTo (some conflict) := by
  obtain ⟨first, hfirst, rfl⟩ := Option.map_eq_some_iff.mp hfound
  have hmem := List.mem_of_find?_eq_some hfirst
  have hfails : first.fails stored new point = true := List.find?_some hfirst
  cases hdescent with
  | ahead hlowest hlast =>
      have hdown : first.target stored new ≤ point := by
        rcases target_lt_of_fails hfails with hlt | hzero <;> omega
      -- The pass either meets the lowest check, or stops above its target, where it still fails.
      rcases Nat.eq_or_lt_of_le (hlowest.least first hmem hfails) with heq | hlt
      · obtain rfl := hlowest.eq_of_first hfirst heq.symm
        exact .found fun other hother hlower =>
          hlowest.least other hother (fails_mono hdown hlower)
      · have hstill := fails_mono (Nat.succ_le_of_lt hlt) (hprompt point check hlowest)
        refine .ahead (hlowest.descend hdown hstill) ?_
        rintro _ ⟨rfl⟩
        exact ⟨rfl, hlt⟩
  | found hleast =>
      -- Nothing below the target fails there, so only genesis could lead on, and only to itself.
      have hsame : check.target stored new = first.target stored new := by
        have hbound := hleast first hmem hfails
        rcases target_lt_of_fails hfails with hlt | hzero <;> omega
      exact absurd (congrArg some hsame) hmoves

/-- A descent cannot end before the lowest check is found. -/
theorem Descent.eq_of_end (hdescent : Descent (onAxis axis) stored new check point last)
    (hend : ∀ conflict, (pass stored new axis).find point = some conflict →
      last.map (·.rewindTo) = some conflict.rewindTo) :
    last = some (check.conflict stored new) := by
  cases hdescent with
  | found => rfl
  | ahead hlowest hlast =>
      exfalso
      cases hfind : (pass stored new axis).find point with
      | none =>
          have hholds := find_eq_none_iff_fails.mp hfind check hlowest.mem
          rw [hlowest.fails] at hholds
          contradiction
      | some conflict =>
          obtain ⟨found, hfound, hsame⟩ := Option.map_eq_some_iff.mp (hend conflict hfind)
          -- The pass would have stayed where it was, above the target and so above genesis.
          obtain ⟨hpoint, hpositive⟩ := hlast found hfound
          rcases (pass stored new axis).descends hfind with hlt | hzero <;> omega

theorem lowestConflict_of_isLowest (hprompt : Prompt (onAxis axis) stored new)
    (hlowest : IsLowest (onAxis axis) stored new head check) :
    lowestConflict (pass stored new axis) head = some (check.conflict stored new) := by
  obtain ⟨final, hfinal, hend⟩ := (pass stored new axis).search_invariant
    (Descent (onAxis axis) stored new check)
    (fun _ _ _ hdescent hfound hmoves => hdescent.step hprompt hfound hmoves)
    head none (.ahead hlowest (by simp))
  exact hfinal.eq_of_end hend

theorem findsLowest_of_prompt (hprompt : Prompt (onAxis axis) stored new) (head : Nat) :
    FindsLowest (onAxis axis) stored new head (lowestConflict (pass stored new axis) head) := by
  refine ⟨lowestConflict_eq_none_iff.trans find_eq_none_iff_fails, ?_⟩
  intro conflict hconflict
  have hsome : ∃ check ∈ onAxis axis, check.fails stored new head = true := by
    by_contra hnone
    have hnothing : lowestConflict (pass stored new axis) head = none :=
      lowestConflict_eq_none_iff.mpr (find_eq_none_iff_fails.mpr (by simpa using hnone))
    rw [hnothing] at hconflict
    contradiction
  obtain ⟨check, hlowest⟩ := exists_isLowest hsome
  have hfound := lowestConflict_of_isLowest hprompt hlowest
  exact ⟨check, hlowest, Option.some.inj (hconflict.symm.trans hfound)⟩

/-! ## Which checks are prompt

A moved fork is prompt by itself. The two flags are, unless their fork was moved as well; but then
the moved fork is found first, with the same target. Petersburg is prompt if the stored schedule
does not place it before Constantinople. -/

theorem incompatible_eq_reached_lowerPoint (stored new : Option Nat) (head : Nat) :
    incompatible stored new (some head) =
      (reached (lowerPoint stored new) (some head) && stored != new) := by
  rw [reached_lowerPoint]
  rfl

theorem fails_moved_of_ne {fork : Fork} (hne : fork ≠ .petersburg) :
    (moved fork).fails stored new head =
      incompatible (stored.point fork) (new.point fork) (some head) := by
  cases fork with
  | petersburg => exact absurd rfl hne
  | _ => rfl

theorem moved_prompt {fork : Fork} (hne : fork ≠ .petersburg)
    (hfails : (moved fork).fails stored new head = true) :
    (moved fork).fails stored new ((moved fork).target stored new + 1) = true := by
  have hafter := reached_after_target hfails
  rw [fails_moved_of_ne hne, incompatible_eq_reached_lowerPoint] at hfails ⊢
  rw [Bool.and_eq_true_iff] at hfails ⊢
  exact ⟨hafter, hfails.2⟩

/-- The stored schedule has Petersburg nowhere, or not before Constantinople. -/
def PetersburgInOrder (stored : Schedule) : Prop :=
  stored.petersburg = none ∨ ∃ constantinople petersburg,
    stored.constantinople = some constantinople ∧ stored.petersburg = some petersburg ∧
      constantinople ≤ petersburg

/-- Right after its target Petersburg still fails if it was compared with Constantinople there. -/
theorem petersburg_fails_after_target
    (hfails : (moved .petersburg).fails stored new head = true)
    (hreached : reached (lowerPoint stored.constantinople new.petersburg)
      (some ((moved .petersburg).target stored new + 1)) = true) :
    (moved .petersburg).fails stored new ((moved .petersburg).target stored new + 1) = true := by
  have hafter := reached_after_target hfails
  obtain ⟨hown, hconstantinople⟩ := Bool.and_eq_true_iff.mp hfails
  rw [incompatible_eq_reached_lowerPoint, Bool.and_eq_true_iff] at hown hconstantinople
  apply Bool.and_eq_true_iff.mpr
  rw [incompatible_eq_reached_lowerPoint, incompatible_eq_reached_lowerPoint,
    Bool.and_eq_true_iff, Bool.and_eq_true_iff]
  exact ⟨⟨hafter, hown.2⟩, hreached, hconstantinople.2⟩

theorem petersburg_prompt (horder : PetersburgInOrder stored)
    (hfails : (moved .petersburg).fails stored new head = true) :
    (moved .petersburg).fails stored new ((moved .petersburg).target stored new + 1) = true := by
  apply petersburg_fails_after_target hfails
  have hafter := reached_after_target hfails
  -- Only a stored Petersburg before the stored Constantinople could be reached too early.
  rw [reached_lowerPoint, Bool.or_eq_true_iff] at hafter ⊢
  rcases hafter with hstored | hnew
  · left
    obtain ⟨point, hpoint, hle⟩ := reached_eq_true_iff.mp hstored
    rcases horder with hnone | ⟨constantinople, petersburg, hconst, hpet, horder⟩
    · exact absurd (hnone.symm.trans hpoint) (by simp)
    · obtain rfl := Option.some.inj (hpet.symm.trans hpoint)
      exact reached_eq_true_iff.mpr ⟨constantinople, hconst, Nat.le_trans horder hle⟩
  · exact Or.inr hnew

/-- A check is not the lowest one while another with the same target fails before it. -/
theorem IsLowest.fails_eq_false_of_earlier {after : List Check} (before : List Check)
    (earlier : Check) (hlowest : IsLowest (before ++ after) stored new head check)
    (hcheck : check ∉ before) (hearlier : earlier ∈ before)
    (htarget : earlier.target stored new = check.target stored new) :
    earlier.fails stored new head = false := by
  have hboth := eq_false_of_find?_append before earlier hlowest.first hcheck hearlier
  simpa [htarget] using hboth

theorem point_eq_of_unmoved {fork : Fork} (hne : fork ≠ .petersburg)
    (hreached : reached (lowerPoint (stored.point fork) (new.point fork)) (some head) = true)
    (hunmoved : (moved fork).fails stored new head = false) :
    stored.point fork = new.point fork := by
  rw [fails_moved_of_ne hne, incompatible_eq_reached_lowerPoint, hreached] at hunmoved
  simpa using hunmoved

theorem flag_prompt (hflag : check = .daoSupport ∨ check = .chainId)
    (hunmoved : (moved check.fork).fails stored new head = false)
    (hfails : check.fails stored new head = true) :
    check.fails stored new (check.target stored new + 1) = true := by
  have hne : check.fork ≠ .petersburg := by rcases hflag with rfl | rfl <;> decide
  have hsame := point_eq_of_unmoved hne (reached_of_fails hfails) hunmoved
  have hafter := reached_after_target hfails
  rw [← hsame, lowerPoint_self] at hafter
  rcases hflag with rfl | rfl
  · exact Bool.and_eq_true_iff.mpr ⟨hafter, (Bool.and_eq_true_iff.mp hfails).2⟩
  · exact Bool.and_eq_true_iff.mpr ⟨hafter, (Bool.and_eq_true_iff.mp hfails).2⟩

theorem prompt_height (horder : PetersburgInOrder stored) :
    Prompt (onAxis .height) stored new := by
  intro head check hlowest
  cases check with
  | moved fork =>
      by_cases hne : fork = .petersburg
      · subst hne
        exact petersburg_prompt horder hlowest.fails
      · exact moved_prompt hne hlowest.fails
  | daoSupport =>
      have hunmoved := IsLowest.fails_eq_false_of_earlier [moved .homestead, moved .dao]
        (moved .dao) hlowest (by decide) (by decide) rfl
      exact flag_prompt (Or.inl rfl) hunmoved hlowest.fails
  | chainId =>
      have hunmoved := IsLowest.fails_eq_false_of_earlier
        [moved .homestead, moved .dao, daoSupport, moved .eip150, moved .eip155, moved .eip158]
        (moved .eip158) hlowest (by decide) (by decide) rfl
      exact flag_prompt (Or.inr rfl) hunmoved hlowest.fails

theorem prompt_timestamp : Prompt (onAxis .timestamp) stored new := by
  intro head check hlowest
  obtain ⟨fork, hfork, rfl⟩ := List.mem_map.mp hlowest.mem
  have hne : fork ≠ .petersburg := by
    rintro rfl
    exact absurd hfork (by decide)
  exact moved_prompt hne hlowest.fails

end Check

/-- Along the heights the search finds the lowest conflict if the stored schedule does not place
Petersburg before Constantinople. Along the timestamps it always does. -/
theorem searches_find_lowest (stored new : Schedule) (height timestamp : Nat) :
    (Check.PetersburgInOrder stored →
      Check.FindsLowest Check.byHeight stored new height (checkHeights stored new height)) ∧
    Check.FindsLowest Check.byTimestamp stored new timestamp
      (checkAxes stored new height (some timestamp)).timestamp :=
  ⟨fun horder => Check.findsLowest_of_prompt (Check.prompt_height horder) height,
    Check.findsLowest_of_prompt Check.prompt_timestamp timestamp⟩

/-- Homestead is checked first, but Petersburg leads back further. -/
theorem search_passes_homestead_by :
    Check.PetersburgInOrder
      { homestead := some 30, constantinople := some 8, petersburg := some 10 } ∧
    Check.FindsLowest Check.byHeight
      { homestead := some 30, constantinople := some 8, petersburg := some 10 }
      { homestead := some 31, constantinople := some 8, petersburg := some 12 } 40
      (checkHeights { homestead := some 30, constantinople := some 8, petersburg := some 10 }
        { homestead := some 31, constantinople := some 8, petersburg := some 12 } 40) ∧
    (checkHeights { homestead := some 30, constantinople := some 8, petersburg := some 10 }
      { homestead := some 31, constantinople := some 8, petersburg := some 12 } 40).map
        (·.rewindTo) = some 9 := by
  have horder : Check.PetersburgInOrder
      { homestead := some 30, constantinople := some 8, petersburg := some 10 } :=
    Or.inr ⟨8, 10, rfl, rfl, by decide⟩
  exact ⟨horder, (searches_find_lowest _ _ 40 0).1 horder, by decide +kernel⟩

end ForkSchedule
