import ForkSchedule.Conflict.Search

/-!
# Where a search ends

A search is a loop over passes. What each of its steps keeps holds at its end, where the pass finds
nothing or only a conflict with the target that is already known. From that follow the two facts the
search is used for: it answers exactly if the first pass does, and nothing is found any more at the
target that it answers, unless that is genesis. How many passes it takes is bounded by any rank that
falls whenever a pass leads further back.
-/

namespace ForkSchedule

namespace Pass

variable (pass : Pass)

/-- A property of the state of a search that every step keeps holds where the search ends. -/
theorem search_invariant (invariant : Nat → Option Conflict → Prop)
    (hstep : ∀ point last conflict, invariant point last → pass.find point = some conflict →
      last.map (·.rewindTo) ≠ some conflict.rewindTo →
      invariant conflict.rewindTo (some conflict))
    (point : Nat) (last : Option Conflict) (hstart : invariant point last) :
    ∃ final, invariant final (pass.search point last) ∧
      ∀ conflict, pass.find final = some conflict →
        (pass.search point last).map (·.rewindTo) = some conflict.rewindTo := by
  fun_induction pass.search point last with
  | case1 point last hnone =>
      refine ⟨point, hstart, ?_⟩
      intro conflict hfound
      rw [hnone] at hfound
      contradiction
  | case2 point last conflict hfound hstays =>
      refine ⟨point, hstart, ?_⟩
      intro other hother
      rw [hfound] at hother
      cases hother
      exact hstays
  | case3 point last conflict hfound hmoves ih =>
      exact ih (hstep point last conflict hstart hfound hmoves)

end Pass

variable {pass : Pass} {head : Nat}

/-- The search answers exactly if the first pass finds something. -/
theorem lowestConflict_eq_none_iff : lowestConflict pass head = none ↔ pass.find head = none := by
  constructor
  · intro hlowest
    -- While nothing was found, the search is still at its start.
    obtain ⟨final, hfinal, hend⟩ := pass.search_invariant
      (fun point last => last = none → point = head) (by simp) head none (fun _ => rfl)
    change pass.search head none = none at hlowest
    rw [hlowest] at hfinal hend
    obtain rfl := hfinal rfl
    cases hfound : pass.find final with
    | none => rfl
    | some conflict => simpa using hend conflict hfound
  · intro hnone
    unfold lowestConflict Pass.search
    split
    · rfl
    next hfound =>
      rw [hnone] at hfound
      contradiction

/-- At its target the conflict that the search answers has left nothing to be found. Only at genesis
may the pass still find something, since there is no earlier point to go to. -/
theorem find_rewindTo_of_lowestConflict {conflict : Conflict}
    (hlowest : lowestConflict pass head = some conflict) :
    conflict.rewindTo = 0 ∨ pass.find conflict.rewindTo = none := by
  obtain ⟨final, hfinal, hend⟩ := pass.search_invariant
    (fun point last => ∀ found, last = some found → found.rewindTo = point)
    (by simp) head none (by simp)
  change pass.search head none = some conflict at hlowest
  rw [hlowest] at hfinal hend
  obtain rfl := hfinal conflict rfl
  cases hfound : pass.find conflict.rewindTo with
  | none => exact Or.inr rfl
  | some other =>
      have hsame : conflict.rewindTo = other.rewindTo := by
        simpa using hend other hfound
      rcases pass.descends hfound with hlt | hzero
      · omega
      · exact Or.inl (hsame.trans hzero)

/-- What the search answers was found by a pass on the way down. -/
theorem exists_find_of_lowestConflict {conflict : Conflict}
    (hlowest : lowestConflict pass head = some conflict) :
    ∃ point ≤ head, pass.find point = some conflict := by
  obtain ⟨final, ⟨-, hfinal⟩, -⟩ := pass.search_invariant
    (fun point last => point ≤ head ∧
      ∀ found, last = some found → ∃ passed ≤ head, pass.find passed = some found)
    (by
      intro point last found hinvariant hfound _
      have hdescends := pass.descends hfound
      refine ⟨by omega, ?_⟩
      rintro _ ⟨rfl⟩
      exact ⟨point, hinvariant.1, hfound⟩)
    head none (by simp)
  exact hfinal conflict hlowest

theorem rewindTo_of_lowestConflict {conflict : Conflict}
    (hlowest : lowestConflict pass head = some conflict) :
    conflict.rewindTo < head ∨ conflict.rewindTo = 0 := by
  obtain ⟨point, hpoint, hfound⟩ := exists_find_of_lowestConflict hlowest
  have hdescends := pass.descends hfound
  omega

/-- No later pass leads less far back than the first. -/
theorem rewindTo_le_of_find {first conflict : Conflict} (hfirst : pass.find head = some first)
    (hlowest : lowestConflict pass head = some conflict) :
    conflict.rewindTo ≤ first.rewindTo := by
  obtain ⟨final, ⟨-, hfinal⟩, -⟩ := pass.search_invariant
    (fun point last => (last = none → point = head) ∧
      ∀ found, last = some found → found.rewindTo = point ∧ point ≤ first.rewindTo)
    (by
      intro point last conflict hinvariant hfound _
      refine ⟨by simp, ?_⟩
      rintro _ ⟨rfl⟩
      refine ⟨rfl, ?_⟩
      cases last with
      | none =>
          obtain rfl := hinvariant.1 rfl
          obtain rfl := Option.some.inj (hfirst.symm.trans hfound)
          exact Nat.le_refl _
      | some found =>
          obtain ⟨-, hpoint⟩ := hinvariant.2 found rfl
          rcases pass.descends hfound with hlt | hzero <;> omega)
    head none (by simp)
  obtain ⟨hpoint, hle⟩ := hfinal conflict hlowest
  omega

/-- A point behind genesis that the search leaves untouched lies at or before a point where the pass
finds nothing. -/
theorem exists_find_eq_none_of_kept {point : Nat} (hpos : 0 < point) (hle : point ≤ head)
    (hkept : ∀ conflict, lowestConflict pass head = some conflict → point ≤ conflict.rewindTo) :
    ∃ stable, point ≤ stable ∧ pass.find stable = none := by
  cases hlowest : lowestConflict pass head with
  | none => exact ⟨head, hle, lowestConflict_eq_none_iff.mp hlowest⟩
  | some conflict =>
      have hbound := hkept conflict hlowest
      rcases find_rewindTo_of_lowestConflict hlowest with hzero | hnone
      · omega
      · exact ⟨conflict.rewindTo, hbound, hnone⟩

/-! ## How many passes a search takes -/

/-- From a state of the loop, so many passes lead to the end with `result`. Nothing is assumed about
where a pass leads to. -/
inductive EndsAfter (find : Nat → Option Conflict) :
    Nat → Nat → Option Conflict → Option Conflict → Prop where
  | nothing {point : Nat} {last : Option Conflict} (hnone : find point = none) :
      EndsAfter find 1 point last last
  | stays {point : Nat} {last : Option Conflict} {conflict : Conflict}
      (hfound : find point = some conflict)
      (hstays : last.map (·.rewindTo) = some conflict.rewindTo) :
      EndsAfter find 1 point last last
  | moves {passes point : Nat} {last result : Option Conflict} {conflict : Conflict}
      (hfound : find point = some conflict)
      (hmoves : last.map (·.rewindTo) ≠ some conflict.rewindTo)
      (hrest : EndsAfter find passes conflict.rewindTo (some conflict) result) :
      EndsAfter find (passes + 1) point last result

theorem exists_endsAfter_search (rank : Nat → Nat)
    (hrank : ∀ point conflict, pass.find point = some conflict → conflict.rewindTo < point →
      rank conflict.rewindTo < rank point)
    (point : Nat) (last : Option Conflict) (hlast : last.map (·.rewindTo) = some point) :
    ∃ passes ≤ rank point + 1, EndsAfter pass.find passes point last (pass.search point last) := by
  fun_induction pass.search point last with
  | case1 point last hnone => exact ⟨1, Nat.le_add_left 1 _, .nothing hnone⟩
  | case2 point last conflict hfound hstays =>
      exact ⟨1, Nat.le_add_left 1 _, .stays hfound hstays⟩
  | case3 point last conflict hfound hmoves ih =>
      -- A search that is already at genesis has nowhere to move to.
      have hlt : conflict.rewindTo < point := by
        have hne : point ≠ conflict.rewindTo := by
          rintro rfl
          exact hmoves hlast
        rcases pass.descends hfound with hlt | hzero <;> omega
      have hfalls := hrank point conflict hfound hlt
      obtain ⟨passes, hpasses, hrest⟩ := ih rfl
      exact ⟨passes + 1, by omega, .moves hfound hmoves hrest⟩

/-- If every target has a rank below `bound`, a search takes at most one pass more than that. -/
theorem exists_endsAfter_lowestConflict (rank : Nat → Nat) {bound : Nat}
    (hrank : ∀ point conflict, pass.find point = some conflict → conflict.rewindTo < point →
      rank conflict.rewindTo < rank point)
    (hbound : ∀ point conflict, pass.find point = some conflict → rank conflict.rewindTo < bound)
    (head : Nat) :
    ∃ passes ≤ bound + 1, EndsAfter pass.find passes head none (lowestConflict pass head) := by
  cases hfound : pass.find head with
  | none =>
      rw [lowestConflict_eq_none_iff.mpr hfound]
      exact ⟨1, Nat.le_add_left 1 _, .nothing hfound⟩
  | some conflict =>
      have hstart : lowestConflict pass head = pass.search conflict.rewindTo (some conflict) := by
        rw [lowestConflict, Pass.search]
        split
        next hnone =>
          rw [hfound] at hnone
          contradiction
        next other hother =>
          obtain rfl := Option.some.inj (hfound.symm.trans hother)
          simp
      obtain ⟨passes, hpasses, hrest⟩ := exists_endsAfter_search rank hrank
        conflict.rewindTo (some conflict) rfl
      have hbelow := hbound head conflict hfound
      rw [hstart]
      exact ⟨passes + 1, by omega, .moves hfound (by simp) hrest⟩

end ForkSchedule
