import Mathlib.Data.List.Find
import ForkSchedule.Network
import ForkSchedule.Proofs.LowestConflict
import ForkSchedule.Schedule.Field

/-!
# The axes do not interfere

What is found along an axis depends on the fields that are compared there and on the head along
that axis, and on nothing else. An upgrade can therefore neither hide nor move a conflict by height,
and the hash of the EIP150 block decides nothing at all.
-/

namespace ForkSchedule

/-- The axis along which a field is compared. The hash is never compared. -/
def Field.comparedOn : Field → Option Axis
  | chainId | daoForkSupport => some .height
  | point fork => some fork.axis
  | eip150Hash => none

namespace Schedule

/-- Two schedules have the same in every field that is compared along an axis. -/
def SameOn (axis : Axis) (first second : Schedule) : Prop :=
  ∀ field, Field.comparedOn field = some axis → first.get field = second.get field

namespace SameOn

variable {axis : Axis} {first second third : Schedule}

theorem refl (schedule : Schedule) : SameOn axis schedule schedule := fun _ _ => rfl

theorem trans (hfirst : SameOn axis first second) (hsecond : SameOn axis second third) :
    SameOn axis first third :=
  fun field hfield => (hfirst field hfield).trans (hsecond field hfield)

theorem set (schedule : Schedule) (field : Field) (value : field.kind.Data)
    (hfield : field.comparedOn ≠ some axis) : SameOn axis schedule (schedule.set field value) := by
  intro other hother
  have hne : other ≠ field := by
    rintro rfl
    exact hfield hother
  exact (get_set_of_ne schedule hne value).symm

theorem point (hsame : SameOn axis first second) (fork : Fork) (hfork : fork.axis = axis) :
    first.point fork = second.point fork :=
  hsame (.point fork) (congrArg some hfork)

theorem chainId (hsame : SameOn .height first second) : first.chainId = second.chainId :=
  hsame .chainId rfl

theorem daoForkSupport (hsame : SameOn .height first second) :
    first.daoForkSupport = second.daoForkSupport :=
  hsame .daoForkSupport rfl

end SameOn

end Schedule

open Schedule (SameOn)

variable {axis : Axis} {stored stored' new new' : Schedule}

namespace Check

variable {check : Check}

theorem conflict_congr (hstored : SameOn axis stored stored') (hnew : SameOn axis new new')
    (hcheck : check.fork.axis = axis) :
    check.conflict stored new = check.conflict stored' new' := by
  rw [conflict, conflict, hstored.point _ hcheck, hnew.point _ hcheck]

theorem fails_congr (hstored : SameOn axis stored stored') (hnew : SameOn axis new new')
    (hcheck : check.fork.axis = axis) (head : Nat) :
    check.fails stored new head = check.fails stored' new' head := by
  subst hcheck
  cases check with
  | moved fork =>
      by_cases hne : fork = .petersburg
      · subst hne
        -- Petersburg looks at the stored Constantinople as well, but that is on the same axis.
        have hown : stored.petersburg = stored'.petersburg := hstored.point .petersburg rfl
        have hmoved : new.petersburg = new'.petersburg := hnew.point .petersburg rfl
        have hother : stored.constantinople = stored'.constantinople :=
          hstored.point .constantinople rfl
        simp only [fails, hown, hmoved, hother]
      · rw [fails_moved_of_ne hne, fails_moved_of_ne hne, hstored.point fork rfl,
          hnew.point fork rfl]
  | daoSupport =>
      have hdao : stored.dao = stored'.dao := hstored.point .dao rfl
      simp only [fails, hdao, hstored.daoForkSupport, hnew.daoForkSupport]
  | chainId =>
      have heip158 : stored.eip158 = stored'.eip158 := hstored.point .eip158 rfl
      simp only [fails, heip158, hstored.chainId, hnew.chainId]

end Check

/-- A pass is determined by what it finds. -/
theorem Pass.ext {first second : Pass} (hfind : first.find = second.find) : first = second := by
  cases first
  cases second
  cases hfind
  rfl

/-- Schedules that are the same along an axis make the same pass there. -/
theorem pass_congr (hstored : SameOn axis stored stored') (hnew : SameOn axis new new') :
    pass stored new axis = pass stored' new' axis := by
  apply Pass.ext
  funext head
  have hfirst : (Check.onAxis axis).find? (·.fails stored new head) =
      (Check.onAxis axis).find? (·.fails stored' new' head) := by
    apply List.find?_congr
    intro check hcheck
    exact Check.fails_congr hstored hnew (Check.axis_fork_of_mem_onAxis hcheck) head
  simp only [pass, Check.firstConflict, hfirst]
  apply Option.map_congr
  intro check hcheck
  exact Check.conflict_congr hstored hnew
    (Check.axis_fork_of_mem_onAxis (List.mem_of_find?_eq_some hcheck))

/-- Whatever the hash and the upgrades, schedules that are the same by height have the same conflict
by height at any head of the same height. It is the one found without a timestamp, and a timestamp
conflict never goes before it. Whatever the other fields, schedules with the same upgrades have the
same conflict by timestamp at any head of the same timestamp, and none without a timestamp. -/
theorem axes_do_not_interfere (stored stored' new new' : Schedule) :
    (SameOn .height stored stored' → SameOn .height new new' →
      ∀ height timestamp timestamp',
        (checkAxes stored new height timestamp).height =
          (checkAxes stored' new' height timestamp').height ∧
        (checkAxes stored new height timestamp).height = checkHeights stored new height ∧
        ∀ conflict, (checkAxes stored new height timestamp).height = some conflict →
          checkAt stored new height timestamp = some conflict) ∧
    (SameOn .timestamp stored stored' → SameOn .timestamp new new' →
      ∀ height height' timestamp,
        (checkAxes stored new height timestamp).timestamp =
          (checkAxes stored' new' height' timestamp).timestamp) ∧
    ∀ height, (checkAxes stored new height none).timestamp = none := by
  refine ⟨?_, ?_, fun _ => rfl⟩
  · intro hstored hnew height timestamp timestamp'
    refine ⟨?_, rfl, ?_⟩
    · rw [checkAxes, checkAxes, pass_congr hstored hnew]
    · intro conflict hconflict
      rw [checkAt, AxisConflicts.first, hconflict, Option.some_or]
  · intro hstored hnew height height' timestamp
    rw [checkAxes, checkAxes, pass_congr hstored hnew]

/-- A chain identifier changes behind EIP158 and an upgrade moves. Either conflict is found beside
the other as it is found alone. -/
theorem conflicts_found_beside_each_other :
    SameOn .height { chainId := some 14, eip158 := some 4 }
      { chainId := some 14, eip158 := some 4, eip150Hash := some sharedEip150Hash,
        apricotPhase1 := some 50 } ∧
    SameOn .height { chainId := some 19, eip158 := some 4 }
      { chainId := some 19, eip158 := some 4, apricotPhase1 := some 60 } ∧
    (checkAxes { chainId := some 14, eip158 := some 4 } { chainId := some 19, eip158 := some 4 }
        10 none).height =
      (checkAxes
        { chainId := some 14, eip158 := some 4, eip150Hash := some sharedEip150Hash,
          apricotPhase1 := some 50 }
        { chainId := some 19, eip158 := some 4, apricotPhase1 := some 60 } 10 (some 90)).height ∧
    checkAt
        { chainId := some 14, eip158 := some 4, eip150Hash := some sharedEip150Hash,
          apricotPhase1 := some 50 }
        { chainId := some 19, eip158 := some 4, apricotPhase1 := some 60 } 10 (some 90) =
      some (.between "EIP158 chain ID" .height (some 4) (some 4)) ∧
    SameOn .timestamp { apricotPhase1 := some 50 }
      { chainId := some 14, apricotPhase1 := some 50 } ∧
    SameOn .timestamp { apricotPhase1 := some 60 }
      { chainId := some 19, apricotPhase1 := some 60 } ∧
    (checkAxes { apricotPhase1 := some 50 } { apricotPhase1 := some 60 } 0 (some 90)).timestamp =
      (checkAxes { chainId := some 14, apricotPhase1 := some 50 }
        { chainId := some 19, apricotPhase1 := some 60 } 10 (some 90)).timestamp := by
  have hstored : SameOn .height { chainId := some 14, eip158 := some 4 } _ :=
    (SameOn.set _ .eip150Hash (some sharedEip150Hash) (by decide)).trans
      (SameOn.set _ (.point .apricotPhase1) (some 50) (by decide))
  have hnew : SameOn .height { chainId := some 19, eip158 := some 4 } _ :=
    SameOn.set _ (.point .apricotPhase1) (some 60) (by decide)
  have hearlier : SameOn .timestamp { apricotPhase1 := some 50 } _ :=
    SameOn.set _ .chainId (some 14) (by decide)
  have hlater : SameOn .timestamp { apricotPhase1 := some 60 } _ :=
    SameOn.set _ .chainId (some 19) (by decide)
  obtain ⟨hsame, halone, -⟩ := (axes_do_not_interfere _ _ _ _).1 hstored hnew 10 none (some 90)
  obtain ⟨-, -, hfirst⟩ := (axes_do_not_interfere _ _ _ _).1 (SameOn.refl _) (SameOn.refl _) 10
    (some 90) none
  have hfound : checkHeights { chainId := some 14, eip158 := some 4 }
      { chainId := some 19, eip158 := some 4 } 10 =
        some (.between "EIP158 chain ID" .height (some 4) (some 4)) := by decide +kernel
  exact ⟨hstored, hnew, hsame, hfirst _ (hsame.symm.trans (halone.trans hfound)), hearlier, hlater,
    (axes_do_not_interfere _ _ _ _).2.1 hearlier hlater 0 10 (some 90)⟩

end ForkSchedule
