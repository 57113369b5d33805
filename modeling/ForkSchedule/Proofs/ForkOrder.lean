import ForkSchedule.Schedule

/-!
# What a checked fork order gives

The walk along the points compares each of them only with the last binding one. Since precedence is
transitive, that puts every binding point before all points behind it.
-/

namespace ForkSchedule

namespace ForkPoint

/-- Wherever `later` is active, `earlier` is active as well. -/
def Precedes (earlier later : ForkPoint) : Prop :=
  ∀ reference, later.activeAt reference = true → earlier.activeAt reference = true

theorem Precedes.trans {first second third : ForkPoint} (hfirst : first.Precedes second)
    (hsecond : second.Precedes third) : first.Precedes third :=
  fun reference hactive => hfirst reference (hsecond reference hactive)

theorem offence?_eq_none_iff {last cur : ForkPoint} :
    last.offence? cur = none ↔ last.Precedes cur := by
  cases hcur : cur.value with
  | none => simp [offence?, Precedes, activeAt, hcur]
  | some curValue =>
      cases hlast : last.value with
      | none =>
          simp only [offence?, Precedes, activeAt, hcur, hlast, reached_some_some,
            decide_eq_true_eq, reached_none_left, Bool.false_eq_true]
          constructor
          · intro hnone
            contradiction
          · intro hprecedes
            exact (hprecedes curValue (Nat.le_refl curValue)).elim
      | some lastValue =>
          simp only [offence?, Precedes, activeAt, hcur, hlast, reached_some_some,
            decide_eq_true_eq]
          constructor
          · intro hnone reference hle
            split at hnone
            · contradiction
            next hge => omega
          · intro hprecedes
            rw [if_neg (Nat.not_lt.mpr (hprecedes curValue (Nat.le_refl curValue)))]

end ForkPoint

theorem refuse_eq_ok_iff {offence : Option OrderError} :
    refuse offence = .ok () ↔ offence = none := by
  cases offence <;> simp [refuse]

/-- A walk without offence leaves the remembered point before all points, and every binding point
before those behind it. -/
theorem precedes_of_orderOffence? {atGenesis : Bool} {last : Option ForkPoint}
    {points : List ForkPoint} (hnone : orderOffence? atGenesis last points = none) :
    (∀ earlier, last = some earlier → ∀ later ∈ points, earlier.Precedes later) ∧
      points.Pairwise fun earlier later => earlier.binding = true → earlier.Precedes later := by
  induction points generalizing last with
  | nil => simp
  | cons cur rest ih =>
      simp only [orderOffence?, Option.or_eq_none_iff] at hnone
      obtain ⟨⟨-, hcur⟩, hrest⟩ := hnone
      obtain ⟨hlast, hpairs⟩ := ih hrest
      have hbefore : ∀ earlier, last = some earlier → earlier.Precedes cur := by
        rintro earlier rfl
        exact ForkPoint.offence?_eq_none_iff.mp hcur
      -- The walk remembers the current point only if it is binding; otherwise the last one stands.
      cases hbinding : cur.binding with
      | false =>
          rw [hbinding] at hlast
          refine ⟨?_, List.pairwise_cons.mpr ⟨by simp [hbinding], hpairs⟩⟩
          intro earlier hearlier later hlater
          rcases List.mem_cons.mp hlater with rfl | hlater
          · exact hbefore earlier hearlier
          · exact hlast earlier hearlier later hlater
      | true =>
          have hcurrent : ∀ later ∈ rest, cur.Precedes later := hlast cur (by rw [hbinding]; rfl)
          refine ⟨?_, List.pairwise_cons.mpr ⟨fun later hlater _ => hcurrent later hlater, hpairs⟩⟩
          intro earlier hearlier later hlater
          rcases List.mem_cons.mp hlater with rfl | hlater
          · exact hbefore earlier hearlier
          · exact (hbefore earlier hearlier).trans (hcurrent later hlater)

theorem eq_genesis_of_orderOffence? {last : Option ForkPoint} {points : List ForkPoint}
    (hnone : orderOffence? true last points = none) :
    ∀ point ∈ points, ∀ value, point.value = some value → value = genesisHeight := by
  induction points generalizing last with
  | nil => simp
  | cons cur rest ih =>
      simp only [orderOffence?, Option.or_eq_none_iff] at hnone
      obtain ⟨⟨hplace, -⟩, hrest⟩ := hnone
      intro point hpoint value hvalue
      rcases List.mem_cons.mp hpoint with rfl | hpoint
      · by_cases hgenesis : value = genesisHeight
        · exact hgenesis
        · simp [ForkPoint.awayFromGenesis?, hvalue, hgenesis] at hplace
      · exact ih hrest point hpoint value hvalue

namespace Schedule

variable {schedule : Schedule}

theorem heightOrder_of_checkOrder (horder : schedule.checkOrder = .ok ()) :
    orderOffence? true none schedule.heightForks = none := by
  unfold checkOrder at horder
  split at horder
  next hheight => exact refuse_eq_ok_iff.mp hheight
  next => contradiction

theorem timestampOrder_of_checkOrder (horder : schedule.checkOrder = .ok ()) :
    orderOffence? false none schedule.timestampForks = none := by
  unfold checkOrder at horder
  split at horder
  next => exact refuse_eq_ok_iff.mp horder
  next => contradiction

/-- In an ordered schedule every fork by height that is scheduled at all sits at genesis. -/
theorem point_eq_genesis (horder : schedule.checkOrder = .ok ()) (fork : Fork)
    (hfork : fork.axis = .height) {value : Nat} (hvalue : schedule.point fork = some value) :
    value = genesisHeight :=
  eq_genesis_of_orderOffence? (heightOrder_of_checkOrder horder) (schedule.forkPoint fork)
    (List.mem_map_of_mem (Fork.mem_byHeight.mpr hfork)) value hvalue

/-- A walk without offence puts a mandatory fork before every fork behind it. -/
theorem precedes_of_walk {atGenesis : Bool} {forks : List Fork} {earlier later : Fork}
    (hnone : orderOffence? atGenesis none (forks.map schedule.forkPoint) = none)
    (hforks : [earlier, later].Sublist forks) (hmandatory : earlier.optional = false) :
    (schedule.forkPoint earlier).Precedes (schedule.forkPoint later) := by
  have hpair := (precedes_of_orderOffence? hnone).2.sublist (hforks.map schedule.forkPoint)
  apply List.rel_of_pairwise_cons hpair (List.mem_singleton_self _)
  simp [ForkPoint.binding, forkPoint, hmandatory]

theorem forkPoint_precedes (horder : schedule.checkOrder = .ok ()) (earlier later : Fork)
    (hforks : [earlier, later].Sublist Fork.byHeight) (hmandatory : earlier.optional = false) :
    (schedule.forkPoint earlier).Precedes (schedule.forkPoint later) :=
  precedes_of_walk (heightOrder_of_checkOrder horder) hforks hmandatory

end Schedule

end ForkSchedule
