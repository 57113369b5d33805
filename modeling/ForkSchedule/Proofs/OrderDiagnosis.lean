import ForkSchedule.Proofs.ForkOrder

/-!
# What an order check decides and reports

A walk along the points accepts them exactly if every binding point is active wherever a point
behind it is. Otherwise it stops at the end of the shortest prefix that is refused. What it reports
there depends on the last point of this prefix and on the nearest binding one before it.
-/

namespace ForkSchedule

namespace ForkPoint

/-- The point sits at genesis if it is scheduled at all. -/
def AtGenesis (point : ForkPoint) : Prop :=
  ∀ value, point.value = some value → value = genesisHeight

theorem awayFromGenesis?_eq_none_iff {point : ForkPoint} :
    point.awayFromGenesis? = none ↔ point.AtGenesis := by
  cases hvalue : point.value with
  | none => simp [awayFromGenesis?, AtGenesis, hvalue]
  | some value => simp [awayFromGenesis?, AtGenesis, hvalue]

theorem awayFromGenesis?_eq_some_iff {point : ForkPoint} {offence : OrderError} :
    point.awayFromGenesis? = some offence ↔
      ∃ value, point.value = some value ∧ value ≠ genesisHeight ∧
        offence = .notAtGenesis point.name value := by
  cases hvalue : point.value with
  | none => simp [awayFromGenesis?, hvalue]
  | some value => simp [awayFromGenesis?, hvalue, eq_comm]

end ForkPoint

/-- Every binding point is active wherever a point behind it is. -/
def InOrder (points : List ForkPoint) : Prop :=
  points.Pairwise fun earlier later => earlier.binding = true → earlier.Precedes later

/-- The nearest point that holds back what comes behind a front. -/
def nearestBinding? (front : List ForkPoint) : Option ForkPoint := front.reverse.find? (·.binding)

/-- The error of a point that does not keep to the nearest binding one before it. -/
inductive Misplaced (front : List ForkPoint) (cur : ForkPoint) : OrderError → Prop where
  | skipped {last : ForkPoint} {value : Nat} (hlast : nearestBinding? front = some last)
      (hnone : last.value = none) (hvalue : cur.value = some value) :
      Misplaced front cur (.skipped last.name cur.name value)
  | outOfOrder {last : ForkPoint} {lastValue value : Nat}
      (hlast : nearestBinding? front = some last) (hlastValue : last.value = some lastValue)
      (hvalue : cur.value = some value) (hlt : value < lastValue) :
      Misplaced front cur (.outOfOrder last.name lastValue cur.name value)

/-- The shortest prefix of the points that a check refuses consists of `front` and `cur`. -/
structure ShortestRefused (check : List ForkPoint → Except OrderError Unit)
    (points front : List ForkPoint) (cur : ForkPoint) : Prop where
  within : front ++ [cur] <+: points
  refused : check (front ++ [cur]) ≠ .ok ()
  shortest : ∀ shorter, shorter <+: front → check shorter = .ok ()

variable {atGenesis : Bool} {start : Option ForkPoint} {points front : List ForkPoint}
  {cur : ForkPoint} {offence : OrderError}

theorem bind_offence?_eq_some_iff :
    (nearestBinding? front).bind (·.offence? cur) = some offence ↔
      Misplaced front cur offence := by
  constructor
  · intro hoffence
    obtain ⟨last, hlast, hoffence⟩ := Option.bind_eq_some_iff.mp hoffence
    unfold ForkPoint.offence? at hoffence
    split at hoffence
    next value hnone hvalue =>
      cases hoffence
      exact .skipped hlast hnone hvalue
    next lastValue value hlastValue hvalue =>
      obtain ⟨hlt, hsame⟩ := Option.ite_none_right_eq_some.mp hoffence
      cases hsame
      exact .outOfOrder hlast hlastValue hvalue hlt
    next => contradiction
  · intro hmisplaced
    cases hmisplaced with
    | skipped hlast hnone hvalue => simp [ForkPoint.offence?, hlast, hnone, hvalue]
    | outOfOrder hlast hlastValue hvalue hlt =>
        simp [ForkPoint.offence?, hlast, hlastValue, hvalue, hlt]

/-! ## Where the walk stops -/

/-- What a walk that remembers `last` reports at a point. -/
def offenceAt? (atGenesis : Bool) (last : Option ForkPoint) (cur : ForkPoint) :
    Option OrderError :=
  (if atGenesis then cur.awayFromGenesis? else none).or (last.bind (·.offence? cur))

theorem orderOffence?_cons (atGenesis : Bool) (last : Option ForkPoint) (cur : ForkPoint)
    (rest : List ForkPoint) :
    orderOffence? atGenesis last (cur :: rest) =
      (offenceAt? atGenesis last cur).or
        (orderOffence? atGenesis (if cur.binding then some cur else last) rest) := rfl

theorem nearestBinding?_cons_or (cur : ForkPoint) (front : List ForkPoint)
    (start : Option ForkPoint) :
    (nearestBinding? (cur :: front)).or start =
      (nearestBinding? front).or (if cur.binding then some cur else start) := by
  rw [nearestBinding?, List.reverse_cons, List.find?_append, Option.or_assoc]
  cases hbinding : cur.binding <;> simp [nearestBinding?, hbinding]

/-- Behind a front the walk remembers the nearest binding point. -/
theorem orderOffence?_append (start : Option ForkPoint) (front back : List ForkPoint) :
    orderOffence? atGenesis start (front ++ back) =
      (orderOffence? atGenesis start front).or
        (orderOffence? atGenesis ((nearestBinding? front).or start) back) := by
  induction front generalizing start with
  | nil => rfl
  | cons cur rest ih =>
      rw [List.cons_append, orderOffence?_cons, orderOffence?_cons, ih, Option.or_assoc,
        nearestBinding?_cons_or]

theorem exists_stop_of_orderOffence?
    (hoffence : orderOffence? atGenesis start points = some offence) :
    ∃ front cur, front ++ [cur] <+: points ∧ orderOffence? atGenesis start front = none ∧
      offenceAt? atGenesis ((nearestBinding? front).or start) cur = some offence := by
  induction points generalizing start with
  | nil => contradiction
  | cons cur rest ih =>
      rw [orderOffence?_cons] at hoffence
      -- The walk stops at once, behind an empty front, or where the rest of it does.
      rcases Option.or_eq_some_iff.mp hoffence with hhere | ⟨hnone, hlater⟩
      · exact ⟨[], cur, by simp, rfl, hhere⟩
      · obtain ⟨front, stop, hwithin, hfront, hstop⟩ := ih hlater
        refine ⟨cur :: front, stop, ?_, ?_, ?_⟩
        · exact List.cons_prefix_cons.mpr ⟨rfl, hwithin⟩
        · rw [orderOffence?_cons, hnone, hfront, Option.or_none]
        · rwa [nearestBinding?_cons_or]

theorem orderOffence?_eq_some_iff :
    orderOffence? atGenesis none points = some offence ↔
      ∃ front cur, front ++ [cur] <+: points ∧ orderOffence? atGenesis none front = none ∧
        offenceAt? atGenesis (nearestBinding? front) cur = some offence := by
  constructor
  · intro hoffence
    simpa only [Option.or_none] using exists_stop_of_orderOffence? hoffence
  · rintro ⟨front, cur, ⟨back, rfl⟩, hfront, hstop⟩
    rw [List.append_assoc, orderOffence?_append, hfront, Option.none_or, Option.or_none,
      List.singleton_append, orderOffence?_cons, hstop, Option.some_or]

theorem orderOffence?_eq_none_of_within (hwithin : front <+: points)
    (hnone : orderOffence? atGenesis none points = none) :
    orderOffence? atGenesis none front = none := by
  obtain ⟨back, rfl⟩ := hwithin
  rw [orderOffence?_append] at hnone
  exact (Option.or_eq_none_iff.mp hnone).1

theorem refuse_eq_error_iff {found : Option OrderError} :
    refuse found = .error offence ↔ found = some offence := by
  cases found <;> simp [refuse]

/-- A walk reports what it finds at the end of the shortest prefix that it refuses. -/
theorem refuse_eq_error_iff_shortest :
    refuse (orderOffence? atGenesis none points) = .error offence ↔
      ∃ front cur,
        ShortestRefused (fun points => refuse (orderOffence? atGenesis none points)) points front
          cur ∧
        offenceAt? atGenesis (nearestBinding? front) cur = some offence := by
  rw [refuse_eq_error_iff, orderOffence?_eq_some_iff]
  constructor
  · rintro ⟨front, cur, hwithin, hfront, hstop⟩
    refine ⟨front, cur, ⟨hwithin, ?_, ?_⟩, hstop⟩
    · have hrefused : orderOffence? atGenesis none (front ++ [cur]) = some offence :=
        orderOffence?_eq_some_iff.mpr ⟨front, cur, List.prefix_rfl, hfront, hstop⟩
      simp [hrefused, refuse]
    · intro shorter hshorter
      exact refuse_eq_ok_iff.mpr (orderOffence?_eq_none_of_within hshorter hfront)
  · rintro ⟨front, cur, hrefused, hstop⟩
    have hfront := refuse_eq_ok_iff.mp (hrefused.shortest front List.prefix_rfl)
    exact ⟨front, cur, hrefused.within, hfront, hstop⟩

/-! ## What the walk accepts -/

theorem InOrder.precedes_of_nearest (horder : InOrder points) (hwithin : front ++ [cur] <+: points)
    {last : ForkPoint} (hlast : nearestBinding? front = some last) : last.Precedes cur := by
  have hpairs : InOrder (front ++ [cur]) := horder.sublist hwithin.sublist
  have hmem : last ∈ front := List.mem_reverse.mp (List.mem_of_find?_eq_some hlast)
  have hbinding : last.binding = true := List.find?_some hlast
  exact (List.pairwise_append.mp hpairs).2.2 last hmem cur (List.mem_singleton_self cur) hbinding

theorem orderOffence?_eq_none_iff :
    orderOffence? atGenesis none points = none ↔
      InOrder points ∧ (atGenesis = true → ∀ point ∈ points, point.AtGenesis) := by
  constructor
  · intro hnone
    refine ⟨(precedes_of_orderOffence? hnone).2, ?_⟩
    rintro rfl
    exact eq_genesis_of_orderOffence? hnone
  · rintro ⟨horder, hplaces⟩
    apply Option.eq_none_iff_forall_not_mem.mpr
    intro offence hoffence
    -- Only the last point of a prefix offends, by its own place or by the nearest binding point.
    obtain ⟨front, cur, hwithin, -, hstop⟩ := orderOffence?_eq_some_iff.mp hoffence
    rcases Option.or_eq_some_iff.mp hstop with haway | ⟨-, hmisplaced⟩
    · obtain ⟨hgenesis, haway⟩ := Option.ite_none_right_eq_some.mp haway
      have hmem : cur ∈ points := hwithin.subset (by simp)
      rw [ForkPoint.awayFromGenesis?_eq_none_iff.mpr (hplaces hgenesis cur hmem)] at haway
      contradiction
    · obtain ⟨last, hlast, hmisplaced⟩ := Option.bind_eq_some_iff.mp hmisplaced
      have hprecedes := horder.precedes_of_nearest hwithin hlast
      rw [ForkPoint.offence?_eq_none_iff.mpr hprecedes] at hmisplaced
      contradiction

/-- Points by timestamp pass exactly if they are in order, and points by height if they all sit at
genesis besides. A check that refuses them names the last point of the shortest prefix it refuses:
its place, if forks by height are checked and it is not genesis, and otherwise the nearest binding
point before it, which is not scheduled or scheduled later. -/
theorem order_checks_decide_and_diagnose (points : List ForkPoint) :
    (checkTimestampOrder points = .ok () ↔ InOrder points) ∧
    (checkHeightOrder points = .ok () ↔
      InOrder points ∧ ∀ point ∈ points, point.AtGenesis) ∧
    (∀ offence, checkTimestampOrder points = .error offence ↔
      ∃ front cur, ShortestRefused checkTimestampOrder points front cur ∧
        Misplaced front cur offence) ∧
    ∀ offence, checkHeightOrder points = .error offence ↔
      ∃ front cur, ShortestRefused checkHeightOrder points front cur ∧
        ((∃ value, cur.value = some value ∧ value ≠ genesisHeight ∧
            offence = .notAtGenesis cur.name value) ∨
          cur.AtGenesis ∧ Misplaced front cur offence) := by
  refine ⟨?_, ?_, ?_, ?_⟩
  · rw [checkTimestampOrder, refuse_eq_ok_iff, orderOffence?_eq_none_iff]
    simp
  · rw [checkHeightOrder, refuse_eq_ok_iff, orderOffence?_eq_none_iff]
    simp
  · intro offence
    apply refuse_eq_error_iff_shortest.trans
    apply exists₂_congr
    intro front cur
    apply and_congr_right'
    exact bind_offence?_eq_some_iff
  · intro offence
    apply refuse_eq_error_iff_shortest.trans
    apply exists₂_congr
    intro front cur
    apply and_congr_right'
    rw [offenceAt?, if_pos rfl, Option.or_eq_some_iff, ForkPoint.awayFromGenesis?_eq_some_iff,
      ForkPoint.awayFromGenesis?_eq_none_iff, bind_offence?_eq_some_iff]

/-- An optional point that is not scheduled is passed over. -/
example : checkTimestampOrder [⟨"first", .timestamp, some 5, false⟩,
    ⟨"second", .timestamp, none, true⟩, ⟨"third", .timestamp, some 3, false⟩] =
      .error (.outOfOrder "first" 5 "third" 3) := rfl

end ForkSchedule
