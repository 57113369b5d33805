import ForkSchedule.Chain

/-!
# Chains that a store can hold

A store starts with a genesis block and is then extended, cut back and given schedules in any order.
Its timestamps never decrease, which is what a look-up by timestamp relies on.
-/

namespace ForkSchedule

namespace Chain

/-- The chains that come from a genesis block, in any order of steps. -/
inductive Reachable : Chain → Prop where
  | genesis (stored : Option Schedule) (timestamp : Nat) : Reachable (genesis stored timestamp)
  | extend {chain : Chain} (count interval : Nat) (hreach : Reachable chain) :
      Reachable (chain.extend count interval)
  | rewind {chain : Chain} (height : Nat) (hreach : Reachable chain) :
      Reachable (chain.rewind height)
  | write {chain : Chain} (schedule : Schedule) (hreach : Reachable chain) :
      Reachable (chain.write schedule)

/-- A chain with a genesis block whose timestamps never decrease. -/
structure Ordered (chain : Chain) : Prop where
  nonempty : chain.timestamps ≠ []
  sorted : chain.timestamps.Pairwise (· ≤ ·)

theorem le_later (timestamp seconds : Nat) : timestamp ≤ later timestamp seconds :=
  Nat.le_max_left _ _

theorem later_mono (timestamp : Nat) {first second : Nat} (hle : first ≤ second) :
    later timestamp first ≤ later timestamp second := by
  unfold later
  omega

theorem le_getLast_of_sorted {items : List Nat} {last item : Nat} (hsorted : items.Pairwise (· ≤ ·))
    (hlast : items.getLast? = some last) (hitem : item ∈ items) : item ≤ last := by
  obtain ⟨front, rfl⟩ := List.getLast?_eq_some_iff.mp hlast
  rcases List.mem_append.mp hitem with hfront | hend
  · exact (List.pairwise_append.mp hsorted).2.2 item hfront last (List.mem_singleton_self last)
  · exact Nat.le_of_eq (List.mem_singleton.mp hend)

theorem Ordered.extend {chain : Chain} (hordered : chain.Ordered) (count interval : Nat) :
    (chain.extend count interval).Ordered := by
  refine ⟨by simp [Chain.extend, hordered.nonempty], List.pairwise_append.mpr
    ⟨hordered.sorted, List.pairwise_map.mpr ?_, ?_⟩⟩
  · apply List.pairwise_lt_range.imp
    intro first second hlt
    exact later_mono _ (Nat.mul_le_mul_right interval (by omega))
  -- The first new block is no earlier than the old head, which is no earlier than the old blocks.
  · intro old hold added hadded
    obtain ⟨position, -, rfl⟩ := List.mem_map.mp hadded
    cases hlast : chain.timestamps.getLast? with
    | none => exact absurd (List.getLast?_eq_none_iff.mp hlast) hordered.nonempty
    | some last =>
        exact Nat.le_trans (le_getLast_of_sorted hordered.sorted hlast hold) (le_later _ _)

theorem Ordered.rewind {chain : Chain} (hordered : chain.Ordered) (height : Nat) :
    (chain.rewind height).Ordered where
  nonempty := by simp [Chain.rewind, hordered.nonempty]
  sorted := hordered.sorted.sublist (List.take_sublist _ _)

/-- A rewind keeps exactly the blocks up to its height. -/
theorem getElem?_rewind_eq_some_iff {chain : Chain} {target height timestamp : Nat} :
    (chain.rewind target).timestamps[height]? = some timestamp ↔
      height ≤ target ∧ chain.timestamps[height]? = some timestamp := by
  simp only [Chain.rewind, List.getElem?_take]
  by_cases hkept : height < target + 1
  · rw [if_pos hkept]
    simp [Nat.le_of_lt_succ hkept]
  · rw [if_neg hkept]
    simp only [reduceCtorEq, false_iff, not_and]
    omega

theorem Reachable.ordered {chain : Chain} (hreach : chain.Reachable) : chain.Ordered := by
  induction hreach with
  | genesis stored timestamp => exact ⟨by simp [Chain.genesis], by simp [Chain.genesis]⟩
  | extend count interval _ ih => exact ih.extend count interval
  | rewind height _ ih => exact ih.rewind height
  | write schedule _ ih => exact ⟨ih.nonempty, ih.sorted⟩

theorem le_of_sorted {items : List Nat} {first second early late : Nat}
    (hsorted : items.Pairwise (· ≤ ·)) (hle : first ≤ second)
    (hfirst : items[first]? = some early) (hsecond : items[second]? = some late) :
    early ≤ late := by
  obtain ⟨hbound, rfl⟩ := List.getElem?_eq_some_iff.mp hfirst
  obtain ⟨hbound', rfl⟩ := List.getElem?_eq_some_iff.mp hsecond
  rcases Nat.eq_or_lt_of_le hle with rfl | hlt
  · exact Nat.le_refl _
  · exact List.pairwise_iff_getElem.mp hsorted first second hbound hbound' hlt

/-- The blocks below `low` are no later than `bound`, and those from `high` on are later. -/
structure Separates (timestamps : List Nat) (bound low high : Nat) : Prop where
  before : ∀ height < low, ∀ timestamp, timestamps[height]? = some timestamp → timestamp ≤ bound
  behind : ∀ height ≥ high, ∀ timestamp, timestamps[height]? = some timestamp → bound < timestamp

/-- Halving keeps the range between the blocks that are no later and those that are. -/
theorem separates_countUpTo {timestamps : List Nat} {bound low high : Nat}
    (hsorted : timestamps.Pairwise (· ≤ ·)) (hrange : low ≤ high)
    (hhigh : high ≤ timestamps.length) (hseparates : Separates timestamps bound low high) :
    Separates timestamps bound (countUpTo bound timestamps low high)
      (countUpTo bound timestamps low high) := by
  fun_induction countUpTo bound timestamps low high with
  | case1 low high hlt middle hmiddle ih =>
      -- The block in the middle is no later than the bound, and so are all before it.
      have hbound : middle < timestamps.length := by omega
      have hpivot := List.getElem?_eq_getElem hbound
      rw [hpivot] at hmiddle
      refine ih (by omega) hhigh ⟨?_, hseparates.behind⟩
      intro height hheight timestamp hblock
      have hle := le_of_sorted hsorted (Nat.le_of_lt_succ hheight) hblock hpivot
      exact Nat.le_trans hle (by simpa using hmiddle)
  | case2 low high hlt middle hmiddle ih =>
      -- The block in the middle is later than the bound, and so are all behind it.
      have hbound : middle < timestamps.length := by omega
      have hpivot := List.getElem?_eq_getElem hbound
      rw [hpivot] at hmiddle
      refine ih (by omega) (by omega) ⟨hseparates.before, ?_⟩
      intro height hheight timestamp hblock
      have hle := le_of_sorted hsorted hheight hpivot hblock
      exact Nat.lt_of_lt_of_le (by simpa using hmiddle) hle
  | case3 low high hge =>
      obtain rfl : low = high := by omega
      exact hseparates

variable {chain : Chain} {height timestamp : Nat}

/-- Every block lies at or before the head on both axes. -/
theorem Ordered.le_head {head : Head} (hordered : chain.Ordered) (hhead : chain.head = .ok head)
    (hblock : chain.timestamps[height]? = some timestamp) :
    height ≤ head.height ∧ timestamp ≤ head.timestamp := by
  unfold Chain.head at hhead
  split at hhead
  next last hlast =>
    cases hhead
    have hbound := (List.getElem?_eq_some_iff.mp hblock).1
    exact ⟨Nat.le_sub_one_of_lt hbound,
      le_getLast_of_sorted hordered.sorted hlast (List.mem_of_getElem? hblock)⟩
  next => contradiction

theorem head_eq_ok_iff {head : Head} :
    chain.head = .ok head ↔
      chain.timestamps.length = head.height + 1 ∧
        chain.timestamps[head.height]? = some head.timestamp := by
  unfold Chain.head
  constructor
  · intro hhead
    split at hhead
    next last hlast =>
      cases hhead
      rw [List.getLast?_eq_getElem?] at hlast
      have hbound := (List.getElem?_eq_some_iff.mp hlast).1
      exact ⟨by simp only; omega, hlast⟩
    next => contradiction
  · rintro ⟨hlength, hlast⟩
    rw [List.getLast?_eq_getElem?, hlength, Nat.add_sub_cancel, hlast]

theorem eq_store_of_head {fault : Error} (hhead : chain.head = .error fault) :
    fault = .store "no genesis block" := by
  unfold Chain.head at hhead
  split at hhead
  · contradiction
  · exact (Except.error.inj hhead).symm

theorem Ordered.exists_head (hordered : chain.Ordered) : ∃ head, chain.head = .ok head := by
  have hpos := List.length_pos_iff.mpr hordered.nonempty
  have hlast := List.getElem?_eq_getElem (Nat.sub_lt hpos Nat.zero_lt_one)
  exact ⟨⟨_, _⟩, head_eq_ok_iff.mpr ⟨(Nat.sub_add_cancel hpos).symm, hlast⟩⟩

/-- A rewind to a height that the chain has makes the block there the head. -/
theorem exists_head_rewind {head : Head} (hhead : chain.head = .ok head)
    (hle : height ≤ head.height) :
    ∃ timestamp, chain.timestamps[height]? = some timestamp ∧
      (chain.rewind height).head = .ok { height, timestamp } := by
  have hlength := (head_eq_ok_iff.mp hhead).1
  have hblock := List.getElem?_eq_getElem (l := chain.timestamps) (i := height) (by omega)
  refine ⟨_, hblock, head_eq_ok_iff.mpr ⟨?_, ?_⟩⟩
  · simp only [Chain.rewind, List.length_take]
    omega
  · exact getElem?_rewind_eq_some_iff.mpr ⟨Nat.le_refl _, hblock⟩

theorem rewind_of_head_le {head : Head} (hhead : chain.head = .ok head)
    (hle : head.height ≤ height) : chain.rewind height = chain := by
  have hlength := (head_eq_ok_iff.mp hhead).1
  rw [Chain.rewind, List.take_of_length_le (by omega)]

theorem countUpTo_le (bound : Nat) (timestamps : List Nat) {low high : Nat} (hrange : low ≤ high) :
    countUpTo bound timestamps low high ≤ high := by
  fun_induction countUpTo bound timestamps low high with
  | case1 low high hlt middle hmiddle ih => exact ih (by omega)
  | case2 low high hlt middle hmiddle ih => exact Nat.le_trans (ih (by omega)) (by omega)
  | case3 low high hge => exact hrange

theorem heightAt_le_head {head : Head} (hhead : chain.head = .ok head) (bound : Nat) :
    chain.heightAt bound ≤ head.height := by
  have hlength := (head_eq_ok_iff.mp hhead).1
  have hcount := countUpTo_le bound chain.timestamps (Nat.zero_le chain.timestamps.length)
  unfold heightAt
  omega

/-- Behind genesis, the look-up of a timestamp leads past exactly the blocks that are no later. -/
theorem Ordered.le_heightAt_iff {bound : Nat} (hordered : chain.Ordered) (hpos : 1 ≤ height)
    (hblock : chain.timestamps[height]? = some timestamp) :
    height ≤ chain.heightAt bound ↔ timestamp ≤ bound := by
  have hall : Separates chain.timestamps bound 0 chain.timestamps.length := by
    refine ⟨by simp, ?_⟩
    intro position hposition found hfound
    exact absurd (List.getElem?_eq_some_iff.mp hfound).1 (Nat.not_lt.mpr hposition)
  have hcount := separates_countUpTo hordered.sorted (Nat.zero_le _) (Nat.le_refl _) hall
  unfold heightAt
  constructor
  · intro hle
    exact hcount.before height (by omega) timestamp hblock
  · intro hle
    apply Nat.le_of_not_lt
    intro hbehind
    have hlater := hcount.behind height (by omega) timestamp hblock
    omega

end Chain

end ForkSchedule
