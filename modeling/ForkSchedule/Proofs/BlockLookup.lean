import Mathlib.Order.Bounds.Basic
import ForkSchedule.Proofs.ServiceEvents

/-!
# Looking up blocks by timestamp

A store is extended, cut back and given schedules directly, and services set up schedules over it.
None of this takes its genesis block away or brings its timestamps out of order; where they would
leave the words of 64 bits they stay at the last one. Halving therefore finds the last block that is
no later than a timestamp, and cutting the chain there does not change the answer.
-/

namespace ForkSchedule

namespace Chain

/-- The chains that a store attains: it starts with a genesis block, and what follows are its own
operations and the setups of any services, in any order. -/
inductive Attainable : Chain → Prop where
  | genesis (stored : Option Schedule) {timestamp : Nat} (hword : timestamp < wordLimit) :
      Attainable (genesis stored timestamp)
  | extend {chain : Chain} (count interval : Nat) (hattain : Attainable chain) :
      Attainable (chain.extend count interval)
  | rewind {chain : Chain} (height : Nat) (hattain : Attainable chain) :
      Attainable (chain.rewind height)
  | write {chain : Chain} (schedule : Schedule) (hattain : Attainable chain) :
      Attainable (chain.write schedule)
  | setup {service : Service} (new : Schedule) (hattain : Attainable service.chain) :
      Attainable (service.run (Service.setup new)).2.chain

/-- A setup does to the chain only what can be done to it directly. -/
theorem Attainable.reachable {chain : Chain} (hattain : chain.Attainable) : chain.Reachable := by
  induction hattain with
  | genesis stored hword => exact .genesis stored _
  | extend count interval _ ih => exact .extend count interval ih
  | rewind height _ ih => exact .rewind height ih
  | write schedule _ ih => exact .write schedule ih
  | setup new _ ih => exact (Service.setup_frame ih rfl).2.2

/-! ## Timestamps of 64 bits -/

/-- Every timestamp is a word. -/
def InWords (chain : Chain) : Prop := ∀ timestamp ∈ chain.timestamps, timestamp < wordLimit

theorem later_of_word {timestamp : Nat} (hword : timestamp < wordLimit) (seconds : Nat) :
    later timestamp seconds = min (timestamp + seconds) (wordLimit - 1) := by
  unfold later
  omega

theorem later_later (timestamp first second : Nat) :
    later (later timestamp first) second = later timestamp (first + second) := by
  unfold later
  omega

theorem extend_zero (chain : Chain) (interval : Nat) : chain.extend 0 interval = chain := by
  simp [Chain.extend]

/-- The last timestamp after an extension; a chain without blocks counts as one at zero. -/
theorem last_extend (chain : Chain) (count interval : Nat) :
    (chain.extend count interval).timestamps.getLast?.getD 0 =
      if count = 0 then chain.timestamps.getLast?.getD 0
      else later (chain.timestamps.getLast?.getD 0) (count * interval) := by
  cases count with
  | zero => simp [Chain.extend]
  | succ count => simp [Chain.extend, List.range_succ]

/-- The blocks of an extension come one after the other. -/
theorem timestamps_extend_succ (chain : Chain) (count interval : Nat) :
    (chain.extend (count + 1) interval).timestamps =
      (chain.extend count interval).timestamps ++
        [later ((chain.extend count interval).timestamps.getLast?.getD 0) interval] := by
  have hnext : later ((chain.extend count interval).timestamps.getLast?.getD 0) interval =
      later (chain.timestamps.getLast?.getD 0) ((count + 1) * interval) := by
    rw [last_extend]
    cases count with
    | zero => simp
    | succ count => rw [if_neg (Nat.succ_ne_zero count), later_later, Nat.succ_mul (count + 1)]
  rw [hnext]
  simp [Chain.extend, List.range_succ]

theorem getLast?_of_head {chain : Chain} {head : Head} (hhead : chain.head = .ok head) :
    chain.timestamps.getLast? = some head.timestamp := by
  obtain ⟨hlength, hlast⟩ := head_eq_ok_iff.mp hhead
  rw [List.getLast?_eq_getElem?, hlength, Nat.add_sub_cancel, hlast]

namespace InWords

variable {chain : Chain}

theorem last_lt (hwords : chain.InWords) : chain.timestamps.getLast?.getD 0 < wordLimit := by
  cases hlast : chain.timestamps.getLast? with
  | none => decide
  | some last => exact hwords last (List.mem_of_getLast? hlast)

theorem of_front {longer : Chain} (hwords : longer.InWords)
    (hfront : chain.timestamps <+: longer.timestamps) : chain.InWords :=
  fun timestamp hmem => hwords timestamp (hfront.subset hmem)

theorem extend (hwords : chain.InWords) (count interval : Nat) :
    (chain.extend count interval).InWords := by
  induction count with
  | zero => rwa [extend_zero]
  | succ count ih =>
      intro timestamp hmem
      rw [timestamps_extend_succ] at hmem
      rcases List.mem_append.mp hmem with hold | hnew
      · exact ih timestamp hold
      · rw [List.mem_singleton.mp hnew, later_of_word ih.last_lt]
        exact Nat.lt_of_le_of_lt (Nat.min_le_right _ _) (by decide)

/-- As long as the timestamps are words, the block that is added last comes an interval after the
head before it, or at the last word. -/
theorem timestamps_extend_succ {count interval : Nat} {head : Head} (hwords : chain.InWords)
    (hhead : (chain.extend count interval).head = .ok head) :
    (chain.extend (count + 1) interval).timestamps =
      (chain.extend count interval).timestamps ++
        [min (head.timestamp + interval) (wordLimit - 1)] := by
  have hlast := getLast?_of_head hhead
  have hword := (hwords.extend count interval).last_lt
  rw [hlast, Option.getD_some] at hword
  rw [Chain.timestamps_extend_succ, hlast, Option.getD_some, later_of_word hword]

end InWords

theorem Attainable.inWords {chain : Chain} (hattain : chain.Attainable) : chain.InWords := by
  induction hattain with
  | genesis stored hword =>
      intro timestamp hmem
      rwa [List.mem_singleton.mp hmem]
  | extend count interval _ ih => exact ih.extend count interval
  | rewind height _ ih => exact ih.of_front (List.take_prefix _ _)
  | write schedule _ ih => exact ih
  | setup new _ ih => exact ih.of_front (Service.front_of_setup rfl)

/-- The number of blocks that a rewind keeps may be held in a word: where it would not fit, the last
word still counts all blocks of a chain whose length is a word. -/
theorem timestamps_rewind_in_words {chain : Chain} (hlength : chain.length < wordLimit)
    (height : Nat) :
    (chain.rewind height).timestamps =
      chain.timestamps.take (min (height + 1) (wordLimit - 1)) := by
  unfold Chain.length at hlength
  rcases Nat.le_total (height + 1) (wordLimit - 1) with hle | hge
  · rw [Nat.min_eq_left hle, Chain.rewind]
  · rw [Nat.min_eq_right hge, Chain.rewind, List.take_of_length_le (by omega),
      List.take_of_length_le (by omega)]

/-! ## The last block that is no later -/

variable {chain : Chain} {height bound : Nat}

/-- The heights of the blocks that are no later than a timestamp. -/
def upTo (chain : Chain) (bound : Nat) : Set Nat :=
  {height | ∃ timestamp ≤ bound, chain.timestamps[height]? = some timestamp}

theorem upTo_mono {later : Nat} (hle : bound ≤ later) : chain.upTo bound ⊆ chain.upTo later := by
  rintro height ⟨timestamp, hbound, hblock⟩
  exact ⟨timestamp, Nat.le_trans hbound hle, hblock⟩

/-- The block that a look-up leads to becomes the head when the chain is cut there. Only genesis is
answered although it may be later than the timestamp. -/
theorem Ordered.exists_head_rewind_heightAt (hordered : chain.Ordered) (bound : Nat) :
    ∃ timestamp, chain.timestamps[chain.heightAt bound]? = some timestamp ∧
      (chain.rewind (chain.heightAt bound)).head =
        .ok { height := chain.heightAt bound, timestamp } ∧
      (timestamp ≤ bound ∨ chain.heightAt bound = 0) := by
  obtain ⟨head, hhead⟩ := hordered.exists_head
  obtain ⟨timestamp, hblock, hcut⟩ := exists_head_rewind hhead (heightAt_le_head hhead bound)
  refine ⟨timestamp, hblock, hcut, ?_⟩
  rcases Nat.eq_zero_or_pos (chain.heightAt bound) with hzero | hpos
  · exact Or.inr hzero
  · exact Or.inl ((hordered.le_heightAt_iff hpos hblock).mp (Nat.le_refl _))

/-- A look-up answers the least upper bound of the heights of the blocks that are no later. If there
are none, that is genesis. -/
theorem Ordered.isLUB_heightAt (hordered : chain.Ordered) (bound : Nat) :
    IsLUB (chain.upTo bound) (chain.heightAt bound) := by
  constructor
  · rintro height ⟨timestamp, hle, hblock⟩
    rcases Nat.eq_zero_or_pos height with rfl | hpos
    · exact Nat.zero_le _
    · exact (hordered.le_heightAt_iff hpos hblock).mpr hle
  · intro limit hlimit
    obtain ⟨timestamp, hblock, -, hle | hzero⟩ := hordered.exists_head_rewind_heightAt bound
    · exact hlimit ⟨timestamp, hle, hblock⟩
    · rw [hzero]
      exact Nat.zero_le limit

theorem Ordered.isGreatest_heightAt (hordered : chain.Ordered)
    (hsome : (chain.upTo bound).Nonempty) :
    IsGreatest (chain.upTo bound) (chain.heightAt bound) := by
  have hlub := hordered.isLUB_heightAt bound
  refine ⟨?_, hlub.1⟩
  obtain ⟨timestamp, hblock, -, hle | hzero⟩ := hordered.exists_head_rewind_heightAt bound
  · exact ⟨timestamp, hle, hblock⟩
  · -- If the answer is genesis, then genesis is the block that is no later.
    obtain ⟨height, hmem⟩ := hsome
    have hgenesis := hlub.1 hmem
    rw [hzero, Nat.le_zero] at hgenesis
    rwa [hzero, ← hgenesis]

theorem Ordered.heightAt_eq_zero (hordered : chain.Ordered)
    (hnone : ¬(chain.upTo bound).Nonempty) : chain.heightAt bound = 0 := by
  apply Nat.le_zero.mp
  apply (hordered.isLUB_heightAt bound).2
  intro height hmem
  exact absurd ⟨height, hmem⟩ hnone

theorem Ordered.heightAt_mono (hordered : chain.Ordered) {later : Nat} (hle : bound ≤ later) :
    chain.heightAt bound ≤ chain.heightAt later :=
  (hordered.isLUB_heightAt bound).mono (hordered.isLUB_heightAt later) (upTo_mono hle)

theorem Ordered.heightAt_head {head : Head} (hordered : chain.Ordered)
    (hhead : chain.head = .ok head) : chain.heightAt head.timestamp = head.height := by
  apply Nat.le_antisymm (heightAt_le_head hhead _)
  apply (hordered.isLUB_heightAt head.timestamp).1
  exact ⟨head.timestamp, Nat.le_refl _, (head_eq_ok_iff.mp hhead).2⟩

/-- No block that is early enough lies behind the answer. -/
theorem Ordered.upTo_rewind_heightAt (hordered : chain.Ordered) (bound : Nat) :
    (chain.rewind (chain.heightAt bound)).upTo bound = chain.upTo bound := by
  ext height
  constructor
  · rintro ⟨timestamp, hle, hblock⟩
    exact ⟨timestamp, hle, (getElem?_rewind_eq_some_iff.mp hblock).2⟩
  · rintro ⟨timestamp, hle, hblock⟩
    have hkept := (hordered.isLUB_heightAt bound).1 ⟨timestamp, hle, hblock⟩
    exact ⟨timestamp, hle, getElem?_rewind_eq_some_iff.mpr ⟨hkept, hblock⟩⟩

theorem Ordered.heightAt_rewind_heightAt (hordered : chain.Ordered) (bound : Nat) :
    (chain.rewind (chain.heightAt bound)).heightAt bound = chain.heightAt bound := by
  have hcut := (hordered.rewind (chain.heightAt bound)).isLUB_heightAt bound
  rw [hordered.upTo_rewind_heightAt] at hcut
  exact hcut.unique (hordered.isLUB_heightAt bound)

/-- Every chain that a store attains has a genesis block, its timestamps are words of 64 bits that
never decrease, and its head is its last block. Blocks are added one by one, each at an interval
after the head or at the last timestamp there is, and a rewind keeps exactly the blocks up to its
height, also if their number is counted in words. Looking up a timestamp leads to the last block
that is no later, or to genesis if there is none. It leads no lower for a later timestamp and to the
head for that of the head; where the chain is cut at the answer, the answer stays. -/
theorem blocks_ordered_and_looked_up (hattain : chain.Attainable) :
    (chain.Ordered ∧ chain.InWords) ∧
    (∃ timestamp, chain.timestamps[chain.length - 1]? = some timestamp ∧
      chain.head = .ok { height := chain.length - 1, timestamp }) ∧
    (∀ interval, chain.extend 0 interval = chain ∧
      ∀ count head, (chain.extend count interval).head = .ok head →
        (chain.extend (count + 1) interval).timestamps =
          (chain.extend count interval).timestamps ++
            [min (head.timestamp + interval) (wordLimit - 1)]) ∧
    (∀ height, (chain.rewind height).stored = chain.stored ∧
      (chain.rewind height).timestamps <+: chain.timestamps ∧
      (chain.rewind height).length = min chain.length (height + 1) ∧
      (chain.length < wordLimit → (chain.rewind height).timestamps =
        chain.timestamps.take (min (height + 1) (wordLimit - 1)))) ∧
    (∀ bound,
      ((chain.upTo bound).Nonempty → IsGreatest (chain.upTo bound) (chain.heightAt bound)) ∧
      (¬(chain.upTo bound).Nonempty → chain.heightAt bound = 0)) ∧
    (∀ bound later, bound ≤ later → chain.heightAt bound ≤ chain.heightAt later) ∧
    (∀ head, chain.head = .ok head → chain.heightAt head.timestamp = head.height) ∧
    ∀ bound,
      (chain.rewind (chain.heightAt bound)).heightAt bound = chain.heightAt bound ∧
      ∃ timestamp,
        (chain.rewind (chain.heightAt bound)).head =
          .ok { height := chain.heightAt bound, timestamp } ∧
        (timestamp ≤ bound ∨ chain.heightAt bound = 0) := by
  have hordered := hattain.reachable.ordered
  refine ⟨⟨hordered, hattain.inWords⟩, ?_, ?_, ?_, ?_, ?_, ?_, ?_⟩
  · obtain ⟨⟨height, timestamp⟩, hhead⟩ := hordered.exists_head
    obtain ⟨hlength, hlast⟩ := head_eq_ok_iff.mp hhead
    obtain rfl : height = chain.length - 1 := by rw [Chain.length, hlength, Nat.add_sub_cancel]
    exact ⟨timestamp, hlast, hhead⟩
  · intro interval
    exact ⟨extend_zero chain interval, fun _ _ => hattain.inWords.timestamps_extend_succ⟩
  · intro height
    have hlength : (chain.rewind height).length = min chain.length (height + 1) := by
      simp [Chain.length, Chain.rewind, Nat.min_comm]
    exact ⟨rfl, List.take_prefix _ _, hlength, fun hword => timestamps_rewind_in_words hword height⟩
  · intro bound
    exact ⟨hordered.isGreatest_heightAt, hordered.heightAt_eq_zero⟩
  · exact fun _ _ => hordered.heightAt_mono
  · exact fun _ => hordered.heightAt_head
  · intro bound
    obtain ⟨timestamp, -, hcut⟩ := hordered.exists_head_rewind_heightAt bound
    exact ⟨hordered.heightAt_rewind_heightAt bound, timestamp, hcut⟩

/-- A setup cuts off the blocks behind 140, and the three that are added then would be too late for
64 bits. Looking up 135 leads to the block at 130, and cutting the chain there leaves that as the
answer; nothing is as early as 99. -/
theorem cut_and_saturated_chain_looked_up :
    ∃ chain : Chain, chain.Attainable ∧
      chain.timestamps =
        [100, 110, 120, 130, 140, wordLimit - 1, wordLimit - 1, wordLimit - 1] ∧
      chain.Ordered ∧ chain.head = .ok { height := 7, timestamp := wordLimit - 1 } ∧
      IsGreatest (chain.upTo 135) 3 ∧ (chain.rewind 3).heightAt 135 = 3 ∧
      chain.heightAt (wordLimit - 1) = 7 ∧ chain.heightAt 99 = 0 := by
  obtain ⟨chain, hchain⟩ : ∃ chain : Chain, chain = ((Service.start {}
      ((genesis (some { apricotPhase1 := some 150 }) 100).extend 10 10)).run
        (Service.setup { apricotPhase1 := some 170 })).2.chain.extend 3 (wordLimit - 100) :=
    ⟨_, rfl⟩
  have hattain : chain.Attainable := by
    rw [hchain]
    exact .extend _ _ (.setup _ (.extend _ _ (.genesis _ (by decide))))
  have htimestamps : chain.timestamps =
      [100, 110, 120, 130, 140, wordLimit - 1, wordLimit - 1, wordLimit - 1] := by
    rw [hchain]
    decide +kernel
  have hfound : chain.heightAt 135 = 3 := by
    rw [hchain]
    decide +kernel
  have hhead : chain.head = .ok { height := 7, timestamp := wordLimit - 1 } := by
    rw [head_eq_ok_iff, htimestamps]
    exact ⟨rfl, rfl⟩
  obtain ⟨⟨hordered, -⟩, -, -, -, hgreatest, -, hlast, hcut⟩ := blocks_ordered_and_looked_up hattain
  refine ⟨chain, hattain, htimestamps, hordered, hhead, ?_, ?_, hlast _ hhead, ?_⟩
  · rw [← hfound]
    exact (hgreatest 135).1 ⟨0, 100, by decide, by rw [htimestamps]; rfl⟩
  · have hstays := (hcut 135).1
    rwa [hfound] at hstays
  · apply (hgreatest 99).2
    rintro ⟨height, timestamp, hle, hblock⟩
    have hmem := List.mem_of_getElem? hblock
    rw [htimestamps] at hmem
    have hlater : ∀ timestamp ∈
        [100, 110, 120, 130, 140, wordLimit - 1, wordLimit - 1, wordLimit - 1], 99 < timestamp := by
      decide
    exact absurd hle (Nat.not_le.mpr (hlater timestamp hmem))

end Chain

end ForkSchedule
