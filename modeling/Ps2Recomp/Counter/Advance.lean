import Ps2Recomp.Counter.Ticks
import Ps2Recomp.Lib.EventDriven
import Ps2Recomp.Lib.Machine
import Mathlib.Algebra.Group.Nat.Even

/-!
# Advancing the bank in several steps

`advanceTo` is an advance of a system that generates its own edges (`bankSystem`, `advances`). Its
segments are the states it catches up from. A counter may catch up in two steps as long as no batch
of ticks drops a compare (`synchronizeInternalCounter_split`).

`Counting t` and `CaughtUp t` are what is known of a counter after an edge at `t`, and `Rested` what
is known of the bank between two operations (`rested_of_run`).
-/

namespace Ps2Recomp

open Machine EventDriven

/-! ## Results -/

namespace EeCounterAdvanceResult

instance : AddMonoid EeCounterAdvanceResult where
  add_assoc a b c := by
    show EeCounterAdvanceResult.mk _ _ _ = EeCounterAdvanceResult.mk _ _ _
    congr 1
    · exact BitVec.or_assoc _ _ _
    · exact Nat.add_assoc _ _ _
    · exact Nat.add_assoc _ _ _
  zero_add a := by
    show EeCounterAdvanceResult.mk _ _ _ = a
    congr 1
    · exact BitVec.zero_or
    · exact Nat.zero_add _
    · exact Nat.zero_add _
  add_zero a := by
    show EeCounterAdvanceResult.mk _ _ _ = a
    congr 1
    exact BitVec.or_zero
  nsmul := nsmulRec

theorem cause_or (index : CounterIndex) (raised raised' : Bool) :
    cause index (raised || raised') = cause index raised ||| cause index raised' := by
  cases raised <;> cases raised' <;> simp [cause]

theorem foldl_cause_or (indices : List CounterIndex) (raised raised' : CounterIndex → Bool)
    (mask mask' : BitVec 32) :
    indices.foldl (fun mask index => mask ||| cause index (raised index || raised' index))
        (mask ||| mask') =
      indices.foldl (fun mask index => mask ||| cause index (raised index)) mask |||
        indices.foldl (fun mask index => mask ||| cause index (raised' index)) mask' := by
  induction indices generalizing mask mask' with
  | nil => rfl
  | cons index indices ih =>
    simp only [List.foldl_cons]
    rw [← ih, cause_or]
    congr 1
    ac_rfl

/-- Two rounds over the counters. -/
theorem ofRaised_or (raised raised' : CounterIndex → Bool) :
    ofRaised (fun index => raised index || raised' index) = ofRaised raised + ofRaised raised' := by
  have hmask := foldl_cause_or (List.finRange kEeCounterCount) raised raised' 0 0
  have hzero : (0 : BitVec 32) ||| 0 = 0 := BitVec.or_zero
  rw [hzero] at hmask
  show EeCounterAdvanceResult.mk _ _ _ = EeCounterAdvanceResult.mk _ _ _
  congr 1

theorem foldl_cause_none {raised : CounterIndex → Bool} (h : ∀ index, raised index = false)
    (indices : List CounterIndex) (mask : BitVec 32) :
    indices.foldl (fun mask index => mask ||| cause index (raised index)) mask = mask := by
  induction indices generalizing mask with
  | nil => rfl
  | cons index indices ih =>
    have hzero : mask ||| 0 = mask := BitVec.or_zero
    rw [List.foldl_cons, h, cause, if_neg Bool.false_ne_true, hzero]
    exact ih mask

theorem ofRaised_none {raised : CounterIndex → Bool} (h : ∀ index, raised index = false) :
    (ofRaised raised).newlyRaisedInterruptMask = 0 := foldl_cause_none h _ 0

end EeCounterAdvanceResult

/-! ## Cycles -/

/-- A period of `2 ^ k` cycles. -/
theorem alignToRate_two_pow {cycle k : Nat} (hc : cycle ≤ maximum) (hk : k < 64) :
    alignToRate cycle (2 ^ k) = 2 ^ k * (cycle / 2 ^ k) := by
  have hpos : 0 < 2 ^ k := Nat.two_pow_pos k
  have hlt : 2 ^ k < 2 ^ 64 := Nat.pow_lt_pow_right (by decide) hk
  have hwrap : (2 ^ k + maximum) % uint64Count = 2 ^ k - 1 := by
    unfold maximum uint64Count
    omega
  have hmask : maximum - (2 ^ k - 1) = 2 ^ 64 - ((2 ^ k - 1) + 1) := by
    unfold maximum uint64Count
    omega
  unfold alignToRate
  rw [hwrap, hmask]
  apply Nat.eq_of_testBit_eq
  intro i
  rw [Nat.testBit_and, Nat.testBit_two_pow_sub_succ (by omega), Nat.testBit_two_pow_sub_one,
    Nat.testBit_two_pow_mul, Nat.testBit_div_two_pow]
  by_cases hi : i < 64
  · by_cases hki : k ≤ i
    · simp [hi, hki, Nat.not_lt.mpr hki]
    · simp [hki, Nat.lt_of_not_le hki]
  · have hbit : cycle.testBit i = false := by
      refine Nat.testBit_lt_two_pow (lt_of_le_of_lt hc ?_)
      exact lt_of_lt_of_le (by decide : maximum < 2 ^ 64) (Nat.pow_le_pow_right (by decide) (by omega))
    by_cases hki : k ≤ i
    · simp [hi, hbit, Nat.sub_add_cancel hki]
    · simp [hi, hki]

theorem alignToRate_le (cycle rate : Nat) : alignToRate cycle rate ≤ cycle := Nat.and_le_left

namespace Counter

variable {c : Counter} {a t n : Nat}

def InternalRate (rate : Nat) : Prop := rate = 2 ∨ rate = 32 ∨ rate = 512

theorem InternalRate.pos {rate : Nat} (h : InternalRate rate) : 0 < rate := by
  rcases h with rfl | rfl | rfl <;> decide

theorem InternalRate.lt_alignToRate {rate cycle : Nat} (h : InternalRate rate)
    (hc : cycle ≤ maximum) : cycle < alignToRate cycle rate + rate := by
  have halign : ∀ k < 64, cycle < alignToRate cycle (2 ^ k) + 2 ^ k := by
    intro k hk
    rw [alignToRate_two_pow hc hk]
    have hpos := Nat.two_pow_pos k
    have hmod := Nat.mod_lt cycle hpos
    have hdiv := Nat.div_add_mod cycle (2 ^ k)
    omega
  rcases h with rfl | rfl | rfl
  · exact halign 1 (by decide)
  · exact halign 5 (by decide)
  · exact halign 9 (by decide)

/-- A counter that has not caught up past `t`. -/
structure Counting (t : Nat) (c : Counter) : Prop where
  settled : Settled c
  start_le : c.startCycle ≤ t
  rate : c.clockSource ≠ 3 → InternalRate c.rate

/-- A counter with less than one tick left until `t`. -/
def CaughtUp (t : Nat) (c : Counter) : Prop := c.clockSource ≠ 3 → t < c.startCycle + c.rate

theorem Counting.mono {t' : Nat} (h : Counting t c) (hle : t ≤ t') : Counting t' c :=
  ⟨h.settled, h.start_le.trans hle, h.rate⟩

end Counter

namespace EeCounterBank

open Counter EeCounterAdvanceResult

variable {s : EeCounterBank} {c : Counter} {a b t n : Nat}

/-! ## One counter -/

theorem canCount_sameControl (s : EeCounterBank) {c' : Counter} (h : SameControl c c') :
    s.canCount c' = s.canCount c := by
  unfold canCount
  rw [h.countEnabled, h.gateEnabled, h.gateUsesVBlank, h.clockSource, h.gateMode]

/-- The ticks that a counter makes if it can count. -/
def counted (s : EeCounterBank) (n : Nat) (c : Counter) : Counter × Bool :=
  if s.canCount c then addCounterTicks n c else (c, false)

theorem internalTicks_mul_le (t : Nat) (c : Counter) :
    internalTicks t c * c.rate ≤ t - c.startCycle := Nat.div_mul_le_self _ _

theorem sameControl_counted (s : EeCounterBank) (h : Settled c) (n : Nat) :
    SameControl c (s.counted n c).1 := by
  unfold counted
  split
  · exact sameControl_addCounterTicks h n
  · exact .refl c

theorem settled_counted (s : EeCounterBank) (h : Settled c) (n : Nat) :
    Settled (s.counted n c).1 := by
  unfold counted
  split
  · exact settled_addCounterTicks h n
  · exact h

theorem counted_start (s : EeCounterBank) (h : Settled c) (n start : Nat) :
    s.counted n { c with startCycle := start } =
      ({ (s.counted n c).1 with startCycle := start }, (s.counted n c).2) := by
  have hcan : s.canCount { c with startCycle := start } = s.canCount c := rfl
  unfold counted
  rw [hcan]
  split
  · exact addCounterTicks_start h n start
  · rfl

/-- A counter with an internal clock source catches up. -/
theorem synchronizeInternalCounter_internal (s : EeCounterBank) (h : Settled c)
    (hclock : c.clockSource ≠ 3) (hle : c.startCycle ≤ t) (ht : t ≤ maximum) :
    s.synchronizeInternalCounter t c =
      ({ (s.counted (internalTicks t c) c).1 with
          startCycle := c.startCycle + internalTicks t c * c.rate },
        (s.counted (internalTicks t c) c).2) := by
  have hmul := internalTicks_mul_le t c
  have hstart : saturatingAdd c.startCycle (saturatingMultiply (internalTicks t c) c.rate) =
      c.startCycle + internalTicks t c * c.rate := by
    unfold saturatingAdd saturatingMultiply
    omega
  rw [← s.counted_start h]
  unfold synchronizeInternalCounter counted
  rw [if_neg hclock, if_neg (Nat.not_lt.mpr hle)]
  simp only
  rw [hstart]
  by_cases h0 : internalTicks t c = 0
  · have hnone : ∀ d : Counter, addCounterTicks (internalTicks t c) d = (d, false) := by
      intro d
      unfold addCounterTicks
      rw [if_pos h0]
    rw [if_neg (fun h => h.1 h0), hnone, ite_self]
  · simp only [h0, ne_eq, not_false_eq_true, true_and]

theorem sameControl_synchronizeInternalCounter (s : EeCounterBank) (h : Counting t c)
    (hle : t ≤ n) (hn : n ≤ maximum) : SameControl c (s.synchronizeInternalCounter n c).1 := by
  by_cases hclock : c.clockSource = 3
  · unfold synchronizeInternalCounter
    rw [if_pos hclock]
    exact .update c c.count c.targetAfterOverflow _
  · rw [s.synchronizeInternalCounter_internal h.settled hclock (h.start_le.trans hle) hn]
    exact (s.sameControl_counted h.settled _).trans (.update _ _ _ _)

/-- A counter that catches up has less than one tick left. -/
theorem counting_synchronizeInternalCounter (s : EeCounterBank) (h : Counting t c) (hle : t ≤ n)
    (hn : n ≤ maximum) : Counting n (s.synchronizeInternalCounter n c).1 ∧
      CaughtUp n (s.synchronizeInternalCounter n c).1 := by
  have hcontrol := sameControl_synchronizeInternalCounter s h hle hn
  have hstart := h.start_le.trans hle
  have hrate : (s.synchronizeInternalCounter n c).1.clockSource ≠ 3 →
      InternalRate (s.synchronizeInternalCounter n c).1.rate := by
    rw [hcontrol.clockSource, hcontrol.rate]
    exact h.rate
  by_cases hclock : c.clockSource = 3
  · have hsync : s.synchronizeInternalCounter n c = ({ c with startCycle := n }, false) :=
      if_pos hclock
    have hset := h.settled
    rw [hsync] at hrate ⊢
    exact ⟨⟨⟨hset.count_le, hset.target_le, hset.armed⟩, le_rfl, hrate⟩,
      fun hnot => absurd hclock hnot⟩
  · have hset := s.settled_counted h.settled (internalTicks n c)
    have hsync := s.synchronizeInternalCounter_internal h.settled hclock hstart hn
    have hmul := internalTicks_mul_le n c
    have hmod : n - c.startCycle < internalTicks n c * c.rate + c.rate := by
      have hlt := Nat.mod_lt (n - c.startCycle) (h.rate hclock).pos
      have hdiv := Nat.div_add_mod' (n - c.startCycle) c.rate
      unfold internalTicks
      omega
    rw [hsync] at hrate hcontrol ⊢
    refine ⟨⟨⟨hset.count_le, hset.target_le, hset.armed⟩, ?_, hrate⟩, fun _ => ?_⟩
    · simp only
      omega
    · rw [hcontrol.rate]
      exact lt_of_le_of_lt (by omega : n ≤ c.startCycle + (n - c.startCycle))
        (by simp only; omega)

theorem sameControl_gateEdge (vblank rising : Bool) (cycle : Nat) (c : Counter) :
    SameControl c (gateEdge vblank rising cycle c) := by
  have hreset : SameControl c (resetCounterAtGate c cycle) := .update c 0 false _
  unfold gateEdge
  split
  · exact .refl c
  · split
    · exact .update c c.count c.targetAfterOverflow _
    · split
      · exact hreset
      · exact .refl c
    · split
      · exact hreset
      · exact .refl c
    · exact hreset
    · exact .refl c

theorem counting_gateEdge (vblank rising : Bool) (h : Counting t c) (hc : CaughtUp t c)
    (ht : t ≤ maximum) : Counting t (gateEdge vblank rising t c) ∧
      CaughtUp t (gateEdge vblank rising t c) := by
  have hset := h.settled
  have halign : Counting t { c with startCycle := alignToRate t c.rate } ∧
      CaughtUp t { c with startCycle := alignToRate t c.rate } :=
    ⟨⟨⟨hset.count_le, hset.target_le, hset.armed⟩, alignToRate_le t c.rate, h.rate⟩,
      fun hclock => (h.rate hclock).lt_alignToRate ht⟩
  have hreset : Counting t (resetCounterAtGate c t) ∧ CaughtUp t (resetCounterAtGate c t) := by
    have hzero : Settled (resetCounterAtGate c t) := by
      refine ⟨Nat.zero_le _, hset.target_le, fun _ => ?_⟩
      rcases Nat.eq_zero_or_pos c.target with h0 | hpos
      · exact Or.inr ⟨rfl, h0⟩
      · exact Or.inl hpos
    by_cases h0 : c.rate ≠ 0
    · have hstart : (resetCounterAtGate c t).startCycle = alignToRate t c.rate := if_pos h0
      refine ⟨⟨hzero, hstart ▸ alignToRate_le t c.rate, h.rate⟩, fun hclock => ?_⟩
      rw [hstart]
      exact (h.rate hclock).lt_alignToRate ht
    · have hstart : (resetCounterAtGate c t).startCycle = t := if_neg h0
      refine ⟨⟨hzero, hstart.le, h.rate⟩, fun hclock => ?_⟩
      exact absurd (h.rate hclock).pos.ne' h0
  unfold gateEdge
  split
  · exact ⟨h, hc⟩
  · split
    · exact halign
    · split
      · exact hreset
      · exact ⟨h, hc⟩
    · split
      · exact hreset
      · exact ⟨h, hc⟩
    · exact hreset
    · exact ⟨h, hc⟩

theorem counting_hBlankTick (s : EeCounterBank) (h : Counting t c) (hc : CaughtUp t c) :
    Counting t (s.hBlankTick c).1 ∧ CaughtUp t (s.hBlankTick c).1 := by
  unfold hBlankTick
  split
  · rename_i hclock
    have hcontrol := sameControl_addCounterTicks h.settled 1
    have hthree : (addCounterTicks 1 c).1.clockSource = 3 := hcontrol.clockSource.trans hclock.1
    refine ⟨⟨settled_addCounterTicks h.settled 1, ?_, fun hnot => absurd hthree hnot⟩,
      fun hnot => absurd hthree hnot⟩
    rw [addCounterTicks_startCycle h.settled]
    exact h.start_le
  · exact ⟨h, hc⟩

/-! ## Catching up in two steps -/

/-- Catching up with `t` drops a compare of the counter. -/
def DropsAt (s : EeCounterBank) (t : Nat) (c : Counter) : Prop :=
  c.clockSource ≠ 3 ∧ s.canCount c = true ∧ Drops c (internalTicks t c)

theorem internalTicks_mono (hle : a ≤ t) (c : Counter) : internalTicks a c ≤ internalTicks t c :=
  Nat.div_le_div_right (Nat.sub_le_sub_right hle _)

theorem internalTicks_add (hs : c.startCycle ≤ a) (hle : a ≤ t) :
    internalTicks t c = internalTicks a c +
      (t - (c.startCycle + internalTicks a c * c.rate)) / c.rate := by
  have hmul := internalTicks_mul_le a c
  rcases Nat.eq_zero_or_pos c.rate with h0 | hpos
  · unfold internalTicks
    rw [h0, Nat.div_zero, Nat.div_zero, Nat.div_zero]
  · have hsum : t - c.startCycle =
        t - (c.startCycle + internalTicks a c * c.rate) + internalTicks a c * c.rate := by omega
    show (t - c.startCycle) / c.rate =
      internalTicks a c + (t - (c.startCycle + internalTicks a c * c.rate)) / c.rate
    rw [hsum, Nat.add_mul_div_right _ _ hpos, Nat.add_comm]

/-- Two batches that drop no compare are one batch. -/
theorem counted_add {m : Nat} (s : EeCounterBank) (h : Settled c)
    (hd : s.canCount c = true → ¬ Drops c (m + n)) :
    s.counted (m + n) c =
      ((s.counted n (s.counted m c).1).1,
        (s.counted m c).2 || (s.counted n (s.counted m c).1).2) := by
  have hcontrol := s.sameControl_counted h m
  have hcan := s.canCount_sameControl hcontrol
  by_cases hc : s.canCount c = true
  · have hd := hd hc
    have hfirst : ¬ Drops c m := fun hd' => hd (hd'.mono (Nat.le_add_right m n))
    have hm : s.counted m c = ticks m c := by
      rw [← addCounterTicks_eq_ticks h hfirst]
      exact if_pos hc
    rw [hm] at hcan ⊢
    unfold counted
    rw [hcan, if_pos hc, if_pos hc, addCounterTicks_eq_ticks h hd,
      addCounterTicks_eq_ticks (settled_ticks h m) fun hd' => hd (drops_ticks h hd')]
    exact ticks_add m n c
  · have hnone : ∀ n, s.counted n c = (c, false) := fun n => if_neg hc
    rw [hnone, hnone, hnone]
    rfl

theorem startCycle_synchronize (s : EeCounterBank) (h : Counting a c) (hclock : c.clockSource ≠ 3)
    (ha : a ≤ maximum) : (s.synchronizeInternalCounter a c).1.startCycle =
      c.startCycle + internalTicks a c * c.rate := by
  rw [s.synchronizeInternalCounter_internal h.settled hclock h.start_le ha]

/-- The ticks that are left after the first step. -/
theorem internalTicks_synchronize (s : EeCounterBank) (h : Counting a c)
    (hclock : c.clockSource ≠ 3) (hle : a ≤ t) (ht : t ≤ maximum) :
    internalTicks t (s.synchronizeInternalCounter a c).1 =
      internalTicks t c - internalTicks a c := by
  have ha : a ≤ maximum := hle.trans ht
  have hcontrol := sameControl_synchronizeInternalCounter s h le_rfl ha
  rw [internalTicks_add h.start_le hle, Nat.add_sub_cancel_left,
    ← startCycle_synchronize s h hclock ha, ← hcontrol.rate]
  rfl

/-- A counter that catches up twice makes the ticks of the two steps. -/
theorem synchronizeInternalCounter_twice (s : EeCounterBank) (h : Counting a c)
    (hclock : c.clockSource ≠ 3) (hle : a ≤ t) (ht : t ≤ maximum) :
    let rest := internalTicks t c - internalTicks a c
    let first := s.counted (internalTicks a c) c
    s.synchronizeInternalCounter t (s.synchronizeInternalCounter a c).1 =
      ({ (s.counted rest first.1).1 with
          startCycle := c.startCycle + internalTicks t c * c.rate },
        (s.counted rest first.1).2) := by
  intro rest first
  have ha : a ≤ maximum := hle.trans ht
  have hcounting := (counting_synchronizeInternalCounter s h le_rfl ha).1
  have hcontrol := sameControl_synchronizeInternalCounter s h le_rfl ha
  have hset := s.settled_counted h.settled (internalTicks a c)
  have hcount : s.counted rest (s.synchronizeInternalCounter a c).1 =
      ({ (s.counted rest first.1).1 with
          startCycle := c.startCycle + internalTicks a c * c.rate },
        (s.counted rest first.1).2) := by
    rw [s.synchronizeInternalCounter_internal h.settled hclock h.start_le ha]
    exact s.counted_start hset rest _
  have hsum : internalTicks a c + rest = internalTicks t c :=
    Nat.add_sub_cancel' (internalTicks_mono hle c)
  rw [s.synchronizeInternalCounter_internal hcounting.settled
    (hcontrol.clockSource.trans_ne hclock) (hcounting.start_le.trans hle) ht,
    s.internalTicks_synchronize h hclock hle ht, hcount, startCycle_synchronize s h hclock ha,
    hcontrol.rate, Nat.add_assoc, ← Nat.add_mul, hsum]

/-- **One counter may catch up in two steps**, if that drops no compare. -/
theorem synchronizeInternalCounter_split (s : EeCounterBank) (h : Counting a c) (hle : a ≤ t)
    (ht : t ≤ maximum) (hd : ¬ s.DropsAt t c) :
    let first := s.synchronizeInternalCounter a c
    let second := s.synchronizeInternalCounter t first.1
    second.1 = (s.synchronizeInternalCounter t c).1 ∧
      (s.synchronizeInternalCounter t c).2 = (first.2 || second.2) := by
  intro first second
  by_cases hclock : c.clockSource = 3
  · have hsync : ∀ n, s.synchronizeInternalCounter n c = ({ c with startCycle := n }, false) :=
      fun n => if_pos hclock
    have hagain : s.synchronizeInternalCounter t { c with startCycle := a } =
        ({ c with startCycle := t }, false) := if_pos hclock
    unfold second first
    rw [hsync, hsync, hagain]
    exact ⟨rfl, rfl⟩
  · have hsum : internalTicks a c + (internalTicks t c - internalTicks a c) = internalTicks t c :=
      Nat.add_sub_cancel' (internalTicks_mono hle c)
    have hbatch := s.counted_add h.settled (m := internalTicks a c)
      (n := internalTicks t c - internalTicks a c) fun hc => by
        rw [hsum]
        exact fun hd' => hd ⟨hclock, hc, hd'⟩
    rw [hsum] at hbatch
    unfold second first
    rw [s.synchronizeInternalCounter_twice h hclock hle ht,
      s.synchronizeInternalCounter_internal h.settled hclock (h.start_le.trans hle) ht,
      s.synchronizeInternalCounter_internal h.settled hclock h.start_le (hle.trans ht), hbatch]
    exact ⟨rfl, rfl⟩

/-! ## The bank as a system -/

/-- The bank after an edge at `t`. -/
structure Timed (t : Nat) (s : EeCounterBank) : Prop where
  counting : ∀ index, Counting t (s.counters index)
  caughtUp : ∀ index, CaughtUp t (s.counters index)
  edge : t ≤ s.nextEdge

theorem nextEdge_le (s : EeCounterBank) : s.nextEdge ≤ maximum :=
  (min_le_left _ _).trans (saturatingAdd_le _ _)

/-- The branch of `processEdge`. -/
def edgeAt (s : EeCounterBank) (cycle : Nat) : EeCounterBank × EeCounterAdvanceResult :=
  if s.nextVSyncEdge ≤ s.nextHSyncEdge then s.processVSyncEdge cycle else s.processHSyncEdge cycle

theorem processEdge_eq (s : EeCounterBank) :
    s.processEdge =
      (((s.synchronizeInternalCounters s.nextEdge).1.edgeAt s.nextEdge).1,
        (s.synchronizeInternalCounters s.nextEdge).2 +
          ((s.synchronizeInternalCounters s.nextEdge).1.edgeAt s.nextEdge).2) := rfl

theorem counters_synchronize (h : ∀ index, Counting t (s.counters index)) (hle : t ≤ n)
    (hn : n ≤ maximum) (index : CounterIndex) :
    Counting n ((s.synchronizeInternalCounters n).1.counters index) ∧
      CaughtUp n ((s.synchronizeInternalCounters n).1.counters index) :=
  counting_synchronizeInternalCounter s (h index) hle hn

theorem counters_edgeAt (ht : t ≤ maximum)
    (h : ∀ index, Counting t (s.counters index) ∧ CaughtUp t (s.counters index))
    (index : CounterIndex) : Counting t ((s.edgeAt t).1.counters index) ∧
      CaughtUp t ((s.edgeAt t).1.counters index) := by
  have hgate : ∀ vblank rising (c : Counter), Counting t c ∧ CaughtUp t c →
      Counting t (gateEdge vblank rising t c) ∧ CaughtUp t (gateEdge vblank rising t c) :=
    fun vblank rising c hc => counting_gateEdge vblank rising hc.1 hc.2 ht
  unfold edgeAt
  split
  · unfold processVSyncEdge
    split
    · exact hgate true true _ (h index)
    · exact hgate true false _ (h index)
  · unfold processHSyncEdge
    split
    · exact hgate false true _ (counting_hBlankTick s (h index).1 (h index).2)
    · exact hgate false false _ (h index)

theorem nextEdge_edgeAt (h : s.nextEdge < maximum) : s.nextEdge ≤ (s.edgeAt s.nextEdge).1.nextEdge := by
  have hv : s.nextEdge ≤ s.nextVSyncEdge := min_le_left _ _
  have hh : s.nextEdge ≤ s.nextHSyncEdge := min_le_right _ _
  unfold edgeAt
  split
  · exact le_min (s.nextVSyncEdge_processVSyncEdge h).le
      (hh.trans (s.nextHSyncEdge_processVSyncEdge _))
  · refine le_min ?_ (s.nextHSyncEdge_processHSyncEdge h).le
    rw [s.nextVSyncEdge_processHSyncEdge]
    exact hv

/-- The bank as a system that generates its own edges. -/
def bankSystem : System EeCounterBank EeCounterAdvanceResult where
  limit := maximum
  next := nextEdge
  sync := fun cycle s => s.synchronizeInternalCounters cycle
  edge := fun cycle s => s.edgeAt cycle
  Ready := fun t s => ∀ index, Counting t (s.counters index)
  next_sync _ _ := rfl
  ready_mono h hle := fun index => (h index).mono hle
  ready_edge {s} h := fun index =>
    (counters_edgeAt s.nextEdge_le (counters_synchronize h le_rfl s.nextEdge_le) index).1
  next_edge {s} h := nextEdge_edgeAt (s := (s.synchronizeInternalCounters s.nextEdge).1) h

theorem due_iff (b : Nat) (s : EeCounterBank) :
    bankSystem.Due b s ↔ ¬ (s.nextEdge > b ∨ s.nextEdge = maximum) := by
  rw [not_or, Nat.not_lt]
  exact and_congr_right fun _ => (lt_iff_le_and_ne.trans (and_iff_right s.nextEdge_le))

/-- `advanceTo`, but for the cycle it writes down. -/
def advanced (b : Nat) (s : EeCounterBank) : EeCounterBank × EeCounterAdvanceResult :=
  (((s.processEdges b).1.synchronizeInternalCounters b).1,
    (s.processEdges b).2 + ((s.processEdges b).1.synchronizeInternalCounters b).2)

/-- The states `advanceTo` catches up from, each with the cycle it catches up with. -/
def segments (b : Nat) (s : EeCounterBank) : List (Nat × EeCounterBank) :=
  if s.nextEdge > b ∨ s.nextEdge = maximum then [(b, s)]
  else (s.nextEdge, s) :: segments b s.processEdge.1
  termination_by s.cyclesLeft
  decreasing_by
    have hnot : ¬ (s.nextEdge > b ∨ s.nextEdge = maximum) := ‹_›
    exact s.cyclesLeft_processEdge (lt_of_le_of_ne s.nextEdge_le (not_or.mp hnot).2)

theorem advanced_stop (h : s.nextEdge > b ∨ s.nextEdge = maximum) :
    s.advanced b = s.synchronizeInternalCounters b ∧ s.segments b = [(b, s)] := by
  unfold advanced processEdges segments
  rw [if_pos h, if_pos h, zero_add]
  exact ⟨rfl, rfl⟩

theorem advanced_edge (h : ¬ (s.nextEdge > b ∨ s.nextEdge = maximum)) :
    s.advanced b =
        ((s.processEdge.1.advanced b).1, s.processEdge.2 + (s.processEdge.1.advanced b).2) ∧
      s.segments b = (s.nextEdge, s) :: s.processEdge.1.segments b := by
  have hedges : s.processEdges b =
      ((s.processEdge.1.processEdges b).1,
        s.processEdge.2 + (s.processEdge.1.processEdges b).2) := by
    conv_lhs => unfold processEdges
    rw [if_neg h]
  constructor
  · unfold advanced
    rw [hedges, add_assoc]
  · conv_lhs => unfold segments
    rw [if_neg h]

/-- **`advanceTo` is an advance of the system.** -/
theorem advances (b : Nat) (s : EeCounterBank) :
    Advances bankSystem b s (s.segments b) (s.advanced b).1 (s.advanced b).2 := by
  induction s using processEdges.induct b with
  | case1 s hstop =>
    rw [(advanced_stop hstop).1, (advanced_stop hstop).2]
    exact Advances.stop (S := bankSystem) fun hdue => (due_iff b s).mp hdue hstop
  | case2 s hgo ih =>
    rw [(advanced_edge hgo).1, (advanced_edge hgo).2, processEdge_eq]
    exact Advances.edge (S := bankSystem) ((due_iff b s).mpr hgo) ih

theorem edgeAt_currentCycle (s : EeCounterBank) (edge cycle : Nat) :
    edgeAt { s with currentCycle := cycle } edge =
      ({ (s.edgeAt edge).1 with currentCycle := cycle }, (s.edgeAt edge).2) := by
  show (if s.nextVSyncEdge ≤ s.nextHSyncEdge then
      processVSyncEdge { s with currentCycle := cycle } edge
    else processHSyncEdge { s with currentCycle := cycle } edge) = _
  unfold edgeAt
  split
  · unfold processVSyncEdge
    simp only
    split <;> rfl
  · unfold processHSyncEdge
    simp only
    split <;> rfl

theorem processEdge_currentCycle (s : EeCounterBank) (cycle : Nat) :
    processEdge { s with currentCycle := cycle } =
      ({ s.processEdge.1 with currentCycle := cycle }, s.processEdge.2) := by
  have hedge := (s.synchronizeInternalCounters s.nextEdge).1.edgeAt_currentCycle s.nextEdge cycle
  have hsync : synchronizeInternalCounters { s with currentCycle := cycle } s.nextEdge =
      ({ (s.synchronizeInternalCounters s.nextEdge).1 with currentCycle := cycle },
        (s.synchronizeInternalCounters s.nextEdge).2) := rfl
  have hnext : nextEdge { s with currentCycle := cycle } = s.nextEdge := rfl
  rw [processEdge_eq, processEdge_eq, hnext, hsync]
  simp only
  rw [hedge]

/-- The loop does not look at `m_currentCycle`. -/
theorem advanced_currentCycle (b : Nat) (s : EeCounterBank) (cycle : Nat) :
    advanced b { s with currentCycle := cycle } =
      ({ (s.advanced b).1 with currentCycle := cycle }, (s.advanced b).2) := by
  induction s using processEdges.induct b with
  | case1 s hstop =>
    rw [(advanced_stop hstop).1,
      (advanced_stop (s := { s with currentCycle := cycle }) hstop).1]
    rfl
  | case2 s hgo ih =>
    have hpass := s.processEdge_currentCycle cycle
    rw [(advanced_edge hgo).1, (advanced_edge (s := { s with currentCycle := cycle }) hgo).1,
      hpass]
    simp only
    rw [ih]

theorem advanceTo_eq (h : s.currentCycle ≤ b) :
    s.advanceTo b = ({ (s.advanced b).1 with currentCycle := b }, (s.advanced b).2) := by
  unfold advanceTo
  rw [if_neg (Nat.not_lt.mpr h)]
  rfl

/-! ## What the bank keeps -/

theorem timed_processEdge (h : Timed t s) (hlt : s.nextEdge < maximum) :
    Timed s.nextEdge s.processEdge.1 := by
  have hsync := counters_synchronize h.counting h.edge s.nextEdge_le
  have hedge := counters_edgeAt (s := (s.synchronizeInternalCounters s.nextEdge).1)
    s.nextEdge_le hsync
  rw [processEdge_eq]
  exact ⟨fun index => (hedge index).1, fun index => (hedge index).2,
    nextEdge_edgeAt (s := (s.synchronizeInternalCounters s.nextEdge).1) hlt⟩

theorem timed_advanced (h : Timed t s) (htb : t ≤ b) (hb : b ≤ maximum) :
    Timed b (s.advanced b).1 := by
  induction s using processEdges.induct b generalizing t with
  | case1 s hstop =>
    rw [(advanced_stop hstop).1]
    have hsync := counters_synchronize h.counting htb hb
    refine ⟨fun index => (hsync index).1, fun index => (hsync index).2, ?_⟩
    show b ≤ s.nextEdge
    rcases hstop with hlt | heq
    · exact hlt.le
    · exact heq ▸ hb
  | case2 s hgo ih =>
    rw [(advanced_edge hgo).1]
    obtain ⟨hle, hne⟩ := not_or.mp hgo
    exact ih (timed_processEdge h (lt_of_le_of_ne s.nextEdge_le hne)) (Nat.le_of_not_lt hle)

/-- No edge is left to process up to `t`. -/
def Ahead (t : Nat) (s : EeCounterBank) : Prop := s.nextEdge > t ∨ s.nextEdge = maximum

theorem ahead_advanced (b : Nat) (s : EeCounterBank) : Ahead b (s.advanced b).1 := by
  induction s using processEdges.induct b with
  | case1 s hstop =>
    rw [(advanced_stop hstop).1]
    exact hstop
  | case2 s hgo ih =>
    rw [(advanced_edge hgo).1]
    exact ih

/-- The bank between two operations. -/
structure Rested (s : EeCounterBank) : Prop where
  timed : Timed s.currentCycle s
  ahead : Ahead s.currentCycle s
  limit : s.currentCycle ≤ maximum

theorem rested_advanceTo (h : Rested s) (hb : b ≤ maximum) : Rested (s.advanceTo b).1 := by
  by_cases hle : s.currentCycle ≤ b
  · have htimed := timed_advanced h.timed hle hb
    rw [advanceTo_eq hle]
    exact ⟨⟨htimed.counting, htimed.caughtUp, htimed.edge⟩, ahead_advanced b s, hb⟩
  · unfold advanceTo
    rw [if_pos (Nat.lt_of_not_le hle)]
    exact h

theorem rested_reset (s : EeCounterBank) (cycle : EeTick) : Rested (s.reset cycle.val) := by
  have hcycle : cycle.val ≤ maximum := Nat.le_sub_one_of_lt cycle.isLt
  have hsettled : Settled { startCycle := cycle.val } :=
    ⟨Nat.zero_le _, le_rfl, fun _ => Or.inl (by decide : 0 < 0xffff)⟩
  have hedge : ∀ delta, 0 < delta →
      cycle.val < saturatingAdd cycle.val delta ∨ saturatingAdd cycle.val delta = maximum := by
    intro delta hpos
    unfold saturatingAdd
    omega
  refine ⟨⟨fun index => ⟨hsettled, le_rfl, fun _ => Or.inl rfl⟩, fun index _ => ?_, ?_⟩, ?_,
    hcycle⟩
  · exact Nat.lt_add_of_pos_right Nat.two_pos
  · exact le_min (le_min (Nat.le_add_right _ _) hcycle) (le_min (Nat.le_add_right _ _) hcycle)
  · have hv := hedge _ s.videoTiming.renderCycles_pos
    have hh := hedge _ s.videoTiming.hRenderCycles_pos
    have hnext : (s.reset cycle.val).nextEdge = min (saturatingAdd cycle.val s.videoTiming.renderCycles)
        (saturatingAdd cycle.val s.videoTiming.hRenderCycles) := rfl
    show (s.reset cycle.val).nextEdge > cycle.val ∨ (s.reset cycle.val).nextEdge = maximum
    rw [hnext]
    omega

/-- A new period keeps the next edge of a signal, or puts it off. -/
theorem le_preserveEndpointStart (start oldDelta newDelta : Nat) :
    saturatingAdd start oldDelta ≤
      saturatingAdd (preserveEndpointStart start oldDelta newDelta) newDelta := by
  have hle := saturatingAdd_le start oldDelta
  unfold preserveEndpointStart
  simp only
  split
  · rename_i hge
    unfold saturatingAdd at hge hle ⊢
    omega
  · rename_i hlt
    unfold saturatingAdd at hlt hle ⊢
    omega

theorem rested_configureVideoTiming (h : Rested s) (timing : EeCounterVideoTiming)
    (hb : b ≤ maximum) : Rested (s.configureVideoTiming timing b).1 := by
  obtain ⟨⟨hcounting, hcaught, hedge⟩, hahead, hlimit⟩ := rested_advanceTo h hb
  have hle : (s.advanceTo b).1.nextEdge ≤ (s.configureVideoTiming timing b).1.nextEdge :=
    le_min ((min_le_left _ _).trans (le_preserveEndpointStart _ _ _))
      ((min_le_right _ _).trans (le_preserveEndpointStart _ _ _))
  refine ⟨⟨hcounting, hcaught, hedge.trans hle⟩, ?_, hlimit⟩
  rcases hahead with hlt | heq
  · exact Or.inl (hlt.trans_le hle)
  · exact Or.inr (le_antisymm (nextEdge_le _) (heq ▸ hle))

theorem merge_le {old selectedMask selectedValue : Nat} (ho : old ≤ 0xffff)
    (hv : selectedValue ≤ 0xffff) : merge old selectedMask selectedValue ≤ 0xffff := by
  have hor : (old &&& (uint32Max - selectedMask)) ||| selectedValue < 2 ^ 16 :=
    Nat.or_lt_two_pow (lt_of_le_of_lt Nat.and_le_left (Nat.lt_succ_of_le ho))
      (Nat.lt_succ_of_le hv)
  exact Nat.le_of_lt_succ hor

theorem internalRate_rateOf (timing : EeCounterVideoTiming) (h : c.clockSource ≠ 3) :
    InternalRate (rateOf timing c) := by
  have hle : c.clockSource ≤ 3 := Nat.and_le_right
  unfold rateOf
  split
  · exact Or.inl rfl
  · exact Or.inr (Or.inl rfl)
  · exact Or.inr (Or.inr rfl)
  · rename_i h3
    exact absurd h3 h
  · rename_i h0 h1 h2 _
    have hnot : c.clockSource ≠ 0 ∧ c.clockSource ≠ 1 ∧ c.clockSource ≠ 2 := ⟨h0, h1, h2⟩
    omega

theorem counting_writeCounter (s : EeCounterBank) (h : Counting t c) (hc : CaughtUp t c)
    (ht : t ≤ maximum) (reg : EeCounterRegister) (selectedMask : Nat) {selectedValue : Nat}
    (hv : selectedValue ≤ 0xffff) :
    Counting t (s.writeCounter reg selectedMask selectedValue t c) ∧
      CaughtUp t (s.writeCounter reg selectedMask selectedValue t c) := by
  obtain ⟨⟨hcount, htarget, harmed⟩, hstart, hrate⟩ := h
  cases reg with
  | Count =>
    refine ⟨⟨⟨merge_le hcount hv, htarget, fun ha => Or.inl ?_⟩, hstart, hrate⟩, hc⟩
    exact Nat.lt_of_not_le (of_decide_eq_false ha)
  | Mode =>
    have hinternal := internalRate_rateOf s.videoTiming.toEeCounterVideoTiming
      (c := { c with mode := writtenMode c.mode selectedMask selectedValue })
    exact ⟨⟨⟨hcount, htarget, harmed⟩, alignToRate_le _ _, hinternal⟩,
      fun hclock => (hinternal hclock).lt_alignToRate ht⟩
  | Target =>
    refine ⟨⟨⟨hcount, merge_le htarget hv, fun ha => Or.inl ?_⟩, hstart, hrate⟩, hc⟩
    exact Nat.lt_of_not_le (of_decide_eq_false ha)
  | Hold => exact ⟨⟨⟨hcount, htarget, harmed⟩, hstart, hrate⟩, hc⟩

theorem rested_writeRegister (h : Rested s) (address value writeMask : Nat)
    (hle : s.currentCycle ≤ b) (hb : b ≤ maximum) :
    Rested (s.writeRegister address value b writeMask).2 := by
  have hadvance := rested_advanceTo h hb
  have hcycle : (s.advanceTo b).1.currentCycle = b := by
    rw [advanceTo_eq hle]
  obtain ⟨⟨hcounting, hcaught, hedge⟩, hahead, hlimit⟩ := hadvance
  rw [hcycle] at hcounting hcaught hedge
  unfold writeRegister
  split
  · exact h
  · rename_i decoded _
    have hvalue : (value % 2 ^ 16 &&& writeMask % 2 ^ 16) ≤ 0xffff :=
      Nat.and_le_left.trans (by omega)
    simp only
    split
    · exact rested_advanceTo h hb
    · have hwrite := counting_writeCounter (s.advanceTo b).1 (hcounting decoded.counter)
        (hcaught decoded.counter) hb decoded.reg (writeMask % 2 ^ 16) hvalue
      refine ⟨?_, hahead, hlimit⟩
      show Timed (s.advanceTo b).1.currentCycle _
      rw [hcycle]
      refine ⟨fun index => ?_, fun index => ?_, hedge⟩
      · simp only [Function.update_apply]
        split
        · exact hwrite.1
        · exact hcounting index
      · simp only [Function.update_apply]
        split
        · exact hwrite.2
        · exact hcaught index

end EeCounterBank

/-! ## Runs -/

/-- The cycles of a run do not decrease, but for a reset. -/
def BankOp.InOrder (s : EeCounterBank) (op : BankOp) : Prop :=
  match op with
  | .reset _ => True
  | op => s.currentCycle ≤ op.cycle.val

instance (s : EeCounterBank) (op : BankOp) : Decidable (BankOp.InOrder s op) := by
  unfold BankOp.InOrder
  split <;> infer_instance

namespace EeCounterBank

variable {s : EeCounterBank} {a b t : Nat}

theorem rested_step (s : EeCounterBank) (op : BankOp) (h : Rested s) (hop : BankOp.InOrder s op) :
    Rested (op.run s) := by
  have hlimit : op.cycle.val ≤ maximum := Nat.le_sub_one_of_lt op.cycle.isLt
  cases op with
  | reset currentCycle => exact rested_reset s currentCycle
  | configureVideoTiming timing currentCycle => exact rested_configureVideoTiming h timing hlimit
  | advanceTo currentCycle => exact rested_advanceTo h hlimit
  | readRegister address currentCycle =>
    show Rested (s.readRegister address currentCycle.val).2
    unfold readRegister
    split
    · exact h
    · exact rested_advanceTo h hlimit
  | writeRegister address value currentCycle writeMask =>
    exact rested_writeRegister h address value writeMask hop hlimit

theorem rested_new : Rested new := rested_reset _ 0

theorem rested_of_run {ops : List BankOp} (h : Along BankOp.run BankOp.InOrder new ops) :
    Rested (run BankOp.run new ops) := invariant rested_step rested_new h

end EeCounterBank

end Ps2Recomp
