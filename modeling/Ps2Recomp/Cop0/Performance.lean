import Ps2Recomp.Cop0.Timing
import Ps2Recomp.Lib.Machine

/-!
# The performance counters

A performance counter counts modulo `2 ^ 31` and keeps its overflow in bit 31.

As long as no sum of 64 bits overflows (`SumsFit`), a synchronization sets an overflow bit exactly
from the predicted cycle on, and may be split anywhere (`performance_exact`). At the end of the
64-bit range it does not: `incrementPerformanceCounter` adds without a check, so a counter that has
been let run for nearly `2 ^ 64` cycles wraps to zero without an overflow
(`wrapped_increment_not_predicted`).
-/

namespace Ps2Recomp.Cop0Timing

open Machine

/-! ## Registers -/

theorem counted_eq (pcr : BitVec 32) : counted pcr = pcr.toNat % 2 ^ 31 := by
  have hmask : ~~~kPcrOverflow = BitVec.ofNat 32 (2 ^ 31 - 1) := by decide
  unfold counted
  rw [hmask, BitVec.toNat_and, BitVec.toNat_ofNat, Nat.mod_eq_of_lt (by decide),
    Nat.and_two_pow_sub_one_eq_mod]

theorem counted_lt (pcr : BitVec 32) : counted pcr < 2 ^ 31 := by
  rw [counted_eq]
  exact Nat.mod_lt _ (Nat.two_pow_pos 31)

theorem overflowed_iff {pcr : BitVec 32} : overflowed pcr = true ↔ 2 ^ 31 ≤ pcr.toNat := by
  have hbit : kPcrOverflow.toNat = 2 ^ 31 := by decide
  have hlt := pcr.isLt
  unfold overflowed
  rw [decide_eq_true_eq, ne_eq, ← BitVec.toNat_inj, BitVec.toNat_and, hbit, Nat.and_two_pow,
    Nat.testBit_eq_decide_div_mod_eq]
  have hzero : (0 : BitVec 32).toNat = 0 := rfl
  rw [hzero]
  by_cases hodd : pcr.toNat / 2 ^ 31 % 2 = 1
  · rw [decide_eq_true hodd, Bool.toNat_true]
    omega
  · rw [decide_eq_false hodd, Bool.toNat_false]
    omega

/-- A register is its count and its overflow bit. -/
theorem pcr_ext {pcr pcr' : BitVec 32} (hcounted : counted pcr = counted pcr')
    (hoverflowed : overflowed pcr = overflowed pcr') : pcr = pcr' := by
  rw [counted_eq, counted_eq] at hcounted
  rw [Bool.eq_iff_iff, overflowed_iff, overflowed_iff] at hoverflowed
  have hlt := pcr.isLt
  have hlt' := pcr'.isLt
  refine BitVec.eq_of_toNat_eq ?_
  omega

/-- A count with an overflow bit. -/
theorem toNat_or_overflow {count : Nat} (h : count < 2 ^ 31) (overflow : Bool) :
    (BitVec.ofNat 32 count ||| if overflow then kPcrOverflow else 0).toNat =
      count + if overflow then 2 ^ 31 else 0 := by
  have hcount : count % 2 ^ 32 = count := Nat.mod_eq_of_lt (by omega)
  cases overflow with
  | false =>
    have hzero : (0 : BitVec 32).toNat = 0 := rfl
    rw [if_neg Bool.false_ne_true, if_neg Bool.false_ne_true, BitVec.toNat_or, BitVec.toNat_ofNat,
      hcount, hzero, Nat.or_zero, Nat.add_zero]
  | true =>
    have hbit : kPcrOverflow.toNat = 2 ^ 31 * 1 := by decide
    rw [if_pos rfl, if_pos rfl, BitVec.toNat_or, BitVec.toNat_ofNat, hcount, hbit, Nat.or_comm,
      ← Nat.two_pow_add_eq_or_of_lt h]
    omega

section Increment

variable {pcr : BitVec 32} {n m : Nat}

theorem toNat_incremented (h : counted pcr + n < uint64Count) :
    (incremented pcr n).toNat = (counted pcr + n) % 2 ^ 31 +
      if overflowed pcr || decide (2 ^ 31 ≤ counted pcr + n) then 2 ^ 31 else 0 := by
  unfold incremented
  rw [Nat.mod_eq_of_lt h]
  exact toNat_or_overflow (Nat.mod_lt _ (Nat.two_pow_pos 31)) _

theorem counted_incremented (h : counted pcr + n < uint64Count) :
    counted (incremented pcr n) = (counted pcr + n) % 2 ^ 31 := by
  rw [counted_eq (incremented pcr n), toNat_incremented h]
  split <;> omega

theorem overflowed_incremented (h : counted pcr + n < uint64Count) :
    overflowed (incremented pcr n) = (overflowed pcr || decide (2 ^ 31 ≤ counted pcr + n)) := by
  have hmod := Nat.mod_lt (counted pcr + n) (Nat.two_pow_pos 31)
  rw [Bool.eq_iff_iff, overflowed_iff, toNat_incremented h]
  split
  · rename_i hoverflow
    exact iff_of_true (by omega) hoverflow
  · rename_i hno
    exact iff_of_false (by omega) hno

/-- An overflow bit that is set stays set, even if the sum wraps. -/
theorem overflowed_incremented_of (h : overflowed pcr = true) (n : Nat) :
    overflowed (incremented pcr n) = true := by
  have hor := toNat_or_overflow
    (Nat.mod_lt ((counted pcr + n) % uint64Count) (Nat.two_pow_pos 31)) true
  have hvalue : incremented pcr n =
      BitVec.ofNat 32 ((counted pcr + n) % uint64Count % 2 ^ 31) |||
        if true then kPcrOverflow else 0 := by
    unfold incremented
    rw [h]
    rfl
  rw [overflowed_iff, hvalue, hor]
  exact Nat.le_add_left _ _

theorem incremented_zero (pcr : BitVec 32) : incremented pcr 0 = pcr := by
  have hlt := counted_lt pcr
  have hfits : counted pcr + 0 < uint64Count := hlt.trans (by decide)
  refine pcr_ext ?_ ?_
  · rw [counted_incremented hfits, Nat.add_zero, Nat.mod_eq_of_lt hlt]
  · rw [overflowed_incremented hfits, Nat.add_zero, decide_eq_false (Nat.not_le.mpr hlt),
      Bool.or_false]

/-- **Two increments are one**, if their sum fits. -/
theorem incremented_incremented (h : counted pcr + (m + n) < uint64Count) :
    incremented (incremented pcr m) n = incremented pcr (m + n) := by
  have hm : counted pcr + m < uint64Count := by omega
  have hmod := Nat.mod_le (counted pcr + m) (2 ^ 31)
  have hn : counted (incremented pcr m) + n < uint64Count := by
    rw [counted_incremented hm]
    omega
  refine pcr_ext ?_ ?_
  · rw [counted_incremented hn, counted_incremented h, counted_incremented hm]
    omega
  · rw [overflowed_incremented hn, overflowed_incremented h, overflowed_incremented hm,
      counted_incremented hm, Bool.or_assoc]
    congr 1
    rw [Bool.eq_iff_iff, Bool.or_eq_true, decide_eq_true_eq, decide_eq_true_eq, decide_eq_true_eq]
    omega

end Increment

/-! ## A synchronization -/

variable (s : Cop0Timing) {a c : EeTick} {status : BitVec 32}

/-- The cycles a synchronization counts for a counter. -/
def elapsed (c : EeTick) (minimumIncrement : Bool) (k : Fin 2) : Nat :=
  if minimumIncrement && c.val - (s.lastPerformanceCycle k).val = 0 then 1
  else c.val - (s.lastPerformanceCycle k).val

/-- A counter after a synchronization. -/
def synchronizedPcr (c : EeTick) (status : BitVec 32) (minimumIncrement : Bool) (k : Fin 2) :
    BitVec 32 :=
  if s.canCount k status then incremented (s.pcr k) (s.elapsed c minimumIncrement k) else s.pcr k

/-- The bit of a counter in the overflow mask: set if the counter has overflowed since. -/
def newly (pcr pcr' : BitVec 32) (k : Fin 2) : BitVec 8 :=
  if !overflowed pcr && overflowed pcr' then 1 <<< k.val else 0

theorem raises_eq (pcr : BitVec 32) (n : Nat) :
    (!overflowed pcr &&
        decide ((counted pcr + n) % uint64Count ≥ kPerformanceCounterModulus)) =
      (!overflowed pcr && overflowed (incremented pcr n)) := by
  cases hoverflowed : overflowed pcr with
  | true => rfl
  | false =>
    have hor := toNat_or_overflow
      (Nat.mod_lt ((counted pcr + n) % uint64Count) (Nat.two_pow_pos 31))
      (decide ((counted pcr + n) % uint64Count ≥ kPerformanceCounterModulus))
    have hmod := Nat.mod_lt ((counted pcr + n) % uint64Count) (Nat.two_pow_pos 31)
    rw [Bool.not_false, Bool.true_and, Bool.true_and, Bool.eq_iff_iff, overflowed_iff]
    unfold incremented
    simp only [hoverflowed, Bool.false_or]
    rw [hor]
    split
    · rename_i hraises
      exact iff_of_true hraises (by omega)
    · rename_i hno
      exact iff_of_false hno (by omega)

theorem synchronizeCounter_eq (c : EeTick) (status : BitVec 32) (m : Bool) (k : Fin 2) :
    s.synchronizeCounter c status m k =
      ({ s with
          pcr := Function.update s.pcr k (s.synchronizedPcr c status m k)
          lastPerformanceCycle := Function.update s.lastPerformanceCycle k c },
        { performanceOverflowMask := newly (s.pcr k) (s.synchronizedPcr c status m k) k }) := by
  have helapsed : (if s.lastPerformanceCycle k ≤ c then
      c.val - (s.lastPerformanceCycle k).val else 0) = c.val - (s.lastPerformanceCycle k).val := by
    split
    · rfl
    · rename_i hlt
      have : c.val < (s.lastPerformanceCycle k).val := Fin.not_le.mp hlt
      omega
  have hsame : ∀ pcr : BitVec 32, newly pcr pcr k = 0 := by
    intro pcr
    unfold newly
    cases overflowed pcr <;> rfl
  unfold synchronizeCounter
  simp only [helapsed]
  unfold synchronizedPcr
  split
  · show (_ : Cop0Timing × Cop0TimingAdvanceResult) = _
    have hdef : (if (m && decide (c.val - (s.lastPerformanceCycle k).val = 0)) = true then 1
        else c.val - (s.lastPerformanceCycle k).val) = s.elapsed c m k := rfl
    rw [hdef]
    by_cases hzero : s.elapsed c m k = 0
    · simp only [hzero, ne_eq, not_true_eq_false, if_false, incremented_zero, hsame,
        Function.update_eq_self]
    · simp only [ne_eq, hzero, not_false_eq_true, if_true, incrementPerformanceCounter, if_false,
        raises_eq]
      rfl
  · simp only [hsame, Function.update_eq_self]

/-- **What a synchronization does**, counter by counter. -/
theorem synchronizePerformance_eq (c : EeTick) (status : BitVec 32) (m : Bool) :
    s.synchronizePerformance c status m =
      ({ s with
          pcr := s.synchronizedPcr c status m
          lastPerformanceCycle := fun _ => c },
        { performanceOverflowMask :=
            newly (s.pcr 0) (s.synchronizedPcr c status m 0) 0 |||
              newly (s.pcr 1) (s.synchronizedPcr c status m 1) 1 }) := by
  have hne : (1 : Fin 2) ≠ 0 := by decide
  have hother : synchronizedPcr { s with
      pcr := Function.update s.pcr 0 (s.synchronizedPcr c status m 0)
      lastPerformanceCycle := Function.update s.lastPerformanceCycle 0 c } c status m 1 =
      s.synchronizedPcr c status m 1 := by
    unfold synchronizedPcr canCount elapsed
    simp only [Function.update_of_ne hne]
  unfold synchronizePerformance
  simp only [synchronizeCounter_eq, hother, Function.update_of_ne hne]
  refine Prod.ext ?_ rfl
  simp only [Cop0Timing.mk.injEq, true_and, and_true]
  constructor
  · exact funext (Fin.forall_fin_two.mpr ⟨by simp, by simp⟩)
  · exact funext (Fin.forall_fin_two.mpr ⟨by simp, by simp⟩)

/-! ## Prediction -/

/-- The tests of the loop of `nextPerformanceEventCycle` on a counter. -/
def eligible (k : Fin 2) (status : BitVec 32) : Bool :=
  performanceCounterEnabled s.pccr k status && performanceEvent s.pccr k = 1

theorem earlierDeadline_le {result : Option Nat} {k : Fin 2} {n : Nat} :
    (∃ next, s.earlierDeadline status result k = some next ∧ next ≤ n) ↔
      (∃ next, result = some next ∧ next ≤ n) ∨
        (s.eligible k status = true ∧ s.deadline k ≤ n) := by
  unfold earlierDeadline eligible
  by_cases hskip : (!performanceCounterEnabled s.pccr k status ||
      decide (performanceEvent s.pccr k ≠ 1)) = true
  · rw [if_pos hskip]
    have hno : (performanceCounterEnabled s.pccr k status &&
        decide (performanceEvent s.pccr k = 1)) = false := by
      rw [Bool.and_eq_false_iff]
      simpa using hskip
    simp [hno]
  · rw [if_neg hskip]
    have hyes : (performanceCounterEnabled s.pccr k status &&
        decide (performanceEvent s.pccr k = 1)) = true := by
      simpa using hskip
    simp only [hyes, true_and]
    cases result with
    | none => simp
    | some earliest =>
      simp only
      split <;> simp <;> omega

/-- The predicted cycle has come if the deadline of a counter that counts has. -/
theorem nextPerformanceEventCycle_le (hclear : ∀ k, overflowed (s.pcr k) = false) (now : EeTick)
    (n : Nat) : (∃ next, s.nextPerformanceEventCycle now status = some next ∧ next ≤ n) ↔
      ∃ k, s.canCount k status = true ∧ s.deadline k ≤ n := by
  have hcount : ∀ k, s.canCount k status =
      ((decide (status &&& kStatusErl = 0) && decide (s.pccr &&& kPccrCounterEnable ≠ 0)) &&
        s.eligible k status) := by
    intro k
    unfold canCount eligible
    simp only [Bool.and_assoc]
  unfold nextPerformanceEventCycle
  simp only [hclear, Bool.or_self, Bool.false_eq_true, if_false, hcount]
  by_cases hoff : (decide (status &&& kStatusErl ≠ 0) ||
      decide (s.pccr &&& kPccrCounterEnable = 0)) = true
  · have hon : (decide (status &&& kStatusErl = 0) &&
        decide (s.pccr &&& kPccrCounterEnable ≠ 0)) = false := by
      rw [Bool.and_eq_false_iff]
      simpa using hoff
    simp only [if_pos hoff, hon]
    simp
  · have hon : (decide (status &&& kStatusErl = 0) &&
        decide (s.pccr &&& kPccrCounterEnable ≠ 0)) = true := by
      simpa using hoff
    rw [if_neg hoff, hon, List.foldl_cons, List.foldl_cons, List.foldl_nil, earlierDeadline_le,
      earlierDeadline_le]
    simp [Fin.exists_fin_two]

/-- No sum of 64 bits overflows where a counter counts: the counter and the cycles elapsed, and, at
the last cycle there is, its deadline. -/
def SumsFit (status : BitVec 32) (c : EeTick) : Prop :=
  ∀ k, s.canCount k status = true →
    counted (s.pcr k) + (c.val - (s.lastPerformanceCycle k).val) < uint64Count ∧
      (c.val + 1 < uint64Count ∨
        (s.lastPerformanceCycle k).val + (2 ^ 31 - counted (s.pcr k)) < uint64Count)

variable {s}

theorem elapsed_false (c : EeTick) (k : Fin 2) :
    s.elapsed c false k = c.val - (s.lastPerformanceCycle k).val := rfl

/-- **An overflow bit is set from the predicted cycle on.** -/
theorem overflowed_iff_next (hclear : ∀ k, overflowed (s.pcr k) = false)
    (hlast : ∀ k, s.lastPerformanceCycle k ≤ c) (hfits : s.SumsFit status c) (now : EeTick) :
    (∃ k, overflowed ((s.synchronizePerformance c status false).1.pcr k) = true) ↔
      ∃ next, s.nextPerformanceEventCycle now status = some next ∧ next ≤ c.val := by
  rw [s.nextPerformanceEventCycle_le hclear, synchronizePerformance_eq]
  refine exists_congr fun k => ?_
  simp only [synchronizedPcr, elapsed_false]
  cases hcount : s.canCount k status with
  | false => simp [hclear]
  | true =>
    obtain ⟨hsum, hdeadline⟩ := hfits k hcount
    have hle : (s.lastPerformanceCycle k).val ≤ c.val := hlast k
    have hlt := counted_lt (s.pcr k)
    have hc := c.isLt
    simp only [if_true, true_and, overflowed_incremented hsum, hclear, Bool.false_or,
      decide_eq_true_eq]
    unfold deadline saturatingAdd kPerformanceCounterModulus
    omega

/-- Every bit of the mask comes up in one of the two parts. -/
theorem newly_or {pcr pcr₁ pcr₂ : BitVec 32} (k : Fin 2)
    (h₁ : overflowed pcr = true → overflowed pcr₁ = true)
    (h₂ : overflowed pcr₁ = true → overflowed pcr₂ = true) :
    newly pcr pcr₁ k ||| newly pcr₁ pcr₂ k = newly pcr pcr₂ k := by
  unfold newly
  cases h : overflowed pcr <;> cases h' : overflowed pcr₁ <;> cases h'' : overflowed pcr₂ <;>
    simp_all

theorem overflowed_synchronizedPcr (s : Cop0Timing) {k : Fin 2} (h : overflowed (s.pcr k) = true)
    (c : EeTick) (status : BitVec 32) (m : Bool) :
    overflowed (s.synchronizedPcr c status m k) = true := by
  unfold synchronizedPcr
  split
  · exact overflowed_incremented_of h _
  · exact h

/-- **A synchronization may be split** at any cycle on the way. -/
theorem synchronizePerformance_split (ha : ∀ k, s.lastPerformanceCycle k ≤ a) (hc : a ≤ c)
    (hfits : s.SumsFit status c) :
    ((s.synchronizePerformance a status false).1.synchronizePerformance c status false).1 =
        (s.synchronizePerformance c status false).1 ∧
      (s.synchronizePerformance a status false).2.performanceOverflowMask |||
          ((s.synchronizePerformance a status false).1.synchronizePerformance c status
            false).2.performanceOverflowMask =
        (s.synchronizePerformance c status false).2.performanceOverflowMask := by
  have hac : a.val ≤ c.val := hc
  let t := (s.synchronizePerformance a status false).1
  have ht : t = { s with
      pcr := s.synchronizedPcr a status false, lastPerformanceCycle := fun _ => a } := by
    unfold t
    rw [synchronizePerformance_eq]
  have hpcr : ∀ k, t.synchronizedPcr c status false k = s.synchronizedPcr c status false k := by
    intro k
    have hla : (s.lastPerformanceCycle k).val ≤ a.val := ha k
    have hcount : t.canCount k status = s.canCount k status := by rw [ht]; rfl
    have hlast : t.elapsed c false k = c.val - a.val := by rw [ht]; rfl
    have hvalue : t.pcr k = s.synchronizedPcr a status false k := by rw [ht]
    rw [synchronizedPcr, hcount, hlast, hvalue]
    unfold synchronizedPcr
    cases hcan : s.canCount k status with
    | false => rfl
    | true =>
      have hsum := (hfits k hcan).1
      simp only [if_true, elapsed_false]
      have hparts : a.val - (s.lastPerformanceCycle k).val + (c.val - a.val) =
          c.val - (s.lastPerformanceCycle k).val := by omega
      rw [incremented_incremented (by omega), hparts]
  have hmask : ∀ k, newly (s.pcr k) (t.pcr k) k |||
      newly (t.pcr k) (t.synchronizedPcr c status false k) k =
      newly (s.pcr k) (s.synchronizedPcr c status false k) k := by
    intro k
    rw [newly_or k, hpcr]
    · rw [ht]
      exact fun h => s.overflowed_synchronizedPcr h a status false
    · exact fun h => t.overflowed_synchronizedPcr h c status false
  have hpcr' : t.synchronizedPcr c status false = s.synchronizedPcr c status false := funext hpcr
  have hfirst : (s.synchronizePerformance a status false).2.performanceOverflowMask =
      newly (s.pcr 0) (t.pcr 0) 0 ||| newly (s.pcr 1) (t.pcr 1) 1 := by
    rw [ht, synchronizePerformance_eq]
  show (t.synchronizePerformance c status false).1 = _ ∧
    _ ||| (t.synchronizePerformance c status false).2.performanceOverflowMask = _
  rw [hfirst, synchronizePerformance_eq t, synchronizePerformance_eq s]
  constructor
  · simp only [hpcr']
    rw [ht]
  · simp only
    rw [← hmask 0, ← hmask 1]
    ac_rfl

/-! ## Sticky overflow bits -/

end Cop0Timing

/-- An operation that changes the state. -/
inductive Cop0Op where
  | reset (currentCycle : EeTick) (count compare pccr pcr0 pcr1 : BitVec 32)
  | synchronizeCount (currentCycle : EeTick) (minimumIncrement : Bool)
  | readCount (currentCycle : EeTick)
  | writeCount (value : BitVec 32) (currentCycle : EeTick)
  | writeCompare (value : BitVec 32) (currentCycle : EeTick)
  | synchronizePerformance (currentCycle : EeTick) (status : BitVec 32) (minimumIncrement : Bool)
  | recordPerformanceEvents (status : BitVec 32) (events : Cop0PerformanceEvents)
  | readPerformance (selector : BitVec 32) (currentCycle : EeTick) (status : BitVec 32)
  | writePerformance (selector value : BitVec 32) (currentCycle : EeTick) (status : BitVec 32)
  | restore (snapshot : Cop0Timing)

namespace Cop0Op

/-- The state after an operation. -/
def run (s : Cop0Timing) : Cop0Op → Cop0Timing
  | .reset currentCycle count compare pccr pcr0 pcr1 =>
    Cop0Timing.reset currentCycle count compare pccr pcr0 pcr1
  | .synchronizeCount currentCycle minimumIncrement =>
    (s.synchronizeCount currentCycle minimumIncrement).1
  | .readCount currentCycle => (s.readCount currentCycle).2.2
  | .writeCount value currentCycle => s.writeCount value currentCycle
  | .writeCompare value currentCycle => s.writeCompare value currentCycle
  | .synchronizePerformance currentCycle status minimumIncrement =>
    (s.synchronizePerformance currentCycle status minimumIncrement).1
  | .recordPerformanceEvents status events => (s.recordPerformanceEvents status events).1
  | .readPerformance selector currentCycle status =>
    (s.readPerformance selector currentCycle status).2.2
  | .writePerformance selector value currentCycle status =>
    (s.writePerformance selector value currentCycle status).2.2
  | .restore snapshot => s.restore snapshot

/-- The operation replaces the register of a counter. -/
def Replaces (k : Fin 2) : Cop0Op → Prop
  | .reset .. | .restore _ => True
  | .writePerformance selector .. =>
    selector &&& 0x3f &&& 1 ≠ 0 ∧ Cop0Timing.selectedCounter (selector &&& 0x3f) = k
  | _ => False

end Cop0Op

namespace Cop0Timing

open Machine

variable {s : Cop0Timing} {k : Fin 2}

theorem overflowed_synchronizePerformance (h : overflowed (s.pcr k) = true) (c : EeTick)
    (status : BitVec 32) (m : Bool) :
    overflowed ((s.synchronizePerformance c status m).1.pcr k) = true := by
  rw [synchronizePerformance_eq]
  exact s.overflowed_synchronizedPcr h c status m

theorem overflowed_incrementPerformanceCounter (h : overflowed (s.pcr k) = true) (counter : Fin 2)
    (n : Nat) : overflowed ((s.incrementPerformanceCounter counter n).1.pcr k) = true := by
  unfold incrementPerformanceCounter
  split
  · exact h
  · simp only [Function.update_apply]
    split
    · rename_i hk
      exact overflowed_incremented_of (hk ▸ h) n
    · exact h

theorem overflowed_recordCounterEvents (h : overflowed (s.pcr k) = true) (status : BitVec 32)
    (events : Cop0PerformanceEvents) (counter : Fin 2) :
    overflowed ((s.recordCounterEvents status events counter).1.pcr k) = true := by
  unfold recordCounterEvents
  simp only
  repeat' split
  · exact h
  · exact overflowed_incrementPerformanceCounter h _ _
  · exact h

theorem overflowed_step (s : Cop0Timing) (op : Cop0Op) (h : overflowed (s.pcr k) = true)
    (hop : ¬ op.Replaces k) : overflowed ((op.run s).pcr k) = true := by
  cases op with
  | reset => exact absurd trivial hop
  | restore => exact absurd trivial hop
  | synchronizeCount | readCount | writeCount | writeCompare => exact h
  | synchronizePerformance c status m => exact overflowed_synchronizePerformance h c status m
  | recordPerformanceEvents status events =>
    simp only [Cop0Op.run, recordPerformanceEvents]
    split
    · exact h
    · exact overflowed_recordCounterEvents (overflowed_recordCounterEvents h _ _ _) _ _ _
  | readPerformance selector c status =>
    simp only [Cop0Op.run, readPerformance]
    split
    · exact h
    · exact overflowed_synchronizePerformance h c status true
  | writePerformance selector value c status =>
    simp only [Cop0Op.run, writePerformance]
    split
    · split
      · exact h
      · exact overflowed_synchronizePerformance h c status true
    · rename_i hodd
      have hother : k ≠ selectedCounter (selector &&& 0x3f) := fun e => hop ⟨hodd, e.symm⟩
      simp only [Function.update_of_ne hother]
      exact h

/-- **An overflow bit that is set stays set** until its register is replaced. -/
theorem overflowed_of_run (h : overflowed (s.pcr k) = true) {ops : List Cop0Op}
    (hops : ∀ op ∈ ops, ¬ op.Replaces k) : overflowed ((run Cop0Op.run s ops).pcr k) = true := by
  induction ops generalizing s with
  | nil => exact h
  | cons op rest ih =>
    exact ih (overflowed_step s op h (hops op List.mem_cons_self))
      fun op' hop' => hops op' (List.mem_cons_of_mem op hop')

/-- **The performance counters are predicted exactly, may be synchronized at any cycles, and keep
their overflow bits**, as long as no 64-bit sum overflows. -/
theorem performance_exact (s : Cop0Timing) (status : BitVec 32) (c : EeTick)
    (hclear : ∀ k, overflowed (s.pcr k) = false) (hlast : ∀ k, s.lastPerformanceCycle k ≤ c)
    (hfits : s.SumsFit status c) :
    (∀ now, (∃ k, overflowed ((s.synchronizePerformance c status false).1.pcr k) = true) ↔
      ∃ next, s.nextPerformanceEventCycle now status = some next ∧ next ≤ c.val) ∧
    (∀ a, (∀ k, s.lastPerformanceCycle k ≤ a) → a ≤ c →
      ((s.synchronizePerformance a status false).1.synchronizePerformance c status false).1 =
          (s.synchronizePerformance c status false).1 ∧
        (s.synchronizePerformance a status false).2.performanceOverflowMask |||
            ((s.synchronizePerformance a status false).1.synchronizePerformance c status
              false).2.performanceOverflowMask =
          (s.synchronizePerformance c status false).2.performanceOverflowMask) ∧
    ∀ (t : Cop0Timing) (k : Fin 2) (ops : List Cop0Op), overflowed (t.pcr k) = true →
      (∀ op ∈ ops, ¬ op.Replaces k) → overflowed ((run Cop0Op.run t ops).pcr k) = true :=
  ⟨overflowed_iff_next hclear hlast hfits,
    fun _ ha hc => synchronizePerformance_split ha hc hfits,
    fun _ _ _ h hops => overflowed_of_run h hops⟩

def cycleCounting (pcr0 : BitVec 32) : Cop0Timing := { pccr := 0x80000024, pcr := ![pcr0, 0] }

theorem performance_exact_cycleCounting :
    ∃ k, overflowed (((cycleCounting 0x7ffffff0).synchronizePerformance 16 0 false).1.pcr k) =
      true := by
  have hexact := performance_exact (cycleCounting 0x7ffffff0) 0 16 (by decide) (by decide)
    (by unfold SumsFit; decide)
  exact (hexact.1 0).mpr ⟨16, by decide, by decide⟩

/-- A counter at 1 that is not synchronized for `2 ^ 64 - 1` cycles wraps to zero: its overflow is
predicted and does not come. -/
theorem wrapped_increment_not_predicted :
    ¬ ∀ (s : Cop0Timing) (status : BitVec 32) (c now : EeTick),
      (∀ k, overflowed (s.pcr k) = false) → (∀ k, s.lastPerformanceCycle k ≤ c) →
      ((∃ k, overflowed ((s.synchronizePerformance c status false).1.pcr k) = true) ↔
        ∃ next, s.nextPerformanceEventCycle now status = some next ∧ next ≤ c.val) := by
  intro h
  have hnext := (h (cycleCounting 1) 0 uint64Max 0 (by decide) (by decide)).mpr
    ⟨2 ^ 31 - 1, by decide +kernel, by decide +kernel⟩
  revert hnext
  decide +kernel

end Cop0Timing

end Ps2Recomp
