import Ps2Recomp.Counter.Bank

/-!
# Counting tick by tick

`addCounterTicks` makes many ticks at once: it steps from one condition to the next, and drops whole
periods of a counter that returns to zero at its target. `ticks` makes them one at a time.
`addCounterTicks_eq_ticks`: the two agree, unless the batch `Drops` a compare. That happens when the
counter has passed its target, then overflows within the batch with a whole period left to count:
the periods are dropped before the first compare has latched.

`Settled` is what holds of a counter between two batches.
-/

namespace Ps2Recomp

namespace Counter

variable {c : Counter} {m n : Nat}

/-! ## Mode bits -/

theorem and_or_of_disjoint {mode bits mask : Nat} (h : bits &&& mask = 0) :
    (mode ||| bits) &&& mask = mode &&& mask := by
  rw [Nat.and_or_distrib_right, h, Nat.or_zero]

theorem and_or_ne_zero {mode bits mask : Nat} (h : mode &&& mask ≠ 0) :
    (mode ||| bits) &&& mask ≠ 0 := by
  rw [Nat.and_or_distrib_right]
  intro h0
  exact h (Nat.eq_zero_of_le_zero (h0 ▸ Nat.left_le_or))

/-- What a counter does not change by counting. Status bits are set, never cleared. -/
structure SameControl (c c' : Counter) : Prop where
  mode : c'.mode &&& kModeWritableControlMask = c.mode &&& kModeWritableControlMask
  status : ∀ mask, c.mode &&& mask ≠ 0 → c'.mode &&& mask ≠ 0
  target : c'.target = c.target
  rate : c'.rate = c.rate

theorem SameControl.refl (c : Counter) : SameControl c c :=
  ⟨rfl, fun _ h => h, rfl, rfl⟩

/-- Only the count, `targetAfterOverflow` and the start differ. -/
theorem SameControl.update (c : Counter) (count : Nat) (after : Bool) (start : Nat) :
    SameControl c { c with count := count, targetAfterOverflow := after, startCycle := start } :=
  ⟨rfl, fun _ h => h, rfl, rfl⟩

theorem SameControl.trans {c c' c'' : Counter} (h : SameControl c c') (h' : SameControl c' c'') :
    SameControl c c'' :=
  ⟨h'.mode.trans h.mode, fun mask hm => h'.status mask (h.status mask hm), h'.target.trans h.target,
    h'.rate.trans h.rate⟩

theorem SameControl.and {c' : Counter} (h : SameControl c c') {mask : Nat}
    (hm : kModeWritableControlMask &&& mask = mask) : c'.mode &&& mask = c.mode &&& mask := by
  rw [← hm, ← Nat.and_assoc, ← Nat.and_assoc, h.mode]

section Flags

variable {c' : Counter} (h : SameControl c c')

include h

theorem SameControl.clockSource : c'.clockSource = c.clockSource := h.and rfl

theorem SameControl.gateEnabled : c'.gateEnabled = c.gateEnabled := by
  unfold Counter.gateEnabled
  rw [h.and rfl]

theorem SameControl.gateUsesVBlank : c'.gateUsesVBlank = c.gateUsesVBlank := by
  unfold Counter.gateUsesVBlank
  rw [h.and rfl]

theorem SameControl.gateMode : c'.gateMode = c.gateMode := by
  unfold Counter.gateMode
  rw [h.and rfl]

theorem SameControl.zeroReturn : c'.zeroReturn = c.zeroReturn := by
  unfold Counter.zeroReturn
  rw [h.and rfl]

theorem SameControl.countEnabled : c'.countEnabled = c.countEnabled := by
  unfold Counter.countEnabled
  rw [h.and rfl]

theorem SameControl.targetReached (hr : c.targetReached = true) : c'.targetReached = true :=
  decide_eq_true (h.status _ (of_decide_eq_true hr))

theorem SameControl.targetInterruptEnabled :
    c'.targetInterruptEnabled = c.targetInterruptEnabled := by
  unfold Counter.targetInterruptEnabled
  rw [h.and rfl]

theorem SameControl.overflowInterruptEnabled :
    c'.overflowInterruptEnabled = c.overflowInterruptEnabled := by
  unfold Counter.overflowInterruptEnabled
  rw [h.and rfl]

end Flags

/-! ## Raising -/

theorem raiseTargetInterrupt_cases (c : Counter) :
    ((c.targetInterruptEnabled = false ∨ c.targetReached = true) ∧
        c.raiseTargetInterrupt = (c, false)) ∨
      (c.targetInterruptEnabled = true ∧ c.targetReached = false ∧
        c.raiseTargetInterrupt = ({ c with mode := c.mode ||| kModeTargetReached }, true)) := by
  unfold raiseTargetInterrupt
  cases c.targetInterruptEnabled <;> cases c.targetReached <;> simp

theorem raiseOverflowInterrupt_cases (c : Counter) :
    ((c.overflowInterruptEnabled = false ∨ c.overflowReached = true) ∧
        c.raiseOverflowInterrupt = (c, false)) ∨
      (c.overflowInterruptEnabled = true ∧ c.overflowReached = false ∧
        c.raiseOverflowInterrupt = ({ c with mode := c.mode ||| kModeOverflowReached }, true)) := by
  unfold raiseOverflowInterrupt
  cases c.overflowInterruptEnabled <;> cases c.overflowReached <;> simp

theorem sameControl_raiseTargetInterrupt (c : Counter) : SameControl c c.raiseTargetInterrupt.1 := by
  rcases c.raiseTargetInterrupt_cases with ⟨-, he⟩ | ⟨-, -, he⟩
  · rw [he]
    exact .refl c
  · rw [he]
    exact ⟨and_or_of_disjoint rfl, fun _ h => and_or_ne_zero h, rfl, rfl⟩

theorem sameControl_raiseOverflowInterrupt (c : Counter) :
    SameControl c c.raiseOverflowInterrupt.1 := by
  rcases c.raiseOverflowInterrupt_cases with ⟨-, he⟩ | ⟨-, -, he⟩
  · rw [he]
    exact .refl c
  · rw [he]
    exact ⟨and_or_of_disjoint rfl, fun _ h => and_or_ne_zero h, rfl, rfl⟩

theorem sameControl_processOverflow (c : Counter) : SameControl c c.processOverflow.1 := by
  unfold processOverflow
  split
  · exact (SameControl.update c _ false c.startCycle).trans (sameControl_raiseOverflowInterrupt _)
  · exact .refl c

theorem sameControl_processTarget (c : Counter) : SameControl c c.processTarget.1 := by
  have hraise := c.sameControl_raiseTargetInterrupt
  unfold processTarget
  split
  · exact .refl c
  · simp only
    split
    · exact hraise.trans (SameControl.update _ _ _ _)
    · exact hraise.trans (SameControl.update _ _ _ _)

theorem sameControl_processCounterConditions (c : Counter) :
    SameControl c c.processCounterConditions.1 :=
  c.sameControl_processOverflow.trans (sameControl_processTarget _)

/-! ## Ticks -/

def tick (c : Counter) : Counter × Bool := processCounterConditions { c with count := c.count + 1 }

/-- Many ticks, one at a time. -/
def ticks : Nat → Counter → Counter × Bool
  | 0, c => (c, false)
  | n + 1, c => ((ticks n c.tick.1).1, c.tick.2 || (ticks n c.tick.1).2)

theorem ticks_add (m n : Nat) (c : Counter) :
    ticks (m + n) c =
      ((ticks n (ticks m c).1).1, (ticks m c).2 || (ticks n (ticks m c).1).2) := by
  induction m generalizing c with
  | zero => rw [Nat.zero_add, ticks, Bool.false_or]
  | succ m ih => rw [Nat.add_right_comm, ticks, ih, ticks, Bool.or_assoc]

theorem sameControl_tick (c : Counter) : SameControl c c.tick.1 :=
  (SameControl.update c (c.count + 1) c.targetAfterOverflow c.startCycle).trans
    (sameControl_processCounterConditions _)

theorem sameControl_ticks (n : Nat) (c : Counter) : SameControl c (ticks n c).1 := by
  induction n generalizing c with
  | zero => exact .refl c
  | succ n ih => exact c.sameControl_tick.trans (ih c.tick.1)

/-- Between two batches the count is in range, and below the target if the compare is armed; a
counter whose target is zero may be armed at zero. -/
structure Settled (c : Counter) : Prop where
  count_le : c.count ≤ 0xffff
  target_le : c.target ≤ 0xffff
  armed : c.targetAfterOverflow = false → c.count < c.target ∨ (c.count = 0 ∧ c.target = 0)

/-! ### What a count does -/

theorem processOverflow_of_le (hc : c.count ≤ 0xffff) : c.processOverflow = (c, false) :=
  if_neg (Nat.not_lt.mpr hc)

theorem processCounterConditions_of_le (hc : c.count ≤ 0xffff) :
    c.processCounterConditions = c.processTarget := by
  unfold processCounterConditions
  rw [processOverflow_of_le hc]
  rfl

theorem processCounterConditions_quiet (hc : c.count ≤ 0xffff)
    (ht : c.targetAfterOverflow = true ∨ c.count < c.target) :
    c.processCounterConditions = (c, false) := by
  rw [processCounterConditions_of_le hc]
  exact if_pos ht

/-- The counter reaches its target and returns to zero. -/
theorem processTarget_return (ht : c.targetAfterOverflow = false) (hc : c.count = c.target)
    (hz : c.zeroReturn = true) (h0 : c.target ≠ 0) :
    c.processTarget =
      ({ c.raiseTargetInterrupt.1 with count := 0 }, c.raiseTargetInterrupt.2) := by
  have hcontrol := c.sameControl_raiseTargetInterrupt
  have hcount : c.raiseTargetInterrupt.1.count = c.count := by
    rcases c.raiseTargetInterrupt_cases with ⟨-, he⟩ | ⟨-, -, he⟩ <;> rw [he]
  unfold processTarget
  rw [if_neg (by simp [ht, hc])]
  simp only
  rw [hcontrol.zeroReturn, hcontrol.target, if_pos ⟨hz, h0⟩, hcount, hc, Nat.sub_self]

theorem processTarget_pass (ht : c.targetAfterOverflow = false) (hc : c.target ≤ c.count)
    (hz : ¬ (c.zeroReturn = true ∧ c.target ≠ 0)) :
    c.processTarget =
      ({ c.raiseTargetInterrupt.1 with targetAfterOverflow := true },
        c.raiseTargetInterrupt.2) := by
  have hcontrol := c.sameControl_raiseTargetInterrupt
  unfold processTarget
  rw [if_neg (by simp [ht, hc])]
  simp only
  rw [hcontrol.zeroReturn, hcontrol.target, if_neg hz]

theorem processOverflow_of_eq (hc : c.count = 0x10000) :
    c.processOverflow =
      raiseOverflowInterrupt { c with count := 0, targetAfterOverflow := false } := by
  unfold processOverflow
  rw [if_pos (by omega), hc]

/-! ### Batches without a drop -/

/-- Raising looks at the mode alone. -/
theorem raiseTargetInterrupt_update (c : Counter) (count : Nat) (after : Bool) :
    raiseTargetInterrupt { c with count := count, targetAfterOverflow := after } =
      ({ c.raiseTargetInterrupt.1 with count := count, targetAfterOverflow := after },
        c.raiseTargetInterrupt.2) := by
  unfold raiseTargetInterrupt targetInterruptEnabled targetReached
  simp only
  split <;> rfl

/-- A target interrupt that is raised before the overflow interrupt is not raised again after it. -/
theorem raise_twice (c : Counter) (count : Nat) (after : Bool) :
    let first := c.raiseTargetInterrupt
    let overflow := raiseOverflowInterrupt
      { first.1 with count := count, targetAfterOverflow := after }
    let second := overflow.1.raiseTargetInterrupt
    let overflow' := raiseOverflowInterrupt { c with count := count, targetAfterOverflow := after }
    let only := overflow'.1.raiseTargetInterrupt
    second.1 = only.1 ∧ (first.2 || (overflow.2 || second.2)) = (overflow'.2 || only.2) := by
  have hswap := Nat.or_right_comm c.mode kModeTargetReached kModeOverflowReached
  have hto : kModeTargetReached &&& kModeOverflowInterrupt = 0 ∧
      kModeTargetReached &&& kModeOverflowReached = 0 ∧
      kModeTargetReached &&& kModeTargetInterrupt = 0 ∧
      kModeTargetReached &&& kModeTargetReached ≠ 0 := by decide
  have hot : kModeOverflowReached &&& kModeTargetInterrupt = 0 ∧
      kModeOverflowReached &&& kModeTargetReached = 0 := by decide
  simp only [raiseTargetInterrupt, raiseOverflowInterrupt, targetInterruptEnabled, targetReached,
    overflowInterruptEnabled, overflowReached]
  by_cases h₁ : c.mode &&& kModeTargetInterrupt = 0 <;>
    by_cases h₂ : c.mode &&& kModeTargetReached = 0 <;>
    by_cases h₃ : c.mode &&& kModeOverflowInterrupt = 0 <;>
    by_cases h₄ : c.mode &&& kModeOverflowReached = 0 <;>
    simp [h₁, h₂, h₃, h₄, Nat.and_or_distrib_right, hswap, hto, hot]

theorem uint32Sub_of_le {lhs rhs : Nat} (h : rhs ≤ lhs) (hl : lhs < 2 ^ 32) :
    uint32Sub lhs rhs = lhs - rhs := by
  unfold uint32Sub
  omega

theorem untilCondition_of_armed (h : Settled c) (ht : c.targetAfterOverflow = false)
    (hc : c.count < c.target) : c.untilCondition = c.target - c.count := by
  have hle := h.count_le
  have hle' := h.target_le
  unfold untilCondition
  rw [uint32Sub_of_le (by omega) (by omega)]
  simp only [ht, Bool.not_false, gt_iff_lt, hc, and_self, if_true]
  omega

theorem untilCondition_of_passed (h : Settled c)
    (ht : c.targetAfterOverflow = true ∨ c.target ≤ c.count) :
    c.untilCondition = 0x10000 - c.count := by
  have hle := h.count_le
  have hnot : ¬ ((!c.targetAfterOverflow) = true ∧ c.target > c.count) := by
    rintro ⟨hn, hlt⟩
    rcases ht with ht | ht
    · rw [ht] at hn
      cases hn
    · omega
  unfold untilCondition
  rw [uint32Sub_of_le (by omega) (by omega)]
  simp only [hnot, if_false]
  omega

theorem tick_quiet (hc : c.count + 1 ≤ 0xffff)
    (ht : c.targetAfterOverflow = true ∨ c.count + 1 < c.target) :
    c.tick = ({ c with count := c.count + 1 }, false) := by
  have hquiet : Counter.targetAfterOverflow { c with count := c.count + 1 } = true ∨
      c.count + 1 < c.target := ht
  exact processCounterConditions_quiet hc hquiet

theorem raiseTargetInterrupt_count (c : Counter) (count : Nat) :
    raiseTargetInterrupt { c with count := count } =
      ({ c.raiseTargetInterrupt.1 with
          count := count, targetAfterOverflow := c.targetAfterOverflow },
        c.raiseTargetInterrupt.2) :=
  raiseTargetInterrupt_update c count c.targetAfterOverflow

/-- A counter whose target is zero passes it with the first tick. -/
theorem processCounterConditions_pass_zero (ht : c.targetAfterOverflow = false) (h0 : c.target = 0)
    (hn : n ≤ 0xffff) :
    processCounterConditions { c with count := n } =
      ({ c.raiseTargetInterrupt.1 with count := n, targetAfterOverflow := true },
        c.raiseTargetInterrupt.2) := by
  have hpass := processTarget_pass (c := { c with count := n }) ht (h0 ▸ Nat.zero_le n)
    fun h => h.2 h0
  rw [processCounterConditions_of_le hn, hpass, raiseTargetInterrupt_count]

/-- A counter whose target is zero overflows and passes its target again. -/
theorem processCounterConditions_overflow_zero (h0 : c.target = 0) (hc : c.count = 0x10000) :
    let overflow := raiseOverflowInterrupt { c with count := 0, targetAfterOverflow := false }
    let target := overflow.1.raiseTargetInterrupt
    c.processCounterConditions =
      ({ target.1 with targetAfterOverflow := true }, overflow.2 || target.2) := by
  intro overflow target
  have hcontrol : SameControl c overflow.1 :=
    (SameControl.update c 0 false c.startCycle).trans (sameControl_raiseOverflowInterrupt _)
  have htarget : overflow.1.target = 0 := hcontrol.target.trans h0
  have hafter : overflow.1.targetAfterOverflow = false := by
    unfold overflow raiseOverflowInterrupt
    split <;> rfl
  have hpass := processTarget_pass hafter (htarget ▸ Nat.zero_le _) fun h => h.2 htarget
  unfold processCounterConditions
  rw [processOverflow_of_eq hc]
  show (overflow.1.processTarget.1, overflow.2 || overflow.1.processTarget.2) = _
  rw [hpass]

/-- A counter whose target is zero meets its compare at once, whatever the batch. -/
theorem processCounterConditions_zero (ht : c.targetAfterOverflow = false) (h0 : c.target = 0)
    (hn : n ≤ 0x10000) :
    let c' := { c.raiseTargetInterrupt.1 with count := n, targetAfterOverflow := true }
    processCounterConditions { c with count := n } =
      (c'.processCounterConditions.1,
        c.raiseTargetInterrupt.2 || c'.processCounterConditions.2) := by
  intro c'
  rcases Nat.lt_or_eq_of_le hn with hlt | rfl
  · have hquiet : c'.processCounterConditions = (c', false) :=
      processCounterConditions_quiet (Nat.le_of_lt_succ hlt) (Or.inl rfl)
    rw [processCounterConditions_pass_zero ht h0 (Nat.le_of_lt_succ hlt), hquiet, Bool.or_false]
  · -- both overflow, and then pass the target
    have h0' : c'.target = 0 := c.sameControl_raiseTargetInterrupt.target.trans h0
    obtain ⟨hstate, hraised⟩ := c.raise_twice 0 false
    rw [processCounterConditions_overflow_zero (c := { c with count := 0x10000 }) h0 rfl,
      processCounterConditions_overflow_zero (c := c') h0' rfl]
    refine Prod.ext ?_ hraised.symm
    exact congrArg (fun d : Counter => { d with targetAfterOverflow := true }) hstate.symm

/-- **A batch that ends at the next condition.** The induction is on its ticks. -/
theorem processCounterConditions_eq_ticks (h : Settled c) (hn : 0 < n)
    (hle : n ≤ c.untilCondition) :
    processCounterConditions { c with count := c.count + n } = ticks n c := by
  induction n generalizing c with
  | zero => exact absurd hn (Nat.lt_irrefl 0)
  | succ n ih =>
    rcases Nat.eq_zero_or_pos n with rfl | hpos
    · rw [ticks, ticks, Bool.or_false]
      rfl
    · have hcount := h.count_le
      have hrest : ∀ c' : Counter, Settled c' → n ≤ c'.untilCondition → c'.count = c.count + 1 →
          processCounterConditions { c' with count := c.count + (n + 1) } = ticks n c' := by
        intro c' hset hle' hc'
        rw [← ih hset hpos hle', hc']
        congr 2
        omega
      by_cases hquiet : c.targetAfterOverflow = true ∨ c.count + 1 < c.target
      · -- nothing happens at the first tick
        have hlt : c.count + 1 ≤ 0xffff := by
          rcases hquiet with ha | hlt
          · rw [untilCondition_of_passed h (Or.inl ha)] at hle
            omega
          · exact hlt.le.trans h.target_le
        have hset : Settled { c with count := c.count + 1 } := by
          refine ⟨hlt, h.target_le, fun ha => Or.inl ?_⟩
          rcases hquiet with ha' | hlt
          · exact absurd (ha'.symm.trans ha) Bool.noConfusion
          · exact hlt
        have huntil : n ≤ untilCondition { c with count := c.count + 1 } := by
          rcases Bool.eq_false_or_eq_true c.targetAfterOverflow with ha | ha
          · rw [untilCondition_of_passed h (Or.inl ha)] at hle
            rw [untilCondition_of_passed hset (Or.inl ha)]
            simp only
            omega
          · have hlt : c.count + 1 < c.target := hquiet.resolve_left (by rw [ha]; exact nofun)
            rw [untilCondition_of_armed h ha (by omega)] at hle
            rw [untilCondition_of_armed hset ha hlt]
            simp only
            omega
        rw [ticks, tick_quiet hlt hquiet, Bool.false_or]
        exact hrest _ hset huntil rfl
      · -- the target is zero
        obtain ⟨hafter, hge⟩ := not_or.mp hquiet
        rw [Bool.not_eq_true] at hafter
        have hzero : c.count = 0 ∧ c.target = 0 := by
          rcases h.armed hafter with hlt | hzero
          · rw [untilCondition_of_armed h hafter hlt] at hle
            omega
          · exact hzero
        rw [untilCondition_of_passed h (Or.inr (hzero.2 ▸ Nat.zero_le _)), hzero.1] at hle
        have hcontrol := c.sameControl_raiseTargetInterrupt
        have htick : c.tick = ({ c.raiseTargetInterrupt.1 with
            count := 1, targetAfterOverflow := true }, c.raiseTargetInterrupt.2) := by
          unfold tick
          rw [hzero.1]
          exact processCounterConditions_pass_zero hafter hzero.2 (by decide)
        have hset : Settled { c.raiseTargetInterrupt.1 with
            count := 1, targetAfterOverflow := true } :=
          ⟨(by decide : 1 ≤ 0xffff), hcontrol.target.trans_le h.target_le, nofun⟩
        have huntil : n ≤ untilCondition { c.raiseTargetInterrupt.1 with
            count := 1, targetAfterOverflow := true } := by
          rw [untilCondition_of_passed hset (Or.inl rfl)]
          simp only
          omega
        rw [ticks, htick]
        simp only
        rw [← hrest _ hset huntil (by rw [hzero.1])]
        exact processCounterConditions_zero hafter hzero.2 (by omega)

/-! ### One tick -/

/-- **What one tick does.** -/
theorem tick_cases (h : Settled c) :
    (c.count + 1 ≤ 0xffff ∧ (c.targetAfterOverflow = true ∨ c.count + 1 < c.target) ∧
        c.tick = ({ c with count := c.count + 1 }, false)) ∨
      (c.targetAfterOverflow = false ∧ c.count + 1 = c.target ∧ c.zeroReturn = true ∧
        c.tick = ({ c.raiseTargetInterrupt.1 with count := 0, targetAfterOverflow := false },
          c.raiseTargetInterrupt.2)) ∨
      (c.targetAfterOverflow = false ∧ c.count + 1 ≤ 0xffff ∧
        ¬ (c.zeroReturn = true ∧ c.target ≠ 0) ∧
        c.tick =
          ({ c.raiseTargetInterrupt.1 with count := c.count + 1, targetAfterOverflow := true },
            c.raiseTargetInterrupt.2)) ∨
      (c.targetAfterOverflow = true ∧ c.count = 0xffff ∧ c.target ≠ 0 ∧
        c.tick = raiseOverflowInterrupt { c with count := 0, targetAfterOverflow := false }) ∨
      (c.targetAfterOverflow = true ∧ c.count = 0xffff ∧ c.target = 0 ∧
        c.tick.1.count = 0 ∧ c.tick.1.targetAfterOverflow = true) := by
  have hcount := h.count_le
  by_cases hlt : c.count + 1 ≤ 0xffff
  · have hle : c.tick = processTarget { c with count := c.count + 1 } :=
      processCounterConditions_of_le hlt
    by_cases hq : c.targetAfterOverflow = true ∨ c.count + 1 < c.target
    · exact Or.inl ⟨hlt, hq, tick_quiet hlt hq⟩
    · obtain ⟨hafter, hge⟩ := not_or.mp hq
      rw [Bool.not_eq_true] at hafter
      by_cases hz : c.zeroReturn = true ∧ c.target ≠ 0
      · have heq : c.count + 1 = c.target := by
          rcases h.armed hafter with hlt' | ⟨-, h0⟩
          · omega
          · exact absurd h0 hz.2
        have hreturn := processTarget_return (c := { c with count := c.count + 1 }) hafter heq
          hz.1 hz.2
        rw [raiseTargetInterrupt_count] at hreturn
        refine Or.inr (Or.inl ⟨hafter, heq, hz.1, ?_⟩)
        rw [hle, hreturn, hafter]
      · have hpass := processTarget_pass (c := { c with count := c.count + 1 }) hafter
          (Nat.le_of_not_lt hge) hz
        rw [raiseTargetInterrupt_count] at hpass
        refine Or.inr (Or.inr (Or.inl ⟨hafter, hlt, hz, ?_⟩))
        rw [hle, hpass]
  · have heq : c.count = 0xffff := by omega
    have hafter : c.targetAfterOverflow = true := by
      by_contra hf
      rw [Bool.not_eq_true] at hf
      have hle := h.target_le
      rcases h.armed hf with hlt' | ⟨h0, -⟩ <;> omega
    have hover : Counter.count { c with count := c.count + 1 } = 0x10000 := by
      simp only
      omega
    by_cases h0 : c.target = 0
    · refine Or.inr (Or.inr (Or.inr (Or.inr ⟨hafter, heq, h0, ?_, ?_⟩)))
      · unfold tick
        rw [processCounterConditions_overflow_zero (c := { c with count := c.count + 1 }) h0 hover]
        simp only [raiseTargetInterrupt, raiseOverflowInterrupt]
        split <;> split <;> rfl
      · unfold tick
        rw [processCounterConditions_overflow_zero (c := { c with count := c.count + 1 }) h0 hover]
    · refine Or.inr (Or.inr (Or.inr (Or.inl ⟨hafter, heq, h0, ?_⟩)))
      unfold tick processCounterConditions
      rw [processOverflow_of_eq hover]
      simp only [processTarget]
      rw [if_pos, Bool.or_false]
      refine Or.inr ?_
      unfold raiseOverflowInterrupt
      split <;> exact Nat.pos_of_ne_zero h0

theorem settled_tick (h : Settled c) : Settled c.tick.1 := by
  have hcontrol := c.sameControl_tick
  have htarget : c.tick.1.target ≤ 0xffff := hcontrol.target.trans_le h.target_le
  rcases tick_cases h with ⟨hc, ht, he⟩ | ⟨ht, hc, -, he⟩ | ⟨ht, hc, -, he⟩ | ⟨-, -, h0, he⟩ |
    ⟨-, -, h0, hc, ha⟩
  · rw [he] at htarget ⊢
    refine ⟨hc, htarget, fun ha => Or.inl ?_⟩
    exact ht.resolve_left (by rw [show c.targetAfterOverflow = false from ha]; exact nofun)
  · rw [he] at htarget hcontrol ⊢
    refine ⟨Nat.zero_le _, htarget, fun _ => Or.inl ?_⟩
    rw [hcontrol.target, ← hc]
    exact Nat.succ_pos _
  · rw [he] at htarget ⊢
    exact ⟨hc, htarget, nofun⟩
  · have hcount : c.tick.1.count = 0 := by
      rw [he]
      unfold raiseOverflowInterrupt
      split <;> rfl
    refine ⟨hcount ▸ Nat.zero_le _, htarget, fun _ => Or.inl ?_⟩
    rw [hcount, hcontrol.target]
    exact Nat.pos_of_ne_zero h0
  · exact ⟨hc ▸ Nat.zero_le _, htarget, fun hf => absurd (ha.symm.trans hf) Bool.noConfusion⟩

theorem settled_ticks (h : Settled c) (n : Nat) : Settled (ticks n c).1 := by
  induction n generalizing c with
  | zero => exact h
  | succ n ih => exact ih (settled_tick h)

/-! ## Dropped compares -/

/-- The batch drops a compare: the counter has passed its target, and overflows within the batch
with at least one whole period left, while its target interrupt is enabled and not yet latched. -/
def Drops (c : Counter) (n : Nat) : Prop :=
  c.zeroReturn = true ∧ c.target ≠ 0 ∧ c.targetInterruptEnabled = true ∧
    c.targetReached = false ∧ c.targetAfterOverflow = true ∧ c.target + (0x10000 - c.count) ≤ n

theorem drops_tick (h : Settled c) (hd : Drops c.tick.1 n) : Drops c (n + 1) := by
  have hcontrol := c.sameControl_tick
  obtain ⟨hz, h0, hen, hr, hafter, hle⟩ := hd
  rw [hcontrol.zeroReturn] at hz
  rw [hcontrol.target] at h0 hle
  rw [hcontrol.targetInterruptEnabled] at hen
  have hr' : c.targetReached = false := by
    by_contra hr'
    rw [Bool.not_eq_false] at hr'
    rw [hcontrol.targetReached hr'] at hr
    cases hr
  rcases tick_cases h with ⟨hc, ht, he⟩ | ⟨-, -, -, he⟩ | ⟨-, -, hnot, -⟩ | ⟨-, -, -, he⟩ |
    ⟨-, -, hzero, -⟩
  · rw [he] at hafter hle
    exact ⟨hz, h0, hen, hr', hafter, by simp only at hle; omega⟩
  · rw [he] at hafter
    cases hafter
  · exact absurd ⟨hz, h0⟩ hnot
  · rw [he] at hafter
    unfold raiseOverflowInterrupt at hafter
    split at hafter <;> cases hafter
  · exact absurd hzero h0

/-- What drops a compare late drops it from the start. -/
theorem drops_ticks (h : Settled c) (hd : Drops (ticks m c).1 n) : Drops c (m + n) := by
  induction m generalizing c with
  | zero => rwa [Nat.zero_add]
  | succ m ih =>
    rw [Nat.add_right_comm]
    exact drops_tick h (ih (settled_tick h) hd)

theorem Drops.mono (hd : Drops c m) (hle : m ≤ n) : Drops c n :=
  ⟨hd.1, hd.2.1, hd.2.2.1, hd.2.2.2.1, hd.2.2.2.2.1, hd.2.2.2.2.2.trans hle⟩

/-! ## Whole periods -/

theorem ticks_quiet (hc : c.count + n ≤ 0xffff)
    (ht : c.targetAfterOverflow = true ∨ c.count + n < c.target) :
    ticks n c = ({ c with count := c.count + n }, false) := by
  induction n generalizing c with
  | zero => rfl
  | succ n ih =>
    have htick : c.tick = ({ c with count := c.count + 1 }, false) :=
      tick_quiet (by omega) (ht.imp_right fun hlt => by omega)
    have hrest := ih (c := { c with count := c.count + 1 }) (by simp only; omega)
      (ht.imp_right fun hlt => by simp only; omega)
    rw [ticks, htick]
    simp only
    rw [hrest, Bool.false_or]
    simp only [Nat.add_right_comm c.count 1 n, Nat.add_assoc]

/-- A counter that returns to zero, armed, with nothing to raise. -/
structure Cycling (c : Counter) : Prop where
  zeroReturn : c.zeroReturn = true
  armed : c.targetAfterOverflow = false
  count_lt : c.count < c.target
  silent : c.targetInterruptEnabled = false ∨ c.targetReached = true

theorem raiseTargetInterrupt_silent
    (h : c.targetInterruptEnabled = false ∨ c.targetReached = true) :
    c.raiseTargetInterrupt = (c, false) := by
  rcases c.raiseTargetInterrupt_cases with ⟨-, he⟩ | ⟨hen, hr, -⟩
  · exact he
  · rw [hen, hr] at h
    exact absurd h (by decide)

/-- An armed counter reaches its target. -/
theorem ticks_to_target (h : Settled c) (ha : c.targetAfterOverflow = false)
    (hlt : c.count < c.target) (hz : c.zeroReturn = true) :
    ticks (c.target - c.count) c =
      ({ c.raiseTargetInterrupt.1 with count := 0, targetAfterOverflow := false },
        c.raiseTargetInterrupt.2) := by
  have hpos : 0 < c.target - c.count := Nat.sub_pos_of_lt hlt
  have hsum : c.count + (c.target - c.count) = c.target := Nat.add_sub_cancel' hlt.le
  have h0 : c.target ≠ 0 := Nat.ne_of_gt (Nat.zero_lt_of_lt hlt)
  have hreturn := processTarget_return (c := { c with count := c.target }) ha rfl hz h0
  rw [raiseTargetInterrupt_count] at hreturn
  rw [← processCounterConditions_eq_ticks h hpos (untilCondition_of_armed h ha hlt).ge, hsum,
    processCounterConditions_of_le (c := { c with count := c.target }) h.target_le, hreturn, ha]

/-- **A whole period changes nothing.** -/
theorem Cycling.ticks_target (hs : Settled c) (h : Cycling c) : ticks c.target c = (c, false) := by
  have hzero : { c with count := 0, targetAfterOverflow := false } = { c with count := 0 } := by
    rw [← h.armed]
  have hback : ticks c.count { c with count := 0 } = (c, false) := by
    rw [ticks_quiet] <;> simp only [Nat.zero_add]
    · exact hs.count_le
    · exact Or.inr h.count_lt
  have hsum : c.target = (c.target - c.count) + c.count := (Nat.sub_add_cancel h.count_lt.le).symm
  rw [hsum, ticks_add, ticks_to_target hs h.armed h.count_lt h.zeroReturn,
    raiseTargetInterrupt_silent h.silent, hzero, hback]
  rfl

theorem Cycling.ticks_periods (hs : Settled c) (h : Cycling c) (k : Nat) :
    ticks (k * c.target) c = (c, false) := by
  induction k with
  | zero => rw [Nat.zero_mul, ticks]
  | succ k ih =>
    rw [Nat.succ_mul, ticks_add, ih]
    simp only
    rw [h.ticks_target hs]
    rfl

theorem collapses_iff : c.collapses = true ↔ c.zeroReturn = true ∧ c.target ≠ 0 ∧
    c.targetAfterOverflow = false ∧ c.count < c.target := decide_eq_true_iff

/-- Dropping whole periods, where it drops nothing. -/
theorem ticks_collapse (h : Settled c) (hc : c.collapses = true)
    (hs : c.target ≤ n → c.targetInterruptEnabled = false ∨ c.targetReached = true) :
    ticks (n - n / c.target * c.target) c = ticks n c := by
  obtain ⟨hz, h0, ha, hlt⟩ := collapses_iff.mp hc
  by_cases hle : c.target ≤ n
  · have hcycling : Cycling c := ⟨hz, ha, hlt, hs hle⟩
    have hsum : n = n / c.target * c.target + (n - n / c.target * c.target) :=
      (Nat.add_sub_cancel' (Nat.div_mul_le_self n c.target)).symm
    conv_rhs => rw [hsum, ticks_add, hcycling.ticks_periods h]
    simp only
    rw [Bool.false_or]
  · rw [Nat.div_eq_of_lt (Nat.lt_of_not_le hle), Nat.zero_mul, Nat.sub_zero]

theorem untilCondition_le (h : Settled c) : c.untilCondition ≤ 0x10000 - c.count := by
  have hle := h.target_le
  rcases Bool.eq_false_or_eq_true c.targetAfterOverflow with ha | ha
  · rw [untilCondition_of_passed h (Or.inl ha)]
  · by_cases hlt : c.count < c.target
    · rw [untilCondition_of_armed h ha hlt]
      omega
    · rw [untilCondition_of_passed h (Or.inr (Nat.le_of_not_lt hlt))]

/-- An armed counter that gets to its target latches the compare. -/
theorem targetReached_ticks (h : Settled c) (ha : c.targetAfterOverflow = false)
    (hlt : c.count < c.target) (hz : c.zeroReturn = true) (hen : c.targetInterruptEnabled = true)
    (hn : c.target - c.count ≤ n) : (ticks n c).1.targetReached = true := by
  have hsum : n = (c.target - c.count) + (n - (c.target - c.count)) :=
    (Nat.add_sub_cancel' hn).symm
  rw [hsum, ticks_add]
  refine (sameControl_ticks _ _).targetReached ?_
  rw [ticks_to_target h ha hlt hz]
  have hset : (c.mode ||| kModeTargetReached) &&& kModeTargetReached ≠ 0 := by
    rw [Nat.and_or_distrib_right, Nat.and_self]
    exact fun hzero => absurd (Nat.eq_zero_of_le_zero (hzero ▸ Nat.right_le_or)) (by decide)
  rcases c.raiseTargetInterrupt_cases with ⟨hs, he⟩ | ⟨-, -, he⟩
  · rw [he]
    exact hs.resolve_left (by rw [hen]; exact nofun)
  · rw [he]
    exact decide_eq_true hset

/-- After the first condition of a batch that drops no compare, there is nothing to raise in a
period. -/
theorem silent_of_not_drops (h : Settled c) (hd : ¬ Drops c n)
    (hc : (ticks (min n c.untilCondition) c).1.collapses = true)
    (hle : c.target ≤ n - min n c.untilCondition) :
    (ticks (min n c.untilCondition) c).1.targetInterruptEnabled = false ∨
      (ticks (min n c.untilCondition) c).1.targetReached = true := by
  obtain ⟨hz, h0, -, -⟩ := collapses_iff.mp hc
  have hcontrol := sameControl_ticks (min n c.untilCondition) c
  rw [hcontrol.zeroReturn] at hz
  rw [hcontrol.target] at h0
  have hmin : min n c.untilCondition = c.untilCondition := by omega
  by_contra hnot
  obtain ⟨hen, hr⟩ := not_or.mp hnot
  rw [Bool.not_eq_false, hcontrol.targetInterruptEnabled] at hen
  rw [Bool.not_eq_true] at hr
  rcases Bool.eq_false_or_eq_true c.targetAfterOverflow with ha | ha
  · -- the counter overflowed: a drop
    rw [hmin, untilCondition_of_passed h (Or.inl ha)] at hle
    refine hd ⟨hz, h0, hen, ?_, ha, by omega⟩
    by_contra hr'
    rw [Bool.not_eq_false] at hr'
    rw [hcontrol.targetReached hr'] at hr
    cases hr
  · -- the counter reached its target, and raised
    have hlt : c.count < c.target := (h.armed ha).resolve_right fun hzero => h0 hzero.2
    have hreached := targetReached_ticks h ha hlt hz hen le_rfl
    rw [hmin, untilCondition_of_armed h ha hlt, hreached] at hr
    cases hr

/-- One step of the loop of `addCounterTicks`. -/
theorem addCounterTicks_step (h : Settled c) (hn : n ≠ 0) :
    addCounterTicks n c =
      let processed := ticks (min n c.untilCondition) c
      let remaining := n - min n c.untilCondition
      let remaining :=
        if processed.1.collapses then
          remaining - remaining / processed.1.target * processed.1.target
        else remaining
      let rest := addCounterTicks remaining processed.1
      (rest.1, processed.2 || rest.2) := by
  have hpos : 0 < min n c.untilCondition :=
    lt_min (Nat.pos_of_ne_zero hn) c.untilCondition_pos
  have hwrap : (c.count + min n c.untilCondition) % 2 ^ 32 = c.count + min n c.untilCondition := by
    have hcount := h.count_le
    have hle := untilCondition_le h
    omega
  conv_lhs => unfold addCounterTicks
  rw [if_neg hn]
  simp only
  rw [hwrap, processCounterConditions_eq_ticks h hpos (Nat.min_le_right _ _)]

/-- **Many ticks at once are the same ticks one at a time**, unless the batch drops a compare. The
induction is on the ticks, which each step of the loop brings down. -/
theorem addCounterTicks_eq_ticks (h : Settled c) (hd : ¬ Drops c n) :
    addCounterTicks n c = ticks n c := by
  induction n using Nat.strong_induction_on generalizing c with
  | _ n ih =>
    by_cases h0 : n = 0
    · unfold addCounterTicks
      rw [if_pos h0, h0, ticks]
    · have hpos : 0 < min n c.untilCondition :=
        lt_min (Nat.pos_of_ne_zero h0) c.untilCondition_pos
      have hsum : min n c.untilCondition + (n - min n c.untilCondition) = n :=
        Nat.add_sub_cancel' (Nat.min_le_left _ _)
      have hset := settled_ticks h (min n c.untilCondition)
      have hcontrol := sameControl_ticks (min n c.untilCondition) c
      have hd' : ¬ Drops (ticks (min n c.untilCondition) c).1 (n - min n c.untilCondition) :=
        fun hd' => hd (hsum ▸ drops_ticks h hd')
      have hrest : ∀ k ≤ n - min n c.untilCondition,
          addCounterTicks k (ticks (min n c.untilCondition) c).1 =
            ticks k (ticks (min n c.untilCondition) c).1 :=
        fun k hk => ih k (by omega) hset fun hk' => hd' (hk'.mono hk)
      rw [addCounterTicks_step h h0]
      conv_rhs => rw [← hsum, ticks_add]
      simp only
      split
      · rename_i hc
        rw [hrest _ (Nat.sub_le _ _), ticks_collapse hset hc]
        intro hle
        exact silent_of_not_drops h hd hc (hcontrol.target ▸ hle)
      · rw [hrest _ le_rfl]

/-! ## A batch that drops a compare -/

/-- A counter past its target overflows. -/
theorem ticks_to_overflow (h : Settled c) (ha : c.targetAfterOverflow = true) (h0 : c.target ≠ 0) :
    ticks (0x10000 - c.count) c =
      raiseOverflowInterrupt { c with count := 0, targetAfterOverflow := false } := by
  have hcount := h.count_le
  have hsum : c.count + (0x10000 - c.count) = 0x10000 := by omega
  have hquiet : ∀ d : Counter, d.count = 0 → d.target = c.target → d.processTarget = (d, false) :=
    fun d hd ht => if_pos (Or.inr (by omega))
  have hcontrol := (SameControl.update c 0 false c.startCycle).trans
    (sameControl_raiseOverflowInterrupt { c with count := 0, targetAfterOverflow := false })
  rw [← processCounterConditions_eq_ticks h (by omega) (untilCondition_of_passed h (Or.inl ha)).ge,
    hsum]
  unfold processCounterConditions
  rw [processOverflow_of_eq (c := { c with count := 0x10000 }) rfl]
  simp only
  rw [hquiet _ ?_ hcontrol.target, Bool.or_false]
  unfold raiseOverflowInterrupt
  split <;> rfl

theorem raiseOverflowInterrupt_fields (c : Counter) :
    c.raiseOverflowInterrupt.1.count = c.count ∧
      c.raiseOverflowInterrupt.1.targetAfterOverflow = c.targetAfterOverflow ∧
      c.raiseOverflowInterrupt.1.targetReached = c.targetReached := by
  rcases c.raiseOverflowInterrupt_cases with ⟨-, he⟩ | ⟨-, -, he⟩
  · rw [he]
    exact ⟨rfl, rfl, rfl⟩
  · rw [he]
    refine ⟨rfl, rfl, ?_⟩
    unfold targetReached
    simp only
    rw [and_or_of_disjoint rfl]

/-- The counter a dropping batch has once it overflowed. -/
structure Overflowed (c c' : Counter) : Prop where
  control : SameControl c c'
  count : c'.count = 0
  armed : c'.targetAfterOverflow = false
  reached : c'.targetReached = c.targetReached

theorem Drops.overflowed (h : Settled c) (hd : Drops c n) :
    Overflowed c (ticks (0x10000 - c.count) c).1 := by
  obtain ⟨-, h0, -, -, ha, -⟩ := hd
  have hcontrol := sameControl_ticks (0x10000 - c.count) c
  obtain ⟨hc, hf, hr⟩ := raiseOverflowInterrupt_fields
    { c with count := 0, targetAfterOverflow := false }
  rw [ticks_to_overflow h ha h0] at hcontrol ⊢
  exact ⟨hcontrol, hc, hf, hr⟩

theorem not_drops_of_armed (ha : c.targetAfterOverflow = false) : ¬ Drops c n := by
  rintro ⟨-, -, -, -, ha', -⟩
  rw [ha] at ha'
  cases ha'

/-- **A dropping batch latches nothing.** -/
theorem Drops.addCounterTicks (h : Settled c) (hd : Drops c n) :
    (addCounterTicks n c).1.targetReached = false := by
  have hover := hd.overflowed h
  obtain ⟨hz, h0, -, hr, ha, hle⟩ := hd
  have hset := settled_ticks h (0x10000 - c.count)
  have hcount := h.count_le
  have htarget := h.target_le
  have hmin : min n c.untilCondition = 0x10000 - c.count := by
    rw [untilCondition_of_passed h (Or.inl ha)]
    omega
  have hcollapses : (ticks (0x10000 - c.count) c).1.collapses = true := by
    rw [collapses_iff, hover.control.zeroReturn, hover.control.target, hover.count]
    exact ⟨hz, h0, hover.armed, Nat.pos_of_ne_zero h0⟩
  have hmod := Nat.mod_lt (n - (0x10000 - c.count)) (Nat.pos_of_ne_zero h0)
  rw [addCounterTicks_step h (by omega)]
  simp only
  rw [hmin, if_pos hcollapses, hover.control.target, ← Nat.mod_eq_sub_div_mul,
    addCounterTicks_eq_ticks hset (not_drops_of_armed hover.armed), ticks_quiet]
  · exact hover.reached.trans hr
  · rw [hover.count]
    omega
  · rw [hover.count, hover.control.target]
    exact Or.inr (by omega)

/-- **The same batch in two latches the compare.** -/
theorem Drops.addCounterTicks_twice (h : Settled c) (hd : Drops c n) :
    (Counter.addCounterTicks (n - (0x10000 - c.count))
      (Counter.addCounterTicks (0x10000 - c.count) c).1).1.targetReached = true := by
  have hover := hd.overflowed h
  obtain ⟨hz, h0, hen, -, -, hle⟩ := hd
  have hset := settled_ticks h (0x10000 - c.count)
  have hfirst : ¬ Drops c (0x10000 - c.count) := by
    rintro ⟨-, -, -, -, -, hle'⟩
    omega
  rw [addCounterTicks_eq_ticks h hfirst,
    addCounterTicks_eq_ticks hset (not_drops_of_armed hover.armed)]
  refine targetReached_ticks hset hover.armed ?_ ?_ ?_ ?_
  · rw [hover.count, hover.control.target]
    exact Nat.pos_of_ne_zero h0
  · rw [hover.control.zeroReturn, hz]
  · rw [hover.control.targetInterruptEnabled, hen]
  · rw [hover.count, hover.control.target]
    omega

/-! ## The start of a counter does not matter to its ticks -/

theorem raiseTargetInterrupt_start (c : Counter) (start : Nat) :
    raiseTargetInterrupt { c with startCycle := start } =
      ({ c.raiseTargetInterrupt.1 with startCycle := start }, c.raiseTargetInterrupt.2) := by
  unfold raiseTargetInterrupt targetInterruptEnabled targetReached
  simp only
  split <;> rfl

theorem raiseOverflowInterrupt_start (c : Counter) (start : Nat) :
    raiseOverflowInterrupt { c with startCycle := start } =
      ({ c.raiseOverflowInterrupt.1 with startCycle := start }, c.raiseOverflowInterrupt.2) := by
  unfold raiseOverflowInterrupt overflowInterruptEnabled overflowReached
  simp only
  split <;> rfl

theorem processOverflow_start (c : Counter) (start : Nat) :
    processOverflow { c with startCycle := start } =
      ({ c.processOverflow.1 with startCycle := start }, c.processOverflow.2) := by
  unfold processOverflow
  simp only
  split
  · exact raiseOverflowInterrupt_start
      { c with count := c.count - 0x10000, targetAfterOverflow := false } start
  · rfl

theorem processTarget_start (c : Counter) (start : Nat) :
    processTarget { c with startCycle := start } =
      ({ c.processTarget.1 with startCycle := start }, c.processTarget.2) := by
  unfold processTarget
  rw [raiseTargetInterrupt_start]
  unfold zeroReturn
  simp only
  split
  · rfl
  · split <;> rfl

theorem tick_start (c : Counter) (start : Nat) :
    tick { c with startCycle := start } = ({ c.tick.1 with startCycle := start }, c.tick.2) := by
  have hoverflow := processOverflow_start { c with count := c.count + 1 } start
  unfold tick processCounterConditions
  simp only
  rw [hoverflow]
  simp only
  rw [processTarget_start]

theorem ticks_start (n : Nat) (c : Counter) (start : Nat) :
    ticks n { c with startCycle := start } =
      ({ (ticks n c).1 with startCycle := start }, (ticks n c).2) := by
  induction n generalizing c with
  | zero => rfl
  | succ n ih =>
    rw [ticks, ticks, tick_start]
    simp only
    rw [ih]

/-! ## What a batch keeps -/

theorem settled_addCounterTicks (h : Settled c) (n : Nat) : Settled (addCounterTicks n c).1 := by
  induction n using Nat.strong_induction_on generalizing c with
  | _ n ih =>
    by_cases h0 : n = 0
    · unfold addCounterTicks
      rw [if_pos h0]
      exact h
    · have hpos : 0 < min n c.untilCondition :=
        lt_min (Nat.pos_of_ne_zero h0) c.untilCondition_pos
      rw [addCounterTicks_step h h0]
      simp only
      refine ih _ ?_ (settled_ticks h _)
      split
      · exact lt_of_le_of_lt (Nat.sub_le _ _) (by omega)
      · omega

theorem sameControl_addCounterTicks (h : Settled c) (n : Nat) :
    SameControl c (addCounterTicks n c).1 := by
  induction n using Nat.strong_induction_on generalizing c with
  | _ n ih =>
    by_cases h0 : n = 0
    · unfold addCounterTicks
      rw [if_pos h0]
      exact .refl c
    · have hpos : 0 < min n c.untilCondition :=
        lt_min (Nat.pos_of_ne_zero h0) c.untilCondition_pos
      rw [addCounterTicks_step h h0]
      simp only
      refine (sameControl_ticks _ c).trans (ih _ ?_ (settled_ticks h _))
      split
      · exact lt_of_le_of_lt (Nat.sub_le _ _) (by omega)
      · omega

theorem addCounterTicks_start (h : Settled c) (n start : Nat) :
    addCounterTicks n { c with startCycle := start } =
      ({ (addCounterTicks n c).1 with startCycle := start }, (addCounterTicks n c).2) := by
  induction n using Nat.strong_induction_on generalizing c with
  | _ n ih =>
    by_cases h0 : n = 0
    · unfold addCounterTicks
      rw [if_pos h0, if_pos h0]
    · have hpos : 0 < min n c.untilCondition :=
        lt_min (Nat.pos_of_ne_zero h0) c.untilCondition_pos
      have hset : Settled { c with startCycle := start } := ⟨h.count_le, h.target_le, h.armed⟩
      have huntil : untilCondition { c with startCycle := start } = c.untilCondition := rfl
      rw [addCounterTicks_step h h0, addCounterTicks_step hset h0, huntil, ticks_start]
      have hcollapses : collapses { (ticks (min n c.untilCondition) c).1 with startCycle := start } =
          (ticks (min n c.untilCondition) c).1.collapses := rfl
      simp only
      rw [hcollapses, ih _ ?_ (settled_ticks h _)]
      split
      · exact lt_of_le_of_lt (Nat.sub_le _ _) (by omega)
      · omega

theorem addCounterTicks_startCycle (h : Settled c) (n : Nat) :
    (addCounterTicks n c).1.startCycle = c.startCycle := by
  have hstart := addCounterTicks_start h n c.startCycle
  exact congrArg (fun p : Counter × Bool => p.1.startCycle) hstart

end Counter

end Ps2Recomp
