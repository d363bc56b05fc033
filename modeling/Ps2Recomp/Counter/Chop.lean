import Ps2Recomp.Counter.Advance

/-!
# Polling the counters

The runtime advances the bank whenever it happens to poll a register. `advanceTo_chop_iff` says when
that makes no difference: exactly if no batch of ticks on the way drops a compare. A batch that does
latches no target interrupt; the same ticks, polled once right after the overflow, latch it.
-/

namespace Ps2Recomp

open Machine EventDriven

namespace EeCounterBank

open Counter EeCounterAdvanceResult

variable {s : EeCounterBank} {c : Counter} {a b b' t n : Nat}

/-- Catching up with `t` drops a compare of some counter. -/
def DropsCompare (s : EeCounterBank) (t : Nat) : Prop := ∃ index, s.DropsAt t (s.counters index)

/-! ## Without a drop -/

/-- **The bank may catch up in two steps**, if that drops no compare. -/
theorem splits_of_not_drops (ht : t ≤ maximum) (hd : ¬ s.DropsCompare t) :
    bankSystem.Splits t s := by
  intro a hle hready
  have hsplit := fun index =>
    s.synchronizeInternalCounter_split ((hready : ∀ index, Counting a (s.counters index)) index)
      hle ht fun hd' => hd ⟨index, hd'⟩
  constructor
  · show { s with counters := _ } = ({ s with counters := _ } : EeCounterBank)
    congr 1
    funext index
    exact (hsplit index).1
  · show ofRaised _ = ofRaised _ + ofRaised _
    rw [← ofRaised_or]
    congr 1
    funext index
    exact (hsplit index).2

theorem segments_le (hb : b ≤ maximum) : ∀ p ∈ s.segments b, p.1 ≤ maximum := by
  induction s using processEdges.induct b with
  | case1 s hstop =>
    rw [(advanced_stop hstop).2]
    intro p hp
    rw [List.mem_singleton.mp hp]
    exact hb
  | case2 s hgo ih =>
    rw [(advanced_edge hgo).2]
    intro p hp
    rcases List.mem_cons.mp hp with rfl | hp
    · exact s.nextEdge_le
    · exact ih p hp

/-- The segments of a shorter advance are those of the longer one, the last cut short. -/
theorem segments_mono (hle : b' ≤ b) : ∀ p ∈ s.segments b', ∃ q ∈ s.segments b,
    q.2 = p.2 ∧ p.1 ≤ q.1 := by
  induction s using processEdges.induct b' with
  | case1 s hstop =>
    rw [(advanced_stop hstop).2]
    intro p hp
    rw [List.mem_singleton.mp hp]
    by_cases hstop' : s.nextEdge > b ∨ s.nextEdge = maximum
    · rw [(advanced_stop hstop').2]
      exact ⟨(b, s), List.mem_singleton_self _, rfl, hle⟩
    · rw [(advanced_edge hstop').2]
      have hlt : s.nextEdge > b' := hstop.resolve_right (not_or.mp hstop').2
      exact ⟨(s.nextEdge, s), List.mem_cons_self, rfl, hlt.le⟩
  | case2 s hgo ih =>
    obtain ⟨hnot, hne⟩ := not_or.mp hgo
    have hgo' : ¬ (s.nextEdge > b ∨ s.nextEdge = maximum) :=
      not_or.mpr ⟨Nat.not_lt.mpr ((Nat.le_of_not_lt hnot).trans hle), hne⟩
    rw [(advanced_edge hgo).2, (advanced_edge hgo').2]
    intro p hp
    rcases List.mem_cons.mp hp with rfl | hp
    · exact ⟨_, List.mem_cons_self, rfl, le_rfl⟩
    · obtain ⟨q, hq, hsame, hle'⟩ := ih p hp
      exact ⟨q, List.mem_cons_of_mem _ hq, hsame, hle'⟩

theorem DropsCompare.mono (h : s.DropsCompare t) (hle : t ≤ n) : s.DropsCompare n := by
  obtain ⟨index, hclock, hcan, hd⟩ := h
  exact ⟨index, hclock, hcan, hd.mono (internalTicks_mono hle _)⟩

/-- **An advance that drops no compare can be chopped.** -/
theorem advanced_chop (h : Timed t s) (hta : t ≤ a) (hab : a ≤ b) (hb : b ≤ maximum)
    (hsafe : ∀ p ∈ s.segments b, ¬ p.2.DropsCompare p.1) :
    ((s.advanced a).1.advanced b).1 = (s.advanced b).1 ∧
      (s.advanced b).2 = (s.advanced a).2 + ((s.advanced a).1.advanced b).2 := by
  have hsplit : ∀ p ∈ s.segments b, bankSystem.Splits p.1 p.2 := fun p hp =>
    splits_of_not_drops (segments_le hb p hp) (hsafe p hp)
  obtain ⟨segments₂, r₂, hadv, hsum⟩ := (advances a s).chop (advances b s) hab
    (show bankSystem.Ready t s from h.counting) hta h.edge hsplit
  obtain ⟨hstate, hresult⟩ := (advances b (s.advanced a).1).unique hadv
  exact ⟨hstate, hresult ▸ hsum⟩

/-! ## With a drop -/

/-- Right after an edge there is no tick to make. -/
theorem mode_synchronize_caughtUp (s : EeCounterBank) (h : Counting t c) (hc : CaughtUp t c)
    (hclock : c.clockSource ≠ 3) (ht : t ≤ maximum) :
    (s.synchronizeInternalCounter t c).1.mode = c.mode := by
  have hlt := hc hclock
  have hle := h.start_le
  have h0 : internalTicks t c = 0 := by
    unfold internalTicks
    exact Nat.div_eq_of_lt (by omega)
  rw [s.synchronizeInternalCounter_internal h.settled hclock h.start_le ht, h0]
  unfold counted addCounterTicks
  split <;> rfl

/-- An edge leaves the mode of a counter with an internal clock source. -/
theorem mode_edgeAt (s : EeCounterBank) (cycle : Nat) (index : CounterIndex)
    (hclock : (s.counters index).clockSource ≠ 3) :
    ((s.edgeAt cycle).1.counters index).mode = (s.counters index).mode := by
  have hgate : ∀ vblank rising (c : Counter), (gateEdge vblank rising cycle c).mode = c.mode := by
    intro vblank rising c
    unfold gateEdge resetCounterAtGate
    split
    · rfl
    · split
      · rfl
      · split <;> rfl
      · split <;> rfl
      · rfl
      · rfl
  have htick : s.hBlankTick (s.counters index) = (s.counters index, false) :=
    if_neg fun h => hclock h.1
  unfold edgeAt
  split
  · unfold processVSyncEdge
    split
    · exact hgate true true _
    · exact hgate true false _
  · unfold processHSyncEdge
    split
    · refine (hgate false true _).trans ?_
      show (s.hBlankTick (s.counters index)).1.mode = _
      rw [htick]
    · exact hgate false false _

/-- What an advance to the next edge, or short of it, makes of the mode of a counter. -/
theorem mode_advanced (h : Timed t s) (hle : t ≤ n) (hn : n ≤ s.nextEdge) (index : CounterIndex)
    (hclock : (s.counters index).clockSource ≠ 3) :
    ((s.advanced n).1.counters index).mode =
      (s.synchronizeInternalCounter n (s.counters index)).1.mode := by
  have hlimit : n ≤ maximum := hn.trans s.nextEdge_le
  induction s using processEdges.induct n generalizing t with
  | case1 s hstop =>
    rw [(advanced_stop hstop).1]
    rfl
  | case2 s hgo ih =>
    obtain ⟨hnot, hne⟩ := not_or.mp hgo
    have heq : n = s.nextEdge := le_antisymm hn (Nat.le_of_not_lt hnot)
    have hlt : s.nextEdge < maximum := lt_of_le_of_ne s.nextEdge_le hne
    have hcontrol := sameControl_synchronizeInternalCounter s (h.counting index) hle hlimit
    have hclock' : (s.synchronizeInternalCounter n (s.counters index)).1.clockSource ≠ 3 :=
      hcontrol.clockSource.trans_ne hclock
    have hmode : (s.processEdge.1.counters index).mode =
        (s.synchronizeInternalCounter n (s.counters index)).1.mode := by
      rw [processEdge_eq, heq] at *
      exact mode_edgeAt _ _ index hclock'
    have htimed : Timed n s.processEdge.1 := heq ▸ timed_processEdge h hlt
    have hclock'' : (s.processEdge.1.counters index).clockSource ≠ 3 := by
      unfold Counter.clockSource
      rw [hmode]
      exact hclock'
    rw [(advanced_edge hgo).1]
    simp only
    rw [ih htimed le_rfl htimed.edge hclock'',
      mode_synchronize_caughtUp _ (htimed.counting index) (htimed.caughtUp index) hclock'' hlimit,
      hmode]

/-- **A drop shows**: polled right after the overflow, the counter latches the compare that the
batch drops. -/
theorem chop_ne_of_drops (h : Timed t s) (htn : t ≤ n) (hn : n ≤ s.nextEdge)
    (hd : s.DropsCompare n) :
    ∃ a, t ≤ a ∧ a ≤ n ∧
      ((s.advanced a).1.advanced n).1.counters ≠ (s.advanced n).1.counters := by
  obtain ⟨index, hclock, hcan, hdrops⟩ := hd
  have hlimit : n ≤ maximum := hn.trans s.nextEdge_le
  have hcounting := h.counting index
  have hset := hcounting.settled
  have hcount := hset.count_le
  have hstart := hcounting.start_le
  have hpos := (hcounting.rate hclock).pos
  have hcaught := h.caughtUp index hclock
  -- the cycle of the overflow
  generalize hk : 0x10000 - (s.counters index).count = k
  generalize hc : s.counters index = c at *
  have hkpos : 0 < k := by omega
  have hkn : c.target + k ≤ internalTicks n c := hk ▸ hdrops.2.2.2.2.2
  have htarget : 0 < c.target := Nat.pos_of_ne_zero hdrops.2.1
  have hmul : k * c.rate < internalTicks n c * c.rate :=
    Nat.mul_lt_mul_of_pos_right (by omega) hpos
  have hticks := internalTicks_mul_le n c
  have hrate : c.rate ≤ k * c.rate := Nat.le_mul_of_pos_left _ hkpos
  have hpoll : internalTicks (c.startCycle + k * c.rate) c = k := by
    unfold internalTicks
    rw [Nat.add_sub_cancel_left, Nat.mul_div_cancel _ hpos]
  have hta : t ≤ c.startCycle + k * c.rate := by omega
  have han : c.startCycle + k * c.rate < n := by omega
  refine ⟨c.startCycle + k * c.rate, hta, han.le, fun heq => ?_⟩
  have hstop : s.nextEdge > c.startCycle + k * c.rate ∨ s.nextEdge = maximum :=
    Or.inl (han.trans_le hn)
  have hfirst := (advanced_stop hstop).1
  have htimed := timed_advanced h hta (han.le.trans hlimit)
  have hcan' : s.canCount (Counter.addCounterTicks k c).1 = true :=
    (s.canCount_sameControl (sameControl_addCounterTicks hset k)).trans hcan
  -- the advance in one batch
  have hwhole : ((s.advanced n).1.counters index).mode =
      (Counter.addCounterTicks (internalTicks n c) c).1.mode := by
    rw [mode_advanced h htn hn index (hc ▸ hclock), hc,
      s.synchronizeInternalCounter_internal hset hclock (hstart.trans htn) hlimit]
    unfold counted
    rw [if_pos hcan]
  -- the advance polled after the overflow
  have hpolled : (((s.advanced (c.startCycle + k * c.rate)).1.advanced n).1.counters index).mode =
      (Counter.addCounterTicks (internalTicks n c - k) (Counter.addCounterTicks k c).1).1.mode := by
    have hcounter : (s.advanced (c.startCycle + k * c.rate)).1.counters index =
        (s.synchronizeInternalCounter (c.startCycle + k * c.rate) c).1 := by
      rw [hfirst, ← hc]
      rfl
    have hcontrol := sameControl_synchronizeInternalCounter s hcounting hta (han.le.trans hlimit)
    have hedge : n ≤ (s.advanced (c.startCycle + k * c.rate)).1.nextEdge := by
      rw [hfirst]
      exact hn
    rw [mode_advanced htimed han.le hedge index
      (by rw [hcounter]; exact hcontrol.clockSource.trans_ne hclock), hcounter, hfirst]
    have htwice := s.synchronizeInternalCounter_twice (hcounting.mono hta) hclock han.le hlimit
    rw [hpoll] at htwice
    show (s.synchronizeInternalCounter n _).1.mode = _
    rw [htwice]
    unfold counted
    rw [if_pos hcan, if_pos hcan']
  -- the one latches the compare, the other does not
  have hmode : (Counter.addCounterTicks (internalTicks n c - k) (Counter.addCounterTicks k c).1).1.mode =
      (Counter.addCounterTicks (internalTicks n c) c).1.mode := by
    rw [← hpolled, ← hwhole, heq]
  have hreached := hdrops.addCounterTicks_twice hset
  have hmissed := hdrops.addCounterTicks hset
  rw [hk] at hreached
  unfold targetReached at hreached hmissed
  rw [hmode] at hreached
  exact absurd (hreached.symm.trans hmissed) Bool.noConfusion

/-- An advance on the way to which a compare is dropped can be chopped so that it shows. -/
theorem exists_chop_ne (h : Timed t s) (htb : t ≤ b) (hb : b ≤ maximum)
    (hd : ∃ p ∈ s.segments b, p.2.DropsCompare p.1) :
    ∃ a b', t ≤ a ∧ a ≤ b' ∧ b' ≤ b ∧
      ((s.advanced a).1.advanced b').1.counters ≠ (s.advanced b').1.counters := by
  induction s using processEdges.induct b generalizing t with
  | case1 s hstop =>
    obtain ⟨p, hp, hd⟩ := hd
    rw [(advanced_stop hstop).2, List.mem_singleton] at hp
    subst hp
    have hbn : b ≤ s.nextEdge := by
      rcases hstop with hlt | heq
      · exact hlt.le
      · exact heq ▸ hb
    obtain ⟨a, hta, hab, hne⟩ := chop_ne_of_drops h htb hbn hd
    exact ⟨a, b, hta, hab, le_rfl, hne⟩
  | case2 s hgo ih =>
    obtain ⟨hnot, hnmax⟩ := not_or.mp hgo
    have hle : s.nextEdge ≤ b := Nat.le_of_not_lt hnot
    have hlt : s.nextEdge < maximum := lt_of_le_of_ne s.nextEdge_le hnmax
    obtain ⟨p, hp, hd⟩ := hd
    rw [(advanced_edge hgo).2] at hp
    rcases List.mem_cons.mp hp with rfl | hp
    · obtain ⟨a, hta, han, hne⟩ := chop_ne_of_drops h h.edge le_rfl hd
      exact ⟨a, s.nextEdge, hta, han, hle, hne⟩
    · obtain ⟨a, b', hea, hab, hbb, hne⟩ := ih (timed_processEdge h hlt) hle ⟨p, hp, hd⟩
      have hpass : ∀ d, s.nextEdge ≤ d → (s.advanced d).1 = (s.processEdge.1.advanced d).1 := by
        intro d hd
        have hgo' : ¬ (s.nextEdge > d ∨ s.nextEdge = maximum) :=
          not_or.mpr ⟨Nat.not_lt.mpr hd, hnmax⟩
        rw [(advanced_edge hgo').1]
      refine ⟨a, b', h.edge.trans hea, hab, hbb, ?_⟩
      rw [hpass a hea, hpass b' (hea.trans hab)]
      exact hne

/-! ## Polling -/

/-- `advanceTo(a)` and then `advanceTo(b)` do what `advanceTo(b)` does alone. -/
def Chops (s : EeCounterBank) (a b : Nat) : Prop :=
  let first := s.advanceTo a
  let second := first.1.advanceTo b
  second.1 = (s.advanceTo b).1 ∧ first.2 + second.2 = (s.advanceTo b).2

theorem advanceTo_advanceTo (ha : s.currentCycle ≤ a) (hab : a ≤ b) :
    (s.advanceTo a).1.advanceTo b =
      ({ ((s.advanced a).1.advanced b).1 with currentCycle := b },
        ((s.advanced a).1.advanced b).2) := by
  have hcycle : (s.advanceTo a).1.currentCycle ≤ b := by
    rw [advanceTo_eq ha]
    exact hab
  rw [advanceTo_eq hcycle, advanceTo_eq ha]
  simp only
  rw [advanced_currentCycle]

/-- **When polling makes no difference.** After any run of operations in order, `advanceTo` may be
chopped anywhere up to `b` if and only if no batch of ticks on the way to `b` drops a compare. -/
theorem advanceTo_chop_iff {ops : List BankOp} (hops : Along BankOp.run BankOp.InOrder new ops)
    (b : EeTick) (hb : (run BankOp.run new ops).currentCycle ≤ b.val) :
    let s := run BankOp.run new ops
    (∀ a b', s.currentCycle ≤ a → a ≤ b' → b' ≤ b.val → s.Chops a b') ↔
      ∀ p ∈ s.segments b.val, ¬ p.2.DropsCompare p.1 := by
  intro s
  have hrested : Rested s := rested_of_run hops
  have hlimit : b.val ≤ maximum := Nat.le_sub_one_of_lt b.isLt
  constructor
  · intro hchops p hp hd
    obtain ⟨a, b', hta, hab, hbb, hne⟩ := exists_chop_ne hrested.timed hb hlimit ⟨p, hp, hd⟩
    obtain ⟨hstate, -⟩ := hchops a b' hta hab hbb
    rw [advanceTo_advanceTo hta hab, advanceTo_eq (hta.trans hab)] at hstate
    have hcounters := congrArg EeCounterBank.counters hstate
    exact hne hcounters
  · intro hsafe a b' hta hab hbb
    have hsafe' : ∀ p ∈ s.segments b', ¬ p.2.DropsCompare p.1 := by
      intro p hp hd
      obtain ⟨q, hq, hsame, hle⟩ := segments_mono hbb p hp
      exact hsafe q hq (hsame ▸ hd.mono hle)
    obtain ⟨hstate, hresult⟩ := advanced_chop hrested.timed hta hab (hbb.trans hlimit) hsafe'
    unfold Chops
    simp only
    rw [advanceTo_advanceTo hta hab, advanceTo_eq (hta.trans hab), advanceTo_eq hta]
    exact ⟨by rw [hstate], hresult.symm⟩

/-- A counter with target 1 that returns to zero is past its target, one tick from the overflow. -/
def pastTarget : List BankOp :=
  [.writeRegister 0x10000020 1 0 0xffffffff, .writeRegister 0x10000010 0x1c0 0 0xffffffff,
    .writeRegister 0x10000000 0xffff 0 0xffffffff]

/-- Ten ticks at once drop its compare; polled after the first tick, it raises INTC 9. -/
theorem pastTarget_not_chops :
    let s := run BankOp.run new pastTarget
    Along BankOp.run BankOp.InOrder new pastTarget ∧
      (s.advanceTo 20).2.newlyRaisedInterruptMask = 0 ∧
      ((s.advanceTo 2).1.advanceTo 20).2.newlyRaisedInterruptMask = 0x200 ∧ ¬ s.Chops 2 20 := by
  intro s
  have hwhole : (s.advanceTo 20).2.newlyRaisedInterruptMask = 0 := by decide +kernel
  have hsecond : ((s.advanceTo 2).1.advanceTo 20).2.newlyRaisedInterruptMask = 0x200 := by
    decide +kernel
  have hsum : ((s.advanceTo 2).2 + ((s.advanceTo 2).1.advanceTo 20).2).newlyRaisedInterruptMask ≠
      (s.advanceTo 20).2.newlyRaisedInterruptMask := by decide +kernel
  exact ⟨by decide +kernel, hwhole, hsecond, fun hchops =>
    hsum (congrArg EeCounterAdvanceResult.newlyRaisedInterruptMask hchops.2)⟩

/-- Before its overflow the same counter can be polled anywhere. -/
theorem pastTarget_chop :
    let s := run BankOp.run new pastTarget
    (∀ a b', s.currentCycle ≤ a → a ≤ b' → b' ≤ (3 : EeTick).val → s.Chops a b') ↔
      ∀ p ∈ s.segments (3 : EeTick).val, ¬ p.2.DropsCompare p.1 :=
  advanceTo_chop_iff (by decide +kernel) 3 (by decide +kernel)

end EeCounterBank

end Ps2Recomp
