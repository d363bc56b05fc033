import Ps2Recomp.Counter.Advance

/-!
# Predicting the next interrupt

`nextEventCycle` is where the runtime next looks at the counters. `nextEventCycle_safe`: no interrupt
is raised before it. What keeps a counter `Quiet` up to a cycle is one of three things: its
interrupts are disabled; it makes no tick before an edge that comes later; or the ticks it makes up
to there meet no condition (`ticks_before_event`).
-/

namespace Ps2Recomp

open Machine EventDriven

namespace Counter

variable {c : Counter} {n : Nat}

/-! ## Ticks that raise nothing -/

/-- The counter can raise no interrupt. -/
def Mute (c : Counter) : Prop :=
  c.targetInterruptEnabled = false ∧ c.overflowInterruptEnabled = false

theorem Mute.sameControl {c' : Counter} (hm : Mute c) (h : SameControl c c') : Mute c' :=
  ⟨h.targetInterruptEnabled.trans hm.1, h.overflowInterruptEnabled.trans hm.2⟩

theorem raiseOverflowInterrupt_silent (h : c.overflowInterruptEnabled = false) :
    c.raiseOverflowInterrupt = (c, false) := by
  rcases c.raiseOverflowInterrupt_cases with ⟨-, he⟩ | ⟨hen, -, -⟩
  · exact he
  · rw [h] at hen
    cases hen

theorem Mute.processOverflow (hm : Mute c) : c.processOverflow.2 = false := by
  unfold Counter.processOverflow
  split
  · have hsilent : ∀ count after, Counter.overflowInterruptEnabled
        { c with count := count, targetAfterOverflow := after } = false := fun _ _ => hm.2
    rw [raiseOverflowInterrupt_silent (hsilent _ _)]
  · rfl

theorem Mute.processTarget (hm : Mute c) : c.processTarget.2 = false := by
  unfold Counter.processTarget
  rw [raiseTargetInterrupt_silent (Or.inl hm.1)]
  simp only
  split
  · rfl
  · split <;> rfl

theorem Mute.tick (hm : Mute c) : c.tick.2 = false := by
  have hcount : Mute { c with count := c.count + 1 } := hm
  have hmid := hcount.sameControl (sameControl_processOverflow _)
  unfold Counter.tick processCounterConditions
  simp only
  rw [hcount.processOverflow, hmid.processTarget, Bool.false_or]

theorem Mute.ticks (hm : Mute c) (n : Nat) : (Counter.ticks n c).2 = false := by
  induction n generalizing c with
  | zero => rfl
  | succ n ih =>
    rw [Counter.ticks, hm.tick, ih (hm.sameControl c.sameControl_tick)]
    rfl

theorem Mute.addCounterTicks (h : Settled c) (hm : Mute c) (n : Nat) :
    (Counter.addCounterTicks n c).2 = false := by
  have hd : ¬ Drops c n := by
    rintro ⟨-, -, hen, -⟩
    rw [hm.1] at hen
    cases hen
  rw [addCounterTicks_eq_ticks h hd]
  exact hm.ticks n

/-- A batch that drops a compare would raise, tick by tick. -/
theorem Drops.ticks (h : Settled c) (hd : Drops c n) : (Counter.ticks n c).2 = true := by
  have hover := hd.overflowed h
  obtain ⟨hz, h0, hen, hr, -, hle⟩ := hd
  have hset := settled_ticks h (0x10000 - c.count)
  have hlt : (Counter.ticks (0x10000 - c.count) c).1.count <
      (Counter.ticks (0x10000 - c.count) c).1.target := by
    rw [hover.count, hover.control.target]
    exact Nat.pos_of_ne_zero h0
  have hperiod := ticks_to_target hset hover.armed hlt (hover.control.zeroReturn.trans hz)
  rw [hover.count, hover.control.target, Nat.sub_zero] at hperiod
  have hraise : (Counter.ticks (0x10000 - c.count) c).1.raiseTargetInterrupt.2 = true := by
    rcases raiseTargetInterrupt_cases (Counter.ticks (0x10000 - c.count) c).1 with
      ⟨hs, -⟩ | ⟨-, -, he⟩
    · rw [hover.control.targetInterruptEnabled, hen, hover.reached, hr] at hs
      exact absurd hs (by decide)
    · rw [he]
  have hsum : n = (0x10000 - c.count) + (c.target + (n - (c.target + (0x10000 - c.count)))) := by
    omega
  rw [hsum, ticks_add, ticks_add, hperiod]
  simp only
  rw [hraise, Bool.true_or, Bool.or_true]

/-- A counter that counts past its target with only its overflow enabled. -/
theorem ticks_past_target (h : Settled c) (hen : c.targetInterruptEnabled = false)
    (hz : c.zeroReturn = false) (hc : c.count + n ≤ 0xffff) : (ticks n c).2 = false := by
  induction n generalizing c with
  | zero => rfl
  | succ n ih =>
    have hcontrol := c.sameControl_tick
    have hnext : c.tick.2 = false ∧ c.tick.1.count = c.count + 1 := by
      have hsilent := raiseTargetInterrupt_silent (c := c) (Or.inl hen)
      rcases tick_cases h with ⟨-, -, he⟩ | ⟨-, -, hz', -⟩ | ⟨-, -, -, he⟩ | ⟨-, heq, -, -⟩ |
        ⟨-, heq, -, -⟩
      · rw [he]
        exact ⟨rfl, rfl⟩
      · exact absurd (hz.symm.trans hz') Bool.noConfusion
      · rw [he, hsilent]
        exact ⟨rfl, rfl⟩
      · omega
      · omega
    rw [ticks, hnext.1, Bool.false_or]
    refine ih (settled_tick h) (hcontrol.targetInterruptEnabled.trans hen)
      (hcontrol.zeroReturn.trans hz) ?_
    rw [hnext.2]
    omega

end Counter

namespace EeCounterBank

open Counter EeCounterAdvanceResult

variable {s : EeCounterBank} {c : Counter} {a b t n : Nat}

/-- **No condition is met before `ticksToEvent`.** -/
theorem ticks_before_event (h : Settled c) (hm : ¬ Mute c) (hn : n < ticksToEvent c) :
    (ticks n c).2 = false := by
  have hcount := h.count_le
  have htarget := h.target_le
  have hsub : uint32Sub 0x10000 c.count = 0x10000 - c.count :=
    uint32Sub_of_le (by omega) (by decide)
  unfold ticksToEvent at hn
  rw [hsub] at hn
  rcases Bool.eq_false_or_eq_true c.targetAfterOverflow with ha | ha
  · -- past the target, the next condition is the overflow
    have hevent : c.overflowInterruptEnabled = true ∨
        (c.targetInterruptEnabled || c.zeroReturn) = true := by
      by_contra hnot
      obtain ⟨ho, htw⟩ := not_or.mp hnot
      rw [Bool.not_eq_true, Bool.or_eq_false_iff] at htw
      rw [Bool.not_eq_true] at ho
      exact hm ⟨htw.1, ho⟩
    simp only [ha, Bool.not_true, Bool.false_eq_true, false_and, if_false, true_and, hevent,
      if_true] at hn
    rw [ticks_quiet (by omega) (Or.inl ha)]
  · by_cases htw : (c.targetInterruptEnabled || c.zeroReturn) = true
    · -- an armed counter gets to its target first
      simp only [ha, htw, Bool.not_false, true_and, if_true] at hn
      by_cases hlt : c.target > c.count
      · rw [if_pos hlt] at hn
        rw [ticks_quiet (by omega) (Or.inr (by omega))]
      · rw [if_neg hlt] at hn
        have h0 : n = 0 := by omega
        rw [h0, ticks]
    · -- only the overflow is an event
      rw [Bool.not_eq_true, Bool.or_eq_false_iff] at htw
      have ho : c.overflowInterruptEnabled = true := by
        by_contra ho
        rw [Bool.not_eq_true] at ho
        exact hm ⟨htw.1, ho⟩
      simp only [ha, htw.1, htw.2, ho, Bool.or_self, Bool.false_eq_true, and_false, if_false,
        true_or, if_true] at hn
      exact ticks_past_target h htw.1 htw.2 (by omega)

/-! ## Quiet counters -/

/-- No gate edge of the counter comes before `n` is past. -/
structure Guarded (n : Nat) (s : EeCounterBank) (c : Counter) : Prop where
  hSync : c.gateEnabled = true → c.gateUsesVBlank = false → n < s.nextHSyncEdge
  vSync : c.gateEnabled = true → c.gateUsesVBlank = true → n < s.nextVSyncEdge

/-- A counter that can raise an interrupt, but does not up to `n`. -/
structure Waits (n : Nat) (s : EeCounterBank) (c : Counter) : Prop where
  guarded : Guarded n s c
  hBlank : c.clockSource = 3 → c.countEnabled = true → n < s.nextHSyncEdge
  internal : c.clockSource ≠ 3 → s.canCount c = true → (ticks (internalTicks n c) c).2 = false

/-- The counter raises no interrupt up to `n`. -/
def Quiet (n : Nat) (s : EeCounterBank) (c : Counter) : Prop := Mute c ∨ Waits n s c

/-- Catching up leaves the signals. -/
theorem Quiet.synchronized (hq : Quiet n s c) (t : Nat) :
    Quiet n (s.synchronizeInternalCounters t).1 c :=
  hq.imp id fun hw => ⟨⟨hw.guarded.hSync, hw.guarded.vSync⟩, hw.hBlank, hw.internal⟩

/-- A quiet counter catches up. -/
theorem quiet_synchronize (h : Counting a c) (hq : Quiet n s c) (hat : a ≤ t) (htn : t ≤ n)
    (hn : n ≤ maximum) :
    (s.synchronizeInternalCounter t c).2 = false ∧
      Quiet n s (s.synchronizeInternalCounter t c).1 := by
  have ht : t ≤ maximum := htn.trans hn
  have hcontrol := sameControl_synchronizeInternalCounter s h hat ht
  by_cases hclock : c.clockSource = 3
  · have hsync : s.synchronizeInternalCounter t c = ({ c with startCycle := t }, false) :=
      if_pos hclock
    rw [hsync]
    refine ⟨rfl, hq.imp id fun hw => ?_⟩
    exact ⟨⟨hw.guarded.hSync, hw.guarded.vSync⟩, hw.hBlank, fun hnot => absurd hclock hnot⟩
  · have hsync := s.synchronizeInternalCounter_internal h.settled hclock (h.start_le.trans hat) ht
    rcases hq with hm | hw
    · refine ⟨?_, Or.inl (hm.sameControl hcontrol)⟩
      rw [hsync]
      unfold counted
      split
      · exact hm.addCounterTicks h.settled _
      · rfl
    · have hcounting := h.mono hat
      have hle := internalTicks_mono htn c
      have hsum : internalTicks t c + (internalTicks n c - internalTicks t c) =
          internalTicks n c := Nat.add_sub_cancel' hle
      by_cases hcan : s.canCount c = true
      · have hsilent := hw.internal hclock hcan
        have hd : ¬ Drops c (internalTicks t c) := fun hd =>
          Bool.noConfusion (((hd.mono hle).ticks h.settled).symm.trans hsilent)
        have hbatch : s.counted (internalTicks t c) c = ticks (internalTicks t c) c := by
          rw [← addCounterTicks_eq_ticks h.settled hd]
          exact if_pos hcan
        rw [← hsum, ticks_add, Bool.or_eq_false_iff] at hsilent
        refine ⟨?_, Or.inr ⟨?_, ?_, fun _ _ => ?_⟩⟩
        · rw [hsync, hbatch]
          exact hsilent.1
        · constructor
          · rw [hcontrol.gateEnabled, hcontrol.gateUsesVBlank]
            exact hw.guarded.hSync
          · rw [hcontrol.gateEnabled, hcontrol.gateUsesVBlank]
            exact hw.guarded.vSync
        · exact fun hthree => absurd (hcontrol.clockSource.symm.trans hthree) hclock
        · rw [s.internalTicks_synchronize hcounting hclock htn hn, hsync, hbatch, ticks_start]
          exact hsilent.2
      · have hcounted : s.counted (internalTicks t c) c = (c, false) := if_neg hcan
        rw [hsync, hcounted]
        refine ⟨rfl, Or.inr ⟨⟨hw.guarded.hSync, hw.guarded.vSync⟩, hw.hBlank, fun _ hcan' => ?_⟩⟩
        exact absurd hcan' hcan

theorem gateEdge_other {vblank : Bool} (rising : Bool) (cycle : Nat)
    (h : c.gateEnabled = true → c.gateUsesVBlank ≠ vblank) :
    gateEdge vblank rising cycle c = c := by
  unfold gateEdge
  rw [if_pos]
  cases hg : c.gateEnabled with
  | false => exact Or.inl rfl
  | true => exact Or.inr (h hg)

/-- `canCount` looks at the signal that gates the counter. -/
theorem canCount_congr {s' : EeCounterBank}
    (hh : c.gateEnabled = true → c.gateUsesVBlank = false → s'.hSync.phase = s.hSync.phase)
    (hv : c.gateEnabled = true → c.gateUsesVBlank = true → s'.vSync.phase = s.vSync.phase) :
    s'.canCount c = s.canCount c := by
  unfold canCount
  cases hg : c.gateEnabled with
  | false => rfl
  | true =>
    cases hu : c.gateUsesVBlank with
    | false =>
      rw [hh hg hu]
      rfl
    | true =>
      rw [hv hg hu]
      rfl

/-- A VSync edge leaves a counter that waits for something later. -/
theorem Waits.processVSyncEdge (hw : Waits n s c) (hle : s.nextVSyncEdge ≤ n) (cycle : Nat)
    (rising : Bool) : gateEdge true rising cycle c = c ∧
      Waits n (s.processVSyncEdge cycle).1 c := by
  have hgate : c.gateEnabled = true → c.gateUsesVBlank ≠ true := fun hg hu =>
    absurd (hw.guarded.vSync hg hu) (Nat.not_lt.mpr hle)
  have hnext := s.nextHSyncEdge_processVSyncEdge cycle
  have hphase : (s.processVSyncEdge cycle).1.hSync.phase = s.hSync.phase := by
    unfold EeCounterBank.processVSyncEdge
    split <;> rfl
  have hcan := canCount_congr (c := c) (s := s) (fun _ _ => hphase)
    fun hg hu => absurd hu (hgate hg)
  refine ⟨gateEdge_other rising cycle hgate, ⟨?_, ?_⟩, ?_, ?_⟩
  · exact fun hg hu => (hw.guarded.hSync hg hu).trans_le hnext
  · exact fun hg hu => absurd hu (hgate hg)
  · exact fun hclock hen => (hw.hBlank hclock hen).trans_le hnext
  · rw [hcan]
    exact hw.internal

/-- An HSync edge leaves a counter that waits for something later. -/
theorem Waits.processHSyncEdge (hw : Waits n s c) (hle : s.nextHSyncEdge ≤ n) (cycle : Nat)
    (rising : Bool) : s.hBlankTick c = (c, false) ∧ gateEdge false rising cycle c = c ∧
      Waits n (s.processHSyncEdge cycle).1 c := by
  have hgate : c.gateEnabled = true → c.gateUsesVBlank ≠ false := fun hg hu =>
    absurd (hw.guarded.hSync hg hu) (Nat.not_lt.mpr hle)
  have hblank : c.clockSource = 3 → c.countEnabled = false := by
    intro hclock
    by_contra hen
    rw [Bool.not_eq_false] at hen
    exact absurd (hw.hBlank hclock hen) (Nat.not_lt.mpr hle)
  have htick : s.hBlankTick c = (c, false) := by
    refine if_neg ?_
    rintro ⟨hclock, hcan⟩
    unfold canCount at hcan
    rw [hblank hclock] at hcan
    cases hcan
  have hnext := s.nextVSyncEdge_processHSyncEdge cycle
  have hphase : (s.processHSyncEdge cycle).1.vSync.phase = s.vSync.phase := by
    unfold EeCounterBank.processHSyncEdge
    split <;> rfl
  have hcan := canCount_congr (c := c) (s := s) (fun hg hu => absurd hu (hgate hg))
    fun _ _ => hphase
  refine ⟨htick, gateEdge_other rising cycle hgate, ⟨?_, ?_⟩, ?_, ?_⟩
  · exact fun hg hu => absurd hu (hgate hg)
  · rw [hnext]
    exact hw.guarded.vSync
  · intro hclock hen
    rw [hblank hclock] at hen
    cases hen
  · rw [hcan]
    exact hw.internal

theorem processVSyncEdge_counters (s : EeCounterBank) (cycle : Nat) :
    (s.processVSyncEdge cycle).2.newlyRaisedInterruptMask = 0 ∧ ∃ rising, ∀ index,
      (s.processVSyncEdge cycle).1.counters index =
        gateEdge true rising cycle (s.counters index) := by
  unfold EeCounterBank.processVSyncEdge
  split
  · exact ⟨rfl, true, fun _ => rfl⟩
  · exact ⟨rfl, false, fun _ => rfl⟩

theorem processHSyncEdge_counters (s : EeCounterBank) (cycle : Nat)
    (h : ∀ index, (s.hBlankTick (s.counters index)).2 = false) :
    (s.processHSyncEdge cycle).2.newlyRaisedInterruptMask = 0 ∧
      ((∀ index, (s.processHSyncEdge cycle).1.counters index =
          gateEdge false true cycle (s.hBlankTick (s.counters index)).1) ∨
        ∀ index, (s.processHSyncEdge cycle).1.counters index =
          gateEdge false false cycle (s.counters index)) := by
  have hmask := ofRaised_none h
  unfold EeCounterBank.processHSyncEdge
  cases s.hSync.phase with
  | Render => exact ⟨hmask, Or.inl fun _ => rfl⟩
  | Blank => exact ⟨rfl, Or.inr fun _ => rfl⟩

theorem mute_hBlankTick (s : EeCounterBank) (h : Settled c) (hm : Mute c) :
    (s.hBlankTick c).2 = false ∧ Mute (s.hBlankTick c).1 := by
  unfold hBlankTick
  split
  · exact ⟨hm.addCounterTicks h 1, hm.sameControl (sameControl_addCounterTicks h 1)⟩
  · exact ⟨rfl, hm⟩

/-- **An edge raises no interrupt** of a bank whose counters are quiet. -/
theorem quiet_edgeAt (hset : ∀ index, Settled (s.counters index))
    (hq : ∀ index, Quiet n s (s.counters index)) (hle : s.nextEdge ≤ n) (cycle : Nat) :
    (s.edgeAt cycle).2.newlyRaisedInterruptMask = 0 ∧
      ∀ index, Quiet n (s.edgeAt cycle).1 ((s.edgeAt cycle).1.counters index) := by
  have hgate : ∀ vblank rising (c : Counter), Mute c → Mute (gateEdge vblank rising cycle c) :=
    fun vblank rising c hm => hm.sameControl (sameControl_gateEdge vblank rising cycle c)
  unfold edgeAt
  split
  · rename_i hv
    have hle : s.nextVSyncEdge ≤ n := (le_min le_rfl hv).trans hle
    obtain ⟨hmask, rising, hcounters⟩ := s.processVSyncEdge_counters cycle
    refine ⟨hmask, fun index => ?_⟩
    rw [hcounters]
    rcases hq index with hm | hw
    · exact Or.inl (hgate true rising _ hm)
    · obtain ⟨hsame, hw'⟩ := hw.processVSyncEdge hle cycle rising
      exact Or.inr (hsame.symm ▸ hw')
  · rename_i hv
    have hle : s.nextHSyncEdge ≤ n := (le_min (le_of_not_ge hv) le_rfl).trans hle
    have hraised : ∀ index, (s.hBlankTick (s.counters index)).2 = false := by
      intro index
      rcases hq index with hm | hw
      · exact (s.mute_hBlankTick (hset index) hm).1
      · rw [(hw.processHSyncEdge hle cycle true).1]
    obtain ⟨hmask, hcounters⟩ := s.processHSyncEdge_counters cycle hraised
    refine ⟨hmask, fun index => ?_⟩
    rcases hcounters with hcounters | hcounters
    · rw [hcounters]
      rcases hq index with hm | hw
      · exact Or.inl (hgate false true _ (s.mute_hBlankTick (hset index) hm).2)
      · obtain ⟨htick, hsame, hw'⟩ := hw.processHSyncEdge hle cycle true
        rw [htick]
        exact Or.inr (hsame.symm ▸ hw')
    · rw [hcounters]
      rcases hq index with hm | hw
      · exact Or.inl (hgate false false _ hm)
      · obtain ⟨-, hsame, hw'⟩ := hw.processHSyncEdge hle cycle false
        exact Or.inr (hsame.symm ▸ hw')

/-- **A bank whose counters are quiet up to `n` raises no interrupt up to there.** -/
theorem quiet_advanced (h : Timed t s) (hq : ∀ index, Quiet n s (s.counters index)) (htn : t ≤ n)
    (hn : n ≤ maximum) : (s.advanced n).2.newlyRaisedInterruptMask = 0 := by
  have hsync : ∀ {a b : Nat} {u : EeCounterBank}, Timed a u →
      (∀ index, Quiet n u (u.counters index)) → a ≤ b → b ≤ n →
        (u.synchronizeInternalCounters b).2.newlyRaisedInterruptMask = 0 ∧
          ∀ index, Quiet n (u.synchronizeInternalCounters b).1
            ((u.synchronizeInternalCounters b).1.counters index) := by
    intro a b u hu hqu hab hbn
    have hcounter := fun index => quiet_synchronize (hu.counting index) (hqu index) hab hbn hn
    exact ⟨ofRaised_none fun index => (hcounter index).1,
      fun index => (hcounter index).2.synchronized b⟩
  refine (advances n s).results
    (I := fun a u => Timed a u ∧ ∀ index, Quiet n u (u.counters index))
    (P := fun r => r.newlyRaisedInterruptMask = 0) ?_ ?_ ?_ ⟨h, hq⟩ htn h.edge
  · intro r r' hr hr'
    show r.newlyRaisedInterruptMask ||| r'.newlyRaisedInterruptMask = 0
    rw [hr, hr']
    rfl
  · intro a b u hu hab hbn _
    exact (hsync hu.1 hu.2 hab hbn).1
  · intro a u hu hau hdue
    have hq' := (hsync hu.1 hu.2 hau hdue.1).2
    have hset := fun index => (counters_synchronize hu.1.counting hau u.nextEdge_le index).1.settled
    obtain ⟨hmask, hedge⟩ := quiet_edgeAt hset hq' hdue.1 u.nextEdge
    exact ⟨hmask, timed_processEdge hu.1 hdue.2, hedge⟩

/-! ## The prediction -/

/-- No event is predicted up to `n`. -/
def Before (n : Nat) (event : Option Nat) : Prop := ∀ e, event = some e → n < e

theorem before_keepEarlier {next candidate : Option Nat} :
    Before n (keepEarlier next candidate) ↔ Before n next ∧ Before n candidate := by
  have hsome : ∀ e : Nat, Before n (some e) ↔ n < e := fun e =>
    ⟨fun h => h e rfl, fun h e' he' => Option.some.inj he' ▸ h⟩
  have hnone : Before n none := nofun
  cases candidate with
  | none => exact (and_iff_left hnone).symm
  | some candidate =>
    cases next with
    | none => exact (and_iff_right hnone).symm
    | some next =>
      unfold keepEarlier
      simp only
      split <;> simp only [hsome] <;> omega

/-- `nextEventCycle` is the earliest of its candidates. -/
theorem before_nextEventCycle : Before n s.nextEventCycle ↔ Before n s.nextScanEventCycle ∧
    ∀ index, Before n (s.nextInternalCounterEvent (s.counters index)) := by
  have hfold : ∀ (indices : List CounterIndex) (next : Option Nat),
      Before n (indices.foldl (fun next index =>
          keepEarlier next (s.nextInternalCounterEvent (s.counters index))) next) ↔
        Before n next ∧
          ∀ index ∈ indices, Before n (s.nextInternalCounterEvent (s.counters index)) := by
    intro indices
    induction indices with
    | nil => simp
    | cons index indices ih =>
      intro next
      rw [List.foldl_cons, ih, before_keepEarlier, List.forall_mem_cons, and_assoc]
  rw [nextEventCycle, hfold]
  exact and_congr_right fun _ => ⟨fun h index => h index (List.mem_finRange index),
    fun h index _ => h index⟩

theorem before_nextScanEventCycle (h : Before n s.nextScanEventCycle) (index : CounterIndex) :
    (requiresHSync (s.counters index) = true → n < s.nextHSyncEdge) ∧
      (requiresVSync (s.counters index) = true → n < s.nextVSyncEdge) := by
  unfold nextScanEventCycle at h
  simp only at h
  by_cases hh : ∃ index, requiresHSync (s.counters index) = true
  · by_cases hv : ∃ index, requiresVSync (s.counters index) = true
    · rw [if_pos ⟨hh, hv⟩] at h
      have hlt := h _ rfl
      exact ⟨fun _ => hlt.trans_le (min_le_left _ _), fun _ => hlt.trans_le (min_le_right _ _)⟩
    · rw [if_neg (fun hboth => hv hboth.2), if_pos hh] at h
      exact ⟨fun _ => h _ rfl, fun hv' => absurd ⟨index, hv'⟩ hv⟩
  · rw [if_neg (fun hboth => hh hboth.1), if_neg hh] at h
    refine ⟨fun hh' => absurd ⟨index, hh'⟩ hh, fun hv' => ?_⟩
    rw [if_pos ⟨index, hv'⟩] at h
    exact h _ rfl

theorem ticksToEvent_le (h : Settled c) (hm : ¬ Mute c) : ticksToEvent c ≤ 0x10000 := by
  have hcount := h.count_le
  have htarget := h.target_le
  have hsub : uint32Sub 0x10000 c.count = 0x10000 - c.count :=
    uint32Sub_of_le (by omega) (by decide)
  have huntil : (if c.target > c.count then c.target - c.count else 1) ≤ 0x10000 := by
    split <;> omega
  unfold ticksToEvent
  rw [hsub]
  simp only
  by_cases hfirst : c.overflowInterruptEnabled = true ∨
      (c.targetAfterOverflow = true ∧ (c.targetInterruptEnabled || c.zeroReturn) = true)
  · rw [if_pos hfirst]
    split <;> omega
  · -- an armed counter with its target interrupt enabled
    obtain ⟨ho, hafter⟩ := not_or.mp hfirst
    have hwork : (c.targetInterruptEnabled || c.zeroReturn) = true := by
      by_contra hnone
      rw [Bool.not_eq_true, Bool.or_eq_false_iff] at hnone
      exact hm ⟨hnone.1, Bool.eq_false_iff.mpr ho⟩
    have harmed : (!c.targetAfterOverflow) = true := by
      rw [Bool.not_eq_true', Bool.eq_false_iff]
      exact fun ha => hafter ⟨ha, hwork⟩
    rw [if_neg hfirst, if_pos ⟨harmed, hwork⟩]
    exact (min_le_right _ _).trans huntil

/-- The ticks up to a cycle for which no event is predicted. -/
theorem internalTicks_lt_of_before (h : Rested s) (hle : s.currentCycle ≤ n)
    {index : CounterIndex} (hc : s.counters index = c) (hm : ¬ Mute c)
    (hclock : c.clockSource ≠ 3) (hcan : s.canCount c = true)
    (hevent : Before n (s.nextInternalCounterEvent c)) :
    internalTicks n c = 0 ∨ internalTicks n c < ticksToEvent c := by
  have hcounting := hc ▸ h.timed.counting index
  have hcaught := (hc ▸ h.timed.caughtUp index : CaughtUp s.currentCycle c) hclock
  have hpos := (hcounting.rate hclock).pos
  have hstart := hcounting.start_le
  have hevents : ticksToEvent c ≠ maximum :=
    ((ticksToEvent_le hcounting.settled hm).trans_lt (by decide)).ne
  have hwork : ¬ ((!(c.targetInterruptEnabled || c.zeroReturn)) = true ∧
      (!c.overflowInterruptEnabled) = true) := by
    rintro ⟨hw, ho⟩
    rw [Bool.not_eq_true'] at hw ho
    exact hm ⟨(Bool.or_eq_false_iff.mp hw).1, ho⟩
  unfold nextInternalCounterEvent at hevent
  rw [if_neg (by rw [hcan]; simpa using hclock), if_neg hwork, if_neg hevents] at hevent
  have hlt := hevent _ rfl
  by_cases hd : saturatingAdd c.startCycle (saturatingMultiply (ticksToEvent c) c.rate) >
      s.currentCycle
  · -- the deadline is the cycle of the event
    rw [if_pos hd] at hlt
    have hdeadline : n < c.startCycle + ticksToEvent c * c.rate := by
      unfold saturatingAdd saturatingMultiply at hlt
      omega
    refine Or.inr ((Nat.div_lt_iff_lt_mul hpos).mpr ?_)
    omega
  · -- the event would be in the past: there is no tick up to the next cycle
    rw [if_neg hd] at hlt
    have heq : n = s.currentCycle := by
      unfold saturatingAdd at hlt
      omega
    refine Or.inl (Nat.div_eq_of_lt ?_)
    omega

/-- **A bank for which no event is predicted up to `n` is quiet up to there.** -/
theorem quiet_of_before (h : Rested s) (hle : s.currentCycle ≤ n)
    (hevent : Before n s.nextEventCycle) (index : CounterIndex) :
    Quiet n s (s.counters index) := by
  obtain ⟨hscan, hinternal⟩ := before_nextEventCycle.mp hevent
  obtain ⟨hh, hv⟩ := before_nextScanEventCycle hscan index
  have hset := (h.timed.counting index).settled
  unfold requiresHSync at hh
  unfold requiresVSync at hv
  rw [decide_eq_true_iff] at hh hv
  by_cases hm : Mute (s.counters index)
  · exact Or.inl hm
  · refine Or.inr ⟨⟨fun hg hu => hh (Or.inl ⟨hg, by rw [hu]; rfl⟩), fun hg hu => hv ⟨hg, hu⟩⟩, ?_, ?_⟩
    · intro hclock hen
      refine hh (Or.inr ⟨hclock, hen, ?_⟩)
      by_contra hnot
      obtain ⟨ht, ho⟩ := not_or.mp hnot
      exact hm ⟨Bool.eq_false_iff.mpr ht, Bool.eq_false_iff.mpr (not_or.mp ho).1⟩
    · intro hclock hcan
      rcases internalTicks_lt_of_before h hle rfl hm hclock hcan (hinternal index) with h0 | hlt
      · rw [h0]
        rfl
      · exact ticks_before_event hset hm hlt

theorem after_nextEventCycle (h : Rested s) (hlimit : s.currentCycle < maximum) :
    Before s.currentCycle s.nextEventCycle := by
  have hnext : s.currentCycle < s.nextEdge := h.ahead.elim id fun heq => heq ▸ hlimit
  have hv : s.currentCycle < s.nextVSyncEdge := hnext.trans_le (min_le_left _ _)
  have hh : s.currentCycle < s.nextHSyncEdge := hnext.trans_le (min_le_right _ _)
  refine before_nextEventCycle.mpr ⟨fun e he => ?_, fun index e he => ?_⟩
  · unfold nextScanEventCycle at he
    simp only at he
    split at he
    · exact Option.some.inj he ▸ lt_min hh hv
    · split at he
      · exact Option.some.inj he ▸ hh
      · split at he
        · exact Option.some.inj he ▸ hv
        · cases he
  · unfold nextInternalCounterEvent at he
    split at he
    · cases he
    · split at he
      · cases he
      · split at he
        · cases he
        · obtain rfl := Option.some.inj he
          split
          · rename_i hd
            exact hd
          · exact lt_saturatingAdd hlimit Nat.one_pos

/-- **No interrupt is missed.** After any run of operations in order that ends below the limit, a
predicted event comes after the current cycle, and `advanceTo` raises no interrupt up to a cycle
before it; if none is predicted, it raises none at all. -/
theorem nextEventCycle_safe {ops : List BankOp} (hops : Along BankOp.run BankOp.InOrder new ops)
    (hlimit : (run BankOp.run new ops).currentCycle < maximum) :
    let s := run BankOp.run new ops
    (∀ e, s.nextEventCycle = some e → s.currentCycle < e) ∧
      ∀ cycle : EeTick, (∀ e, s.nextEventCycle = some e → cycle.val < e) →
        (s.advanceTo cycle.val).2.newlyRaisedInterruptMask = 0 := by
  intro s
  have hrested : Rested s := rested_of_run hops
  constructor
  · exact after_nextEventCycle hrested hlimit
  · intro cycle hbefore
    have hcycle : cycle.val ≤ maximum := Nat.le_sub_one_of_lt cycle.isLt
    by_cases hle : s.currentCycle ≤ cycle.val
    · rw [advanceTo_eq hle]
      exact quiet_advanced hrested.timed (quiet_of_before hrested hle hbefore) hle hcycle
    · unfold advanceTo
      rw [if_pos (Nat.lt_of_not_le hle)]
      rfl

/-- A timer that interrupts after ten ticks of two cycles. -/
def timerRun : List BankOp :=
  [.writeRegister 0x10000020 10 0 0xffffffff, .writeRegister 0x10000010 0x180 0 0xffffffff]

example : (run BankOp.run new timerRun).nextEventCycle = some 20 := by decide +kernel

theorem nextEventCycle_safe_timerRun :
    let s := run BankOp.run new timerRun
    (∀ e, s.nextEventCycle = some e → s.currentCycle < e) ∧
      ∀ cycle : EeTick, (∀ e, s.nextEventCycle = some e → cycle.val < e) →
        (s.advanceTo cycle.val).2.newlyRaisedInterruptMask = 0 :=
  nextEventCycle_safe (by decide +kernel) (by decide +kernel)

end EeCounterBank

end Ps2Recomp
