import Ps2Recomp.Counter.Advance

/-!
# The range of the counts

A count fits in 16 bits between two conditions, and the loops rely on it: `addCounterTicks` and
`nextInternalCounterEvent` take it from `0x10000` in 32 bits, and an overflow subtracts `0x10000`
once. A counter whose count is in range stays there through every pass of every loop, and each pass
ends where the source says, at the overflow or at an armed target (`Progresses`).

`restore` checks the phases, the video timing and the rates of a snapshot, but not its counts. A
count above `0xffff` comes in there and nowhere else: the banks of a run are in range if and only
if every accepted snapshot is (`inRange_iff`), and a snapshot out of range is accepted
(`restored_out_of_range`).
-/

namespace Ps2Recomp

open Machine

namespace Counter

variable {c c' : Counter} {m n : Nat}

/-! ## One pass of the loop -/

/-- A pass of the loop of `addCounterTicks`: the ticks left, and the counter. -/
def tickPass (ticks : Nat) (counter : Counter) : Nat × Counter :=
  let step := min ticks counter.untilCondition
  let processed := processCounterConditions
    { counter with count := (counter.count + step) % 2 ^ 32 }
  let remaining := ticks - step
  (if processed.1.collapses then
      remaining - remaining / processed.1.target * processed.1.target
    else remaining,
    processed.1)

theorem addCounterTicks_tickPass (hn : n ≠ 0) :
    (addCounterTicks n c).1 = (addCounterTicks (tickPass n c).1 (tickPass n c).2).1 := by
  conv_lhs => unfold addCounterTicks
  rw [if_neg hn]
  rfl

/-- The loop that starts with `n` ticks and counter `c` comes by with `m` ticks and counter `c'`. -/
inductive Passes : Nat → Counter → Nat → Counter → Prop
  | head (n : Nat) (c : Counter) : Passes n c n c
  | pass {n m : Nat} {c c' : Counter} (hn : n ≠ 0)
      (rest : Passes (tickPass n c).1 (tickPass n c).2 m c') : Passes n c m c'

/-- A pass counts to a condition of the source: the count does not wrap on the way, and reaches the
overflow or the target of an armed compare. -/
structure Progresses (c : Counter) : Prop where
  count_le : c.count ≤ 0xffff
  untilOverflow : uint32Sub 0x10000 c.count = 0x10000 - c.count
  condition : c.count + c.untilCondition = 0x10000 ∨
    (c.targetAfterOverflow = false ∧ c.count + c.untilCondition = c.target)

theorem untilOverflow_of_le (h : c.count ≤ 0xffff) :
    uint32Sub 0x10000 c.count = 0x10000 - c.count := uint32Sub_of_le (by omega) (by omega)

theorem progresses_of_le (h : c.count ≤ 0xffff) : Progresses c := by
  refine ⟨h, untilOverflow_of_le h, ?_⟩
  unfold untilCondition
  rw [untilOverflow_of_le h]
  simp only
  split
  · rename_i harmed
    rw [Bool.not_eq_true'] at harmed
    rcases Nat.le_total (0x10000 - c.count) (c.target - c.count) with hle | hle
    · left
      omega
    · right
      exact ⟨harmed.1, by omega⟩
  · left
    omega

/-! ## Counting keeps the count in range -/

theorem count_raiseTargetInterrupt (c : Counter) : c.raiseTargetInterrupt.1.count = c.count := by
  rcases c.raiseTargetInterrupt_cases with ⟨-, he⟩ | ⟨-, -, he⟩ <;> rw [he]

theorem count_raiseOverflowInterrupt (c : Counter) :
    c.raiseOverflowInterrupt.1.count = c.count := by
  rcases c.raiseOverflowInterrupt_cases with ⟨-, he⟩ | ⟨-, -, he⟩ <;> rw [he]

theorem count_processOverflow_le (h : c.count ≤ 0x10000) : c.processOverflow.1.count ≤ 0xffff := by
  unfold processOverflow
  split
  · rw [count_raiseOverflowInterrupt]
    simp only
    omega
  · simp only
    omega

theorem count_processTarget_le (c : Counter) : c.processTarget.1.count ≤ c.count := by
  unfold processTarget
  split
  · exact le_rfl
  · simp only
    split
    · exact (Nat.sub_le _ _).trans c.count_raiseTargetInterrupt.le
    · exact c.count_raiseTargetInterrupt.le

theorem count_processCounterConditions_le (h : c.count ≤ 0x10000) :
    c.processCounterConditions.1.count ≤ 0xffff :=
  (count_processTarget_le _).trans (count_processOverflow_le h)

theorem count_tickPass_le (h : c.count ≤ 0xffff) (n : Nat) : (tickPass n c).2.count ≤ 0xffff := by
  have huntil : c.count + c.untilCondition ≤ 0x10000 := by
    have hle : c.untilCondition ≤ 0x10000 - c.count := by
      unfold untilCondition
      rw [untilOverflow_of_le h]
      simp only
      split <;> omega
    omega
  refine count_processCounterConditions_le ?_
  simp only
  have hmod := Nat.mod_le (c.count + min n c.untilCondition) (2 ^ 32)
  omega

/-- **Every pass of a loop that starts in range makes progress.** -/
theorem Passes.progresses (h : Passes n c m c') (hc : c.count ≤ 0xffff) : Progresses c' := by
  induction h with
  | head => exact progresses_of_le hc
  | pass _ _ ih => exact ih (count_tickPass_le hc _)

theorem count_addCounterTicks_le (h : c.count ≤ 0xffff) (n : Nat) :
    (addCounterTicks n c).1.count ≤ 0xffff := by
  induction n using Nat.strong_induction_on generalizing c with
  | _ n ih =>
    by_cases hn : n = 0
    · unfold addCounterTicks
      rw [if_pos hn]
      exact h
    · rw [addCounterTicks_tickPass hn]
      have hstep : 0 < min n c.untilCondition :=
        lt_min (Nat.pos_of_ne_zero hn) c.untilCondition_pos
      have hless : (tickPass n c).1 < n := by
        unfold tickPass
        simp only
        split
        · exact lt_of_le_of_lt (Nat.sub_le _ _) (by omega)
        · omega
      exact ih _ hless (count_tickPass_le h n)

end Counter

namespace EeCounterBank

open Counter

variable {s : EeCounterBank} {b : Nat} {c : Counter}

/-! ## The operations of the bank -/

theorem count_synchronizeInternalCounter_le (s : EeCounterBank) (h : c.count ≤ 0xffff)
    (cycle : Nat) : (s.synchronizeInternalCounter cycle c).1.count ≤ 0xffff := by
  unfold synchronizeInternalCounter
  split
  · exact h
  split
  · exact h
  simp only
  split
  · have hcount : Counter.count
        { c with
          startCycle := saturatingAdd c.startCycle
            (saturatingMultiply (internalTicks cycle c) c.rate) } ≤ 0xffff := h
    exact count_addCounterTicks_le hcount _
  · exact h

theorem count_gateEdge_le (vblank rising : Bool) (cycle : Nat) (h : c.count ≤ 0xffff) :
    (gateEdge vblank rising cycle c).count ≤ 0xffff := by
  have hreset : (resetCounterAtGate c cycle).count ≤ 0xffff := Nat.zero_le _
  unfold gateEdge
  split
  · exact h
  split
  · exact h
  · split
    · exact hreset
    · exact h
  · split
    · exact hreset
    · exact h
  · exact hreset
  · exact h

theorem count_hBlankTick_le (s : EeCounterBank) (h : c.count ≤ 0xffff) :
    (s.hBlankTick c).1.count ≤ 0xffff := by
  unfold hBlankTick
  split
  · exact count_addCounterTicks_le h 1
  · exact h

def CountsLe (s : EeCounterBank) : Prop := ∀ index, (s.counters index).count ≤ 0xffff

theorem countsLe_synchronize (h : CountsLe s) (cycle : Nat) :
    CountsLe (s.synchronizeInternalCounters cycle).1 :=
  fun index => count_synchronizeInternalCounter_le s (h index) cycle

theorem countsLe_edgeAt (h : CountsLe s) (cycle : Nat) : CountsLe (s.edgeAt cycle).1 := by
  intro index
  unfold edgeAt
  split
  · unfold processVSyncEdge
    split
    · exact count_gateEdge_le true true cycle (h index)
    · exact count_gateEdge_le true false cycle (h index)
  · unfold processHSyncEdge
    split
    · exact count_gateEdge_le false true cycle (count_hBlankTick_le s (h index))
    · exact count_gateEdge_le false false cycle (h index)

theorem countsLe_processEdge (h : CountsLe s) : CountsLe s.processEdge.1 :=
  countsLe_edgeAt (countsLe_synchronize h s.nextEdge) s.nextEdge

/-- The banks an advance catches up from. -/
theorem countsLe_segments (h : CountsLe s) (b : Nat) : ∀ p ∈ s.segments b, CountsLe p.2 := by
  induction s using processEdges.induct b with
  | case1 s hstop =>
    rw [(advanced_stop hstop).2]
    intro p hp
    rw [List.mem_singleton.mp hp]
    exact h
  | case2 s hgo ih =>
    rw [(advanced_edge hgo).2]
    intro p hp
    rcases List.mem_cons.mp hp with rfl | hp
    · exact h
    · exact ih (countsLe_processEdge h) p hp

theorem countsLe_advanced (h : CountsLe s) (b : Nat) : CountsLe (s.advanced b).1 := by
  induction s using processEdges.induct b with
  | case1 s hstop =>
    rw [(advanced_stop hstop).1]
    exact countsLe_synchronize h b
  | case2 s hgo ih =>
    rw [(advanced_edge hgo).1]
    exact ih (countsLe_processEdge h)

theorem countsLe_advanceTo (h : CountsLe s) (b : Nat) : CountsLe (s.advanceTo b).1 := by
  by_cases hle : s.currentCycle ≤ b
  · rw [advanceTo_eq hle]
    exact countsLe_advanced h b
  · unfold advanceTo
    rw [if_pos (Nat.lt_of_not_le hle)]
    exact h

theorem count_writeCounter_le (s : EeCounterBank) (h : c.count ≤ 0xffff) (reg : EeCounterRegister)
    (selectedMask : Nat) {selectedValue : Nat} (hv : selectedValue ≤ 0xffff) (cycle : Nat) :
    (s.writeCounter reg selectedMask selectedValue cycle c).count ≤ 0xffff := by
  cases reg with
  | Count => exact merge_le h hv
  | Mode | Target | Hold => exact h

theorem countsLe_writeRegister (h : CountsLe s) (address value cycle writeMask : Nat) :
    CountsLe (s.writeRegister address value cycle writeMask).2 := by
  have hadvance := countsLe_advanceTo h cycle
  unfold writeRegister
  split
  · exact h
  · rename_i decoded _
    have hvalue : (value % 2 ^ 16 &&& writeMask % 2 ^ 16) ≤ 0xffff :=
      Nat.and_le_left.trans (by omega)
    simp only
    split
    · exact hadvance
    · intro index
      simp only [Function.update_apply]
      split
      · exact count_writeCounter_le _ (hadvance decoded.counter) _ _ hvalue _
      · exact hadvance index

theorem countsLe_step (h : CountsLe s) (op : BankOp) : CountsLe (op.run s) := by
  cases op with
  | reset currentCycle => exact fun _ => Nat.zero_le _
  | configureVideoTiming timing currentCycle => exact countsLe_advanceTo h currentCycle.val
  | advanceTo currentCycle => exact countsLe_advanceTo h currentCycle.val
  | readRegister address currentCycle =>
    show CountsLe (s.readRegister address currentCycle.val).2
    unfold readRegister
    split
    · exact h
    · exact countsLe_advanceTo h currentCycle.val
  | writeRegister address value currentCycle writeMask =>
    exact countsLe_writeRegister h address value currentCycle.val writeMask

end EeCounterBank

/-! ## Runs with restores -/

/-- The snapshot passes the tests of `restore`. -/
def EeCounterBankSnapshot.Accepted (state : EeCounterBankSnapshot) : Prop :=
  (EeCounterSignalPhase.ofValue state.hSyncPhase).isSome ∧
    (EeCounterSignalPhase.ofValue state.vSyncPhase).isSome ∧ state.videoTiming.positive ∧
    ∀ index, (state.counters index).rate ≠ 0

def EeCounterBankSnapshot.CountsLe (state : EeCounterBankSnapshot) : Prop :=
  ∀ index, (state.counters index).count.toNat ≤ 0xffff

/-- An operation, or a `restore`. -/
inductive BankCall where
  | bank (op : BankOp)
  | restore (state : EeCounterBankSnapshot)

namespace BankCall

/-- The bank after a call. -/
def run (s : EeCounterBank) : BankCall → EeCounterBank
  | .bank op => op.run s
  | .restore state => (s.restore state).2

/-- The operation advances the bank. -/
def advances (s : EeCounterBank) (op : BankOp) : Bool :=
  match op with
  | .reset _ => false
  | .configureVideoTiming _ currentCycle | .advanceTo currentCycle =>
    s.currentCycle ≤ currentCycle.val
  | .readRegister address currentCycle | .writeRegister address _ currentCycle _ =>
    (EeCounterBank.decodeRegister address).isSome && s.currentCycle ≤ currentCycle.val

/-- The banks whose counters tick during a call: each that the advance catches up from, and that
one caught up, where an HBlank makes its ticks. -/
def inside (s : EeCounterBank) : BankCall → List EeCounterBank
  | .bank op =>
    if advances s op then
      (s.segments op.cycle.val).flatMap fun p =>
        [p.2, (p.2.synchronizeInternalCounters p.1).1]
    else []
  | .restore _ => []

end BankCall

namespace EeCounterBank

open Counter

variable {s : EeCounterBank}

/-- The banks of a run, between the calls and inside them. -/
def banks : EeCounterBank → List BankCall → List EeCounterBank
  | s, [] => [s]
  | s, call :: rest => s :: call.inside s ++ banks (call.run s) rest

/-- The counts are in range, and the loops and the prediction that start from them are sound. -/
structure InRange (s : EeCounterBank) : Prop where
  count_le : ∀ index, (s.counters index).count ≤ 0xffff
  /-- Every pass of every tick loop makes progress. -/
  loops : ∀ index ticks startCycle m c',
    Passes ticks { s.counters index with startCycle := startCycle } m c' → Progresses c'
  /-- `nextInternalCounterEvent` counts to the overflow. -/
  events : ∀ index,
    uint32Sub 0x10000 (s.counters index).count = 0x10000 - (s.counters index).count

theorem inRange_of_countsLe (h : CountsLe s) : InRange s where
  count_le := h
  loops index _ startCycle _ _ hpass :=
    have hcount : Counter.count { s.counters index with startCycle := startCycle } ≤ 0xffff :=
      h index
    hpass.progresses hcount
  events index := untilOverflow_of_le (h index)

theorem restore_cases (s : EeCounterBank) (state : EeCounterBankSnapshot) :
    (¬ state.Accepted ∧ s.restore state = (false, s)) ∨
      (state.Accepted ∧ (s.restore state).1 = true ∧
        ∀ index, (s.restore state).2.counters index = (state.counters index).toCounter) := by
  unfold EeCounterBankSnapshot.Accepted restore
  cases EeCounterSignalPhase.ofValue state.hSyncPhase with
  | none => exact .inl ⟨fun h => absurd h.1 nofun, rfl⟩
  | some hSyncPhase =>
    cases EeCounterSignalPhase.ofValue state.vSyncPhase with
    | none => exact .inl ⟨fun h => absurd h.2.1 nofun, rfl⟩
    | some vSyncPhase =>
      simp only
      by_cases hpositive : state.videoTiming.positive
      · by_cases hrate : ∃ index, (state.counters index).rate = 0
        · obtain ⟨index, hzero⟩ := hrate
          rw [dif_pos hpositive, if_pos ⟨index, hzero⟩]
          exact .inl ⟨fun h => h.2.2.2 index hzero, rfl⟩
        · rw [dif_pos hpositive, if_neg hrate]
          exact .inr ⟨⟨rfl, rfl, hpositive, not_exists.mp hrate⟩, rfl, fun _ => rfl⟩
      · rw [dif_neg hpositive]
        exact .inl ⟨fun h => hpositive h.2.2.1, rfl⟩

theorem countsLe_restore (h : CountsLe s) {state : EeCounterBankSnapshot}
    (hstate : state.Accepted → state.CountsLe) : CountsLe (s.restore state).2 := by
  rcases restore_cases s state with ⟨-, he⟩ | ⟨hok, -, he⟩
  · rw [he]
    exact h
  · intro index
    rw [he]
    exact hstate hok index

theorem countsLe_inside (h : CountsLe s) (call : BankCall) :
    ∀ s' ∈ call.inside s, CountsLe s' := by
  cases call with
  | restore state => exact fun s' hs' => absurd hs' List.not_mem_nil
  | bank op =>
    intro s' hs'
    unfold BankCall.inside at hs'
    simp only at hs'
    split at hs'
    · obtain ⟨p, hp, hs'⟩ := List.mem_flatMap.mp hs'
      have hsegment := countsLe_segments h _ p hp
      rcases List.mem_cons.mp hs' with rfl | hs'
      · exact hsegment
      · rw [List.mem_singleton.mp hs']
        exact countsLe_synchronize hsegment p.1
    · exact absurd hs' List.not_mem_nil

theorem self_mem_banks (s : EeCounterBank) (calls : List BankCall) : s ∈ banks s calls := by
  cases calls with
  | nil => exact List.mem_singleton_self s
  | cons call rest => exact List.mem_cons_self

theorem banks_iff (calls : List BankCall) (h : CountsLe s) :
    (∀ s' ∈ banks s calls, InRange s') ↔
      ∀ state, .restore state ∈ calls → state.Accepted → state.CountsLe := by
  induction calls generalizing s with
  | nil =>
    refine iff_of_true (fun s' hs' => ?_) fun _ hmem => absurd hmem List.not_mem_nil
    rw [List.mem_singleton.mp hs']
    exact inRange_of_countsLe h
  | cons call rest ih =>
    -- the banks up to the next call are in range; the next call starts in range if it can
    have hnext : (∀ s' ∈ banks s (call :: rest), InRange s') ↔
        ∀ s' ∈ banks (call.run s) rest, InRange s' := by
      refine ⟨fun hall s' hs' => hall s' (List.mem_append_right _ hs'), fun hrest s' hs' => ?_⟩
      rcases List.mem_append.mp hs' with hs' | hs'
      · rcases List.mem_cons.mp hs' with rfl | hs'
        · exact inRange_of_countsLe h
        · exact inRange_of_countsLe (countsLe_inside h call s' hs')
      · exact hrest s' hs'
    rw [hnext]
    cases call with
    | bank op =>
      rw [ih (show CountsLe (BankCall.run s (.bank op)) from countsLe_step h op)]
      refine ⟨fun hall state hmem => hall state ?_, fun hall state hmem => hall state ?_⟩
      · exact (List.mem_cons.mp hmem).resolve_left nofun
      · exact List.mem_cons_of_mem _ hmem
    | restore state =>
      by_cases hstate : state.Accepted → state.CountsLe
      · rw [ih (show CountsLe (BankCall.run s (.restore state)) from countsLe_restore h hstate)]
        refine ⟨fun hall state' hmem => ?_, fun hall state' hmem =>
          hall state' (List.mem_cons_of_mem _ hmem)⟩
        rcases List.mem_cons.mp hmem with heq | hmem
        · cases heq
          exact hstate
        · exact hall state' hmem
      · refine iff_of_false (fun hall => hstate fun hok index => ?_)
          fun hall => hstate (hall state List.mem_cons_self)
        have hfirst := (hall _ (self_mem_banks _ rest)).count_le index
        rcases restore_cases s state with ⟨hno, -⟩ | ⟨-, -, he⟩
        · exact absurd hok hno
        · have he' : (BankCall.run s (.restore state)).counters index =
              (state.counters index).toCounter := he index
          rw [he'] at hfirst
          exact hfirst

theorem countsLe_new : CountsLe new := fun _ => Nat.zero_le _

/-- **The counts of a run are in range if and only if those of every accepted snapshot are.** -/
theorem inRange_iff (calls : List BankCall) :
    (∀ s ∈ banks new calls, InRange s) ↔
      ∀ state, .restore state ∈ calls → state.Accepted → state.CountsLe :=
  banks_iff calls countsLe_new

/-- A snapshot with a count of `0x20000`. -/
def outOfRange : EeCounterBankSnapshot := { counters := fun _ => { count := 0x20000 } }

/-- It is accepted, and its counts are out of range from then on. -/
theorem restored_out_of_range :
    (new.restore outOfRange).1 = true ∧
      ¬ ∀ (calls : List BankCall) (s : EeCounterBank), s ∈ banks new calls → InRange s := by
  refine ⟨by decide, fun hall => ?_⟩
  have hmem : (new.restore outOfRange).2 ∈ banks new [.restore outOfRange] :=
    List.mem_cons_of_mem _ (List.mem_singleton_self _)
  have hcount := (hall _ _ hmem).count_le 0
  revert hcount
  decide

end EeCounterBank

end Ps2Recomp
