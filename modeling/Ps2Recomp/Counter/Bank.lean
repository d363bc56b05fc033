import Ps2Recomp.Timing
import Mathlib.Algebra.Group.Defs
import Mathlib.Data.Nat.Bitwise

/-!
# The EE counter bank

Model of `EeCounterBank` (`ee_counters.h`, `ee_counters.cpp`): four counters, clocked by the cycle
counter or by HBlank, gated by the two sync signals, whose edges the bank generates itself.

* Cycles and registers are `Nat`. Where the source relies on the width of an integer the model says
  so: `saturatingAdd`, `uint32Sub`, `alignToRate`, the casts of `writeRegister`.
* `result` is an out-parameter that the source only adds to. Each function returns what it adds:
  those on one counter whether it raised its interrupt, the others an `EeCounterAdvanceResult`.
* The members of `m_videoTiming` are positive from the start and `configureVideoTiming` keeps them
  so: `VideoTiming` carries the proof, and the edge loop of `advanceTo` terminates by it.
* `hBlankStarts` and `vBlankStarts` count edges at different cycles, so they cannot wrap.
-/

namespace Ps2Recomp

/-! ## Types -/

/-- `kEeCounterBaseAddress`. -/
abbrev kEeCounterBaseAddress : Nat := 0x10000000

/-- `kEeCounterStride`. -/
abbrev kEeCounterStride : Nat := 0x800

/-- `kEeCounterCount`. -/
abbrev kEeCounterCount : Nat := 4

abbrev CounterIndex := Fin kEeCounterCount

inductive EeCounterRegister where
  | Count
  | Mode
  | Target
  | Hold
  deriving DecidableEq, Repr

structure EeCounterVideoTiming where
  renderCycles : Nat := 4493898
  blankCycles : Nat := 421302
  hRenderCycles : Nat := 15669
  hBlankCycles : Nat := 3055
  hSyncErrorCycles : Nat := 149
  deriving DecidableEq, Repr

/-- A timing whose periods are positive. -/
structure VideoTiming extends EeCounterVideoTiming where
  renderCycles_pos : 0 < renderCycles
  blankCycles_pos : 0 < blankCycles
  hRenderCycles_pos : 0 < hRenderCycles
  hBlankCycles_pos : 0 < hBlankCycles
  deriving DecidableEq

/-- The initial value of `m_videoTiming`. -/
def VideoTiming.initial : VideoTiming := ⟨{}, by decide, by decide, by decide, by decide⟩

/-- The lines of `configureVideoTiming` that make the periods positive. -/
def EeCounterVideoTiming.clamped (timing : EeCounterVideoTiming) : VideoTiming where
  renderCycles := max timing.renderCycles 1
  blankCycles := max timing.blankCycles 1
  hRenderCycles := max timing.hRenderCycles 1
  hBlankCycles := max timing.hBlankCycles 1
  hSyncErrorCycles := timing.hSyncErrorCycles
  renderCycles_pos := Nat.le_max_right _ _
  blankCycles_pos := Nat.le_max_right _ _
  hRenderCycles_pos := Nat.le_max_right _ _
  hBlankCycles_pos := Nat.le_max_right _ _

inductive EeCounterSignalPhase where
  | Render
  | Blank
  deriving DecidableEq, Repr

structure EeCounterAdvanceResult where
  newlyRaisedInterruptMask : BitVec 32 := 0
  hBlankStarts : Nat := 0
  vBlankStarts : Nat := 0
  deriving DecidableEq, Repr

/-- `EeCounterBank::Counter`. -/
structure Counter where
  count : Nat := 0
  mode : Nat := 0
  target : Nat := 0xffff
  hold : Nat := 0
  rate : Nat := 2
  startCycle : Nat := 0
  targetAfterOverflow : Bool := false
  deriving DecidableEq, Repr

/-- `EeCounterBank::Signal`. -/
structure Signal where
  phase : EeCounterSignalPhase := .Render
  startCycle : Nat := 0
  deltaCycles : Nat := 0
  deriving DecidableEq, Repr

/-- The members of `EeCounterBank`. -/
structure EeCounterBank where
  counters : CounterIndex → Counter
  videoTiming : VideoTiming
  hSync : Signal
  vSync : Signal
  currentCycle : Nat

/-! ## Arithmetic -/

/-- `numeric_limits<uint64_t>::max()`. -/
abbrev maximum : Nat := uint64Count - 1

/-- A difference of two `uint32_t` values. -/
def uint32Sub (lhs rhs : Nat) : Nat := (lhs + 2 ^ 32 - rhs) % 2 ^ 32

/-- `cycle & ~(static_cast<uint64_t>(rate) - 1u)`. -/
def alignToRate (cycle rate : Nat) : Nat := cycle &&& (maximum - (rate + maximum) % uint64Count)

namespace EeCounterBank

/-- `saturatingAdd`. -/
def saturatingAdd (lhs rhs : Nat) : Nat := min (lhs + rhs) maximum

/-- `saturatingMultiply`. -/
def saturatingMultiply (lhs rhs : Nat) : Nat := min (lhs * rhs) maximum

/-- `preserveEndpointStart`. -/
def preserveEndpointStart (start oldDelta newDelta : Nat) : Nat :=
  let endpoint := saturatingAdd start oldDelta
  if endpoint ≥ newDelta then endpoint - newDelta else 0

end EeCounterBank

/-! ## Mode bits -/

namespace Counter

abbrev kModeClockSourceMask : Nat := 0x0003
abbrev kModeGateEnable : Nat := 0x0004
abbrev kModeGateSource : Nat := 0x0008
abbrev kModeGateModeMask : Nat := 0x0030
abbrev kModeZeroReturn : Nat := 0x0040
abbrev kModeCountEnable : Nat := 0x0080
abbrev kModeTargetInterrupt : Nat := 0x0100
abbrev kModeOverflowInterrupt : Nat := 0x0200
abbrev kModeTargetReached : Nat := 0x0400
abbrev kModeOverflowReached : Nat := 0x0800
abbrev kModeWritableControlMask : Nat := 0x03ff
abbrev kModeStatusMask : Nat := kModeTargetReached ||| kModeOverflowReached

variable (counter : Counter)

/-- `clockSource`. -/
def clockSource : Nat := counter.mode &&& kModeClockSourceMask

/-- `gateEnabled`. -/
def gateEnabled : Bool := counter.mode &&& kModeGateEnable ≠ 0

/-- `gateUsesVBlank`. -/
def gateUsesVBlank : Bool := counter.mode &&& kModeGateSource ≠ 0

/-- `gateMode`. -/
def gateMode : Nat := (counter.mode &&& kModeGateModeMask) >>> 4

/-- `zeroReturn`. -/
def zeroReturn : Bool := counter.mode &&& kModeZeroReturn ≠ 0

/-- `countEnabled`. -/
def countEnabled : Bool := counter.mode &&& kModeCountEnable ≠ 0

/-- `targetInterruptEnabled`. -/
def targetInterruptEnabled : Bool := counter.mode &&& kModeTargetInterrupt ≠ 0

/-- `overflowInterruptEnabled`. -/
def overflowInterruptEnabled : Bool := counter.mode &&& kModeOverflowInterrupt ≠ 0

/-- The test of the status bit in `raiseTargetInterrupt`. -/
def targetReached : Bool := counter.mode &&& kModeTargetReached ≠ 0

/-- The test of the status bit in `raiseOverflowInterrupt`. -/
def overflowReached : Bool := counter.mode &&& kModeOverflowReached ≠ 0

/-! ## Counting -/

/-- `raiseTargetInterrupt`. -/
def raiseTargetInterrupt : Counter × Bool :=
  if !counter.targetInterruptEnabled ∨ counter.targetReached then (counter, false)
  else ({ counter with mode := counter.mode ||| kModeTargetReached }, true)

/-- `raiseOverflowInterrupt`. -/
def raiseOverflowInterrupt : Counter × Bool :=
  if !counter.overflowInterruptEnabled ∨ counter.overflowReached then (counter, false)
  else ({ counter with mode := counter.mode ||| kModeOverflowReached }, true)

/-- The lines of `processCounterConditions` about the overflow. -/
def processOverflow : Counter × Bool :=
  if counter.count > 0xffff then
    raiseOverflowInterrupt
      { counter with count := counter.count - 0x10000, targetAfterOverflow := false }
  else (counter, false)

/-- The lines of `processCounterConditions` about the target. -/
def processTarget : Counter × Bool :=
  if counter.targetAfterOverflow ∨ counter.count < counter.target then (counter, false)
  else
    let (counter, raised) := counter.raiseTargetInterrupt
    if counter.zeroReturn ∧ counter.target ≠ 0 then
      ({ counter with count := counter.count - counter.target }, raised)
    else
      -- a zero compare cannot make progress by subtraction
      ({ counter with targetAfterOverflow := true }, raised)

/-- `processCounterConditions`. -/
def processCounterConditions : Counter × Bool :=
  let overflow := counter.processOverflow
  let target := overflow.1.processTarget
  (target.1, overflow.2 || target.2)

/-- `untilCondition` of `addCounterTicks`. -/
def untilCondition : Nat :=
  let untilOverflow := uint32Sub 0x10000 counter.count
  let untilCondition :=
    if !counter.targetAfterOverflow ∧ counter.target > counter.count then
      min untilOverflow (counter.target - counter.count)
    else untilOverflow
  max untilCondition 1

/-- The condition under which `addCounterTicks` drops the whole periods that remain. -/
def collapses : Bool :=
  counter.zeroReturn ∧ counter.target ≠ 0 ∧ counter.targetAfterOverflow = false ∧
    counter.count < counter.target

theorem untilCondition_pos : 0 < counter.untilCondition := Nat.le_max_right _ _

/-- `addCounterTicks`. -/
def addCounterTicks (ticks : Nat) (counter : Counter) : Counter × Bool :=
  if ticks = 0 then (counter, false)
  else
    let step := min ticks counter.untilCondition
    let processed := processCounterConditions
      { counter with count := (counter.count + step) % 2 ^ 32 }
    let remaining := ticks - step
    let remaining :=
      if processed.1.collapses then
        remaining - remaining / processed.1.target * processed.1.target
      else remaining
    let rest := addCounterTicks remaining processed.1
    (rest.1, processed.2 || rest.2)
  termination_by ticks
  decreasing_by
    have hstep : 0 < min ticks counter.untilCondition :=
      lt_min (Nat.pos_of_ne_zero ‹¬ ticks = 0›) counter.untilCondition_pos
    split
    · exact lt_of_le_of_lt (Nat.sub_le _ _) (by omega)
    · omega

end Counter

/-! ## Results -/

namespace EeCounterAdvanceResult

instance : Zero EeCounterAdvanceResult := ⟨{}⟩

/-- How the results of two advances combine. -/
instance : Add EeCounterAdvanceResult where
  add first second :=
    { newlyRaisedInterruptMask :=
        first.newlyRaisedInterruptMask ||| second.newlyRaisedInterruptMask
      hBlankStarts := first.hBlankStarts + second.hBlankStarts
      vBlankStarts := first.vBlankStarts + second.vBlankStarts }

/-- `kFirstTimerIntcCause`. -/
abbrev kFirstTimerIntcCause : Nat := 9

def cause (index : CounterIndex) (raised : Bool) : BitVec 32 :=
  if raised then 1 <<< (kFirstTimerIntcCause + index.val) else 0

/-- The result of a loop over the counters. -/
def ofRaised (raised : CounterIndex → Bool) : EeCounterAdvanceResult where
  newlyRaisedInterruptMask :=
    (List.finRange kEeCounterCount).foldl (fun mask index => mask ||| cause index (raised index)) 0

end EeCounterAdvanceResult

namespace EeCounterBank

open EeCounterAdvanceResult Counter

variable (s : EeCounterBank)

/-- `reset`. -/
def reset (currentCycle : Nat) : EeCounterBank :=
  { counters := fun _ => { startCycle := currentCycle }
    videoTiming := s.videoTiming
    currentCycle := currentCycle
    hSync := ⟨.Render, currentCycle, s.videoTiming.hRenderCycles⟩
    vSync := ⟨.Render, currentCycle, s.videoTiming.renderCycles⟩ }

/-- The constructor. -/
def new : EeCounterBank :=
  reset
    { counters := fun _ => {}
      videoTiming := .initial
      hSync := {}
      vSync := {}
      currentCycle := 0 } 0

/-- `canCount`. -/
def canCount (counter : Counter) : Bool :=
  if !counter.countEnabled then false
  else if !counter.gateEnabled then true
  else if !counter.gateUsesVBlank then
    if counter.clockSource = 3 then false
    else counter.gateMode ≠ 0 ∨ s.hSync.phase = .Render
  else counter.gateMode ≠ 0 ∨ s.vSync.phase = .Render

/-- `nextHSyncEdge`. -/
def nextHSyncEdge : Nat := saturatingAdd s.hSync.startCycle s.hSync.deltaCycles

/-- `nextVSyncEdge`. -/
def nextVSyncEdge : Nat := saturatingAdd s.vSync.startCycle s.vSync.deltaCycles

/-! ## Advancing -/

/-- The ticks of `synchronizeInternalCounter`. -/
def internalTicks (cycle : Nat) (counter : Counter) : Nat :=
  (cycle - counter.startCycle) / counter.rate

/-- `synchronizeInternalCounter`. -/
def synchronizeInternalCounter (cycle : Nat) (counter : Counter) : Counter × Bool :=
  if counter.clockSource = 3 then ({ counter with startCycle := cycle }, false)
  else if cycle < counter.startCycle then ({ counter with startCycle := cycle }, false)
  else
    let ticks := internalTicks cycle counter
    let counter :=
      { counter with
        startCycle := saturatingAdd counter.startCycle (saturatingMultiply ticks counter.rate) }
    if ticks ≠ 0 ∧ s.canCount counter then counter.addCounterTicks ticks else (counter, false)

/-- `synchronizeInternalCounters`. -/
def synchronizeInternalCounters (cycle : Nat) : EeCounterBank × EeCounterAdvanceResult :=
  let synchronized := fun index => s.synchronizeInternalCounter cycle (s.counters index)
  ({ s with counters := fun index => (synchronized index).1 },
    ofRaised fun index => (synchronized index).2)

/-- `resetCounterAtGate`. -/
def resetCounterAtGate (counter : Counter) (cycle : Nat) : Counter :=
  { counter with
    count := 0
    targetAfterOverflow := false
    startCycle := if counter.rate ≠ 0 then alignToRate cycle counter.rate else cycle }

/-- The body of the loop of `processGateEdge`. -/
def gateEdge (vblank rising : Bool) (cycle : Nat) (counter : Counter) : Counter :=
  if !counter.gateEnabled ∨ counter.gateUsesVBlank ≠ vblank then counter
  else
    match counter.gateMode with
    | 0 => { counter with startCycle := alignToRate cycle counter.rate }
    | 1 => if rising then resetCounterAtGate counter cycle else counter
    | 2 => if !rising then resetCounterAtGate counter cycle else counter
    | 3 => resetCounterAtGate counter cycle
    | _ => counter

/-- `processGateEdge`. -/
def processGateEdge (vblank rising : Bool) (cycle : Nat) : EeCounterBank :=
  { s with counters := fun index => gateEdge vblank rising cycle (s.counters index) }

/-- The body of the loop of `processHSyncEdge`. -/
def hBlankTick (counter : Counter) : Counter × Bool :=
  if counter.clockSource = 3 ∧ s.canCount counter then counter.addCounterTicks 1
  else (counter, false)

/-- `processHSyncEdge`. -/
def processHSyncEdge (cycle : Nat) : EeCounterBank × EeCounterAdvanceResult :=
  match s.hSync.phase with
  | .Render =>
    let ticked := fun index => s.hBlankTick (s.counters index)
    let s' := { s with counters := fun index => (ticked index).1 }
    ({ s'.processGateEdge false true cycle with
        hSync := ⟨.Blank, cycle, s.videoTiming.hBlankCycles⟩ },
      { ofRaised (fun index => (ticked index).2) with hBlankStarts := 1 })
  | .Blank =>
    ({ s.processGateEdge false false cycle with
        hSync := ⟨.Render, cycle, s.videoTiming.hRenderCycles⟩ }, 0)

/-- `processVSyncEdge`. -/
def processVSyncEdge (cycle : Nat) : EeCounterBank × EeCounterAdvanceResult :=
  match s.vSync.phase with
  | .Render =>
    ({ s.processGateEdge true true cycle with
        vSync := ⟨.Blank, cycle, s.videoTiming.blankCycles⟩
        hSync :=
          { s.hSync with
            deltaCycles := saturatingAdd s.hSync.deltaCycles s.videoTiming.hSyncErrorCycles } },
      { vBlankStarts := 1 })
  | .Blank =>
    ({ s.processGateEdge true false cycle with
        vSync := ⟨.Render, cycle, s.videoTiming.renderCycles⟩ }, 0)

/-- `edge` of `advanceTo`. -/
def nextEdge : Nat := min s.nextVSyncEdge s.nextHSyncEdge

/-- The body of the loop of `advanceTo`. -/
def processEdge : EeCounterBank × EeCounterAdvanceResult :=
  let synchronized := s.synchronizeInternalCounters s.nextEdge
  -- VSync first: its correction of the HSync period counts for an edge at the same cycle
  let processed :=
    if s.nextVSyncEdge ≤ s.nextHSyncEdge then synchronized.1.processVSyncEdge s.nextEdge
    else synchronized.1.processHSyncEdge s.nextEdge
  (processed.1, synchronized.2 + processed.2)

/-- What the loop of `advanceTo` brings down. -/
def cyclesLeft : Nat := (maximum - s.nextVSyncEdge) + (maximum - s.nextHSyncEdge)

theorem saturatingAdd_le (lhs rhs : Nat) : saturatingAdd lhs rhs ≤ maximum := min_le_right _ _

theorem lt_saturatingAdd {lhs rhs : Nat} (hl : lhs < maximum) (hr : 0 < rhs) :
    lhs < saturatingAdd lhs rhs := lt_min (Nat.lt_add_of_pos_right hr) hl

theorem nextHSyncEdge_processHSyncEdge {cycle : Nat} (h : cycle < maximum) :
    cycle < (s.processHSyncEdge cycle).1.nextHSyncEdge := by
  unfold processHSyncEdge nextHSyncEdge
  split
  · exact lt_saturatingAdd h s.videoTiming.hBlankCycles_pos
  · exact lt_saturatingAdd h s.videoTiming.hRenderCycles_pos

theorem nextVSyncEdge_processHSyncEdge (cycle : Nat) :
    (s.processHSyncEdge cycle).1.nextVSyncEdge = s.nextVSyncEdge := by
  unfold processHSyncEdge
  split <;> rfl

theorem nextVSyncEdge_processVSyncEdge {cycle : Nat} (h : cycle < maximum) :
    cycle < (s.processVSyncEdge cycle).1.nextVSyncEdge := by
  unfold processVSyncEdge nextVSyncEdge
  split
  · exact lt_saturatingAdd h s.videoTiming.blankCycles_pos
  · exact lt_saturatingAdd h s.videoTiming.renderCycles_pos

theorem nextHSyncEdge_processVSyncEdge (cycle : Nat) :
    s.nextHSyncEdge ≤ (s.processVSyncEdge cycle).1.nextHSyncEdge := by
  unfold processVSyncEdge nextHSyncEdge saturatingAdd
  split
  · simp only
    omega
  · exact le_rfl

/-- Every edge below the limit brings the edges on. -/
theorem cyclesLeft_processEdge (h : s.nextEdge < maximum) :
    s.processEdge.1.cyclesLeft < s.cyclesLeft := by
  have hle : s.nextHSyncEdge ≤ maximum := saturatingAdd_le _ _
  have hle' : s.nextVSyncEdge ≤ maximum := saturatingAdd_le _ _
  have hmin : s.nextEdge = min s.nextVSyncEdge s.nextHSyncEdge := rfl
  unfold cyclesLeft processEdge
  simp only
  split
  · rename_i hv
    have hv' := nextVSyncEdge_processVSyncEdge (s.synchronizeInternalCounters s.nextEdge).1 h
    have hh' := nextHSyncEdge_processVSyncEdge (s.synchronizeInternalCounters s.nextEdge).1
      s.nextEdge
    have hsame : (s.synchronizeInternalCounters s.nextEdge).1.nextHSyncEdge = s.nextHSyncEdge :=
      rfl
    rw [min_eq_left hv] at hmin
    omega
  · rename_i hv
    have hh' := nextHSyncEdge_processHSyncEdge (s.synchronizeInternalCounters s.nextEdge).1 h
    have hv' := nextVSyncEdge_processHSyncEdge (s.synchronizeInternalCounters s.nextEdge).1
      s.nextEdge
    have hsame : (s.synchronizeInternalCounters s.nextEdge).1.nextVSyncEdge = s.nextVSyncEdge :=
      rfl
    rw [min_eq_right (le_of_not_ge hv)] at hmin
    omega

/-- The loop of `advanceTo`. -/
def processEdges (currentCycle : Nat) (s : EeCounterBank) :
    EeCounterBank × EeCounterAdvanceResult :=
  if s.nextEdge > currentCycle ∨ s.nextEdge = maximum then (s, 0)
  else
    let rest := processEdges currentCycle s.processEdge.1
    (rest.1, s.processEdge.2 + rest.2)
  termination_by s.cyclesLeft
  decreasing_by
    have hle : s.nextEdge ≤ maximum := (min_le_left _ _).trans (saturatingAdd_le _ _)
    have hnot : ¬ (s.nextEdge > currentCycle ∨ s.nextEdge = maximum) := ‹_›
    exact s.cyclesLeft_processEdge (lt_of_le_of_ne hle (not_or.mp hnot).2)

/-- `advanceTo`. -/
def advanceTo (currentCycle : Nat) : EeCounterBank × EeCounterAdvanceResult :=
  if currentCycle < s.currentCycle then (s, 0)
  else
    let edges := s.processEdges currentCycle
    let synchronized := edges.1.synchronizeInternalCounters currentCycle
    ({ synchronized.1 with currentCycle := currentCycle }, edges.2 + synchronized.2)

/-! ## Predicting the next event -/

/-- The tests of `nextScanEventCycle` that ask for the next HSync edge. -/
def requiresHSync (counter : Counter) : Bool :=
  (counter.gateEnabled ∧ !counter.gateUsesVBlank) ∨
    (counter.clockSource = 3 ∧ counter.countEnabled ∧
      (counter.targetInterruptEnabled ∨ counter.overflowInterruptEnabled ∨ counter.zeroReturn))

/-- The test of `nextScanEventCycle` that asks for the next VSync edge. -/
def requiresVSync (counter : Counter) : Bool := counter.gateEnabled ∧ counter.gateUsesVBlank

/-- `nextScanEventCycle`. -/
def nextScanEventCycle : Option Nat :=
  let hSyncRequired := ∃ index, requiresHSync (s.counters index)
  let vSyncRequired := ∃ index, requiresVSync (s.counters index)
  if hSyncRequired ∧ vSyncRequired then some (min s.nextHSyncEdge s.nextVSyncEdge)
  else if hSyncRequired then some s.nextHSyncEdge
  else if vSyncRequired then some s.nextVSyncEdge
  else none

/-- `ticks` of `nextInternalCounterEvent`, where `maximum` stands for no event. -/
def ticksToEvent (counter : Counter) : Nat :=
  let targetWork := counter.targetInterruptEnabled || counter.zeroReturn
  let ticks :=
    if counter.overflowInterruptEnabled ∨ (counter.targetAfterOverflow ∧ targetWork) then
      uint32Sub 0x10000 counter.count
    else maximum
  if !counter.targetAfterOverflow ∧ targetWork then
    min ticks (if counter.target > counter.count then counter.target - counter.count else 1)
  else ticks

/-- `nextInternalCounterEvent`. -/
def nextInternalCounterEvent (counter : Counter) : Option Nat :=
  if counter.clockSource = 3 ∨ !s.canCount counter then none
  else if !(counter.targetInterruptEnabled || counter.zeroReturn) ∧
      !counter.overflowInterruptEnabled then none
  else if ticksToEvent counter = maximum then none
  else
    let deadline :=
      saturatingAdd counter.startCycle (saturatingMultiply (ticksToEvent counter) counter.rate)
    some (if deadline > s.currentCycle then deadline else saturatingAdd s.currentCycle 1)

/-- The update of `next` in `nextEventCycle`. -/
def keepEarlier (next candidate : Option Nat) : Option Nat :=
  match candidate, next with
  | none, _ => next
  | some candidate, none => some candidate
  | some candidate, some next => if candidate < next then some candidate else some next

/-- `nextEventCycle`. -/
def nextEventCycle : Option Nat :=
  (List.finRange kEeCounterCount).foldl
    (fun next index => keepEarlier next (s.nextInternalCounterEvent (s.counters index)))
    s.nextScanEventCycle

/-! ## Video timing -/

/-- `configureVideoTiming`. -/
def configureVideoTiming (timing : EeCounterVideoTiming) (currentCycle : Nat) :
    EeCounterBank × EeCounterAdvanceResult :=
  let advanced := s.advanceTo currentCycle
  let s := advanced.1
  let timing := timing.clamped
  let newHDelta := if s.hSync.phase = .Blank then timing.hBlankCycles else timing.hRenderCycles
  let newVDelta := if s.vSync.phase = .Blank then timing.blankCycles else timing.renderCycles
  ({ s with
      videoTiming := timing
      hSync :=
        { s.hSync with
          startCycle := preserveEndpointStart s.hSync.startCycle s.hSync.deltaCycles newHDelta
          deltaCycles := newHDelta }
      vSync :=
        { s.vSync with
          startCycle := preserveEndpointStart s.vSync.startCycle s.vSync.deltaCycles newVDelta
          deltaCycles := newVDelta } },
    advanced.2)

/-! ## Registers -/

/-- `EeCounterBank::DecodedRegister`. -/
structure DecodedRegister where
  counter : CounterIndex
  reg : EeCounterRegister
  deriving DecidableEq

/-- `decodeRegister`. -/
def decodeRegister (address : Nat) : Option DecodedRegister :=
  if address < kEeCounterBaseAddress then none
  else
    let offset := address - kEeCounterBaseAddress
    if h : offset / kEeCounterStride < kEeCounterCount then
      let counter : CounterIndex := ⟨offset / kEeCounterStride, h⟩
      match offset % kEeCounterStride with
      | 0x00 => some ⟨counter, .Count⟩
      | 0x10 => some ⟨counter, .Mode⟩
      | 0x20 => some ⟨counter, .Target⟩
      | 0x30 => if counter.val ≥ 2 then none else some ⟨counter, .Hold⟩
      | _ => none
    else none

/-- `readRegister`: the value read and the result of the advance, if the address decodes. -/
def readRegister (address currentCycle : Nat) :
    Option (Nat × EeCounterAdvanceResult) × EeCounterBank :=
  match decodeRegister address with
  | none => (none, s)
  | some decoded =>
    let advanced := s.advanceTo currentCycle
    let counter := advanced.1.counters decoded.counter
    let value :=
      match decoded.reg with
      | .Count => counter.count &&& 0xffff
      | .Mode => counter.mode
      | .Target => counter.target
      | .Hold => counter.hold
    (some (value, advanced.2), advanced.1)

/-- `(old & ~selectedMask) | selectedValue`, where `old` is a `uint32_t`. -/
def merge (old selectedMask selectedValue : Nat) : Nat :=
  (old &&& (uint32Max - selectedMask)) ||| selectedValue

/-- `counter.rate` for the clock source of a mode. -/
def rateOf (timing : EeCounterVideoTiming) (counter : Counter) : Nat :=
  match counter.clockSource with
  | 0 => 2
  | 1 => 32
  | 2 => 512
  | 3 => (timing.hRenderCycles + timing.hBlankCycles) % 2 ^ 32
  | _ => counter.rate

/-- The mode after `selectedValue` was written to it. -/
def writtenMode (mode selectedMask selectedValue : Nat) : Nat :=
  let oldStatus := mode &&& kModeStatusMask
  let clearedStatus := oldStatus &&& (uint32Max - (selectedValue &&& kModeStatusMask))
  let controlMask := selectedMask &&& kModeWritableControlMask
  let mergedControl :=
    (mode &&& kModeWritableControlMask &&& (uint32Max - controlMask)) |||
      (selectedValue &&& kModeWritableControlMask)
  clearedStatus ||| mergedControl

/-- The `switch` of `writeRegister`. -/
def writeCounter (reg : EeCounterRegister) (selectedMask selectedValue currentCycle : Nat)
    (counter : Counter) : Counter :=
  match reg with
  | .Count =>
    let count := merge counter.count selectedMask selectedValue
    { counter with count := count, targetAfterOverflow := count ≥ counter.target }
  | .Mode =>
    let counter := { counter with mode := writtenMode counter.mode selectedMask selectedValue }
    let rate := rateOf s.videoTiming.toEeCounterVideoTiming counter
    { counter with rate := rate, startCycle := alignToRate currentCycle rate }
  | .Target =>
    let target := merge counter.target selectedMask selectedValue
    { counter with target := target, targetAfterOverflow := target ≤ counter.count }
  | .Hold => { counter with hold := merge counter.hold selectedMask selectedValue }

/-- `writeRegister`: the result of the advance, if the address decodes. -/
def writeRegister (address value currentCycle writeMask : Nat) :
    Option EeCounterAdvanceResult × EeCounterBank :=
  match decodeRegister address with
  | none => (none, s)
  | some decoded =>
    let advanced := s.advanceTo currentCycle
    let s := advanced.1
    let selectedMask := writeMask % 2 ^ 16
    let selectedValue := value % 2 ^ 16 &&& selectedMask
    if selectedMask = 0 then (some advanced.2, s)
    else
      let counter :=
        s.writeCounter decoded.reg selectedMask selectedValue currentCycle
          (s.counters decoded.counter)
      (some advanced.2, { s with counters := Function.update s.counters decoded.counter counter })

end EeCounterBank

/-! ## Save states -/

structure EeCounterSnapshot where
  count : BitVec 32 := 0
  mode : BitVec 16 := 0
  target : BitVec 16 := 0xffff
  hold : BitVec 16 := 0
  rate : BitVec 32 := 2
  startCycle : EeTick := 0
  targetAfterOverflow : Bool := false

/-- A phase is a byte of the save state: `restore` takes any. -/
structure EeCounterBankSnapshot where
  counters : CounterIndex → EeCounterSnapshot := fun _ => {}
  videoTiming : EeCounterVideoTiming := {}
  currentCycle : EeTick := 0
  hSyncStartCycle : EeTick := 0
  vSyncStartCycle : EeTick := 0
  hSyncDeltaCycles : BitVec 32 := 0
  vSyncDeltaCycles : EeTick := 0
  hSyncPhase : BitVec 8 := 0
  vSyncPhase : BitVec 8 := 0

/-- The enumerator with a value, if there is one. -/
def EeCounterSignalPhase.ofValue (value : BitVec 8) : Option EeCounterSignalPhase :=
  if value = 0 then some .Render else if value = 1 then some .Blank else none

/-- The aggregate that `restore` stores for a counter. -/
def EeCounterSnapshot.toCounter (source : EeCounterSnapshot) : Counter where
  count := source.count.toNat
  mode := source.mode.toNat
  target := source.target.toNat
  hold := source.hold.toNat
  rate := source.rate.toNat
  startCycle := source.startCycle.val
  targetAfterOverflow := source.targetAfterOverflow

/-- The test of `restore` on the video timing. -/
def EeCounterVideoTiming.positive (timing : EeCounterVideoTiming) : Prop :=
  0 < timing.renderCycles ∧ 0 < timing.blankCycles ∧ 0 < timing.hRenderCycles ∧
    0 < timing.hBlankCycles

instance (timing : EeCounterVideoTiming) : Decidable timing.positive :=
  inferInstanceAs (Decidable (_ ∧ _))

/-- `restore`. -/
def EeCounterBank.restore (s : EeCounterBank) (state : EeCounterBankSnapshot) :
    Bool × EeCounterBank :=
  match EeCounterSignalPhase.ofValue state.hSyncPhase,
      EeCounterSignalPhase.ofValue state.vSyncPhase with
  | some hSyncPhase, some vSyncPhase =>
    if h : state.videoTiming.positive then
      if ∃ index, (state.counters index).rate = 0 then (false, s)
      else
        (true,
          { counters := fun index => (state.counters index).toCounter
            videoTiming := ⟨state.videoTiming, h.1, h.2.1, h.2.2.1, h.2.2.2⟩
            hSync := ⟨hSyncPhase, state.hSyncStartCycle.val, state.hSyncDeltaCycles.toNat⟩
            vSync := ⟨vSyncPhase, state.vSyncStartCycle.val, state.vSyncDeltaCycles.val⟩
            currentCycle := state.currentCycle.val })
    else (false, s)
  | _, _ => (false, s)

/-! ## Operations -/

/-- An operation of the bank, at a cycle. -/
inductive BankOp where
  | reset (currentCycle : EeTick)
  | configureVideoTiming (timing : EeCounterVideoTiming) (currentCycle : EeTick)
  | advanceTo (currentCycle : EeTick)
  | readRegister (address : Nat) (currentCycle : EeTick)
  | writeRegister (address value : Nat) (currentCycle : EeTick) (writeMask : Nat)
  deriving DecidableEq

/-- The bank after an operation. -/
def BankOp.run (s : EeCounterBank) : BankOp → EeCounterBank
  | .reset currentCycle => s.reset currentCycle.val
  | .configureVideoTiming timing currentCycle => (s.configureVideoTiming timing currentCycle.val).1
  | .advanceTo currentCycle => (s.advanceTo currentCycle.val).1
  | .readRegister address currentCycle => (s.readRegister address currentCycle.val).2
  | .writeRegister address value currentCycle writeMask =>
    (s.writeRegister address value currentCycle.val writeMask).2

def BankOp.cycle : BankOp → EeTick
  | .reset currentCycle => currentCycle
  | .configureVideoTiming _ currentCycle => currentCycle
  | .advanceTo currentCycle => currentCycle
  | .readRegister _ currentCycle => currentCycle
  | .writeRegister _ _ currentCycle _ => currentCycle

end Ps2Recomp
