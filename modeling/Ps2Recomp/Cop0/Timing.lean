import Mathlib.Data.Fin.VecNotation
import Mathlib.Data.Nat.Bitwise
import Mathlib.Logic.Function.Basic
import Ps2Recomp.Timing

/-!
# COP0 timing

Model of `Cop0Timing` (`cop0_timing.h`, `cop0_timing.cpp`): the Count/Compare timer and the two
performance counters.

* Registers are `BitVec 32` and wrap as in the source; cycles are `EeTick`.
* The two performance counters are indexed by `Fin 2`, so the bound check of
  `incrementPerformanceCounter` is not needed. `synchronizePerformance` and
  `recordPerformanceEvents` visit them in order.
* `advance` is an out-parameter that the result is merged into. It is returned.
-/

namespace Ps2Recomp

structure Cop0TimingAdvanceResult where
  timerRaised : Bool := false
  performanceOverflowMask : BitVec 8 := 0
  deriving DecidableEq

/-- `merge`. -/
def Cop0TimingAdvanceResult.merge (result other : Cop0TimingAdvanceResult) :
    Cop0TimingAdvanceResult where
  timerRaised := result.timerRaised || other.timerRaised
  performanceOverflowMask := result.performanceOverflowMask ||| other.performanceOverflowMask

structure Cop0PerformanceEvents where
  lowOrderBranchIssued : BitVec 32 := 0
  singleInstructionIssued : BitVec 32 := 0
  dualInstructionIssued : BitVec 32 := 0
  branchIssued : BitVec 32 := 0
  branchMispredicted : BitVec 32 := 0
  instructionCompleted : BitVec 32 := 0
  nonBdsInstructionCompleted : BitVec 32 := 0
  cop2InstructionCompleted : BitVec 32 := 0
  cop1InstructionCompleted : BitVec 32 := 0
  loadCompleted : BitVec 32 := 0
  storeCompleted : BitVec 32 := 0

/-- The members of `Cop0Timing`, which are those of a snapshot. -/
structure Cop0Timing where
  count : BitVec 32 := 0
  compare : BitVec 32 := 0
  pccr : BitVec 32 := 0
  pcr : Fin 2 → BitVec 32 := fun _ => 0
  lastCountCycle : EeTick := 0
  lastPerformanceCycle : Fin 2 → EeTick := fun _ => 0
  timerArmed : Bool := false
  timerPending : Bool := false

namespace Cop0Timing

abbrev kStatusExl : BitVec 32 := 1 <<< 1
abbrev kStatusErl : BitVec 32 := 1 <<< 2
abbrev kPccrCounterEnable : BitVec 32 := 1 <<< 31
abbrev kPccrWritableMask : BitVec 32 := 0x800ffbfe
abbrev kPcrOverflow : BitVec 32 := 1 <<< 31
abbrev kCounterModulus : Nat := 2 ^ 32
abbrev kPerformanceCounterModulus : Nat := 2 ^ 31

variable (s : Cop0Timing)

/-- `reset`. -/
def reset (currentCycle : EeTick) (count compare pccr pcr0 pcr1 : BitVec 32) : Cop0Timing where
  count := count
  compare := compare
  pccr := pccr &&& kPccrWritableMask
  pcr := ![pcr0, pcr1]
  lastCountCycle := currentCycle
  lastPerformanceCycle := fun _ => currentCycle
  timerArmed := false
  timerPending := false

/-! ## Count and Compare -/

/-- `distance`: the cycles to the next match of Count and Compare. -/
def distance : Nat :=
  let modularDistance := s.compare - s.count
  if modularDistance ≠ 0 then modularDistance.toNat else kCounterModulus

/-- `synchronizeCount`. -/
def synchronizeCount (currentCycle : EeTick) (minimumIncrement : Bool) :
    Cop0Timing × Cop0TimingAdvanceResult :=
  let elapsed :=
    if s.lastCountCycle ≤ currentCycle then currentCycle.val - s.lastCountCycle.val else 0
  let elapsed := if minimumIncrement && elapsed = 0 then 1 else elapsed
  let raised := elapsed ≠ 0 && s.timerArmed && !s.timerPending && elapsed ≥ s.distance
  ({ s with
      count := s.count + BitVec.ofNat 32 elapsed
      lastCountCycle := currentCycle
      timerPending := s.timerPending || raised },
    { timerRaised := raised })

/-- `readCount`: the value read, the result and the state. -/
def readCount (currentCycle : EeTick) : BitVec 32 × Cop0TimingAdvanceResult × Cop0Timing :=
  let synchronized := s.synchronizeCount currentCycle true
  (synchronized.1.count, synchronized.2, synchronized.1)

/-- `writeCount`. -/
def writeCount (value : BitVec 32) (currentCycle : EeTick) : Cop0Timing :=
  { s with count := value, lastCountCycle := currentCycle }

/-- `writeCompare`. -/
def writeCompare (value : BitVec 32) (currentCycle : EeTick) : Cop0Timing :=
  { (s.synchronizeCount currentCycle false).1 with
    compare := value, timerArmed := true, timerPending := false }

/-- `saturatingAdd`. -/
def saturatingAdd (lhs rhs : Nat) : Nat := min (lhs + rhs) (uint64Count - 1)

/-- `nextTimerCycle`. -/
def nextTimerCycle : Option Nat :=
  if !s.timerArmed || s.timerPending then none
  else some (saturatingAdd s.lastCountCycle.val s.distance)

/-! ## Performance counters -/

/-- `performanceCounterEnabled`. -/
def performanceCounterEnabled (pccr : BitVec 32) (counter : Fin 2) (status : BitVec 32) : Bool :=
  let base := if counter = 0 then 0 else 10
  let mode := if status &&& kStatusExl ≠ 0 then 1 else 2 + ((status >>> 3) &&& 3).toNat
  pccr &&& 1 <<< (base + mode) ≠ 0

/-- `supportedPerformanceEvent`. -/
def supportedPerformanceEvent (counter : Fin 2) (event : Nat) : Bool :=
  if event = 0 then counter = 1 else event ∈ [1, 2, 3, 12, 13, 14, 15]

/-- `performanceEventOccurrences`. -/
def performanceEventOccurrences (counter : Fin 2) (event : Nat) (events : Cop0PerformanceEvents) :
    BitVec 32 :=
  if !supportedPerformanceEvent counter event || event = 1 then 0
  else
    match event with
    | 0 => events.lowOrderBranchIssued
    | 2 => if counter = 0 then events.singleInstructionIssued else events.dualInstructionIssued
    | 3 => if counter = 0 then events.branchIssued else events.branchMispredicted
    | 12 => events.instructionCompleted
    | 13 => events.nonBdsInstructionCompleted
    | 14 => if counter = 0 then events.cop2InstructionCompleted else events.cop1InstructionCompleted
    | 15 => if counter = 0 then events.loadCompleted else events.storeCompleted
    | _ => 0

/-- `performanceEvent`. -/
def performanceEvent (pccr : BitVec 32) (counter : Fin 2) : Nat :=
  ((pccr >>> (if counter = 0 then 5 else 15)) &&& 0x1f).toNat

/-- The counter has overflowed since it was last written. -/
def overflowed (pcr : BitVec 32) : Bool := pcr &&& kPcrOverflow ≠ 0

/-- The counter without its overflow bit. -/
def counted (pcr : BitVec 32) : Nat := (pcr &&& ~~~kPcrOverflow).toNat

/-- The new register of `incrementPerformanceCounter`; the sum is a `uint64_t`. -/
def incremented (pcr : BitVec 32) (increment : Nat) : BitVec 32 :=
  let value := (counted pcr + increment) % uint64Count
  BitVec.ofNat 32 (value % kPerformanceCounterModulus) |||
    if overflowed pcr || value ≥ kPerformanceCounterModulus then kPcrOverflow else 0

/-- `incrementPerformanceCounter`. -/
def incrementPerformanceCounter (counter : Fin 2) (increment : Nat) :
    Cop0Timing × Cop0TimingAdvanceResult :=
  if increment = 0 then (s, {})
  else
    let value := (counted (s.pcr counter) + increment) % uint64Count
    ({ s with pcr := Function.update s.pcr counter (incremented (s.pcr counter) increment) },
      { performanceOverflowMask :=
          if !overflowed (s.pcr counter) && value ≥ kPerformanceCounterModulus then
            1 <<< counter.val
          else 0 })

/-- `canCount` of `synchronizePerformance`. -/
def canCount (counter : Fin 2) (status : BitVec 32) : Bool :=
  status &&& kStatusErl = 0 && s.pccr &&& kPccrCounterEnable ≠ 0 &&
    performanceCounterEnabled s.pccr counter status && performanceEvent s.pccr counter = 1

/-- The body of the loop of `synchronizePerformance`. -/
def synchronizeCounter (currentCycle : EeTick) (status : BitVec 32) (minimumIncrement : Bool)
    (counter : Fin 2) : Cop0Timing × Cop0TimingAdvanceResult :=
  let elapsed :=
    if s.lastPerformanceCycle counter ≤ currentCycle then
      currentCycle.val - (s.lastPerformanceCycle counter).val
    else 0
  let incremented :=
    if s.canCount counter status then
      let elapsed := if minimumIncrement && elapsed = 0 then 1 else elapsed
      if elapsed ≠ 0 then s.incrementPerformanceCounter counter elapsed else (s, {})
    else (s, {})
  ({ incremented.1 with
      lastPerformanceCycle :=
        Function.update incremented.1.lastPerformanceCycle counter currentCycle },
    incremented.2)

/-- `synchronizePerformance`. -/
def synchronizePerformance (currentCycle : EeTick) (status : BitVec 32) (minimumIncrement : Bool) :
    Cop0Timing × Cop0TimingAdvanceResult :=
  let first := s.synchronizeCounter currentCycle status minimumIncrement 0
  let second := first.1.synchronizeCounter currentCycle status minimumIncrement 1
  (second.1, first.2.merge second.2)

/-- The body of the loop of `recordPerformanceEvents`. -/
def recordCounterEvents (status : BitVec 32) (events : Cop0PerformanceEvents) (counter : Fin 2) :
    Cop0Timing × Cop0TimingAdvanceResult :=
  if !performanceCounterEnabled s.pccr counter status then (s, {})
  else
    let occurrences :=
      performanceEventOccurrences counter (performanceEvent s.pccr counter) events
    if occurrences ≠ 0 then s.incrementPerformanceCounter counter occurrences.toNat else (s, {})

/-- `recordPerformanceEvents`. -/
def recordPerformanceEvents (status : BitVec 32) (events : Cop0PerformanceEvents) :
    Cop0Timing × Cop0TimingAdvanceResult :=
  if status &&& kStatusErl ≠ 0 || s.pccr &&& kPccrCounterEnable = 0 then (s, {})
  else
    let first := s.recordCounterEvents status events 0
    let second := first.1.recordCounterEvents status events 1
    (second.1, first.2.merge second.2)

def selectedCounter (selector : BitVec 32) : Fin 2 := if selector &&& 2 ≠ 0 then 1 else 0

/-- `readPerformance`: the value read, the result and the state. -/
def readPerformance (selector : BitVec 32) (currentCycle : EeTick) (status : BitVec 32) :
    BitVec 32 × Cop0TimingAdvanceResult × Cop0Timing :=
  let selector := selector &&& 0x3f
  if selector &&& 1 = 0 then (s.pccr, {}, s)
  else
    let synchronized := s.synchronizePerformance currentCycle status true
    (synchronized.1.pcr (selectedCounter selector), synchronized.2, synchronized.1)

/-- `writePerformance`: whether the selector is writable, the result and the state. -/
def writePerformance (selector value : BitVec 32) (currentCycle : EeTick) (status : BitVec 32) :
    Bool × Cop0TimingAdvanceResult × Cop0Timing :=
  let selector := selector &&& 0x3f
  if selector &&& 1 = 0 then
    -- MTPS accepts only selector zero
    if selector &&& 0x3e ≠ 0 then (false, {}, s)
    else
      let synchronized := s.synchronizePerformance currentCycle status true
      (true, synchronized.2, { synchronized.1 with pccr := value &&& kPccrWritableMask })
  else
    let counter := selectedCounter selector
    (true, {},
      { s with
        pcr := Function.update s.pcr counter value
        lastPerformanceCycle := Function.update s.lastPerformanceCycle counter currentCycle })

/-- `deadline` of `nextPerformanceEventCycle`. -/
def deadline (counter : Fin 2) : Nat :=
  saturatingAdd (s.lastPerformanceCycle counter).val
    (kPerformanceCounterModulus - counted (s.pcr counter))

/-- The body of the loop of `nextPerformanceEventCycle`. -/
def earlierDeadline (status : BitVec 32) (result : Option Nat) (counter : Fin 2) : Option Nat :=
  if !performanceCounterEnabled s.pccr counter status || performanceEvent s.pccr counter ≠ 1 then
    result
  else
    match result with
    | none => some (s.deadline counter)
    | some earliest => if s.deadline counter < earliest then some (s.deadline counter) else result

/-- `nextPerformanceEventCycle`. -/
def nextPerformanceEventCycle (currentCycle : EeTick) (status : BitVec 32) : Option Nat :=
  if status &&& kStatusErl ≠ 0 || s.pccr &&& kPccrCounterEnable = 0 then none
  else if overflowed (s.pcr 0) || overflowed (s.pcr 1) then some currentCycle.val
  else [0, 1].foldl (s.earlierDeadline status) none

/-- `performanceExceptionPending`. -/
def performanceExceptionPending (status : BitVec 32) : Bool :=
  status &&& kStatusErl = 0 && s.pccr &&& kPccrCounterEnable ≠ 0 &&
    (s.pcr 0 ||| s.pcr 1) &&& kPcrOverflow ≠ 0

/-- `snapshot`: the members themselves. -/
def snapshot : Cop0Timing := s

/-- `restore`. -/
def restore (_ snapshot : Cop0Timing) : Cop0Timing := snapshot

end Cop0Timing

end Ps2Recomp
