import Ps2Recomp.Lib.Machine
import Ps2Recomp.Timing
import Mathlib.Logic.Function.Basic

/-!
# VU1 execution epochs (`ps2_vu1_command_stream.cpp`)

In an execution epoch the worker runs ahead of the EE: it advances the unit slice by slice and keeps
the results in a journal until the EE asks for them. Worker and EE share the state of the epoch
under a mutex; the steps here are the sections that hold it. Besides, the worker keeps its own
journal, with a processor checkpoint for each entry, and the `baseline`, the processor after the
last entry it has seen consumed.

The EE demands a number of cycles. If the front of the journal is for another number, it raises the
demand revision; the worker then extends the front by the missing cycles, or, where that cannot be,
goes back to the baseline.

How the unit advances is the parameter `Vu1Advance`; its checkpoint is its whole state. Journal
entries are shared objects, named here by numbers. Diagnostic records, state hashes, digests,
statistics and the hooks are left out.
-/

namespace Ps2Recomp

/-! ## Slices -/

/-- The cycle counts are `uint32_t`. -/
abbrev CycleCount := Fin (uint32Max + 1)

inductive VuExitReason where
  | Inactive
  | CycleBudget
  | ProgramEnded
  | CodeBounds
  | BranchBoundary
  | XgkickBoundary
  | DebugObserver
  | CodeInvalidated
  | UnsupportedInstruction
  | Fault
  deriving DecidableEq, Repr

structure VuRunResult where
  requestedCycles : ℕ := 0
  executedCycles : ℕ := 0
  reason : VuExitReason := .Inactive
  activeBefore : Bool := false
  activeAfter : Bool := false
  completed : Bool := false
  deriving DecidableEq, Repr

structure Vu1SliceResult (σ π : Type) where
  run : VuRunResult
  path1Packets : List π
  /-- With `captureState`. -/
  state : Option σ
  vifCanResume : Bool
  fault : Option String
  deriving DecidableEq, Repr

/-- What `VuUnit::advance` does and reports, besides the number of cycles it was asked for. -/
structure Vu1Advanced (σ π : Type) where
  unit : σ
  executedCycles : CycleCount
  reason : VuExitReason
  activeBefore : Bool
  activeAfter : Bool
  completed : Bool
  path1Packets : List π
  deriving DecidableEq, Repr

structure Vu1Advance (σ π : Type) where
  advance : σ → ℕ → Vu1Advanced σ π
  isActive : σ → Bool

variable {σ π : Type}

/-- `advanceSlice`. -/
def Vu1Advance.advanceSlice (vu : Vu1Advance σ π) (captureState : Bool) (unit : σ)
    (maximumCycles : ℕ) : σ × Vu1SliceResult σ π :=
  let advanced := vu.advance unit maximumCycles
  (advanced.unit,
    { run :=
        { requestedCycles := maximumCycles
          executedCycles := advanced.executedCycles
          reason := advanced.reason
          activeBefore := advanced.activeBefore
          activeAfter := advanced.activeAfter
          completed := advanced.completed }
      path1Packets := advanced.path1Packets
      state := if captureState then some advanced.unit else none
      vifCanResume := !vu.isActive advanced.unit
      fault := if advanced.reason = .Fault then some "VU1 backend reported a fault" else none })

/-- The slice of `prefixSlice` and the slice that continues it, as one of `exactCycles`. -/
def Vu1SliceResult.extend (prefixSlice extension : Vu1SliceResult σ π) (exactCycles : ℕ) :
    Vu1SliceResult σ π where
  run :=
    { prefixSlice.run with
      requestedCycles := exactCycles
      executedCycles := prefixSlice.run.executedCycles + extension.run.executedCycles
      reason := extension.run.reason
      activeAfter := extension.run.activeAfter
      completed := extension.run.completed }
  path1Packets := prefixSlice.path1Packets ++ extension.path1Packets
  state := extension.state
  vifCanResume := extension.vifCanResume
  fault := extension.fault

/-! ## The epoch -/

structure Vu1ExecutionEpochOptions where
  initialCycles : ℕ
  followupCycles : ℕ := 128
  checkpointCapacity : ℕ := 4
  captureState : Bool := false
  deriving DecidableEq, Repr

/-- The test of `submitExecutionEpoch`. -/
structure Vu1ExecutionEpochOptions.Valid (options : Vu1ExecutionEpochOptions) : Prop where
  initial : options.initialCycles ≠ 0 ∧ options.initialCycles ≤ uint32Max
  followup : options.followupCycles ≠ 0 ∧ options.followupCycles ≤ uint32Max
  capacity : options.checkpointCapacity ≠ 0 ∧ options.checkpointCapacity ≤ 64

/-- An entry of the journal. -/
structure Vu1EpochCheckpoint (σ π : Type) where
  revision : ℕ
  cycles : ℕ
  active : Bool
  consumed : Bool := false
  result : Vu1SliceResult σ π
  deriving DecidableEq, Repr

/-- `SpeculativeSliceCheckpoint`, and what it is a checkpoint of. -/
structure Vu1EpochProcessor (σ : Type) where
  unit : σ
  nextSequence : ℕ
  deriving DecidableEq, Repr

structure LocalCheckpoint (σ : Type) where
  shared : ℕ
  processor : Vu1EpochProcessor σ
  deriving DecidableEq, Repr

structure PositiveDemandExtension (σ : Type) where
  frontier : LocalCheckpoint σ
  exactCycles : ℕ
  deriving DecidableEq, Repr

/-- What the worker does next. -/
inductive Vu1EpochAction (σ : Type) where
  | Start
  | Decide
  | Produce (cycles revision : ℕ)
  | Extend (positiveDemandExtension : Option (PositiveDemandExtension σ)) (revision discarded : ℕ)
  | Rebase
  | Stop
  | Finished
  deriving DecidableEq, Repr

/-- A wait that was answered: what it asked for, the entry it got, and the revision then. -/
structure Vu1EpochAnswer (σ π : Type) where
  exactCycles : ℕ
  checkpoint : Vu1EpochCheckpoint σ π
  demandRevision : ℕ
  deriving DecidableEq, Repr

structure Vu1ExecutionEpoch (σ π : Type) where
  options : Vu1ExecutionEpochOptions
  /-- The sequence number of the epoch's command. -/
  sequence : ℕ
  -- Shared.
  objects : List (Vu1EpochCheckpoint σ π) := []
  journal : List ℕ := []
  failure : Option String := none
  demandRevision : ℕ := 0
  demandedCycles : ℕ
  stopRequested : Bool := false
  workerStarted : Bool := false
  stopped : Bool := false
  -- The worker's.
  processor : Vu1EpochProcessor σ
  baseline : Vu1EpochProcessor σ
  localJournal : List (LocalCheckpoint σ) := []
  handledRevision : ℕ := 0
  initialExecution : Bool := true
  reachedInactive : Bool := false
  action : Vu1EpochAction σ := .Start
  -- The EE's.
  waiting : Option ℕ := none
  answers : List (Vu1EpochAnswer σ π) := []
  deriving Repr

/-- The outcome of the loop that takes over consumed entries. -/
inductive Absorbed (σ : Type) where
  | remaining (localJournal : List (LocalCheckpoint σ)) (journal : List ℕ)
      (baseline : Vu1EpochProcessor σ)
  | inactive (baseline : Vu1EpochProcessor σ)
  | diverged (baseline : Vu1EpochProcessor σ)

namespace Vu1ExecutionEpoch

/-- `submitExecutionEpoch`: the command is the next one of a processor that is at `unit`. -/
def create (options : Vu1ExecutionEpochOptions) (sequence : ℕ) (unit : σ) :
    Vu1ExecutionEpoch σ π where
  options := options
  sequence := sequence
  demandedCycles := options.initialCycles
  processor := ⟨unit, sequence⟩
  baseline := ⟨unit, sequence + 1⟩

def isConsumed (s : Vu1ExecutionEpoch σ π) (id : ℕ) : Bool :=
  (s.objects[id]?).any (·.consumed)

/-! ## The EE -/

/-- The first entry that is not consumed. -/
def firstReady (s : Vu1ExecutionEpoch σ π) : Option (ℕ × Vu1EpochCheckpoint σ π) :=
  s.journal.findSome? fun id =>
    match s.objects[id]? with
    | some checkpoint => if checkpoint.consumed then none else some (id, checkpoint)
    | none => none

/-- The demand is not the one that the journal is for. -/
def needsRebase (s : Vu1ExecutionEpoch σ π) (exactCycles : ℕ) : Bool :=
  match s.firstReady with
  | some (_, checkpoint) =>
    checkpoint.cycles ≠ exactCycles ∨ checkpoint.revision ≠ s.demandRevision
  | none => s.demandedCycles ≠ exactCycles

/-- `waitExecutionEpochCheckpoint` up to the wait. A call that throws does nothing. -/
def waitExecutionEpochCheckpoint (s : Vu1ExecutionEpoch σ π) (exactCycles : CycleCount) :
    Vu1ExecutionEpoch σ π :=
  if s.waiting.isSome ∨ exactCycles.val = 0 then s
  else if s.needsRebase exactCycles then
    if s.demandRevision = uint64Max.val then s
    else
      { s with
        demandedCycles := exactCycles
        demandRevision := s.demandRevision + 1
        waiting := some exactCycles.val }
  else { s with waiting := some exactCycles.val }

/-- The wait ends when its entry is there, or by an exception. -/
def wake (s : Vu1ExecutionEpoch σ π) : Vu1ExecutionEpoch σ π :=
  match s.waiting with
  | none => s
  | some exactCycles =>
    if s.failure.isSome then { s with waiting := none }
    else
      match s.firstReady with
      | none => if s.stopped then { s with waiting := none } else s
      | some (id, checkpoint) =>
        if checkpoint.cycles = exactCycles ∧ checkpoint.revision = s.demandRevision then
          { s with
            objects := s.objects.modify id fun c => { c with consumed := true }
            demandedCycles := s.options.followupCycles
            waiting := none
            answers := s.answers ++ [⟨exactCycles, checkpoint, s.demandRevision⟩] }
        else if s.stopped then { s with waiting := none }
        else s

/-! ## The worker -/

/-- The handler of `runExecutionEpoch`. -/
def fail (s : Vu1ExecutionEpoch σ π) (failure : String) : Vu1ExecutionEpoch σ π :=
  { s with
    processor := s.baseline
    failure := some (s.failure.getD failure)
    stopped := true
    action := .Finished }

/-- Consumed entries leave both journals and become the baseline. -/
def absorb (s : Vu1ExecutionEpoch σ π) :
    List (LocalCheckpoint σ) → List ℕ → Vu1EpochProcessor σ → Absorbed σ
  | [], journal, baseline => .remaining [] journal baseline
  | front :: rest, journal, baseline =>
    match s.objects[front.shared]? with
    | none => .diverged baseline
    | some checkpoint =>
      if !checkpoint.consumed then .remaining (front :: rest) journal baseline
      else
        match journal with
        | [] => .diverged front.processor
        | id :: journal =>
          if id ≠ front.shared then .diverged front.processor
          else if checkpoint.active then absorb s rest journal front.processor
          else .inactive front.processor

/-- The section in which the worker decides what to do next; it waits by deciding again. -/
def decide (s : Vu1ExecutionEpoch σ π) : Vu1ExecutionEpoch σ π :=
  match s.absorb s.localJournal s.journal s.baseline with
  | .diverged baseline => { s with baseline }.fail "VU1 epoch journal order diverged"
  | .inactive baseline =>
    { s with baseline, journal := [], localJournal := [], action := .Stop }
  | .remaining localJournal journal baseline =>
    let s := { s with baseline, journal, localJournal }
    if s.stopRequested then { s with journal := [], localJournal := [], action := .Stop }
    else if s.demandRevision ≠ s.handledRevision then
      let rebased :=
        { s with
          journal := []
          localJournal := []
          handledRevision := s.demandRevision
          reachedInactive := false }
      match localJournal with
      | [] => { rebased with action := .Rebase }
      | front :: rest =>
        let canExtendFront :=
          (s.objects[front.shared]?).any fun checkpoint =>
            !checkpoint.consumed && checkpoint.revision = s.handledRevision &&
              s.demandedCycles > checkpoint.cycles
        if canExtendFront then
          { rebased with
            action := .Extend (some ⟨front, s.demandedCycles⟩) s.demandRevision rest.length }
        else { rebased with action := .Rebase }
    else if !s.reachedInactive && localJournal.length < s.options.checkpointCapacity then
      let cycles := if localJournal.isEmpty then s.demandedCycles else s.options.followupCycles
      { s with action := .Produce cycles s.handledRevision }
    else s

/-- The new entry is put into both journals. -/
def publish (s : Vu1ExecutionEpoch σ π) (revision cycles : ℕ) (active : Bool)
    (result : Vu1SliceResult σ π) : Vu1ExecutionEpoch σ π :=
  { s with
    objects := s.objects ++ [{ revision, cycles, active, result }]
    journal := s.journal ++ [s.objects.length]
    localJournal := s.localJournal ++ [⟨s.objects.length, s.processor⟩]
    reachedInactive := !active
    action := .Decide }

/-- `processAdvanceSlice` or, after the first slice, `processEpochContinuation` accepts the
sequence number. -/
def acceptsSequence (s : Vu1ExecutionEpoch σ π) : Bool :=
  if s.initialExecution then
    s.sequence == s.processor.nextSequence && s.processor.nextSequence != uint64Max.val
  else s.sequence != uint64Max.val && s.processor.nextSequence == s.sequence + 1

/-- The slice is executed without the mutex and published under it. -/
def produce (vu : Vu1Advance σ π) (s : Vu1ExecutionEpoch σ π) (cycles revision : ℕ) :
    Vu1ExecutionEpoch σ π :=
  if cycles = 0 then s.fail "VU1 epoch requested a zero-cycle checkpoint"
  else if !s.acceptsSequence then s.fail "VU1 owner rejected execution epoch checkpoint"
  else
    let (unit, result) := vu.advanceSlice s.options.captureState s.processor.unit cycles
    { s with
      processor := ⟨unit, s.sequence + 1⟩
      initialExecution := false }.publish revision cycles (vu.isActive unit) result

/-- The retained front is continued by the missing cycles. -/
def extend (vu : Vu1Advance σ π) (s : Vu1ExecutionEpoch σ π)
    (positiveDemandExtension : Option (PositiveDemandExtension σ)) (revision discarded : ℕ) :
    Vu1ExecutionEpoch σ π :=
  match positiveDemandExtension with
  | none => s.fail "VU1 epoch positive demand lost its prefix"
  | some extension =>
    match s.objects[extension.frontier.shared]? with
    | none => s.fail "VU1 epoch positive demand lost its prefix"
    | some checkpoint =>
      let exactCycles := extension.exactCycles
      if checkpoint.cycles = 0 ∨ exactCycles ≤ checkpoint.cycles ∨ checkpoint.consumed then
        s.fail "VU1 epoch received an invalid positive demand"
      else if checkpoint.result.run.requestedCycles ≠ checkpoint.cycles then
        s.fail "VU1 epoch positive demand has an invalid prefix"
      else
        let s :=
          if discarded ≠ 0 then { s with processor := extension.frontier.processor } else s
        let s := { s with initialExecution := false }
        let (unit, result) := vu.advanceSlice s.options.captureState s.processor.unit
          (exactCycles - checkpoint.cycles)
        if !s.acceptsSequence ∨
            checkpoint.result.run.executedCycles > uint32Max - result.run.executedCycles then
          s.fail "VU1 epoch positive suffix was rejected"
        else
          { s with processor := ⟨unit, s.processor.nextSequence⟩ }.publish revision exactCycles
            (vu.isActive unit) (checkpoint.result.extend result exactCycles)

/-- One section of `runExecutionEpoch`, with what the worker does by itself before it. -/
def work (vu : Vu1Advance σ π) (s : Vu1ExecutionEpoch σ π) : Vu1ExecutionEpoch σ π :=
  match s.action with
  | .Start =>
    { s with
      baseline := { s.processor with nextSequence := s.sequence + 1 }
      workerStarted := true
      handledRevision := s.demandRevision
      action := .Decide }
  | .Decide => s.decide
  | .Produce cycles revision => s.produce vu cycles revision
  | .Extend extension revision discarded => s.extend vu extension revision discarded
  | .Rebase => { s with processor := s.baseline, initialExecution := false, action := .Decide }
  | .Stop => { s with processor := s.baseline, stopped := true, action := .Finished }
  | .Finished => s

end Vu1ExecutionEpoch

inductive Vu1EpochInput where
  | waitExecutionEpochCheckpoint (exactCycles : CycleCount)
  | wake
  | stopExecutionEpoch
  | work
  deriving DecidableEq, Repr

def Vu1ExecutionEpoch.step (vu : Vu1Advance σ π) (s : Vu1ExecutionEpoch σ π) :
    Vu1EpochInput → Vu1ExecutionEpoch σ π
  | .waitExecutionEpochCheckpoint exactCycles => s.waitExecutionEpochCheckpoint exactCycles
  | .wake => s.wake
  | .stopExecutionEpoch => { s with stopRequested := true }
  | .work => s.work vu

end Ps2Recomp
