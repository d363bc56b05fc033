import Ps2Recomp.Scheduler.Operations

/-!
# The boundary of the scheduler's executor (`ee_scheduler_executor.h`, `ee_scheduler_executor.cpp`)

`processBoundary` of `EeSchedulerExecutor`, with hooks that are programs (`HookProgram`): any
sequence of scheduler operations, debug controls and nested boundaries, each depending on the
answers to those before, and then a result or an exception. Only `applyNextConsequence` may have
scheduler operations. What the hooks remember between two calls is `hooks`.

A nested boundary is a call of `processBoundary` on the same thread, so `processBoundary` has the
depth of nesting as an argument; the flag `m_processingBoundary` keeps it at one.

`events` is history: the hooks that were called, with the answers of `hasImmediateConsequence`.
The counters of the statistics are natural numbers. An exception is its text.
-/

namespace Ps2Recomp

/-! ## Types -/

inductive EeSchedulerConsequenceStage where
  | AsynchronousWake
  | WaitTimeout
  | HardwareEvent
  | InterruptCause
  deriving DecidableEq, Repr

inductive EeSchedulerExecutorDisposition where
  | ResumeGuest
  | Paused
  | StopRequested
  deriving DecidableEq, Repr

inductive EeSchedulerOwnerLocalTransitionKind where
  | None
  | RotateReadyQueue
  deriving DecidableEq, Repr

structure EeSchedulerOwnerLocalTransition where
  kind : EeSchedulerOwnerLocalTransitionKind := .None
  originatingThread : EeSchedulerThreadHandle := {}
  priority : Int := 0
  reschedulePolicy : EeSchedulerReschedulePolicy := .None
  deriving DecidableEq, Repr

namespace EeSchedulerOwnerLocalTransition

def pending (transition : EeSchedulerOwnerLocalTransition) : Bool := transition.kind != .None

def structurallyValid (transition : EeSchedulerOwnerLocalTransition) : Bool :=
  match transition.kind with
  | .None =>
    transition.originatingThread == {} && transition.priority == 0 &&
      transition.reschedulePolicy == .None
  | .RotateReadyQueue =>
    transition.originatingThread.valid && decide (0 ≤ transition.priority) &&
      decide (transition.priority < kEeThreadPriorityCount) &&
      (transition.reschedulePolicy == .None ||
        transition.reschedulePolicy == .EqualOrHigherPriority)

end EeSchedulerOwnerLocalTransition

namespace EeSchedulerConsequenceStage

/-- The stages in the order of their numbers. -/
def all : List EeSchedulerConsequenceStage :=
  [.AsynchronousWake, .WaitTimeout, .HardwareEvent, .InterruptCause]

/-- `eeSchedulerConsequenceStageIndex`. -/
def index (stage : EeSchedulerConsequenceStage) : ℕ := stage.ctorIdx

end EeSchedulerConsequenceStage

structure EeSchedulerBoundaryInput where
  priorThreadId : Option Int := none
  elapsed : EeTickDelta := 0
  initialPolicy : EeSchedulerReschedulePolicy := .HigherPriorityOnly
  ownerLocalTransition : EeSchedulerOwnerLocalTransition := {}
  deriving DecidableEq, Repr

structure EeSchedulerBoundaryResult where
  tick : EeTick := 0
  selectedThreadId : Option Int := none
  ownerLocalTransitionsApplied : ℕ := 0
  consequencesProcessed : ℕ := 0
  contextPublications : ℕ := 0
  limitExceeded : Bool := false
  reentrantBoundaryRejected : Bool := false
  disposition : EeSchedulerExecutorDisposition := .ResumeGuest
  offendingStage : Option EeSchedulerConsequenceStage := none
  stageCounts : EeSchedulerConsequenceStage → ℕ := fun _ => 0

structure EeSchedulerExecutorStatistics where
  boundaries : ℕ := 0
  ownerLocalTransitionsApplied : ℕ := 0
  consequences : ℕ := 0
  contextPublications : ℕ := 0
  consequenceLimitHits : ℕ := 0
  reentrantBoundaryRejects : ℕ := 0
  pausedBoundaries : ℕ := 0
  stoppedBoundaries : ℕ := 0
  completedDebugSteps : ℕ := 0
  deriving DecidableEq, Repr

/-- A `std::thread::id`. -/
abbrev HostThreadId := ℕ

structure EeSchedulerExecutor where
  /-- `m_timeline.now()` -/
  now : EeTick := 0
  statistics : EeSchedulerExecutorStatistics := {}
  processingBoundary : Bool := false
  debugPauseRequested : Bool := false
  debugStopRequested : Bool := false
  debugStepBoundariesRemaining : ℕ := 0
  ownerThreadId : Option HostThreadId := none
  deriving DecidableEq, Repr

/-! ## Operations that a hook can call -/

inductive EeSchedulerExecutorOp where
  | debugRequestPause
  | debugResume
  | debugRequestStop
  | debugStepBoundaries (count : ℕ)
  | reset
  deriving DecidableEq, Repr

namespace EeSchedulerExecutor

def debugStepBoundaries (e : EeSchedulerExecutor) (count : ℕ) : EeSchedulerExecutor :=
  if count = 0 ∨ e.debugStopRequested then e
  else { e with debugStepBoundariesRemaining := count, debugPauseRequested := false }

def reset (e : EeSchedulerExecutor) : EeSchedulerExecutor :=
  if e.processingBoundary then e else {}

def run (e : EeSchedulerExecutor) : EeSchedulerExecutorOp → EeSchedulerExecutor
  | .debugRequestPause => { e with debugStepBoundariesRemaining := 0, debugPauseRequested := true }
  | .debugResume => { e with debugStepBoundariesRemaining := 0, debugPauseRequested := false }
  | .debugRequestStop => { e with debugStopRequested := true }
  | .debugStepBoundaries count => e.debugStepBoundaries count
  | .reset => e.reset

end EeSchedulerExecutor

/-- What a hook does. `scheduler` says whether it may call scheduler operations. -/
inductive HookProgram (scheduler : Bool) (α : Type) : Type
  | ret (a : α)
  | raise (what : String)
  | schedule (allowed : scheduler = true) (op : SchedulerOp)
      (next : EeThreadScheduler → HookProgram scheduler α)
  | control (op : EeSchedulerExecutorOp) (next : EeSchedulerExecutor → HookProgram scheduler α)
  | processBoundary (input : EeSchedulerBoundaryInput)
      (next : Except String EeSchedulerBoundaryResult → HookProgram scheduler α)

/-- The hooks, without `publishWaitCompletion`, which a boundary does not call. -/
structure EeSchedulerExecutorHooks (η : Type) where
  commitPriorContext : Option Int → EeTickDelta → EeTick → η → HookProgram false η
  publishSelectedContext : Option Int → EeTick → η → HookProgram false η
  hasImmediateConsequence :
    EeSchedulerConsequenceStage → EeTick → η → HookProgram false (Bool × η)
  applyNextConsequence : EeSchedulerConsequenceStage → EeTick → EeThreadScheduler → η →
    HookProgram true (EeSchedulerReschedulePolicy × η)

/-- A hook that was called. -/
inductive BoundaryEvent where
  | committed (priorThreadId : Option Int) (elapsed : EeTickDelta)
  | published (selectedThreadId : Option Int)
  | polled (stage : EeSchedulerConsequenceStage) (answer : Bool)
  | applied (stage : EeSchedulerConsequenceStage)
  deriving DecidableEq, Repr

structure BoundaryWorld (η : Type) where
  executor : EeSchedulerExecutor
  scheduler : EeThreadScheduler
  hooks : η
  events : List BoundaryEvent := []

/-- Code that changes the world, and may throw. -/
abbrev BoundaryM (η : Type) := EStateM String (BoundaryWorld η)

namespace Boundary

variable {η α : Type} {scheduler : Bool}

/-- What a nested boundary does. -/
abbrev Nested (η : Type) := EeSchedulerBoundaryInput → BoundaryM η EeSchedulerBoundaryResult

/-! ## Calling hooks -/

def modifyScheduler (f : EeThreadScheduler → α × EeThreadScheduler) : BoundaryM η α := fun w =>
  .ok (f w.scheduler).1 { w with scheduler := (f w.scheduler).2 }

def modifyExecutor (f : EeSchedulerExecutor → EeSchedulerExecutor) : BoundaryM η Unit := fun w =>
  .ok () { w with executor := f w.executor }

def record (event : BoundaryEvent) : BoundaryM η Unit := fun w =>
  .ok () { w with events := w.events ++ [event] }

def remember (hooks : η) : BoundaryM η Unit := fun w => .ok () { w with hooks := hooks }

/-- A hook runs; what a nested boundary throws is for the hook to handle. -/
def runHook (nested : Nested η) : HookProgram scheduler α → BoundaryM η α
  | .ret a => pure a
  | .raise what => throw what
  | .schedule _ op next => fun w =>
    runHook nested (next (op.run w.scheduler)) { w with scheduler := op.run w.scheduler }
  | .control op next => fun w =>
    runHook nested (next (w.executor.run op)) { w with executor := w.executor.run op }
  | .processBoundary input next => fun w =>
    match nested input w with
    | .ok result w => runHook nested (next (.ok result)) w
    | .error what w => runHook nested (next (.error what)) w

variable (nested : Nested η) (hooks : EeSchedulerExecutorHooks η)

def commitPriorContext (input : EeSchedulerBoundaryInput) (tick : EeTick) : BoundaryM η Unit := do
  record (.committed input.priorThreadId input.elapsed)
  let memory ← runHook nested
    (hooks.commitPriorContext input.priorThreadId input.elapsed tick (← get).hooks)
  remember memory

def publishSelectedContext (selectedThreadId : Option Int) (tick : EeTick) : BoundaryM η Unit := do
  record (.published selectedThreadId)
  let memory ← runHook nested (hooks.publishSelectedContext selectedThreadId tick (← get).hooks)
  remember memory

def hasImmediateConsequence (stage : EeSchedulerConsequenceStage) (tick : EeTick) :
    BoundaryM η Bool := do
  let (answer, memory) ← runHook nested (hooks.hasImmediateConsequence stage tick (← get).hooks)
  remember memory
  record (.polled stage answer)
  return answer

def applyNextConsequence (stage : EeSchedulerConsequenceStage) (tick : EeTick) :
    BoundaryM η EeSchedulerReschedulePolicy := do
  record (.applied stage)
  let w ← get
  let (policy, memory) ← runHook nested
    (hooks.applyNextConsequence stage tick w.scheduler w.hooks)
  remember memory
  return policy

/-! ## `processBoundary` -/

def requireOwner (current : HostThreadId) : BoundaryM η Unit := do
  match (← get).executor.ownerThreadId with
  | none => modifyExecutor fun e => { e with ownerThreadId := some current }
  | some owner =>
    if owner ≠ current then throw "EE scheduler boundary requires its owner thread"

def validateOwnerLocalTransition (s : EeThreadScheduler) (input : EeSchedulerBoundaryInput) :
    Except String Unit := do
  let transition := input.ownerLocalTransition
  if !transition.structurallyValid then
    throw "EE scheduler boundary received an invalid owner-local transition"
  if !transition.pending then return
  if input.initialPolicy ≠ .None then
    throw "an owner-local transition requires a suppressed provisional reschedule"
  if input.priorThreadId ≠ some transition.originatingThread.id ∨
      s.currentThreadId ≠ input.priorThreadId then
    throw "an owner-local transition does not match the exiting scheduler owner"
  if s.threadHandle transition.originatingThread.id ≠ some transition.originatingThread then
    throw "an owner-local transition has a stale originating thread handle"

/-- The `switch` of `applyOwnerLocalTransition`. -/
def applyTransitionKind (transition : EeSchedulerOwnerLocalTransition) : BoundaryM η Unit :=
  match transition.kind with
  | .RotateReadyQueue => do
    match (← get).scheduler.thread transition.originatingThread.id with
    | none => throw "an owner-local ready-queue rotation lost its originating thread"
    | some origin =>
      if origin.generation ≠ transition.originatingThread.generation then
        throw "an owner-local ready-queue rotation lost its originating thread"
      else if origin.priority ≠ transition.priority then
        let rotated ← modifyScheduler (·.rotateReadyQueue transition.priority)
        if !rotated then
          throw "an owner-local ready-queue rotation violated a scheduler invariant"
      else return
  | .None => throw "an empty owner-local transition cannot be applied"

def applyOwnerLocalTransition (transition : EeSchedulerOwnerLocalTransition) :
    BoundaryM η (Option Int) := do
  applyTransitionKind transition
  let selected ← modifyScheduler (·.reschedule transition.reschedulePolicy)
  if selected.isNone then throw "an owner-local transition lost the selected scheduler context"
  else return selected

/-- The loop of `nextImmediateStage` over the stages that are left. -/
def nextStageOf (tick : EeTick) :
    List EeSchedulerConsequenceStage → BoundaryM η (Option EeSchedulerConsequenceStage)
  | [] => return none
  | stage :: rest => do
    if ← hasImmediateConsequence nested hooks stage tick then return some stage
    nextStageOf tick rest

def nextImmediateStage (tick : EeTick) : BoundaryM η (Option EeSchedulerConsequenceStage) :=
  nextStageOf nested hooks tick EeSchedulerConsequenceStage.all

/-- The body of the loop over consequences, for a stage that has one. -/
def serveConsequence (stage : EeSchedulerConsequenceStage) (result : EeSchedulerBoundaryResult) :
    BoundaryM η EeSchedulerBoundaryResult := do
  let selectionBefore := (← get).scheduler.currentThreadId
  let consequencePolicy ← applyNextConsequence nested hooks stage result.tick
  let selectedThreadId ← modifyScheduler (·.reschedule consequencePolicy)
  let result := { result with
    consequencesProcessed := result.consequencesProcessed + 1
    stageCounts := Function.update result.stageCounts stage (result.stageCounts stage + 1)
    selectedThreadId }
  if selectionBefore ≠ selectedThreadId then
    publishSelectedContext nested hooks selectedThreadId result.tick
    return { result with contextPublications := result.contextPublications + 1 }
  return result

/-- The loop over consequences, with the number that may still be served. -/
def serveConsequences : ℕ → EeSchedulerBoundaryResult → BoundaryM η EeSchedulerBoundaryResult
  | 0, result => return result
  | remaining + 1, result => do
    match ← nextImmediateStage nested hooks result.tick with
    | none => return result
    | some stage => serveConsequences remaining (← serveConsequence nested hooks stage result)

/-- `kMaximumConsequencesPerBoundary`. -/
def kMaximumConsequencesPerBoundary : ℕ := 1024

/-- `applyDebugControl`; `diagnostics` is `PS2X_ENABLE_RUNTIME_DIAGNOSTICS`. -/
def applyDebugControl (diagnostics : Bool) (e : EeSchedulerExecutor) :
    EeSchedulerExecutorDisposition × EeSchedulerExecutor :=
  let statistics := e.statistics
  if e.debugStopRequested then
    (.StopRequested, { e with
      statistics := { statistics with stoppedBoundaries := statistics.stoppedBoundaries + 1 } })
  else if !diagnostics then (.ResumeGuest, e)
  else if e.debugPauseRequested then
    (.Paused, { e with
      statistics := { statistics with pausedBoundaries := statistics.pausedBoundaries + 1 } })
  else if e.debugStepBoundariesRemaining = 0 then (.ResumeGuest, e)
  else if e.debugStepBoundariesRemaining = 1 then
    (.Paused, { e with
      debugStepBoundariesRemaining := 0
      debugPauseRequested := true
      statistics := { statistics with
        pausedBoundaries := statistics.pausedBoundaries + 1
        completedDebugSteps := statistics.completedDebugSteps + 1 } })
  else
    (.ResumeGuest,
      { e with debugStepBoundariesRemaining := e.debugStepBoundariesRemaining - 1 })

/-- What is done before the first consequence: the tick, the prior context, the selection. -/
def selectContext (input : EeSchedulerBoundaryInput) : BoundaryM η EeSchedulerBoundaryResult := do
  match validateOwnerLocalTransition (← get).scheduler input with
  | .error what => throw what
  | .ok _ =>
    modifyExecutor fun e => { e with now := saturatingAdd e.now input.elapsed }
    let tick := (← get).executor.now
    modifyScheduler fun s => ((), s.publishCanonicalTick tick.val)
    commitPriorContext nested hooks input tick
    if input.ownerLocalTransition.pending then
      let selectedThreadId ← applyOwnerLocalTransition input.ownerLocalTransition
      publishSelectedContext nested hooks selectedThreadId tick
      return { tick, selectedThreadId, ownerLocalTransitionsApplied := 1, contextPublications := 1 }
    else
      let selectedThreadId ← modifyScheduler (·.reschedule input.initialPolicy)
      publishSelectedContext nested hooks selectedThreadId tick
      return { tick, selectedThreadId, contextPublications := 1 }

/-- The stage that still has a consequence once no more may be served. -/
def offendingStage (result : EeSchedulerBoundaryResult) :
    BoundaryM η (Option EeSchedulerConsequenceStage) :=
  if result.consequencesProcessed = kMaximumConsequencesPerBoundary then
    nextImmediateStage nested hooks result.tick
  else return none

/-- What stands in the `try`. -/
def runBoundary (diagnostics : Bool) (input : EeSchedulerBoundaryInput) :
    BoundaryM η EeSchedulerBoundaryResult := do
  let result ← selectContext nested hooks input
  let result ← serveConsequences nested hooks kMaximumConsequencesPerBoundary result
  let offendingStage ← offendingStage nested hooks result
  let disposition ← fun w =>
    .ok (applyDebugControl diagnostics w.executor).1
      { w with executor := (applyDebugControl diagnostics w.executor).2 }
  return { result with offendingStage, limitExceeded := offendingStage.isSome, disposition }

def countBoundary (result : EeSchedulerBoundaryResult) (statistics : EeSchedulerExecutorStatistics) :
    EeSchedulerExecutorStatistics :=
  { statistics with
    boundaries := statistics.boundaries + 1
    ownerLocalTransitionsApplied :=
      statistics.ownerLocalTransitionsApplied + result.ownerLocalTransitionsApplied
    consequences := statistics.consequences + result.consequencesProcessed
    contextPublications := statistics.contextPublications + result.contextPublications
    consequenceLimitHits :=
      if result.limitExceeded then statistics.consequenceLimitHits + 1
      else statistics.consequenceLimitHits }

/-- The branch of `processBoundary` that rejects a nested boundary. -/
def rejectReentrant : BoundaryM η EeSchedulerBoundaryResult := fun w =>
  .ok
    { tick := w.executor.now
      selectedThreadId := w.scheduler.currentThreadId
      reentrantBoundaryRejected := true }
    { w with
      executor := { w.executor with
        statistics := { w.executor.statistics with
          reentrantBoundaryRejects := w.executor.statistics.reentrantBoundaryRejects + 1 } } }

/-- `processBoundary`, with what a nested one does. -/
def processBoundaryWith (diagnostics : Bool) (current : HostThreadId)
    (input : EeSchedulerBoundaryInput) : BoundaryM η EeSchedulerBoundaryResult := do
  requireOwner current
  if (← get).executor.processingBoundary then rejectReentrant
  else
    modifyExecutor fun e => { e with processingBoundary := true }
    let result ← tryCatch (runBoundary nested hooks diagnostics input) fun what => do
      modifyExecutor fun e => { e with processingBoundary := false }
      throw what
    modifyExecutor fun e =>
      { e with processingBoundary := false, statistics := countBoundary result e.statistics }
    return result

/-- `processBoundary`, with nested calls up to a depth. -/
def processBoundary (diagnostics : Bool) (current : HostThreadId) : ℕ → Nested η
  | 0 => fun _ => throw "nested too deep"
  | depth + 1 =>
    processBoundaryWith (processBoundary diagnostics current depth) hooks diagnostics current

end Boundary

end Ps2Recomp
