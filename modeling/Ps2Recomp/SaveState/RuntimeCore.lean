import Ps2Recomp.SaveState.GuestState
import Ps2Recomp.Scheduler.Operations
import Ps2Recomp.Lib.FiniteIndices

/-!
# The runtime core chunk of a save state

Model of the thread part of `PS2Runtime::encodeRuntimeCoreSaveState` and
`decodeRuntimeCoreSaveState` (`ps2_runtime_save_state.cpp`) and of `startDedicatedEeExecution`
(`ps2_runtime.cpp`), over the thread registry `EeThreadRuntimeState` (`ThreadRuntimeState.h`).

* A payload is the record of the values that the `Writer` writes, in the order it writes them; the
  bytes are left out.
* The registers of an `R5900Context` that no function here reads or writes are left out. A
  `boundContext` points to `m_cpuContext` for thread 1 and to the thread's own `context` for any
  other, so it is not a field.
* `Sections` is everything in the payload before the scheduler and after the threads (timers,
  events, pending interrupts, the guest heap), and `checkSections` the decoder's verdict on it.
* `encodeRuntimeCoreSaveState` gets the scheduler's snapshot as its argument, as in the source: the
  executor owns the scheduler.
-/

namespace Ps2Recomp

/-! ## The context -/

/-- `EeInstructionIssueProfile`. -/
structure EeInstructionIssueProfile where
  pipeMask : UInt32 := 0
  gprReadMask : UInt32 := 0
  gprWriteMask : UInt32 := 0
  flags : UInt32 := 0
  deriving DecidableEq

structure R5900Context where
  r : Fin 32 → BitVec 128 := fun _ => 0
  pc : UInt32 := 0
  ee_block_cycle_ticks : UInt32 := 0
  ee_block_cycle_active : Bool := false
  cop0_random_pending_retirements : UInt64 := 0
  ee_performance_issue_pending : Bool := false
  ee_performance_pending_issue : EeInstructionIssueProfile := {}
  cop0_random : UInt32 := 47
  cop0_wired : UInt32 := 0
  in_delay_slot : Bool := false
  branch_pc : UInt32 := 0
  deriving DecidableEq

namespace R5900Context

variable (ctx : R5900Context)

/-- `getRegU32`. -/
def getRegU32 (reg : Fin 32) : UInt32 :=
  if reg = 0 then 0 else UInt32.ofBitVec ((ctx.r reg).setWidth 32)

/-- `setReturnS32`: `$v0` gets the value in its low half and zero in its high half. -/
def setReturnS32 (value : BitVec 32) : R5900Context :=
  { ctx with r := Function.update ctx.r 2 ((value.signExtend 64).setWidth 128) }

/-- The cyclic decrement of `advanceCop0Random`, over the entries from `lowerBound` to 47. -/
def cyclicRandom (lowerBound random : UInt32) (retirementCount : UInt64) : UInt32 :=
  let interval : UInt64 := (47 - lowerBound + 1).toUInt64
  let offset := random - lowerBound
  if retirementCount = 0 then random
  else if retirementCount ≤ offset.toUInt64 then random - retirementCount.toUInt32
  else
    let retirementCount := retirementCount - (offset.toUInt64 + 1)
    let retirementCount :=
      if interval ≤ retirementCount then (retirementCount - interval) % interval
      else retirementCount
    47 - retirementCount.toUInt32

/-- `advanceCop0Random`: the first retirement of a register out of range selects entry 47. -/
def advanceCop0Random (retirementCount : UInt64) : R5900Context :=
  let lowerBound := min (ctx.cop0_wired &&& 0x3f) 47
  let random := ctx.cop0_random &&& 0x3f
  if retirementCount = 0 then ctx
  else if random < lowerBound ∨ 47 < random then
    { ctx with cop0_random := cyclicRandom lowerBound 47 (retirementCount - 1) }
  else { ctx with cop0_random := cyclicRandom lowerBound random retirementCount }

def finishEeInstruction : R5900Context :=
  { ctx.advanceCop0Random ctx.cop0_random_pending_retirements with
    cop0_random_pending_retirements := 0 }

def resetEeBlockTiming : R5900Context :=
  { ctx.finishEeInstruction with
    ee_block_cycle_ticks := 0
    ee_block_cycle_active := false
    ee_performance_issue_pending := false
    ee_performance_pending_issue := {} }

@[simp] theorem resetEeBlockTiming_pc : ctx.resetEeBlockTiming.pc = ctx.pc := by
  simp only [resetEeBlockTiming, finishEeInstruction, advanceCop0Random]
  split
  · rfl
  · split <;> rfl

/-- The guest return address: the low word of `$ra`. -/
def returnAddress : UInt32 := ctx.getRegU32 31

end R5900Context

/-! ## The registry -/

/-- `ThreadInfo`, without the members that belong to host threads. -/
structure ThreadInfo where
  entry : UInt32 := 0
  stack : UInt32 := 0
  stackSize : UInt32 := 0
  gp : UInt32 := 0
  priority : Nat := 0
  attr : UInt32 := 0
  option : UInt32 := 0
  arg : UInt32 := 0
  generation : Nat := 0
  ownsStack : Bool := false
  tlsBase : UInt32 := 0
  guestState : EeThreadGuestState := {}
  context : R5900Context := {}
  currentPc : UInt32 := 0
  pendingWaitCompletion : EeSchedulerWaitCompletion := .None
  pendingEventFlagResultBits : UInt32 := 0
  deriving DecidableEq

structure EeThreadRuntimeState where
  threads : Finmap (fun _ : Int => ThreadInfo) := ∅
  nextThreadId : Int := 2
  nextGeneration : UInt32 := 1
  currentThreadId : Int := 1

/-- The members of `PS2Runtime` that the core chunk saves. -/
structure PS2Runtime (Sections : Type) where
  cpuContext : R5900Context := {}
  threadState : EeThreadRuntimeState := {}
  pendingRestoredEeScheduler : Option EeThreadSchedulerSnapshot := none
  sections : Sections

/-! ## Payloads -/

def kMaximumSavedThreads : Nat := 256

structure SavedThread where
  id : Int := 0
  entry : UInt32 := 0
  stack : UInt32 := 0
  stackSize : UInt32 := 0
  gp : UInt32 := 0
  priority : Nat := 0
  attr : UInt32 := 0
  option : UInt32 := 0
  arg : UInt32 := 0
  generation : Nat := 0
  ownsStack : Bool := false
  tlsBase : UInt32 := 0
  guest : EeThreadGuestStateSnapshot := {}
  context : R5900Context := {}
  currentPc : UInt32 := 0
  pendingWait : EeSchedulerWaitCompletion := .None
  pendingEventFlagResultBits : UInt32 := 0
  resumeAfterNativeWait : Bool := false
  deriving DecidableEq

structure RuntimeCorePayload (Sections : Type) where
  cpuContext : R5900Context
  scheduler : EeThreadSchedulerSnapshot
  nextThreadId : Int
  nextGeneration : UInt32
  currentThreadId : Int
  threads : List SavedThread
  sections : Sections

namespace SavedThread

/-- What `readSavedThread` checks. -/
def readable (thread : SavedThread) : Bool :=
  decide (0 < thread.id) && thread.generation != 0 && decide (thread.priority < 128) &&
    thread.guest.isValid

/-- `recoverNativeWaitContinuation`. -/
def recoverNativeWaitContinuation (thread : SavedThread) : SavedThread :=
  let returnAddress := thread.context.returnAddress
  if thread.resumeAfterNativeWait && returnAddress != 0 then
    { thread with
      context :=
        { ({ thread.context with pc := returnAddress }).setReturnS32 0 with
          in_delay_slot := false
          branch_pc := 0 }.resetEeBlockTiming }
  else thread

end SavedThread

/-! ## Encoding -/

namespace PS2Runtime

variable {Sections : Type} (runtime : PS2Runtime Sections)

/-- The context a thread runs on, `*info->boundContext`. -/
def contextOf (threadId : Int) (info : ThreadInfo) : R5900Context :=
  if threadId = 1 then runtime.cpuContext else info.context

/-- The body of the loop of `encodeRuntimeCoreSaveState`. -/
def savedThread (threadId : Int) (info : ThreadInfo) : SavedThread :=
  { id := threadId
    entry := info.entry
    stack := info.stack
    stackSize := info.stackSize
    gp := info.gp
    priority := info.priority
    attr := info.attr
    option := info.option
    arg := info.arg
    generation := info.generation
    ownsStack := info.ownsStack
    tlsBase := info.tlsBase
    guest := info.guestState.state
    context := runtime.contextOf threadId info
    currentPc := info.currentPc
    pendingWait := info.pendingWaitCompletion
    pendingEventFlagResultBits := info.pendingEventFlagResultBits
    -- A native wait cannot be saved: a load starts the thread at its return address.
    resumeAfterNativeWait :=
      info.guestState.state.status == kWait || info.guestState.state.status == kWaitSuspend }

def savedThreads : List SavedThread :=
  (runtime.threadState.threads.keys.sort (· ≤ ·)).filterMap fun threadId =>
    (runtime.threadState.threads.lookup threadId).map (runtime.savedThread threadId)

/-- The payload written for the scheduler's snapshot. -/
def corePayload (scheduler : EeThreadSchedulerSnapshot) : RuntimeCorePayload Sections :=
  { cpuContext := runtime.cpuContext
    scheduler := scheduler
    nextThreadId := runtime.threadState.nextThreadId
    nextGeneration := runtime.threadState.nextGeneration
    currentThreadId := runtime.threadState.currentThreadId
    threads := runtime.savedThreads
    sections := runtime.sections }

def encodeRuntimeCoreSaveState (scheduler : EeThreadSchedulerSnapshot) :
    Except String (RuntimeCorePayload Sections) :=
  if kMaximumSavedThreads < runtime.savedThreads.length then
    .error "save state has too many EE threads"
  else .ok (runtime.corePayload scheduler)

end PS2Runtime

/-! ## Decoding -/

/-- `hleWait`: the thread waits on an HLE semaphore, or has a completion of such a wait. -/
def EeSchedulerThreadSnapshot.hleWait (scheduled : EeSchedulerThreadSnapshot) : Bool :=
  scheduled.wait.kind == .HleSemaphore || scheduled.completedWait.wait.kind == .HleSemaphore

/-- What the decoder makes of the entry of an HLE waiter. -/
def EeSchedulerThreadSnapshot.withoutWait (scheduled : EeSchedulerThreadSnapshot) :
    EeSchedulerThreadSnapshot :=
  { scheduled with
    state := if scheduled.suspendCount ≠ 0 then .Suspended else .Ready
    wait := {}
    completedWait := {}
    retainCompletedWaitReason := false }

/-- What the decoder makes of the guest state of an HLE waiter. -/
def EeThreadGuestStateSnapshot.withoutWait (guest : EeThreadGuestStateSnapshot) :
    EeThreadGuestStateSnapshot :=
  { guest with
    status := if guest.suspendCount ≠ 0 then kSuspend else kReady
    waitType := kWaitNone
    waitId := 0
    waitQueue := .None
    waitQueueId := 0
    waitCompletionPending := false }

/-- What the decoder makes of the saved thread of an HLE waiter. -/
def SavedThread.withoutWait (thread : SavedThread) : SavedThread :=
  { thread with
    guest := thread.guest.withoutWait
    pendingWait := .None
    pendingEventFlagResultBits := 0 }

/-- Change the thread that `find_if` finds for an id: the first with it. -/
def modifyThread (id : Int) (f : SavedThread → SavedThread) : List SavedThread → List SavedThread
  | [] => []
  | thread :: rest => if thread.id = id then f thread :: rest else thread :: modifyThread id f rest

/-- The loop that reads the saved threads; `threadIds` are those read before. -/
def readSavedThreads : List Int → List SavedThread → Except String (List SavedThread)
  | _, [] => .ok []
  | threadIds, thread :: rest =>
    if !thread.readable || decide (thread.id ∈ threadIds) then
      .error "invalid or duplicate saved EE thread"
    else
      match readSavedThreads (thread.id :: threadIds) rest with
      | .error message => .error message
      | .ok threads => .ok (thread.recoverNativeWaitContinuation :: threads)

/-- The end of a round of the next loop: its entry comes before those of the rest. -/
def consEntry (scheduled : EeSchedulerThreadSnapshot) :
    Except String (List EeSchedulerThreadSnapshot × List SavedThread) →
      Except String (List EeSchedulerThreadSnapshot × List SavedThread)
  | .error message => .error message
  | .ok (rest, threads) => .ok (scheduled :: rest, threads)

/-- The loop that takes the HLE waiters out of their waits. -/
def normalizeHleWaits : List EeSchedulerThreadSnapshot → List SavedThread →
    Except String (List EeSchedulerThreadSnapshot × List SavedThread)
  | [], threads => .ok ([], threads)
  | scheduled :: rest, threads =>
    if scheduled.hleWait then
      match threads.find? (·.id = scheduled.id) with
      | none => .error "HLE wait has no saved EE thread"
      | some found =>
        if !found.withoutWait.guest.isValid then
          .error "failed to recover an HLE-waiting thread"
        else
          consEntry scheduled.withoutWait
            (normalizeHleWaits rest (modifyThread scheduled.id .withoutWait threads))
    else consEntry scheduled (normalizeHleWaits rest threads)

/-- The `ThreadInfo` built for a saved thread. -/
def SavedThread.info (saved : SavedThread) (guest : EeThreadGuestState) : ThreadInfo :=
  { entry := saved.entry
    stack := saved.stack
    stackSize := saved.stackSize
    gp := saved.gp
    priority := saved.priority
    attr := saved.attr
    option := saved.option
    arg := saved.arg
    generation := saved.generation
    ownsStack := saved.ownsStack
    tlsBase := saved.tlsBase
    guestState := guest
    -- Thread 1 runs on `m_cpuContext`, which the header has restored.
    context := if saved.id ≠ 1 then saved.context else {}
    currentPc := saved.currentPc
    pendingWaitCompletion := saved.pendingWait
    pendingEventFlagResultBits := saved.pendingEventFlagResultBits }

/-- The loop that fills the registry; `emplace` keeps an entry that is there. -/
def restoreThreadInfos (threads : Finmap (fun _ : Int => ThreadInfo)) :
    List SavedThread → Except String (Finmap (fun _ : Int => ThreadInfo))
  | [] => .ok threads
  | saved :: rest =>
    match EeThreadGuestState.restore saved.guest with
    | none => .error "failed to restore EE guest-thread state"
    | some guest =>
      restoreThreadInfos
        (if (threads.lookup saved.id).isSome then threads
          else threads.insert saved.id (saved.info guest)) rest

namespace PS2Runtime

variable {Sections : Type}

/-- The payload after its checks, with the continuations and the HLE waits recovered. -/
def checkRuntimeCore (checkSections : Sections → Except String Unit)
    (input : RuntimeCorePayload Sections) : Except String (RuntimeCorePayload Sections) :=
  if kMaximumSavedThreads < input.scheduler.threads.length ∨
      (EeThreadScheduler.restore {} input.scheduler).1 = false ∨
      kMaximumSavedThreads < input.threads.length then
    .error "invalid runtime core save-state header"
  else
    match readSavedThreads [] input.threads with
    | .error message => .error message
    | .ok threads =>
      match normalizeHleWaits input.scheduler.threads threads with
      | .error message => .error message
      | .ok (scheduled, threads) =>
        let scheduler := { input.scheduler with threads := scheduled }
        if (EeThreadScheduler.restore {} scheduler).1 = false then
          .error "failed to normalize restored EE waits"
        else if !threads.any (·.id = 1) then .error "save state has no main EE thread"
        else if !scheduled.all fun thread => threads.any fun saved =>
            saved.id = thread.id && saved.generation = thread.generation then
          .error "EE scheduler and thread registry do not match"
        else
          match checkSections input.sections with
          | .error message => .error message
          | .ok () => .ok { input with scheduler := scheduler, threads := threads }

/-- `decodeRuntimeCoreSaveState`. -/
def decodeRuntimeCoreSaveState (checkSections : Sections → Except String Unit)
    (input : RuntimeCorePayload Sections) : Except String (PS2Runtime Sections) :=
  match checkRuntimeCore checkSections input with
  | .error message => .error message
  | .ok checked =>
    match restoreThreadInfos ∅ checked.threads with
    | .error message => .error message
    | .ok threads =>
      .ok
        { cpuContext := checked.cpuContext
          threadState :=
            { threads := threads
              nextThreadId := checked.nextThreadId
              nextGeneration := checked.nextGeneration
              currentThreadId := checked.currentThreadId }
          pendingRestoredEeScheduler := some checked.scheduler
          sections := checked.sections }

/-! ## Starting the executor -/

/-- A continuation handed to the backend: a thread and the context its dispatch loop starts on. -/
structure EeContinuation where
  threadId : Int
  context : R5900Context
  deriving DecidableEq

variable (runtime : PS2Runtime Sections)

/-- The registry has a thread of this id and generation. -/
def registered (threadId : Int) (generation : Nat) : Bool :=
  (runtime.threadState.threads.lookup threadId).any (·.generation == generation)

/-- The continuation of a restored thread, for any but a Dormant one. -/
def restoredContinuation (saved : EeSchedulerThreadSnapshot) : Option EeContinuation :=
  if saved.state = .Dormant then none
  else
    (runtime.threadState.threads.lookup saved.id).map fun info =>
      ⟨saved.id, runtime.contextOf saved.id info⟩

/-- `startDedicatedEeExecution` of a runtime with a pending scheduler: the scheduler seeded and the
continuations. -/
def startRestored (restoredScheduler : EeThreadSchedulerSnapshot) :
    Except String (EeThreadScheduler × List EeContinuation) :=
  if !restoredScheduler.threads.all fun saved => runtime.registered saved.id saved.generation then
    .error "restored EE scheduler has no matching thread record"
  else
    match EeThreadScheduler.restoreCandidate restoredScheduler with
    | none => .error "failed to seed the restored EE scheduler"
    | some scheduler =>
      .ok (scheduler, restoredScheduler.threads.filterMap runtime.restoredContinuation)

/-- What a load leaves: the runtime, and the scheduler and continuations its start makes. -/
structure RestoredRuntime (Sections : Type) where
  runtime : PS2Runtime Sections
  scheduler : EeThreadScheduler
  continuations : List EeContinuation

/-- Save, load into a fresh runtime and start it. -/
def saveAndLoad (checkSections : Sections → Except String Unit) (scheduler : EeThreadScheduler) :
    Except String (RestoredRuntime Sections) :=
  match runtime.encodeRuntimeCoreSaveState scheduler.snapshot with
  | .error message => .error message
  | .ok payload =>
    match decodeRuntimeCoreSaveState checkSections payload with
    | .error message => .error message
    | .ok loaded =>
      match loaded.pendingRestoredEeScheduler with
      | none => .error "no pending scheduler"
      | some pending =>
        match loaded.startRestored pending with
        | .error message => .error message
        | .ok (restored, continuations) =>
          .ok
            { runtime := { loaded with pendingRestoredEeScheduler := none }
              scheduler := restored
              continuations := continuations }

end PS2Runtime

end Ps2Recomp
