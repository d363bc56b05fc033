import Ps2Recomp.SaveState.GuestState
import Ps2Recomp.Scheduler.Operations

/-!
# The kernel objects of the EE syscalls

Model of the state that `Kernel/Syscalls/Sync.cpp` and `Kernel/Syscalls/Thread.cpp` work on
(`Helpers/State.h`, `Helpers/SyncRuntimeState.h`, `Helpers/ThreadRuntimeState.h`,
`Helpers/Runtime.h`), in dedicated-executor mode.

* A thread is described three times: by its scheduler record, by the `EeThreadGuestState` of its
  `ThreadInfo`, and, while it waits, by the counters of the object it waits for.
* `ThreadInfo`, `SemaInfo` and `EventFlagInfo` objects are held by `std::shared_ptr`: a published
  transition keeps the object it captured although the registry forgets or replaces it. A pointer
  is an `ObjectRef` here, and an object knows the id it was registered under.
* What a thrown `std::logic_error` leaves behind is not described: it leaves the executor's loop,
  and nothing runs afterwards. A transition returns `Except.error` with the message instead.
-/

namespace Ps2Recomp.Syscalls

/-! ## Return codes -/

abbrev KE_OK : Int := 0

abbrev KE_ERROR : Int := -1

abbrev KE_ILLEGAL_MODE : Int := -405

abbrev KE_ILLEGAL_THID : Int := -406

abbrev KE_UNKNOWN_THID : Int := -407

abbrev KE_UNKNOWN_SEMID : Int := -408

abbrev KE_UNKNOWN_EVFID : Int := -409

abbrev KE_DORMANT : Int := -413

abbrev KE_NOT_DORMANT : Int := -414

abbrev KE_NOT_SUSPEND : Int := -415

abbrev KE_NOT_WAIT : Int := -416

abbrev KE_RELEASE_WAIT : Int := -418

abbrev KE_SEMA_ZERO : Int := -419

abbrev KE_SEMA_OVF : Int := -420

abbrev KE_EVF_COND : Int := -421

abbrev KE_EVF_MULTI : Int := -422

abbrev KE_EVF_ILPAT : Int := -423

abbrev KE_WAIT_DELETE : Int := -425

/-! ## Objects -/

/-- A `std::shared_ptr` to a kernel object. -/
abbrev ObjectRef := Nat

/-- `ThreadInfo`, with the id it is registered under. -/
structure ThreadInfo where
  threadId : Int := 0
  generation : Nat := 0
  guestState : EeThreadGuestState := {}
  pendingWaitCompletion : EeSchedulerWaitCompletion := .None
  pendingEventFlagResultBits : BitVec 32 := 0
  forceRelease : Bool := false
  terminated : Bool := false

/-- The handle `{threadId, generation}` the transitions name the scheduler record by. -/
def ThreadInfo.handle (info : ThreadInfo) : EeSchedulerThreadHandle :=
  ⟨info.threadId, info.generation⟩

/-- `SemaInfo`, with the id it is registered under. -/
structure SemaInfo where
  sid : Int := 0
  count : Int := 0
  maxCount : Int := 0
  initCount : Int := 0
  waiters : Int := 0
  deleted : Bool := false
  deriving DecidableEq, Repr

/-- `EventFlagInfo::SchedulerWaiter`. -/
structure SchedulerWaiter where
  generation : Nat := 0
  waitBits : BitVec 32 := 0
  mode : BitVec 32 := 0
  deriving DecidableEq, Repr

/-- `EventFlagInfo`, with the id it is registered under. -/
structure EventFlagInfo where
  eid : Int := 0
  attr : BitVec 32 := 0
  bits : BitVec 32 := 0
  waiters : Int := 0
  deleted : Bool := false
  schedulerWaiters : Finmap (fun _ : Int => SchedulerWaiter) := ∅

/-- `EeThreadRuntimeState`, `EeSyncRuntimeState` and the executor's scheduler. `nextObject` is the
first reference no object has. -/
structure KernelState where
  scheduler : EeThreadScheduler := {}
  threads : Finmap (fun _ : Int => ObjectRef) := ∅
  threadInfo : ObjectRef → ThreadInfo := fun _ => {}
  nextThreadId : Int := 2
  nextGeneration : Nat := 1
  semas : Finmap (fun _ : Int => ObjectRef) := ∅
  semaInfo : ObjectRef → SemaInfo := fun _ => {}
  nextSemaId : Int := 0
  eventFlags : Finmap (fun _ : Int => ObjectRef) := ∅
  eventFlagInfo : ObjectRef → EventFlagInfo := fun _ => {}
  nextEventFlagId : Int := 1
  nextObject : ObjectRef := 0

/-- What a transition returns: a result and the state, or the text of the exception. -/
abbrev Transition (α : Type) := Except String (α × KernelState)

namespace KernelState

variable (k : KernelState)

/-- `lookupThreadInfo`. -/
def lookupThreadInfo (threadId : Int) : Option ObjectRef := k.threads.lookup threadId

/-- `lookupSemaInfo`. -/
def lookupSemaInfo (sid : Int) : Option ObjectRef := k.semas.lookup sid

/-- `lookupEventFlagInfo`. -/
def lookupEventFlagInfo (eid : Int) : Option ObjectRef := k.eventFlags.lookup eid

def setThreadInfo (info : ObjectRef) (value : ThreadInfo) : KernelState :=
  { k with threadInfo := Function.update k.threadInfo info value }

def setSemaInfo (sema : ObjectRef) (value : SemaInfo) : KernelState :=
  { k with semaInfo := Function.update k.semaInfo sema value }

def setEventFlagInfo (flag : ObjectRef) (value : EventFlagInfo) : KernelState :=
  { k with eventFlagInfo := Function.update k.eventFlagInfo flag value }

def setGuestState (info : ObjectRef) (guest : EeThreadGuestState) : KernelState :=
  k.setThreadInfo info { k.threadInfo info with guestState := guest }

def setScheduler (scheduler : EeThreadScheduler) : KernelState := { k with scheduler := scheduler }

@[simp] theorem setThreadInfo_threadInfo (info : ObjectRef) (value : ThreadInfo) :
    (k.setThreadInfo info value).threadInfo = Function.update k.threadInfo info value := rfl

@[simp] theorem setThreadInfo_semaInfo (info : ObjectRef) (value : ThreadInfo) :
    (k.setThreadInfo info value).semaInfo = k.semaInfo := rfl

@[simp] theorem setThreadInfo_scheduler (info : ObjectRef) (value : ThreadInfo) :
    (k.setThreadInfo info value).scheduler = k.scheduler := rfl

@[simp] theorem setSemaInfo_threadInfo (sema : ObjectRef) (value : SemaInfo) :
    (k.setSemaInfo sema value).threadInfo = k.threadInfo := rfl

@[simp] theorem setSemaInfo_semaInfo (sema : ObjectRef) (value : SemaInfo) :
    (k.setSemaInfo sema value).semaInfo = Function.update k.semaInfo sema value := rfl

@[simp] theorem setEventFlagInfo_threadInfo (flag : ObjectRef) (value : EventFlagInfo) :
    (k.setEventFlagInfo flag value).threadInfo = k.threadInfo := rfl

@[simp] theorem setScheduler_threadInfo (scheduler : EeThreadScheduler) :
    (k.setScheduler scheduler).threadInfo = k.threadInfo := rfl

@[simp] theorem setScheduler_semaInfo (scheduler : EeThreadScheduler) :
    (k.setScheduler scheduler).semaInfo = k.semaInfo := rfl

/-- The check every transition of a captured thread begins with: the scheduler knows the thread,
under the captured generation. -/
def knows (info : ObjectRef) : Bool :=
  (k.scheduler.threadHandle (k.threadInfo info).threadId).any
    fun handle => handle.generation == (k.threadInfo info).generation

/-- The check after `blockCurrentThread`: the thread `info` describes is waiting now. -/
def isBlocked (info : ObjectRef) : Bool :=
  (k.scheduler.thread (k.threadInfo info).threadId).any fun blocked =>
    blocked.generation == (k.threadInfo info).generation &&
      (blocked.state == .Waiting || blocked.state == .WaitSuspended)

/-- The guest state of `info` leaves the queue it waits in and the completion is kept for the
suspended syscall. When the guest state is in no such queue, the transition throws `message`. -/
def mirrorRelease (info : ObjectRef) (queue : EeThreadWaitQueue) (waitType waitId : Int)
    (retainReason : Bool) (completion : EeSchedulerWaitCompletion) (message : String) :
    Except String KernelState :=
  match (k.threadInfo info).guestState.releaseWait queue waitType waitId retainReason with
  | (false, _) => .error message
  | (true, guest) =>
    .ok (k.setThreadInfo info
      { k.threadInfo info with guestState := guest, pendingWaitCompletion := completion })

/-- The guest state of `info` joins the queue `blockCurrentThread` put its thread in. -/
def mirrorBlock (info : ObjectRef) (queue : EeThreadWaitQueue) (waitType waitId : Int)
    (message : String) : Except String KernelState :=
  match (k.threadInfo info).guestState.block queue waitType waitId with
  | (false, _) => .error message
  | (true, guest) =>
    .ok (k.setThreadInfo info { k.threadInfo info with guestState := guest, forceRelease := false })

/-! ## What follows every wait of a guest thread -/

/-- The outcome of code that can throw `ThreadExitException`. -/
inductive Continuation where
  | goOn
  | threadExit
  deriving DecidableEq, Repr

/-- `waitWhileSuspended` in dedicated-executor mode. -/
def waitWhileSuspended (info : ObjectRef) : Except String Continuation :=
  if (k.threadInfo info).terminated then .ok .threadExit
  else
    let guest := (k.threadInfo info).guestState.state
    if guest.suspendCount ≠ 0 ∨ guest.status = kSuspend ∨ guest.status = kWaitSuspend then
      .error "the EE scheduler resumed a suspended dedicated continuation"
    else .ok .goOn

/-- `publishRunningAtGuestBoundary`. Its callers ignore the `bool`. -/
def publishRunningAtGuestBoundary (info : ObjectRef) : Continuation × KernelState :=
  if (k.threadInfo info).terminated then (.threadExit, k)
  else
    let guest := (k.threadInfo info).guestState
    if guest.state.suspendCount ≠ 0 ∨ guest.state.status = kSuspend ∨
        guest.state.status = kWaitSuspend ∨ guest.state.status = kWait ∨
        guest.state.status = kDormant then (.goOn, k)
    else if guest.state.status = kReady then (.goOn, k.setGuestState info guest.publishRunning)
    else (.goOn, k)

/-- The last lines of every waiting syscall: `waitWhileSuspended`, then
`publishRunningAtGuestBoundary`. -/
def returnToGuest (info : ObjectRef) : Transition Continuation :=
  match k.waitWhileSuspended info with
  | .error message => .error message
  | .ok .threadExit => .ok (.threadExit, k)
  | .ok .goOn => .ok (k.publishRunningAtGuestBoundary info)

/-! ## Allocation -/

/-- `std::make_shared<ThreadInfo>` and its registration under `threadId`. -/
def registerThread (threadId : Int) (value : ThreadInfo) : KernelState :=
  { k with
    threads := k.threads.insert threadId k.nextObject
    threadInfo := Function.update k.threadInfo k.nextObject { value with threadId := threadId }
    nextObject := k.nextObject + 1 }

/-- `allocateThreadGenerationLocked`: the counter, skipping zero. -/
def allocateThreadGeneration : Nat × KernelState :=
  let generation := if k.nextGeneration = 0 then 1 else k.nextGeneration
  (generation, { k with nextGeneration := (generation + 1) % 2 ^ 32 })

/-- `ensureCurrentThreadInfo`: the object of the current thread, made on its first use. -/
def ensureCurrentThreadInfo (threadId : Int) : ObjectRef × KernelState :=
  match k.lookupThreadInfo threadId with
  | some info => (info, k)
  | none =>
    let (generation, k') := k.allocateThreadGeneration
    (k.nextObject, k'.registerThread threadId
      { generation := generation, guestState := ({} : EeThreadGuestState).initializeRunning 0 })

end KernelState

end Ps2Recomp.Syscalls
