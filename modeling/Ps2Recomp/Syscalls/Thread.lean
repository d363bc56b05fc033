import Ps2Recomp.Syscalls.EventFlag
import Ps2Recomp.Syscalls.Semaphore

/-!
# Threads

Model of the thread syscalls of `Kernel/Syscalls/Thread.cpp` in dedicated-executor mode, and of the
waits of high-level emulated services (`Kernel/Stubs/MPEG.cpp`), which block a thread on a key of
their own.

A published transition names a thread by the `ThreadInfo` it captured: the scheduler's record is
looked up under the captured id and generation. `releaseWaitThread` and `terminateThread` also
capture what the thread waited for when they were called (`WaitedOn`).
-/

namespace Ps2Recomp.Syscalls

/-- What `releaseWaitThread` and `terminateThread` capture of a thread: its wait, and the object it
waits for. -/
structure WaitedOn where
  info : ObjectRef
  waitQueue : EeThreadWaitQueue := .None
  waitType : Int := kWaitNone
  waitId : Int := 0
  sema : Option ObjectRef := none
  eventFlag : Option ObjectRef := none
  deriving DecidableEq, Repr

namespace KernelState

variable (k : KernelState)

/-- The record of the thread `info` describes, under its generation. -/
def record (info : ObjectRef) : Option EeSchedulerThreadSnapshot :=
  (k.scheduler.thread (k.threadInfo info).threadId).filter
    fun before => before.generation == (k.threadInfo info).generation

/-- The guest state and the scheduler record agree on the status and the suspend count. -/
def statusAgrees (info : ObjectRef) : Bool :=
  (k.record info).any fun after =>
    (k.threadInfo info).guestState.state.suspendCount == after.suspendCount &&
      (k.threadInfo info).guestState.state.status == after.state.guestStatus

/-! ## `CreateThread`, `StartThread`, `DeleteThread` and `ExitThread` -/

/-- The next id `CreateThread` tries, and the counter after it. -/
def takeThreadId : Int × KernelState :=
  let candidate := if k.nextThreadId < 2 ∨ 0xFF < k.nextThreadId then 2 else k.nextThreadId
  (candidate, { k with nextThreadId := if 0xFF ≤ candidate then 2 else candidate + 1 })

/-- The search of `CreateThread` for a free id, with the attempts left. -/
def findThreadId (k : KernelState) : Nat → Option Int × KernelState
  | 0 => (none, k)
  | attempts + 1 =>
    match k.takeThreadId with
    | (candidate, k') =>
      if k'.threads.lookup candidate = none then (some candidate, k')
      else findThreadId k' attempts

/-- `CreateThread` up to its publication, for the clamped priority. -/
def createThread (priority : Int) : Int × KernelState :=
  let (generation, k') := k.allocateThreadGeneration
  match k'.findThreadId 0xFE with
  | (none, k'') => (KE_ERROR, k'')
  | (some id, k'') =>
    (id, k''.registerThread id
      { generation := generation
        guestState := ({} : EeThreadGuestState).setCurrentPriority priority })

/-- The transition of `CreateThread`. -/
def addCreatedThread (info : ObjectRef) (priority : Int) : Except String KernelState :=
  match k.scheduler.addDormantThread (k.threadInfo info).threadId (k.threadInfo info).generation
      priority with
  | (false, _) => .error "CreateThread could not add the EE scheduler record"
  | (true, scheduler) => .ok (k.setScheduler scheduler)

/-- `StartThread` up to its publication. -/
def startThread (threadId : Int) : Int × KernelState :=
  if threadId = 0 then (KE_ILLEGAL_THID, k)
  else
    match k.lookupThreadInfo threadId with
    | none => (KE_UNKNOWN_THID, k)
    | some info =>
      let guest := (k.threadInfo info).guestState
      if guest.state.started ∨ guest.state.status ≠ kDormant then (KE_NOT_DORMANT, k)
      else
        (threadId, k.setThreadInfo info
          { k.threadInfo info with
            guestState := guest.start.2
            terminated := false
            forceRelease := false
            pendingWaitCompletion := .None
            pendingEventFlagResultBits := 0 })

/-- The transition of `StartThread`. -/
def startScheduled (info : ObjectRef) (priority : Int) : Except String KernelState :=
  let threadId := (k.threadInfo info).threadId
  let generation := (k.threadInfo info).generation
  let added :=
    if (k.scheduler.thread threadId).isSome then (true, k.scheduler)
    else k.scheduler.addDormantThread threadId generation priority
  match added with
  | (false, _) => .error "StartThread could not add its EE scheduler record"
  | (true, scheduler) =>
    let dormant := (scheduler.thread threadId).any fun snapshot =>
      snapshot.generation == generation && snapshot.state == .Dormant
    match dormant, scheduler.startThread (k.threadInfo info).handle with
    | true, (true, started) => .ok (k.setScheduler started)
    | _, _ => .error "StartThread could not start its EE scheduler record"

/-- `DeleteThread` up to its publication: the captured object. -/
def deleteThread (threadId : Int) : Except Int ObjectRef :=
  if threadId = 0 then .error KE_ILLEGAL_THID
  else
    match k.lookupThreadInfo threadId with
    | none => .error KE_ERROR
    | some info =>
      let guest := (k.threadInfo info).guestState
      if guest.state.started ∨ guest.state.status ≠ kDormant then .error KE_NOT_DORMANT
      else .ok info

/-- The transition of `DeleteThread`, with `deleted`. -/
def deleteScheduled (info : ObjectRef) : Transition Bool :=
  match k.record info with
  | none => .ok (false, k)
  | some snapshot =>
    if snapshot.state ≠ .Dormant then .ok (false, k)
    else
      match k.scheduler.deleteThread (k.threadInfo info).handle with
      | (false, _) => .error "DeleteThread could not remove its EE scheduler record"
      | (true, scheduler) => .ok (true, k.setScheduler scheduler)

/-- The registry forgets a thread, at the end of `DeleteThread` and of `ExitDeleteThread`. -/
def eraseThread (threadId : Int) : KernelState := { k with threads := k.threads.erase threadId }

/-- What `ExitThread` does to the object of the current thread before it throws. -/
def exitThread (info : ObjectRef) : KernelState :=
  k.setThreadInfo info
    { k.threadInfo info with
      terminated := true
      forceRelease := true
      guestState := (k.threadInfo info).guestState.makeDormant }

/-- What the entry function of a started thread does to its object when the thread ends. -/
def threadEnded (info : ObjectRef) : KernelState :=
  k.setThreadInfo info
    { k.threadInfo info with
      guestState := (k.threadInfo info).guestState.makeDormant
      forceRelease := false
      pendingWaitCompletion := .None
      pendingEventFlagResultBits := 0
      terminated := false }

/-! ## `SuspendThread`, `ResumeThread` and `ChangeThreadPriority` -/

/-- The transition of `suspendThread`. -/
def suspendThread (info : ObjectRef) : Transition Int :=
  match k.record info with
  | none => .ok (KE_UNKNOWN_THID, k)
  | some before =>
    if before.state = .Dormant then .ok (KE_DORMANT, k)
    else
      match k.scheduler.suspendThread (k.threadInfo info).handle,
          (k.threadInfo info).guestState.suspend with
      | (false, _), _ => .error "SuspendThread could not apply its EE scheduler transition"
      | (true, _), (false, _) =>
        .error "SuspendThread could not mirror its EE scheduler transition"
      | (true, scheduler), (true, guest) =>
        let k' := (k.setScheduler scheduler).setGuestState info guest
        if k'.statusAgrees info then .ok ((k.threadInfo info).threadId, k')
        else .error "SuspendThread scheduler and guest states diverged"

/-- The transition of `resumeThread`. -/
def resumeThread (info : ObjectRef) : Transition Int :=
  match k.record info with
  | none => .ok (KE_UNKNOWN_THID, k)
  | some before =>
    if before.state = .Dormant then .ok (KE_DORMANT, k)
    else if before.suspendCount = 0 then .ok (KE_NOT_SUSPEND, k)
    else
      match k.scheduler.resumeThread (k.threadInfo info).handle,
          (k.threadInfo info).guestState.resume false with
      | (false, _), _ => .error "ResumeThread could not apply its EE scheduler transition"
      | (true, _), (false, _, _) =>
        .error "ResumeThread could not mirror its EE scheduler transition"
      | (true, scheduler), (true, guestBecameRunnable, guest) =>
        let k' := (k.setScheduler scheduler).setGuestState info guest
        let schedulerBecameRunnable := before.suspendCount == 1 && before.state == .Suspended
        if k'.statusAgrees info && schedulerBecameRunnable == guestBecameRunnable then
          .ok ((k.threadInfo info).threadId, k')
        else .error "ResumeThread scheduler and guest states diverged"

/-- The transition of `changeThreadPriority`, for a priority in range. -/
def changeThreadPriority (info : ObjectRef) (priority : Int) : Transition Int :=
  match k.record info with
  | none => .ok (KE_UNKNOWN_THID, k)
  | some before =>
    if before.state = .Dormant then .ok (KE_DORMANT, k)
    else
      match k.scheduler.changeThreadPriority (k.threadInfo info).handle priority with
      | (none, _) => .error "ChangeThreadPriority could not apply its EE scheduler transition"
      | (some previous, scheduler) =>
        let guest := (k.threadInfo info).guestState
        let k' := (k.setScheduler scheduler).setGuestState info (guest.setCurrentPriority priority)
        if guest.state.currentPriority = previous ∧
            (k'.record info).any (fun after => after.priority == priority) ∧
            (k'.threadInfo info).guestState.state.currentPriority = priority then
          .ok (previous, k')
        else .error "ChangeThreadPriority scheduler and guest priorities diverged"

/-! ## `SleepThread`, `WakeupThread` and `CancelWakeupThread` -/

/-- The transition of `SleepThread`. The result says whether it blocked. -/
def sleepThread (info : ObjectRef) : Transition Bool :=
  if !k.knows info then .error "SleepThread lost its EE scheduler record"
  else
    let (result, scheduler) := k.scheduler.sleepCurrentThread
    let k' := k.setScheduler scheduler
    match result.disposition with
    | .InvalidCurrentThread => .error "SleepThread has no running scheduler owner"
    | .WakeupConsumed =>
      match (k.threadInfo info).guestState.consumeWakeup with
      | (false, _) => .error "SleepThread scheduler and guest wake counts diverged"
      | (true, guest) => .ok (false, k'.setGuestState info guest)
    | .Blocked =>
      match k'.mirrorBlock info .Sleep kWaitSleep 0
          "SleepThread could not mirror its scheduler wait" with
      | .error message => .error message
      | .ok k'' =>
        .ok (true, k''.setThreadInfo info
          { k''.threadInfo info with pendingWaitCompletion := .None })

/-- The state in which a caller of `SleepThread` that was blocked has taken its completion. -/
def sleepTaken (info : ObjectRef) : KernelState :=
  k.setThreadInfo info
    { k.threadInfo info with
      pendingWaitCompletion := .None
      guestState := ((k.threadInfo info).guestState.finishWait .Sleep kWaitSleep 0 false).2
      forceRelease :=
        if (k.threadInfo info).pendingWaitCompletion = .Released then false
        else (k.threadInfo info).forceRelease }

/-- `SleepThread` from the moment its caller runs again. `none` is a `ThreadExitException`. -/
def resumeSleep (info : ObjectRef) (blocked : Bool) : Transition (Option Int) :=
  if blocked ∧ (k.threadInfo info).terminated then .ok (none, k)
  else
    match (if blocked then k.sleepTaken info else k).returnToGuest info with
    | .error message => .error message
    | .ok (.threadExit, k') => .ok (none, k')
    | .ok (.goOn, k') =>
      .ok (some (if blocked ∧ (k.threadInfo info).pendingWaitCompletion = .Released then
        KE_RELEASE_WAIT else (k.threadInfo info).threadId), k')

/-- The transition of `WakeupThread` (`applyEeExecutorThreadWake`). -/
def wakeupThread (info : ObjectRef) : Transition EeSchedulerWakeResult :=
  let (result, scheduler) := k.scheduler.wakeThread (k.threadInfo info).handle
  let k' := k.setScheduler scheduler
  match result with
  | .WokeSleeper =>
    match (k.threadInfo info).guestState.wakeSleeping with
    | (false, _) => .error "EE scheduler and guest sleep state diverged during wake"
    | (true, guest) =>
      .ok (.WokeSleeper, k'.setThreadInfo info
        { k.threadInfo info with guestState := guest, pendingWaitCompletion := .Satisfied })
  | .WakeupCounted =>
    .ok (.WakeupCounted, k'.setGuestState info (k.threadInfo info).guestState.incrementWakeup.2)
  | other => .ok (other, k')

/-- The transition of `CancelWakeupThread`. -/
def cancelWakeupThread (info : ObjectRef) : Transition Int :=
  match k.scheduler.cancelWakeups (k.threadInfo info).handle with
  | (none, _) => .ok (KE_UNKNOWN_THID, k)
  | (some previous, scheduler) =>
    let (mirrored, guest) := (k.threadInfo info).guestState.cancelWakeups
    if mirrored ≠ previous then
      .error "CancelWakeupThread scheduler and guest counts diverged"
    else .ok (previous, (k.setScheduler scheduler).setGuestState info guest)

/-! ## Waits of high-level services -/

/-- The scheduler's key of a service. -/
abbrev hleKey (objectId : Int) : EeSchedulerWaitKey := ⟨.HleSemaphore, objectId⟩

/-- The transition with which a service blocks its caller. -/
def hleBlock (info : ObjectRef) (objectId : Int) : Except String KernelState :=
  let running := (k.record info).any fun before => before.state == .Running
  if !running || k.scheduler.currentThreadId != some (k.threadInfo info).threadId then
    .error "MPEG picture wait lost its running scheduler owner"
  else
    let k' := k.setScheduler (k.scheduler.blockCurrentThread (hleKey objectId)).2
    let blocked := (k'.record info).any fun blocked =>
      blocked.state == .Waiting && blocked.wait == hleKey objectId
    if !blocked then .error "MPEG picture wait could not block its scheduler owner"
    else
      match k'.mirrorBlock info .HleSemaphore kWaitSemaphore objectId
          "MPEG picture wait could not mirror guest thread state" with
      | .error message => .error message
      | .ok k'' =>
        .ok (k''.setThreadInfo info { k''.threadInfo info with pendingWaitCompletion := .None })

/-- The transition with which a service wakes a caller that still waits. -/
def hleWake (info : ObjectRef) (objectId : Int) : Except String KernelState :=
  let waiting := (k.record info).any fun before =>
    (before.state == .Waiting || before.state == .WaitSuspended) && before.wait == hleKey objectId
  if !waiting then .ok k
  else
    match k.scheduler.releaseWaitThread (k.threadInfo info).handle .Satisfied with
    | (false, _) => .error "MPEG picture wake could not release its scheduler wait"
    | (true, scheduler) =>
      (k.setScheduler scheduler).mirrorRelease info .HleSemaphore kWaitSemaphore objectId false
        .Satisfied "MPEG picture wake diverged from guest thread state"

/-- The state in which the caller of a service has taken its completion. -/
def hleTaken (info : ObjectRef) (objectId : Int) : KernelState :=
  k.setThreadInfo info
    { k.threadInfo info with
      pendingWaitCompletion := .None
      forceRelease := false
      guestState :=
        if (k.threadInfo info).terminated then (k.threadInfo info).guestState
        else
          ((k.threadInfo info).guestState.finishWait .HleSemaphore kWaitSemaphore objectId true).2 }

/-! ## `ReleaseWaitThread` -/

/-- What a call captures of the thread `info`. -/
def waitedOn (info : ObjectRef) : WaitedOn :=
  let guest := (k.threadInfo info).guestState.state
  if guest.status = kWait ∨ guest.status = kWaitSuspend then
    { info := info
      waitQueue := guest.waitQueue
      waitType := guest.waitType
      waitId := guest.waitId
      sema := if guest.waitQueue = .Semaphore then k.lookupSemaInfo guest.waitId else none
      eventFlag :=
        if guest.waitQueue = .EventFlag then k.lookupEventFlagInfo guest.waitId else none }
  else { info := info }

/-- `applyRelease`, which says whether it released the thread. -/
def applyRelease (wait : WaitedOn) : Transition Bool :=
  match k.scheduler.releaseWaitThread (k.threadInfo wait.info).handle .Released with
  | (false, _) => .ok (false, k)
  | (true, scheduler) =>
    match (k.setScheduler scheduler).mirrorRelease wait.info wait.waitQueue wait.waitType
        wait.waitId false .Released
        "ReleaseWaitThread scheduler and guest wait queues diverged" with
    | .error message => .error message
    | .ok k' =>
      .ok (true, k'.setThreadInfo wait.info
        { k'.threadInfo wait.info with pendingEventFlagResultBits := 0, forceRelease := true })

/-- The transition of `releaseWaitThread`, with `released`. -/
def releaseWaitThread (wait : WaitedOn) : Transition Bool :=
  if !k.knows wait.info then .ok (false, k)
  else
    match wait.sema, wait.eventFlag with
    | some sema, _ =>
      match k.applyRelease wait with
      | .error message => .error message
      | .ok (false, k') => .ok (false, k')
      | .ok (true, k') =>
        let info := k'.semaInfo sema
        if info.waiters ≤ 0 then .error "ReleaseWaitThread lost semaphore waiter accounting"
        else .ok (true, k'.setSemaInfo sema { info with waiters := info.waiters - 1 })
    | none, some flag =>
      let threadId := (k.threadInfo wait.info).threadId
      let requested := ((k.eventFlagInfo flag).schedulerWaiters.lookup threadId).any
        fun request => request.generation == (k.threadInfo wait.info).generation
      if !requested then .error "ReleaseWaitThread lost event wait predicate"
      else
        match k.applyRelease wait with
        | .error message => .error message
        | .ok (false, k') => .ok (false, k')
        | .ok (true, k') =>
          let info := k'.eventFlagInfo flag
          if info.waiters ≤ 0 then .error "ReleaseWaitThread lost event waiter accounting"
          else
            .ok (true, k'.setEventFlagInfo flag
              { info with
                schedulerWaiters := info.schedulerWaiters.erase threadId
                waiters := info.waiters - 1 })
    | none, none => k.applyRelease wait

/-! ## `TerminateThread` -/

/-- `EeExecutorTerminateDisposition`. -/
inductive TerminateDisposition where
  | Stale
  | Dormant
  | Terminated
  deriving DecidableEq, Repr

/-- The guest queue and wait type that mirror a scheduler wait. -/
def guestWait : EeSchedulerWaitKind → EeThreadWaitQueue × Int
  | .None => (.None, kWaitNone)
  | .Sleep => (.Sleep, kWaitSleep)
  | .Semaphore => (.Semaphore, kWaitSemaphore)
  | .EventFlag => (.EventFlag, kWaitEvent)
  | .HleSemaphore => (.HleSemaphore, kWaitSemaphore)

/-- The object of a waiting thread that was not captured, which `applyLocked` is not reached
without. -/
def unresolved (wait : WaitedOn) (key : EeSchedulerWaitKey) : Option String :=
  match key.kind, wait.sema, wait.eventFlag with
  | .Semaphore, none, _ => some "TerminateThread could not resolve its semaphore"
  | .EventFlag, _, none => some "TerminateThread could not resolve its event flag"
  | _, _, _ => none

/-- The checks `applyLocked` makes of a waiting thread. -/
def terminateChecks (wait : WaitedOn) (key : EeSchedulerWaitKey) : Except String Unit :=
  let info := k.threadInfo wait.info
  let object : Except String Unit :=
    match key.kind with
    | .Sleep | .HleSemaphore => .ok ()
    | .Semaphore =>
      match wait.sema with
      | none => .error "TerminateThread lost its semaphore waiter"
      | some sema =>
        if (k.semaInfo sema).waiters ≤ 0 then
          .error "TerminateThread lost its semaphore waiter"
        else .ok ()
    | .EventFlag =>
      match wait.eventFlag with
      | none => .error "TerminateThread lost its event waiter"
      | some flag =>
        let requested := ((k.eventFlagInfo flag).schedulerWaiters.lookup info.threadId).any
          fun request => request.generation == info.generation
        if (k.eventFlagInfo flag).waiters ≤ 0 then
          .error "TerminateThread lost its event waiter"
        else if !requested then .error "TerminateThread lost its event predicate"
        else .ok ()
    | .None => .error "TerminateThread found a waiter without a wait key"
  match object with
  | .error message => .error message
  | .ok () =>
    let (queue, waitType) := guestWait key.kind
    if !info.guestState.isLinkedTo queue key.objectId ∨ info.guestState.state.waitType ≠ waitType ∨
        info.guestState.state.waitId ≠ key.objectId then
      .error "TerminateThread scheduler and guest wait queues diverged"
    else .ok ()

/-- The object a terminated thread waited for forgets it. -/
def forgetWaiter (wait : WaitedOn) (kind : EeSchedulerWaitKind) : KernelState :=
  match kind, wait.sema, wait.eventFlag with
  | .Semaphore, some sema, _ =>
    k.setSemaInfo sema { k.semaInfo sema with waiters := (k.semaInfo sema).waiters - 1 }
  | .EventFlag, _, some flag =>
    k.setEventFlagInfo flag
      { k.eventFlagInfo flag with
        schedulerWaiters :=
          (k.eventFlagInfo flag).schedulerWaiters.erase (k.threadInfo wait.info).threadId
        waiters := (k.eventFlagInfo flag).waiters - 1 }
  | _, _, _ => k

/-- The `ThreadInfo` of a terminated thread. -/
def terminatedInfo (info : ThreadInfo) : ThreadInfo :=
  { info with
    terminated := true
    forceRelease := true
    pendingWaitCompletion := .None
    pendingEventFlagResultBits := 0
    guestState := info.guestState.makeDormant }

/-- The last lines of `applyLocked`, where the scheduler and the object the thread waited for have
forgotten the thread. -/
def finishTermination (wait : WaitedOn) : Transition TerminateDisposition :=
  let k' := k.setThreadInfo wait.info (terminatedInfo (k.threadInfo wait.info))
  let retired := (k'.record wait.info).any fun after =>
    after.state == .Dormant && after.suspendCount == 0
  let guest := (k'.threadInfo wait.info).guestState.state
  if !retired ∨ guest.status ≠ kDormant ∨ guest.suspendCount ≠ 0 then
    .error "TerminateThread scheduler and guest states diverged after termination"
  else .ok (.Terminated, k')

/-- `applyEeExecutorThreadTermination`, without the destruction of the continuation. -/
def terminateThread (wait : WaitedOn) : Transition TerminateDisposition :=
  match k.record wait.info with
  | none => .ok (.Stale, k)
  | some before =>
    if before.state = .Dormant then .ok (.Dormant, k)
    else
      let guest := (k.threadInfo wait.info).guestState.state
      let schedulerWaiting := before.state == .Waiting || before.state == .WaitSuspended
      let checks := if schedulerWaiting then k.terminateChecks wait before.wait else .ok ()
      if schedulerWaiting ∧ (unresolved wait before.wait).isSome then
        .error ((unresolved wait before.wait).getD "")
      else if guest.status ≠ before.state.guestStatus ∨ guest.suspendCount ≠ before.suspendCount then
        .error "TerminateThread scheduler and guest states diverged before termination"
      else
        match checks, k.scheduler.terminateThread (k.threadInfo wait.info).handle with
        | .error message, _ => .error message
        | .ok (), (false, _) =>
          .error "TerminateThread could not apply its EE scheduler transition"
        | .ok (), (true, scheduler) =>
          (if schedulerWaiting then (k.setScheduler scheduler).forgetWaiter wait before.wait.kind
            else k.setScheduler scheduler).finishTermination wait

end KernelState

end Ps2Recomp.Syscalls
