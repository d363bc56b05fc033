import Ps2Recomp.Syscalls.Kernel

/-!
# Semaphores

Model of the semaphore syscalls of `Kernel/Syscalls/Sync.cpp` in dedicated-executor mode. A syscall
looks its objects up, publishes a transition that captures them, yields, and returns what the
transition recorded. `signalSema`, `deleteSema` and `WaitSema.apply` are the transitions;
`WaitSema.resume` is what `WaitSema` does when its caller runs again. `CreateSema` and `PollSema`
publish nothing.

A completion reaches a waiter twice: the scheduler record leaves its wait queue, and the guest state
of its `ThreadInfo` is released with the completion beside it, where the suspended call finds it.
-/

namespace Ps2Recomp.Syscalls

abbrev semaKey (sid : Int) : EeSchedulerWaitKey := ⟨.Semaphore, sid⟩

namespace KernelState

variable (k : KernelState)

/-! ## `CreateSema` -/

/-- The next id `CreateSema` tries, and the counter after it, which is an `int`. -/
def takeSemaId : Int × KernelState :=
  let candidate := if k.nextSemaId < 0 then 0 else k.nextSemaId
  (candidate, { k with nextSemaId := (candidate + 1).bmod (2 ^ 32) })

/-- The search of `CreateSema` for a free id, with the attempts left. -/
def findSemaId (k : KernelState) : Nat → Option Int × KernelState
  | 0 => (none, k)
  | attempts + 1 =>
    match k.takeSemaId with
    | (candidate, k') =>
      if k'.semas.lookup candidate = none then (some candidate, k') else findSemaId k' attempts

/-- The counts `CreateSema` stores for the decoded `init` and `max`. -/
def clampedCounts (init max : Int) : Int × Int :=
  let max := if max ≤ 0 then 1 else max
  let init := if init < 0 then 0 else init
  (if max < init then max else init, max)

/-- `CreateSema`. -/
def createSema (init max : Int) : Int × KernelState :=
  match k.findSemaId 0x7FFF with
  | (none, k') => (KE_ERROR, k')
  | (some id, k') =>
    let (count, maxCount) := clampedCounts init max
    (id,
      { k' with
        semas := k'.semas.insert id k'.nextObject
        semaInfo := Function.update k'.semaInfo k'.nextObject
          { sid := id, count := count, maxCount := maxCount, initCount := count }
        nextObject := k'.nextObject + 1 })

/-! ## `PollSema` -/

/-- `PollSema`. -/
def pollSema (sid : Int) : Int × KernelState :=
  match k.lookupSemaInfo sid with
  | none => (KE_UNKNOWN_SEMID, k)
  | some sema =>
    let info := k.semaInfo sema
    if 0 < info.count then (sid, k.setSemaInfo sema { info with count := info.count - 1 })
    else (KE_SEMA_ZERO, k)

/-! ## `SignalSema` -/

/-- The part of `signalSema` that follows `wakeOne`, which woke `woken`. -/
def signalWoken (sema : ObjectRef) (woken : Int) : Except String KernelState :=
  match k.lookupThreadInfo woken with
  | none => .error "SignalSema woke a missing EE thread"
  | some waiter =>
    let info := k.semaInfo sema
    match k.mirrorRelease waiter .Semaphore kWaitSemaphore info.sid false .Satisfied
        "SignalSema scheduler and guest wait queues diverged" with
    | .error message => .error message
    | .ok k' =>
      if info.waiters ≤ 0 then .error "SignalSema scheduler and guest wait queues diverged"
      else .ok (k'.setSemaInfo sema { info with waiters := info.waiters - 1 })

/-- The transition of `signalSema`. -/
def signalSema (sema : ObjectRef) : Transition Int :=
  let info := k.semaInfo sema
  if info.deleted then .ok (KE_UNKNOWN_SEMID, k)
  else if info.maxCount ≤ info.count then .ok (KE_SEMA_OVF, k)
  else
    match k.scheduler.wakeOne (semaKey info.sid) with
    | (some woken, scheduler) =>
      match (k.setScheduler scheduler).signalWoken sema woken with
      | .error message => .error message
      | .ok k' => .ok (info.sid, k')
    | (none, scheduler) =>
      if info.waiters ≠ 0 then .error "SignalSema found an unmodeled executor waiter"
      else
        .ok (info.sid,
          (k.setScheduler scheduler).setSemaInfo sema { info with count := info.count + 1 })

/-! ## `DeleteSema` -/

/-- The body of the loop of `deleteSema`. -/
def deleteSemaWaiter (sema : ObjectRef) (threadId : Int) : Except String KernelState :=
  match k.scheduler.threadHandle threadId with
  | none => .error "DeleteSema could not detach an EE scheduler waiter"
  | some handle =>
    match k.scheduler.releaseWaitThread handle .ObjectDeleted true with
    | (false, _) => .error "DeleteSema could not detach an EE scheduler waiter"
    | (true, scheduler) =>
      match k.lookupThreadInfo threadId with
      | none => .error "DeleteSema detached a missing EE thread"
      | some waiter =>
        let info := k.semaInfo sema
        match (k.setScheduler scheduler).mirrorRelease waiter .Semaphore kWaitSemaphore info.sid
            true .ObjectDeleted "DeleteSema scheduler and guest wait queues diverged" with
        | .error message => .error message
        | .ok k' =>
          if info.waiters ≤ 0 then .error "DeleteSema scheduler and guest wait queues diverged"
          else .ok (k'.setSemaInfo sema { info with waiters := info.waiters - 1 })

/-- The loop of `deleteSema`. -/
def deleteSemaWaiters (k : KernelState) (sema : ObjectRef) : List Int → Except String KernelState
  | [] => .ok k
  | threadId :: rest =>
    match k.deleteSemaWaiter sema threadId with
    | .error message => .error message
    | .ok k' => deleteSemaWaiters k' sema rest

/-- The transition of `deleteSema`. -/
def deleteSema (sema : ObjectRef) : Transition Int :=
  let sid := (k.semaInfo sema).sid
  if k.semas.lookup sid ≠ some sema then .ok (KE_UNKNOWN_SEMID, k)
  else
    let erased :=
      { k with
        semas := k.semas.erase sid
        nextSemaId := if sid < k.nextSemaId then sid else k.nextSemaId }
    let marked := erased.setSemaInfo sema { k.semaInfo sema with deleted := true }
    match marked.deleteSemaWaiters sema (k.scheduler.waitOrder (semaKey sid)) with
    | .error message => .error message
    | .ok k' =>
      if (k'.semaInfo sema).waiters ≠ 0 then .error "DeleteSema left an unmodeled executor waiter"
      else .ok (sid, k')

end KernelState

/-! ## `WaitSema` -/

namespace WaitSema

/-- `WaitTransition`. -/
structure WaitTransition where
  blocked : Bool := false
  applied : Bool := false
  deriving DecidableEq, Repr

/-- A call of `WaitSema`: what its transition captures, and the transition. -/
structure Call where
  sid : Int
  sema : ObjectRef
  info : ObjectRef
  transition : WaitTransition := {}
  deriving DecidableEq, Repr

/-- How a call begins: it returns at once, its thread exits, or it publishes its transition. -/
inductive Entry where
  | returns (ret : Int)
  | threadExit
  | published (call : Call)
  deriving DecidableEq, Repr

variable (k : KernelState)

/-- `WaitSema` up to its publication, called by `threadId`. -/
def enter (threadId sid : Int) : Entry × KernelState :=
  match k.lookupSemaInfo sid with
  | none => (.returns KE_UNKNOWN_SEMID, k)
  | some sema =>
    let (info, k') := k.ensureCurrentThreadInfo threadId
    if (k'.threadInfo info).terminated then (.threadExit, k')
    else (.published { sid := sid, sema := sema, info := info }, k')

/-- The state in which the transition has cleared the completion of its caller. -/
def cleared (info : ObjectRef) : KernelState :=
  k.setThreadInfo info { k.threadInfo info with pendingWaitCompletion := .None }

/-- The part of the transition that blocks the caller. -/
def block (call : Call) : Except String KernelState :=
  let scheduled := k.setScheduler (k.scheduler.blockCurrentThread (semaKey call.sid)).2
  if !scheduled.isBlocked call.info then
    .error "WaitSema could not block its running scheduler owner"
  else
    match scheduled.mirrorBlock call.info .Semaphore kWaitSemaphore call.sid
        "WaitSema could not mirror its scheduler wait" with
    | .error message => .error message
    | .ok k' =>
      .ok (k'.setSemaInfo call.sema
        { k'.semaInfo call.sema with waiters := (k'.semaInfo call.sema).waiters + 1 })

/-- The transition of `WaitSema`. The values that the first message goes on with are left out. -/
def apply (call : Call) : Transition WaitTransition :=
  if !k.knows call.info then .error "WaitSema lost its EE scheduler record"
  else
    let k' := cleared k call.info
    let sema := k'.semaInfo call.sema
    if sema.deleted then .ok ({ applied := true }, k')
    else if 0 < sema.count then
      .ok ({ applied := true }, k'.setSemaInfo call.sema { sema with count := sema.count - 1 })
    else
      match block k' call with
      | .error message => .error message
      | .ok k'' => .ok ({ blocked := true, applied := true }, k'')

/-- The state in which a caller that was blocked has taken its completion. -/
def taken (call : Call) : KernelState :=
  let info := k.threadInfo call.info
  k.setThreadInfo call.info
    { info with
      pendingWaitCompletion := .None
      guestState := (info.guestState.finishWait .Semaphore kWaitSemaphore call.sid false).2
      forceRelease :=
        if info.pendingWaitCompletion = .Satisfied then info.forceRelease else false }

/-- The value `ret` has when the caller runs again. -/
def result (call : Call) : Int :=
  if call.transition.blocked then
    if (k.threadInfo call.info).pendingWaitCompletion = .Satisfied then call.sid else KE_ERROR
  else if (k.semaInfo call.sema).deleted then KE_ERROR else call.sid

/-- `WaitSema` from the moment its caller runs again. `none` is a `ThreadExitException`. -/
def resume (call : Call) : Transition (Option Int) :=
  if !call.transition.applied then .error "WaitSema resumed before its scheduler transition"
  else if call.transition.blocked ∧ (k.threadInfo call.info).terminated then .ok (none, k)
  else
    match (if call.transition.blocked then taken k call else k).returnToGuest call.info with
    | .error message => .error message
    | .ok (.threadExit, k') => .ok (none, k')
    | .ok (.goOn, k') => .ok (some (result k call), k')

end WaitSema

end Ps2Recomp.Syscalls
