import Ps2Recomp.Syscalls.Kernel

/-!
# Event flags

Model of the event-flag syscalls of `Kernel/Syscalls/Sync.cpp` in dedicated-executor mode.
`setEventFlag`, `deleteEventFlag` and `WaitEventFlag.apply` are the published transitions;
`CreateEventFlag`, `ClearEventFlag` and `PollEventFlag` publish nothing.

A flag keeps, for each thread that waits on it, the bits and the mode the thread asked for
(`schedulerWaiters`). `setEventFlag` walks the scheduler's queue of the flag once, in blocking
order: it releases every waiter whose request the bits satisfy when its turn comes, after the clears
of those released before it.
-/

namespace Ps2Recomp.Syscalls

abbrev WEF_OR : BitVec 32 := 1

abbrev WEF_CLEAR : BitVec 32 := 0x10

abbrev WEF_CLEAR_ALL : BitVec 32 := 0x20

abbrev WEF_MODE_MASK : BitVec 32 := WEF_OR ||| WEF_CLEAR ||| WEF_CLEAR_ALL

abbrev EA_MULTI : BitVec 32 := 0x2

/-- The scheduler's key of an event flag. -/
abbrev eventKey (eid : Int) : EeSchedulerWaitKey := ⟨.EventFlag, eid⟩

/-- `eventFlagSatisfied`. -/
def eventFlagSatisfied (currentBits waitBits mode : BitVec 32) : Bool :=
  if mode &&& WEF_OR ≠ 0 then currentBits &&& waitBits ≠ 0
  else currentBits &&& waitBits = waitBits

/-- The bits `applyEventFlagClear` leaves. -/
def eventFlagClear (bits waitBits mode : BitVec 32) : BitVec 32 :=
  if mode &&& WEF_CLEAR_ALL ≠ 0 then 0
  else if mode &&& WEF_CLEAR ≠ 0 then bits &&& ~~~waitBits
  else bits

/-- What `WaitEventFlag` and `PollEventFlag` reject before they look at the flag. -/
def eventFlagArguments (waitBits mode : BitVec 32) : Option Int :=
  if mode &&& ~~~WEF_MODE_MASK ≠ 0 then some KE_ILLEGAL_MODE
  else if waitBits = 0 then some KE_EVF_ILPAT
  else none

namespace KernelState

variable (k : KernelState)

/-- `CreateEventFlag`, for the `attr` and the initial bits of its parameters. -/
def createEventFlag (attr initBits : BitVec 32) : Int × KernelState :=
  let id := k.nextEventFlagId
  (id,
    { k with
      eventFlags := k.eventFlags.insert id k.nextObject
      eventFlagInfo := Function.update k.eventFlagInfo k.nextObject
        { eid := id, attr := attr, bits := initBits }
      nextEventFlagId := id + 1
      nextObject := k.nextObject + 1 })

/-- `ClearEventFlag`. -/
def clearEventFlag (eid : Int) (bits : BitVec 32) : Int × KernelState :=
  match k.lookupEventFlagInfo eid with
  | none => (KE_UNKNOWN_EVFID, k)
  | some flag =>
    (KE_OK, k.setEventFlagInfo flag
      { k.eventFlagInfo flag with bits := (k.eventFlagInfo flag).bits &&& bits })

/-- `PollEventFlag`: the return code and the bits stored through `resBitsAddr`. -/
def pollEventFlag (eid : Int) (waitBits mode : BitVec 32) :
    (Int × Option (BitVec 32)) × KernelState :=
  match eventFlagArguments waitBits mode with
  | some ret => ((ret, none), k)
  | none =>
    match k.lookupEventFlagInfo eid with
    | none => ((KE_UNKNOWN_EVFID, none), k)
    | some flag =>
      let info := k.eventFlagInfo flag
      if info.attr &&& EA_MULTI = 0 ∧ 0 < info.waiters then ((KE_EVF_MULTI, none), k)
      else if !eventFlagSatisfied info.bits waitBits mode then ((KE_EVF_COND, none), k)
      else
        ((KE_OK, some info.bits),
          k.setEventFlagInfo flag { info with bits := eventFlagClear info.bits waitBits mode })

/-- The lines with which a waiter leaves its flag: its guest state is released with `completion`
and `resultBits`, and the flag forgets it. -/
def detachEventWaiter (flag : ObjectRef) (threadId : Int)
    (completion : EeSchedulerWaitCompletion) (resultBits : BitVec 32) (missing diverged : String) :
    Except String KernelState :=
  match k.lookupThreadInfo threadId with
  | none => .error missing
  | some waiter =>
    let info := k.eventFlagInfo flag
    match k.mirrorRelease waiter .EventFlag kWaitEvent info.eid false completion diverged with
    | .error message => .error message
    | .ok k' =>
      if info.waiters ≤ 0 then .error diverged
      else
        .ok ((k'.setThreadInfo waiter
            { k'.threadInfo waiter with pendingEventFlagResultBits := resultBits }).setEventFlagInfo
          flag
          { info with
            schedulerWaiters := info.schedulerWaiters.erase threadId
            waiters := info.waiters - 1 })

/-! ## `SetEventFlag` -/

/-- What `setEventFlag` does with a waiter its bits satisfy. The bits the waiter sees are stored
for it, then cleared as it asked. -/
def satisfyEventWaiter (flag : ObjectRef) (threadId : Int) (request : SchedulerWaiter) :
    Except String KernelState :=
  match k.scheduler.threadHandle threadId with
  | none => .error "SetEventFlag could not satisfy an EE scheduler waiter"
  | some handle =>
    if handle.generation ≠ request.generation then
      .error "SetEventFlag could not satisfy an EE scheduler waiter"
    else
      match k.scheduler.releaseWaitThread handle .Satisfied with
      | (false, _) => .error "SetEventFlag could not satisfy an EE scheduler waiter"
      | (true, scheduler) =>
        let info := k.eventFlagInfo flag
        ((k.setScheduler scheduler).setEventFlagInfo flag
          { info with
            bits := eventFlagClear info.bits request.waitBits request.mode }).detachEventWaiter flag
          threadId .Satisfied info.bits "SetEventFlag woke a missing EE thread"
          "SetEventFlag scheduler and guest wait queues diverged"

/-- The loop of `setEventFlag`. -/
def setEventFlagWaiters (k : KernelState) (flag : ObjectRef) :
    List Int → Except String KernelState
  | [] => .ok k
  | threadId :: rest =>
    match (k.eventFlagInfo flag).schedulerWaiters.lookup threadId with
    | none => .error "SetEventFlag lost an executor wait predicate"
    | some request =>
      if !eventFlagSatisfied (k.eventFlagInfo flag).bits request.waitBits request.mode then
        setEventFlagWaiters k flag rest
      else
        match k.satisfyEventWaiter flag threadId request with
        | .error message => .error message
        | .ok k' => setEventFlagWaiters k' flag rest

/-- The transition of `setEventFlag`. A call with no bits returns `KE_OK` without publishing it. -/
def setEventFlag (flag : ObjectRef) (bits : BitVec 32) : Transition Int :=
  let info := k.eventFlagInfo flag
  if info.deleted then .ok (KE_UNKNOWN_EVFID, k)
  else
    match (k.setEventFlagInfo flag { info with bits := info.bits ||| bits }).setEventFlagWaiters
        flag (k.scheduler.waitOrder (eventKey info.eid)) with
    | .error message => .error message
    | .ok k' =>
      if (k'.eventFlagInfo flag).waiters ≠ (k'.eventFlagInfo flag).schedulerWaiters.keys.card then
        .error "SetEventFlag waiter accounting diverged"
      else .ok (KE_OK, k')

/-! ## `DeleteEventFlag` -/

/-- The body of the loop of `DeleteEventFlag`. -/
def deleteEventFlagWaiter (flag : ObjectRef) (threadId : Int) : Except String KernelState :=
  match (k.eventFlagInfo flag).schedulerWaiters.lookup threadId, k.scheduler.threadHandle threadId
      with
  | some request, some handle =>
    if handle.generation ≠ request.generation then
      .error "DeleteEventFlag could not detach an EE scheduler waiter"
    else
      match k.scheduler.releaseWaitThread handle .ObjectDeleted with
      | (false, _) => .error "DeleteEventFlag could not detach an EE scheduler waiter"
      | (true, scheduler) =>
        (k.setScheduler scheduler).detachEventWaiter flag threadId .ObjectDeleted 0
          "DeleteEventFlag detached a missing EE thread"
          "DeleteEventFlag scheduler and guest wait queues diverged"
  | _, _ => .error "DeleteEventFlag could not detach an EE scheduler waiter"

/-- The loop of `DeleteEventFlag`. -/
def deleteEventFlagWaiters (k : KernelState) (flag : ObjectRef) :
    List Int → Except String KernelState
  | [] => .ok k
  | threadId :: rest =>
    match k.deleteEventFlagWaiter flag threadId with
    | .error message => .error message
    | .ok k' => deleteEventFlagWaiters k' flag rest

/-- The transition of `DeleteEventFlag`. -/
def deleteEventFlag (flag : ObjectRef) : Transition Int :=
  let eid := (k.eventFlagInfo flag).eid
  if k.eventFlags.lookup eid ≠ some flag then .ok (KE_UNKNOWN_EVFID, k)
  else
    let marked := { k with eventFlags := k.eventFlags.erase eid }.setEventFlagInfo flag
      { k.eventFlagInfo flag with deleted := true }
    match marked.deleteEventFlagWaiters flag (k.scheduler.waitOrder (eventKey eid)) with
    | .error message => .error message
    | .ok k' =>
      if (k'.eventFlagInfo flag).waiters ≠ 0 ∨ (k'.eventFlagInfo flag).schedulerWaiters ≠ ∅ then
        .error "DeleteEventFlag left an unmodeled executor waiter"
      else .ok (KE_OK, k')

end KernelState

/-! ## `WaitEventFlag` -/

namespace WaitEventFlag

/-- `WaitTransition`. -/
structure WaitTransition where
  result : Int := KE_OK
  resultBits : BitVec 32 := 0
  blocked : Bool := false
  applied : Bool := false
  deriving DecidableEq, Repr

/-- A call of `WaitEventFlag`: what its transition captures, and the transition. -/
structure Call where
  waitBits : BitVec 32
  mode : BitVec 32
  flag : ObjectRef
  info : ObjectRef
  transition : WaitTransition := {}
  deriving DecidableEq, Repr

/-- How a call begins: it returns at once, its thread exits, or it publishes its transition. -/
inductive Entry where
  | returns (ret : Int)
  | threadExit
  | published (call : Call)
  deriving DecidableEq, Repr

variable (k : KernelState)

/-- `WaitEventFlag` up to its publication, called by `threadId`. -/
def enter (threadId eid : Int) (waitBits mode : BitVec 32) : Entry × KernelState :=
  match eventFlagArguments waitBits mode with
  | some ret => (.returns ret, k)
  | none =>
    match k.lookupEventFlagInfo eid with
    | none => (.returns KE_UNKNOWN_EVFID, k)
    | some flag =>
      let (info, k') := k.ensureCurrentThreadInfo threadId
      if (k'.threadInfo info).terminated then (.threadExit, k')
      else (.published { waitBits := waitBits, mode := mode, flag := flag, info := info }, k')

/-- The state in which the transition has cleared the completion of its caller. -/
def cleared (info : ObjectRef) : KernelState :=
  k.setThreadInfo info
    { k.threadInfo info with pendingWaitCompletion := .None, pendingEventFlagResultBits := 0 }

/-- The part of the transition that blocks the caller. -/
def block (call : Call) : Except String KernelState :=
  let scheduled :=
    k.setScheduler (k.scheduler.blockCurrentThread (eventKey (k.eventFlagInfo call.flag).eid)).2
  if !scheduled.isBlocked call.info then
    .error "WaitEventFlag could not block its running scheduler owner"
  else
    match scheduled.mirrorBlock call.info .EventFlag kWaitEvent (k.eventFlagInfo call.flag).eid
        "WaitEventFlag could not mirror its scheduler wait" with
    | .error message => .error message
    | .ok k' =>
      let info := k'.eventFlagInfo call.flag
      let caller := k'.threadInfo call.info
      if (info.schedulerWaiters.lookup caller.threadId).isSome then
        .error "WaitEventFlag duplicated an executor waiter"
      else
        .ok (k'.setEventFlagInfo call.flag
          { info with
            schedulerWaiters := info.schedulerWaiters.insert caller.threadId
              ⟨caller.generation, call.waitBits, call.mode⟩
            waiters := info.waiters + 1 })

/-- The transition of `WaitEventFlag`. -/
def apply (call : Call) : Transition WaitTransition :=
  if !k.knows call.info then .error "WaitEventFlag lost its EE scheduler record"
  else
    let k' := cleared k call.info
    let info := k'.eventFlagInfo call.flag
    if info.deleted then .ok ({ result := KE_WAIT_DELETE, applied := true }, k')
    else if info.attr &&& EA_MULTI = 0 ∧ 0 < info.waiters then
      .ok ({ result := KE_EVF_MULTI, applied := true }, k')
    else if eventFlagSatisfied info.bits call.waitBits call.mode then
      .ok ({ resultBits := info.bits, applied := true },
        k'.setEventFlagInfo call.flag
          { info with bits := eventFlagClear info.bits call.waitBits call.mode })
    else
      match block k' call with
      | .error message => .error message
      | .ok k'' => .ok ({ blocked := true, applied := true }, k'')

/-- The state in which a caller that was blocked has taken its completion. -/
def taken (call : Call) : KernelState :=
  let info := k.threadInfo call.info
  k.setThreadInfo call.info
    { info with
      pendingWaitCompletion := .None
      pendingEventFlagResultBits := 0
      guestState :=
        (info.guestState.finishWait .EventFlag kWaitEvent (k.eventFlagInfo call.flag).eid false).2
      forceRelease :=
        if info.pendingWaitCompletion = .Released then false else info.forceRelease }

/-- The return code and the result bits of a blocked call, from its completion. -/
def completion (call : Call) : Except String (Int × BitVec 32) :=
  match (k.threadInfo call.info).pendingWaitCompletion with
  | .Satisfied => .ok (KE_OK, (k.threadInfo call.info).pendingEventFlagResultBits)
  | .Released => .ok (KE_RELEASE_WAIT, (k.threadInfo call.info).pendingEventFlagResultBits)
  | .ObjectDeleted => .ok (KE_WAIT_DELETE, (k.threadInfo call.info).pendingEventFlagResultBits)
  | .TimedOut | .None => .error "WaitEventFlag resumed without a modeled completion"

/-- `WaitEventFlag` from the moment its caller runs again: the return code, and the bits stored
through `resBitsAddr`. `none` is a `ThreadExitException`. -/
def resume (call : Call) : Transition (Option (Int × Option (BitVec 32))) :=
  if !call.transition.applied then
    .error "WaitEventFlag resumed before its scheduler transition"
  else if call.transition.blocked ∧ (k.threadInfo call.info).terminated then .ok (none, k)
  else
    match (if call.transition.blocked then completion k call
      else .ok (call.transition.result, call.transition.resultBits)) with
    | .error message => .error message
    | .ok (ret, resultBits) =>
      match (if call.transition.blocked then taken k call else k).returnToGuest call.info with
      | .error message => .error message
      | .ok (.threadExit, k') => .ok (none, k')
      | .ok (.goOn, k') => .ok (some (ret, if ret = KE_OK then some resultBits else none), k')

end WaitEventFlag

end Ps2Recomp.Syscalls
