import Ps2Recomp.Lib.Machine
import Ps2Recomp.Syscalls.Thread

/-!
# Calls of `WaitSema` among everything else the kernel does

`World` is the kernel with the `WaitSema` calls in progress, at most one for each thread, and the
values the finished ones returned. A call takes three steps: it publishes its transition
(`waitSema`), the executor applies the transition (`applyWaitSema`), and its thread runs again and
returns (`resumeWaitSema`). Between them anything may happen, in any order:

* every other syscall of the kernel does its lookups, its transition and its return as separate
  steps (`KernelOp`), each with arbitrary captured objects, which is more than the executor allows;
* `KernelOp.scheduler` is any call of the scheduler, also for the executor's hooks;
* interrupt callbacks run between publications, their transitions applied inline: their syscalls
  are the same steps, but `callbackWaitSema`, which enters, applies and resumes at once.

`acquired` records what the claim of a call is about: that its own transition decremented the count,
or that a signal completed its wait as Satisfied.
-/

namespace Ps2Recomp.Syscalls

open Machine

/-! ## The other syscalls -/

/-- A step of a syscall other than `WaitSema`, `SignalSema` and `TerminateThread`. -/
inductive KernelOp where
  | createSema (init max : Int)
  | pollSema (sid : Int)
  | deleteSema (sema : ObjectRef)
  | createEventFlag (attr initBits : BitVec 32)
  | clearEventFlag (eid : Int) (bits : BitVec 32)
  | pollEventFlag (eid : Int) (waitBits mode : BitVec 32)
  | setEventFlag (flag : ObjectRef) (bits : BitVec 32)
  | deleteEventFlag (flag : ObjectRef)
  | applyWaitEventFlag (call : WaitEventFlag.Call)
  | resumeWaitEventFlag (call : WaitEventFlag.Call)
  | ensureCurrentThreadInfo (threadId : Int)
  | publishRunning (info : ObjectRef)
  | createThread (priority : Int)
  | addCreatedThread (info : ObjectRef) (priority : Int)
  | startThread (threadId : Int)
  | startScheduled (info : ObjectRef) (priority : Int)
  | deleteScheduled (info : ObjectRef)
  | eraseThread (threadId : Int)
  | exitThread (info : ObjectRef)
  | threadEnded (info : ObjectRef)
  | suspendThread (info : ObjectRef)
  | resumeThread (info : ObjectRef)
  | changeThreadPriority (info : ObjectRef) (priority : Int)
  | sleepThread (info : ObjectRef)
  | resumeSleep (info : ObjectRef) (blocked : Bool)
  | wakeupThread (info : ObjectRef)
  | cancelWakeupThread (info : ObjectRef)
  | hleBlock (info : ObjectRef) (objectId : Int)
  | hleWake (info : ObjectRef) (objectId : Int)
  | hleTaken (info : ObjectRef) (objectId : Int)
  | releaseWaitThread (wait : WaitedOn)
  | scheduler (op : SchedulerOp)

def Transition.state {α : Type} (t : Transition α) : Except String KernelState := t.map (·.2)

/-- The state after the step. -/
def KernelOp.run (k : KernelState) : KernelOp → Except String KernelState
  | .createSema init max => .ok (k.createSema init max).2
  | .pollSema sid => .ok (k.pollSema sid).2
  | .deleteSema sema => Transition.state (k.deleteSema sema)
  | .createEventFlag attr initBits => .ok (k.createEventFlag attr initBits).2
  | .clearEventFlag eid bits => .ok (k.clearEventFlag eid bits).2
  | .pollEventFlag eid waitBits mode => .ok (k.pollEventFlag eid waitBits mode).2
  | .setEventFlag flag bits => Transition.state (k.setEventFlag flag bits)
  | .deleteEventFlag flag => Transition.state (k.deleteEventFlag flag)
  | .applyWaitEventFlag call => Transition.state (WaitEventFlag.apply k call)
  | .resumeWaitEventFlag call => Transition.state (WaitEventFlag.resume k call)
  | .ensureCurrentThreadInfo threadId => .ok (k.ensureCurrentThreadInfo threadId).2
  | .publishRunning info => .ok (k.publishRunningAtGuestBoundary info).2
  | .createThread priority => .ok (k.createThread priority).2
  | .addCreatedThread info priority => k.addCreatedThread info priority
  | .startThread threadId => .ok (k.startThread threadId).2
  | .startScheduled info priority => k.startScheduled info priority
  | .deleteScheduled info => Transition.state (k.deleteScheduled info)
  | .eraseThread threadId => .ok (k.eraseThread threadId)
  | .exitThread info => .ok (k.exitThread info)
  | .threadEnded info => .ok (k.threadEnded info)
  | .suspendThread info => Transition.state (k.suspendThread info)
  | .resumeThread info => Transition.state (k.resumeThread info)
  | .changeThreadPriority info priority => Transition.state (k.changeThreadPriority info priority)
  | .sleepThread info => Transition.state (k.sleepThread info)
  | .resumeSleep info blocked => Transition.state (k.resumeSleep info blocked)
  | .wakeupThread info => Transition.state (k.wakeupThread info)
  | .cancelWakeupThread info => Transition.state (k.cancelWakeupThread info)
  | .hleBlock info objectId => k.hleBlock info objectId
  | .hleWake info objectId => k.hleWake info objectId
  | .hleTaken info objectId => .ok (k.hleTaken info objectId)
  | .releaseWaitThread wait => Transition.state (k.releaseWaitThread wait)
  | .scheduler op => .ok (k.setScheduler (op.run k.scheduler))

/-- The object of the thread that makes the step, where the step is one only the thread itself
makes: it waits, takes a completion, exits. -/
def KernelOp.own : KernelOp → Option ObjectRef
  | .applyWaitEventFlag call | .resumeWaitEventFlag call => some call.info
  | .publishRunning info | .exitThread info | .threadEnded info => some info
  | .sleepThread info | .resumeSleep info _ => some info
  | .hleBlock info _ | .hleTaken info _ => some info
  | _ => none

/-! ## The world -/

/-- A `WaitSema` call in progress. -/
structure PendingCall where
  call : WaitSema.Call
  acquired : Bool := false
  deriving DecidableEq, Repr

/-- What a finished call returned, and whether it acquired its semaphore. -/
structure WaitReturn where
  sid : Int
  ret : Int
  acquired : Bool
  deriving DecidableEq, Repr

/-- The kernel, the calls in progress by thread, and what the finished ones returned. `failure` is
the text of the exception that ended the run. -/
structure World where
  kernel : KernelState := {}
  calls : Int → Option PendingCall := fun _ => none
  returns : List WaitReturn := []
  failure : Option String := none

inductive Action where
  /-- Thread `threadId` calls `WaitSema`. `accepted` is what `publishEeSchedulerUpdate` returned. -/
  | waitSema (threadId sid : Int) (accepted : Bool)
  | applyWaitSema (threadId : Int)
  | resumeWaitSema (threadId : Int)
  /-- The transition of a call whose thread was terminated before it was applied. -/
  | strayWaitSema (call : WaitSema.Call)
  | callbackWaitSema (threadId sid : Int)
  | signalSema (sema : ObjectRef)
  | terminateThread (wait : WaitedOn)
  | other (op : KernelOp)

namespace World

variable (w : World)

/-- The call of thread `threadId` is `call` from now on. -/
def setCall (threadId : Int) (call : Option PendingCall) : World :=
  { w with calls := Function.update w.calls threadId call }

/-- The kernel after a transition, or the failure. -/
def commit (result : Except String KernelState) : World :=
  match result with
  | .ok k => { w with kernel := k }
  | .error message => { w with failure := some message }

/-- A thread inside `WaitSema` whose transition has been applied. -/
def waits (info : ObjectRef) : Bool :=
  (w.calls (w.kernel.threadInfo info).threadId).any fun pending =>
    pending.call.info == info && pending.call.transition.applied

/-- The count of the semaphore went down between two states. -/
def decremented (sema : ObjectRef) (k k' : KernelState) : Bool :=
  decide ((k'.semaInfo sema).count < (k.semaInfo sema).count)

/-- The wait of a blocked call was completed as Satisfied between two states. -/
def satisfied (call : WaitSema.Call) (k k' : KernelState) : Bool :=
  call.transition.blocked &&
    ((k.threadInfo call.info).pendingWaitCompletion != .Satisfied &&
      (k'.threadInfo call.info).pendingWaitCompletion == .Satisfied)

def enterWaitSema (threadId sid : Int) (accepted : Bool) : World :=
  if (w.calls threadId).isSome then w
  else
    match WaitSema.enter w.kernel threadId sid with
    | (.returns ret, k) => { w with kernel := k, returns := w.returns ++ [⟨sid, ret, false⟩] }
    | (.threadExit, k) => { w with kernel := k }
    | (.published call, k) =>
      if accepted then { w with kernel := k }.setCall threadId (some { call := call })
      else { w with kernel := k, returns := w.returns ++ [⟨sid, KE_ERROR, false⟩] }

def applyWaitSema (threadId : Int) : World :=
  match w.calls threadId with
  | none => w
  | some pending =>
    if pending.call.transition.applied then w
    else
      match WaitSema.apply w.kernel pending.call with
      | .error message => { w with failure := some message }
      | .ok (transition, k) =>
        { w with kernel := k }.setCall threadId
          (some
            { call := { pending.call with transition := transition }
              acquired := decremented pending.call.sema w.kernel k })

/-- The executor dispatches the thread it has selected, taking its completion from the scheduler. -/
def dispatched (threadId : Int) : KernelState :=
  match w.kernel.scheduler.threadHandle threadId with
  | some handle =>
    w.kernel.setScheduler (w.kernel.scheduler.consumeWaitCompletion handle).2
  | none => w.kernel

def resumeWaitSema (threadId : Int) : World :=
  match w.calls threadId with
  | none => w
  | some pending =>
    if w.kernel.scheduler.currentThreadId ≠ some threadId then w
    else
      match WaitSema.resume (w.dispatched threadId) pending.call with
      | .error message => { w with failure := some message }
      | .ok (none, k) => { w with kernel := k }.setCall threadId none
      | .ok (some ret, k) =>
        setCall
          { w with
            kernel := k
            returns := w.returns ++ [⟨pending.call.sid, ret, pending.acquired⟩] }
          threadId none

def callbackWaitSema (threadId sid : Int) : World :=
  match WaitSema.enter w.kernel threadId sid with
  | (.returns ret, k) => { w with kernel := k, returns := w.returns ++ [⟨sid, ret, false⟩] }
  | (.threadExit, k) => { w with kernel := k }
  | (.published call, k) =>
    match WaitSema.apply k call with
    | .error message => { w with failure := some message }
    | .ok (transition, k') =>
      match WaitSema.resume k' { call with transition := transition } with
      | .error message => { w with failure := some message }
      | .ok (none, k'') => { w with kernel := k'' }
      | .ok (some ret, k'') =>
        { w with
          kernel := k''
          returns := w.returns ++ [⟨sid, ret, decremented call.sema k k'⟩] }

def signalSema (sema : ObjectRef) : World :=
  match w.kernel.signalSema sema with
  | .error message => { w with failure := some message }
  | .ok (_, k) =>
    { w with
      kernel := k
      calls := fun threadId => (w.calls threadId).map fun pending =>
        { pending with
          acquired := pending.acquired || satisfied pending.call w.kernel k } }

/-- A termination, which destroys the continuation of the thread: its call never returns. -/
def terminateThread (wait : WaitedOn) : World :=
  match w.kernel.terminateThread wait with
  | .error message => { w with failure := some message }
  | .ok (.Terminated, k) =>
    { w with kernel := k }.setCall (w.kernel.threadInfo wait.info).threadId none
  | .ok (_, k) => { w with kernel := k }

/-- One step. Nothing happens after a failure. -/
def step (w : World) (a : Action) : World :=
  if w.failure.isSome then w
  else
    match a with
    | .waitSema threadId sid accepted => w.enterWaitSema threadId sid accepted
    | .applyWaitSema threadId => w.applyWaitSema threadId
    | .resumeWaitSema threadId => w.resumeWaitSema threadId
    -- publications are applied in order, so before any later call of the same thread
    | .strayWaitSema call =>
      if w.waits call.info then w else w.commit (WaitSema.apply w.kernel call).state
    | .callbackWaitSema threadId sid => w.callbackWaitSema threadId sid
    | .signalSema sema => w.signalSema sema
    | .terminateThread wait => w.terminateThread wait
    | .other op => w.commit (op.run w.kernel)

end World

end Ps2Recomp.Syscalls
