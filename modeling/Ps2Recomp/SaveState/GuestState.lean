import Ps2Recomp.Scheduler.Basic

/-!
# The guest-visible thread state

Model of `EeThreadGuestState` (`Kernel/Syscalls/Helpers/ThreadRuntimeState.h`). Every member that
changes the state goes through `commit`, which keeps the old state when the new one is not
`isValid`; a valid state is therefore all an object can hold, and the structure carries the proof.

`agrees` says that a scheduler record and a guest state describe one thread: the same status, the
same suspend count and the same wait.

The `int` fields are integers: no operation takes one past its range. `revision` is a `uint64_t`.
-/

namespace Ps2Recomp

inductive EeThreadWaitQueue where
  | None
  | Sleep
  | Semaphore
  | EventFlag
  | HleSemaphore
  deriving DecidableEq, Repr

/-! ## The constants of `EeThreadGuestState` -/

abbrev kRun : Int := 0x01

abbrev kReady : Int := 0x02

abbrev kWait : Int := 0x04

abbrev kSuspend : Int := 0x08

abbrev kWaitSuspend : Int := 0x0c

abbrev kDormant : Int := 0x10

abbrev kWaitNone : Int := 0

abbrev kWaitSleep : Int := 1

abbrev kWaitSemaphore : Int := 2

abbrev kWaitEvent : Int := 3

structure EeThreadGuestStateSnapshot where
  status : Int := kDormant
  waitType : Int := kWaitNone
  waitId : Int := 0
  wakeupCount : Int := 0
  currentPriority : Int := 0
  suspendCount : Int := 0
  waitQueue : EeThreadWaitQueue := .None
  waitQueueId : Int := 0
  waitCompletionPending : Bool := false
  started : Bool := false
  revision : Fin uint64Count := 0
  deriving DecidableEq, Repr

namespace EeThreadGuestStateSnapshot

variable (state : EeThreadGuestStateSnapshot)

def hasQueue : Bool := state.waitQueue != .None

def hasWaitReason : Bool := state.waitType != kWaitNone

/-- `queueMatchesReason`. -/
def queueMatchesReason : Bool :=
  match state.waitQueue with
  | .None => false
  | .Sleep => state.waitType == kWaitSleep && state.waitId == 0 && state.waitQueueId == 0
  | .Semaphore | .HleSemaphore =>
    state.waitType == kWaitSemaphore && state.waitQueueId == state.waitId
  | .EventFlag => state.waitType == kWaitEvent && state.waitQueueId == state.waitId

/-- The `switch` of `isValid`, whose default also rejects the unknown statuses. -/
def statusFits : Bool :=
  if state.status = kRun then
    state.started && state.suspendCount == 0 && !state.hasQueue && !state.hasWaitReason &&
      !state.waitCompletionPending
  else if state.status = kReady then
    state.started && state.suspendCount == 0 && !state.hasQueue &&
      state.waitCompletionPending == state.hasWaitReason
  else if state.status = kWait then
    state.started && state.suspendCount == 0 && state.hasQueue && state.hasWaitReason &&
      !state.waitCompletionPending
  else if state.status = kSuspend then
    state.started && decide (0 < state.suspendCount) && !state.hasQueue &&
      state.waitCompletionPending == state.hasWaitReason
  else if state.status = kWaitSuspend then
    state.started && decide (0 < state.suspendCount) && state.hasQueue && state.hasWaitReason &&
      !state.waitCompletionPending
  else if state.status = kDormant then
    !state.started && state.suspendCount == 0 && state.wakeupCount == 0 && !state.hasQueue &&
      !state.hasWaitReason && !state.waitCompletionPending
  else false

/-- `isValid`. -/
def isValid : Bool :=
  decide (0 ≤ state.wakeupCount) && decide (0 ≤ state.suspendCount) &&
    (state.hasQueue || state.waitQueueId == 0) && (!state.hasQueue || state.queueMatchesReason) &&
    state.statusFits

theorem isValid_default : ({} : EeThreadGuestStateSnapshot).isValid = true := by decide

variable {state}

theorem suspendCount_nonneg (h : state.isValid = true) : 0 ≤ state.suspendCount := by
  unfold isValid at h
  simp only [Bool.and_eq_true, decide_eq_true_eq] at h
  exact h.1.1.1.2

theorem wakeupCount_nonneg (h : state.isValid = true) : 0 ≤ state.wakeupCount := by
  unfold isValid at h
  simp only [Bool.and_eq_true, decide_eq_true_eq] at h
  exact h.1.1.1.1

end EeThreadGuestStateSnapshot

/-- An `EeThreadGuestState`: `m_state`, and that it is valid. -/
structure EeThreadGuestState where
  state : EeThreadGuestStateSnapshot := {}
  valid : state.isValid = true := by first | exact EeThreadGuestStateSnapshot.isValid_default | decide
  deriving DecidableEq

namespace EeThreadGuestState

/-- `restore`. -/
def restore (state : EeThreadGuestStateSnapshot) : Option EeThreadGuestState :=
  if h : state.isValid = true then some ⟨state, h⟩ else none

theorem restore_eq_some {state : EeThreadGuestStateSnapshot} {guest : EeThreadGuestState} :
    restore state = some guest ↔ guest.state = state := by
  unfold restore
  split
  · rename_i h
    constructor
    · rintro ⟨⟩
      rfl
    · rintro rfl
      rfl
  · rename_i h
    refine ⟨nofun, ?_⟩
    rintro rfl
    exact absurd guest.valid h

variable (guest : EeThreadGuestState)

/-- `commit`, which keeps the state when `next` is not valid. -/
def commit (next : EeThreadGuestStateSnapshot) : EeThreadGuestState :=
  (restore { next with revision := guest.state.revision + 1 }).getD guest

def isDormant : Bool := guest.state.status == kDormant

def isWaiting : Bool := guest.state.status == kWait || guest.state.status == kWaitSuspend

def isWaitingOn (waitType waitId : Int) : Bool :=
  guest.isWaiting && guest.state.waitType == waitType && guest.state.waitId == waitId

def isLinkedTo (queue : EeThreadWaitQueue) (id : Int) : Bool :=
  guest.state.waitQueue == queue && guest.state.waitQueueId == id

def initializeRunning (priority : Int) : EeThreadGuestState :=
  guest.commit { status := kRun, currentPriority := priority, started := true }

def setCurrentPriority (priority : Int) : EeThreadGuestState :=
  guest.commit { guest.state with currentPriority := priority }

/-- The fields every member that ends a wait clears. -/
def unlinked (state : EeThreadGuestStateSnapshot) : EeThreadGuestStateSnapshot :=
  { state with
    waitType := kWaitNone
    waitId := 0
    waitQueue := .None
    waitQueueId := 0
    waitCompletionPending := false }

def start : Bool × EeThreadGuestState :=
  if guest.isDormant then
    (true, guest.commit
      { unlinked guest.state with
        status := kReady, wakeupCount := 0, suspendCount := 0, started := true })
  else (false, guest)

def publishRunning : EeThreadGuestState :=
  guest.commit { unlinked guest.state with status := kRun, started := true }

def publishReady : EeThreadGuestState :=
  guest.commit { unlinked guest.state with status := kReady, started := true }

def makeDormant : EeThreadGuestState :=
  guest.commit { status := kDormant, currentPriority := guest.state.currentPriority }

def block (queue : EeThreadWaitQueue) (waitType waitId : Int) : Bool × EeThreadGuestState :=
  if guest.isDormant || queue == .None then (false, guest)
  else
    (true, guest.commit
      { guest.state with
        status := if 0 < guest.state.suspendCount then kWaitSuspend else kWait
        waitType := waitType
        waitId := waitId
        waitQueue := queue
        waitQueueId := waitId
        waitCompletionPending := false })

def releaseWait (queue : EeThreadWaitQueue) (waitType waitId : Int) (retainReason : Bool) :
    Bool × EeThreadGuestState :=
  if !guest.isWaitingOn waitType waitId || !guest.isLinkedTo queue waitId then (false, guest)
  else
    (true, guest.commit
      { guest.state with
        status := if 0 < guest.state.suspendCount then kSuspend else kReady
        waitQueue := .None
        waitQueueId := 0
        waitCompletionPending := retainReason
        waitType := if retainReason then guest.state.waitType else kWaitNone
        waitId := if retainReason then guest.state.waitId else 0 })

/-- `alreadyPublished` of `finishWait`. -/
def alreadyPublished (waitType waitId : Int) : Bool :=
  guest.state.waitQueue == .None &&
    (guest.state.status == kReady || guest.state.status == kSuspend) &&
    ((guest.state.waitCompletionPending &&
        (guest.state.waitType == waitType && guest.state.waitId == waitId)) ||
      (!guest.state.waitCompletionPending && guest.state.waitType == kWaitNone))

def finishWait (queue : EeThreadWaitQueue) (waitType waitId : Int)
    (publishRunningAfterWake : Bool) : Bool × EeThreadGuestState :=
  if !guest.isLinkedTo queue waitId && !guest.alreadyPublished waitType waitId then (false, guest)
  else
    (guest.isLinkedTo queue waitId, guest.commit
      { unlinked guest.state with
        status :=
          if 0 < guest.state.suspendCount then kSuspend
          else if publishRunningAfterWake then kRun else kReady })

def suspend : Bool × EeThreadGuestState :=
  if guest.isDormant then (false, guest)
  else
    (true, guest.commit
      { guest.state with
        suspendCount := guest.state.suspendCount + 1
        status := if guest.state.waitQueue ≠ .None then kWaitSuspend else kSuspend })

/-- The status `resume` leaves when it takes the suspend count to zero. -/
def resumedStatus (isCurrentThread : Bool) : Int :=
  if guest.state.waitQueue ≠ .None then kWait else if isCurrentThread then kRun else kReady

/-- `resume`. The second component is `becameRunnable`. -/
def resume (isCurrentThread : Bool) : Bool × Bool × EeThreadGuestState :=
  if guest.isDormant || guest.state.suspendCount ≤ 0 then (false, false, guest)
  else
    let last := guest.state.suspendCount - 1 == 0
    (true, last && guest.state.waitQueue == .None && !isCurrentThread, guest.commit
      { guest.state with
        suspendCount := guest.state.suspendCount - 1
        status := if last then guest.resumedStatus isCurrentThread else guest.state.status })

def consumeWakeup : Bool × EeThreadGuestState :=
  if guest.state.wakeupCount ≤ 0 then (false, guest)
  else
    (true, guest.commit
      { unlinked guest.state with
        wakeupCount := guest.state.wakeupCount - 1
        status := kRun })

def wakeSleeping : Bool × EeThreadGuestState :=
  guest.releaseWait .Sleep kWaitSleep 0 false

def incrementWakeup : Int × EeThreadGuestState :=
  (guest.state.wakeupCount + 1,
    guest.commit { guest.state with wakeupCount := guest.state.wakeupCount + 1 })

def cancelWakeups : Int × EeThreadGuestState :=
  (guest.state.wakeupCount, guest.commit { guest.state with wakeupCount := 0 })

end EeThreadGuestState

/-! ## One thread, described twice -/

def EeSchedulerThreadState.guestStatus : EeSchedulerThreadState → Int
  | .Dormant => kDormant
  | .Ready => kReady
  | .Running => kRun
  | .Waiting => kWait
  | .Suspended => kSuspend
  | .WaitSuspended => kWaitSuspend

def EeSchedulerWaitKind.guestQueue : EeSchedulerWaitKind → EeThreadWaitQueue
  | .None => .None
  | .Sleep => .Sleep
  | .Semaphore => .Semaphore
  | .EventFlag => .EventFlag
  | .HleSemaphore => .HleSemaphore

/-- The record and the guest state describe the same status, suspend count and wait. -/
structure ThreadRecord.Agrees (thread : ThreadRecord) (guest : EeThreadGuestStateSnapshot) :
    Prop where
  status : guest.status = thread.state.guestStatus
  suspendCount : guest.suspendCount = thread.suspendCount
  waitQueue : guest.waitQueue = thread.wait.kind.guestQueue
  waitQueueId : guest.waitQueueId = thread.wait.objectId

end Ps2Recomp
