import Mathlib.Data.Finmap
import Mathlib.Data.Fintype.Basic
import Mathlib.Logic.Function.Basic
import Ps2Recomp.Timing

/-!
# The EE thread scheduler: records, queues and the private helpers

Model of `EeThreadScheduler` (`ee_thread_scheduler.h`, `ee_thread_scheduler.cpp`). This file has the
data and the private members; `Operations.lean` has the public ones.

* `m_threads` is a finite map from thread ids (`unordered_map<int, ThreadRecord>`), and
  `m_waitQueues` one from wait keys (`map<EeSchedulerWaitKey, deque<...>>`). No member reads the
  iteration order of either, except `snapshot`, which sorts by id.
* `m_readyQueues` is an array of `kEeThreadPriorityCount` queues, so a function from `Priority = Fin
  128`. The type of a record's `priority` carries the verdict of `validPriority`.
* A C++ reference into `m_threads` is the record's value, written back with `setThread`.
* `m_nextQueueSequence` is a `uint64_t`, an element of `Fin (2 ^ 64)`, whose increment wraps.
  `generation`, `wakeupCount` and `suspendCount` are `uint32_t`, and no operation increments one
  past its maximum.

Left out: the transition trace (`recordTransition` and the `m_transitionTrace*` members), which
every operation writes and none reads.
-/

namespace Ps2Recomp

/-! ## Types -/

/-- A queue sequence, a `uint64_t`: its increment wraps. -/
abbrev QueueSequence := Fin uint64Count

/-- `kEeThreadPriorityCount`. -/
abbrev kEeThreadPriorityCount : Nat := 128

/-- A priority that passed `validPriority`. -/
abbrev Priority := Fin kEeThreadPriorityCount

inductive EeSchedulerThreadState where
  | Dormant
  | Ready
  | Running
  | Waiting
  | Suspended
  | WaitSuspended
  deriving DecidableEq, Repr

inductive EeSchedulerWaitKind where
  | None
  | Sleep
  | Semaphore
  | EventFlag
  | HleSemaphore
  deriving DecidableEq, Repr

structure EeSchedulerWaitKey where
  kind : EeSchedulerWaitKind := .None
  objectId : Int := 0
  deriving DecidableEq, Repr

/-- `EeSchedulerWaitKey::valid`. -/
def EeSchedulerWaitKey.valid (key : EeSchedulerWaitKey) : Bool :=
  match key.kind with
  | .Sleep => key.objectId == 0
  | .Semaphore | .EventFlag | .HleSemaphore => decide (0 ≤ key.objectId)
  | .None => false

/-- The key every sleeping thread waits on. -/
abbrev sleepKey : EeSchedulerWaitKey := ⟨.Sleep, 0⟩

inductive EeSchedulerWaitCompletion where
  | None
  | Satisfied
  | Released
  | ObjectDeleted
  | TimedOut
  deriving DecidableEq, Repr

structure EeSchedulerCompletedWait where
  wait : EeSchedulerWaitKey := {}
  completion : EeSchedulerWaitCompletion := .None
  deriving DecidableEq, Repr

/-- `EeSchedulerCompletedWait::valid`. -/
def EeSchedulerCompletedWait.valid (c : EeSchedulerCompletedWait) : Bool :=
  c.wait.valid && c.completion != .None

structure EeSchedulerThreadHandle where
  id : Int := 0
  generation : Nat := 0
  deriving DecidableEq, Repr

/-- `EeSchedulerThreadHandle::valid`. -/
def EeSchedulerThreadHandle.valid (h : EeSchedulerThreadHandle) : Bool :=
  decide (0 < h.id) && h.generation != 0

inductive EeSchedulerReschedulePolicy where
  | None
  | HigherPriorityOnly
  | EqualOrHigherPriority
  deriving DecidableEq, Repr

inductive EeSchedulerSleepDisposition where
  | InvalidCurrentThread
  | WakeupConsumed
  | Blocked
  deriving DecidableEq, Repr

structure EeSchedulerSleepResult where
  disposition : EeSchedulerSleepDisposition := .InvalidCurrentThread
  selectedThreadId : Option Int := none
  deriving DecidableEq, Repr

inductive EeSchedulerWakeResult where
  | InvalidHandle
  | Dormant
  | WokeSleeper
  | WakeupCounted
  | WakeupCountOverflow
  deriving DecidableEq, Repr

/-- `EeThreadScheduler::ThreadRecord`. -/
structure ThreadRecord where
  generation : Nat
  priority : Priority
  state : EeSchedulerThreadState := .Dormant
  wait : EeSchedulerWaitKey := {}
  completedWait : EeSchedulerCompletedWait := {}
  retainCompletedWaitReason : Bool := false
  wakeupCount : Nat := 0
  suspendCount : Nat := 0
  queueSequence : QueueSequence := 0
  deriving DecidableEq, Repr

/-- `EeSchedulerThreadSnapshot`. Its `priority` is a plain `int`: it comes from outside. -/
structure EeSchedulerThreadSnapshot where
  id : Int := 0
  generation : Nat := 0
  priority : Int := 0
  state : EeSchedulerThreadState := .Dormant
  wait : EeSchedulerWaitKey := {}
  completedWait : EeSchedulerCompletedWait := {}
  retainCompletedWaitReason : Bool := false
  wakeupCount : Nat := 0
  suspendCount : Nat := 0
  queueSequence : QueueSequence := 0
  deriving DecidableEq, Repr

structure EeThreadSchedulerSnapshot where
  threads : List EeSchedulerThreadSnapshot := []
  currentThreadId : Option Int := none
  nextQueueSequence : QueueSequence := 1
  canonicalTick : Nat := 0
  deriving DecidableEq, Repr

/-- The members of `EeThreadScheduler`. The default value is the freshly constructed object. -/
structure EeThreadScheduler where
  threads : Finmap (fun _ : Int => ThreadRecord) := ∅
  readyQueues : Priority → List EeSchedulerThreadHandle := fun _ => []
  waitQueues : Finmap (fun _ : EeSchedulerWaitKey => List EeSchedulerThreadHandle) := ∅
  currentThreadId : Option Int := none
  nextQueueSequence : QueueSequence := 1
  canonicalTick : Nat := 0

namespace EeThreadScheduler

/-! ## Private helpers -/

/-- `validThreadId`. -/
def validThreadId (threadId : Int) : Bool := decide (0 < threadId)

/-- `validPriority`, returning the checked value. -/
def validPriority (priority : Int) : Option Priority :=
  if h : 0 ≤ priority ∧ priority < kEeThreadPriorityCount then
    some ⟨priority.toNat, by omega⟩
  else none

variable (s : EeThreadScheduler)

/-- `m_threads.find(threadId)`. -/
def thread? (threadId : Int) : Option ThreadRecord := s.threads.lookup threadId

/-- Write a record back. -/
def setThread (threadId : Int) (thread : ThreadRecord) : EeThreadScheduler :=
  { s with threads := s.threads.insert threadId thread }

/-- The queue of a wait key, empty when `m_waitQueues` has no entry for it. -/
def waitQueue (wait : EeSchedulerWaitKey) : List EeSchedulerThreadHandle :=
  (s.waitQueues.lookup wait).getD []

/-- `findThread`. -/
def findThread (handle : EeSchedulerThreadHandle) : Option ThreadRecord :=
  if handle.valid then
    match s.thread? handle.id with
    | some thread => if thread.generation = handle.generation then some thread else none
    | none => none
  else none

/-- `enqueueReady`. `thread` is the record as the caller left it. -/
def enqueueReady (threadId : Int) (thread : ThreadRecord) : EeThreadScheduler :=
  { s with
    threads := s.threads.insert threadId
      { thread with state := .Ready, wait := {}, queueSequence := s.nextQueueSequence }
    readyQueues := Function.update s.readyQueues thread.priority
      (s.readyQueues thread.priority ++ [⟨threadId, thread.generation⟩])
    nextQueueSequence := s.nextQueueSequence + 1 }

/-- The inner loop of `takeNextReady`: pop until a handle names a Ready thread. -/
def popReady : List EeSchedulerThreadHandle →
    Option (EeSchedulerThreadHandle × ThreadRecord) × List EeSchedulerThreadHandle
  | [] => (none, [])
  | handle :: rest =>
    match s.findThread handle with
    | some thread => if thread.state = .Ready then (some (handle, thread), rest) else popReady rest
    | none => popReady rest

/-- The outer loop of `takeNextReady`, over the priorities still to visit. -/
def takeNextReadyFrom (s : EeThreadScheduler) : List Priority → Option Int × EeThreadScheduler
  | [] => (none, s)
  | p :: ps =>
    match s.popReady (s.readyQueues p) with
    | (some (handle, thread), rest) =>
      (some handle.id,
        { s with
          readyQueues := Function.update s.readyQueues p rest
          threads := s.threads.insert handle.id
            { thread with state := .Running, retainCompletedWaitReason := false, queueSequence := 0 }
          currentThreadId := some handle.id })
    | (none, rest) =>
      takeNextReadyFrom { s with readyQueues := Function.update s.readyQueues p rest } ps

/-- `takeNextReady`. -/
def takeNextReady : Option Int × EeThreadScheduler :=
  s.takeNextReadyFrom (List.finRange kEeThreadPriorityCount)

/-- `removeReady`. The priority it is called with is always a record's. -/
def removeReady (handle : EeSchedulerThreadHandle) (priority : Priority) :
    Option EeThreadScheduler :=
  if handle ∈ s.readyQueues priority then
    some { s with
      readyQueues := Function.update s.readyQueues priority
        ((s.readyQueues priority).erase handle) }
  else none

/-- `m_waitQueues[wait] = queue`, erasing the entry when the queue is empty. -/
def setWaitQueue (wait : EeSchedulerWaitKey) (queue : List EeSchedulerThreadHandle) :
    EeThreadScheduler :=
  { s with
    waitQueues := if queue = [] then s.waitQueues.erase wait else s.waitQueues.insert wait queue }

/-- `removeWait`. -/
def removeWait (handle : EeSchedulerThreadHandle) (wait : EeSchedulerWaitKey) :
    Option EeThreadScheduler :=
  match s.waitQueues.lookup wait with
  | some queue => if handle ∈ queue then some (s.setWaitQueue wait (queue.erase handle)) else none
  | none => none

/-- The fields `retireCurrentThread` and `terminateThread` clear. -/
def retired (thread : ThreadRecord) : ThreadRecord :=
  { thread with
    state := .Dormant
    wait := {}
    completedWait := {}
    retainCompletedWaitReason := false
    wakeupCount := 0
    suspendCount := 0
    queueSequence := 0 }

/-- `retireCurrentThread`. -/
def retireCurrentThread : Option EeThreadScheduler :=
  match s.currentThreadId with
  | none => none
  | some threadId =>
    match s.thread? threadId with
    | none => none
    | some thread =>
      if thread.state = .Running then
        some { s.setThread threadId (retired thread) with currentThreadId := none }
      else none

/-- `highestReadyPriority`. -/
def highestReadyPriority : Option Priority :=
  (List.finRange kEeThreadPriorityCount).find? fun p => !(s.readyQueues p).isEmpty

/-- `publishCanonicalTick`. -/
def publishCanonicalTick (tick : Nat) : EeThreadScheduler :=
  { s with canonicalTick := if s.canonicalTick ≤ tick then tick else s.canonicalTick }

/-- `threadHandle`. -/
def threadHandle (threadId : Int) : Option EeSchedulerThreadHandle :=
  (s.thread? threadId).map fun thread => ⟨threadId, thread.generation⟩

end EeThreadScheduler

end Ps2Recomp
