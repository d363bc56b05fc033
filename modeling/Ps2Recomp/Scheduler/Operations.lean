import Mathlib.Algebra.BigOperators.Group.Finset.Basic
import Mathlib.Data.Finset.Sort
import Mathlib.Data.List.Sort
import Ps2Recomp.Scheduler.Basic

/-!
# The EE thread scheduler: public operations

One definition per public member of `EeThreadScheduler`, each returning what the C++ returns
together with the scheduler it leaves. A rejected call returns the scheduler it was given.

`snapshot` and `restore` are the save-state pair; `validate` is the check `restore` makes before
it installs a snapshot. `SchedulerOp` names one call with its arguments, `SchedulerOp.run` makes
it.
-/

namespace Ps2Recomp

namespace EeThreadScheduler

variable (s : EeThreadScheduler)

/-! ## Adding and starting threads -/

/-- `addDormantThread`. -/
def addDormantThread (threadId : Int) (generation : Nat) (priority : Int) :
    Bool × EeThreadScheduler :=
  match validPriority priority with
  | none => (false, s)
  | some p =>
    if !validThreadId threadId || generation == 0 || (s.thread? threadId).isSome then (false, s)
    else (true, s.setThread threadId { generation := generation, priority := p })

/-- `addRunningThread`. -/
def addRunningThread (threadId : Int) (generation : Nat) (priority : Int) :
    Bool × EeThreadScheduler :=
  if s.currentThreadId.isSome then (false, s)
  else
    match s.addDormantThread threadId generation priority with
    | (false, _) => (false, s)
    | (true, s') =>
      match s'.thread? threadId with
      | some thread =>
        (true, { s'.setThread threadId { thread with state := .Running } with
                  currentThreadId := some threadId })
      | none => (false, s)

/-- `startThread(EeSchedulerThreadHandle)`. -/
def startThread (handle : EeSchedulerThreadHandle) : Bool × EeThreadScheduler :=
  match s.findThread handle with
  | some thread =>
    if thread.state = .Dormant then (true, s.enqueueReady handle.id thread) else (false, s)
  | none => (false, s)

/-- `startThread(int)`. -/
def startThreadId (threadId : Int) : Bool × EeThreadScheduler :=
  match s.threadHandle threadId with
  | some handle => s.startThread handle
  | none => (false, s)

/-! ## Selecting, yielding and blocking -/

/-- `selectNextThread`. -/
def selectNextThread : Option Int × EeThreadScheduler :=
  match s.currentThreadId with
  | some threadId => (some threadId, s)
  | none => s.takeNextReady

/-- `yieldCurrentThread`. -/
def yieldCurrentThread : Option Int × EeThreadScheduler :=
  match s.currentThreadId with
  | none => s.selectNextThread
  | some threadId =>
    match s.thread? threadId with
    | none => (none, s)
    | some thread =>
      if thread.state = .Running then
        ({ s with currentThreadId := none }.enqueueReady threadId thread).takeNextReady
      else (none, s)

/-- The scheduler after the current thread, whose record is `thread`, joined the queue of `wait`
and stopped being the current one. -/
def enqueueWait (threadId : Int) (thread : ThreadRecord) (wait : EeSchedulerWaitKey) :
    EeThreadScheduler :=
  { s with
    threads := s.threads.insert threadId
      { thread with state := .Waiting, wait := wait, queueSequence := s.nextQueueSequence }
    waitQueues := s.waitQueues.insert wait (s.waitQueue wait ++ [⟨threadId, thread.generation⟩])
    nextQueueSequence := s.nextQueueSequence + 1
    currentThreadId := none }

/-- `blockCurrentThread`. -/
def blockCurrentThread (wait : EeSchedulerWaitKey) : Option Int × EeThreadScheduler :=
  match s.currentThreadId with
  | none => (none, s)
  | some threadId =>
    if !wait.valid then (none, s)
    else
      match s.thread? threadId with
      | none => (none, s)
      | some thread =>
        if thread.state ≠ .Running then (none, s)
        else if thread.completedWait.valid ∨ (wait.kind = .Sleep ∧ thread.wakeupCount ≠ 0) then
          (none, s)
        else (s.enqueueWait threadId thread wait).takeNextReady

/-- `sleepCurrentThread`. -/
def sleepCurrentThread : EeSchedulerSleepResult × EeThreadScheduler :=
  match s.currentThreadId with
  | none => ({}, s)
  | some threadId =>
    match s.thread? threadId with
    | none => ({}, s)
    | some thread =>
      if thread.state ≠ .Running ∨ thread.completedWait.valid then ({}, s)
      else if thread.wakeupCount ≠ 0 then
        (⟨.WakeupConsumed, some threadId⟩,
          s.setThread threadId { thread with wakeupCount := thread.wakeupCount - 1 })
      else
        let (selected, s') := s.blockCurrentThread sleepKey
        (⟨.Blocked, selected⟩, s')

/-! ## Completing waits -/

/-- Where a thread goes when its wait ends: Suspended while a suspension is outstanding, else the
ready queue. `thread` already carries the completion. -/
def publishWake (threadId : Int) (thread : ThreadRecord) : EeThreadScheduler :=
  if thread.suspendCount ≠ 0 then
    s.setThread threadId { thread with state := .Suspended, queueSequence := 0 }
  else s.enqueueReady threadId thread

/-- `wakeOne`. -/
def wakeOne (wait : EeSchedulerWaitKey) : Option Int × EeThreadScheduler :=
  if !wait.valid then (none, s)
  else
    match s.waitQueues.lookup wait with
    | none | some [] => (none, s)
    | some (handle :: rest) =>
      let s' := s.setWaitQueue wait rest
      match s'.findThread handle with
      | none => (none, s')
      | some thread =>
        if (thread.state = .Waiting ∨ thread.state = .WaitSuspended) ∧ thread.wait = wait then
          (some handle.id,
            s'.publishWake handle.id
              { thread with
                wait := {}
                completedWait := ⟨wait, .Satisfied⟩
                retainCompletedWaitReason := false })
        else (none, s')

/-- `releaseWaitThread`. -/
def releaseWaitThread (handle : EeSchedulerThreadHandle) (completion : EeSchedulerWaitCompletion)
    (retainReasonForStatus : Bool := false) : Bool × EeThreadScheduler :=
  match s.findThread handle with
  | none => (false, s)
  | some thread =>
    if completion = .None ∨ (thread.state ≠ .Waiting ∧ thread.state ≠ .WaitSuspended) ∨
        !thread.wait.valid then (false, s)
    else
      match s.removeWait handle thread.wait with
      | none => (false, s)
      | some s' =>
        (true,
          s'.publishWake handle.id
            { thread with
              wait := {}
              completedWait := ⟨thread.wait, completion⟩
              retainCompletedWaitReason := retainReasonForStatus })

/-- `wakeThread`. -/
def wakeThread (handle : EeSchedulerThreadHandle) : EeSchedulerWakeResult × EeThreadScheduler :=
  match s.findThread handle with
  | none => (.InvalidHandle, s)
  | some thread =>
    if thread.state = .Dormant then (.Dormant, s)
    else if (thread.state = .Waiting ∨ thread.state = .WaitSuspended) ∧ thread.wait = sleepKey then
      match s.releaseWaitThread handle .Satisfied with
      | (true, s') => (.WokeSleeper, s')
      | (false, s') => (.InvalidHandle, s')
    else if thread.wakeupCount = uint32Max then (.WakeupCountOverflow, s)
    else
      (.WakeupCounted,
        s.setThread handle.id { thread with wakeupCount := thread.wakeupCount + 1 })

/-- `cancelWakeups`. -/
def cancelWakeups (handle : EeSchedulerThreadHandle) : Option Nat × EeThreadScheduler :=
  match s.findThread handle with
  | none => (none, s)
  | some thread =>
    (some thread.wakeupCount, s.setThread handle.id { thread with wakeupCount := 0 })

/-- `consumeWaitCompletion`. -/
def consumeWaitCompletion (handle : EeSchedulerThreadHandle) :
    Option EeSchedulerCompletedWait × EeThreadScheduler :=
  match s.findThread handle with
  | none => (none, s)
  | some thread =>
    if thread.state ≠ .Running ∨ !thread.completedWait.valid then (none, s)
    else
      (some thread.completedWait,
        s.setThread handle.id
          { thread with completedWait := {}, retainCompletedWaitReason := false })

/-! ## Finishing, suspending and terminating -/

/-- `finishCurrentThread`. -/
def finishCurrentThread : Option Int × EeThreadScheduler :=
  match s.retireCurrentThread with
  | none => (none, s)
  | some s' => s'.takeNextReady

/-- `exitCurrentThread`. -/
def exitCurrentThread : Bool × EeThreadScheduler :=
  match s.retireCurrentThread with
  | none => (false, s)
  | some s' => (true, s'.takeNextReady.2)

/-- `suspendThread`. -/
def suspendThread (handle : EeSchedulerThreadHandle) : Bool × EeThreadScheduler :=
  match s.findThread handle with
  | none => (false, s)
  | some thread =>
    let counted := { thread with suspendCount := thread.suspendCount + 1 }
    if thread.suspendCount = uint32Max then (false, s)
    else
      match thread.state with
      | .Dormant => (false, s)
      | .Running =>
        if s.currentThreadId = some handle.id then
          (true,
            { s.setThread handle.id { counted with state := .Suspended } with
              currentThreadId := none }.takeNextReady.2)
        else (false, s)
      | .Ready =>
        match s.removeReady handle thread.priority with
        | none => (false, s)
        | some s' =>
          (true, s'.setThread handle.id { counted with state := .Suspended, queueSequence := 0 })
      | .Waiting => (true, s.setThread handle.id { counted with state := .WaitSuspended })
      | .Suspended | .WaitSuspended => (true, s.setThread handle.id counted)

/-- `resumeThread`. -/
def resumeThread (handle : EeSchedulerThreadHandle) : Bool × EeThreadScheduler :=
  match s.findThread handle with
  | none => (false, s)
  | some thread =>
    if thread.suspendCount = 0 ∨ (thread.state ≠ .Suspended ∧ thread.state ≠ .WaitSuspended) then
      (false, s)
    else
      let counted := { thread with suspendCount := thread.suspendCount - 1 }
      if counted.suspendCount ≠ 0 then (true, s.setThread handle.id counted)
      else if thread.state = .WaitSuspended then
        (true, s.setThread handle.id { counted with state := .Waiting })
      else (true, s.enqueueReady handle.id counted)

/-- The last lines of `terminateThread`: the record is retired in `s'`, where the handle is in no
queue any more, and a thread is selected if none is current. -/
def finishTermination (s' : EeThreadScheduler) (threadId : Int) (thread : ThreadRecord) :
    EeThreadScheduler :=
  let s'' := s'.setThread threadId (retired thread)
  if s''.currentThreadId.isSome then s'' else s''.takeNextReady.2

/-- `terminateThread`. -/
def terminateThread (handle : EeSchedulerThreadHandle) : Bool × EeThreadScheduler :=
  match s.findThread handle with
  | none => (false, s)
  | some thread =>
    match thread.state with
    | .Dormant => (false, s)
    | .Running =>
      if s.currentThreadId = some handle.id then
        (true, finishTermination { s with currentThreadId := none } handle.id thread)
      else (false, s)
    | .Ready =>
      match s.removeReady handle thread.priority with
      | none => (false, s)
      | some s' => (true, finishTermination s' handle.id thread)
    | .Waiting | .WaitSuspended =>
      match s.removeWait handle thread.wait with
      | none => (false, s)
      | some s' => (true, finishTermination s' handle.id thread)
    | .Suspended => (true, finishTermination s handle.id thread)

/-- `deleteThread`. -/
def deleteThread (handle : EeSchedulerThreadHandle) : Bool × EeThreadScheduler :=
  match s.findThread handle with
  | none => (false, s)
  | some thread =>
    if thread.state = .Dormant then (true, { s with threads := s.threads.erase handle.id })
    else (false, s)

/-! ## Priorities and rescheduling -/

/-- `changeThreadPriority`. -/
def changeThreadPriority (handle : EeSchedulerThreadHandle) (priority : Int) :
    Option Priority × EeThreadScheduler :=
  match s.findThread handle, validPriority priority with
  | some thread, some p =>
    if thread.state = .Dormant then (none, s)
    else if thread.priority = p then (some p, s)
    else if thread.state = .Ready then
      match s.removeReady handle thread.priority with
      | none => (none, s)
      | some s' => (some thread.priority, s'.enqueueReady handle.id { thread with priority := p })
    else (some thread.priority, s.setThread handle.id { thread with priority := p })
  | _, _ => (none, s)

/-- `rotateReadyQueue`. -/
def rotateReadyQueue (priority : Int) : Bool × EeThreadScheduler :=
  match validPriority priority with
  | none => (false, s)
  | some p =>
    match s.readyQueues p with
    | [] | [_] => (true, s)
    | handle :: rest =>
      match s.findThread handle with
      | none => (false, s)
      | some thread =>
        if thread.state = .Ready ∧ thread.priority = p then
          (true,
            { s with
              threads := s.threads.insert handle.id
                { thread with queueSequence := s.nextQueueSequence }
              readyQueues := Function.update s.readyQueues p (rest ++ [handle])
              nextQueueSequence := s.nextQueueSequence + 1 })
        else (false, s)

/-- Whether `reschedule` preempts a current thread of priority `current` for a ready one of
priority `ready`. -/
def shouldPreempt (policy : EeSchedulerReschedulePolicy) (ready current : Priority) : Bool :=
  match policy with
  | .None => false
  | .HigherPriorityOnly => ready < current
  | .EqualOrHigherPriority => ready < current || ready == current

/-- `reschedule`. -/
def reschedule (policy : EeSchedulerReschedulePolicy) : Option Int × EeThreadScheduler :=
  match s.currentThreadId with
  | none => s.takeNextReady
  | some threadId =>
    match s.thread? threadId with
    | none => (none, s)
    | some thread =>
      if thread.state ≠ .Running then (none, s)
      else
        match s.highestReadyPriority with
        | none => (some threadId, s)
        | some readyPriority =>
          if shouldPreempt policy readyPriority thread.priority then
            ({ s with currentThreadId := none }.enqueueReady threadId thread).takeNextReady
          else (some threadId, s)

/-! ## Observers -/

/-- One entry of `snapshot`, and what `thread` returns. -/
def snapshotOf (threadId : Int) (thread : ThreadRecord) : EeSchedulerThreadSnapshot :=
  { id := threadId
    generation := thread.generation
    priority := thread.priority.val
    state := thread.state
    wait := thread.wait
    completedWait := thread.completedWait
    retainCompletedWaitReason := thread.retainCompletedWaitReason
    wakeupCount := thread.wakeupCount
    suspendCount := thread.suspendCount
    queueSequence := thread.queueSequence }

/-- `thread`. -/
def thread (threadId : Int) : Option EeSchedulerThreadSnapshot :=
  (s.thread? threadId).map (snapshotOf threadId)

/-- `waitOrder`. -/
def waitOrder (wait : EeSchedulerWaitKey) : List Int :=
  (s.waitQueue wait).map (·.id)

instance threadIds_trans : IsTrans Int (· ≤ ·) := ⟨fun _ _ _ => Int.le_trans⟩

instance threadIds_antisymm : @Std.Antisymm Int (· ≤ ·) := ⟨fun _ _ => Int.le_antisymm⟩

instance threadIds_total : @Std.Total Int (· ≤ ·) := ⟨Int.le_total⟩

/-- `snapshot`: the records in id order. -/
def snapshot : EeThreadSchedulerSnapshot :=
  { threads := (s.threads.keys.sort (· ≤ ·)).filterMap s.thread
    currentThreadId := s.currentThreadId
    nextQueueSequence := s.nextQueueSequence
    canonicalTick := s.canonicalTick }

/-! ## `validate` -/

/-- How often an id occurs in the ready queues (`readyMembership`). -/
def readyMembership (threadId : Int) : Nat :=
  ∑ p : Priority, (s.readyQueues p).countP (·.id = threadId)

/-- How often an id occurs in the wait queues (`waitMembership`). -/
def waitMembership (threadId : Int) : Nat :=
  ∑ wait ∈ s.waitQueues.keys, (s.waitQueue wait).countP (·.id = threadId)

/-- The check of one handle in the ready queue of `p`. -/
def validReadyHandle (p : Priority) (handle : EeSchedulerThreadHandle) : Bool :=
  match s.thread? handle.id with
  | some thread =>
    thread.generation == handle.generation && thread.state == .Ready && thread.priority == p
  | none => false

/-- The check of one handle in the queue of `wait`. -/
def validWaitHandle (wait : EeSchedulerWaitKey) (handle : EeSchedulerThreadHandle) : Bool :=
  match s.thread? handle.id with
  | some thread =>
    thread.generation == handle.generation &&
      (thread.state == .Waiting || thread.state == .WaitSuspended) && thread.wait == wait
  | none => false

/-- The check of a record's completion fields. -/
def validCompletion (thread : ThreadRecord) : Bool :=
  let noCompletedWait := thread.completedWait.completion == .None
  !(noCompletedWait == thread.completedWait.wait.valid) &&
    !(thread.retainCompletedWaitReason && noCompletedWait)

/-- The check of a record against its state and its two membership counts. -/
def validState (threadId : Int) (thread : ThreadRecord) : Bool :=
  let readyCount := s.readyMembership threadId
  let waitCount := s.waitMembership threadId
  let noCompletedWait := thread.completedWait.completion == .None
  let wakeupsFit := !(thread.wait.kind == .Sleep && thread.wakeupCount != 0)
  match thread.state with
  | .Dormant =>
    readyCount == 0 && waitCount == 0 && !thread.wait.valid && noCompletedWait &&
      !thread.retainCompletedWaitReason && thread.wakeupCount == 0 && thread.suspendCount == 0 &&
      thread.queueSequence == 0
  | .Ready =>
    readyCount == 1 && waitCount == 0 && !thread.wait.valid && thread.suspendCount == 0 &&
      thread.queueSequence != 0
  | .Running =>
    s.currentThreadId == some threadId && readyCount == 0 && waitCount == 0 &&
      !thread.wait.valid && !thread.retainCompletedWaitReason && thread.suspendCount == 0 &&
      thread.queueSequence == 0
  | .Waiting =>
    readyCount == 0 && waitCount == 1 && thread.wait.valid && noCompletedWait &&
      !thread.retainCompletedWaitReason && wakeupsFit && thread.suspendCount == 0 &&
      thread.queueSequence != 0
  | .Suspended =>
    readyCount == 0 && waitCount == 0 && !thread.wait.valid && thread.suspendCount != 0 &&
      thread.queueSequence == 0
  | .WaitSuspended =>
    readyCount == 0 && waitCount == 1 && thread.wait.valid && noCompletedWait &&
      !thread.retainCompletedWaitReason && wakeupsFit && thread.suspendCount != 0 &&
      thread.queueSequence != 0

/-- The number of Running records (`runningCount`). -/
def runningCount : Nat :=
  (s.threads.keys.filter fun id => (s.thread? id).any (·.state == .Running)).card

/-- `validate`. -/
def validate : Bool :=
  ((List.finRange kEeThreadPriorityCount).all fun p =>
      (s.readyQueues p).all (s.validReadyHandle p)) &&
    decide (∀ wait ∈ s.waitQueues.keys, (wait.valid && !(s.waitQueue wait).isEmpty &&
      (s.waitQueue wait).all (s.validWaitHandle wait)) = true) &&
    decide (∀ id ∈ s.threads.keys,
      ((s.thread? id).all fun thread => validCompletion thread && s.validState id thread) = true) &&
    s.runningCount == (if s.currentThreadId.isSome then 1 else 0)

/-! ## `restore` -/

/-- The record a snapshot entry stands for, if the entry passes the checks `restore` makes of it
alone. -/
def recordOf (source : EeSchedulerThreadSnapshot) : Option ThreadRecord :=
  match validPriority source.priority with
  | none => none
  | some p =>
    if !validThreadId source.id || source.generation == 0 then none
    else
      some
        { generation := source.generation
          priority := p
          state := source.state
          wait := source.wait
          completedWait := source.completedWait
          retainCompletedWaitReason := source.retainCompletedWaitReason
          wakeupCount := source.wakeupCount
          suspendCount := source.suspendCount
          queueSequence := source.queueSequence }

/-- The first loop of `restore`: the records, rejecting a repeated id. -/
def restoreThreads (candidate : EeThreadScheduler) :
    List EeSchedulerThreadSnapshot → Option EeThreadScheduler
  | [] => some candidate
  | source :: rest =>
    match recordOf source with
    | none => none
    | some thread =>
      if (candidate.thread? source.id).isSome then none
      else restoreThreads (candidate.setThread source.id thread) rest

/-- The second loop of `restore`: the queued entries in sequence order. -/
def restoreQueues (candidate : EeThreadScheduler) (previousSequence : QueueSequence) :
    List EeSchedulerThreadSnapshot → Option EeThreadScheduler
  | [] => some candidate
  | source :: rest =>
    if source.queueSequence = previousSequence then none
    else
      let handle : EeSchedulerThreadHandle := ⟨source.id, source.generation⟩
      match source.state with
      | .Ready =>
        match validPriority source.priority with
        | none => none
        | some p =>
          restoreQueues
            { candidate with
              readyQueues :=
                Function.update candidate.readyQueues p (candidate.readyQueues p ++ [handle]) }
            source.queueSequence rest
      | .Waiting | .WaitSuspended =>
        restoreQueues
          { candidate with
            waitQueues := candidate.waitQueues.insert source.wait
              (candidate.waitQueue source.wait ++ [handle]) }
          source.queueSequence rest
      | _ => none

/-- The entries with a queue sequence, in the order of `std::sort` by it. -/
def queuedBySequence (threads : List EeSchedulerThreadSnapshot) :
    List EeSchedulerThreadSnapshot :=
  (threads.filter (·.queueSequence != 0)).insertionSort
    (fun left right => left.queueSequence ≤ right.queueSequence)

/-- `maximumQueueSequence`. -/
def maximumQueueSequence (threads : List EeSchedulerThreadSnapshot) : QueueSequence :=
  threads.foldl (fun maximum source => max maximum source.queueSequence) 0

/-- The `candidate` of `restore`, if every check passes. -/
def restoreCandidate (state : EeThreadSchedulerSnapshot) : Option EeThreadScheduler :=
  match restoreThreads
      { nextQueueSequence := state.nextQueueSequence
        canonicalTick := state.canonicalTick
        currentThreadId := state.currentThreadId } state.threads with
  | none => none
  | some candidate =>
    if state.nextQueueSequence = 0 ∨
        state.nextQueueSequence ≤ maximumQueueSequence state.threads then none
    else
      match restoreQueues candidate 0 (queuedBySequence state.threads) with
      | none => none
      | some candidate => if candidate.validate then some candidate else none

/-- `restore`. -/
def restore (state : EeThreadSchedulerSnapshot) : Bool × EeThreadScheduler :=
  match restoreCandidate state with
  | some candidate => (true, candidate)
  | none => (false, s)

end EeThreadScheduler

/-! ## Calls -/

/-- A call of a public operation. -/
inductive SchedulerOp where
  | addDormantThread (threadId : Int) (generation : Nat) (priority : Int)
  | addRunningThread (threadId : Int) (generation : Nat) (priority : Int)
  | startThread (handle : EeSchedulerThreadHandle)
  | startThreadId (threadId : Int)
  | selectNextThread
  | yieldCurrentThread
  | blockCurrentThread (wait : EeSchedulerWaitKey)
  | sleepCurrentThread
  | wakeOne (wait : EeSchedulerWaitKey)
  | wakeThread (handle : EeSchedulerThreadHandle)
  | cancelWakeups (handle : EeSchedulerThreadHandle)
  | releaseWaitThread (handle : EeSchedulerThreadHandle) (completion : EeSchedulerWaitCompletion)
      (retainReasonForStatus : Bool)
  | consumeWaitCompletion (handle : EeSchedulerThreadHandle)
  | finishCurrentThread
  | suspendThread (handle : EeSchedulerThreadHandle)
  | resumeThread (handle : EeSchedulerThreadHandle)
  | terminateThread (handle : EeSchedulerThreadHandle)
  | exitCurrentThread
  | deleteThread (handle : EeSchedulerThreadHandle)
  | changeThreadPriority (handle : EeSchedulerThreadHandle) (priority : Int)
  | rotateReadyQueue (priority : Int)
  | reschedule (policy : EeSchedulerReschedulePolicy)
  | publishCanonicalTick (tick : Nat)
  | restore (state : EeThreadSchedulerSnapshot)
  deriving DecidableEq, Repr

/-- The scheduler after a call. -/
def SchedulerOp.run (s : EeThreadScheduler) : SchedulerOp → EeThreadScheduler
  | .addDormantThread i g p => (s.addDormantThread i g p).2
  | .addRunningThread i g p => (s.addRunningThread i g p).2
  | .startThread h => (s.startThread h).2
  | .startThreadId i => (s.startThreadId i).2
  | .selectNextThread => s.selectNextThread.2
  | .yieldCurrentThread => s.yieldCurrentThread.2
  | .blockCurrentThread k => (s.blockCurrentThread k).2
  | .sleepCurrentThread => s.sleepCurrentThread.2
  | .wakeOne k => (s.wakeOne k).2
  | .wakeThread h => (s.wakeThread h).2
  | .cancelWakeups h => (s.cancelWakeups h).2
  | .releaseWaitThread h c r => (s.releaseWaitThread h c r).2
  | .consumeWaitCompletion h => (s.consumeWaitCompletion h).2
  | .finishCurrentThread => s.finishCurrentThread.2
  | .suspendThread h => (s.suspendThread h).2
  | .resumeThread h => (s.resumeThread h).2
  | .terminateThread h => (s.terminateThread h).2
  | .exitCurrentThread => s.exitCurrentThread.2
  | .deleteThread h => (s.deleteThread h).2
  | .changeThreadPriority h p => (s.changeThreadPriority h p).2
  | .rotateReadyQueue p => (s.rotateReadyQueue p).2
  | .reschedule policy => (s.reschedule policy).2
  | .publishCanonicalTick tick => s.publishCanonicalTick tick
  | .restore state => (s.restore state).2

end Ps2Recomp
