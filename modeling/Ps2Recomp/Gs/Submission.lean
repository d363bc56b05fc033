import Mathlib.Data.Nat.Notation
import Ps2Recomp.Lib.Machine
import Ps2Recomp.Timing

/-!
# Submissions to the threaded GS executor, one atomic step at a time (`ps2_gs_command_stream.cpp`)

`submitAsync`, `workerMain` and `shutdown` are cut at their accesses to what another thread may
touch: the loads and stores of the flags, the additions to `m_queuedPayloadBytes`, `m_workSignals`
and `m_spaceEpoch`, the notifications, the operations of the queue. `m_submitMutex` is held from the
first step of a submission to its last, so the calls that wait for it need no state; a section under
`m_stateMutex` is one step. `atomic::wait` compares and may then sleep; a sleeper is woken by a
notification or for no reason, and compares again.

The queue is its list: its own accesses are in `Queue/SpscQueue.lean`. Of an item there is the
number of the call that made it, which stands for its promise, and its size. Whether the processor
or a hook throws is an input.
-/

namespace Ps2Recomp

inductive GsExecutorShutdownMode where
  | Drain
  | Cancel
  deriving DecidableEq, Repr

/-- What a completion is set to. -/
inductive GsCompletion where
  | value
  | exception
  deriving DecidableEq, Repr

/-- `WorkItem`: its promise, named after the call, and its size. -/
structure GsQueuedItem where
  promise : ℕ
  payloadBytes : ℕ
  deriving DecidableEq, Repr

/-- What makes the program terminate. -/
inductive GsTermination where
  | workSignals
  | spaceEpoch
  | payloadBytes
  deriving DecidableEq, Repr

/-- The next step of the submission that holds `m_submitMutex`. -/
inductive GsSubmitting where
  | entered
  | assertHotProducerThread
  | ensureStarted
  | prepare
  | loadAccepting
  | loadSpaceEpoch
  | testFull (spaceEpoch : ℕ)
  | loadPayload (spaceEpoch : ℕ)
  | reserve (spaceEpoch : ℕ)
  | emplace (spaceEpoch : ℕ)
  | unreserve (spaceEpoch : ℕ)
  | recheckAccepting (spaceEpoch : ℕ)
  | wait (spaceEpoch : ℕ)
  | asleep (spaceEpoch : ℕ)
  | signalWork
  | notifyWork
  | unlock
  deriving DecidableEq, Repr

/-- What the worker does once it has told the producers that there is space, or that there will be
none. -/
inductive GsAfterSpace where
  | beforeProcess (item : GsQueuedItem)
  | acquire
  | cancelQueued
  | quiesce (item : GsQueuedItem)
  | exited
  deriving DecidableEq, Repr

/-- The next step of the worker. -/
inductive GsWorker where
  | notStarted
  | acquire
  | wait
  | asleep
  | testCancel
  | pop
  | testDrain
  | beforeProcess (item : GsQueuedItem)
  | testCancelAgain (item : GsQueuedItem)
  | process (item : GsQueuedItem)
  | setValue (item : GsQueuedItem)
  | setException (item : GsQueuedItem) (failed : Bool)
  | recordFatalFailure (item : GsQueuedItem)
  | closeAdmission (item : GsQueuedItem)
  | quiesce (item : GsQueuedItem)
  | requestCancel (item : GsQueuedItem)
  | signalWork (item : GsQueuedItem)
  | notifyWork (item : GsQueuedItem)
  | release (item : GsQueuedItem) (cancelling : Bool)
  | signalSpace (next : GsAfterSpace)
  | notifySpace (next : GsAfterSpace)
  | cancelQueued
  | exit
  | exited
  deriving DecidableEq, Repr

/-- The next step of the shutdown that holds `m_shutdownMutex`. -/
inductive GsShuttingDown where
  | closeAdmission
  | signalSpace
  | notifySpace
  | quiesce
  | request
  | signalWork
  | notifyWork
  | join
  deriving DecidableEq, Repr

/-- The executor with its threads. `calls`, `returned`, `thrown` and `settled` are the history: how
many submissions began, which have returned or thrown, and which promises were set, in order. -/
structure GsSubmissionSystem where
  queueCapacity : ℕ
  payloadCapacityBytes : ℕ
  queue : List GsQueuedItem := []
  queuedPayloadBytes : ℕ := 0
  workSignals : ℕ := 0
  spaceEpoch : ℕ := 0
  accepting : Bool := true
  drainRequested : Bool := false
  cancelRequested : Bool := false
  fatalFailure : Bool := false
  workerExited : Bool := false
  submission : Option (GsQueuedItem × GsSubmitting) := none
  worker : GsWorker := .notStarted
  stopping : Option (GsExecutorShutdownMode × GsShuttingDown) := none
  terminated : Option GsTermination := none
  calls : ℕ := 0
  returned : List ℕ := []
  thrown : List ℕ := []
  settled : List (ℕ × GsCompletion) := []
  deriving DecidableEq, Repr

namespace GsSubmissionSystem

/-- The constructor. -/
def create (queueCapacity payloadCapacityBytes : ℕ) : GsSubmissionSystem where
  queueCapacity := queueCapacity
  payloadCapacityBytes := payloadCapacityBytes

/-! ## Signals -/

/-- The addition of `signalWorkAvailable` and what comes `next`; a counter at its end terminates the
program. -/
def signalWork (s : GsSubmissionSystem) (next : GsSubmissionSystem → GsSubmissionSystem) :
    GsSubmissionSystem :=
  if s.workSignals = uint64Max.val then { s with terminated := some .workSignals }
  else next { s with workSignals := s.workSignals + 1 }

/-- `m_workSignals.notify_one()`: only the worker waits for it. -/
def notifyWork (s : GsSubmissionSystem) : GsSubmissionSystem :=
  if s.worker = .asleep then { s with worker := .wait } else s

/-- The addition of `signalSpaceAvailable`. -/
def signalSpace (s : GsSubmissionSystem) (next : GsSubmissionSystem → GsSubmissionSystem) :
    GsSubmissionSystem :=
  if s.spaceEpoch = uint64Max.val then { s with terminated := some .spaceEpoch }
  else next { s with spaceEpoch := s.spaceEpoch + 1 }

/-- `m_spaceEpoch.notify_all()`: only the holder of the mutex waits for it. -/
def notifySpace (s : GsSubmissionSystem) : GsSubmissionSystem :=
  match s.submission with
  | some (item, .asleep spaceEpoch) => { s with submission := some (item, .wait spaceEpoch) }
  | _ => s

/-- The subtraction of `releasePayload`, which terminates the program if it underflows. -/
def release (s : GsSubmissionSystem) (item : GsQueuedItem)
    (next : GsSubmissionSystem → GsSubmissionSystem) : GsSubmissionSystem :=
  if s.queuedPayloadBytes < item.payloadBytes then { s with terminated := some .payloadBytes }
  else next { s with queuedPayloadBytes := s.queuedPayloadBytes - item.payloadBytes }

/-! ## The producers -/

/-- A call of `submitAsync` takes the mutex; while another call holds it nothing happens. -/
def submit (s : GsSubmissionSystem) (payloadBytes : ℕ) : GsSubmissionSystem :=
  match s.submission with
  | some _ => s
  | none =>
    { s with
      submission := some (⟨s.calls, payloadBytes⟩, .entered)
      calls := s.calls + 1 }

def submitGoes (s : GsSubmissionSystem) (item : GsQueuedItem) (next : GsSubmitting) :
    GsSubmissionSystem := { s with submission := some (item, next) }

/-- `submitAsync` throws, and the mutex is released. -/
def submitThrows (s : GsSubmissionSystem) (item : GsQueuedItem) : GsSubmissionSystem :=
  { s with submission := none, thrown := s.thrown ++ [item.promise] }

/-- `m_queue.full()` of `tryEnqueue`. -/
def full (s : GsSubmissionSystem) : Bool := s.queueCapacity ≤ s.queue.length

/-- The payload test of `tryEnqueue`. -/
def payloadExceeds (s : GsSubmissionSystem) (item : GsQueuedItem) : Bool :=
  s.payloadCapacityBytes - min s.queuedPayloadBytes s.payloadCapacityBytes < item.payloadBytes

/-- The next step of `submitAsync`. `fails` is whether the thread is the wrong one, the creation of
the worker fails, or one of the numbers is exhausted, at the steps that ask. -/
def submitStep (s : GsSubmissionSystem) (fails : Bool) : GsSubmissionSystem :=
  match s.submission with
  | none => s
  | some (item, .entered) =>
    if s.accepting then s.submitGoes item .assertHotProducerThread else s.submitThrows item
  | some (item, .assertHotProducerThread) =>
    if fails then s.submitThrows item else s.submitGoes item .ensureStarted
  | some (item, .ensureStarted) =>
    if s.worker ≠ .notStarted then s.submitGoes item .prepare
    else if !s.accepting then s.submitThrows item
    else if fails then
      { s with fatalFailure := true, accepting := false }.submitThrows item
    else { s with worker := .acquire }.submitGoes item .prepare
  | some (item, .prepare) =>
    if fails ∨ s.payloadCapacityBytes < item.payloadBytes then s.submitThrows item
    else s.submitGoes item .loadAccepting
  | some (item, .loadAccepting) =>
    if s.accepting then s.submitGoes item .loadSpaceEpoch else s.submitThrows item
  | some (item, .loadSpaceEpoch) => s.submitGoes item (.testFull s.spaceEpoch)
  | some (item, .testFull spaceEpoch) =>
    s.submitGoes item (if s.full then .recheckAccepting spaceEpoch else .loadPayload spaceEpoch)
  | some (item, .loadPayload spaceEpoch) =>
    s.submitGoes item
      (if s.payloadExceeds item then .recheckAccepting spaceEpoch else .reserve spaceEpoch)
  | some (item, .reserve spaceEpoch) =>
    { s with queuedPayloadBytes := s.queuedPayloadBytes + item.payloadBytes }.submitGoes item
      (.emplace spaceEpoch)
  | some (item, .emplace spaceEpoch) =>
    if s.full then s.submitGoes item (.unreserve spaceEpoch)
    else { s with queue := s.queue ++ [item] }.submitGoes item .signalWork
  | some (item, .unreserve spaceEpoch) =>
    { s with queuedPayloadBytes := s.queuedPayloadBytes - item.payloadBytes }.submitGoes item
      (.recheckAccepting spaceEpoch)
  | some (item, .recheckAccepting spaceEpoch) =>
    if s.accepting then s.submitGoes item (.wait spaceEpoch) else s.submitThrows item
  | some (item, .wait spaceEpoch) =>
    s.submitGoes item (if s.spaceEpoch = spaceEpoch then .asleep spaceEpoch else .loadAccepting)
  | some (_, .asleep _) => s
  | some (item, .signalWork) => s.signalWork (·.submitGoes item .notifyWork)
  | some (item, .notifyWork) => s.notifyWork.submitGoes item .unlock
  | some (item, .unlock) =>
    { s with submission := none, returned := s.returned ++ [item.promise] }

/-! ## The worker -/

def workerGoes (s : GsSubmissionSystem) (next : GsWorker) : GsSubmissionSystem :=
  { s with worker := next }

def settle (s : GsSubmissionSystem) (item : GsQueuedItem) (completion : GsCompletion) :
    GsSubmissionSystem := { s with settled := s.settled ++ [(item.promise, completion)] }

/-- The step after the producers have been told. -/
def GsAfterSpace.worker : GsAfterSpace → GsWorker
  | .beforeProcess item => .beforeProcess item
  | .acquire => .acquire
  | .cancelQueued => .cancelQueued
  | .quiesce item => .quiesce item
  | .exited => .exited

/-- The next step of `workerMain`. `throws` is whether the hook or the processing throws, at the
steps that run them. -/
def workerStep (s : GsSubmissionSystem) (throws : Bool) : GsSubmissionSystem :=
  match s.worker with
  | .notStarted | .asleep | .exited => s
  | .acquire =>
    if s.workSignals = 0 then s.workerGoes .wait
    else { s with workSignals := s.workSignals - 1 }.workerGoes .testCancel
  | .wait => s.workerGoes (if s.workSignals = 0 then .asleep else .acquire)
  | .testCancel => s.workerGoes (if s.cancelRequested then .cancelQueued else .pop)
  | .pop =>
    match s.queue with
    | [] => s.workerGoes .testDrain
    | item :: rest => { s with queue := rest }.workerGoes (.signalSpace (.beforeProcess item))
  | .testDrain => s.workerGoes (if s.drainRequested then .exit else .acquire)
  | .beforeProcess item =>
    s.workerGoes (if throws then .setException item true else .testCancelAgain item)
  | .testCancelAgain item =>
    s.workerGoes (if s.cancelRequested then .setException item false else .process item)
  | .process item => s.workerGoes (if throws then .setException item true else .setValue item)
  | .setValue item => (s.settle item .value).workerGoes (.release item false)
  | .setException item failed =>
    (s.settle item .exception).workerGoes
      (if failed then .recordFatalFailure item else .release item true)
  | .recordFatalFailure item => { s with fatalFailure := true }.workerGoes (.closeAdmission item)
  | .closeAdmission item =>
    { s with accepting := false }.workerGoes (.signalSpace (.quiesce item))
  | .quiesce item => if s.submission.isSome then s else s.workerGoes (.requestCancel item)
  | .requestCancel item => { s with cancelRequested := true }.workerGoes (.signalWork item)
  | .signalWork item => s.signalWork (·.workerGoes (.notifyWork item))
  | .notifyWork item => s.notifyWork.workerGoes (.release item true)
  | .release item cancelling =>
    s.release item (·.workerGoes (.signalSpace (if cancelling then .cancelQueued else .acquire)))
  | .signalSpace next => s.signalSpace (·.workerGoes (.notifySpace next))
  | .notifySpace next => s.notifySpace.workerGoes (GsAfterSpace.worker next)
  | .cancelQueued =>
    match s.queue with
    | [] => s.workerGoes .exit
    | item :: rest => { s with queue := rest }.workerGoes (.setException item false)
  | .exit => { s with workerExited := true }.workerGoes (.signalSpace .exited)

/-! ## Shutdown -/

/-- A call of `shutdown`, or the destructor, takes `m_shutdownMutex`. -/
def shutdown (s : GsSubmissionSystem) (mode : GsExecutorShutdownMode) : GsSubmissionSystem :=
  if s.stopping.isSome then s else { s with stopping := some (mode, .closeAdmission) }

def shutdownGoes (s : GsSubmissionSystem) (mode : GsExecutorShutdownMode) (next : GsShuttingDown) :
    GsSubmissionSystem := { s with stopping := some (mode, next) }

/-- The section of `shutdown` under `m_stateMutex`. -/
def requestStop (s : GsSubmissionSystem) (mode : GsExecutorShutdownMode) : GsSubmissionSystem :=
  { s with
    cancelRequested := s.cancelRequested || mode = .Cancel
    drainRequested := s.drainRequested || mode = .Drain
    workerExited := s.workerExited || s.worker = .notStarted }

/-- The next step of `shutdown`. -/
def shutdownStep (s : GsSubmissionSystem) : GsSubmissionSystem :=
  match s.stopping with
  | none => s
  | some (mode, .closeAdmission) => { s with accepting := false }.shutdownGoes mode .signalSpace
  | some (mode, .signalSpace) => s.signalSpace (·.shutdownGoes mode .notifySpace)
  | some (mode, .notifySpace) => s.notifySpace.shutdownGoes mode .quiesce
  | some (mode, .quiesce) => if s.submission.isSome then s else s.shutdownGoes mode .request
  | some (mode, .request) => (s.requestStop mode).shutdownGoes mode .signalWork
  | some (mode, .signalWork) => s.signalWork (·.shutdownGoes mode .notifyWork)
  | some (mode, .notifyWork) => s.notifyWork.shutdownGoes mode .join
  | some (_, .join) =>
    -- a thread that was never started is not joinable
    if s.worker = .notStarted ∨ s.worker = .exited then { s with stopping := none } else s

end GsSubmissionSystem

/-! ## Runs -/

/-- Which thread goes on; the last two are wake-ups without a notification. -/
inductive GsSubmissionInput where
  | submit (payloadBytes : ℕ)
  | submitStep (fails : Bool)
  | workerStep (throws : Bool)
  | shutdown (mode : GsExecutorShutdownMode)
  | shutdownStep
  | wakeProducer
  | wakeWorker
  deriving DecidableEq, Repr

/-- One step; a terminated program makes none. -/
def GsSubmissionSystem.step (s : GsSubmissionSystem) : GsSubmissionInput → GsSubmissionSystem
  | input =>
    if s.terminated.isSome then s
    else
      match input with
      | .submit payloadBytes => s.submit payloadBytes
      | .submitStep fails => s.submitStep fails
      | .workerStep throws => s.workerStep throws
      | .shutdown mode => s.shutdown mode
      | .shutdownStep => s.shutdownStep
      | .wakeProducer => s.notifySpace
      | .wakeWorker => s.notifyWork

end Ps2Recomp
