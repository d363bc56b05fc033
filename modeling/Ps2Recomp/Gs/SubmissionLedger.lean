import Mathlib.Algebra.BigOperators.Group.List.Basic
import Mathlib.Data.List.Perm.Basic
import Mathlib.Data.List.Range
import Ps2Recomp.Gs.Submission

/-!
# What becomes of a submission and of its bytes

`Ledger`: the promises of the submissions that have returned, or are about to, are in the order of
the queue those that have been set, the one the worker has taken, and those that are queued; each
call so far has returned, has thrown or is under way, and only one of these. `Payload`: the counter
of the payload bytes is the sum over what is queued, what the worker has not released, and what the
producer adds before it queues its item; what `tryEnqueue` has tested stays true until the item is
queued, because only the worker acts meanwhile (`Admits.mono`).
-/

namespace Ps2Recomp

/-! ## What the threads hold -/

namespace GsSubmitting

/-- The item has been queued. -/
def queued : GsSubmitting → Bool
  | .signalWork | .notifyWork | .unlock => true
  | _ => false

/-- The bytes of the item have been added, and it is not in the queue. -/
def reserved : GsSubmitting → Bool
  | .emplace _ | .unreserve _ => true
  | _ => false

end GsSubmitting

namespace GsWorker

/-- The promise of what has been taken out of the queue and not answered yet. -/
def unsettled : GsWorker → List ℕ
  | .beforeProcess item | .testCancelAgain item | .process item | .setValue item
  | .setException item _ | .signalSpace (.beforeProcess item)
  | .notifySpace (.beforeProcess item) => [item.promise]
  | _ => []

/-- The size of what has been taken out of the queue and not released yet. -/
def unreleased : GsWorker → ℕ
  | .beforeProcess item | .testCancelAgain item | .process item | .setValue item
  | .setException item _ | .recordFatalFailure item | .closeAdmission item | .quiesce item
  | .requestCancel item | .signalWork item | .notifyWork item | .release item _
  | .signalSpace (.beforeProcess item) | .notifySpace (.beforeProcess item)
  | .signalSpace (.quiesce item) | .notifySpace (.quiesce item) => item.payloadBytes
  | _ => 0

end GsWorker

namespace GsSubmissionSystem

variable {s : GsSubmissionSystem} {item : GsQueuedItem}

/-- The promise of the submission that has queued its item and not returned. -/
def inFlight : Option (GsQueuedItem × GsSubmitting) → List ℕ
  | some (item, pc) => if pc.queued then [item.promise] else []
  | none => []

/-- The promise of the submission that has neither returned nor thrown. -/
def underWay : Option (GsQueuedItem × GsSubmitting) → List ℕ
  | some (item, _) => [item.promise]
  | none => []

/-- The bytes that are added before their item is queued. -/
def reservedBytes : Option (GsQueuedItem × GsSubmitting) → ℕ
  | some (item, pc) => if pc.reserved then item.payloadBytes else 0
  | none => 0

/-- `ensureStarted` has not been passed. -/
def early : Option (GsQueuedItem × GsSubmitting) → Prop
  | none | some (_, .entered) | some (_, .assertHotProducerThread)
  | some (_, .ensureStarted) => True
  | _ => False

@[simp] theorem inFlight_none : inFlight none = [] := rfl

@[simp] theorem inFlight_some (pc : GsSubmitting) :
    inFlight (some (item, pc)) = if pc.queued then [item.promise] else [] := rfl

@[simp] theorem underWay_none : underWay none = [] := rfl

@[simp] theorem underWay_some (pc : GsSubmitting) :
    underWay (some (item, pc)) = [item.promise] := rfl

@[simp] theorem reservedBytes_none : reservedBytes none = 0 := rfl

@[simp] theorem reservedBytes_some (pc : GsSubmitting) :
    reservedBytes (some (item, pc)) = if pc.reserved then item.payloadBytes else 0 := rfl

attribute [simp] GsSubmitting.queued GsSubmitting.reserved submitGoes submitThrows
  workerGoes shutdownGoes settle requestStop

/-! ## The ledger -/

structure Ledger (s : GsSubmissionSystem) : Prop where
  order : s.returned ++ inFlight s.submission =
    s.settled.map Prod.fst ++ s.worker.unsettled ++ s.queue.map GsQueuedItem.promise
  calls : (s.returned ++ s.thrown ++ underWay s.submission).Perm (List.range s.calls)
  unstarted : s.worker = .notStarted → s.queue = [] ∧ s.settled = []
  started : s.worker = .notStarted → early s.submission

theorem Ledger.create (queueCapacity payloadCapacityBytes : ℕ) :
    (GsSubmissionSystem.create queueCapacity payloadCapacityBytes).Ledger :=
  ⟨rfl, List.Perm.refl _, fun _ => ⟨rfl, rfl⟩, fun _ => trivial⟩

theorem Ledger.submit (h : s.Ledger) (payloadBytes : ℕ) : (s.submit payloadBytes).Ledger := by
  unfold GsSubmissionSystem.submit
  split
  · exact h
  · rename_i hnone
    obtain ⟨order, calls, unstarted, started⟩ := h
    rw [hnone] at order calls
    refine ⟨order, ?_, unstarted, fun _ => trivial⟩
    rw [underWay_none, List.append_nil] at calls
    simpa [List.range_succ] using calls.append_right [s.calls]

/-- The worker is where it was, or woken. -/
theorem notifyWork_eq (s : GsSubmissionSystem) :
    s.notifyWork = s ∨ s.worker = .asleep ∧ s.notifyWork = { s with worker := .wait } := by
  unfold notifyWork
  split
  · exact .inr ⟨‹_›, rfl⟩
  · exact .inl rfl

/-- The submission is where it was, or woken. -/
theorem notifySpace_eq (s : GsSubmissionSystem) :
    s.notifySpace = s ∨ ∃ item spaceEpoch, s.submission = some (item, .asleep spaceEpoch) ∧
      s.notifySpace = { s with submission := some (item, .wait spaceEpoch) } := by
  unfold notifySpace
  split
  · exact .inr ⟨_, _, ‹_›, rfl⟩
  · exact .inl rfl

theorem notifyWork_submission (s : GsSubmissionSystem) :
    s.notifyWork.submission = s.submission := by
  rcases s.notifyWork_eq with heq | ⟨-, heq⟩ <;> rw [heq]

theorem notifyWork_stopping (s : GsSubmissionSystem) : s.notifyWork.stopping = s.stopping := by
  rcases s.notifyWork_eq with heq | ⟨-, heq⟩ <;> rw [heq]

theorem notifySpace_worker (s : GsSubmissionSystem) : s.notifySpace.worker = s.worker := by
  rcases s.notifySpace_eq with heq | ⟨_, _, _, heq⟩ <;> rw [heq]

theorem notifySpace_stopping (s : GsSubmissionSystem) : s.notifySpace.stopping = s.stopping := by
  rcases s.notifySpace_eq with heq | ⟨_, _, _, heq⟩ <;> rw [heq]

theorem Ledger.notifyWork (h : s.Ledger) : s.notifyWork.Ledger := by
  obtain ⟨order, calls, unstarted, started⟩ := h
  rcases s.notifyWork_eq with heq | ⟨hasleep, heq⟩ <;> rw [heq]
  · exact ⟨order, calls, unstarted, started⟩
  · rw [hasleep] at order
    exact ⟨order, calls, nofun, nofun⟩

theorem Ledger.notifySpace (h : s.Ledger) : s.notifySpace.Ledger := by
  obtain ⟨order, calls, unstarted, started⟩ := h
  rcases s.notifySpace_eq with heq | ⟨item, e, hsub, heq⟩ <;> rw [heq]
  · exact ⟨order, calls, unstarted, started⟩
  · rw [hsub] at order calls started
    exact ⟨order, calls, unstarted, started⟩

theorem Ledger.submitStep (h : s.Ledger) (fails : Bool) : (s.submitStep fails).Ledger := by
  rcases hsub : s.submission with _ | ⟨item, pc⟩
  · simpa [GsSubmissionSystem.submitStep, hsub] using h
  have hthrows :
      (s.returned ++ (s.thrown ++ [item.promise]) ++ underWay none).Perm (List.range s.calls) := by
    simpa [hsub] using h.calls
  cases pc with
  | asleep e => simpa only [GsSubmissionSystem.submitStep, hsub] using h
  | notifyWork =>
    obtain ⟨order, calls, unstarted, started⟩ := h.notifyWork
    have hkept := s.notifyWork_submission
    rw [hkept, hsub] at order calls started
    simp only [GsSubmissionSystem.submitStep, hsub]
    exact ⟨order, calls, unstarted, started⟩
  | ensureStarted =>
    obtain ⟨order, calls, unstarted, started⟩ := h
    rw [hsub] at order calls
    simp only [GsSubmissionSystem.submitStep, hsub]
    split
    · rename_i hworker
      exact ⟨order, calls, unstarted, fun h => absurd h hworker⟩
    · rename_i hworker
      repeat' split
      · exact ⟨order, hthrows, unstarted, fun _ => trivial⟩
      · exact ⟨order, hthrows, unstarted, fun _ => trivial⟩
      · rw [not_not.1 hworker] at order
        exact ⟨order, calls, nofun, nofun⟩
  | emplace e =>
    obtain ⟨order, calls, unstarted, started⟩ := h
    rw [hsub] at order calls started
    simp only [GsSubmissionSystem.submitStep, hsub]
    split
    · exact ⟨order, calls, unstarted, started⟩
    · refine ⟨?_, calls, fun hworker => (started hworker).elim, fun hworker => started hworker⟩
      simp only [inFlight_some, GsSubmitting.queued, Bool.false_eq_true, if_false,
        List.append_nil] at order
      simp [order]
  | unlock =>
    obtain ⟨order, calls, unstarted, started⟩ := h
    rw [hsub] at order calls
    simp only [GsSubmissionSystem.submitStep, hsub]
    refine ⟨?_, ?_, unstarted, fun _ => trivial⟩
    · simpa using order
    · refine List.Perm.trans ?_ calls
      rw [List.append_assoc s.returned s.thrown, underWay_none, List.append_nil, List.append_assoc]
      exact List.perm_append_comm.append_left s.returned
  | _ =>
    obtain ⟨order, calls, unstarted, started⟩ := h
    rw [hsub] at order calls started
    simp only [GsSubmissionSystem.submitStep, hsub, GsSubmissionSystem.signalWork]
    repeat' split
    all_goals
      first
      | exact ⟨order, calls, unstarted, started⟩
      | exact ⟨order, hthrows, unstarted, fun _ => trivial⟩

theorem Ledger.workerStep (h : s.Ledger) (throws : Bool) : (s.workerStep throws).Ledger := by
  cases hworker : s.worker with
  | notStarted | asleep | exited => simpa only [GsSubmissionSystem.workerStep, hworker] using h
  | notifySpace next =>
    obtain ⟨order, calls, -, -⟩ := h.notifySpace
    have hkept : s.notifySpace.worker = s.worker ∧ s.notifySpace.queue = s.queue := by
      rcases s.notifySpace_eq with heq | ⟨_, _, _, heq⟩ <;> rw [heq] <;> exact ⟨rfl, rfl⟩
    rw [hkept.1, hworker] at order
    simp only [GsSubmissionSystem.workerStep, hworker]
    refine ⟨?_, calls, ?_, ?_⟩
    · cases next <;> exact order
    · cases next <;> exact nofun
    · cases next <;> exact nofun
  | notifyWork i =>
    have hawake : s.notifyWork = s := by simp [GsSubmissionSystem.notifyWork, hworker]
    obtain ⟨order, calls, -, -⟩ := h
    rw [hworker] at order
    simp only [GsSubmissionSystem.workerStep, hworker, hawake]
    exact ⟨order, calls, nofun, nofun⟩
  | signalSpace next =>
    obtain ⟨order, calls, -, -⟩ := h
    rw [hworker] at order
    simp only [GsSubmissionSystem.workerStep, hworker, GsSubmissionSystem.signalSpace]
    split
    · exact ⟨order, calls, nofun, nofun⟩
    · refine ⟨?_, calls, nofun, nofun⟩
      cases next <;> exact order
  | pop | cancelQueued =>
    obtain ⟨order, calls, unstarted, started⟩ := h
    rw [hworker] at order
    simp only [GsSubmissionSystem.workerStep, hworker]
    split
    · exact ⟨order, calls, nofun, nofun⟩
    · rename_i i rest hqueue
      refine ⟨?_, calls, nofun, nofun⟩
      simpa [GsWorker.unsettled, hqueue] using order
  | setValue i | setException i failed =>
    obtain ⟨order, calls, unstarted, started⟩ := h
    rw [hworker] at order
    simp only [GsSubmissionSystem.workerStep, hworker]
    refine ⟨?_, calls, ?_, ?_⟩
    all_goals repeat' split
    all_goals simp_all [GsWorker.unsettled]
  | quiesce i =>
    simp only [GsSubmissionSystem.workerStep, hworker]
    split
    · exact h
    · obtain ⟨order, calls, -, -⟩ := h
      rw [hworker] at order
      exact ⟨order, calls, nofun, nofun⟩
  | _ =>
    obtain ⟨order, calls, unstarted, started⟩ := h
    rw [hworker] at order
    simp only [GsSubmissionSystem.workerStep, hworker, GsSubmissionSystem.signalWork,
      GsSubmissionSystem.release]
    repeat' split
    all_goals exact ⟨order, calls, nofun, nofun⟩

theorem Ledger.shutdown (h : s.Ledger) (mode : GsExecutorShutdownMode) :
    (s.shutdown mode).Ledger := by
  unfold GsSubmissionSystem.shutdown
  split
  · exact h
  · exact ⟨h.order, h.calls, h.unstarted, h.started⟩

theorem Ledger.shutdownStep (h : s.Ledger) : s.shutdownStep.Ledger := by
  rcases hstop : s.stopping with _ | ⟨mode, pc⟩
  · simpa [GsSubmissionSystem.shutdownStep, hstop] using h
  cases pc with
  | notifySpace =>
    obtain ⟨order, calls, unstarted, started⟩ := h.notifySpace
    simp only [GsSubmissionSystem.shutdownStep, hstop]
    exact ⟨order, calls, unstarted, started⟩
  | notifyWork =>
    obtain ⟨order, calls, unstarted, started⟩ := h.notifyWork
    simp only [GsSubmissionSystem.shutdownStep, hstop]
    exact ⟨order, calls, unstarted, started⟩
  | _ =>
    obtain ⟨order, calls, unstarted, started⟩ := h
    simp only [GsSubmissionSystem.shutdownStep, hstop, GsSubmissionSystem.signalSpace,
      GsSubmissionSystem.signalWork]
    repeat' split
    all_goals exact ⟨order, calls, unstarted, started⟩

/-! ## The payload -/

/-- What the tests of `tryEnqueue` have shown stays so until the item is queued. -/
def Admits (s : GsSubmissionSystem) : Option (GsQueuedItem × GsSubmitting) → Prop
  | some (_, .loadPayload _) | some (_, .emplace _) => s.queue.length < s.queueCapacity
  | some (item, .reserve _) => s.queue.length < s.queueCapacity ∧
    s.queuedPayloadBytes + item.payloadBytes ≤ s.payloadCapacityBytes
  | some (_, .unreserve _) => False
  | _ => True

structure Payload (s : GsSubmissionSystem) : Prop where
  bytes_eq : s.queuedPayloadBytes =
    (s.queue.map GsQueuedItem.payloadBytes).sum + s.worker.unreleased + reservedBytes s.submission
  bytes_le : s.queuedPayloadBytes ≤ s.payloadCapacityBytes
  length_le : s.queue.length ≤ s.queueCapacity
  admits : s.Admits s.submission
  no_underflow : s.terminated ≠ some .payloadBytes

theorem Payload.create (queueCapacity payloadCapacityBytes : ℕ) :
    (GsSubmissionSystem.create queueCapacity payloadCapacityBytes).Payload :=
  ⟨rfl, Nat.zero_le _, Nat.zero_le _, trivial, nofun⟩

theorem Payload.submit (h : s.Payload) (payloadBytes : ℕ) : (s.submit payloadBytes).Payload := by
  unfold GsSubmissionSystem.submit
  split
  · exact h
  · rename_i hnone
    obtain ⟨bytes_eq, bytes_le, length_le, admits, no_underflow⟩ := h
    rw [hnone] at bytes_eq
    exact ⟨bytes_eq, bytes_le, length_le, trivial, no_underflow⟩

theorem Payload.notifyWork (h : s.Payload) : s.notifyWork.Payload := by
  obtain ⟨bytes_eq, bytes_le, length_le, admits, no_underflow⟩ := h
  rcases s.notifyWork_eq with heq | ⟨hasleep, heq⟩ <;> rw [heq]
  · exact ⟨bytes_eq, bytes_le, length_le, admits, no_underflow⟩
  · rw [hasleep] at bytes_eq
    exact ⟨bytes_eq, bytes_le, length_le, admits, no_underflow⟩

theorem Payload.notifySpace (h : s.Payload) : s.notifySpace.Payload := by
  obtain ⟨bytes_eq, bytes_le, length_le, admits, no_underflow⟩ := h
  rcases s.notifySpace_eq with heq | ⟨item, e, hsub, heq⟩ <;> rw [heq]
  · exact ⟨bytes_eq, bytes_le, length_le, admits, no_underflow⟩
  · rw [hsub] at bytes_eq
    exact ⟨bytes_eq, bytes_le, length_le, trivial, no_underflow⟩

theorem Payload.submitStep (h : s.Payload) (fails : Bool) : (s.submitStep fails).Payload := by
  rcases hsub : s.submission with _ | ⟨item, pc⟩
  · simpa [GsSubmissionSystem.submitStep, hsub] using h
  cases pc with
  | notifyWork =>
    obtain ⟨bytes_eq, bytes_le, length_le, -, no_underflow⟩ := h.notifyWork
    have hkept := s.notifyWork_submission
    rw [hkept, hsub] at bytes_eq
    simp only [GsSubmissionSystem.submitStep, hsub]
    exact ⟨bytes_eq, bytes_le, length_le, trivial, no_underflow⟩
  | unreserve e => exact (hsub ▸ h.admits : s.Admits (some (item, .unreserve e))).elim
  | ensureStarted =>
    obtain ⟨bytes_eq, bytes_le, length_le, admits, no_underflow⟩ := h
    rw [hsub] at bytes_eq
    simp only [GsSubmissionSystem.submitStep, hsub]
    repeat' split
    case isFalse.isFalse.isFalse hworker _ _ =>
      rw [not_not.1 hworker] at bytes_eq
      exact ⟨bytes_eq, bytes_le, length_le, trivial, no_underflow⟩
    all_goals exact ⟨bytes_eq, bytes_le, length_le, trivial, no_underflow⟩
  | testFull e =>
    obtain ⟨bytes_eq, bytes_le, length_le, admits, no_underflow⟩ := h
    rw [hsub] at bytes_eq
    simp only [GsSubmissionSystem.submitStep, hsub]
    split
    · exact ⟨bytes_eq, bytes_le, length_le, trivial, no_underflow⟩
    · rename_i hfree
      have hlt : s.queue.length < s.queueCapacity := by simpa [full] using hfree
      exact ⟨bytes_eq, bytes_le, length_le, hlt, no_underflow⟩
  | loadPayload e =>
    obtain ⟨bytes_eq, bytes_le, length_le, admits, no_underflow⟩ := h
    rw [hsub] at bytes_eq admits
    have hfree : s.queue.length < s.queueCapacity := admits
    simp only [GsSubmissionSystem.submitStep, hsub]
    split
    · exact ⟨bytes_eq, bytes_le, length_le, trivial, no_underflow⟩
    · rename_i hfits
      simp only [payloadExceeds, decide_eq_true_eq, Nat.not_lt] at hfits
      have hsum : s.queuedPayloadBytes + item.payloadBytes ≤ s.payloadCapacityBytes := by omega
      exact ⟨bytes_eq, bytes_le, length_le, ⟨hfree, hsum⟩, no_underflow⟩
  | reserve e =>
    obtain ⟨bytes_eq, bytes_le, length_le, admits, no_underflow⟩ := h
    rw [hsub] at bytes_eq admits
    obtain ⟨hfree, hfits⟩ := admits
    simp only [GsSubmissionSystem.submitStep, hsub]
    refine ⟨?_, hfits, length_le, hfree, no_underflow⟩
    simpa using bytes_eq
  | emplace e =>
    obtain ⟨bytes_eq, bytes_le, length_le, admits, no_underflow⟩ := h
    rw [hsub] at bytes_eq admits
    have hfree : s.queue.length < s.queueCapacity := admits
    simp only [GsSubmissionSystem.submitStep, hsub]
    rw [if_neg (by simpa [full] using hfree)]
    refine ⟨?_, bytes_le, ?_, trivial, no_underflow⟩
    · simp at bytes_eq ⊢
      omega
    · simpa using Nat.succ_le_of_lt hfree
  | signalWork =>
    obtain ⟨bytes_eq, bytes_le, length_le, admits, no_underflow⟩ := h
    rw [hsub] at bytes_eq
    simp only [GsSubmissionSystem.submitStep, hsub, GsSubmissionSystem.signalWork]
    split
    · exact ⟨bytes_eq, bytes_le, length_le, trivial, nofun⟩
    · exact ⟨bytes_eq, bytes_le, length_le, trivial, no_underflow⟩
  | asleep e => simpa only [GsSubmissionSystem.submitStep, hsub] using h
  | _ =>
    obtain ⟨bytes_eq, bytes_le, length_le, admits, no_underflow⟩ := h
    rw [hsub] at bytes_eq
    simp only [GsSubmissionSystem.submitStep, hsub]
    repeat' split
    all_goals exact ⟨bytes_eq, bytes_le, length_le, trivial, no_underflow⟩

/-- Taking out of the queue and releasing leave what has been shown true. -/
theorem Admits.mono {s' : GsSubmissionSystem} {submission : Option (GsQueuedItem × GsSubmitting)}
    (h : s.Admits submission) (hlength : s'.queue.length ≤ s.queue.length)
    (hbytes : s'.queuedPayloadBytes ≤ s.queuedPayloadBytes)
    (hcapacity : s'.queueCapacity = s.queueCapacity)
    (hpayload : s'.payloadCapacityBytes = s.payloadCapacityBytes) : s'.Admits submission := by
  unfold Admits at *
  split <;> simp_all <;> omega

theorem Payload.workerStep (h : s.Payload) (throws : Bool) : (s.workerStep throws).Payload := by
  cases hworker : s.worker with
  | notStarted | asleep | exited => simpa only [GsSubmissionSystem.workerStep, hworker] using h
  | notifySpace next =>
    obtain ⟨bytes_eq, bytes_le, length_le, admits, no_underflow⟩ := h.notifySpace
    have hkept := s.notifySpace_worker
    rw [hkept, hworker] at bytes_eq
    simp only [GsSubmissionSystem.workerStep, hworker]
    refine ⟨?_, bytes_le, length_le, admits, no_underflow⟩
    cases next <;> exact bytes_eq
  | notifyWork i =>
    have hawake : s.notifyWork = s := by simp [GsSubmissionSystem.notifyWork, hworker]
    obtain ⟨bytes_eq, bytes_le, length_le, admits, no_underflow⟩ := h
    rw [hworker] at bytes_eq
    simp only [GsSubmissionSystem.workerStep, hworker, hawake]
    exact ⟨bytes_eq, bytes_le, length_le, admits, no_underflow⟩
  | signalSpace next =>
    obtain ⟨bytes_eq, bytes_le, length_le, admits, no_underflow⟩ := h
    rw [hworker] at bytes_eq
    simp only [GsSubmissionSystem.workerStep, hworker, GsSubmissionSystem.signalSpace]
    split
    · exact ⟨bytes_eq, bytes_le, length_le, admits, nofun⟩
    · refine ⟨?_, bytes_le, length_le, admits, no_underflow⟩
      cases next <;> exact bytes_eq
  | pop | cancelQueued =>
    obtain ⟨bytes_eq, bytes_le, length_le, admits, no_underflow⟩ := h
    rw [hworker] at bytes_eq
    simp only [GsSubmissionSystem.workerStep, hworker]
    split
    · exact ⟨bytes_eq, bytes_le, length_le, admits, no_underflow⟩
    · rename_i i rest hqueue
      have hle : rest.length ≤ s.queue.length := by rw [hqueue]; exact Nat.le_succ _
      refine ⟨?_, bytes_le, hle.trans length_le, admits.mono hle le_rfl rfl rfl, no_underflow⟩
      rw [hqueue] at bytes_eq
      simp only [workerGoes, GsWorker.unreleased, List.map_cons, List.sum_cons] at bytes_eq ⊢
      omega
  | release i cancels =>
    obtain ⟨bytes_eq, bytes_le, length_le, admits, no_underflow⟩ := h
    rw [hworker] at bytes_eq
    simp only [GsWorker.unreleased] at bytes_eq
    simp only [GsSubmissionSystem.workerStep, hworker, GsSubmissionSystem.release]
    rw [if_neg (by omega)]
    refine ⟨?_, (Nat.sub_le ..).trans bytes_le, length_le,
      admits.mono le_rfl (Nat.sub_le ..) rfl rfl, no_underflow⟩
    cases cancels <;> simp [GsWorker.unreleased] <;> omega
  | quiesce i =>
    simp only [GsSubmissionSystem.workerStep, hworker]
    split
    · exact h
    · obtain ⟨bytes_eq, bytes_le, length_le, admits, no_underflow⟩ := h
      rw [hworker] at bytes_eq
      exact ⟨bytes_eq, bytes_le, length_le, admits, no_underflow⟩
  | signalWork i =>
    obtain ⟨bytes_eq, bytes_le, length_le, admits, no_underflow⟩ := h
    rw [hworker] at bytes_eq
    simp only [GsSubmissionSystem.workerStep, hworker, GsSubmissionSystem.signalWork]
    split
    · exact ⟨bytes_eq, bytes_le, length_le, admits, nofun⟩
    · exact ⟨bytes_eq, bytes_le, length_le, admits, no_underflow⟩
  | _ =>
    obtain ⟨bytes_eq, bytes_le, length_le, admits, no_underflow⟩ := h
    rw [hworker] at bytes_eq
    simp only [GsSubmissionSystem.workerStep, hworker]
    repeat' split
    all_goals exact ⟨bytes_eq, bytes_le, length_le, admits, no_underflow⟩

theorem Payload.shutdown (h : s.Payload) (mode : GsExecutorShutdownMode) :
    (s.shutdown mode).Payload := by
  unfold GsSubmissionSystem.shutdown
  split
  · exact h
  · exact ⟨h.bytes_eq, h.bytes_le, h.length_le, h.admits, h.no_underflow⟩

theorem Payload.shutdownStep (h : s.Payload) : s.shutdownStep.Payload := by
  rcases hstop : s.stopping with _ | ⟨mode, pc⟩
  · simpa [GsSubmissionSystem.shutdownStep, hstop] using h
  cases pc with
  | notifySpace =>
    obtain ⟨bytes_eq, bytes_le, length_le, admits, no_underflow⟩ := h.notifySpace
    simp only [GsSubmissionSystem.shutdownStep, hstop]
    exact ⟨bytes_eq, bytes_le, length_le, admits, no_underflow⟩
  | notifyWork =>
    obtain ⟨bytes_eq, bytes_le, length_le, admits, no_underflow⟩ := h.notifyWork
    simp only [GsSubmissionSystem.shutdownStep, hstop]
    exact ⟨bytes_eq, bytes_le, length_le, admits, no_underflow⟩
  | signalSpace | signalWork =>
    obtain ⟨bytes_eq, bytes_le, length_le, admits, no_underflow⟩ := h
    simp only [GsSubmissionSystem.shutdownStep, hstop, GsSubmissionSystem.signalSpace,
      GsSubmissionSystem.signalWork]
    split
    · exact ⟨bytes_eq, bytes_le, length_le, admits, nofun⟩
    · exact ⟨bytes_eq, bytes_le, length_le, admits, no_underflow⟩
  | _ =>
    obtain ⟨bytes_eq, bytes_le, length_le, admits, no_underflow⟩ := h
    simp only [GsSubmissionSystem.shutdownStep, hstop]
    repeat' split
    all_goals exact ⟨bytes_eq, bytes_le, length_le, admits, no_underflow⟩

end GsSubmissionSystem
end Ps2Recomp
