import Ps2Recomp.Lib.Machine
import Ps2Recomp.Scheduler.Restore

/-!
# Runs of the scheduler

A run is a list of calls, each with arbitrary arguments, from the empty scheduler. `Ledger` runs
the scheduler and counts queue sequences beside it, in two ways:

* `drawn` counts the numbers this run's calls took from the counter;
* `allocated` counts those taken since the counter stood at 1. `restore` installs a counter from
  outside, and what that counter stands past has been allocated by whoever took the snapshot.

The two differ only after a `restore`, and there `validate` follows `allocated`: as long as it
stays below `2 ^ 64`, every state of the run is well-formed (`wf_of_run`), while a restored counter
just below the limit is two calls away from sequence zero, the "not queued" mark
(`exhausted_run`).
-/

namespace Ps2Recomp

open KeyedQueue Machine

/-- The scheduler and the number of queue sequences handed out. -/
structure Ledger where
  scheduler : EeThreadScheduler := {}
  drawn : Nat := 0
  allocated : Nat := 0

namespace Ledger

/-- The numbers a call other than `restore` takes from the counter. -/
def taken (s : EeThreadScheduler) (op : SchedulerOp) : Nat :=
  ((op.run s).nextQueueSequence - s.nextQueueSequence).val

/-- Make a call. -/
def step (r : Ledger) (op : SchedulerOp) : Ledger :=
  match op with
  | .restore state =>
    { scheduler := op.run r.scheduler
      drawn := r.drawn
      allocated :=
        if (r.scheduler.restore state).1 then state.nextQueueSequence.val - 1 else r.allocated }
  | _ =>
    { scheduler := op.run r.scheduler
      drawn := r.drawn + taken r.scheduler op
      allocated := r.allocated + taken r.scheduler op }

/-- A call leaves fewer than `limit` sequences allocated. -/
def Below (limit : Nat) (r : Ledger) (op : SchedulerOp) : Prop := (r.step op).allocated < limit

instance (limit : Nat) (r : Ledger) (op : SchedulerOp) : Decidable (Below limit r op) :=
  Nat.decLt _ _

/-- The counter stands one past the sequences allocated. -/
structure Account (r : Ledger) : Prop where
  wf : r.scheduler.Wf
  below : r.allocated < uint64Count
  counter : r.scheduler.nextQueueSequence.val = (r.allocated + 1) % uint64Count

theorem account_empty : Account {} := ⟨EeThreadScheduler.wf_empty, by decide, rfl⟩

open EeThreadScheduler

/-- A call that moves the counter while fewer than `2 ^ 64` sequences are allocated starts from a
counter other than zero. -/
theorem Account.fits {r : Ledger} (a : Account r) {s' : EeThreadScheduler}
    (hlt : r.allocated + (s'.nextQueueSequence - r.scheduler.nextQueueSequence).val < uint64Count) :
    Fits r.scheduler s' := by
  intro hmoved hzero
  have hpos : (s'.nextQueueSequence - r.scheduler.nextQueueSequence).val ≠ 0 := by
    intro h0
    exact hmoved (sub_eq_zero.mp (Fin.ext h0))
  have hsucc : r.allocated + 1 < uint64Count := by omega
  have hcounter := a.counter
  rw [hzero, Nat.mod_eq_of_lt hsucc] at hcounter
  exact absurd hcounter.symm (Nat.succ_ne_zero _)

theorem Account.counter_add {r : Ledger} (a : Account r) (n : QueueSequence) :
    n.val = (r.allocated + (n - r.scheduler.nextQueueSequence).val + 1) % uint64Count := by
  have hn : n = r.scheduler.nextQueueSequence + (n - r.scheduler.nextQueueSequence) :=
    (add_sub_cancel _ _).symm
  have hval := congrArg Fin.val hn
  rw [Fin.val_add, a.counter, Nat.mod_add_mod] at hval
  rw [hval]
  congr 1
  omega

/-- A call other than `restore`. -/
theorem Account.call {r : Ledger} (a : Account r) {s' : EeThreadScheduler}
    (hlt : r.allocated + (s'.nextQueueSequence - r.scheduler.nextQueueSequence).val < uint64Count)
    (hwf : Fits r.scheduler s' → s'.Wf) (d : Nat) :
    Account ⟨s', d,
      r.allocated + (s'.nextQueueSequence - r.scheduler.nextQueueSequence).val⟩ :=
  ⟨hwf (a.fits hlt), hlt, a.counter_add _⟩

/-- **Every call keeps the account.** -/
theorem account_step (r : Ledger) (op : SchedulerOp) (a : Account r)
    (hlt : Below uint64Count r op) : Account (r.step op) := by
  have w := a.wf
  unfold Below at hlt
  cases op with
  | addDormantThread i g p => exact a.call hlt (fun _ => wf_addDormantThread w i g p) _
  | addRunningThread i g p => exact a.call hlt (fun _ => wf_addRunningThread w i g p) _
  | startThread h => exact a.call hlt (wf_startThread w h) _
  | startThreadId i => exact a.call hlt (wf_startThreadId w i) _
  | selectNextThread => exact a.call hlt (fun _ => wf_selectNextThread w) _
  | yieldCurrentThread => exact a.call hlt (wf_yieldCurrentThread w) _
  | blockCurrentThread k => exact a.call hlt (wf_blockCurrentThread w k) _
  | sleepCurrentThread => exact a.call hlt (wf_sleepCurrentThread w) _
  | wakeOne k => exact a.call hlt (wf_wakeOne w k) _
  | wakeThread h => exact a.call hlt (wf_wakeThread w h) _
  | cancelWakeups h => exact a.call hlt (fun _ => wf_cancelWakeups w h) _
  | releaseWaitThread h c retain => exact a.call hlt (wf_releaseWaitThread w h c retain) _
  | consumeWaitCompletion h => exact a.call hlt (fun _ => wf_consumeWaitCompletion w h) _
  | finishCurrentThread => exact a.call hlt (fun _ => wf_finishCurrentThread w) _
  | suspendThread h => exact a.call hlt (fun _ => wf_suspendThread w h) _
  | resumeThread h => exact a.call hlt (wf_resumeThread w h) _
  | terminateThread h => exact a.call hlt (fun _ => wf_terminateThread w h) _
  | exitCurrentThread => exact a.call hlt (fun _ => wf_exitCurrentThread w) _
  | deleteThread h => exact a.call hlt (fun _ => wf_deleteThread w h) _
  | changeThreadPriority h p => exact a.call hlt (wf_changeThreadPriority w h p) _
  | rotateReadyQueue p => exact a.call hlt (wf_rotateReadyQueue w p) _
  | reschedule policy => exact a.call hlt (wf_reschedule w policy) _
  | publishCanonicalTick tick => exact a.call hlt (fun _ => w.of_tick _) _
  | restore state =>
    rcases restore_cases r.scheduler state with he | ⟨c, hr, he⟩
    · simp only [step, SchedulerOp.run, he, Bool.false_eq_true, if_false] at hlt ⊢
      exact ⟨w, hlt, a.counter⟩
    · obtain ⟨hn, hnext⟩ := restoreCandidate_next hr
      have hpos : state.nextQueueSequence.val ≠ 0 := fun e => hn (Fin.ext e)
      simp only [step, SchedulerOp.run, he, if_true] at hlt ⊢
      refine ⟨wf_restoreCandidate hr, hlt, ?_⟩
      rw [hnext, Nat.sub_add_cancel (Nat.one_le_iff_ne_zero.mpr hpos),
        Nat.mod_eq_of_lt state.nextQueueSequence.isLt]

/-- **Every state of a run is well-formed.** -/
theorem account_of_run {ops : List SchedulerOp} (hfew : Along step (Below uint64Count) {} ops) :
    Account (run step {} ops) :=
  invariant account_step account_empty hfew

/-! ## What well-formedness says of the queues -/

/-- The threads are where their records say, and nowhere else. -/
structure Placed (s : EeThreadScheduler) : Prop where
  /-- A ready queue holds the Ready threads of its priority, under their own handles. -/
  ready : ∀ p h, h ∈ s.readyQueues p ↔ ∃ th, s.thread? h.id = some th ∧
    th.generation = h.generation ∧ th.state = .Ready ∧ th.priority = p
  readyOnce : ∀ p, (s.readyQueues p).Nodup
  /-- A wait queue holds the threads waiting on its key, under their own handles. -/
  wait : ∀ k h, h ∈ s.waitQueue k ↔ ∃ th, s.thread? h.id = some th ∧
    th.generation = h.generation ∧ (th.state = .Waiting ∨ th.state = .WaitSuspended) ∧ th.wait = k
  waitOnce : ∀ k, (s.waitQueue k).Nodup
  /-- The current thread is the Running one. -/
  current : ∀ i, s.currentThreadId = some i ↔ ∃ th, s.thread? i = some th ∧ th.state = .Running

theorem placed_of_wf {s : EeThreadScheduler} (w : s.Wf) : Placed s where
  ready _ _ := w.mem_ready
  readyOnce p := (w.ready p).nodup
  wait _ _ := w.mem_wait
  waitOnce k := (w.wait k).nodup
  current i := (w.current i).trans (and_iff_right not_false)

/-- **`validate` holds along every run** with fewer than `2 ^ 64` sequences allocated, and every
thread is in the queue its record names, once, and in no other. -/
theorem validate_of_run (ops : List SchedulerOp)
    (hfew : Along step (Below uint64Count) {} ops) :
    (run step {} ops).scheduler.validate = true ∧ Placed (run step {} ops).scheduler := by
  have w := (account_of_run hfew).wf
  exact ⟨w.validate_eq, placed_of_wf w⟩

/-- A run through every kind of queue: a thread blocks on a semaphore, is suspended there, is
signalled and resumed. -/
def semaphoreRun : List SchedulerOp :=
  [.addRunningThread 1 1 10, .addDormantThread 2 1 5, .startThread ⟨2, 1⟩,
    .blockCurrentThread ⟨.Semaphore, 3⟩, .suspendThread ⟨1, 1⟩, .wakeOne ⟨.Semaphore, 3⟩,
    .resumeThread ⟨1, 1⟩, .reschedule .EqualOrHigherPriority]

theorem validate_of_semaphoreRun :
    (run step {} semaphoreRun).scheduler.validate = true ∧
      Placed (run step {} semaphoreRun).scheduler :=
  validate_of_run semaphoreRun (by decide +kernel)

/-- A snapshot of two Dormant threads whose counter has one number left. -/
def exhaustedSnapshot : EeThreadSchedulerSnapshot :=
  { threads := [{ id := 1, generation := 1 }, { id := 2, generation := 1 }]
    nextQueueSequence := Fin.last (2 ^ 64 - 1) }

/-- The numbers drawn by the run itself do not decide: after a `restore` of a counter at its
maximum, the second thread started is queued with sequence zero. -/
theorem drawn_below_not_enough :
    ¬ ∀ ops : List SchedulerOp, (run step {} ops).drawn < uint64Count →
      (run step {} ops).scheduler.validate = true := by
  intro h
  have hv := h [.restore exhaustedSnapshot, .startThread ⟨1, 1⟩, .startThread ⟨2, 1⟩]
    (by decide +kernel)
  revert hv
  decide +kernel

end Ledger

end Ps2Recomp
