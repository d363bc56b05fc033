import Ps2Recomp.Lib.KeyedQueue
import Ps2Recomp.Scheduler.Operations

/-!
# The scheduler invariant

`Wf s` is what every operation of `EeThreadScheduler` keeps. It says of each queue that it is the
list of the threads whose records place them there, in the order of their queue sequences
(`KeyedQueue.IsQueue`), and of each record that its fields fit its state (`ThreadRecord.Ok`).

An operation takes a thread off its queue, or off the CPU, and puts it somewhere else. In between
the record and the queues disagree about that one thread, and only about it: `WfExcept off s` is
the invariant with the threads satisfying `off` left out of every queue, whatever their records
say. `Wf s` is the case where nothing is left out. The rules come in pairs:

* `detach_*`: from `Wf`, taking thread `i` off its queue leaves `WfExcept (· = i)`;
* `attach_*`: from `WfExcept (· = i)`, giving `i` a record and a place restores `Wf`.
-/

namespace Ps2Recomp

open KeyedQueue

/-! ## Queue sequences -/

/-- The increment of a sequence that does not wrap. -/
theorem sequence_val_succ {n : QueueSequence} (h : n + 1 ≠ 0) : (n + 1).val = n.val + 1 := by
  have hval : (n + 1).val = (n.val + 1) % uint64Count := Fin.val_add n 1
  have hlt := n.isLt
  by_cases hn : n.val + 1 < uint64Count
  · rw [hval, Nat.mod_eq_of_lt hn]
  · refine absurd (Fin.ext ?_) h
    rw [hval, show n.val + 1 = uint64Count by omega, Nat.mod_self]
    rfl

theorem sequence_succ_ne (n : QueueSequence) : n + 1 ≠ n := by
  intro h
  by_cases h0 : n + 1 = 0
  · rw [h0] at h
    rw [← h] at h0
    exact absurd h0 (by decide)
  · have := sequence_val_succ h0
    rw [h] at this
    omega

/-! ## Records -/

/-- The record puts its thread in the ready queue of `p`. -/
def ThreadRecord.InReady (p : Priority) (thread : ThreadRecord) : Prop :=
  thread.state = .Ready ∧ thread.priority = p

/-- The record puts its thread in the queue of `wait`. -/
def ThreadRecord.InWait (wait : EeSchedulerWaitKey) (thread : ThreadRecord) : Prop :=
  (thread.state = .Waiting ∨ thread.state = .WaitSuspended) ∧ thread.wait = wait

/-- The state-dependent part of `ThreadRecord.Ok`: what `validate` asks of the fields. -/
def ThreadRecord.StateOk (thread : ThreadRecord) : Prop :=
  match thread.state with
  | .Dormant =>
    thread.wait.valid = false ∧ thread.completedWait.completion = .None ∧
      thread.wakeupCount = 0 ∧ thread.suspendCount = 0 ∧ thread.queueSequence = 0
  | .Ready => thread.wait.valid = false ∧ thread.suspendCount = 0 ∧ thread.queueSequence ≠ 0
  | .Running =>
    thread.wait.valid = false ∧ thread.retainCompletedWaitReason = false ∧
      thread.suspendCount = 0 ∧ thread.queueSequence = 0
  | .Waiting =>
    thread.wait.valid = true ∧ thread.completedWait.completion = .None ∧
      (thread.wait.kind = .Sleep → thread.wakeupCount = 0) ∧ thread.suspendCount = 0 ∧
      thread.queueSequence ≠ 0
  | .Suspended => thread.wait.valid = false ∧ thread.suspendCount ≠ 0 ∧ thread.queueSequence = 0
  | .WaitSuspended =>
    thread.wait.valid = true ∧ thread.completedWait.completion = .None ∧
      (thread.wait.kind = .Sleep → thread.wakeupCount = 0) ∧ thread.suspendCount ≠ 0 ∧
      thread.queueSequence ≠ 0

/-- The fields of the record fit each other. -/
structure ThreadRecord.Ok (thread : ThreadRecord) : Prop where
  completion : thread.completedWait.wait.valid = (thread.completedWait.completion != .None)
  retain : thread.retainCompletedWaitReason = true → thread.completedWait.completion ≠ .None
  state : thread.StateOk

theorem ThreadRecord.Ok.completedWait_valid {thread : ThreadRecord} (h : thread.Ok) :
    thread.completedWait.valid = (thread.completedWait.completion != .None) := by
  rw [EeSchedulerCompletedWait.valid, h.completion, Bool.and_self]

theorem ThreadRecord.Ok.retain_eq_false {thread : ThreadRecord} (h : thread.Ok)
    (hc : thread.completedWait.completion = .None) : thread.retainCompletedWaitReason = false := by
  cases hr : thread.retainCompletedWaitReason with
  | false => rfl
  | true => exact absurd hc (h.retain hr)

theorem defaultWait_valid : ({} : EeSchedulerWaitKey).valid = false := rfl

namespace EeThreadScheduler

variable {s s' : EeThreadScheduler} {i j : Int} {th th' : ThreadRecord}
  {h : EeSchedulerThreadHandle} {p : Priority} {k : EeSchedulerWaitKey}

/-! ## Lookups after the primitive updates -/

theorem thread?_setThread (i j : Int) :
    (s.setThread i th).thread? j = if j = i then some th else s.thread? j := by
  unfold thread? setThread
  split
  · rename_i hj
    rw [hj]
    exact Finmap.lookup_insert _
  · rename_i hj
    exact Finmap.lookup_insert_of_ne _ hj

@[simp] theorem setThread_currentThreadId :
    (s.setThread i th).currentThreadId = s.currentThreadId := rfl

theorem waitQueue_setWaitQueue (q : List EeSchedulerThreadHandle) (k k' : EeSchedulerWaitKey) :
    (s.setWaitQueue k q).waitQueue k' = if k' = k then q else s.waitQueue k' := by
  unfold waitQueue setWaitQueue
  by_cases hk : k' = k
  · subst hk
    rw [if_pos rfl]
    by_cases hq : q = []
    · simp only [hq, if_true, Finmap.lookup_erase, Option.getD_none]
    · simp only [hq, if_false, Finmap.lookup_insert, Option.getD_some]
  · rw [if_neg hk]
    by_cases hq : q = []
    · simp only [hq, if_true, Finmap.lookup_erase_ne hk]
    · simp only [hq, if_false, Finmap.lookup_insert_of_ne _ hk]

/-- No stored wait queue is empty after `setWaitQueue`, if none was before. -/
theorem setWaitQueue_nonempty (hs : ∀ k, s.waitQueues.lookup k ≠ some [])
    (q : List EeSchedulerThreadHandle) (k' : EeSchedulerWaitKey) :
    (s.setWaitQueue k q).waitQueues.lookup k' ≠ some [] := by
  unfold setWaitQueue
  by_cases hk : k' = k
  · subst hk
    by_cases hq : q = []
    · simp only [hq, if_true, Finmap.lookup_erase]
      exact nofun
    · simp only [hq, if_false, Finmap.lookup_insert]
      exact fun e => hq (Option.some.inj e)
  · by_cases hq : q = []
    · simp only [hq, if_true, Finmap.lookup_erase_ne hk]
      exact hs k'
    · simp only [hq, if_false, Finmap.lookup_insert_of_ne _ hk]
      exact hs k'

theorem thread?_enqueueReady (i j : Int) :
    (s.enqueueReady i th).thread? j =
      if j = i then
        some { th with state := .Ready, wait := {}, queueSequence := s.nextQueueSequence }
      else s.thread? j :=
  thread?_setThread i j

theorem readyQueues_enqueueReady (q : Priority) :
    (s.enqueueReady i th).readyQueues q =
      if q = th.priority then s.readyQueues q ++ [⟨i, th.generation⟩] else s.readyQueues q := by
  unfold enqueueReady
  by_cases hq : q = th.priority
  · rw [hq, if_pos rfl]
    exact Function.update_self ..
  · rw [if_neg hq]
    exact Function.update_of_ne hq ..

/-! ## Handles -/

theorem findThread_eq_some :
    s.findThread h = some th ↔
      h.valid = true ∧ s.thread? h.id = some th ∧ th.generation = h.generation := by
  unfold findThread
  by_cases hv : h.valid = true
  · rw [if_pos hv]
    cases ht : s.thread? h.id with
    | none => simp
    | some t =>
      by_cases hg : t.generation = h.generation
      · simp only [hg, if_true, Option.some.injEq]
        constructor
        · rintro rfl
          exact ⟨hv, rfl, hg⟩
        · rintro ⟨_, rfl, _⟩
          rfl
      · simp only [hg, if_false, Option.some.injEq]
        constructor
        · intro e
          exact absurd e (by simp)
        · rintro ⟨_, rfl, e⟩
          exact absurd e hg
  · rw [if_neg hv]
    constructor
    · intro e
      exact absurd e (by simp)
    · rintro ⟨e, _⟩
      exact absurd e hv

/-- `h` is the handle of a thread whose record satisfies `Q`. -/
def Holds (s : EeThreadScheduler) (Q : ThreadRecord → Prop) (h : EeSchedulerThreadHandle) : Prop :=
  ∃ th, s.thread? h.id = some th ∧ th.generation = h.generation ∧ Q th

/-- The queue sequence of a handle's thread. -/
def sequenceOf (s : EeThreadScheduler) (h : EeSchedulerThreadHandle) : QueueSequence :=
  ((s.thread? h.id).map (·.queueSequence)).getD 0

theorem sequenceOf_eq (ht : s.thread? h.id = some th) : s.sequenceOf h = th.queueSequence := by
  unfold sequenceOf
  rw [ht]
  rfl

/-! ## The invariant -/

/-- One past the largest sequence number handed out: the counter, or `2 ^ 64` once it has
wrapped to zero. -/
def sequenceEnd (s : EeThreadScheduler) : Nat :=
  if s.nextQueueSequence = 0 then uint64Count else s.nextQueueSequence.val

/-- The invariant, with the threads satisfying `off` in no queue and not current. -/
structure WfExcept (off : Int → Prop) (s : EeThreadScheduler) : Prop where
  /-- A record's id and generation make a valid handle. -/
  ids : ∀ {i th}, ¬ off i → s.thread? i = some th → 0 < i ∧ th.generation ≠ 0
  records : ∀ {i th}, ¬ off i → s.thread? i = some th → th.Ok
  /-- Every sequence in use has been handed out. -/
  issued : ∀ {i th}, ¬ off i → s.thread? i = some th → th.queueSequence.val < s.sequenceEnd
  /-- A sequence is in use once. -/
  distinct : ∀ {i j a b}, ¬ off i → ¬ off j → s.thread? i = some a → s.thread? j = some b →
    a.queueSequence = b.queueSequence → a.queueSequence ≠ 0 → i = j
  ready : ∀ p, IsQueue s.sequenceOf (fun h => ¬ off h.id ∧ s.Holds (·.InReady p) h)
    (s.readyQueues p)
  wait : ∀ k, IsQueue s.sequenceOf (fun h => ¬ off h.id ∧ s.Holds (·.InWait k) h) (s.waitQueue k)
  nonempty : ∀ k, s.waitQueues.lookup k ≠ some []
  current : ∀ i, s.currentThreadId = some i ↔
    ¬ off i ∧ ∃ th, s.thread? i = some th ∧ th.state = .Running

/-- The scheduler invariant. -/
abbrev Wf (s : EeThreadScheduler) : Prop := WfExcept (fun _ => False) s

theorem wf_empty : Wf {} where
  ids _ ht := absurd ht (by simp [thread?])
  records _ ht := absurd ht (by simp [thread?])
  issued _ ht := absurd ht (by simp [thread?])
  distinct _ _ ht := absurd ht (by simp [thread?])
  ready p := isQueue_nil fun h hh => by
    obtain ⟨-, th, ht, -⟩ := hh
    simp [thread?] at ht
  wait k := isQueue_nil fun h hh => by
    obtain ⟨-, th, ht, -⟩ := hh
    simp [thread?] at ht
  nonempty k := by simp
  current i := by simp [thread?]

/-! ## Reading the invariant -/

theorem Wf.mem_ready (w : Wf s) : h ∈ s.readyQueues p ↔ s.Holds (·.InReady p) h := by
  rw [(w.ready p).mem_iff]
  simp

theorem Wf.mem_wait (w : Wf s) : h ∈ s.waitQueue k ↔ s.Holds (·.InWait k) h := by
  rw [(w.wait k).mem_iff]
  simp

theorem Wf.handle_valid (w : Wf s) (ht : s.thread? h.id = some th)
    (hg : th.generation = h.generation) : h.valid = true := by
  obtain ⟨hi, hgen⟩ := w.ids not_false ht
  unfold EeSchedulerThreadHandle.valid
  rw [Bool.and_eq_true, decide_eq_true_eq, bne_iff_ne, ← hg]
  exact ⟨hi, hgen⟩

theorem Wf.findThread_of_holds (w : Wf s) {Q : ThreadRecord → Prop} (hh : s.Holds Q h) :
    ∃ th, s.findThread h = some th ∧ Q th := by
  obtain ⟨th, ht, hg, hq⟩ := hh
  exact ⟨th, findThread_eq_some.mpr ⟨w.handle_valid ht hg, ht, hg⟩, hq⟩

/-- The queue of a wait key with an invalid kind or object is empty. -/
theorem Wf.waitKey_valid (w : Wf s) (hm : h ∈ s.waitQueue k) : k.valid = true := by
  obtain ⟨th, ht, -, hst, rfl⟩ := w.mem_wait.mp hm
  have hok := (w.records not_false ht).state
  unfold ThreadRecord.StateOk at hok
  rcases hst with hst | hst <;> rw [hst] at hok <;> exact hok.1

theorem Wf.current_running (w : Wf s) (hc : s.currentThreadId = some i) :
    ∃ th, s.thread? i = some th ∧ th.state = .Running :=
  ((w.current i).mp hc).2

theorem Wf.running_current (w : Wf s) (ht : s.thread? i = some th) (hr : th.state = .Running) :
    s.currentThreadId = some i :=
  (w.current i).mpr ⟨not_false, th, ht, hr⟩

end EeThreadScheduler

end Ps2Recomp
