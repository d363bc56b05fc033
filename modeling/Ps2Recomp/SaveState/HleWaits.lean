import Ps2Recomp.SaveState.RuntimeCore
import Ps2Recomp.Scheduler.Snapshot

/-!
# A scheduler without its HLE waits

The decoder rewrites the snapshot entries of the threads that wait on an HLE semaphore, or have a
completion of such a wait (`ThreadRecord.settled` is what it makes of a record), and then has the
scheduler check the result. `restore` accepts it exactly if each of these threads is Ready,
Suspended, or Waiting without being suspended (`settled_accepted_iff`): the entry keeps its queue
sequence, and only a Ready thread may have one.
-/

namespace Ps2Recomp

open KeyedQueue

/-! ## Records -/

namespace ThreadRecord

/-- `hleWait` of a record's snapshot entry. -/
def hleWait (thread : ThreadRecord) : Bool :=
  thread.wait.kind == .HleSemaphore || thread.completedWait.wait.kind == .HleSemaphore

/-- The record after the decoder took its thread out of its HLE wait. -/
def withoutWait (thread : ThreadRecord) : ThreadRecord :=
  { thread with
    state := if thread.suspendCount ≠ 0 then .Suspended else .Ready
    wait := {}
    completedWait := {}
    retainCompletedWaitReason := false }

/-- The record that the decoder makes of one. -/
def settled (thread : ThreadRecord) : ThreadRecord :=
  if thread.hleWait then thread.withoutWait else thread

/-- The records of HLE waiters that `restore` still accepts once settled. -/
def Settles (thread : ThreadRecord) : Prop :=
  thread.state = .Ready ∨ thread.state = .Waiting ∨ thread.state = .Suspended

variable {th : ThreadRecord}

@[simp] theorem settled_generation : th.settled.generation = th.generation := by
  unfold settled
  split <;> rfl

@[simp] theorem settled_priority : th.settled.priority = th.priority := by
  unfold settled
  split <;> rfl

@[simp] theorem settled_suspendCount : th.settled.suspendCount = th.suspendCount := by
  unfold settled
  split <;> rfl

@[simp] theorem settled_queueSequence : th.settled.queueSequence = th.queueSequence := by
  unfold settled
  split <;> rfl

theorem settled_of_hleWait (h : th.hleWait = true) : th.settled = th.withoutWait := if_pos h

theorem settled_of_not_hleWait (h : th.hleWait = false) : th.settled = th := by
  unfold settled
  rw [h]
  rfl

theorem withoutWait_state_of_zero (h : th.suspendCount = 0) : th.withoutWait.state = .Ready :=
  if_neg (not_not.mpr h)

theorem withoutWait_state_of_ne_zero (h : th.suspendCount ≠ 0) :
    th.withoutWait.state = .Suspended := if_pos h

/-- A record that settles is valid again, in the state its suspend count says. -/
theorem Ok.settled (hok : th.Ok) (h : th.hleWait = true → th.Settles) : th.settled.Ok := by
  cases hhle : th.hleWait with
  | false => rwa [settled_of_not_hleWait hhle]
  | true =>
    rw [settled_of_hleWait hhle]
    refine ⟨rfl, nofun, ?_⟩
    have hs := hok.state
    unfold StateOk at hs ⊢
    rcases h hhle with hst | hst | hst <;> rw [hst] at hs
    · rw [withoutWait_state_of_zero hs.2.1]
      exact ⟨rfl, hs.2.1, hs.2.2⟩
    · rw [withoutWait_state_of_zero hs.2.2.2.1]
      exact ⟨rfl, hs.2.2.2.1, hs.2.2.2.2⟩
    · rw [withoutWait_state_of_ne_zero hs.2.1]
      exact ⟨rfl, hs.2.1, hs.2.2⟩

/-- The queue sequence of a settled record betrays any other state. -/
theorem Ok.settles (hok : th.Ok) (h : th.hleWait = true) (hsettled : th.settled.Ok) :
    th.Settles := by
  rw [settled_of_hleWait h] at hsettled
  have hs := hok.state
  have hs' := hsettled.state
  unfold StateOk at hs hs'
  cases hst : th.state <;> rw [hst] at hs
  case Ready => exact Or.inl hst
  case Waiting => exact Or.inr (Or.inl hst)
  case Suspended => exact Or.inr (Or.inr hst)
  case Dormant =>
    rw [withoutWait_state_of_zero hs.2.2.2.1] at hs'
    exact absurd hs.2.2.2.2 hs'.2.2
  case Running =>
    rw [withoutWait_state_of_zero hs.2.2.1] at hs'
    exact absurd hs.2.2.2 hs'.2.2
  case WaitSuspended =>
    rw [withoutWait_state_of_ne_zero hs.2.2.2.1] at hs'
    exact absurd hs'.2.2 hs.2.2.2.2

theorem settled_running (h : th.hleWait = true → th.Settles) :
    th.settled.state = .Running ↔ th.state = .Running := by
  cases hhle : th.hleWait with
  | false => rw [settled_of_not_hleWait hhle]
  | true =>
    rw [settled_of_hleWait hhle]
    have hne : th.state ≠ .Running := by
      rcases h hhle with e | e | e <;> rw [e] <;> exact nofun
    refine iff_of_false ?_ hne
    unfold withoutWait
    simp only
    split <;> exact nofun

theorem withoutWait_not_inWait (k : EeSchedulerWaitKey) : ¬ th.withoutWait.InWait k := by
  rintro ⟨hst, -⟩
  unfold withoutWait at hst
  simp only at hst
  split at hst <;> rcases hst with e | e <;> cases e

theorem inWait_of_settled {k : EeSchedulerWaitKey} (h : th.settled.InWait k) :
    th.InWait k ∧ th.hleWait = false := by
  cases hhle : th.hleWait with
  | false =>
    rw [settled_of_not_hleWait hhle] at h
    exact ⟨h, rfl⟩
  | true =>
    rw [settled_of_hleWait hhle] at h
    exact absurd h (withoutWait_not_inWait k)

theorem Ok.inReady_settled {p : Priority} (hok : th.Ok) (h : th.InReady p) :
    th.settled.InReady p := by
  cases hhle : th.hleWait with
  | false => rwa [settled_of_not_hleWait hhle]
  | true =>
    rw [settled_of_hleWait hhle]
    have hs := hok.state
    unfold StateOk at hs
    rw [h.1] at hs
    exact ⟨withoutWait_state_of_zero hs.2.1, h.2⟩

end ThreadRecord

/-! ## Snapshots -/

/-- The entry that the decoder makes of one. -/
def EeSchedulerThreadSnapshot.settled (scheduled : EeSchedulerThreadSnapshot) :
    EeSchedulerThreadSnapshot :=
  if scheduled.hleWait then scheduled.withoutWait else scheduled

def EeThreadSchedulerSnapshot.settled (state : EeThreadSchedulerSnapshot) :
    EeThreadSchedulerSnapshot :=
  { state with threads := state.threads.map EeSchedulerThreadSnapshot.settled }

namespace EeThreadScheduler

variable {s c : EeThreadScheduler} {i : Int} {th : ThreadRecord}

theorem snapshotOf_settled (i : Int) (th : ThreadRecord) :
    (snapshotOf i th).settled = snapshotOf i th.settled := by
  unfold EeSchedulerThreadSnapshot.settled ThreadRecord.settled
  by_cases h : th.hleWait = true
  · rw [if_pos h, if_pos (show (snapshotOf i th).hleWait = true from h)]
    rfl
  · rw [if_neg h, if_neg (show ¬ (snapshotOf i th).hleWait = true from h)]

theorem mem_snapshot_settled {source : EeSchedulerThreadSnapshot} :
    source ∈ s.snapshot.settled.threads ↔
      ∃ i th, s.thread? i = some th ∧ snapshotOf i th.settled = source := by
  unfold EeThreadSchedulerSnapshot.settled
  rw [List.mem_map]
  constructor
  · rintro ⟨a, ha, rfl⟩
    obtain ⟨i, th, ht, rfl⟩ := mem_snapshot.mp ha
    exact ⟨i, th, ht, (snapshotOf_settled i th).symm⟩
  · rintro ⟨i, th, ht, rfl⟩
    exact ⟨_, snapshotOf_mem_snapshot.mpr ht, snapshotOf_settled i th⟩

theorem snapshotOf_mem_settled {t : ThreadRecord} :
    snapshotOf i t ∈ s.snapshot.settled.threads ↔
      ∃ th, s.thread? i = some th ∧ th.settled = t := by
  rw [mem_snapshot_settled]
  constructor
  · rintro ⟨j, th, ht, he⟩
    obtain rfl : j = i := congrArg EeSchedulerThreadSnapshot.id he
    exact ⟨th, ht, snapshotOf_injective he⟩
  · rintro ⟨th, ht, rfl⟩
    exact ⟨i, th, ht, rfl⟩

theorem settled_ids (s : EeThreadScheduler) :
    s.snapshot.settled.threads.Pairwise fun a b => a.id ≠ b.id := by
  unfold EeThreadSchedulerSnapshot.settled
  simp only
  rw [List.pairwise_map]
  refine (snapshot_ids s).imp_of_mem fun {a b} ha hb hab => ?_
  obtain ⟨i, th, -, rfl⟩ := mem_snapshot.mp ha
  obtain ⟨j, th', -, rfl⟩ := mem_snapshot.mp hb
  rw [snapshotOf_settled, snapshotOf_settled]
  exact hab

theorem Wf.settled_sorted (w : Wf s) :
    (queuedBySequence s.snapshot.settled.threads).Pairwise
      fun a b => a.queueSequence < b.queueSequence := by
  refine queuedBySequence_strict (settled_ids s) fun a ha b hb hab hane => ?_
  obtain ⟨i, th, ht, rfl⟩ := mem_snapshot_settled.mp ha
  obtain ⟨j, th', ht', rfl⟩ := mem_snapshot_settled.mp hb
  have hseq : th.queueSequence = th'.queueSequence := by
    simpa [snapshotOf] using hab
  have hne : th.queueSequence ≠ 0 := by
    simpa [snapshotOf] using hane
  obtain rfl := w.distinct not_false not_false ht ht' hseq hne
  rw [Option.some.inj (ht.symm.trans ht')]

/-! ## What is restored -/

/-- `c` is `s` with every HLE waiter taken out of its wait. -/
structure Settled (s c : EeThreadScheduler) : Prop where
  current : c.currentThreadId = s.currentThreadId
  threads : ∀ i, c.thread? i = (s.thread? i).map ThreadRecord.settled
  /-- The threads that were in a ready queue are in it, in their order. -/
  ready : ∀ p, (c.readyQueues p).filter (· ∈ s.readyQueues p) = s.readyQueues p
  /-- The wait queues of guest objects are the same. -/
  wait : ∀ k, k.kind ≠ .HleSemaphore → c.waitQueue k = s.waitQueue k
  /-- Nobody waits on an HLE semaphore. -/
  hle : ∀ k, k.kind = .HleSemaphore → c.waitQueue k = []
  next : c.nextQueueSequence = s.nextQueueSequence
  tick : c.canonicalTick = s.canonicalTick

theorem settled_fields (hr : restoreCandidate s.snapshot.settled = some c) :
    c.currentThreadId = s.currentThreadId ∧ c.nextQueueSequence = s.nextQueueSequence ∧
      c.canonicalTick = s.canonicalTick := by
  obtain ⟨c₁, hthreads, -, -, hqueues, -⟩ := restoreCandidate_eq_some.mp hr
  obtain ⟨-, -, hq⟩ :=
    restoreQueues_spec hqueues (queuedBySequence_sorted _) fun _ _ => Fin.zero_le _
  have hfields := (restoreThreads_spec hthreads).1
  have hcur := hq.current
  have hnext := hq.next
  have htick := hq.tick
  rw [hfields] at hcur hnext htick
  exact ⟨hcur, hnext, htick⟩

theorem settled_threads (hr : restoreCandidate s.snapshot.settled = some c) (i : Int) :
    c.thread? i = (s.thread? i).map ThreadRecord.settled := by
  obtain ⟨c₁, hthreads, -, -, hqueues, -⟩ := restoreCandidate_eq_some.mp hr
  obtain ⟨-, -, hq⟩ :=
    restoreQueues_spec hqueues (queuedBySequence_sorted _) fun _ _ => Fin.zero_le _
  have hthread : c.thread? i = c₁.thread? i := by
    unfold thread?
    rw [hq.threads]
  refine Option.ext fun t => ?_
  rw [hthread, restoreThreads_iff hthreads fun _ => rfl, snapshotOf_mem_settled,
    Option.map_eq_some_iff]

theorem settled_thread (hr : restoreCandidate s.snapshot.settled = some c)
    (ht : s.thread? i = some th) : c.thread? i = some th.settled := by
  rw [settled_threads hr, ht]
  rfl

/-- A record of the restored scheduler comes from a record of the saved one. -/
theorem of_settled_thread {t : ThreadRecord} (hr : restoreCandidate s.snapshot.settled = some c)
    (ht : c.thread? i = some t) : ∃ th, s.thread? i = some th ∧ th.settled = t := by
  rw [settled_threads hr] at ht
  exact Option.map_eq_some_iff.mp ht

theorem settled_sequenceOf (hr : restoreCandidate s.snapshot.settled = some c)
    (h : EeSchedulerThreadHandle) : c.sequenceOf h = s.sequenceOf h := by
  unfold sequenceOf
  rw [settled_threads hr, Option.map_map]
  cases s.thread? h.id with
  | none => rfl
  | some th => exact ThreadRecord.settled_queueSequence

/-- A thread waits in the restored scheduler if it waited on the key in the saved one, and was no
HLE waiter. -/
theorem settled_holds_inWait (hr : restoreCandidate s.snapshot.settled = some c)
    {k : EeSchedulerWaitKey} {h : EeSchedulerThreadHandle} :
    c.Holds (·.InWait k) h ↔ s.Holds (fun th => th.InWait k ∧ th.hleWait = false) h := by
  constructor
  · rintro ⟨t, ht, hg, hin⟩
    obtain ⟨th, hth, rfl⟩ := of_settled_thread hr ht
    exact ⟨th, hth, ThreadRecord.settled_generation.symm.trans hg,
      ThreadRecord.inWait_of_settled hin⟩
  · rintro ⟨th, ht, hg, hin, hno⟩
    refine ⟨th.settled, settled_thread hr ht, ThreadRecord.settled_generation.trans hg, ?_⟩
    rw [ThreadRecord.settled_of_not_hleWait hno]
    exact hin

/-- A wait queue nobody of which is an HLE waiter is restored. -/
theorem Wf.settled_waitQueue (w : Wf s) (hr : restoreCandidate s.snapshot.settled = some c)
    {k : EeSchedulerWaitKey}
    (hno : ∀ i th, s.thread? i = some th → th.InWait k → th.hleWait = false) :
    c.waitQueue k = s.waitQueue k := by
  refine ((wf_restoreCandidate hr).wait k).unique ((w.wait k).congr (fun h => ?_)
    fun h _ => settled_sequenceOf hr h)
  rw [settled_holds_inWait hr]
  refine and_congr_right fun _ => ⟨?_, ?_⟩
  · rintro ⟨th, ht, hg, hin, -⟩
    exact ⟨th, ht, hg, hin⟩
  · rintro ⟨th, ht, hg, hin⟩
    exact ⟨th, ht, hg, hin, hno _ _ ht hin⟩

theorem settled_hleQueue (hr : restoreCandidate s.snapshot.settled = some c)
    {k : EeSchedulerWaitKey} (hk : k.kind = .HleSemaphore) : c.waitQueue k = [] := by
  refine List.eq_nil_iff_forall_not_mem.mpr fun h hm => ?_
  obtain ⟨th, -, -, hin, hno⟩ :=
    (settled_holds_inWait hr).mp ((wf_restoreCandidate hr).mem_wait.mp hm)
  unfold ThreadRecord.hleWait at hno
  rw [hin.2, hk] at hno
  cases hno

theorem Wf.settled_readyQueue (w : Wf s) (hr : restoreCandidate s.snapshot.settled = some c)
    (p : Priority) : (c.readyQueues p).filter (· ∈ s.readyQueues p) = s.readyQueues p := by
  have hc := wf_restoreCandidate hr
  have hstays : ∀ h ∈ s.readyQueues p, h ∈ c.readyQueues p := by
    intro h hm
    obtain ⟨th, ht, hg, hin⟩ := w.mem_ready.mp hm
    exact hc.mem_ready.mpr ⟨th.settled, settled_thread hr ht,
      ThreadRecord.settled_generation.trans hg, (w.records not_false ht).inReady_settled hin⟩
  have hfiltered : IsQueue s.sequenceOf (· ∈ s.readyQueues p)
      ((c.readyQueues p).filter (· ∈ s.readyQueues p)) := by
    refine ⟨?_, fun h => ?_⟩
    · refine ((hc.ready p).sorted.filter _).imp fun {a b} hab => ?_
      rw [← settled_sequenceOf hr, ← settled_sequenceOf hr]
      exact hab
    · rw [List.mem_filter, decide_eq_true_eq]
      exact and_iff_right_of_imp (hstays h)
  exact hfiltered.unique ⟨(w.ready p).sorted, fun h => Iff.rfl⟩

/-- **What `restore` accepts of a settled snapshot** is the scheduler with the HLE waiters taken
out of their waits, if the HLE waiters among the waiting threads wait on HLE semaphores. -/
theorem Wf.settled (w : Wf s) (hr : restoreCandidate s.snapshot.settled = some c)
    (hkind : ∀ i th, s.thread? i = some th → th.hleWait = true → th.state = .Waiting →
      th.wait.kind = .HleSemaphore) : Settled s c := by
  have hc := wf_restoreCandidate hr
  have hfields := settled_fields hr
  refine ⟨hfields.1, settled_threads hr, w.settled_readyQueue hr, fun k hk => ?_,
    fun k hk => settled_hleQueue hr hk, hfields.2.1, hfields.2.2⟩
  refine w.settled_waitQueue hr fun i th ht hin => Bool.eq_false_iff.mpr fun hhle => hk ?_
  -- the record was accepted, so it is not `WaitSuspended`
  have hok := hc.records not_false (settled_thread hr ht)
  have hst := (w.records not_false ht).settles hhle hok
  rw [← hin.2]
  refine hkind i th ht hhle ?_
  rcases hin.1 with e | e
  · exact e
  · rw [ThreadRecord.Settles, e] at hst
    rcases hst with e' | e' | e' <;> cases e'

/-! ## When it is accepted -/

/-- **The settled snapshot is accepted** exactly if every HLE waiter is Ready, Waiting or
Suspended. -/
theorem Wf.settled_accepted_iff (w : Wf s) (hn : s.nextQueueSequence ≠ 0) :
    (∃ c, restoreCandidate s.snapshot.settled = some c) ↔
      ∀ i th, s.thread? i = some th → th.hleWait = true → th.Settles := by
  constructor
  · rintro ⟨c, hr⟩ i th ht hhle
    have hok := (wf_restoreCandidate hr).records not_false (settled_thread hr ht)
    exact (w.records not_false ht).settles hhle hok
  · intro hsettles
    -- the records
    obtain ⟨c₁, hc₁⟩ := restoreThreads_isSome (c :=
        { nextQueueSequence := s.snapshot.settled.nextQueueSequence
          canonicalTick := s.snapshot.settled.canonicalTick
          currentThreadId := s.snapshot.settled.currentThreadId })
      (settled_ids s) fun source hm => by
        obtain ⟨i, th, ht, rfl⟩ := mem_snapshot_settled.mp hm
        obtain ⟨hid, hgen⟩ := w.ids not_false ht
        have hgen' : th.settled.generation ≠ 0 := by rwa [ThreadRecord.settled_generation]
        exact ⟨Option.isSome_iff_exists.mpr ⟨_, recordOf_eq_some.mpr ⟨hid, hgen', rfl⟩⟩, rfl⟩
    -- the queues
    have hplace : ∀ source ∈ queuedBySequence s.snapshot.settled.threads,
        (∃ p, readyAt p source = true) ∨ ∃ k, waitAt k source = true := by
      intro source hm
      obtain ⟨hm, hq⟩ := mem_queuedBySequence.mp hm
      obtain ⟨i, th, ht, rfl⟩ := mem_snapshot_settled.mp hm
      have hok := (w.records not_false ht).settled (hsettles i th ht)
      have hs := hok.state
      unfold ThreadRecord.StateOk at hs
      cases hst : th.settled.state <;> rw [hst] at hs
      case Ready => exact Or.inl ⟨_, readyAt_snapshotOf.mpr ⟨hst, rfl⟩⟩
      case Waiting => exact Or.inr ⟨_, waitAt_snapshotOf.mpr ⟨Or.inl hst, rfl⟩⟩
      case WaitSuspended => exact Or.inr ⟨_, waitAt_snapshotOf.mpr ⟨Or.inr hst, rfl⟩⟩
      case Dormant => exact absurd hs.2.2.2.2 hq
      case Running => exact absurd hs.2.2.2 hq
      case Suspended => exact absurd hs.2.2 hq
    obtain ⟨c, hc⟩ := restoreQueues_isSome (c := c₁) w.settled_sorted
      (fun source hm => Fin.pos_iff_ne_zero.mpr (mem_queuedBySequence.mp hm).2) hplace
    have hmax : maximumQueueSequence s.snapshot.settled.threads < s.nextQueueSequence := by
      refine maximumQueueSequence_lt hn fun source hm => ?_
      obtain ⟨i, th, ht, rfl⟩ := mem_snapshot_settled.mp hm
      have hlt := w.issued not_false ht
      unfold sequenceEnd at hlt
      rw [if_neg hn] at hlt
      change th.settled.queueSequence < s.nextQueueSequence
      rw [ThreadRecord.settled_queueSequence]
      exact hlt
    -- the candidate is well-formed
    obtain ⟨-, -, hq⟩ :=
      restoreQueues_spec hc (queuedBySequence_sorted _) fun _ _ => Fin.zero_le _
    have hfields := (restoreThreads_spec hc₁).1
    have hthread : ∀ j t, c.thread? j = some t ↔ ∃ th, s.thread? j = some th ∧ th.settled = t := by
      intro j t
      have he : c.thread? j = c₁.thread? j := by
        unfold thread?
        rw [hq.threads]
      rw [he, restoreThreads_iff hc₁ fun _ => rfl, snapshotOf_mem_settled]
    have hcurrent : c.currentThreadId = s.currentThreadId := by
      rw [hq.current, hfields]
      rfl
    have hwf : Wf c := by
      refine wf_candidate hc₁ hn hmax hc (fun {j t} ht => ?_) fun j => ?_
      · obtain ⟨th, hth, rfl⟩ := (hthread j t).mp ht
        exact (w.records not_false hth).settled (hsettles j th hth)
      · rw [hcurrent, w.current]
        constructor
        · rintro ⟨-, th, ht, hrun⟩
          exact ⟨th.settled, (hthread j _).mpr ⟨th, ht, rfl⟩,
            (ThreadRecord.settled_running (hsettles j th ht)).mpr hrun⟩
        · rintro ⟨t, ht, hrun⟩
          obtain ⟨th, hth, rfl⟩ := (hthread j t).mp ht
          exact ⟨not_false, th, hth, (ThreadRecord.settled_running (hsettles j th hth)).mp hrun⟩
    exact ⟨c, restoreCandidate_eq_some.mpr ⟨c₁, hc₁, hn, hmax, hc, hwf.validate_eq⟩⟩

end EeThreadScheduler

end Ps2Recomp
