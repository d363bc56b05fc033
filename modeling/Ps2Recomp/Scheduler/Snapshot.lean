import Ps2Recomp.Scheduler.Run

/-!
# Saving and restoring

A snapshot carries no queue. `restore` rebuilds them by sorting the entries on `queueSequence`,
and `restoreCandidate_snapshot` says that this gives back the very scheduler the snapshot was taken
of: a well-formed queue is determined by its members and their sequences (`IsQueue.unique`).

The one state of a run that does not survive is the one whose counter has wrapped to zero, with
all `2 ^ 64 - 1` sequences allocated: `restore` refuses a counter of zero.
-/

namespace Ps2Recomp

open KeyedQueue Machine

namespace EeThreadScheduler

variable {s s' : EeThreadScheduler} {i : Int} {th : ThreadRecord}

/-! ## The entries of a snapshot -/

theorem mem_snapshot {source : EeSchedulerThreadSnapshot} :
    source ∈ s.snapshot.threads ↔
      ∃ i th, s.thread? i = some th ∧ snapshotOf i th = source := by
  unfold snapshot thread
  simp only [List.mem_filterMap, Finset.mem_sort, Option.map_eq_some_iff]
  constructor
  · rintro ⟨i, -, th, ht, he⟩
    exact ⟨i, th, ht, he⟩
  · rintro ⟨i, th, ht, he⟩
    exact ⟨i, Finmap.mem_keys.mpr (Finmap.mem_of_lookup_eq_some ht), th, ht, he⟩

theorem snapshotOf_mem_snapshot : snapshotOf i th ∈ s.snapshot.threads ↔ s.thread? i = some th := by
  rw [mem_snapshot]
  constructor
  · rintro ⟨j, th', ht, he⟩
    obtain rfl : j = i := congrArg EeSchedulerThreadSnapshot.id he
    rw [ht, snapshotOf_injective he]
  · exact fun ht => ⟨i, th, ht, rfl⟩

/-- The entries come in increasing order of id. -/
theorem snapshot_ids (s : EeThreadScheduler) :
    s.snapshot.threads.Pairwise fun a b => a.id ≠ b.id := by
  unfold snapshot
  simp only
  rw [List.pairwise_filterMap]
  refine (s.threads.keys.sort_nodup (· ≤ ·)).imp ?_
  intro a b hab source hs source' hs'
  obtain ⟨th, -, rfl⟩ := Option.map_eq_some_iff.mp hs
  obtain ⟨th', -, rfl⟩ := Option.map_eq_some_iff.mp hs'
  exact hab

/-! ## The loops of `restore` succeed -/

theorem restoreThreads_isSome {c : EeThreadScheduler} {l : List EeSchedulerThreadSnapshot}
    (hids : l.Pairwise fun a b => a.id ≠ b.id)
    (hok : ∀ source ∈ l, (recordOf source).isSome ∧ c.thread? source.id = none) :
    ∃ c', restoreThreads c l = some c' := by
  induction l generalizing c with
  | nil => exact ⟨c, rfl⟩
  | cons source rest ih =>
    obtain ⟨hrec, hnew⟩ := hok source List.mem_cons_self
    obtain ⟨t, ht⟩ := Option.isSome_iff_exists.mp hrec
    obtain ⟨hne, hids⟩ := List.pairwise_cons.mp hids
    unfold restoreThreads
    simp only [ht, hnew, Option.isSome_none, Bool.false_eq_true, if_false]
    refine ih hids fun src hm => ⟨(hok src (List.mem_cons_of_mem _ hm)).1, ?_⟩
    rw [thread?_setThread, if_neg (hne src hm).symm]
    exact (hok src (List.mem_cons_of_mem _ hm)).2

theorem restoreQueues_isSome {c : EeThreadScheduler} {previous : QueueSequence}
    {l : List EeSchedulerThreadSnapshot}
    (hlt : l.Pairwise fun a b => a.queueSequence < b.queueSequence)
    (hprev : ∀ source ∈ l, previous < source.queueSequence)
    (hplace : ∀ source ∈ l, (∃ p, readyAt p source = true) ∨ ∃ k, waitAt k source = true) :
    ∃ c', restoreQueues c previous l = some c' := by
  induction l generalizing c previous with
  | nil => exact ⟨c, rfl⟩
  | cons source rest ih =>
    obtain ⟨hfirst, hlt⟩ := List.pairwise_cons.mp hlt
    have hentry : ∃ c', restoreEntry c source = some c' := by
      rcases hplace source List.mem_cons_self with ⟨p, hp⟩ | ⟨k, hk⟩
      · unfold readyAt at hp
        rw [Bool.and_eq_true, beq_iff_eq, beq_iff_eq] at hp
        obtain ⟨c', he, -⟩ := restoreEntry_ready (c := c) hp.1 hp.2
        exact ⟨c', he⟩
      · unfold waitAt at hk
        rw [Bool.and_eq_true, Bool.or_eq_true, beq_iff_eq, beq_iff_eq] at hk
        obtain ⟨c', he, -⟩ := restoreEntry_wait (c := c) hk.1
        exact ⟨c', he⟩
    obtain ⟨c', he⟩ := hentry
    rw [restoreQueues_cons, if_neg (ne_of_gt (hprev source List.mem_cons_self)), he,
      Option.bind_some]
    exact ih hlt hfirst fun src hm => hplace src (List.mem_cons_of_mem _ hm)

theorem maximumQueueSequence_lt {l : List EeSchedulerThreadSnapshot} {n : QueueSequence}
    (hn : n ≠ 0) (hl : ∀ source ∈ l, source.queueSequence < n) : maximumQueueSequence l < n := by
  unfold maximumQueueSequence
  have h0 : (0 : QueueSequence) < n := Fin.pos_iff_ne_zero.mpr hn
  generalize (0 : QueueSequence) = m at h0
  induction l generalizing m with
  | nil => exact h0
  | cons source rest ih =>
    exact ih (fun src hm => hl src (List.mem_cons_of_mem _ hm)) _
      (max_lt h0 (hl source List.mem_cons_self))

/-! ## The round trip -/

/-- Wait queues that agree as queues agree as a map, if neither stores an empty one. -/
theorem waitQueues_ext (hs : ∀ k, s.waitQueues.lookup k ≠ some [])
    (hs' : ∀ k, s'.waitQueues.lookup k ≠ some []) (hq : ∀ k, s.waitQueue k = s'.waitQueue k) :
    s.waitQueues = s'.waitQueues := by
  refine Finmap.ext_lookup fun k => ?_
  have hk := hq k
  unfold waitQueue at hk
  cases he : s.waitQueues.lookup k with
  | none =>
    rw [he, Option.getD_none] at hk
    cases he' : s'.waitQueues.lookup k with
    | none => rfl
    | some q =>
      rw [he', Option.getD_some] at hk
      exact absurd (hk ▸ he') (hs' k)
  | some q =>
    rw [he, Option.getD_some] at hk
    cases he' : s'.waitQueues.lookup k with
    | none =>
      rw [he', Option.getD_none] at hk
      exact absurd (hk ▸ he) (hs k)
    | some q' =>
      rw [he', Option.getD_some] at hk
      rw [hk]

/-- Entries of distinct ids, no two of them with one queue sequence, are queued in strictly
increasing order. -/
theorem queuedBySequence_strict {l : List EeSchedulerThreadSnapshot}
    (hids : l.Pairwise fun a b => a.id ≠ b.id)
    (hdistinct : ∀ a ∈ l, ∀ b ∈ l, a.queueSequence = b.queueSequence → a.queueSequence ≠ 0 →
      a = b) :
    (queuedBySequence l).Pairwise fun a b => a.queueSequence < b.queueSequence := by
  have hnodup : (queuedBySequence l).Nodup := by
    unfold queuedBySequence
    refine (List.perm_insertionSort _ _).nodup_iff.mpr (List.Nodup.filter _ ?_)
    exact hids.imp fun h e => h (congrArg _ e)
  refine ((queuedBySequence_sorted _).and hnodup).imp_of_mem fun {a b} ha hb h => ?_
  refine lt_of_le_of_ne h.1 fun hab => h.2 ?_
  obtain ⟨ha, hane⟩ := mem_queuedBySequence.mp ha
  obtain ⟨hb, -⟩ := mem_queuedBySequence.mp hb
  exact hdistinct a ha b hb hab hane

/-- The queued entries of a well-formed scheduler's snapshot have distinct sequences. -/
theorem Wf.queued_sorted (w : Wf s) :
    (queuedBySequence s.snapshot.threads).Pairwise
      fun a b => a.queueSequence < b.queueSequence := by
  refine queuedBySequence_strict (snapshot_ids s) fun a ha b hb hab hane => ?_
  obtain ⟨i, th, ht, rfl⟩ := mem_snapshot.mp ha
  obtain ⟨j, th', ht', rfl⟩ := mem_snapshot.mp hb
  obtain rfl := w.distinct not_false not_false ht ht' hab hane
  rw [Option.some.inj (ht.symm.trans ht')]

/-- A thread with a queue sequence is in a queue. -/
theorem Wf.placed_of_sequence (w : Wf s) (ht : s.thread? i = some th)
    (hq : th.queueSequence ≠ 0) : (∃ p, th.InReady p) ∨ ∃ k, th.InWait k := by
  have hs := (w.records not_false ht).state
  unfold ThreadRecord.StateOk at hs
  cases hst : th.state <;> rw [hst] at hs
  · exact absurd hs.2.2.2.2 hq
  · exact Or.inl ⟨_, hst, rfl⟩
  · exact absurd hs.2.2.2 hq
  · exact Or.inr ⟨_, Or.inl hst, rfl⟩
  · exact absurd hs.2.2 hq
  · exact Or.inr ⟨_, Or.inr hst, rfl⟩

/-- The queue sequence of a thread in a queue is not zero. -/
theorem Wf.sequence_ne_zero (w : Wf s) (ht : s.thread? i = some th)
    (hst : th.state = .Ready ∨ th.state = .Waiting ∨ th.state = .WaitSuspended) :
    th.queueSequence ≠ 0 := by
  have hs := (w.records not_false ht).state
  unfold ThreadRecord.StateOk at hs
  rcases hst with e | e | e <;> rw [e] at hs
  · exact hs.2.2
  · exact hs.2.2.2.2
  · exact hs.2.2.2.2

/-- **Restoring a well-formed scheduler's snapshot gives the scheduler back.** -/
theorem Wf.restoreCandidate_snapshot (w : Wf s) (hn : s.nextQueueSequence ≠ 0) :
    restoreCandidate s.snapshot = some s := by
  -- the records
  have hrec : ∀ source ∈ s.snapshot.threads, (recordOf source).isSome := by
    intro source hm
    obtain ⟨i, th, ht, rfl⟩ := mem_snapshot.mp hm
    obtain ⟨hid, hgen⟩ := w.ids not_false ht
    exact Option.isSome_iff_exists.mpr ⟨th, recordOf_eq_some.mpr ⟨hid, hgen, rfl⟩⟩
  obtain ⟨c₁, hc₁⟩ := restoreThreads_isSome (c :=
      { nextQueueSequence := s.snapshot.nextQueueSequence
        canonicalTick := s.snapshot.canonicalTick
        currentThreadId := s.snapshot.currentThreadId })
    (snapshot_ids s) fun source hm => ⟨hrec source hm, rfl⟩
  have hthreads : c₁.threads = s.threads := by
    refine Finmap.ext_lookup fun i => Option.ext fun th => ?_
    exact (restoreThreads_iff hc₁ fun _ => rfl).trans snapshotOf_mem_snapshot
  have hfields := (restoreThreads_spec hc₁).1
  -- the queues
  have hplace : ∀ source ∈ queuedBySequence s.snapshot.threads,
      (∃ p, readyAt p source = true) ∨ ∃ k, waitAt k source = true := by
    intro source hm
    obtain ⟨hm, hq⟩ := mem_queuedBySequence.mp hm
    obtain ⟨i, th, ht, rfl⟩ := mem_snapshot.mp hm
    exact (w.placed_of_sequence ht hq).imp (.imp fun _ => readyAt_snapshotOf.mpr)
      (.imp fun _ => waitAt_snapshotOf.mpr)
  obtain ⟨c, hc⟩ := restoreQueues_isSome (c := c₁) w.queued_sorted
    (fun source hm => Fin.pos_iff_ne_zero.mpr (mem_queuedBySequence.mp hm).2) hplace
  obtain ⟨-, -, hq⟩ := restoreQueues_spec hc (queuedBySequence_sorted _) fun _ _ => Fin.zero_le _
  have hentry : ∀ source ∈ s.snapshot.threads, ∃ th, snapshotOf source.id th = source := by
    intro source hm
    obtain ⟨i, th, -, rfl⟩ := mem_snapshot.mp hm
    exact ⟨th, rfl⟩
  have hready : ∀ p, c.readyQueues p = s.readyQueues p := by
    intro p
    rw [hq.ready, hfields]
    refine IsQueue.unique (isQueue_restored snapshotOf_mem_snapshot.symm hentry
      (fun _ => mem_queuedBySequence) w.queued_sorted (fun _ _ => readyAt_snapshotOf)
      fun j th ht hin => w.sequence_ne_zero ht (Or.inl hin.1)) (w.ready p)
  have hwait : ∀ k, c.waitQueue k = s.waitQueue k := by
    intro k
    rw [hq.wait, hfields]
    refine IsQueue.unique (isQueue_restored snapshotOf_mem_snapshot.symm hentry
      (fun _ => mem_queuedBySequence) w.queued_sorted (fun _ _ => waitAt_snapshotOf)
      fun j th ht hin => w.sequence_ne_zero ht (Or.inr hin.1)) (w.wait k)
  have hnonempty : ∀ k, c.waitQueues.lookup k ≠ some [] := by
    refine hq.nonempty fun k => ?_
    rw [hfields]
    simp
  have hcs : c = s := by
    have hwaits := waitQueues_ext hnonempty w.nonempty hwait
    have hreadys : c.readyQueues = s.readyQueues := funext hready
    have hths := hq.threads.trans hthreads
    have hcur := hq.current
    have hnext := hq.next
    have htick := hq.tick
    rw [hfields] at hcur hnext htick
    cases c
    cases s
    cases hwaits
    cases hreadys
    cases hths
    cases hcur
    cases hnext
    cases htick
    rfl
  refine restoreCandidate_eq_some.mpr ⟨c₁, hc₁, hn, ?_, ?_, w.validate_eq⟩
  · refine maximumQueueSequence_lt hn fun source hm => ?_
    obtain ⟨i, th, ht, rfl⟩ := mem_snapshot.mp hm
    have hlt := w.issued not_false ht
    unfold sequenceEnd at hlt
    rw [if_neg hn] at hlt
    exact hlt
  · rw [hc, hcs]

end EeThreadScheduler

namespace Ledger

open EeThreadScheduler

/-- Every queue is in strictly increasing order of its threads' queue sequences. -/
def QueuesSorted (s : EeThreadScheduler) : Prop :=
  (∀ p, (s.readyQueues p).Pairwise fun a b => s.sequenceOf a < s.sequenceOf b) ∧
    ∀ k, (s.waitQueue k).Pairwise fun a b => s.sequenceOf a < s.sequenceOf b

/-- A snapshot with a counter of zero is refused. -/
theorem restore_of_next_eq_zero {state : EeThreadSchedulerSnapshot}
    (h0 : state.nextQueueSequence = 0) (other : EeThreadScheduler) :
    other.restore state = (false, other) := by
  rcases restore_cases other state with he | ⟨c, hr, -⟩
  · exact he
  · exact absurd h0 (restoreCandidate_next hr).1

/-- **A save-state round trip is the identity** on every state of a run, and needs only the queue
sequences to be; with all `2 ^ 64 - 1` sequences allocated the snapshot is refused. -/
theorem restore_snapshot_of_run (ops : List SchedulerOp)
    (hfew : Along step (Below uint64Count) {} ops) (other : EeThreadScheduler) :
    other.restore (run step {} ops).scheduler.snapshot =
        (if (run step {} ops).allocated + 1 < uint64Count then
          (true, (run step {} ops).scheduler) else (false, other)) ∧
      QueuesSorted (run step {} ops).scheduler := by
  have a := account_of_run hfew
  have w := a.wf
  have hbelow := a.below
  have hcounter := a.counter
  refine ⟨?_, fun p => (w.ready p).sorted, fun k => (w.wait k).sorted⟩
  split
  · rename_i hlt
    have hn : (run step {} ops).scheduler.nextQueueSequence ≠ 0 := by
      intro h0
      rw [h0, Nat.mod_eq_of_lt hlt] at hcounter
      exact absurd hcounter.symm (Nat.succ_ne_zero _)
    unfold restore
    rw [w.restoreCandidate_snapshot hn]
  · rename_i hge
    refine restore_of_next_eq_zero (Fin.ext ?_) other
    rw [show (run step {} ops).allocated + 1 = uint64Count by omega, Nat.mod_self] at hcounter
    exact hcounter

theorem restore_snapshot_of_semaphoreRun :
    (EeThreadScheduler.restore {} (run step {} semaphoreRun).scheduler.snapshot =
        if (run step {} semaphoreRun).allocated + 1 < uint64Count then
          (true, (run step {} semaphoreRun).scheduler) else (false, {})) ∧
      QueuesSorted (run step {} semaphoreRun).scheduler :=
  restore_snapshot_of_run semaphoreRun (by decide +kernel) {}

/-- The last sequence leaves a counter of zero, which `restore` refuses. -/
theorem last_sequence_not_restored :
    ¬ ∀ ops : List SchedulerOp, Along step (Below uint64Count) {} ops →
      ∀ other : EeThreadScheduler,
        (other.restore (run step {} ops).scheduler.snapshot).1 = true := by
  intro h
  have ht := h [.restore exhaustedSnapshot, .startThread ⟨1, 1⟩] (by decide +kernel) {}
  rw [restore_of_next_eq_zero (by decide +kernel)] at ht
  cases ht

end Ledger

end Ps2Recomp
