import Ps2Recomp.Scheduler.Located

/-!
# Taking a thread off its place and putting it somewhere

The two rules behind every operation, `Wf.detach` and `WfExcept.attach`, and their cases: where
the thread comes from (`detach_idle`, `detach_running`, `detach_ready`, `detach_wait`) and where it
goes (`attach_idle`, `attach_ready`, `attach_wait`, `attach_running`, `attach_erase`).
`Wf.update` is the change of a record that keeps its place.
-/

namespace Ps2Recomp

open KeyedQueue

namespace EeThreadScheduler

variable {s s' : EeThreadScheduler} {i j : Int} {th th' : ThreadRecord}
  {h : EeSchedulerThreadHandle} {p : Priority} {k : EeSchedulerWaitKey}

/-! ## Detaching -/

theorem Wf.erase_ready (w : Wf s) (ht : s.thread? i = some th) (hp : ¬ th.InReady p) :
    (s.readyQueues p).erase ⟨i, th.generation⟩ = s.readyQueues p := by
  apply List.erase_of_not_mem
  intro hm
  obtain ⟨t, ht', -, hq⟩ := w.mem_ready.mp hm
  obtain rfl : th = t := Option.some.inj (ht.symm.trans ht')
  exact hp hq

theorem Wf.erase_wait (w : Wf s) (ht : s.thread? i = some th) (hk : ¬ th.InWait k) :
    (s.waitQueue k).erase ⟨i, th.generation⟩ = s.waitQueue k := by
  apply List.erase_of_not_mem
  intro hm
  obtain ⟨t, ht', -, hq⟩ := w.mem_wait.mp hm
  obtain rfl : th = t := Option.some.inj (ht.symm.trans ht')
  exact hk hq

/-- The queue of the threads satisfying `Q`, without thread `i`. -/
theorem isQueue_detach {Q : ThreadRecord → Prop} {l : List EeSchedulerThreadHandle}
    (ht : s.thread? i = some th) (hthreads : s'.thread? = s.thread?)
    (q : IsQueue s.sequenceOf (fun h => ¬ False ∧ s.Holds Q h) l) :
    IsQueue s'.sequenceOf (fun h => ¬ h.id = i ∧ s'.Holds Q h) (l.erase ⟨i, th.generation⟩) := by
  refine (q.erase ⟨i, th.generation⟩).congr (fun a => ?_) fun a _ => ?_
  · simp only [Holds, hthreads, not_false_eq_true, true_and]
    constructor
    · rintro ⟨hne, hh⟩
      exact ⟨hh, fun e => hne (by rw [e])⟩
    · rintro ⟨⟨t, ht', hg, hq⟩, hne⟩
      refine ⟨fun e => hne ?_, t, ht', hg, hq⟩
      rw [e, ht] at ht'
      obtain rfl := Option.some.inj ht'
      cases a
      simp only at e hg
      rw [e, hg]
  · simp only [sequenceOf, hthreads]

/-- Thread `i` leaves its queue and the CPU. -/
theorem Wf.detach (w : Wf s) (ht : s.thread? i = some th) (hthreads : s'.thread? = s.thread?)
    (hnext : s'.nextQueueSequence = s.nextQueueSequence)
    (hready : ∀ p, s'.readyQueues p = (s.readyQueues p).erase ⟨i, th.generation⟩)
    (hwait : ∀ k, s'.waitQueue k = (s.waitQueue k).erase ⟨i, th.generation⟩)
    (hne : ∀ k, s'.waitQueues.lookup k ≠ some [])
    (hcur : ∀ j, s'.currentThreadId = some j ↔ s.currentThreadId = some j ∧ j ≠ i) :
    WfExcept (· = i) s' where
  ids _ hj := by rw [hthreads] at hj; exact w.ids not_false hj
  records _ hj := by rw [hthreads] at hj; exact w.records not_false hj
  issued _ hj := by
    rw [hthreads] at hj
    have := w.issued not_false hj
    unfold sequenceEnd at this ⊢
    rwa [hnext]
  distinct _ _ ha hb := by
    rw [hthreads] at ha hb
    exact w.distinct not_false not_false ha hb
  ready p := by rw [hready p]; exact isQueue_detach ht hthreads (w.ready p)
  wait k := by rw [hwait k]; exact isQueue_detach ht hthreads (w.wait k)
  nonempty := hne
  current j := by
    rw [hcur j, w.current j, hthreads]
    simp only [not_false_eq_true, true_and]
    exact and_comm

/-- A thread that is Dormant or Suspended is in no queue. -/
theorem Wf.detach_idle (w : Wf s) (ht : s.thread? i = some th)
    (hst : th.state = .Dormant ∨ th.state = .Suspended) : WfExcept (· = i) s := by
  refine w.detach ht rfl rfl (fun p => (w.erase_ready ht ?_).symm)
    (fun k => (w.erase_wait ht ?_).symm) w.nonempty fun j => ?_
  · rintro ⟨hr, -⟩
    rcases hst with e | e <;> rw [e] at hr <;> cases hr
  · rintro ⟨hr, -⟩
    rcases hst with e | e <;> rw [e] at hr <;> rcases hr with hr | hr <;> cases hr
  · refine ⟨fun hc => ⟨hc, ?_⟩, And.left⟩
    rintro rfl
    obtain ⟨t, ht', hr⟩ := w.current_running hc
    rw [ht] at ht'
    obtain rfl := Option.some.inj ht'
    rcases hst with e | e <;> rw [e] at hr <;> cases hr

/-- The current thread stops being current. -/
theorem Wf.detach_running (w : Wf s) (hc : s.currentThreadId = some i) :
    WfExcept (· = i) { s with currentThreadId := none } := by
  obtain ⟨th, ht, hr⟩ := w.current_running hc
  refine w.detach ht rfl rfl (fun p => (w.erase_ready ht ?_).symm)
    (fun k => (w.erase_wait ht ?_).symm) w.nonempty fun j => ?_
  · rintro ⟨e, -⟩
    rw [hr] at e
    cases e
  · rintro ⟨e, -⟩
    rw [hr] at e
    rcases e with e | e <;> cases e
  · simp only [reduceCtorEq, false_iff, not_and, not_not]
    intro hj
    exact Option.some.inj (hj.symm.trans hc)

theorem Wf.removeReady_eq (w : Wf s) (hf : s.findThread h = some th) (hr : th.state = .Ready) :
    s.removeReady h th.priority =
      some { s with
        readyQueues := Function.update s.readyQueues th.priority
          ((s.readyQueues th.priority).erase h) } :=
  w.located.removeReady_eq hf hr

theorem Wf.detach_ready (w : Wf s) (hf : s.findThread h = some th) (hr : th.state = .Ready)
    (hs : s.removeReady h th.priority = some s') : WfExcept (· = h.id) s' := by
  obtain ⟨-, ht, hg⟩ := findThread_eq_some.mp hf
  rw [w.removeReady_eq hf hr] at hs
  obtain rfl := Option.some.inj hs
  refine w.detach ht rfl rfl (fun p => ?_) (fun k => (w.erase_wait ht ?_).symm) w.nonempty
    fun j => ?_
  · by_cases hp : p = th.priority
    · subst hp
      rw [hg]
      exact Function.update_self ..
    · rw [w.erase_ready ht fun e => hp e.2.symm]
      exact Function.update_of_ne hp ..
  · rintro ⟨e, -⟩
    rw [hr] at e
    rcases e with e | e <;> cases e
  · refine w.located.current_ne ht (fun e => ?_) j
    rw [hr] at e
    cases e

theorem Wf.removeWait_eq (w : Wf s) (hf : s.findThread h = some th)
    (hst : th.state = .Waiting ∨ th.state = .WaitSuspended) :
    s.removeWait h th.wait = some (s.setWaitQueue th.wait ((s.waitQueue th.wait).erase h)) :=
  w.located.removeWait_eq hf hst

theorem Wf.detach_setWaitQueue (w : Wf s) (ht : s.thread? h.id = some th)
    (hg : th.generation = h.generation) (hst : th.state = .Waiting ∨ th.state = .WaitSuspended) :
    WfExcept (· = h.id) (s.setWaitQueue th.wait ((s.waitQueue th.wait).erase h)) := by
  refine w.detach ht rfl rfl (fun p => (w.erase_ready ht ?_).symm) (fun k => ?_)
    (setWaitQueue_nonempty w.nonempty _) fun j => ?_
  · rintro ⟨e, -⟩
    rcases hst with hs | hs <;> rw [hs] at e <;> cases e
  · rw [waitQueue_setWaitQueue]
    by_cases hk : k = th.wait
    · rw [if_pos hk, hk, hg]
    · rw [if_neg hk, w.erase_wait ht fun e => hk e.2.symm]
  · refine w.located.current_ne ht (fun e => ?_) j
    rcases hst with hs | hs <;> rw [hs] at e <;> cases e

/-- The head of a stored wait queue is a thread waiting on its key, and popping it detaches it. -/
theorem Wf.detach_waitHead (w : Wf s) {rest : List EeSchedulerThreadHandle}
    (hq : s.waitQueues.lookup k = some (h :: rest)) :
    ∃ th, s.findThread h = some th ∧ th.InWait k ∧
      WfExcept (· = h.id) (s.setWaitQueue k rest) := by
  obtain ⟨hwq, th, hf, hst, rfl⟩ := w.located.waitHead hq
  obtain ⟨-, ht, hg⟩ := findThread_eq_some.mp hf
  refine ⟨th, hf, ⟨hst, rfl⟩, ?_⟩
  have := w.detach_setWaitQueue ht hg hst
  rwa [hwq, List.erase_cons_head] at this

/-! ## Attaching -/

/-- The queue of the threads satisfying `Q`, with thread `i`'s new record taken in. -/
theorem isQueue_attach {Q : ThreadRecord → Prop} [Decidable (Q th')]
    {l l' : List EeSchedulerThreadHandle}
    (hthreads : ∀ j, s'.thread? j = if j = i then some th' else s.thread? j)
    (q : IsQueue s.sequenceOf (fun h => ¬ h.id = i ∧ s.Holds Q h) l)
    (hl : l' = if Q th' then l ++ [⟨i, th'.generation⟩] else l)
    (hseq : Q th' → ∀ h, h.id ≠ i → s.Holds Q h → s.sequenceOf h < th'.queueSequence) :
    IsQueue s'.sequenceOf (fun h => ¬ False ∧ s'.Holds Q h) l' := by
  have hself : s'.thread? i = some th' := by rw [hthreads, if_pos rfl]
  have hother : ∀ a : EeSchedulerThreadHandle, a.id ≠ i →
      (s'.Holds Q a ↔ s.Holds Q a) ∧ s'.sequenceOf a = s.sequenceOf a := fun a ha => by
    simp only [Holds, sequenceOf, hthreads, if_neg ha, and_self]
  have hsame : ∀ a : EeSchedulerThreadHandle, a.id = i →
      (s'.Holds Q a ↔ a = ⟨i, th'.generation⟩ ∧ Q th') := fun a ha => by
    simp only [Holds, ha, hself, Option.some.injEq, exists_eq_left']
    refine and_congr ⟨fun hg => ?_, fun e => by rw [e]⟩ Iff.rfl
    cases a
    simp only at ha hg
    rw [ha, hg]
  -- the queue seen with the new keys: nothing about the other threads changed
  have q' : IsQueue s'.sequenceOf (fun h => ¬ h.id = i ∧ s.Holds Q h) l :=
    q.congr (fun _ => Iff.rfl) fun a ha => (hother a ha.1).2
  by_cases hQ : Q th'
  · rw [hl, if_pos hQ]
    refine (q'.push fun a ha => ?_).congr (fun a => ?_) fun _ _ => rfl
    · rw [(hother a ha.1).2]
      refine lt_of_lt_of_eq (hseq hQ a ha.1 ha.2) ?_
      exact (sequenceOf_eq (h := ⟨i, th'.generation⟩) hself).symm
    · by_cases ha : a.id = i
      · rw [hsame a ha]
        simp [ha, hQ]
      · have hne : a ≠ ⟨i, th'.generation⟩ := fun e => ha (by rw [e])
        rw [(hother a ha).1]
        simp [ha, hne]
  · rw [hl, if_neg hQ]
    refine q'.congr (fun a => ?_) fun _ _ => rfl
    by_cases ha : a.id = i
    · rw [hsame a ha]
      simp [ha, hQ]
    · rw [(hother a ha).1]
      simp [ha]

/-- Thread `i` gets the record `th'` and the place it names. -/
theorem WfExcept.attach (w : WfExcept (· = i) s) (hok : th'.Ok) (hid : 0 < i)
    (hgen : th'.generation ≠ 0) (hthreads : ∀ j, s'.thread? j = if j = i then some th' else s.thread? j)
    (hready : ∀ p, s'.readyQueues p =
      if th'.InReady p then s.readyQueues p ++ [⟨i, th'.generation⟩] else s.readyQueues p)
    (hwait : ∀ k, s'.waitQueue k =
      if th'.InWait k then s.waitQueue k ++ [⟨i, th'.generation⟩] else s.waitQueue k)
    (hne : ∀ k, s'.waitQueues.lookup k ≠ some [])
    (hcur : ∀ j, s'.currentThreadId = some j ↔
      s.currentThreadId = some j ∨ (j = i ∧ th'.state = .Running))
    (hseq : (th'.queueSequence = 0 ∧ s'.nextQueueSequence = s.nextQueueSequence) ∨
      (th'.queueSequence = s.nextQueueSequence ∧ s.nextQueueSequence ≠ 0 ∧
        s'.nextQueueSequence = s.nextQueueSequence + 1)) : Wf s' := by
  have hself : s'.thread? i = some th' := by rw [hthreads, if_pos rfl]
  have hother : ∀ {j t}, j ≠ i → s'.thread? j = some t → s.thread? j = some t := by
    intro j t hj ht
    rwa [hthreads, if_neg hj] at ht
  have hend : s.sequenceEnd ≤ s'.sequenceEnd ∧ th'.queueSequence.val < s'.sequenceEnd := by
    unfold sequenceEnd
    rcases hseq with ⟨h0, hn⟩ | ⟨h0, hn0, hn⟩
    · rw [hn, h0]
      refine ⟨le_refl _, ?_⟩
      split
      · exact Nat.pos_of_neZero _
      · rename_i hne'
        exact Nat.pos_of_ne_zero fun e => hne' (Fin.ext e)
    · rw [hn, h0, if_neg hn0]
      have hlt := s.nextQueueSequence.isLt
      split
      · exact ⟨hlt.le, hlt⟩
      · rename_i hne'
        have hval := sequence_val_succ hne'
        omega
  have hfresh : ∀ {j t}, j ≠ i → s.thread? j = some t → th'.queueSequence ≠ 0 →
      t.queueSequence < th'.queueSequence := by
    intro j t hj ht h0
    rcases hseq with ⟨e, -⟩ | ⟨e, hn0, -⟩
    · exact absurd e h0
    · have := w.issued hj ht
      unfold sequenceEnd at this
      rw [if_neg hn0] at this
      rw [e]
      exact this
  have hnew : ∀ {Q : ThreadRecord → Prop}, th'.queueSequence ≠ 0 → ∀ h, h.id ≠ i →
      s.Holds Q h → s.sequenceOf h < th'.queueSequence := by
    rintro Q h0 a ha ⟨t, ht, -, -⟩
    rw [sequenceOf_eq ht]
    exact hfresh ha ht h0
  have hqueued : th'.state = .Ready ∨ th'.state = .Waiting ∨ th'.state = .WaitSuspended →
      th'.queueSequence ≠ 0 := by
    have hst := hok.state
    unfold ThreadRecord.StateOk at hst
    rintro (e | e | e) <;> rw [e] at hst
    · exact hst.2.2
    · exact hst.2.2.2.2
    · exact hst.2.2.2.2
  exact {
    ids := fun {j t} _ hj => by
      by_cases e : j = i
      · rw [e, hself] at hj
        obtain rfl := Option.some.inj hj
        exact ⟨e ▸ hid, hgen⟩
      · exact w.ids e (hother e hj)
    records := fun {j t} _ hj => by
      by_cases e : j = i
      · rw [e, hself] at hj
        obtain rfl := Option.some.inj hj
        exact hok
      · exact w.records e (hother e hj)
    issued := fun {j t} _ hj => by
      by_cases e : j = i
      · rw [e, hself] at hj
        obtain rfl := Option.some.inj hj
        exact hend.2
      · exact lt_of_lt_of_le (w.issued e (hother e hj)) hend.1
    distinct := fun {a b ta tb} _ _ ha hb he h0 => by
      by_cases ea : a = i <;> by_cases eb : b = i
      · rw [ea, eb]
      · rw [ea, hself] at ha
        obtain rfl := Option.some.inj ha
        exact absurd he.symm (ne_of_lt (hfresh eb (hother eb hb) h0))
      · rw [eb, hself] at hb
        obtain rfl := Option.some.inj hb
        exact absurd he (ne_of_lt (hfresh ea (hother ea ha) (he ▸ h0)))
      · exact w.distinct ea eb (hother ea ha) (hother eb hb) he h0
    ready := fun p => isQueue_attach hthreads (w.ready p) (hready p) fun hQ => hnew (hqueued (Or.inl hQ.1))
    wait := fun k => isQueue_attach hthreads (w.wait k) (hwait k) fun hQ => hnew (hqueued (Or.inr hQ.1))
    nonempty := hne
    current := fun j => by
      rw [hcur j, w.current j]
      by_cases e : j = i
      · rw [e, hself]
        simp
      · rw [hthreads, if_neg e]
        simp [e] }

theorem Wf.detach_new (w : Wf s) (ht : s.thread? i = none) : WfExcept (· = i) s where
  ids _ hj := w.ids not_false hj
  records _ hj := w.records not_false hj
  issued _ hj := w.issued not_false hj
  distinct _ _ ha hb := w.distinct not_false not_false ha hb
  ready p := (w.ready p).congr (fun a => by
    refine ⟨fun ha => ⟨not_false, ha.2⟩, fun ha => ⟨?_, ha.2⟩⟩
    rintro e
    obtain ⟨-, t, ht', -⟩ := ha
    rw [e, ht] at ht'
    cases ht') fun _ _ => rfl
  wait k := (w.wait k).congr (fun a => by
    refine ⟨fun ha => ⟨not_false, ha.2⟩, fun ha => ⟨?_, ha.2⟩⟩
    rintro e
    obtain ⟨-, t, ht', -⟩ := ha
    rw [e, ht] at ht'
    cases ht') fun _ _ => rfl
  nonempty := w.nonempty
  current j := by
    rw [w.current j]
    refine ⟨fun hc => ⟨?_, hc.2⟩, fun hc => ⟨not_false, hc.2⟩⟩
    rintro rfl
    obtain ⟨-, t, ht', -⟩ := hc
    rw [ht] at ht'
    cases ht'

/-- A record of a thread that is in no queue and not current. -/
theorem WfExcept.attach_idle (w : WfExcept (· = i) s) (hok : th'.Ok) (hid : 0 < i)
    (hgen : th'.generation ≠ 0) (hst : th'.state = .Dormant ∨ th'.state = .Suspended) :
    Wf (s.setThread i th') := by
  have hq : th'.queueSequence = 0 := by
    have hs := hok.state
    unfold ThreadRecord.StateOk at hs
    rcases hst with e | e <;> rw [e] at hs
    · exact hs.2.2.2.2
    · exact hs.2.2
  refine w.attach hok hid hgen (thread?_setThread i) (fun p => ?_) (fun k => ?_) w.nonempty
    (fun j => ?_) (Or.inl ⟨hq, rfl⟩)
  · rw [if_neg]
    · rfl
    · rintro ⟨e, -⟩
      rcases hst with e' | e' <;> rw [e'] at e <;> cases e
  · rw [if_neg]
    · rfl
    · rintro ⟨e, -⟩
      rcases hst with e' | e' <;> rw [e'] at e <;> rcases e with e | e <;> cases e
  · rw [setThread_currentThreadId]
    refine ⟨Or.inl, ?_⟩
    rintro (hc | ⟨-, e⟩)
    · exact hc
    · rcases hst with e' | e' <;> rw [e'] at e <;> cases e

/-- `enqueueReady` on a thread that is in no queue and not current. -/
theorem WfExcept.attach_ready (w : WfExcept (· = i) s) (hid : 0 < i) (hgen : th.generation ≠ 0)
    (hn : s.nextQueueSequence ≠ 0)
    (hc : th.completedWait.wait.valid = (th.completedWait.completion != .None))
    (hr : th.retainCompletedWaitReason = true → th.completedWait.completion ≠ .None)
    (hsc : th.suspendCount = 0) : Wf (s.enqueueReady i th) := by
  have hok : ThreadRecord.Ok
      { th with state := .Ready, wait := {}, queueSequence := s.nextQueueSequence } :=
    ⟨hc, hr, defaultWait_valid, hsc, hn⟩
  refine w.attach hok hid hgen (thread?_enqueueReady i) (fun p => ?_) (fun k => ?_) w.nonempty
    (fun j => ?_) (Or.inr ⟨rfl, hn, rfl⟩)
  · rw [readyQueues_enqueueReady]
    by_cases hp : p = th.priority
    · rw [if_pos hp, if_pos ⟨rfl, hp.symm⟩]
    · rw [if_neg hp, if_neg fun e => hp e.2.symm]
  · rw [if_neg]
    · rfl
    · rintro ⟨e | e, -⟩ <;> cases e
  · refine ⟨Or.inl, ?_⟩
    rintro (hc | ⟨-, e⟩)
    · exact hc
    · cases e

theorem WfExcept.attach_wait (w : WfExcept (· = i) { s with currentThreadId := none })
    (hid : 0 < i) (hgen : th.generation ≠ 0) (hn : s.nextQueueSequence ≠ 0)
    (hk : k.valid = true) (hc : th.completedWait.wait.valid = false)
    (hc' : th.completedWait.completion = .None) (hr : th.retainCompletedWaitReason = false)
    (hw : k.kind = .Sleep → th.wakeupCount = 0) (hsc : th.suspendCount = 0) :
    Wf (s.enqueueWait i th k) := by
  have hok : ThreadRecord.Ok
      { th with state := .Waiting, wait := k, queueSequence := s.nextQueueSequence } :=
    ⟨by rw [hc, hc']; rfl, fun e => absurd e (by rw [hr]; exact Bool.false_ne_true),
      hk, hc', hw, hsc, hn⟩
  refine w.attach hok hid hgen (thread?_setThread i) (fun p => ?_) (fun k' => ?_) (fun k' => ?_)
    (fun j => ?_) (Or.inr ⟨rfl, hn, rfl⟩)
  · rw [if_neg]
    · rfl
    · rintro ⟨e, -⟩
      cases e
  · rw [waitQueue_enqueueWait]
    by_cases hk' : k' = k
    · rw [if_pos hk', if_pos ⟨Or.inl rfl, hk'.symm⟩]
      rfl
    · rw [if_neg hk', if_neg fun e => hk' e.2.symm]
      rfl
  · unfold enqueueWait
    by_cases hk' : k' = k
    · subst hk'
      simp only [Finmap.lookup_insert, ne_eq, Option.some.injEq]
      exact List.append_ne_nil_of_right_ne_nil _ (List.cons_ne_nil _ _)
    · simp only [Finmap.lookup_insert_of_ne _ hk']
      exact w.nonempty k'
  · simp [enqueueWait]

/-- A thread becomes the current one. -/
theorem WfExcept.attach_running (w : WfExcept (· = i) s) (hok : th'.Ok) (hid : 0 < i)
    (hgen : th'.generation ≠ 0) (hst : th'.state = .Running)
    (hnone : s.currentThreadId = none) :
    Wf { s.setThread i th' with currentThreadId := some i } := by
  have hq : th'.queueSequence = 0 := by
    have hs := hok.state
    unfold ThreadRecord.StateOk at hs
    rw [hst] at hs
    exact hs.2.2.2
  refine w.attach hok hid hgen (thread?_setThread i) (fun p => ?_) (fun k => ?_) w.nonempty
    (fun j => ?_) (Or.inl ⟨hq, rfl⟩)
  · rw [if_neg]
    · rfl
    · rintro ⟨e, -⟩
      rw [hst] at e
      cases e
  · rw [if_neg]
    · rfl
    · rintro ⟨e, -⟩
      rw [hst] at e
      rcases e with e | e <;> cases e
  · rw [hnone, hst]
    simp [eq_comm]

/-- The record of a thread in no queue is removed. -/
theorem WfExcept.attach_erase (w : WfExcept (· = i) s) :
    Wf { s with threads := s.threads.erase i } := by
  have hother : ∀ {j}, j ≠ i →
      ({ s with threads := s.threads.erase i } : EeThreadScheduler).thread? j = s.thread? j :=
    fun hj => Finmap.lookup_erase_ne hj
  have hself : ({ s with threads := s.threads.erase i } : EeThreadScheduler).thread? i = none :=
    Finmap.lookup_erase i s.threads
  have hback : ∀ {j t},
      ({ s with threads := s.threads.erase i } : EeThreadScheduler).thread? j = some t →
        j ≠ i ∧ s.thread? j = some t := by
    intro j t ht
    by_cases e : j = i
    · rw [e, hself] at ht
      cases ht
    · exact ⟨e, (hother e).symm.trans ht⟩
  have hqueue : ∀ {Q : ThreadRecord → Prop} {l : List EeSchedulerThreadHandle},
      IsQueue s.sequenceOf (fun h => ¬ h.id = i ∧ s.Holds Q h) l →
      IsQueue ({ s with threads := s.threads.erase i } : EeThreadScheduler).sequenceOf
        (fun h => ¬ False ∧
          ({ s with threads := s.threads.erase i } : EeThreadScheduler).Holds Q h) l := by
    intro Q l q
    refine q.congr (fun a => ⟨?_, ?_⟩) fun a ha => ?_
    · rintro ⟨-, t, ht, hr⟩
      exact ⟨(hback ht).1, t, (hback ht).2, hr⟩
    · rintro ⟨hne, t, ht, hr⟩
      exact ⟨not_false, t, (hother hne).trans ht, hr⟩
    · unfold sequenceOf
      rw [hother ha.1]
  exact {
    ids := fun _ ht => w.ids (hback ht).1 (hback ht).2
    records := fun _ ht => w.records (hback ht).1 (hback ht).2
    issued := fun _ ht => w.issued (hback ht).1 (hback ht).2
    distinct := fun _ _ ha hb =>
      w.distinct (hback ha).1 (hback hb).1 (hback ha).2 (hback hb).2
    ready := fun p => hqueue (w.ready p)
    wait := fun k => hqueue (w.wait k)
    nonempty := w.nonempty
    current := fun j => by
      rw [show ({ s with threads := s.threads.erase i } : EeThreadScheduler).currentThreadId =
        s.currentThreadId from rfl, w.current j]
      constructor
      · rintro ⟨hne, t, ht, hr⟩
        exact ⟨not_false, t, (hother hne).trans ht, hr⟩
      · rintro ⟨-, t, ht, hr⟩
        exact ⟨(hback ht).1, t, (hback ht).2, hr⟩ }

/-! ## Changing a record in place -/

/-- A change of a record that keeps its queue, its sequence and whether it runs. -/
theorem Wf.update (w : Wf s) (ht : s.thread? i = some th) (hgen : th'.generation = th.generation)
    (hok : th'.Ok) (hready : ∀ p, th'.InReady p ↔ th.InReady p)
    (hwait : ∀ k, th'.InWait k ↔ th.InWait k) (hseq : th'.queueSequence = th.queueSequence)
    (hrun : th'.state = .Running ↔ th.state = .Running) : Wf (s.setThread i th') := by
  have hself : (s.setThread i th').thread? i = some th' := by rw [thread?_setThread, if_pos rfl]
  have hother : ∀ {j}, j ≠ i → (s.setThread i th').thread? j = s.thread? j := fun hj => by
    rw [thread?_setThread, if_neg hj]
  -- the old record of any thread, with what the new one shares with it
  have hback : ∀ {j t}, (s.setThread i th').thread? j = some t → ∃ t₀, s.thread? j = some t₀ ∧
      t.generation = t₀.generation ∧ t.queueSequence = t₀.queueSequence := by
    intro j t hj
    by_cases e : j = i
    · rw [e, hself] at hj
      obtain rfl := Option.some.inj hj
      exact ⟨th, e ▸ ht, hgen, hseq⟩
    · exact ⟨t, (hother e).symm.trans hj, rfl, rfl⟩
  have hholds : ∀ {Q : ThreadRecord → Prop}, (Q th' ↔ Q th) →
      ∀ a, (s.setThread i th').Holds Q a ↔ s.Holds Q a := by
    intro Q hQ a
    unfold Holds
    by_cases e : a.id = i
    · rw [e, hself, ht]
      simp only [Option.some.injEq, exists_eq_left', hgen, hQ]
    · rw [hother e]
  have hkey : ∀ a, (s.setThread i th').sequenceOf a = s.sequenceOf a := by
    intro a
    unfold sequenceOf
    by_cases e : a.id = i
    · rw [e, hself, ht]
      exact hseq
    · rw [hother e]
  exact {
    ids := fun _ hj => by
      obtain ⟨t₀, h0, hg, -⟩ := hback hj
      rw [hg]
      exact w.ids not_false h0
    records := fun {j t} _ hj => by
      by_cases e : j = i
      · rw [e, hself] at hj
        obtain rfl := Option.some.inj hj
        exact hok
      · exact w.records not_false ((hother e).symm.trans hj)
    issued := fun _ hj => by
      obtain ⟨t₀, h0, -, hq⟩ := hback hj
      rw [hq]
      exact w.issued not_false h0
    distinct := fun _ _ ha hb he h0 => by
      obtain ⟨a₀, ha0, -, hqa⟩ := hback ha
      obtain ⟨b₀, hb0, -, hqb⟩ := hback hb
      exact w.distinct not_false not_false ha0 hb0 (hqa ▸ hqb ▸ he) (hqa ▸ h0)
    ready := fun p => (w.ready p).congr (fun a => and_congr Iff.rfl (hholds (hready p) a))
      fun a _ => hkey a
    wait := fun k => (w.wait k).congr (fun a => and_congr Iff.rfl (hholds (hwait k) a))
      fun a _ => hkey a
    nonempty := w.nonempty
    current := fun j => by
      rw [setThread_currentThreadId, w.current j]
      by_cases e : j = i
      · rw [e, hself, ht]
        simp only [Option.some.injEq, exists_eq_left', hrun]
      · rw [hother e] }

/-- The clock is not part of the invariant. -/
theorem Wf.of_tick (w : Wf s) (tick : Nat) : Wf { s with canonicalTick := tick } :=
  { w with }

/-! ## Selecting the next thread -/

/-- What `takeNextReady` does from a well-formed state. -/
theorem Wf.takeNextReady_cases (w : Wf s) :
    ((∀ p, s.readyQueues p = []) ∧ s.takeNextReady = (none, s)) ∨
      ∃ p h th rest, (∀ q, q < p → s.readyQueues q = []) ∧ s.readyQueues p = h :: rest ∧
        s.findThread h = some th ∧ th.InReady p ∧
        s.takeNextReady = (some h.id, s.picked p h th rest) :=
  w.located.takeNextReady_cases

/-- Picking the head of a ready queue keeps the invariant. -/
theorem Wf.wf_picked (w : Wf s) (hnone : s.currentThreadId = none)
    {rest : List EeSchedulerThreadHandle} (hq : s.readyQueues p = h :: rest)
    (hf : s.findThread h = some th) (hin : th.InReady p) : Wf (s.picked p h th rest) := by
  obtain ⟨hv, ht, hg⟩ := findThread_eq_some.mp hf
  obtain ⟨hid, hgen⟩ := w.ids not_false ht
  have hok := w.records not_false ht
  have hst := hok.state
  unfold ThreadRecord.StateOk at hst
  rw [hin.1] at hst
  have hrem := w.removeReady_eq hf hin.1
  have w' := w.detach_ready hf hin.1 hrem
  rw [hin.2, hq, List.erase_cons_head] at w'
  have hok' : ThreadRecord.Ok
      { th with state := .Running, retainCompletedWaitReason := false, queueSequence := 0 } :=
    ⟨hok.completion, fun e => absurd e Bool.false_ne_true, hst.1, rfl, hst.2.1, rfl⟩
  exact w'.attach_running hok' hid hgen rfl hnone

/-- `takeNextReady` keeps the invariant when no thread is current. -/
theorem Wf.wf_takeNextReady (w : Wf s) (hnone : s.currentThreadId = none) :
    Wf s.takeNextReady.2 := by
  rcases w.takeNextReady_cases with ⟨-, he⟩ | ⟨p, h, th, rest, -, hq, hf, hin, he⟩
  · rw [he]
    exact w
  · rw [he]
    exact w.wf_picked hnone hq hf hin

@[simp] theorem takeNextReadyFrom_nextQueueSequence : ∀ (ps : List Priority)
    (s : EeThreadScheduler), (s.takeNextReadyFrom ps).2.nextQueueSequence = s.nextQueueSequence
  | [], _ => rfl
  | p :: ps, s => by
    rw [takeNextReadyFrom]
    split
    · rfl
    · exact takeNextReadyFrom_nextQueueSequence ps _

@[simp] theorem takeNextReady_nextQueueSequence (s : EeThreadScheduler) :
    s.takeNextReady.2.nextQueueSequence = s.nextQueueSequence :=
  takeNextReadyFrom_nextQueueSequence _ s

end EeThreadScheduler

end Ps2Recomp
