import Ps2Recomp.Scheduler.Placement

/-!
# Every operation keeps the invariant

One `wf_*` lemma per public operation. An operation that hands out a queue sequence needs the
counter not to have wrapped, since sequence zero means "not queued": `Fits s s'` says that of the
step from `s` to `s'`, and is void when the step hands none out.
-/

namespace Ps2Recomp

open KeyedQueue

namespace EeThreadScheduler

variable {s s' : EeThreadScheduler} {i : Int} {th : ThreadRecord} {h : EeSchedulerThreadHandle}

/-- A step that moves the sequence counter starts from one that has not wrapped to zero. -/
def Fits (s s' : EeThreadScheduler) : Prop :=
  s'.nextQueueSequence ≠ s.nextQueueSequence → s.nextQueueSequence ≠ 0

/-- A step that hands out a sequence satisfies `Fits` only from a counter other than zero. -/
theorem Fits.counter_ne (hf : Fits s s') (hn : s'.nextQueueSequence = s.nextQueueSequence + 1) :
    s.nextQueueSequence ≠ 0 :=
  hf (by rw [hn]; exact sequence_succ_ne _)

/-! ## Adding and starting threads -/

theorem ok_dormant (g : Nat) (p : Priority) :
    ThreadRecord.Ok { generation := g, priority := p } :=
  ⟨rfl, fun e => absurd e Bool.false_ne_true, rfl, rfl, rfl, rfl, rfl⟩

/-- `addDormantThread` either refuses or adds a fresh Dormant record. -/
theorem addDormantThread_cases (s : EeThreadScheduler) (i : Int) (g : Nat) (priority : Int) :
    s.addDormantThread i g priority = (false, s) ∨
      ∃ p, validPriority priority = some p ∧ 0 < i ∧ g ≠ 0 ∧ s.thread? i = none ∧
        s.addDormantThread i g priority =
          (true, s.setThread i { generation := g, priority := p }) := by
  unfold addDormantThread
  cases validPriority priority with
  | none => exact Or.inl rfl
  | some p =>
    simp only
    split
    · exact Or.inl rfl
    · rename_i hok
      simp only [validThreadId, Bool.or_eq_true, Bool.not_eq_true', decide_eq_false_iff_not,
        not_lt, beq_iff_eq, not_or, not_le, Option.isSome_iff_ne_none, ne_eq, not_not] at hok
      exact Or.inr ⟨p, rfl, hok.1.1, hok.1.2, hok.2, rfl⟩

theorem wf_addDormantThread (w : Wf s) (i : Int) (g : Nat) (priority : Int) :
    Wf (s.addDormantThread i g priority).2 := by
  rcases addDormantThread_cases s i g priority with he | ⟨p, -, hi, hg, hnew, he⟩
  · rw [he]
    exact w
  · rw [he]
    exact (w.detach_new hnew).attach_idle (ok_dormant g p) hi hg (Or.inl rfl)

/-- `addRunningThread` either refuses or adds a fresh Running record and selects it. -/
theorem addRunningThread_cases (s : EeThreadScheduler) (i : Int) (g : Nat) (priority : Int) :
    s.addRunningThread i g priority = (false, s) ∨
      ∃ p, s.currentThreadId = none ∧ 0 < i ∧ g ≠ 0 ∧ s.thread? i = none ∧
        s.addRunningThread i g priority =
          (true, { s.setThread i { generation := g, priority := p, state := .Running } with
                    currentThreadId := some i }) := by
  unfold addRunningThread
  cases hc : s.currentThreadId with
  | some _ => exact Or.inl rfl
  | none =>
    rcases addDormantThread_cases s i g priority with he | ⟨p, -, hi, hg, hnew, he⟩
    · rw [he]
      exact Or.inl rfl
    · refine Or.inr ⟨p, rfl, hi, hg, hnew, ?_⟩
      rw [he]
      simp only [Option.isSome_none, Bool.false_eq_true, if_false, thread?_setThread, if_true]
      rw [setThread, setThread, setThread, Finmap.insert_insert]

theorem wf_addRunningThread (w : Wf s) (i : Int) (g : Nat) (priority : Int) :
    Wf (s.addRunningThread i g priority).2 := by
  rcases addRunningThread_cases s i g priority with he | ⟨p, hc, hi, hg, hnew, he⟩
  · rw [he]
    exact w
  · rw [he]
    have hok : ThreadRecord.Ok { generation := g, priority := p, state := .Running } :=
      ⟨rfl, fun e => absurd e Bool.false_ne_true, rfl, rfl, rfl, rfl⟩
    exact (w.detach_new hnew).attach_running hok hi hg rfl hc

theorem wf_startThread (w : Wf s) (h : EeSchedulerThreadHandle)
    (hf : Fits s (s.startThread h).2) : Wf (s.startThread h).2 := by
  unfold startThread at hf ⊢
  cases hfind : s.findThread h with
  | none => exact w
  | some th =>
    rw [hfind] at hf
    simp only at hf ⊢
    split
    · rename_i hst
      rw [if_pos hst] at hf
      obtain ⟨-, ht, hg⟩ := findThread_eq_some.mp hfind
      obtain ⟨hid, hgen⟩ := w.ids not_false ht
      have hok := w.records not_false ht
      have hs := hok.state
      unfold ThreadRecord.StateOk at hs
      rw [hst] at hs
      exact (w.detach_idle ht (Or.inl hst)).attach_ready hid hgen (hf.counter_ne rfl)
        hok.completion hok.retain hs.2.2.2.1
    · exact w

theorem wf_startThreadId (w : Wf s) (i : Int) (hf : Fits s (s.startThreadId i).2) :
    Wf (s.startThreadId i).2 := by
  unfold startThreadId at hf ⊢
  cases hh : s.threadHandle i with
  | none => exact w
  | some h =>
    rw [hh] at hf
    exact wf_startThread w h hf

/-! ## Selecting, yielding and blocking -/

theorem wf_selectNextThread (w : Wf s) : Wf s.selectNextThread.2 := by
  unfold selectNextThread
  cases hc : s.currentThreadId with
  | none => exact w.wf_takeNextReady hc
  | some _ => exact w

/-- Requeueing the current thread and picking the next one. -/
theorem Wf.wf_requeue (w : Wf s) (hc : s.currentThreadId = some i) (ht : s.thread? i = some th)
    (hn : s.nextQueueSequence ≠ 0) :
    Wf ({ s with currentThreadId := none }.enqueueReady i th) := by
  obtain ⟨hid, hgen⟩ := w.ids not_false ht
  have hok := w.records not_false ht
  have hs := hok.state
  unfold ThreadRecord.StateOk at hs
  rw [w.located.current_state hc ht] at hs
  exact (w.detach_running hc).attach_ready hid hgen hn hok.completion hok.retain hs.2.2.1

theorem wf_yieldCurrentThread (w : Wf s) (hf : Fits s s.yieldCurrentThread.2) :
    Wf s.yieldCurrentThread.2 := by
  unfold yieldCurrentThread at hf ⊢
  cases hc : s.currentThreadId with
  | none => exact wf_selectNextThread w
  | some i =>
    obtain ⟨th, ht, hr⟩ := w.current_running hc
    simp only [hc, ht, hr, if_true] at hf ⊢
    refine (w.wf_requeue hc ht (hf.counter_ne ?_)).wf_takeNextReady rfl
    rw [takeNextReady_nextQueueSequence]
    rfl

/-- **What `blockCurrentThread` does**: nothing, or it queues the current thread on a valid key
and picks the next one. The thread it blocks carries no unconsumed completion. -/
theorem Wf.blockCurrentThread_cases (w : Wf s) (k : EeSchedulerWaitKey) :
    s.blockCurrentThread k = (none, s) ∨
      ∃ i th, s.currentThreadId = some i ∧ s.thread? i = some th ∧ th.state = .Running ∧
        k.valid = true ∧ th.completedWait.valid = false ∧
        (k.kind = .Sleep → th.wakeupCount = 0) ∧
        s.blockCurrentThread k = (s.enqueueWait i th k).takeNextReady := by
  unfold blockCurrentThread
  cases hc : s.currentThreadId with
  | none => exact Or.inl rfl
  | some i =>
    obtain ⟨th, ht, hr⟩ := w.current_running hc
    cases hk : k.valid with
    | false => exact Or.inl rfl
    | true =>
      simp only [ht, hr, Bool.not_true, Bool.false_eq_true, if_false, ne_eq, not_true_eq_false]
      split
      · exact Or.inl rfl
      · rename_i hfree
        rw [not_or, not_and, not_not] at hfree
        exact Or.inr ⟨i, th, rfl, ht, hr, trivial, Bool.eq_false_iff.mpr hfree.1, hfree.2, rfl⟩

theorem Wf.wf_enqueueWait (w : Wf s) {k : EeSchedulerWaitKey} (hc : s.currentThreadId = some i)
    (ht : s.thread? i = some th) (hk : k.valid = true) (hcv : th.completedWait.valid = false)
    (hw : k.kind = .Sleep → th.wakeupCount = 0) (hn : s.nextQueueSequence ≠ 0) :
    Wf (s.enqueueWait i th k) := by
  obtain ⟨hid, hgen⟩ := w.ids not_false ht
  have hok := w.records not_false ht
  have hs := hok.state
  unfold ThreadRecord.StateOk at hs
  rw [w.located.current_state hc ht] at hs
  rw [hok.completedWait_valid, bne_eq_false_iff_eq] at hcv
  refine (w.detach_running hc).attach_wait hid hgen hn hk ?_ hcv hs.2.1 hw hs.2.2.1
  rw [hok.completion, hcv]
  rfl

theorem wf_blockCurrentThread (w : Wf s) (k : EeSchedulerWaitKey)
    (hf : Fits s (s.blockCurrentThread k).2) : Wf (s.blockCurrentThread k).2 := by
  rcases w.blockCurrentThread_cases k with he | ⟨i, th, hc, ht, -, hk, hcv, hw, he⟩
  · rw [he]
    exact w
  · rw [he] at hf ⊢
    refine (w.wf_enqueueWait hc ht hk hcv hw (hf.counter_ne ?_)).wf_takeNextReady rfl
    rw [takeNextReady_nextQueueSequence]
    rfl

/-- A change of `wakeupCount` outside a sleep. -/
theorem Wf.wf_setWakeup (w : Wf s) (ht : s.thread? i = some th) (n : Nat)
    (hn : th.state = .Dormant → n = 0)
    (hw : (th.state = .Waiting ∨ th.state = .WaitSuspended) → th.wait.kind = .Sleep → n = 0) :
    Wf (s.setThread i { th with wakeupCount := n }) := by
  have hok := w.records not_false ht
  have hst : ThreadRecord.StateOk { th with wakeupCount := n } := by
    have hs := hok.state
    unfold ThreadRecord.StateOk at hs ⊢
    cases he : th.state <;> rw [he] at hs <;> simp only
    · exact ⟨hs.1, hs.2.1, hn he, hs.2.2.2⟩
    · exact hs
    · exact hs
    · exact ⟨hs.1, hs.2.1, hw (Or.inl he), hs.2.2.2⟩
    · exact hs
    · exact ⟨hs.1, hs.2.1, hw (Or.inr he), hs.2.2.2⟩
  have hok' : ThreadRecord.Ok { th with wakeupCount := n } := ⟨hok.completion, hok.retain, hst⟩
  exact w.update ht rfl hok' (fun _ => Iff.rfl) (fun _ => Iff.rfl) rfl Iff.rfl

theorem wf_sleepCurrentThread (w : Wf s) (hf : Fits s s.sleepCurrentThread.2) :
    Wf s.sleepCurrentThread.2 := by
  unfold sleepCurrentThread at hf ⊢
  cases hc : s.currentThreadId with
  | none => exact w
  | some i =>
    obtain ⟨th, ht, hr⟩ := w.current_running hc
    simp only [hc, ht] at hf ⊢
    split
    · exact w
    · rename_i hfree
      rw [if_neg hfree] at hf
      split
      · exact w.wf_setWakeup ht _ (fun e => by rw [hr] at e; cases e)
          fun e => by rw [hr] at e; rcases e with e | e <;> cases e
      · rename_i hz
        rw [if_neg hz] at hf
        exact wf_blockCurrentThread w sleepKey hf

/-! ## Completing waits -/

/-- The thread whose wait ended goes on to Suspended or Ready. -/
theorem WfExcept.wf_publishWake {c : EeSchedulerCompletedWait} {retain : Bool}
    (w : WfExcept (· = i) s) (hid : 0 < i) (hgen : th.generation ≠ 0) (hc : c.valid = true)
    (hf : Fits s (s.publishWake i
      { th with wait := {}, completedWait := c, retainCompletedWaitReason := retain })) :
    Wf (s.publishWake i
      { th with wait := {}, completedWait := c, retainCompletedWaitReason := retain }) := by
  unfold EeSchedulerCompletedWait.valid at hc
  rw [Bool.and_eq_true, bne_iff_ne] at hc
  have hcv : c.wait.valid = (c.completion != .None) := by
    rw [hc.1, eq_comm, bne_iff_ne]
    exact hc.2
  unfold publishWake at hf ⊢
  simp only at hf ⊢
  split
  · rename_i hsc
    have hok : ThreadRecord.Ok
        { th with
          wait := {}, completedWait := c, retainCompletedWaitReason := retain
          state := .Suspended, queueSequence := 0 } :=
      ⟨hcv, fun _ => hc.2, rfl, hsc, rfl⟩
    exact w.attach_idle hok hid hgen (Or.inr rfl)
  · rename_i hsc
    rw [if_neg hsc] at hf
    exact w.attach_ready hid hgen (hf.counter_ne rfl) hcv (fun _ => hc.2) (not_not.mp hsc)

/-- **What `wakeOne` does**: nothing, or it completes the wait at the head of the key's queue. -/
theorem Wf.wakeOne_cases (w : Wf s) (k : EeSchedulerWaitKey) :
    (s.waitQueue k = [] ∨ k.valid = false) ∧ s.wakeOne k = (none, s) ∨
      ∃ h rest th, s.waitQueues.lookup k = some (h :: rest) ∧ k.valid = true ∧
        s.findThread h = some th ∧ th.InWait k ∧
        s.wakeOne k = (some h.id, (s.setWaitQueue k rest).publishWake h.id
          { th with wait := {}, completedWait := ⟨k, .Satisfied⟩,
                    retainCompletedWaitReason := false }) := by
  unfold wakeOne
  cases hk : k.valid with
  | false => exact Or.inl ⟨Or.inr rfl, rfl⟩
  | true =>
    simp only [Bool.not_true, Bool.false_eq_true, if_false]
    cases hq : s.waitQueues.lookup k with
    | none => exact Or.inl ⟨Or.inl (by unfold waitQueue; rw [hq]; rfl), rfl⟩
    | some q =>
      cases q with
      | nil => exact absurd hq (w.nonempty k)
      | cons h rest =>
        obtain ⟨th, hf, hin, -⟩ := w.detach_waitHead hq
        refine Or.inr ⟨h, rest, th, rfl, trivial, hf, hin, ?_⟩
        have hf' : (s.setWaitQueue k rest).findThread h = some th := hf
        simp only [hf']
        exact if_pos hin

theorem wf_wakeOne (w : Wf s) (k : EeSchedulerWaitKey) (hf : Fits s (s.wakeOne k).2) :
    Wf (s.wakeOne k).2 := by
  rcases w.wakeOne_cases k with ⟨-, he⟩ | ⟨h, rest, th, hq, hk, hfind, hin, he⟩
  · rw [he]
    exact w
  · rw [he] at hf ⊢
    obtain ⟨th', hfind', -, w'⟩ := w.detach_waitHead hq
    obtain ⟨-, ht, -⟩ := findThread_eq_some.mp hfind
    obtain ⟨hid, hgen⟩ := w.ids not_false ht
    refine w'.wf_publishWake hid hgen ?_ hf
    unfold EeSchedulerCompletedWait.valid
    rw [hk]
    rfl

/-- The test of `releaseWaitThread`. -/
theorem releasable_of_not {c : EeSchedulerWaitCompletion}
    (h : ¬ (c = .None ∨ (th.state ≠ .Waiting ∧ th.state ≠ .WaitSuspended) ∨
      (!th.wait.valid) = true)) :
    c ≠ .None ∧ (th.state = .Waiting ∨ th.state = .WaitSuspended) ∧ th.wait.valid = true := by
  simp only [not_or, not_and, not_not, Bool.not_eq_true', Bool.not_eq_false] at h
  obtain ⟨hc, hst, hv⟩ := h
  exact ⟨hc, or_iff_not_imp_left.mpr hst, hv⟩

/-- **What `releaseWaitThread` does**: nothing, or it completes the wait of the thread named. -/
theorem Wf.releaseWaitThread_cases (w : Wf s) (h : EeSchedulerThreadHandle)
    (c : EeSchedulerWaitCompletion) (r : Bool) :
    s.releaseWaitThread h c r = (false, s) ∨
      ∃ th, s.findThread h = some th ∧ c ≠ .None ∧
        (th.state = .Waiting ∨ th.state = .WaitSuspended) ∧ th.wait.valid = true ∧
        s.releaseWaitThread h c r =
          (true, (s.setWaitQueue th.wait ((s.waitQueue th.wait).erase h)).publishWake h.id
            { th with wait := {}, completedWait := ⟨th.wait, c⟩,
                      retainCompletedWaitReason := r }) := by
  unfold releaseWaitThread
  cases hf : s.findThread h with
  | none => exact Or.inl rfl
  | some th =>
    simp only
    split
    · exact Or.inl rfl
    · rename_i hok
      obtain ⟨hc, hst', hv⟩ := releasable_of_not hok
      exact Or.inr ⟨th, rfl, hc, hst', hv, by rw [w.removeWait_eq hf hst']⟩

theorem wf_releaseWaitThread (w : Wf s) (h : EeSchedulerThreadHandle)
    (c : EeSchedulerWaitCompletion) (r : Bool) (hf : Fits s (s.releaseWaitThread h c r).2) :
    Wf (s.releaseWaitThread h c r).2 := by
  rcases w.releaseWaitThread_cases h c r with he | ⟨th, hfind, hc, hst, hv, he⟩
  · rw [he]
    exact w
  · rw [he] at hf ⊢
    obtain ⟨-, ht, hg⟩ := findThread_eq_some.mp hfind
    obtain ⟨hid, hgen⟩ := w.ids not_false ht
    refine (w.detach_setWaitQueue ht hg hst).wf_publishWake hid hgen ?_ hf
    unfold EeSchedulerCompletedWait.valid
    rw [hv, Bool.true_and, bne_iff_ne]
    exact hc

/-- **What `wakeThread` does**: nothing, or it ends a sleep as Satisfied, or it counts the wakeup
of a thread that is not asleep. -/
theorem wakeThread_cases (s : EeThreadScheduler) (h : EeSchedulerThreadHandle) :
    (s.wakeThread h).2 = s ∨
      (s.wakeThread h).2 = (s.releaseWaitThread h .Satisfied).2 ∨
      ∃ th, s.findThread h = some th ∧ th.state ≠ .Dormant ∧
        ¬ ((th.state = .Waiting ∨ th.state = .WaitSuspended) ∧ th.wait = sleepKey) ∧
        s.wakeThread h =
          (.WakeupCounted, s.setThread h.id { th with wakeupCount := th.wakeupCount + 1 }) := by
  unfold wakeThread
  cases hf : s.findThread h with
  | none => exact Or.inl rfl
  | some th =>
    simp only
    split
    · exact Or.inl rfl
    · rename_i hd
      split
      · refine Or.inr (Or.inl ?_)
        rcases s.releaseWaitThread h .Satisfied with ⟨b, s'⟩
        cases b <;> rfl
      · rename_i hs
        split
        · exact Or.inl rfl
        · exact Or.inr (Or.inr ⟨th, rfl, hd, hs, rfl⟩)

theorem eq_sleepKey {k : EeSchedulerWaitKey} (hk : k.valid = true) (hs : k.kind = .Sleep) :
    k = sleepKey := by
  cases k with
  | mk kind objectId =>
    simp only at hs
    subst hs
    simp only [EeSchedulerWaitKey.valid, beq_iff_eq] at hk
    rw [hk]

theorem wf_wakeThread (w : Wf s) (h : EeSchedulerThreadHandle) (hf : Fits s (s.wakeThread h).2) :
    Wf (s.wakeThread h).2 := by
  rcases wakeThread_cases s h with he | he | ⟨th, hfind, hd, hs, he⟩
  · rw [he]
    exact w
  · rw [he] at hf ⊢
    exact wf_releaseWaitThread w h .Satisfied false hf
  · rw [he]
    obtain ⟨-, ht, -⟩ := findThread_eq_some.mp hfind
    refine w.wf_setWakeup ht _ (fun e => absurd e hd) fun e hk => ?_
    have hst := (w.records not_false ht).state
    unfold ThreadRecord.StateOk at hst
    have hv : th.wait.valid = true := by
      rcases e with e | e <;> rw [e] at hst <;> exact hst.1
    exact absurd ⟨e, eq_sleepKey hv hk⟩ hs

theorem wf_cancelWakeups (w : Wf s) (h : EeSchedulerThreadHandle) : Wf (s.cancelWakeups h).2 := by
  unfold cancelWakeups
  cases hf : s.findThread h with
  | none => exact w
  | some th =>
    obtain ⟨-, ht, -⟩ := findThread_eq_some.mp hf
    exact w.wf_setWakeup ht 0 (fun _ => rfl) fun _ _ => rfl

theorem wf_consumeWaitCompletion (w : Wf s) (h : EeSchedulerThreadHandle) :
    Wf (s.consumeWaitCompletion h).2 := by
  unfold consumeWaitCompletion
  cases hf : s.findThread h with
  | none => exact w
  | some th =>
    simp only
    split
    · exact w
    · rename_i hc
      rw [not_or, not_not] at hc
      obtain ⟨-, ht, -⟩ := findThread_eq_some.mp hf
      have hs := (w.records not_false ht).state
      unfold ThreadRecord.StateOk at hs
      rw [hc.1] at hs
      have hst : ThreadRecord.StateOk
          { th with completedWait := {}, retainCompletedWaitReason := false } := by
        unfold ThreadRecord.StateOk
        rw [hc.1]
        exact ⟨hs.1, rfl, hs.2.2⟩
      have hok : ThreadRecord.Ok
          { th with completedWait := {}, retainCompletedWaitReason := false } :=
        ⟨rfl, fun e => absurd e Bool.false_ne_true, hst⟩
      exact w.update ht rfl hok (fun _ => Iff.rfl) (fun _ => Iff.rfl) rfl Iff.rfl

/-! ## Finishing, suspending and terminating -/

theorem ok_retired (th : ThreadRecord) : (retired th).Ok :=
  ⟨rfl, fun e => absurd e Bool.false_ne_true, rfl, rfl, rfl, rfl, rfl⟩

/-- `retireCurrentThread` succeeds exactly when a thread is current, and makes it Dormant. -/
theorem Wf.retireCurrentThread_cases (w : Wf s) :
    (s.currentThreadId = none ∧ s.retireCurrentThread = none) ∨
      ∃ i th, s.currentThreadId = some i ∧ s.thread? i = some th ∧
        s.retireCurrentThread =
          some { s.setThread i (retired th) with currentThreadId := none } := by
  unfold retireCurrentThread
  cases hc : s.currentThreadId with
  | none => exact Or.inl ⟨rfl, rfl⟩
  | some i =>
    obtain ⟨th, ht, hr⟩ := w.current_running hc
    refine Or.inr ⟨i, th, rfl, ht, ?_⟩
    simp only [ht]
    rw [if_pos hr]

theorem Wf.wf_retireCurrentThread (w : Wf s) (hr : s.retireCurrentThread = some s') :
    Wf s' ∧ s'.currentThreadId = none := by
  rcases w.retireCurrentThread_cases with ⟨-, he⟩ | ⟨i, th, hc, ht, he⟩
  · rw [he] at hr
    cases hr
  · rw [he] at hr
    obtain rfl := Option.some.inj hr
    obtain ⟨hid, hgen⟩ := w.ids not_false ht
    exact ⟨(w.detach_running hc).attach_idle (ok_retired th) hid hgen (Or.inl rfl), rfl⟩

theorem wf_finishCurrentThread (w : Wf s) : Wf s.finishCurrentThread.2 := by
  unfold finishCurrentThread
  cases hr : s.retireCurrentThread with
  | none => exact w
  | some s' =>
    obtain ⟨w', hc⟩ := w.wf_retireCurrentThread hr
    exact w'.wf_takeNextReady hc

theorem wf_exitCurrentThread (w : Wf s) : Wf s.exitCurrentThread.2 := by
  unfold exitCurrentThread
  cases hr : s.retireCurrentThread with
  | none => exact w
  | some s' =>
    obtain ⟨w', hc⟩ := w.wf_retireCurrentThread hr
    exact w'.wf_takeNextReady hc

theorem wf_suspendThread (w : Wf s) (h : EeSchedulerThreadHandle) :
    Wf (s.suspendThread h).2 := by
  unfold suspendThread
  cases hf : s.findThread h with
  | none => exact w
  | some th =>
    obtain ⟨-, ht, hg⟩ := findThread_eq_some.mp hf
    obtain ⟨hid, hgen⟩ := w.ids not_false ht
    have hok := w.records not_false ht
    have hs := hok.state
    unfold ThreadRecord.StateOk at hs
    simp only
    split
    · exact w
    · cases hst : th.state with
      | Dormant => exact w
      | Running =>
        rw [hst] at hs
        have hc := w.running_current ht hst
        simp only [hc, if_true]
        have hok' : ThreadRecord.Ok
            { th with suspendCount := th.suspendCount + 1, state := .Suspended } :=
          ⟨hok.completion, hok.retain, hs.1, Nat.succ_ne_zero _, hs.2.2.2⟩
        exact ((w.detach_running hc).attach_idle hok' hid hgen (Or.inr rfl)).wf_takeNextReady rfl
      | Ready =>
        rw [hst] at hs
        rw [w.removeReady_eq hf hst]
        have hok' : ThreadRecord.Ok
            { th with
              suspendCount := th.suspendCount + 1, state := .Suspended, queueSequence := 0 } :=
          ⟨hok.completion, hok.retain, hs.1, Nat.succ_ne_zero _, rfl⟩
        exact (w.detach_ready hf hst (w.removeReady_eq hf hst)).attach_idle hok' hid hgen (Or.inr rfl)
      | Waiting =>
        rw [hst] at hs
        have hok' : ThreadRecord.Ok
            { th with suspendCount := th.suspendCount + 1, state := .WaitSuspended } :=
          ⟨hok.completion, hok.retain, hs.1, hs.2.1, hs.2.2.1, Nat.succ_ne_zero _, hs.2.2.2.2⟩
        refine w.update ht rfl hok' (fun p => ?_) (fun k => ?_) rfl ?_
        · simp [ThreadRecord.InReady, hst]
        · simp [ThreadRecord.InWait, hst]
        · simp [hst]
      | Suspended =>
        rw [hst] at hs
        have hok' : ThreadRecord.Ok
            { th with suspendCount := th.suspendCount + 1, state := .Suspended } :=
          ⟨hok.completion, hok.retain, hs.1, Nat.succ_ne_zero _, hs.2.2⟩
        refine w.update ht rfl hok' (fun p => ?_) (fun k => ?_) rfl ?_
        · simp [ThreadRecord.InReady, hst]
        · simp [ThreadRecord.InWait, hst]
        · simp [hst]
      | WaitSuspended =>
        rw [hst] at hs
        have hok' : ThreadRecord.Ok
            { th with suspendCount := th.suspendCount + 1, state := .WaitSuspended } :=
          ⟨hok.completion, hok.retain, hs.1, hs.2.1, hs.2.2.1, Nat.succ_ne_zero _, hs.2.2.2.2⟩
        refine w.update ht rfl hok' (fun p => ?_) (fun k => ?_) rfl ?_
        · simp [ThreadRecord.InReady, hst]
        · simp [ThreadRecord.InWait, hst]
        · simp [hst]

theorem wf_resumeThread (w : Wf s) (h : EeSchedulerThreadHandle)
    (hf : Fits s (s.resumeThread h).2) : Wf (s.resumeThread h).2 := by
  unfold resumeThread at hf ⊢
  cases hfind : s.findThread h with
  | none => exact w
  | some th =>
    rw [hfind] at hf
    obtain ⟨-, ht, hg⟩ := findThread_eq_some.mp hfind
    obtain ⟨hid, hgen⟩ := w.ids not_false ht
    have hok := w.records not_false ht
    have hs := hok.state
    unfold ThreadRecord.StateOk at hs
    simp only at hf ⊢
    split
    · exact w
    · rename_i hcan
      rw [if_neg hcan] at hf
      rw [not_or, not_and, not_not] at hcan
      split
      · -- still suspended: only the count changes
        rename_i hmore
        have hst' : ThreadRecord.StateOk { th with suspendCount := th.suspendCount - 1 } := by
          unfold ThreadRecord.StateOk
          cases hst : th.state <;> rw [hst] at hs hcan <;> simp only
          · exact absurd (hcan.2 nofun) nofun
          · exact absurd (hcan.2 nofun) nofun
          · exact absurd (hcan.2 nofun) nofun
          · exact absurd (hcan.2 nofun) nofun
          · exact ⟨hs.1, hmore, hs.2.2⟩
          · exact ⟨hs.1, hs.2.1, hs.2.2.1, hmore, hs.2.2.2.2⟩
        have hok' : ThreadRecord.Ok { th with suspendCount := th.suspendCount - 1 } :=
          ⟨hok.completion, hok.retain, hst'⟩
        exact w.update ht rfl hok' (fun _ => Iff.rfl) (fun _ => Iff.rfl) rfl Iff.rfl
      · rename_i hlast
        rw [if_neg hlast] at hf
        rw [not_not] at hlast
        split
        · rename_i hst
          rw [hst] at hs
          have hok' : ThreadRecord.Ok
              { th with suspendCount := th.suspendCount - 1, state := .Waiting } :=
            ⟨hok.completion, hok.retain, hs.1, hs.2.1, hs.2.2.1, hlast, hs.2.2.2.2⟩
          refine w.update ht rfl hok' (fun p => ?_) (fun k => ?_) rfl ?_
          · simp [ThreadRecord.InReady, hst]
          · simp [ThreadRecord.InWait, hst]
          · simp [hst]
        · rename_i hns
          rw [if_neg hns] at hf
          have hst : th.state = .Suspended := by
            by_contra hne
            exact hns (hcan.2 hne)
          exact (w.detach_idle ht (Or.inr hst)).attach_ready hid hgen (hf.counter_ne rfl)
            hok.completion hok.retain hlast

theorem WfExcept.wf_finishTermination (w : WfExcept (· = i) s) (hid : 0 < i)
    (hgen : th.generation ≠ 0) : Wf (finishTermination s i th) := by
  have w' := w.attach_idle (ok_retired th) hid hgen (Or.inl rfl)
  unfold finishTermination
  simp only
  split
  · exact w'
  · rename_i hc
    exact w'.wf_takeNextReady (Option.not_isSome_iff_eq_none.mp hc)

theorem wf_terminateThread (w : Wf s) (h : EeSchedulerThreadHandle) :
    Wf (s.terminateThread h).2 := by
  unfold terminateThread
  cases hf : s.findThread h with
  | none => exact w
  | some th =>
    obtain ⟨-, ht, hg⟩ := findThread_eq_some.mp hf
    obtain ⟨hid, hgen⟩ := w.ids not_false ht
    simp only
    cases hst : th.state with
    | Dormant => exact w
    | Running =>
      have hc := w.running_current ht hst
      simp only [hc, if_true]
      exact (w.detach_running hc).wf_finishTermination hid hgen
    | Ready =>
      rw [w.removeReady_eq hf hst]
      exact (w.detach_ready hf hst (w.removeReady_eq hf hst)).wf_finishTermination hid hgen
    | Waiting =>
      rw [w.removeWait_eq hf (Or.inl hst)]
      exact (w.detach_setWaitQueue ht hg (Or.inl hst)).wf_finishTermination hid hgen
    | Suspended => exact (w.detach_idle ht (Or.inr hst)).wf_finishTermination hid hgen
    | WaitSuspended =>
      rw [w.removeWait_eq hf (Or.inr hst)]
      exact (w.detach_setWaitQueue ht hg (Or.inr hst)).wf_finishTermination hid hgen

theorem wf_deleteThread (w : Wf s) (h : EeSchedulerThreadHandle) : Wf (s.deleteThread h).2 := by
  unfold deleteThread
  cases hf : s.findThread h with
  | none => exact w
  | some th =>
    obtain ⟨-, ht, -⟩ := findThread_eq_some.mp hf
    simp only
    split
    · rename_i hst
      exact (w.detach_idle ht (Or.inl hst)).attach_erase
    · exact w

/-! ## Priorities and rescheduling -/

theorem wf_changeThreadPriority (w : Wf s) (h : EeSchedulerThreadHandle) (priority : Int)
    (hf : Fits s (s.changeThreadPriority h priority).2) :
    Wf (s.changeThreadPriority h priority).2 := by
  unfold changeThreadPriority at hf ⊢
  cases hfind : s.findThread h with
  | none => exact w
  | some th =>
    cases hp : validPriority priority with
    | none => exact w
    | some p =>
      rw [hfind, hp] at hf
      obtain ⟨-, ht, -⟩ := findThread_eq_some.mp hfind
      obtain ⟨hid, hgen⟩ := w.ids not_false ht
      have hok := w.records not_false ht
      simp only at hf ⊢
      split
      · exact w
      · rename_i hd
        rw [if_neg hd] at hf
        split
        · exact w
        · rename_i hne
          rw [if_neg hne] at hf
          split
          · rename_i hst
            have hs := hok.state
            unfold ThreadRecord.StateOk at hs
            rw [hst] at hs
            have hrem := w.removeReady_eq hfind hst
            rw [if_pos hst, hrem] at hf
            rw [hrem]
            have w' := w.detach_ready hfind hst hrem
            exact w'.attach_ready hid hgen (hf.counter_ne rfl) hok.completion hok.retain hs.2.1
          · rename_i hst
            have hok' : ThreadRecord.Ok { th with priority := p } :=
              ⟨hok.completion, hok.retain, hok.state⟩
            refine w.update ht rfl hok' (fun q => ?_) (fun _ => Iff.rfl) rfl Iff.rfl
            simp [ThreadRecord.InReady, hst]

theorem wf_rotateReadyQueue (w : Wf s) (priority : Int)
    (hf : Fits s (s.rotateReadyQueue priority).2) : Wf (s.rotateReadyQueue priority).2 := by
  unfold rotateReadyQueue at hf ⊢
  cases hp : validPriority priority with
  | none => exact w
  | some p =>
    rw [hp] at hf
    simp only at hf ⊢
    cases hq : s.readyQueues p with
    | nil => exact w
    | cons h rest =>
      cases rest with
      | nil => exact w
      | cons h' rest =>
        obtain ⟨th, hfind, hin⟩ :=
          w.findThread_of_holds (w.mem_ready.mp (by rw [hq]; exact List.mem_cons_self))
        have hin' : th.state = .Ready ∧ th.priority = p := hin
        simp only [hq, hfind, if_pos hin'] at hf ⊢
        obtain ⟨-, ht, hg⟩ := findThread_eq_some.mp hfind
        obtain ⟨hid, hgen⟩ := w.ids not_false ht
        have hok := w.records not_false ht
        have hs := hok.state
        unfold ThreadRecord.StateOk at hs
        rw [hin.1] at hs
        have w' := w.detach_ready hfind hin.1 (w.removeReady_eq hfind hin.1)
        rw [hin.2, hq, List.erase_cons_head] at w'
        have hn := hf.counter_ne rfl
        have hok' : ThreadRecord.Ok { th with queueSequence := s.nextQueueSequence } := by
          refine ⟨hok.completion, hok.retain, ?_⟩
          unfold ThreadRecord.StateOk
          rw [hin.1]
          exact ⟨hs.1, hs.2.1, hn⟩
        refine w'.attach hok' hid hgen (thread?_setThread h.id) (fun q => ?_) (fun k => ?_)
          w.nonempty (fun j => ?_) (Or.inr ⟨rfl, hn, rfl⟩)
        · by_cases hqp : q = p
          · subst hqp
            rw [if_pos ⟨hin.1, hin.2⟩]
            simp only [Function.update_self]
            rw [hg]
          · rw [if_neg fun e => hqp (hin.2 ▸ e.2).symm]
            simp only [Function.update_of_ne hqp]
        · rw [if_neg]
          · rfl
          · rintro ⟨e, -⟩
            simp only [hin.1] at e
            rcases e with e | e <;> cases e
        · refine ⟨Or.inl, ?_⟩
          rintro (hc | ⟨-, e⟩)
          · exact hc
          · simp only [hin.1] at e
            cases e

/-- **What `reschedule` does**: it selects a thread if none is current; otherwise it keeps the
current thread, or requeues it and selects the best ready one, according to the policy. -/
theorem Wf.reschedule_cases (w : Wf s) (policy : EeSchedulerReschedulePolicy) :
    (s.currentThreadId = none ∧ s.reschedule policy = s.takeNextReady) ∨
      ∃ i th, s.currentThreadId = some i ∧ s.thread? i = some th ∧
        (((∀ p, s.highestReadyPriority = some p → shouldPreempt policy p th.priority = false) ∧
            s.reschedule policy = (some i, s)) ∨
          ((∃ p, s.highestReadyPriority = some p ∧ shouldPreempt policy p th.priority = true) ∧
            s.reschedule policy =
              ({ s with currentThreadId := none }.enqueueReady i th).takeNextReady)) := by
  unfold reschedule
  cases hc : s.currentThreadId with
  | none => exact Or.inl ⟨rfl, rfl⟩
  | some i =>
    obtain ⟨th, ht, hr⟩ := w.current_running hc
    refine Or.inr ⟨i, th, rfl, ht, ?_⟩
    simp only [ht, hr, ne_eq, not_true_eq_false, if_false]
    cases hp : s.highestReadyPriority with
    | none => exact Or.inl ⟨nofun, rfl⟩
    | some p =>
      simp only [Option.some.injEq, forall_eq', exists_eq_left']
      cases hsp : shouldPreempt policy p th.priority with
      | false => exact Or.inl ⟨rfl, rfl⟩
      | true => exact Or.inr ⟨rfl, rfl⟩

theorem wf_reschedule (w : Wf s) (policy : EeSchedulerReschedulePolicy)
    (hf : Fits s (s.reschedule policy).2) : Wf (s.reschedule policy).2 := by
  rcases w.reschedule_cases policy with ⟨hc, he⟩ | ⟨i, th, hc, ht, ⟨-, he⟩ | ⟨-, he⟩⟩
  · rw [he]
    exact w.wf_takeNextReady hc
  · rw [he]
    exact w
  · rw [he] at hf ⊢
    refine (w.wf_requeue hc ht (hf.counter_ne ?_)).wf_takeNextReady rfl
    rw [takeNextReady_nextQueueSequence]
    rfl

end EeThreadScheduler

end Ps2Recomp
