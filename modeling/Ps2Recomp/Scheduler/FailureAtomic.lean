import Ps2Recomp.Scheduler.Run

/-!
# Failed calls change nothing

`SchedulerOp.Fails` says that a call reports failure. The members that look a thread up in a queue
or take it off one before they are done can fail there as well, and `wakeOne` has by then already
popped its queue. In a state where every thread is where its record says (`Located`) none of these
lookups fails, so a failed call leaves the scheduler as it was (`fails_unchanged`).

Every operation keeps `Located` (`located_run`), also once the sequence counter has wrapped, so both
hold after any calls at all (`failures_atomic`).
-/

namespace Ps2Recomp

open Machine

namespace EeThreadScheduler

variable {s s' : EeThreadScheduler} {i : Int} {th : ThreadRecord} {h : EeSchedulerThreadHandle}

/-! ## Every operation keeps the placement -/

theorem located_addDormantThread (w : Located s) (i : Int) (g : Nat) (priority : Int) :
    Located (s.addDormantThread i g priority).2 := by
  rcases addDormantThread_cases s i g priority with he | ⟨p, -, hi, hg, hnew, he⟩
  · rw [he]
    exact w
  · rw [he]
    have hgen : ThreadRecord.generation { generation := g, priority := p } ≠ 0 := hg
    exact (w.detach_new hnew).attach_idle hi hgen (Or.inl rfl)

theorem located_addRunningThread (w : Located s) (i : Int) (g : Nat) (priority : Int) :
    Located (s.addRunningThread i g priority).2 := by
  rcases addRunningThread_cases s i g priority with he | ⟨p, hc, hi, hg, hnew, he⟩
  · rw [he]
    exact w
  · rw [he]
    have hgen : ThreadRecord.generation
        { generation := g, priority := p, state := .Running } ≠ 0 := hg
    exact (w.detach_new hnew).attach_running hi hgen rfl hc

theorem located_startThread (w : Located s) (h : EeSchedulerThreadHandle) :
    Located (s.startThread h).2 := by
  unfold startThread
  cases hf : s.findThread h with
  | none => exact w
  | some th =>
    simp only
    split
    · rename_i hst
      obtain ⟨-, ht, -⟩ := findThread_eq_some.mp hf
      obtain ⟨hid, hgen⟩ := w.ids not_false ht
      exact (w.detach_idle ht (Or.inl hst)).attach_ready hid hgen
    · exact w

theorem located_startThreadId (w : Located s) (i : Int) : Located (s.startThreadId i).2 := by
  unfold startThreadId
  cases s.threadHandle i with
  | none => exact w
  | some h => exact located_startThread w h

theorem located_selectNextThread (w : Located s) : Located s.selectNextThread.2 := by
  unfold selectNextThread
  cases hc : s.currentThreadId with
  | none => exact w.located_takeNextReady hc
  | some _ => exact w

/-- The current thread goes back to its ready queue. -/
theorem Located.located_requeue (w : Located s) (hc : s.currentThreadId = some i)
    (ht : s.thread? i = some th) :
    Located ({ s with currentThreadId := none }.enqueueReady i th) := by
  obtain ⟨hid, hgen⟩ := w.ids not_false ht
  exact (w.detach_running hc).attach_ready hid hgen

theorem located_yieldCurrentThread (w : Located s) : Located s.yieldCurrentThread.2 := by
  unfold yieldCurrentThread
  cases hc : s.currentThreadId with
  | none => exact located_selectNextThread w
  | some i =>
    obtain ⟨th, ht, hr⟩ := w.current_running hc
    simp only [ht, hr, if_true]
    exact (w.located_requeue hc ht).located_takeNextReady rfl

theorem located_blockCurrentThread (w : Located s) (k : EeSchedulerWaitKey) :
    Located (s.blockCurrentThread k).2 := by
  unfold blockCurrentThread
  cases hc : s.currentThreadId with
  | none => exact w
  | some i =>
    obtain ⟨th, ht, hr⟩ := w.current_running hc
    obtain ⟨hid, hgen⟩ := w.ids not_false ht
    simp only [ht, hr]
    split
    · exact w
    split
    · exact w
    split
    · exact w
    · exact ((w.detach_running hc).attach_wait hid hgen k).located_takeNextReady rfl

/-- A record changes in fields that do not place its thread. -/
theorem Located.setFields (w : Located s) (ht : s.thread? i = some th) {th' : ThreadRecord}
    (hgen : th'.generation = th.generation) (hpriority : th'.priority = th.priority)
    (hstate : th'.state = th.state) (hwait : th'.wait = th.wait) :
    Located (s.setThread i th') := by
  refine w.update ht hgen (fun p => ?_) (fun k => ?_) ?_
  · rw [ThreadRecord.InReady, ThreadRecord.InReady, hstate, hpriority]
  · rw [ThreadRecord.InWait, ThreadRecord.InWait, hstate, hwait]
  · rw [hstate]

theorem located_sleepCurrentThread (w : Located s) : Located s.sleepCurrentThread.2 := by
  unfold sleepCurrentThread
  cases hc : s.currentThreadId with
  | none => exact w
  | some i =>
    obtain ⟨th, ht, hr⟩ := w.current_running hc
    simp only [ht]
    split
    · exact w
    split
    · exact w.setFields ht rfl rfl rfl rfl
    · exact located_blockCurrentThread w sleepKey

/-- The thread whose wait ended goes on to Suspended or Ready. -/
theorem LocatedExcept.located_publishWake (w : LocatedExcept (· = i) s) (hid : 0 < i)
    (hgen : th.generation ≠ 0) : Located (s.publishWake i th) := by
  unfold publishWake
  split
  · have hgen' : ThreadRecord.generation { th with state := .Suspended, queueSequence := 0 } ≠ 0 :=
      hgen
    exact w.attach_idle hid hgen' (Or.inr rfl)
  · exact w.attach_ready hid hgen

theorem located_wakeOne (w : Located s) (k : EeSchedulerWaitKey) : Located (s.wakeOne k).2 := by
  unfold wakeOne
  split
  · exact w
  split
  · exact w
  · exact w
  · rename_i h rest hq
    obtain ⟨hwq, th, hf, hin⟩ := w.waitHead hq
    obtain ⟨-, ht, hg⟩ := findThread_eq_some.mp hf
    obtain ⟨hid, hgen⟩ := w.ids not_false ht
    have hf' : (s.setWaitQueue k rest).findThread h = some th := hf
    have hin' : (th.state = .Waiting ∨ th.state = .WaitSuspended) ∧ th.wait = k := hin
    simp only [hf', if_pos hin']
    have w' := w.detach_wait ht hg hin.1
    rw [hin.2, hwq, List.erase_cons_head] at w'
    exact w'.located_publishWake hid hgen

theorem located_releaseWaitThread (w : Located s) (h : EeSchedulerThreadHandle)
    (c : EeSchedulerWaitCompletion) (r : Bool) : Located (s.releaseWaitThread h c r).2 := by
  unfold releaseWaitThread
  cases hf : s.findThread h with
  | none => exact w
  | some th =>
    obtain ⟨-, ht, hg⟩ := findThread_eq_some.mp hf
    obtain ⟨hid, hgen⟩ := w.ids not_false ht
    simp only
    split
    · exact w
    · rename_i hok
      have hst : th.state = .Waiting ∨ th.state = .WaitSuspended := by
        by_contra hne
        exact hok (Or.inr (Or.inl (not_or.mp hne)))
      rw [w.removeWait_eq hf hst]
      exact (w.detach_wait ht hg hst).located_publishWake hid hgen

theorem located_wakeThread (w : Located s) (h : EeSchedulerThreadHandle) :
    Located (s.wakeThread h).2 := by
  rcases wakeThread_cases s h with he | he | ⟨th, hf, -, -, he⟩
  · rw [he]
    exact w
  · rw [he]
    exact located_releaseWaitThread w h .Satisfied false
  · rw [he]
    obtain ⟨-, ht, -⟩ := findThread_eq_some.mp hf
    exact w.setFields ht rfl rfl rfl rfl

theorem located_cancelWakeups (w : Located s) (h : EeSchedulerThreadHandle) :
    Located (s.cancelWakeups h).2 := by
  unfold cancelWakeups
  cases hf : s.findThread h with
  | none => exact w
  | some th =>
    obtain ⟨-, ht, -⟩ := findThread_eq_some.mp hf
    exact w.setFields ht rfl rfl rfl rfl

theorem located_consumeWaitCompletion (w : Located s) (h : EeSchedulerThreadHandle) :
    Located (s.consumeWaitCompletion h).2 := by
  unfold consumeWaitCompletion
  cases hf : s.findThread h with
  | none => exact w
  | some th =>
    obtain ⟨-, ht, -⟩ := findThread_eq_some.mp hf
    simp only
    split
    · exact w
    · exact w.setFields ht rfl rfl rfl rfl

theorem Located.located_retireCurrentThread (w : Located s)
    (hr : s.retireCurrentThread = some s') : Located s' ∧ s'.currentThreadId = none := by
  unfold retireCurrentThread at hr
  cases hc : s.currentThreadId with
  | none => rw [hc] at hr; cases hr
  | some i =>
    obtain ⟨th, ht, hrun⟩ := w.current_running hc
    obtain ⟨hid, hgen⟩ := w.ids not_false ht
    simp only [hc, ht, hrun, if_true, Option.some.injEq] at hr
    subst hr
    have hgen' : (retired th).generation ≠ 0 := hgen
    exact ⟨(w.detach_running hc).attach_idle hid hgen' (Or.inl rfl), rfl⟩

theorem located_finishCurrentThread (w : Located s) : Located s.finishCurrentThread.2 := by
  unfold finishCurrentThread
  cases hr : s.retireCurrentThread with
  | none => exact w
  | some s' =>
    obtain ⟨w', hc⟩ := w.located_retireCurrentThread hr
    exact w'.located_takeNextReady hc

theorem located_exitCurrentThread (w : Located s) : Located s.exitCurrentThread.2 := by
  unfold exitCurrentThread
  cases hr : s.retireCurrentThread with
  | none => exact w
  | some s' =>
    obtain ⟨w', hc⟩ := w.located_retireCurrentThread hr
    exact w'.located_takeNextReady hc

theorem located_suspendThread (w : Located s) (h : EeSchedulerThreadHandle) :
    Located (s.suspendThread h).2 := by
  unfold suspendThread
  cases hf : s.findThread h with
  | none => exact w
  | some th =>
    obtain ⟨-, ht, hg⟩ := findThread_eq_some.mp hf
    obtain ⟨hid, hgen⟩ := w.ids not_false ht
    simp only
    split
    · exact w
    · cases hst : th.state with
      | Dormant => exact w
      | Running =>
        have hc := w.running_current ht hst
        simp only [hc, if_true]
        have hgen' : ThreadRecord.generation
            { th with suspendCount := th.suspendCount + 1, state := .Suspended } ≠ 0 := hgen
        exact ((w.detach_running hc).attach_idle hid hgen' (Or.inr rfl)).located_takeNextReady rfl
      | Ready =>
        rw [w.removeReady_eq hf hst]
        have hgen' : ThreadRecord.generation
            { th with
              suspendCount := th.suspendCount + 1, state := .Suspended, queueSequence := 0 } ≠ 0 :=
          hgen
        exact (w.detach_ready ht hg hst).attach_idle hid hgen' (Or.inr rfl)
      | Waiting =>
        refine w.update ht rfl (fun p => ?_) (fun k => ?_) ?_
        · simp [ThreadRecord.InReady, hst]
        · simp [ThreadRecord.InWait, hst]
        · simp [hst]
      | Suspended => exact w.setFields ht rfl rfl (by rw [hst]) rfl
      | WaitSuspended => exact w.setFields ht rfl rfl (by rw [hst]) rfl

theorem located_resumeThread (w : Located s) (h : EeSchedulerThreadHandle) :
    Located (s.resumeThread h).2 := by
  unfold resumeThread
  cases hf : s.findThread h with
  | none => exact w
  | some th =>
    obtain ⟨-, ht, -⟩ := findThread_eq_some.mp hf
    obtain ⟨hid, hgen⟩ := w.ids not_false ht
    simp only
    split
    · exact w
    rename_i hcan
    rw [not_or, not_and, not_not] at hcan
    split
    · exact w.setFields ht rfl rfl rfl rfl
    split
    · rename_i hst
      refine w.update ht rfl (fun p => ?_) (fun k => ?_) ?_
      · simp [ThreadRecord.InReady, hst]
      · simp [ThreadRecord.InWait, hst]
      · simp [hst]
    · rename_i hns
      have hst : th.state = .Suspended := by
        by_contra hne
        exact hns (hcan.2 hne)
      have hgen' : ThreadRecord.generation { th with suspendCount := th.suspendCount - 1 } ≠ 0 :=
        hgen
      exact (w.detach_idle ht (Or.inr hst)).attach_ready hid hgen'

theorem LocatedExcept.located_finishTermination (w : LocatedExcept (· = i) s) (hid : 0 < i)
    (hgen : th.generation ≠ 0) : Located (finishTermination s i th) := by
  have hgen' : (retired th).generation ≠ 0 := hgen
  have w' := w.attach_idle hid hgen' (Or.inl rfl)
  unfold finishTermination
  simp only
  split
  · exact w'
  · rename_i hc
    exact w'.located_takeNextReady (Option.not_isSome_iff_eq_none.mp hc)

theorem located_terminateThread (w : Located s) (h : EeSchedulerThreadHandle) :
    Located (s.terminateThread h).2 := by
  unfold terminateThread
  cases hf : s.findThread h with
  | none => exact w
  | some th =>
    obtain ⟨-, ht, hg⟩ := findThread_eq_some.mp hf
    obtain ⟨hid, hgen⟩ := w.ids not_false ht
    simp only
    cases hst : th.state with
    | Dormant => exact w
    | Running =>
      have hc := w.running_current ht hst
      simp only [hc, if_true]
      exact (w.detach_running hc).located_finishTermination hid hgen
    | Ready =>
      rw [w.removeReady_eq hf hst]
      exact (w.detach_ready ht hg hst).located_finishTermination hid hgen
    | Waiting =>
      rw [w.removeWait_eq hf (Or.inl hst)]
      exact (w.detach_wait ht hg (Or.inl hst)).located_finishTermination hid hgen
    | Suspended => exact (w.detach_idle ht (Or.inr hst)).located_finishTermination hid hgen
    | WaitSuspended =>
      rw [w.removeWait_eq hf (Or.inr hst)]
      exact (w.detach_wait ht hg (Or.inr hst)).located_finishTermination hid hgen

theorem located_deleteThread (w : Located s) (h : EeSchedulerThreadHandle) :
    Located (s.deleteThread h).2 := by
  unfold deleteThread
  cases hf : s.findThread h with
  | none => exact w
  | some th =>
    obtain ⟨-, ht, -⟩ := findThread_eq_some.mp hf
    simp only
    split
    · rename_i hst
      exact (w.detach_idle ht (Or.inl hst)).attach_erase
    · exact w

theorem located_changeThreadPriority (w : Located s) (h : EeSchedulerThreadHandle)
    (priority : Int) : Located (s.changeThreadPriority h priority).2 := by
  unfold changeThreadPriority
  cases hf : s.findThread h with
  | none => exact w
  | some th =>
    cases validPriority priority with
    | none => exact w
    | some p =>
      obtain ⟨-, ht, hg⟩ := findThread_eq_some.mp hf
      obtain ⟨hid, hgen⟩ := w.ids not_false ht
      simp only
      split
      · exact w
      split
      · exact w
      split
      · rename_i hst
        rw [w.removeReady_eq hf hst]
        have hgen' : ThreadRecord.generation { th with priority := p } ≠ 0 := hgen
        exact (w.detach_ready ht hg hst).attach_ready hid hgen'
      · rename_i hst
        refine w.update ht rfl (fun q => ?_) (fun _ => Iff.rfl) Iff.rfl
        simp [ThreadRecord.InReady, hst]

theorem located_rotateReadyQueue (w : Located s) (priority : Int) :
    Located (s.rotateReadyQueue priority).2 := by
  unfold rotateReadyQueue
  cases validPriority priority with
  | none => exact w
  | some p =>
    simp only
    cases hq : s.readyQueues p with
    | nil => exact w
    | cons h rest =>
      cases rest with
      | nil => exact w
      | cons h' rest =>
        obtain ⟨th, hf, hin⟩ :=
          w.findThread_of_holds (w.mem_ready.mp (by rw [hq]; exact List.mem_cons_self))
        have hin' : th.state = .Ready ∧ th.priority = p := hin
        simp only [hf, if_pos hin']
        obtain ⟨-, ht, hg⟩ := findThread_eq_some.mp hf
        obtain ⟨hid, hgen⟩ := w.ids not_false ht
        have w' := w.detach_ready ht hg hin.1
        rw [hin.2, hq, List.erase_cons_head] at w'
        have hgen' : ThreadRecord.generation
            { th with queueSequence := s.nextQueueSequence } ≠ 0 := hgen
        refine w'.attach hid hgen' (thread?_setThread h.id) (fun q => ?_) (fun k => ?_) fun j => ?_
        · by_cases hqp : q = p
          · subst hqp
            rw [if_pos ⟨hin.1, hin.2⟩]
            simp only [Function.update_self]
            rw [hg]
          · rw [if_neg fun e => hqp (hin.2 ▸ e.2).symm]
            simp only [Function.update_of_ne hqp]
        · rw [if_neg]
          · rfl
          · rintro ⟨e, -⟩
            simp only [hin.1] at e
            rcases e with e | e <;> cases e
        · refine ⟨Or.inl, ?_⟩
          rintro (hc | ⟨-, e⟩)
          · exact hc
          · simp only [hin.1] at e
            cases e

theorem located_reschedule (w : Located s) (policy : EeSchedulerReschedulePolicy) :
    Located (s.reschedule policy).2 := by
  unfold reschedule
  cases hc : s.currentThreadId with
  | none => exact w.located_takeNextReady hc
  | some i =>
    obtain ⟨th, ht, hr⟩ := w.current_running hc
    simp only [ht, hr, ne_eq, not_true_eq_false, if_false]
    cases s.highestReadyPriority with
    | none => exact w
    | some p =>
      simp only
      split
      · exact (w.located_requeue hc ht).located_takeNextReady rfl
      · exact w

theorem located_restore (w : Located s) (state : EeThreadSchedulerSnapshot) :
    Located (s.restore state).2 := by
  rcases restore_cases s state with he | ⟨c, hr, he⟩
  · rw [he]
    exact w
  · rw [he]
    exact (wf_restoreCandidate hr).located

/-- **Every call keeps every thread where its record says.** -/
theorem located_step (w : Located s) (op : SchedulerOp) : Located (op.run s) := by
  cases op with
  | addDormantThread i g p => exact located_addDormantThread w i g p
  | addRunningThread i g p => exact located_addRunningThread w i g p
  | startThread h => exact located_startThread w h
  | startThreadId i => exact located_startThreadId w i
  | selectNextThread => exact located_selectNextThread w
  | yieldCurrentThread => exact located_yieldCurrentThread w
  | blockCurrentThread k => exact located_blockCurrentThread w k
  | sleepCurrentThread => exact located_sleepCurrentThread w
  | wakeOne k => exact located_wakeOne w k
  | wakeThread h => exact located_wakeThread w h
  | cancelWakeups h => exact located_cancelWakeups w h
  | releaseWaitThread h c retain => exact located_releaseWaitThread w h c retain
  | consumeWaitCompletion h => exact located_consumeWaitCompletion w h
  | finishCurrentThread => exact located_finishCurrentThread w
  | suspendThread h => exact located_suspendThread w h
  | resumeThread h => exact located_resumeThread w h
  | terminateThread h => exact located_terminateThread w h
  | exitCurrentThread => exact located_exitCurrentThread w
  | deleteThread h => exact located_deleteThread w h
  | changeThreadPriority h p => exact located_changeThreadPriority w h p
  | rotateReadyQueue p => exact located_rotateReadyQueue w p
  | reschedule policy => exact located_reschedule w policy
  | publishCanonicalTick tick => exact { w with }
  | restore state => exact located_restore w state

theorem located_run (ops : List SchedulerOp) : Located (run SchedulerOp.run {} ops) := by
  have hall : Along SchedulerOp.run (fun _ _ => True) {} ops :=
    along_of_forall fun _ _ _ => trivial
  exact invariant (I := Located) (fun _ op w _ => located_step w op) wf_empty.located hall

end EeThreadScheduler

/-! ## Failure -/

open EeThreadScheduler

/-- The current thread, if there is one, refuses to block: the key is not valid, a completion is
pending, or a sleep finds counted wakeups. -/
def EeThreadScheduler.RefusesBlock (s : EeThreadScheduler) (wait : EeSchedulerWaitKey) : Prop :=
  wait.valid = false ∨ ∃ i th, s.currentThreadId = some i ∧ s.thread? i = some th ∧
    (th.completedWait.valid = true ∨ (wait.kind = .Sleep ∧ th.wakeupCount ≠ 0))

/-- The call reports failure. `selectNextThread`, `yieldCurrentThread`, `finishCurrentThread`,
`reschedule` and `publishCanonicalTick` have no failure to report. -/
def SchedulerOp.Fails (s : EeThreadScheduler) : SchedulerOp → Prop
  | .addDormantThread i g p => (s.addDormantThread i g p).1 = false
  | .addRunningThread i g p => (s.addRunningThread i g p).1 = false
  | .startThread h => (s.startThread h).1 = false
  | .startThreadId i => (s.startThreadId i).1 = false
  | .blockCurrentThread k => s.RefusesBlock k
  | .sleepCurrentThread => s.sleepCurrentThread.1.disposition = .InvalidCurrentThread
  | .wakeOne k => (s.wakeOne k).1 = none
  | .wakeThread h =>
    (s.wakeThread h).1 = .InvalidHandle ∨ (s.wakeThread h).1 = .Dormant ∨
      (s.wakeThread h).1 = .WakeupCountOverflow
  | .cancelWakeups h => (s.cancelWakeups h).1 = none
  | .releaseWaitThread h c r => (s.releaseWaitThread h c r).1 = false
  | .consumeWaitCompletion h => (s.consumeWaitCompletion h).1 = none
  | .suspendThread h => (s.suspendThread h).1 = false
  | .resumeThread h => (s.resumeThread h).1 = false
  | .terminateThread h => (s.terminateThread h).1 = false
  | .exitCurrentThread => s.exitCurrentThread.1 = false
  | .deleteThread h => (s.deleteThread h).1 = false
  | .changeThreadPriority h p => (s.changeThreadPriority h p).1 = none
  | .rotateReadyQueue p => (s.rotateReadyQueue p).1 = false
  | .restore state => (s.restore state).1 = false
  | .selectNextThread | .yieldCurrentThread | .finishCurrentThread | .reschedule _
  | .publishCanonicalTick _ => False

/-- No lookup of a thread in the queue its record names misses. -/
structure EeThreadScheduler.LookupsHit (s : EeThreadScheduler) : Prop where
  /-- What `wakeOne` pops passes its check. -/
  wakeOne : ∀ k h rest, s.waitQueues.lookup k = some (h :: rest) →
    ∃ th, (s.setWaitQueue k rest).findThread h = some th ∧
      (th.state = .Waiting ∨ th.state = .WaitSuspended) ∧ th.wait = k
  removeReady : ∀ h th, s.findThread h = some th → th.state = .Ready →
    (s.removeReady h th.priority).isSome
  removeWait : ∀ h th, s.findThread h = some th →
    th.state = .Waiting ∨ th.state = .WaitSuspended → (s.removeWait h th.wait).isSome
  /-- The front of a ready queue passes the check of `rotateReadyQueue`. -/
  rotate : ∀ p h rest, s.readyQueues p = h :: rest →
    ∃ th, s.findThread h = some th ∧ th.state = .Ready ∧ th.priority = p
  /-- A Running thread is the current one. -/
  running : ∀ h th, s.findThread h = some th → th.state = .Running →
    s.currentThreadId = some h.id

namespace EeThreadScheduler

variable {s : EeThreadScheduler}

theorem Located.lookupsHit (w : Located s) : s.LookupsHit where
  wakeOne k h rest hq := by
    obtain ⟨-, th, hf, hin⟩ := w.waitHead hq
    exact ⟨th, hf, hin⟩
  removeReady h th hf hr := by
    rw [w.removeReady_eq hf hr]
    rfl
  removeWait h th hf hst := by
    rw [w.removeWait_eq hf hst]
    rfl
  rotate p h rest hq :=
    w.findThread_of_holds (w.mem_ready.mp (by rw [hq]; exact List.mem_cons_self))
  running h th hf hr := w.running_current (findThread_eq_some.mp hf).2.1 hr

/-- A result that reports failure carries the scheduler the call was made on. -/
def KeptOnFailure {β : Type} (failed : β → Prop) (s : EeThreadScheduler)
    (result : β × EeThreadScheduler) : Prop :=
  failed result.1 → result.2 = s

variable {β : Type} {failed : β → Prop}

theorem kept_same (b : β) : KeptOnFailure failed s (b, s) := fun _ => rfl

theorem kept_true (s' : EeThreadScheduler) : KeptOnFailure (· = false) s (true, s') := nofun

theorem kept_some {α : Type} (a : α) (s' : EeThreadScheduler) :
    KeptOnFailure (· = none) s (some a, s') := nofun

theorem kept_startThread (h : EeSchedulerThreadHandle) :
    KeptOnFailure (· = false) s (s.startThread h) := by
  unfold startThread
  repeat' split
  all_goals first | exact kept_same _ | exact kept_true _

theorem kept_releaseWaitThread (h : EeSchedulerThreadHandle) (c : EeSchedulerWaitCompletion)
    (r : Bool) : KeptOnFailure (· = false) s (s.releaseWaitThread h c r) := by
  unfold releaseWaitThread
  repeat' split
  all_goals first | exact kept_same _ | exact kept_true _

theorem kept_wakeThread (h : EeSchedulerThreadHandle) :
    KeptOnFailure (fun r => r = .InvalidHandle ∨ r = .Dormant ∨ r = .WakeupCountOverflow) s
      (s.wakeThread h) := by
  unfold wakeThread
  split
  · exact kept_same _
  split
  · exact kept_same _
  split
  · have hrelease := kept_releaseWaitThread (s := s) h .Satisfied false
    split
    · rintro (h | h | h) <;> cases h
    · rename_i s' he
      rw [he] at hrelease
      exact fun _ => hrelease rfl
  split
  · exact kept_same _
  · rintro (h | h | h) <;> cases h

theorem kept_suspendThread (h : EeSchedulerThreadHandle) :
    KeptOnFailure (· = false) s (s.suspendThread h) := by
  unfold suspendThread
  simp only
  repeat' split
  all_goals first | exact kept_same _ | exact kept_true _

theorem kept_resumeThread (h : EeSchedulerThreadHandle) :
    KeptOnFailure (· = false) s (s.resumeThread h) := by
  unfold resumeThread
  simp only
  repeat' split
  all_goals first | exact kept_same _ | exact kept_true _

theorem kept_terminateThread (h : EeSchedulerThreadHandle) :
    KeptOnFailure (· = false) s (s.terminateThread h) := by
  unfold terminateThread
  repeat' split
  all_goals first | exact kept_same _ | exact kept_true _

theorem kept_changeThreadPriority (h : EeSchedulerThreadHandle) (priority : Int) :
    KeptOnFailure (· = none) s (s.changeThreadPriority h priority) := by
  unfold changeThreadPriority
  repeat' split
  all_goals first | exact kept_same _ | exact kept_some _ _

theorem kept_rotateReadyQueue (priority : Int) :
    KeptOnFailure (· = false) s (s.rotateReadyQueue priority) := by
  unfold rotateReadyQueue
  repeat' split
  all_goals first | exact kept_same _ | exact kept_true _

/-- The only failure that could leave a trace: `wakeOne` has popped its queue when it checks the
record. -/
theorem kept_wakeOne (hhit : s.LookupsHit) (k : EeSchedulerWaitKey) :
    KeptOnFailure (· = none) s (s.wakeOne k) := by
  unfold wakeOne
  split
  · exact kept_same _
  split
  · exact kept_same _
  · exact kept_same _
  · rename_i h rest hq
    obtain ⟨th, hf, hin⟩ := hhit.wakeOne k h rest hq
    simp only [hf, if_pos hin]
    exact kept_some _ _

theorem blockCurrentThread_refused {k : EeSchedulerWaitKey} (hrefuses : s.RefusesBlock k) :
    (s.blockCurrentThread k).2 = s := by
  unfold blockCurrentThread
  rcases hrefuses with hk | ⟨i, th, hc, ht, hpending⟩
  · simp only [hk]
    split <;> rfl
  · simp only [hc, ht]
    repeat' split
    all_goals rfl

theorem sleepCurrentThread_invalid
    (hfails : s.sleepCurrentThread.1.disposition = .InvalidCurrentThread) :
    s.sleepCurrentThread.2 = s := by
  unfold sleepCurrentThread at hfails ⊢
  split
  · rfl
  · rename_i i hc
    simp only [hc] at hfails
    split
    · rfl
    · rename_i th ht
      simp only [ht] at hfails
      split
      · rfl
      · rename_i hfree
        rw [if_neg hfree] at hfails
        split at hfails <;> cases hfails

/-- **A failed call leaves the scheduler as it was.** -/
theorem fails_unchanged (hhit : s.LookupsHit) {op : SchedulerOp} (hfails : op.Fails s) :
    op.run s = s := by
  cases op with
  | addDormantThread i g p =>
    have hkept : KeptOnFailure (· = false) s (s.addDormantThread i g p) := by
      rcases addDormantThread_cases s i g p with he | ⟨_, -, -, -, -, he⟩ <;> rw [he]
      · exact kept_same _
      · exact kept_true _
    exact hkept hfails
  | addRunningThread i g p =>
    have hkept : KeptOnFailure (· = false) s (s.addRunningThread i g p) := by
      rcases addRunningThread_cases s i g p with he | ⟨_, -, -, -, -, he⟩ <;> rw [he]
      · exact kept_same _
      · exact kept_true _
    exact hkept hfails
  | startThread h => exact kept_startThread h hfails
  | startThreadId i =>
    simp only [SchedulerOp.Fails, SchedulerOp.run, startThreadId] at hfails ⊢
    split
    · rename_i h hh
      rw [hh] at hfails
      exact kept_startThread h hfails
    · rfl
  | blockCurrentThread k => exact blockCurrentThread_refused hfails
  | sleepCurrentThread => exact sleepCurrentThread_invalid hfails
  | wakeOne k => exact kept_wakeOne hhit k hfails
  | wakeThread h => exact kept_wakeThread h hfails
  | cancelWakeups h =>
    simp only [SchedulerOp.Fails, SchedulerOp.run, cancelWakeups] at hfails ⊢
    split at hfails
    · rfl
    · cases hfails
  | releaseWaitThread h c r => exact kept_releaseWaitThread h c r hfails
  | consumeWaitCompletion h =>
    have hkept : KeptOnFailure (· = none) s (s.consumeWaitCompletion h) := by
      unfold consumeWaitCompletion
      repeat' split
      all_goals first | exact kept_same _ | exact kept_some _ _
    exact hkept hfails
  | suspendThread h => exact kept_suspendThread h hfails
  | resumeThread h => exact kept_resumeThread h hfails
  | terminateThread h => exact kept_terminateThread h hfails
  | exitCurrentThread =>
    have hkept : KeptOnFailure (· = false) s s.exitCurrentThread := by
      unfold exitCurrentThread
      split
      · exact kept_same _
      · exact kept_true _
    exact hkept hfails
  | deleteThread h =>
    have hkept : KeptOnFailure (· = false) s (s.deleteThread h) := by
      unfold deleteThread
      repeat' split
      all_goals first | exact kept_same _ | exact kept_true _
    exact hkept hfails
  | changeThreadPriority h p => exact kept_changeThreadPriority h p hfails
  | rotateReadyQueue p => exact kept_rotateReadyQueue p hfails
  | restore state =>
    have hkept : KeptOnFailure (· = false) s (s.restore state) := by
      rcases restore_cases s state with he | ⟨c, -, he⟩ <;> rw [he]
      · exact kept_same _
      · exact kept_true _
    exact hkept hfails
  | selectNextThread | yieldCurrentThread | finishCurrentThread | reschedule _
  | publishCanonicalTick _ => exact hfails.elim

/-- **After any calls, a call that fails changes nothing, and no lookup misses.** -/
theorem failures_atomic (ops : List SchedulerOp) :
    (∀ op : SchedulerOp, op.Fails (run SchedulerOp.run {} ops) →
      op.run (run SchedulerOp.run {} ops) = run SchedulerOp.run {} ops) ∧
      (run SchedulerOp.run {} ops).LookupsHit :=
  have hhit := (located_run ops).lookupsHit
  ⟨fun _ => fails_unchanged hhit, hhit⟩

end EeThreadScheduler

end Ps2Recomp
