import Mathlib.Data.Prod.Lex
import Ps2Recomp.Scheduler.FailureAtomic

/-!
# Which thread is selected

A call that selects a thread first takes the current one off the CPU. `SchedulerOp.candidate` are
the threads that are Ready then, and the one selected is the one with the least priority and, among
equal priorities, the least queue sequence (`SelectsLeast`); none is selected only if there is no
candidate.

`Timed` keeps beside a run when each thread last joined the back of a ready queue or was rotated
there. Queue sequences follow that order (`InOrder`), so of two Ready threads of equal priority the
one that has waited longer is dispatched first (`selection_of_run`).

Sequences are compared as numbers, which presupposes that the counter has not wrapped: a snapshot
that leaves it one number makes the thread queued last look like the first
(`wrapped_selection_not_least`).
-/

namespace Ps2Recomp

open KeyedQueue Machine

/-- `a` is served before `b`. -/
def ThreadRecord.Before (a b : ThreadRecord) : Prop :=
  a.priority < b.priority ∨ (a.priority = b.priority ∧ a.queueSequence < b.queueSequence)

namespace EeThreadScheduler

def readyRecord (s : EeThreadScheduler) (i : Int) : Option ThreadRecord :=
  (s.thread? i).filter (·.state = .Ready)

/-- The current thread of `s'` is the candidate to be served first. -/
structure SelectsLeast (candidate : Int → Option ThreadRecord) (s' : EeThreadScheduler) : Prop where
  least : ∀ i, s'.currentThreadId = some i → ∃ th, candidate i = some th ∧
    ∀ j th', j ≠ i → candidate j = some th' → th.Before th'
  none_iff : s'.currentThreadId = none ↔ ∀ i, candidate i = none

end EeThreadScheduler

open EeThreadScheduler

namespace SchedulerOp

/-- The call selects a new current thread. -/
def selects (s : EeThreadScheduler) (op : SchedulerOp) : Bool :=
  match s.currentThreadId with
  | none =>
    match op with
    | .selectNextThread | .yieldCurrentThread | .reschedule _ => true
    | .terminateThread h => (s.terminateThread h).1
    | _ => false
  | some i =>
    match s.thread? i with
    | none => false
    | some thread =>
      match op with
      | .yieldCurrentThread | .finishCurrentThread | .exitCurrentThread => true
      | .reschedule policy =>
        s.highestReadyPriority.any fun p => shouldPreempt policy p thread.priority
      | .blockCurrentThread k =>
        k.valid && !thread.completedWait.valid && !(k.kind = .Sleep && thread.wakeupCount ≠ 0)
      | .sleepCurrentThread => !thread.completedWait.valid && thread.wakeupCount = 0
      | .suspendThread h => h = ⟨i, thread.generation⟩ && thread.suspendCount ≠ uint32Max
      | .terminateThread h => h = ⟨i, thread.generation⟩
      | _ => false

/-- The call puts the current thread back into its ready queue when it selects. -/
def requeues : SchedulerOp → Bool
  | .yieldCurrentThread | .reschedule _ => true
  | _ => false

/-- The threads that are Ready once the departing thread has been requeued, or has gone. -/
def candidate (s : EeThreadScheduler) (op : SchedulerOp) (i : Int) : Option ThreadRecord :=
  if s.currentThreadId = some i then
    if op.requeues then
      (s.thread? i).map fun thread =>
        { thread with state := .Ready, wait := {}, queueSequence := s.nextQueueSequence }
    else none
  else
    match op with
    | .terminateThread h => if i = h.id then none else s.readyRecord i
    | _ => s.readyRecord i

end SchedulerOp

namespace EeThreadScheduler

variable {s s' t : EeThreadScheduler} {i j : Int} {th th' : ThreadRecord}

theorem readyRecord_eq_some :
    s.readyRecord i = some th ↔ s.thread? i = some th ∧ th.state = .Ready := by
  unfold readyRecord
  rw [Option.filter_eq_some_iff, decide_eq_true_eq]

/-- A Ready thread is served before the others if it heads the first non-empty queue. -/
theorem Wf.before_of_head (w : Wf t) {p : Priority} {h : EeSchedulerThreadHandle}
    {rest : List EeSchedulerThreadHandle} (hempty : ∀ q, q < p → t.readyQueues q = [])
    (hq : t.readyQueues p = h :: rest) (ht : t.thread? h.id = some th) (hin : th.InReady p)
    (hne : j ≠ h.id) (hj : t.readyRecord j = some th') : th.Before th' := by
  obtain ⟨htj, hready⟩ := readyRecord_eq_some.mp hj
  have hmem : ⟨j, th'.generation⟩ ∈ t.readyQueues th'.priority :=
    w.mem_ready.mpr ⟨th', htj, rfl, hready, rfl⟩
  rcases lt_trichotomy p th'.priority with hlt | heq | hgt
  · exact .inl (hin.2 ▸ hlt)
  · refine .inr ⟨hin.2.trans heq, ?_⟩
    rw [← heq, hq] at hmem
    have hrest : (⟨j, th'.generation⟩ : EeSchedulerThreadHandle) ∈ rest := by
      rcases List.mem_cons.mp hmem with e | hm
      · exact absurd (congrArg EeSchedulerThreadHandle.id e) hne
      · exact hm
    have hsorted := (w.ready p).sorted
    rw [hq] at hsorted
    have hlt := (List.pairwise_cons.mp hsorted).1 _ hrest
    rwa [sequenceOf_eq ht, sequenceOf_eq htj] at hlt
  · rw [hempty _ hgt] at hmem
    exact absurd hmem List.not_mem_nil

/-- **`takeNextReady` selects the Ready thread served first.** -/
theorem Wf.selectsLeast (w : Wf t) (hnone : t.currentThreadId = none)
    {candidate : Int → Option ThreadRecord} (hcandidate : ∀ i, candidate i = t.readyRecord i) :
    SelectsLeast candidate t.takeNextReady.2 := by
  obtain rfl : candidate = t.readyRecord := funext hcandidate
  rcases w.takeNextReady_cases with ⟨hempty, he⟩ | ⟨p, h, th, rest, hempty, hq, hf, hin, he⟩
  · rw [he]
    have hno : ∀ i, t.readyRecord i = none := by
      intro i
      rw [Option.eq_none_iff_forall_not_mem]
      intro th hth
      obtain ⟨ht, hready⟩ := readyRecord_eq_some.mp hth
      have hmem : ⟨i, th.generation⟩ ∈ t.readyQueues th.priority :=
        w.mem_ready.mpr ⟨th, ht, rfl, hready, rfl⟩
      rw [hempty] at hmem
      exact List.not_mem_nil hmem
    exact ⟨fun i hi => absurd (hnone.symm.trans hi) nofun, iff_of_true hnone hno⟩
  · rw [he]
    obtain ⟨-, ht, -⟩ := findThread_eq_some.mp hf
    have hself : t.readyRecord h.id = some th := readyRecord_eq_some.mpr ⟨ht, hin.1⟩
    refine ⟨fun i hi => ?_, ?_⟩
    · obtain rfl : h.id = i := Option.some.inj hi
      exact ⟨th, hself, fun j th' hne hj => w.before_of_head hempty hq ht hin hne hj⟩
    · refine iff_of_false nofun fun hall => ?_
      rw [hall h.id] at hself
      cases hself

/-- The Ready threads after thread `i` got the record `th'`. -/
theorem readyRecord_update (hthreads : ∀ j, t.thread? j = if j = i then some th' else s.thread? j)
    (j : Int) :
    t.readyRecord j =
      if j = i then (if th'.state = .Ready then some th' else none) else s.readyRecord j := by
  unfold readyRecord
  rw [hthreads]
  split
  · by_cases hst : th'.state = .Ready <;> simp [Option.filter, hst]
  · rfl

/-- The candidates of a call by which the current thread leaves for good. -/
theorem candidate_departed {op : SchedulerOp} (hc : s.currentThreadId = some i)
    (hop : op.requeues = false) (hterminated : ∀ h, op = .terminateThread h → h.id = i)
    (hthreads : ∀ j, t.thread? j = if j = i then some th' else s.thread? j)
    (hst : th'.state ≠ .Ready) (j : Int) : op.candidate s j = t.readyRecord j := by
  rw [readyRecord_update hthreads, if_neg hst]
  unfold SchedulerOp.candidate
  rw [hc, hop]
  by_cases hj : j = i
  · simp [hj]
  · rw [if_neg fun e => hj (Option.some.inj e).symm, if_neg hj]
    split
    · rename_i h
      rw [hterminated h rfl, if_neg hj]
    · rfl

/-- The candidates of a call that requeues the current thread. -/
theorem candidate_requeued {op : SchedulerOp} (hc : s.currentThreadId = some i)
    (ht : s.thread? i = some th) (hop : op.requeues = true) (j : Int) :
    op.candidate s j =
      ({ s with currentThreadId := none }.enqueueReady i th).readyRecord j := by
  rw [readyRecord_update fun j => thread?_enqueueReady i j, if_pos rfl]
  unfold SchedulerOp.candidate
  rw [hc, hop]
  by_cases hj : j = i
  · subst hj
    simp [ht]
  · rw [if_neg fun e => hj (Option.some.inj e).symm, if_neg hj]
    cases op with
    | yieldCurrentThread | reschedule _ => rfl
    | _ => cases hop

/-- The candidates of a call made while no thread is current, other than `terminateThread`. -/
theorem candidate_idle {op : SchedulerOp} (hc : s.currentThreadId = none)
    (hop : ∀ h, op ≠ .terminateThread h) (j : Int) : op.candidate s j = s.readyRecord j := by
  unfold SchedulerOp.candidate
  rw [hc, if_neg nofun]
  split
  · rename_i h
    exact absurd rfl (hop h)
  · rfl

/-! ## Every selecting call -/

theorem Wf.selects_requeued (w : Wf s) {op : SchedulerOp} (hc : s.currentThreadId = some i)
    (ht : s.thread? i = some th) (hop : op.requeues = true)
    (hrun : op.run s = ({ s with currentThreadId := none }.enqueueReady i th).takeNextReady.2)
    (hf : Fits s (op.run s)) : SelectsLeast (op.candidate s) (op.run s) := by
  rw [hrun] at hf ⊢
  have hn := hf.counter_ne (takeNextReady_nextQueueSequence _)
  exact (w.wf_requeue hc ht hn).selectsLeast rfl (candidate_requeued hc ht hop)

theorem Wf.selects_blocked (w : Wf s) {op : SchedulerOp} {k : EeSchedulerWaitKey}
    (hc : s.currentThreadId = some i) (ht : s.thread? i = some th) (hop : op.requeues = false)
    (hterminate : ∀ h, op ≠ .terminateThread h) (hk : k.valid = true)
    (hcv : th.completedWait.valid = false) (hw : k.kind = .Sleep → th.wakeupCount = 0)
    (hrun : op.run s = (s.enqueueWait i th k).takeNextReady.2) (hf : Fits s (op.run s)) :
    SelectsLeast (op.candidate s) (op.run s) := by
  rw [hrun] at hf ⊢
  have hn := hf.counter_ne (takeNextReady_nextQueueSequence _)
  refine (w.wf_enqueueWait hc ht hk hcv hw hn).selectsLeast rfl ?_
  exact candidate_departed hc hop (fun h e => absurd e (hterminate h))
    (fun j => thread?_setThread i j) nofun

theorem Wf.selects_retired (w : Wf s) {op : SchedulerOp} (hc : s.currentThreadId = some i)
    (ht : s.thread? i = some th) (hop : op.requeues = false)
    (hterminated : ∀ h, op = .terminateThread h → h.id = i)
    (hrun : op.run s = ({ s.setThread i (retired th) with
      currentThreadId := none } : EeThreadScheduler).takeNextReady.2) :
    SelectsLeast (op.candidate s) (op.run s) := by
  rw [hrun]
  obtain ⟨hid, hgen⟩ := w.ids not_false ht
  have w' := (w.detach_running hc).attach_idle (ok_retired th) hid hgen (Or.inl rfl)
  exact w'.selectsLeast rfl
    (candidate_departed hc hop hterminated (fun j => thread?_setThread i j) nofun)

/-- The candidates after thread `h.id` is terminated, if no other thread is current. -/
theorem candidate_terminated {h : EeSchedulerThreadHandle}
    (hc : s.currentThreadId = none ∨ s.currentThreadId = some h.id) (j : Int) :
    (SchedulerOp.terminateThread h).candidate s j = if j = h.id then none else s.readyRecord j := by
  unfold SchedulerOp.candidate SchedulerOp.requeues
  simp only [Bool.false_eq_true, if_false]
  split
  · rename_i hj
    rcases hc with hc | hc
    · rw [hc] at hj
      cases hj
    · rw [if_pos (Option.some.inj (hj.symm.trans hc))]
  · rfl

theorem WfExcept.selects_terminated {h : EeSchedulerThreadHandle} (w : WfExcept (· = h.id) t)
    (hthreads : t.thread? = s.thread?) (hnone : t.currentThreadId = none)
    (hc : s.currentThreadId = none ∨ s.currentThreadId = some h.id) (hid : 0 < h.id)
    (hgen : th.generation ≠ 0) :
    SelectsLeast ((SchedulerOp.terminateThread h).candidate s) (finishTermination t h.id th) := by
  have hfinish : finishTermination t h.id th = (t.setThread h.id (retired th)).takeNextReady.2 := by
    unfold finishTermination
    simp only [setThread_currentThreadId, hnone, Option.isSome_none, Bool.false_eq_true, if_false]
  rw [hfinish]
  refine (w.attach_idle (ok_retired th) hid hgen (Or.inl rfl)).selectsLeast hnone fun j => ?_
  rw [candidate_terminated hc, readyRecord_update fun j => thread?_setThread h.id j]
  unfold readyRecord
  rw [hthreads]
  rfl

theorem Wf.selects_terminateThread (w : Wf s) (h : EeSchedulerThreadHandle)
    (hc : s.currentThreadId = none ∨ s.currentThreadId = some h.id)
    (hterminated : (s.terminateThread h).1 = true) :
    SelectsLeast ((SchedulerOp.terminateThread h).candidate s) (s.terminateThread h).2 := by
  unfold terminateThread at hterminated ⊢
  cases hf : s.findThread h with
  | none => simp only [hf] at hterminated; cases hterminated
  | some th =>
    simp only [hf] at hterminated
    obtain ⟨-, ht, hg⟩ := findThread_eq_some.mp hf
    obtain ⟨hid, hgen⟩ := w.ids not_false ht
    -- a thread that is not Running is not current, so no thread is
    have hidle : th.state ≠ .Running → s.currentThreadId = none := fun hr => by
      rcases hc with hc | hc
      · exact hc
      · exact absurd rfl ((w.located.current_ne ht hr h.id).mp hc).2
    simp only
    cases hst : th.state with
    | Dormant => simp only [hst] at hterminated; cases hterminated
    | Running =>
      have hcur := w.running_current ht hst
      simp only [hcur, if_true]
      exact (w.detach_running hcur).selects_terminated rfl rfl hc hid hgen
    | Ready =>
      rw [w.removeReady_eq hf hst]
      exact (w.detach_ready hf hst (w.removeReady_eq hf hst)).selects_terminated rfl
        (hidle (by rw [hst]; exact nofun)) hc hid hgen
    | Waiting =>
      rw [w.removeWait_eq hf (Or.inl hst)]
      exact (w.detach_setWaitQueue ht hg (Or.inl hst)).selects_terminated rfl
        (hidle (by rw [hst]; exact nofun)) hc hid hgen
    | Suspended =>
      exact (w.detach_idle ht (Or.inr hst)).selects_terminated rfl
        (hidle (by rw [hst]; exact nofun)) hc hid hgen
    | WaitSuspended =>
      rw [w.removeWait_eq hf (Or.inr hst)]
      exact (w.detach_setWaitQueue ht hg (Or.inr hst)).selects_terminated rfl
        (hidle (by rw [hst]; exact nofun)) hc hid hgen

/-- **A call that selects selects the candidate served first.** -/
theorem selectsLeast_step (w : Wf s) (op : SchedulerOp) (hf : Fits s (op.run s))
    (hselects : op.selects s = true) : SelectsLeast (op.candidate s) (op.run s) := by
  unfold SchedulerOp.selects at hselects
  cases hc : s.currentThreadId with
  | none =>
    have hidle : ∀ {op : SchedulerOp}, (∀ h, op ≠ .terminateThread h) →
        op.run s = s.takeNextReady.2 → SelectsLeast (op.candidate s) (op.run s) := by
      intro op hop hrun
      rw [hrun]
      exact w.selectsLeast hc (candidate_idle hc hop)
    rw [hc] at hselects
    cases op with
    | selectNextThread =>
      exact hidle (by rintro _ ⟨⟩) (by simp only [SchedulerOp.run, selectNextThread, hc])
    | yieldCurrentThread =>
      exact hidle (by rintro _ ⟨⟩) (by simp only [SchedulerOp.run, yieldCurrentThread, selectNextThread, hc])
    | reschedule policy => exact hidle (by rintro _ ⟨⟩) (by simp only [SchedulerOp.run, reschedule, hc])
    | terminateThread h => exact w.selects_terminateThread h (Or.inl hc) hselects
    | _ => cases hselects
  | some i =>
    obtain ⟨th, ht, hr⟩ := w.current_running hc
    simp only [hc, ht] at hselects
    cases op with
    | yieldCurrentThread =>
      refine w.selects_requeued hc ht rfl ?_ hf
      simp only [SchedulerOp.run, yieldCurrentThread, hc, ht, hr, if_true]
    | reschedule policy =>
      rcases w.reschedule_cases policy with ⟨hnone, -⟩ | ⟨i', th', hc', ht', ⟨hno, -⟩ | ⟨-, he⟩⟩
      · cases hnone.symm.trans hc
      · obtain rfl : i = i' := Option.some.inj (hc.symm.trans hc')
        obtain rfl : th = th' := Option.some.inj (ht.symm.trans ht')
        obtain ⟨p, hp, hpreempt⟩ := Option.any_eq_true _ _ |>.mp hselects
        rw [hno p hp] at hpreempt
        cases hpreempt
      · exact w.selects_requeued hc' ht' rfl (congrArg Prod.snd he) hf
    | blockCurrentThread k =>
      simp only [Bool.and_eq_true, Bool.not_eq_true', Bool.and_eq_false_iff,
        decide_eq_false_iff_not] at hselects
      obtain ⟨⟨hk, hcv⟩, hw⟩ := hselects
      have hsleep : k.kind = .Sleep → th.wakeupCount = 0 := fun hs => by
        rcases hw with hw | hw
        · exact absurd hs hw
        · simpa using hw
      refine w.selects_blocked hc ht rfl (by rintro _ ⟨⟩) hk hcv hsleep ?_ hf
      have hfree : ¬ (th.completedWait.valid = true ∨ (k.kind = .Sleep ∧ th.wakeupCount ≠ 0)) := by
        rintro (he | ⟨hs, hne⟩)
        · rw [hcv] at he
          cases he
        · exact hne (hsleep hs)
      simp only [SchedulerOp.run, blockCurrentThread, hc, ht, hr, hk, if_neg hfree]
      rfl
    | sleepCurrentThread =>
      simp only [Bool.and_eq_true, Bool.not_eq_true', decide_eq_true_eq] at hselects
      obtain ⟨hcv, hw⟩ := hselects
      have hk : sleepKey.valid = true := rfl
      refine w.selects_blocked hc ht rfl (by rintro _ ⟨⟩) hk hcv (fun _ => hw) ?_ hf
      simp [SchedulerOp.run, sleepCurrentThread, blockCurrentThread, hc, ht, hr, hcv, hw,
        EeSchedulerWaitKey.valid]
    | finishCurrentThread =>
      refine w.selects_retired hc ht rfl (by rintro _ ⟨⟩) ?_
      simp only [SchedulerOp.run, finishCurrentThread, retireCurrentThread, hc, ht, hr, if_true]
    | exitCurrentThread =>
      refine w.selects_retired hc ht rfl (by rintro _ ⟨⟩) ?_
      simp only [SchedulerOp.run, exitCurrentThread, retireCurrentThread, hc, ht, hr, if_true]
    | suspendThread h =>
      simp only [Bool.and_eq_true, decide_eq_true_eq] at hselects
      obtain ⟨rfl, hcount⟩ := hselects
      obtain ⟨hid, hgen⟩ := w.ids not_false ht
      have hok := w.records not_false ht
      have hs := hok.state
      unfold ThreadRecord.StateOk at hs
      rw [hr] at hs
      have hok' : ThreadRecord.Ok
          { th with suspendCount := th.suspendCount + 1, state := .Suspended } :=
        ⟨hok.completion, hok.retain, hs.1, Nat.succ_ne_zero _, hs.2.2.2⟩
      have hfind : s.findThread ⟨i, th.generation⟩ = some th :=
        findThread_eq_some.mpr ⟨w.handle_valid ht rfl, ht, rfl⟩
      have hrun : (SchedulerOp.suspendThread ⟨i, th.generation⟩).run s =
          ({ s.setThread i
              { th with suspendCount := th.suspendCount + 1, state := .Suspended } with
            currentThreadId := none } : EeThreadScheduler).takeNextReady.2 := by
        simp only [SchedulerOp.run, suspendThread, hfind, if_neg hcount, hr, hc, if_true]
      rw [hrun]
      refine Wf.selectsLeast ((w.detach_running hc).attach_idle hok' hid hgen (Or.inr rfl)) rfl ?_
      exact candidate_departed hc rfl (by rintro _ ⟨⟩) (fun j => thread?_setThread i j) (by rintro ⟨⟩)
    | terminateThread h =>
      simp only [decide_eq_true_eq] at hselects
      subst hselects
      refine w.selects_terminateThread _ (Or.inr hc) ?_
      have hfind : s.findThread ⟨i, th.generation⟩ = some th :=
        findThread_eq_some.mpr ⟨w.handle_valid ht rfl, ht, rfl⟩
      simp only [terminateThread, hfind, hr, hc, if_true]
    | _ => cases hselects

/-! ## Every other call -/

theorem publishWake_currentThreadId : (s.publishWake i th).currentThreadId = s.currentThreadId := by
  unfold publishWake
  split <;> rfl

theorem releaseWaitThread_currentThreadId (w : Wf s) (h : EeSchedulerThreadHandle)
    (c : EeSchedulerWaitCompletion) (r : Bool) :
    (s.releaseWaitThread h c r).2.currentThreadId = s.currentThreadId := by
  rcases w.releaseWaitThread_cases h c r with he | ⟨th, -, -, -, -, he⟩
  · rw [he]
  · rw [he]
    exact publishWake_currentThreadId

theorem terminateThread_currentThreadId (w : Wf s) {h : EeSchedulerThreadHandle}
    (hc : s.currentThreadId = some i)
    (hother : ¬ ∀ th, s.thread? i = some th → h = ⟨i, th.generation⟩) :
    (s.terminateThread h).2.currentThreadId = some i := by
  have hfinish : ∀ {t : EeThreadScheduler} {th : ThreadRecord}, t.currentThreadId = some i →
      (finishTermination t h.id th).currentThreadId = some i := by
    intro t th htc
    unfold finishTermination
    simp only [setThread_currentThreadId, htc, Option.isSome_some, if_true]
  unfold terminateThread
  cases hf : s.findThread h with
  | none => exact hc
  | some th =>
    simp only
    cases hst : th.state with
    | Dormant => exact hc
    | Running =>
      obtain ⟨-, ht, hg⟩ := findThread_eq_some.mp hf
      have hi : i = h.id := Option.some.inj (hc.symm.trans (w.running_current ht hst))
      refine absurd (fun thread hthread => ?_) hother
      rw [hi, ht] at hthread
      cases hthread
      rw [hi, hg]
    | Ready =>
      rw [w.removeReady_eq hf hst]
      exact hfinish hc
    | Waiting =>
      rw [w.removeWait_eq hf (Or.inl hst)]
      exact hfinish hc
    | Suspended => exact hfinish hc
    | WaitSuspended =>
      rw [w.removeWait_eq hf (Or.inr hst)]
      exact hfinish hc

/-- **A call that does not select leaves the current thread.** Two calls set it otherwise:
`addRunningThread` and `restore`. -/
theorem current_of_not_selects (w : Wf s) {op : SchedulerOp} (hselects : op.selects s = false)
    (hadd : ∀ i g p, op ≠ .addRunningThread i g p) (hrestore : ∀ state, op ≠ .restore state) :
    (op.run s).currentThreadId = s.currentThreadId := by
  cases op with
  | addDormantThread i g p =>
    rcases addDormantThread_cases s i g p with he | ⟨_, -, -, -, -, he⟩ <;>
      simp only [SchedulerOp.run, he, setThread_currentThreadId]
  | addRunningThread i g p => exact absurd rfl (hadd i g p)
  | startThread h =>
    simp only [SchedulerOp.run, startThread]
    repeat' split
    all_goals rfl
  | startThreadId i =>
    simp only [SchedulerOp.run, startThreadId, startThread]
    repeat' split
    all_goals rfl
  | selectNextThread =>
    cases hc : s.currentThreadId with
    | none => simp [SchedulerOp.selects, hc] at hselects
    | some i => simp only [SchedulerOp.run, selectNextThread, hc]
  | yieldCurrentThread =>
    cases hc : s.currentThreadId with
    | none => simp [SchedulerOp.selects, hc] at hselects
    | some i =>
      obtain ⟨th, ht, -⟩ := w.current_running hc
      simp [SchedulerOp.selects, hc, ht] at hselects
  | blockCurrentThread k =>
    rcases w.blockCurrentThread_cases k with he | ⟨i, th, hc, ht, -, hk, hcv, hw, -⟩
    · simp only [SchedulerOp.run, he]
    · simp [SchedulerOp.selects, hc, ht, hk, hcv] at hselects
      exact absurd (hw hselects.1) hselects.2
  | sleepCurrentThread =>
    cases hc : s.currentThreadId with
    | none => simp only [SchedulerOp.run, sleepCurrentThread, hc]
    | some i =>
      obtain ⟨th, ht, -⟩ := w.current_running hc
      simp only [SchedulerOp.selects, hc, ht, Bool.and_eq_false_iff, Bool.not_eq_false',
        decide_eq_false_iff_not] at hselects
      simp only [SchedulerOp.run, sleepCurrentThread, hc, ht]
      split
      · exact hc
      · rename_i hfree
        rw [not_or] at hfree
        rcases hselects with hcv | hw
        · exact absurd hcv hfree.2
        · rw [if_pos hw]
          exact hc
  | wakeOne k =>
    rcases w.wakeOne_cases k with ⟨-, he⟩ | ⟨h, rest, th, -, -, -, -, he⟩
    · simp only [SchedulerOp.run, he]
    · simp only [SchedulerOp.run, he]
      exact publishWake_currentThreadId
  | wakeThread h =>
    rcases wakeThread_cases s h with he | he | ⟨th, -, -, -, he⟩
    · simp only [SchedulerOp.run, he]
    · simp only [SchedulerOp.run, he]
      exact releaseWaitThread_currentThreadId w h .Satisfied false
    · simp only [SchedulerOp.run, he, setThread_currentThreadId]
  | cancelWakeups h =>
    simp only [SchedulerOp.run, cancelWakeups]
    split <;> rfl
  | releaseWaitThread h c r => exact releaseWaitThread_currentThreadId w h c r
  | consumeWaitCompletion h =>
    simp only [SchedulerOp.run, consumeWaitCompletion]
    repeat' split
    all_goals rfl
  | finishCurrentThread =>
    rcases w.retireCurrentThread_cases with ⟨-, he⟩ | ⟨i, th, hc, ht, -⟩
    · simp only [SchedulerOp.run, finishCurrentThread, he]
    · simp [SchedulerOp.selects, hc, ht] at hselects
  | suspendThread h =>
    simp only [SchedulerOp.run, suspendThread]
    cases hf : s.findThread h with
    | none => rfl
    | some th =>
      obtain ⟨-, ht, hg⟩ := findThread_eq_some.mp hf
      simp only
      split
      · rfl
      · rename_i hcount
        cases hst : th.state with
        | Running =>
          have hc := w.running_current ht hst
          have hh : h = ⟨h.id, th.generation⟩ := by rw [hg]
          simp [SchedulerOp.selects, hc, ht, ← hh, hcount] at hselects
        | Ready => rw [w.removeReady_eq hf hst]; rfl
        | _ => rfl
  | resumeThread h =>
    simp only [SchedulerOp.run, resumeThread]
    repeat' split
    all_goals rfl
  | terminateThread h =>
    cases hterminated : (s.terminateThread h).1 with
    | false => exact congrArg currentThreadId (kept_terminateThread h hterminated)
    | true =>
      cases hc : s.currentThreadId with
      | none => simp [SchedulerOp.selects, hc, hterminated] at hselects
      | some i =>
        obtain ⟨thread, ht, -⟩ := w.current_running hc
        simp only [SchedulerOp.selects, hc, ht, decide_eq_false_iff_not] at hselects
        exact terminateThread_currentThreadId w hc fun hrunning =>
          hselects (hrunning thread ht)
  | exitCurrentThread =>
    rcases w.retireCurrentThread_cases with ⟨-, he⟩ | ⟨i, th, hc, ht, -⟩
    · simp only [SchedulerOp.run, exitCurrentThread, he]
    · simp [SchedulerOp.selects, hc, ht] at hselects
  | deleteThread h =>
    simp only [SchedulerOp.run, deleteThread]
    repeat' split
    all_goals rfl
  | changeThreadPriority h p =>
    simp only [SchedulerOp.run, changeThreadPriority]
    split
    · rename_i th q hf hq
      split
      · rfl
      split
      · rfl
      split
      · rename_i hst
        rw [w.removeReady_eq hf hst]
        rfl
      · rfl
    · rfl
  | rotateReadyQueue p =>
    simp only [SchedulerOp.run, rotateReadyQueue]
    repeat' split
    all_goals rfl
  | reschedule policy =>
    rcases w.reschedule_cases policy with ⟨hc, -⟩ | ⟨i, th, hc, ht, ⟨-, he⟩ | ⟨hpreempt, -⟩⟩
    · simp [SchedulerOp.selects, hc] at hselects
    · simp only [SchedulerOp.run, he]
    · simp only [SchedulerOp.selects, hc, ht] at hselects
      rw [(Option.any_eq_true _ _).mpr hpreempt] at hselects
      cases hselects
  | publishCanonicalTick tick => rfl
  | restore state => exact absurd rfl (hrestore state)

/-! ## Rescheduling -/

theorem priority_le_of_before {a b : ThreadRecord} (h : a.Before b) :
    a.priority ≤ b.priority := by
  rcases h with hlt | ⟨heq, -⟩
  · exact hlt.le
  · exact heq.le

theorem readyRecord_picked {p : Priority} {h : EeSchedulerThreadHandle}
    {rest : List EeSchedulerThreadHandle} (j : Int) :
    (t.picked p h th rest).readyRecord j = if j = h.id then none else t.readyRecord j := by
  have hthreads : ∀ j, (t.picked p h th rest).thread? j =
      if j = h.id then
        some { th with state := .Running, retainCompletedWaitReason := false, queueSequence := 0 }
      else t.thread? j :=
    fun j => thread?_setThread h.id j
  rw [readyRecord_update hthreads]
  rfl

/-- The thread selected has no Ready thread of smaller priority behind it. -/
theorem Wf.takeNextReady_priority (w : Wf t) (hnone : t.currentThreadId = none)
    (hc : t.takeNextReady.2.currentThreadId = some i)
    (hi : t.takeNextReady.2.thread? i = some th)
    (hj : t.takeNextReady.2.readyRecord j = some th') : th.priority ≤ th'.priority := by
  rcases w.takeNextReady_cases with ⟨-, he⟩ | ⟨p, h, th₀, rest, hempty, hq, hf, hin, he⟩
  · rw [he, hnone] at hc
    cases hc
  · rw [he] at hc hi hj
    obtain rfl : h.id = i := Option.some.inj hc
    obtain ⟨-, ht, -⟩ := findThread_eq_some.mp hf
    have hself : (t.picked p h th₀ rest).thread? h.id = some
        { th₀ with state := .Running, retainCompletedWaitReason := false, queueSequence := 0 } :=
      (thread?_setThread h.id h.id).trans (if_pos rfl)
    rw [hself] at hi
    cases hi
    rw [readyRecord_picked] at hj
    split at hj
    · cases hj
    · rename_i hne
      have hle : th₀.priority ≤ th'.priority :=
        priority_le_of_before (w.before_of_head hempty hq ht hin hne hj)
      exact hle

/-- `highestReadyPriority` is the least priority of a Ready thread. -/
theorem Wf.highestReadyPriority_le (w : Wf s) (hj : s.readyRecord j = some th') :
    ∃ p, s.highestReadyPriority = some p ∧ p ≤ th'.priority := by
  obtain ⟨ht, hready⟩ := readyRecord_eq_some.mp hj
  have hmem : ⟨j, th'.generation⟩ ∈ s.readyQueues th'.priority :=
    w.mem_ready.mpr ⟨th', ht, rfl, hready, rfl⟩
  have hne : (!(s.readyQueues th'.priority).isEmpty) = true := by
    rw [Bool.not_eq_true', List.isEmpty_eq_false_iff]
    exact List.ne_nil_of_mem hmem
  cases hp : s.highestReadyPriority with
  | none =>
    have hall := List.find?_eq_none.mp hp th'.priority (List.mem_finRange _)
    exact absurd hne hall
  | some p =>
    refine ⟨p, rfl, ?_⟩
    by_contra hlt
    obtain ⟨-, before, after, hsplit, hbefore⟩ := List.find?_eq_some_iff_append.mp hp
    have hmem : th'.priority ∈ before ++ p :: after := hsplit ▸ List.mem_finRange _
    have hsorted : (before ++ p :: after).Pairwise (· < ·) :=
      hsplit ▸ List.pairwise_lt_finRange kEeThreadPriorityCount
    rcases List.mem_append.mp hmem with hm | hm
    · have := hbefore _ hm
      rw [hne] at this
      cases this
    · rcases List.mem_cons.mp hm with heq | hm
      · exact hlt heq.ge
      · have hpr := (List.pairwise_append.mp hsorted).2.1
        exact hlt ((List.pairwise_cons.mp hpr).1 _ hm).le

/-- **After `reschedule` with a policy other than None no Ready thread has a smaller priority than
the current one.** -/
theorem reschedule_priority (w : Wf s) {policy : EeSchedulerReschedulePolicy}
    (hpolicy : policy ≠ .None) (hf : Fits s (s.reschedule policy).2)
    (hc : (s.reschedule policy).2.currentThreadId = some i)
    (hi : (s.reschedule policy).2.thread? i = some th)
    (hj : (s.reschedule policy).2.readyRecord j = some th') : th.priority ≤ th'.priority := by
  rcases w.reschedule_cases policy with ⟨hnone, he⟩ | ⟨i', t, hc', ht, ⟨hkeep, he⟩ | ⟨-, he⟩⟩
  · rw [he] at hc hi hj
    exact w.takeNextReady_priority hnone hc hi hj
  · rw [he] at hc hi hj
    obtain rfl : i' = i := Option.some.inj (hc'.symm.trans hc)
    obtain rfl : t = th := Option.some.inj (ht.symm.trans hi)
    obtain ⟨p, hp, hle⟩ := w.highestReadyPriority_le hj
    have hno := hkeep p hp
    refine le_trans (not_lt.mp fun hlt => ?_) hle
    cases policy with
    | None => exact hpolicy rfl
    | HigherPriorityOnly | EqualOrHigherPriority => simp [shouldPreempt, hlt] at hno
  · rw [he] at hc hi hj hf
    have hn := hf.counter_ne (takeNextReady_nextQueueSequence _)
    exact (w.wf_requeue hc' ht hn).takeNextReady_priority rfl hc hi hj

/-! ## The order of enqueueing -/

def readyPriority (s : EeThreadScheduler) (i : Int) : Option Priority :=
  (s.readyRecord i).map (·.priority)

/-- A thread Ready in `s'` either was Ready in `s` with the same priority and sequence, or drew a
new sequence on becoming Ready or changing priority. -/
def ReadyStep (s s' : EeThreadScheduler) : Prop :=
  ∀ j th', s'.readyRecord j = some th' →
    (∃ th, s.readyRecord j = some th ∧ th.priority = th'.priority ∧
      th.queueSequence = th'.queueSequence) ∨
    (th'.queueSequence = s.nextQueueSequence ∧ s.readyPriority j ≠ some th'.priority)

theorem readyStep_refl (s : EeThreadScheduler) : ReadyStep s s :=
  fun _ th' h => .inl ⟨th', h, rfl, rfl⟩

theorem readyStep_of_thread? (h : ReadyStep s s') {s₁ : EeThreadScheduler}
    (hthreads : s₁.thread? = s'.thread?) : ReadyStep s s₁ := by
  intro j th' hj
  refine h j th' ?_
  unfold readyRecord at hj ⊢
  rwa [hthreads] at hj

/-- Thread `i` gets a record that is not Ready, or a fresh sequence. -/
theorem readyStep_update (hthreads : ∀ j, t.thread? j = if j = i then some th' else s.thread? j)
    (hself : th'.state = .Ready →
      (∃ th, s.readyRecord i = some th ∧ th.priority = th'.priority ∧
        th.queueSequence = th'.queueSequence) ∨
      (th'.queueSequence = s.nextQueueSequence ∧ s.readyPriority i ≠ some th'.priority)) :
    ReadyStep s t := by
  intro j a hj
  rw [readyRecord_update hthreads] at hj
  split at hj
  · rename_i heq
    split at hj
    · rename_i hready
      cases hj
      rw [heq]
      exact hself hready
    · cases hj
  · exact .inl ⟨a, hj, rfl, rfl⟩

theorem readyRecord_eq_none (ht : s.thread? i = some th) (hst : th.state ≠ .Ready) :
    s.readyRecord i = none := by
  unfold readyRecord
  rw [ht, Option.filter_some, if_neg (by simpa using hst)]

theorem readyStep_enqueueReady (ht : s.thread? i = some th) (hst : th.state ≠ .Ready)
    {th₁ : ThreadRecord} (hthreads : t.thread? = s.thread?)
    (hnext : t.nextQueueSequence = s.nextQueueSequence) : ReadyStep s (t.enqueueReady i th₁) := by
  have hthreads' : ∀ j, (t.enqueueReady i th₁).thread? j =
      if j = i then
        some { th₁ with state := .Ready, wait := {}, queueSequence := t.nextQueueSequence }
      else s.thread? j := fun j => by
    rw [thread?_enqueueReady, hthreads]
  refine readyStep_update hthreads' fun _ => .inr ⟨hnext, ?_⟩
  · unfold readyPriority
    rw [readyRecord_eq_none ht hst]
    exact nofun

/-- A record changes in fields other than state, priority and sequence, or is not Ready. -/
theorem readyStep_setThread (ht : s.thread? i = some th)
    (hsame : th'.state = .Ready → th.state = .Ready ∧ th'.priority = th.priority ∧
      th'.queueSequence = th.queueSequence) : ReadyStep s (s.setThread i th') := by
  refine readyStep_update (fun j => thread?_setThread i j) fun hready => .inl ?_
  obtain ⟨hst, hp, hq⟩ := hsame hready
  exact ⟨th, readyRecord_eq_some.mpr ⟨ht, hst⟩, hp.symm, hq.symm⟩

/-- Selecting a thread only takes it out of the Ready ones. -/
theorem Located.readyStep_takeNextReady (w : Located t) (h : ReadyStep s t) :
    ReadyStep s t.takeNextReady.2 := by
  rcases w.takeNextReady_cases with ⟨-, he⟩ | ⟨p, handle, th, rest, -, -, -, -, he⟩
  · rwa [he]
  · rw [he]
    intro j th' hj
    rw [readyRecord_picked] at hj
    split at hj
    · cases hj
    · exact h j th' hj

theorem readyStep_publishWake (ht : s.thread? i = some th) (hst : th.state ≠ .Ready)
    {th₁ : ThreadRecord} (hthreads : t.thread? = s.thread?)
    (hnext : t.nextQueueSequence = s.nextQueueSequence) : ReadyStep s (t.publishWake i th₁) := by
  unfold publishWake
  split
  · have hthreads' : ∀ j,
        (t.setThread i { th₁ with state := .Suspended, queueSequence := 0 }).thread? j =
        if j = i then some { th₁ with state := .Suspended, queueSequence := 0 } else s.thread? j :=
      fun j => by rw [thread?_setThread, hthreads]
    exact readyStep_update hthreads' nofun
  · exact readyStep_enqueueReady ht hst hthreads hnext

theorem Located.readyStep_requeue (w : Located s) (hc : s.currentThreadId = some i)
    (ht : s.thread? i = some th) :
    ReadyStep s ({ s with currentThreadId := none }.enqueueReady i th).takeNextReady.2 := by
  have hne : th.state ≠ .Ready := by rw [w.current_state hc ht]; exact nofun
  exact (w.located_requeue hc ht).readyStep_takeNextReady (readyStep_enqueueReady ht hne rfl rfl)

theorem Wf.readyStep_releaseWaitThread (w : Wf s) (h : EeSchedulerThreadHandle)
    (c : EeSchedulerWaitCompletion) (r : Bool) : ReadyStep s (s.releaseWaitThread h c r).2 := by
  rcases w.releaseWaitThread_cases h c r with he | ⟨th, hf, -, hst, -, he⟩
  · rw [he]
    exact readyStep_refl s
  · rw [he]
    have hne : th.state ≠ .Ready := by rcases hst with e | e <;> rw [e] <;> exact nofun
    exact readyStep_publishWake (findThread_eq_some.mp hf).2.1 hne rfl rfl

theorem Wf.readyStep_blockCurrentThread (w : Wf s) (k : EeSchedulerWaitKey) :
    ReadyStep s (s.blockCurrentThread k).2 := by
  rcases w.blockCurrentThread_cases k with he | ⟨i, th, hc, ht, hr, hk, hcv, hw, he⟩
  · rw [he]
    exact readyStep_refl s
  · rw [he]
    obtain ⟨hid, hgen⟩ := w.ids not_false ht
    have w' := (w.located.detach_running hc).attach_wait hid hgen k
    exact w'.readyStep_takeNextReady (readyStep_update (fun j => thread?_setThread i j) nofun)

theorem readyStep_finishTermination (w : LocatedExcept (· = i) t) (hid : 0 < i)
    (hgen : th.generation ≠ 0) (hthreads : t.thread? = s.thread?) :
    ReadyStep s (finishTermination t i th) := by
  have hgen' : (retired th).generation ≠ 0 := hgen
  have hthreads' : ∀ j, (t.setThread i (retired th)).thread? j =
      if j = i then some (retired th) else s.thread? j := fun j => by
    rw [thread?_setThread, hthreads]
  have hstep : ReadyStep s (t.setThread i (retired th)) := readyStep_update hthreads' nofun
  unfold finishTermination
  simp only
  split
  · exact hstep
  · exact (w.attach_idle hid hgen' (Or.inl rfl)).readyStep_takeNextReady hstep

/-- **What a call other than a rotation or a restore does to the Ready threads.** -/
theorem readyStep_run (w : Wf s) {op : SchedulerOp} (hrotate : ∀ p, op ≠ .rotateReadyQueue p)
    (hrestore : ∀ state, op ≠ .restore state) : ReadyStep s (op.run s) := by
  have hdormant : ∀ {h : EeSchedulerThreadHandle}, ReadyStep s (s.startThread h).2 := by
    intro h
    unfold startThread
    cases hf : s.findThread h with
    | none => exact readyStep_refl s
    | some th =>
      simp only
      split
      · rename_i hst
        have hne : th.state ≠ .Ready := by rw [hst]; rintro ⟨⟩
        exact readyStep_enqueueReady (findThread_eq_some.mp hf).2.1 hne rfl rfl
      · exact readyStep_refl s
  cases op with
  | addDormantThread i g p =>
    rcases addDormantThread_cases s i g p with he | ⟨q, -, -, -, -, he⟩
    · simp only [SchedulerOp.run, he]
      exact readyStep_refl s
    · simp only [SchedulerOp.run, he]
      exact readyStep_update (fun j => thread?_setThread i j) (by rintro ⟨⟩)
  | addRunningThread i g p =>
    rcases addRunningThread_cases s i g p with he | ⟨q, -, -, -, -, he⟩
    · simp only [SchedulerOp.run, he]
      exact readyStep_refl s
    · simp only [SchedulerOp.run, he]
      exact readyStep_update (fun j => thread?_setThread i j) (by rintro ⟨⟩)
  | startThread h => exact hdormant
  | startThreadId i =>
    simp only [SchedulerOp.run, startThreadId]
    split
    · exact hdormant
    · exact readyStep_refl s
  | selectNextThread =>
    simp only [SchedulerOp.run, selectNextThread]
    split
    · exact readyStep_refl s
    · exact w.located.readyStep_takeNextReady (readyStep_refl s)
  | yieldCurrentThread =>
    simp only [SchedulerOp.run, yieldCurrentThread, selectNextThread]
    cases hc : s.currentThreadId with
    | none => exact w.located.readyStep_takeNextReady (readyStep_refl s)
    | some i =>
      obtain ⟨th, ht, hr⟩ := w.current_running hc
      simp only [ht, hr, if_true]
      exact w.located.readyStep_requeue hc ht
  | blockCurrentThread k => exact w.readyStep_blockCurrentThread k
  | sleepCurrentThread =>
    simp only [SchedulerOp.run, sleepCurrentThread]
    cases hc : s.currentThreadId with
    | none => exact readyStep_refl s
    | some i =>
      obtain ⟨th, ht, hr⟩ := w.current_running hc
      simp only [ht]
      split
      · exact readyStep_refl s
      split
      · exact readyStep_setThread ht fun hready => ⟨hready, rfl, rfl⟩
      · exact w.readyStep_blockCurrentThread sleepKey
  | wakeOne k =>
    rcases w.wakeOne_cases k with ⟨-, he⟩ | ⟨h, rest, th, -, -, hf, hin, he⟩
    · simp only [SchedulerOp.run, he]
      exact readyStep_refl s
    · simp only [SchedulerOp.run, he]
      have hne : th.state ≠ .Ready := by rcases hin.1 with e | e <;> rw [e] <;> rintro ⟨⟩
      exact readyStep_publishWake (findThread_eq_some.mp hf).2.1 hne rfl rfl
  | wakeThread h =>
    rcases wakeThread_cases s h with he | he | ⟨th, hf, -, -, he⟩
    · simp only [SchedulerOp.run, he]
      exact readyStep_refl s
    · simp only [SchedulerOp.run, he]
      exact w.readyStep_releaseWaitThread h .Satisfied false
    · simp only [SchedulerOp.run, he]
      exact readyStep_setThread (findThread_eq_some.mp hf).2.1 fun hready => ⟨hready, rfl, rfl⟩
  | cancelWakeups h =>
    simp only [SchedulerOp.run, cancelWakeups]
    cases hf : s.findThread h with
    | none => exact readyStep_refl s
    | some th =>
      exact readyStep_setThread (findThread_eq_some.mp hf).2.1 fun hready => ⟨hready, rfl, rfl⟩
  | releaseWaitThread h c r => exact w.readyStep_releaseWaitThread h c r
  | consumeWaitCompletion h =>
    simp only [SchedulerOp.run, consumeWaitCompletion]
    cases hf : s.findThread h with
    | none => exact readyStep_refl s
    | some th =>
      simp only
      split
      · exact readyStep_refl s
      · exact readyStep_setThread (findThread_eq_some.mp hf).2.1 fun hready => ⟨hready, rfl, rfl⟩
  | finishCurrentThread | exitCurrentThread =>
    simp only [SchedulerOp.run, finishCurrentThread, exitCurrentThread]
    rcases w.retireCurrentThread_cases with ⟨-, he⟩ | ⟨i, th, hc, ht, he⟩
    · rw [he]
      exact readyStep_refl s
    · obtain ⟨w', -⟩ := w.wf_retireCurrentThread he
      rw [he]
      exact w'.located.readyStep_takeNextReady
        (readyStep_update (fun j => thread?_setThread i j) (by rintro ⟨⟩))
  | suspendThread h =>
    simp only [SchedulerOp.run, suspendThread]
    cases hf : s.findThread h with
    | none => exact readyStep_refl s
    | some th =>
      obtain ⟨-, ht, -⟩ := findThread_eq_some.mp hf
      obtain ⟨hid, hgen⟩ := w.ids not_false ht
      simp only
      split
      · exact readyStep_refl s
      cases hst : th.state with
      | Dormant => exact readyStep_refl s
      | Running =>
        have hc := w.running_current ht hst
        simp only [hc, if_true]
        have hgen' : ThreadRecord.generation
            { th with suspendCount := th.suspendCount + 1, state := .Suspended } ≠ 0 := hgen
        have w' := (w.located.detach_running hc).attach_idle hid hgen' (Or.inr rfl)
        exact w'.readyStep_takeNextReady
          (readyStep_update (fun j => thread?_setThread h.id j) (by rintro ⟨⟩))
      | Ready =>
        rw [w.removeReady_eq hf hst]
        exact readyStep_update (fun j => thread?_setThread h.id j) (by rintro ⟨⟩)
      | Waiting | Suspended | WaitSuspended =>
        refine readyStep_setThread ht fun hready => absurd hready ?_
        simp
  | resumeThread h =>
    simp only [SchedulerOp.run, resumeThread]
    cases hf : s.findThread h with
    | none => exact readyStep_refl s
    | some th =>
      obtain ⟨-, ht, -⟩ := findThread_eq_some.mp hf
      simp only
      split
      · exact readyStep_refl s
      rename_i hcan
      rw [not_or, not_and, not_not] at hcan
      split
      · exact readyStep_setThread ht fun hready => ⟨hready, rfl, rfl⟩
      split
      · exact readyStep_setThread ht (by rintro ⟨⟩)
      · rename_i hns
        have hne : th.state ≠ .Ready := fun e => hns (hcan.2 (by rw [e]; rintro ⟨⟩))
        exact readyStep_enqueueReady ht hne rfl rfl
  | terminateThread h =>
    simp only [SchedulerOp.run, terminateThread]
    cases hf : s.findThread h with
    | none => exact readyStep_refl s
    | some th =>
      obtain ⟨-, ht, hg⟩ := findThread_eq_some.mp hf
      obtain ⟨hid, hgen⟩ := w.ids not_false ht
      simp only
      cases hst : th.state with
      | Dormant => exact readyStep_refl s
      | Running =>
        have hc := w.running_current ht hst
        simp only [hc, if_true]
        exact readyStep_finishTermination (w.located.detach_running hc) hid hgen rfl
      | Ready =>
        rw [w.removeReady_eq hf hst]
        exact readyStep_finishTermination (w.located.detach_ready ht hg hst) hid hgen rfl
      | Waiting =>
        rw [w.removeWait_eq hf (Or.inl hst)]
        exact readyStep_finishTermination (w.located.detach_wait ht hg (Or.inl hst)) hid hgen rfl
      | Suspended =>
        exact readyStep_finishTermination (w.located.detach_idle ht (Or.inr hst)) hid hgen rfl
      | WaitSuspended =>
        rw [w.removeWait_eq hf (Or.inr hst)]
        exact readyStep_finishTermination (w.located.detach_wait ht hg (Or.inr hst)) hid hgen rfl
  | deleteThread h =>
    simp only [SchedulerOp.run, deleteThread]
    cases s.findThread h with
    | none => exact readyStep_refl s
    | some th =>
      simp only
      split
      · intro j a hj
        obtain ⟨hja, hready⟩ := readyRecord_eq_some.mp hj
        have hne : j ≠ h.id := by
          rintro rfl
          have herased : ({ s with threads := s.threads.erase h.id } : EeThreadScheduler).thread?
              h.id = none := Finmap.lookup_erase h.id s.threads
          rw [herased] at hja
          cases hja
        have hkept : s.thread? j = some a := (Finmap.lookup_erase_ne hne).symm.trans hja
        exact .inl ⟨a, readyRecord_eq_some.mpr ⟨hkept, hready⟩, rfl, rfl⟩
      · exact readyStep_refl s
  | changeThreadPriority h priority =>
    simp only [SchedulerOp.run, changeThreadPriority]
    cases hf : s.findThread h with
    | none => exact readyStep_refl s
    | some th =>
      cases validPriority priority with
      | none => exact readyStep_refl s
      | some p =>
        obtain ⟨-, ht, -⟩ := findThread_eq_some.mp hf
        simp only
        split
        · exact readyStep_refl s
        split
        · exact readyStep_refl s
        rename_i hne
        split
        · rename_i hst
          rw [w.removeReady_eq hf hst]
          have hthreads : ∀ j, ((({ s with
              readyQueues := Function.update s.readyQueues th.priority
                ((s.readyQueues th.priority).erase h) } : EeThreadScheduler).enqueueReady h.id
              { th with priority := p }).thread? j) =
              if j = h.id then
                some { th with
                  priority := p, state := .Ready, wait := {}, queueSequence := s.nextQueueSequence }
              else s.thread? j := fun j => thread?_enqueueReady h.id j
          refine readyStep_update hthreads fun _ => .inr ⟨rfl, ?_⟩
          unfold readyPriority
          rw [readyRecord_eq_some.mpr ⟨ht, hst⟩]
          exact fun e => hne (Option.some.inj e)
        · rename_i hst
          exact readyStep_setThread ht fun hready => absurd hready hst
  | rotateReadyQueue p => exact absurd rfl (hrotate p)
  | reschedule policy =>
    rcases w.reschedule_cases policy with ⟨-, he⟩ | ⟨i, th, hc, ht, ⟨-, he⟩ | ⟨-, he⟩⟩
    · simp only [SchedulerOp.run, he]
      exact w.located.readyStep_takeNextReady (readyStep_refl s)
    · simp only [SchedulerOp.run, he]
      exact readyStep_refl s
    · simp only [SchedulerOp.run, he]
      exact w.located.readyStep_requeue hc ht
  | publishCanonicalTick tick => exact readyStep_of_thread? (readyStep_refl s) rfl
  | restore state => exact absurd rfl (hrestore state)

end EeThreadScheduler

/-- The call puts thread `i` at the back of a ready queue, or rotates it there: it is Ready and was
not, or not with this priority, or heads the queue rotated. An accepted `restore` queues all its
threads. -/
def SchedulerOp.enqueues (s : EeThreadScheduler) (op : SchedulerOp) (i : Int) : Bool :=
  match op with
  | .restore state => (s.restore state).1
  | .rotateReadyQueue priority =>
    match validPriority priority with
    | none => false
    | some p =>
      match s.readyQueues p with
      | h :: _ :: _ => h.id = i
      | _ => false
  | _ => (op.run s).readyPriority i ≠ none && (op.run s).readyPriority i ≠ s.readyPriority i

/-- The place of a thread among those that one call queues: the sequence its snapshot gives it. -/
def SchedulerOp.placeOf (s : EeThreadScheduler) (op : SchedulerOp) (i : Int) : QueueSequence :=
  match op with
  | .restore state => (s.restore state).2.sequenceOf ⟨i, 0⟩
  | _ => 0

/-- A run that remembers when each thread was last put at the back of a ready queue or rotated
there: the number of the call, and the place among those the call queued. -/
structure Timed where
  ledger : Ledger := {}
  calls : ℕ := 0
  lastQueued : Int → ℕ ×ₗ QueueSequence := fun _ => toLex (0, 0)

namespace Timed

def step (r : Timed) (op : SchedulerOp) : Timed :=
  { ledger := r.ledger.step op
    calls := r.calls + 1
    lastQueued := fun i =>
      if op.enqueues r.ledger.scheduler i then
        toLex (r.calls + 1, op.placeOf r.ledger.scheduler i)
      else r.lastQueued i }

/-- Ready threads have their sequences in the order they were last queued in. -/
structure InOrder (r : Timed) : Prop where
  past : ∀ i th, r.ledger.scheduler.readyRecord i = some th → (ofLex (r.lastQueued i)).1 ≤ r.calls
  sequence : ∀ i j a b, r.ledger.scheduler.readyRecord i = some a →
    r.ledger.scheduler.readyRecord j = some b →
    (r.lastQueued i < r.lastQueued j ↔ a.queueSequence < b.queueSequence)

/-- The threads a call queues draw the next sequence; the others keep theirs. -/
def Queues (s : EeThreadScheduler) (op : SchedulerOp) : Prop :=
  ∀ j th', (op.run s).readyRecord j = some th' →
    (op.enqueues s j = false ∧ ∃ th, s.readyRecord j = some th ∧
      th.queueSequence = th'.queueSequence) ∨
    (op.enqueues s j = true ∧ th'.queueSequence = s.nextQueueSequence)

theorem queues_of_readyStep {s : EeThreadScheduler} {op : SchedulerOp}
    (hstep : ReadyStep s (op.run s)) (hrotate : ∀ p, op ≠ .rotateReadyQueue p)
    (hrestore : ∀ state, op ≠ .restore state) : Queues s op := by
  have henqueues : ∀ j, op.enqueues s j =
      ((op.run s).readyPriority j ≠ none && (op.run s).readyPriority j ≠ s.readyPriority j) := by
    intro j
    unfold SchedulerOp.enqueues
    cases op with
    | rotateReadyQueue p => exact absurd rfl (hrotate p)
    | restore state => exact absurd rfl (hrestore state)
    | _ => rfl
  intro j th' hj
  have hpriority : (op.run s).readyPriority j = some th'.priority := by
    unfold readyPriority
    rw [hj]
    rfl
  rw [henqueues, hpriority]
  rcases hstep j th' hj with ⟨th, hth, hp, hq⟩ | ⟨hq, hp⟩
  · have hsame : s.readyPriority j = some th'.priority := by
      unfold readyPriority
      rw [hth, ← hp]
      rfl
    exact .inl ⟨by simp [hsame], th, hth, hq⟩
  · exact .inr ⟨by simpa using Ne.symm hp, hq⟩

theorem queues_rotateReadyQueue {s : EeThreadScheduler} (w : s.Wf) (priority : Int) :
    Queues s (.rotateReadyQueue priority) := by
  have hsame : s.rotateReadyQueue priority = ((s.rotateReadyQueue priority).1, s) →
      (∀ j, (SchedulerOp.rotateReadyQueue priority).enqueues s j = false) →
      Queues s (.rotateReadyQueue priority) := by
    intro he hno j th' hj
    have hrun : (SchedulerOp.rotateReadyQueue priority).run s = s := congrArg Prod.snd he
    rw [hrun] at hj
    exact .inl ⟨hno j, th', hj, rfl⟩
  cases hp : validPriority priority with
  | none => exact hsame (by simp [rotateReadyQueue, hp]) (by simp [SchedulerOp.enqueues, hp])
  | some p =>
    cases hq : s.readyQueues p with
    | nil =>
      exact hsame (by simp [rotateReadyQueue, hp, hq]) (by simp [SchedulerOp.enqueues, hp, hq])
    | cons h rest =>
      cases rest with
      | nil =>
        exact hsame (by simp [rotateReadyQueue, hp, hq]) (by simp [SchedulerOp.enqueues, hp, hq])
      | cons h' rest =>
        obtain ⟨th, hf, hin⟩ :=
          w.findThread_of_holds (w.mem_ready.mp (by rw [hq]; exact List.mem_cons_self))
        have hin' : th.state = .Ready ∧ th.priority = p := hin
        have hthreads : ∀ j, ((SchedulerOp.rotateReadyQueue priority).run s).thread? j =
            if j = h.id then some { th with queueSequence := s.nextQueueSequence }
            else s.thread? j := by
          intro j
          simp only [SchedulerOp.run, rotateReadyQueue, hp, hq, hf, if_pos hin']
          exact thread?_setThread h.id j
        intro j th' hj
        rw [readyRecord_update hthreads, if_pos hin'.1] at hj
        by_cases hjh : j = h.id
        · rw [if_pos hjh] at hj
          cases hj
          exact .inr ⟨by simp [SchedulerOp.enqueues, hp, hq, hjh], rfl⟩
        · rw [if_neg hjh] at hj
          exact .inl ⟨by simp [SchedulerOp.enqueues, hp, hq, Ne.symm hjh], th', hj, rfl⟩

theorem queues_run {s : EeThreadScheduler} (w : s.Wf) {op : SchedulerOp}
    (hrestore : ∀ state, op ≠ .restore state) : Queues s op := by
  by_cases hrotate : ∀ p, op ≠ .rotateReadyQueue p
  · exact queues_of_readyStep (readyStep_run w hrotate hrestore) hrotate hrestore
  · obtain ⟨p, hp⟩ := not_forall_not.mp hrotate
    subst hp
    exact queues_rotateReadyQueue w p

theorem step_scheduler (r : Ledger) (op : SchedulerOp) :
    (r.step op).scheduler = op.run r.scheduler := by
  cases op <;> rfl

theorem lastQueued_enqueued {r : Timed} {op : SchedulerOp} {i : Int}
    (h : op.enqueues r.ledger.scheduler i = true) :
    (r.step op).lastQueued i = toLex (r.calls + 1, op.placeOf r.ledger.scheduler i) :=
  if_pos h

theorem lastQueued_kept {r : Timed} {op : SchedulerOp} {i : Int}
    (h : op.enqueues r.ledger.scheduler i = false) :
    (r.step op).lastQueued i = r.lastQueued i :=
  if_neg (by rw [h]; exact nofun)

theorem placeOf_eq_zero {s : EeThreadScheduler} {op : SchedulerOp}
    (hrestore : ∀ state, op ≠ .restore state) (i : Int) : op.placeOf s i = 0 := by
  cases op with
  | restore state => exact absurd rfl (hrestore state)
  | _ => rfl

/-- A Ready thread that keeps its sequence has a smaller one than a thread queued now. -/
theorem sequence_lt_next {s s' : EeThreadScheduler} (w : s.Wf) (w' : s'.Wf) {i j : Int}
    {a a' b' : ThreadRecord} (ha : s.readyRecord i = some a)
    (hkept : a.queueSequence = a'.queueSequence) (hb : s'.readyRecord j = some b')
    (hnew : b'.queueSequence = s.nextQueueSequence) : a'.queueSequence < b'.queueSequence := by
  have hb0 : b'.queueSequence ≠ 0 := by
    obtain ⟨ht, hready⟩ := readyRecord_eq_some.mp hb
    have hs := (w'.records not_false ht).state
    unfold ThreadRecord.StateOk at hs
    rw [hready] at hs
    exact hs.2.2
  have hissued := w.issued not_false (readyRecord_eq_some.mp ha).1
  unfold sequenceEnd at hissued
  rw [if_neg (hnew ▸ hb0)] at hissued
  rw [← hkept, hnew]
  exact hissued

/-- **Every call keeps the order.** -/
theorem inOrder_step {r : Timed} {op : SchedulerOp} (a : Ledger.Account r.ledger)
    (hlt : Ledger.Below uint64Count r.ledger op) (ho : r.InOrder) : (r.step op).InOrder := by
  have w := a.wf
  have w' : (op.run r.ledger.scheduler).Wf := by
    have := (Ledger.account_step r.ledger op a hlt).wf
    rwa [step_scheduler] at this
  have hscheduler : (r.step op).ledger.scheduler = op.run r.ledger.scheduler :=
    step_scheduler r.ledger op
  by_cases hrestore : ∀ state, op ≠ .restore state
  · have hqueues := queues_run w hrestore
    refine ⟨fun i th hi => ?_, fun i j a' b' hi hj => ?_⟩
    · rw [hscheduler] at hi
      rcases hqueues i th hi with ⟨hkept, th₀, hi₀, -⟩ | ⟨hqueued, -⟩
      · rw [lastQueued_kept hkept]
        exact (ho.past i th₀ hi₀).trans (Nat.le_succ _)
      · rw [lastQueued_enqueued hqueued]
        exact le_rfl
    · rw [hscheduler] at hi hj
      rcases hqueues i a' hi with ⟨hki, a₀, hi₀, ha₀⟩ | ⟨hqi, ha⟩ <;>
        rcases hqueues j b' hj with ⟨hkj, b₀, hj₀, hb₀⟩ | ⟨hqj, hb⟩
      · rw [lastQueued_kept hki, lastQueued_kept hkj, ← ha₀, ← hb₀]
        exact ho.sequence i j a₀ b₀ hi₀ hj₀
      · rw [lastQueued_kept hki, lastQueued_enqueued hqj]
        have hpast := ho.past i a₀ hi₀
        refine iff_of_true (Prod.Lex.lt_iff.mpr (.inl ?_)) (sequence_lt_next w w' hi₀ ha₀ hj hb)
        exact Nat.lt_succ_of_le hpast
      · rw [lastQueued_enqueued hqi, lastQueued_kept hkj]
        have hpast := ho.past j b₀ hj₀
        have hseq := sequence_lt_next w w' hj₀ hb₀ hi ha
        refine iff_of_false (fun h => ?_) hseq.asymm
        refine lt_asymm h (Prod.Lex.lt_iff.mpr (.inl ?_))
        exact Nat.lt_succ_of_le hpast
      · rw [lastQueued_enqueued hqi, lastQueued_enqueued hqj, placeOf_eq_zero hrestore,
          placeOf_eq_zero hrestore, ha, hb]
        exact iff_of_false (lt_irrefl _) (lt_irrefl _)
  · obtain ⟨state, hop⟩ := not_forall_not.mp hrestore
    subst hop
    rcases restore_cases r.ledger.scheduler state with he | ⟨c, -, he⟩
    · -- a rejected snapshot
      have hkept : ∀ i, (r.step (.restore state)).lastQueued i = r.lastQueued i := fun i =>
        lastQueued_kept (congrArg Prod.fst he)
      have hrun : (SchedulerOp.restore state).run r.ledger.scheduler = r.ledger.scheduler :=
        congrArg Prod.snd he
      refine ⟨fun i th hi => ?_, fun i j a' b' hi hj => ?_⟩
      · rw [hscheduler, hrun] at hi
        rw [hkept]
        exact (ho.past i th hi).trans (Nat.le_succ _)
      · rw [hscheduler, hrun] at hi hj
        rw [hkept, hkept]
        exact ho.sequence i j a' b' hi hj
    · have hqueued : ∀ i, (r.step (.restore state)).lastQueued i = toLex (r.calls + 1,
          (r.ledger.scheduler.restore state).2.sequenceOf ⟨i, 0⟩) := fun i =>
        lastQueued_enqueued (congrArg Prod.fst he)
      have hsequence : ∀ i th,
          ((SchedulerOp.restore state).run r.ledger.scheduler).readyRecord i = some th →
          (r.ledger.scheduler.restore state).2.sequenceOf ⟨i, 0⟩ = th.queueSequence :=
        fun i th hi => sequenceOf_eq (h := ⟨i, 0⟩) (readyRecord_eq_some.mp hi).1
      refine ⟨fun i th _ => ?_, fun i j a' b' hi hj => ?_⟩
      · rw [hqueued]
        exact le_rfl
      · rw [hscheduler] at hi hj
        rw [hqueued, hqueued, hsequence i a' hi, hsequence j b' hj, Prod.Lex.toLex_lt_toLex]
        simp

/-- The guard of a timed run: fewer than `2 ^ 64` sequences are allocated. -/
def Few (r : Timed) (op : SchedulerOp) : Prop := Ledger.Below uint64Count r.ledger op

instance (r : Timed) (op : SchedulerOp) : Decidable (r.Few op) :=
  inferInstanceAs (Decidable (Ledger.Below _ _ _))

theorem inOrder_empty : InOrder {} := by
  have hnone : ∀ i, ({} : EeThreadScheduler).readyRecord i = none := fun _ => rfl
  refine ⟨fun i th hi => ?_, fun i j a b hi => ?_⟩
  · exact absurd ((hnone i).symm.trans hi) nofun
  · exact absurd ((hnone i).symm.trans hi) nofun

theorem inOrder_of_run {ops : List SchedulerOp} (hfew : Along step Few {} ops) :
    Ledger.Account (run step {} ops).ledger ∧ (run step {} ops).InOrder :=
  invariant (I := fun r => Ledger.Account r.ledger ∧ r.InOrder)
    (fun r op ⟨ha, ho⟩ hlt => ⟨Ledger.account_step r.ledger op ha hlt, inOrder_step ha hlt ho⟩)
    ⟨Ledger.account_empty, inOrder_empty⟩ hfew

end Timed

namespace EeThreadScheduler

variable {s : EeThreadScheduler} {i j : Int}

/-- A departing thread that is requeued draws a sequence other than zero. -/
theorem next_ne_zero_of_requeues (w : Wf s) {op : SchedulerOp} (hf : Fits s (op.run s))
    (hselects : op.selects s = true) (hop : op.requeues = true) (hc : s.currentThreadId = some i) :
    s.nextQueueSequence ≠ 0 := by
  obtain ⟨th, ht, hr⟩ := w.current_running hc
  simp only [SchedulerOp.selects, hc, ht] at hselects
  cases op with
  | yieldCurrentThread =>
    simp only [SchedulerOp.run, yieldCurrentThread, hc, ht, hr, if_true] at hf
    exact hf.counter_ne (takeNextReady_nextQueueSequence _)
  | reschedule policy =>
    rcases w.reschedule_cases policy with ⟨hnone, -⟩ | ⟨i', th', hc', ht', ⟨hno, -⟩ | ⟨-, he⟩⟩
    · cases hnone.symm.trans hc
    · obtain rfl : i = i' := Option.some.inj (hc.symm.trans hc')
      obtain rfl : th = th' := Option.some.inj (ht.symm.trans ht')
      obtain ⟨p, hp, hpreempt⟩ := (Option.any_eq_true _ _).mp hselects
      rw [hno p hp] at hpreempt
      cases hpreempt
    · simp only [SchedulerOp.run, he] at hf
      exact hf.counter_ne (takeNextReady_nextQueueSequence _)
  | _ => cases hop

/-- A candidate was Ready already, or is the departing thread behind everyone queued. -/
theorem candidate_cases {op : SchedulerOp} {a : ThreadRecord} (ha : op.candidate s i = some a) :
    s.readyRecord i = some a ∨
      (s.currentThreadId = some i ∧ op.requeues = true ∧
        a.queueSequence = s.nextQueueSequence) := by
  unfold SchedulerOp.candidate at ha
  split at ha
  · rename_i hc
    split at ha
    · rename_i hop
      obtain ⟨th, -, rfl⟩ := Option.map_eq_some_iff.mp ha
      exact .inr ⟨hc, hop, rfl⟩
    · cases ha
  · split at ha
    · split at ha
      · cases ha
      · exact .inl ha
    · exact .inl ha

end EeThreadScheduler

namespace Timed

/-- What call `op` does about the current thread after the run `r`. -/
structure Dispatches (r : Timed) (op : SchedulerOp) : Prop where
  /-- A call that selects selects the least, and no thread only if there is none. -/
  least : op.selects r.ledger.scheduler = true →
    SelectsLeast (op.candidate r.ledger.scheduler) (op.run r.ledger.scheduler)
  /-- Every other call leaves the current thread, but for the two that install one. -/
  kept : op.selects r.ledger.scheduler = false → (∀ i g p, op ≠ .addRunningThread i g p) →
    (∀ state, op ≠ .restore state) →
    (op.run r.ledger.scheduler).currentThreadId = r.ledger.scheduler.currentThreadId
  /-- After a rescheduling no Ready thread has a smaller priority than the current one. -/
  priority : ∀ policy, op = .reschedule policy → policy ≠ .None → ∀ i j th th',
    (op.run r.ledger.scheduler).currentThreadId = some i →
    (op.run r.ledger.scheduler).thread? i = some th →
    (op.run r.ledger.scheduler).readyRecord j = some th' → th.priority ≤ th'.priority
  /-- A thread selected past a Ready thread of its priority was Ready too, and queued earlier. -/
  inOrder : op.selects r.ledger.scheduler = true → ∀ i j a b, i ≠ j →
    (op.run r.ledger.scheduler).currentThreadId = some i →
    op.candidate r.ledger.scheduler i = some a → op.candidate r.ledger.scheduler j = some b →
    r.ledger.scheduler.readyRecord j = some b → a.priority = b.priority →
    r.ledger.scheduler.readyRecord i = some a ∧ r.lastQueued i < r.lastQueued j

/-- **Threads are selected by priority, and among equals in the order they were queued in**, in
every run with fewer than `2 ^ 64` sequences allocated. -/
theorem selection_of_run (before : List SchedulerOp) (op : SchedulerOp)
    (hfew : Along step Few {} (before ++ [op])) : Dispatches (run step {} before) op := by
  obtain ⟨hbefore, hlast, -⟩ := along_append.mp hfew
  obtain ⟨a, ho⟩ := inOrder_of_run hbefore
  have w := a.wf
  have hselected : op.selects (run step {} before).ledger.scheduler = true →
      Fits (run step {} before).ledger.scheduler
        (op.run (run step {} before).ledger.scheduler) := by
    intro hselects
    cases op with
    | restore state =>
      revert hselects
      simp only [SchedulerOp.selects]
      repeat' split
      all_goals exact nofun
    | _ => exact a.fits hlast
  have hleast := fun hselects => selectsLeast_step w op (hselected hselects) hselects
  refine ⟨hleast, fun hselects => current_of_not_selects w hselects, ?_, ?_⟩
  · rintro policy rfl hpolicy i j th th' hc hi hj
    exact reschedule_priority w hpolicy (a.fits hlast) hc hi hj
  · intro hselects i j th th' hij hc hi hj hready hpriority
    obtain ⟨th₁, hi₁, hbefore⟩ := (hleast hselects).least i hc
    obtain rfl : th = th₁ := Option.some.inj (hi.symm.trans hi₁)
    have hsequence : th.queueSequence < th'.queueSequence := by
      rcases hbefore j th' hij.symm hj with hlt | ⟨-, hlt⟩
      · exact absurd hpriority hlt.ne
      · exact hlt
    rcases candidate_cases hi with hi₀ | ⟨hcurrent, hop, hnext⟩
    · exact ⟨hi₀, (ho.sequence i j th th' hi₀ hready).mpr hsequence⟩
    · -- the departing thread is behind every thread that was Ready
      have hn := next_ne_zero_of_requeues w (hselected hselects) hselects hop hcurrent
      have hissued := w.issued not_false (readyRecord_eq_some.mp hready).1
      unfold sequenceEnd at hissued
      rw [if_neg hn] at hissued
      rw [hnext] at hsequence
      exact absurd hissued (not_lt.mpr hsequence.le)

theorem selection_of_semaphoreRun :
    Dispatches (run step {} Ledger.semaphoreRun) .yieldCurrentThread :=
  selection_of_run Ledger.semaphoreRun .yieldCurrentThread (by decide +kernel)

/-- Once the counter has wrapped, the thread queued last has the smallest sequence, and the one
selected is not the least. -/
theorem wrapped_selection_not_least :
    ¬ ∀ (before : List SchedulerOp) (op : SchedulerOp),
      op.selects (run SchedulerOp.run {} before) = true →
      SelectsLeast (op.candidate (run SchedulerOp.run {} before))
        (op.run (run SchedulerOp.run {} before)) := by
  intro h
  obtain ⟨th, hth, hleast⟩ :=
    (h [.restore Ledger.exhaustedSnapshot, .startThread ⟨1, 1⟩, .startThread ⟨2, 1⟩]
      .selectNextThread (by decide +kernel)).least 1 (by decide +kernel)
  have hfirst : some th = some
      { generation := 1, priority := 0, state := .Ready, queueSequence := Fin.last (2 ^ 64 - 1) } :=
    hth.symm.trans (by decide +kernel)
  have hbefore :=
    hleast 2 { generation := 1, priority := 0, state := .Ready } nofun (by decide +kernel)
  rw [Option.some.inj hfirst] at hbefore
  rcases hbefore with hlt | ⟨-, hlt⟩
  · exact lt_irrefl _ hlt
  · exact absurd hlt (not_lt.mpr (Fin.zero_le _))

end Timed

end Ps2Recomp
