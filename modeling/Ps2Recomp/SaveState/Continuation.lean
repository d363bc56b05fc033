import Ps2Recomp.SaveState.RuntimeCoreRun
import Ps2Recomp.Scheduler.Completion

/-!
# Where restored threads start

A thread is inside a blocking wait from the call that blocks it until the completion is consumed,
whatever the waits of `WaitProtocol` go through in between (`InsideWait`). Its native continuation
cannot be saved; a load gives it a new one, which should start at the guest return address.

The decoder makes it so for a thread whose guest state says that it waits, if the thread is not the
main one. The main thread starts on `m_cpuContext`, which is restored as it was; and a thread whose
wait has been completed is Ready or Suspended to its guest state. These start where they were
(`startPc_eq`), so a load resumes every thread behind its wait exactly if each of them was saved
with its return address as its `pc` (`restored_threads_resume_iff`).
-/

namespace Ps2Recomp

open Machine WaitProtocol EeThreadScheduler

namespace PS2Runtime

variable {Sections : Type} {checkSections : Sections → Except String Unit}
  {runtime : PS2Runtime Sections} {scheduler : EeThreadScheduler}
  {result : RestoredRuntime Sections} {i : Int} {info : ThreadInfo}

/-- The thread's wait is pending, or completed and the completion not consumed. -/
def InsideWait (scheduler : EeThreadScheduler) (i : Int) : Prop := scheduler.phase i ≠ .free

instance (scheduler : EeThreadScheduler) (i : Int) : Decidable (InsideWait scheduler i) :=
  match h : scheduler.phase i with
  | .free => isFalse fun hne => hne h
  | .waiting _ => isTrue fun he => by rw [h] at he; cases he
  | .completed _ => isTrue fun he => by rw [h] at he; cases he

/-- The address at which a restored thread's dispatch loop starts. -/
def startPc (result : RestoredRuntime Sections) (i : Int) : Option UInt32 :=
  (result.continuations.find? (·.threadId = i)).map (·.context.pc)

/-- Every thread inside a wait starts at the return address of the call it waits in. -/
def ResumesBehindWaits (runtime : PS2Runtime Sections) (scheduler : EeThreadScheduler)
    (result : RestoredRuntime Sections) : Prop :=
  ∀ i info, InsideWait scheduler i → runtime.info? i = some info →
    startPc result i = some (runtime.contextOf i info).returnAddress

/-- The decoder recovers the thread: it is not the main one, its guest state says that it waits,
and it has a return address. -/
def Recovered (runtime : PS2Runtime Sections) (i : Int) (info : ThreadInfo) : Prop :=
  i ≠ 1 ∧ (info.guestState.state.status = kWait ∨ info.guestState.state.status = kWaitSuspend) ∧
    (runtime.contextOf i info).returnAddress ≠ 0

instance (i : Int) (info : ThreadInfo) : Decidable (Recovered runtime i info) :=
  inferInstanceAs (Decidable (_ ∧ _ ∧ _))

/-! ## The continuations -/

theorem insideWait_state (w : scheduler.Wf) {th : ThreadRecord}
    (ht : scheduler.thread? i = some th) (hin : InsideWait scheduler i) : th.state ≠ .Dormant := by
  intro hd
  have hok := w.records not_false ht
  have hs := hok.state
  unfold ThreadRecord.StateOk at hs
  rw [hd] at hs
  refine hin ?_
  rw [phase_of_thread ht, phaseOf_of_not_waiting (by rw [hd]; exact nofun)
    (by rw [hd]; exact nofun)]
  unfold settled
  rw [hok.completedWait_valid, hs.2.1]
  rfl

theorem exists_thread_of_insideWait (hin : InsideWait scheduler i) :
    ∃ th, scheduler.thread? i = some th := by
  cases ht : scheduler.thread? i with
  | none =>
    refine absurd ?_ hin
    unfold phase
    rw [ht]
    rfl
  | some th => exact ⟨th, rfl⟩

theorem settled_state_ne_dormant {th : ThreadRecord} (h : th.state ≠ .Dormant) :
    th.settled.state ≠ .Dormant := by
  cases hhle : th.hleWait with
  | false => rwa [ThreadRecord.settled_of_not_hleWait hhle]
  | true =>
    rw [ThreadRecord.settled_of_hleWait hhle]
    unfold ThreadRecord.withoutWait
    simp only
    split <;> exact nofun

/-- The continuation of a thread among those of entries of distinct ids. -/
theorem find?_continuation {entries : List EeSchedulerThreadSnapshot}
    {source : EeSchedulerThreadSnapshot} (hids : entries.Pairwise fun a b => a.id ≠ b.id)
    (hm : source ∈ entries) :
    (entries.filterMap runtime.restoredContinuation).find? (·.threadId = source.id) =
      runtime.restoredContinuation source := by
  have hid : ∀ {other : EeSchedulerThreadSnapshot} {k : EeContinuation},
      runtime.restoredContinuation other = some k → k.threadId = other.id := by
    intro other k h
    unfold restoredContinuation at h
    split at h
    · cases h
    · obtain ⟨info, -, rfl⟩ := Option.map_eq_some_iff.mp h
      rfl
  induction entries with
  | nil => exact absurd hm List.not_mem_nil
  | cons first rest ih =>
    obtain ⟨hne, hids⟩ := List.pairwise_cons.mp hids
    rcases List.mem_cons.mp hm with rfl | hm
    · cases hk : runtime.restoredContinuation source with
      | some k =>
        rw [List.filterMap_cons_some hk]
        exact List.find?_cons_of_pos (by simpa using hid hk)
      | none =>
        rw [List.filterMap_cons_none hk]
        refine List.find?_eq_none.mpr fun k hmem => ?_
        obtain ⟨other, ho, hk'⟩ := List.mem_filterMap.mp hmem
        rw [decide_eq_true_eq, hid hk']
        exact (hne other ho).symm
    · have hother : first.id ≠ source.id := hne source hm
      cases hk : runtime.restoredContinuation first with
      | some k =>
        rw [List.filterMap_cons_some hk, List.find?_cons_of_neg (by simpa [hid hk] using hother)]
        exact ih hids hm
      | none =>
        rw [List.filterMap_cons_none hk]
        exact ih hids hm

theorem recoverNativeWaitContinuation_pc (t : SavedThread) :
    t.recoverNativeWaitContinuation.context.pc =
      if t.resumeAfterNativeWait = true ∧ t.context.returnAddress ≠ 0 then t.context.returnAddress
      else t.context.pc := by
  unfold SavedThread.recoverNativeWaitContinuation
  simp only [Bool.and_eq_true, bne_iff_ne]
  split
  · rw [R5900Context.resetEeBlockTiming_pc]
    rfl
  · rfl

/-- **Where a restored thread starts**: at its return address if the decoder recovers it, and else
where it was. -/
theorem startPc_eq (w : scheduler.Wf) (hrestored : Restored runtime scheduler result)
    (hi : runtime.info? i = some info) (hin : InsideWait scheduler i) :
    startPc result i = some (if Recovered runtime i info then
      (runtime.contextOf i info).returnAddress else (runtime.contextOf i info).pc) := by
  obtain ⟨th, ht⟩ := exists_thread_of_insideWait hin
  obtain ⟨guest, -, hinfo⟩ := hrestored.loaded.info hi
  have hfind := @find?_continuation _ result.runtime _ _ (settled_ids scheduler)
    (mem_snapshot_settled.mpr ⟨i, th, ht, rfl⟩)
  have hstate : (snapshotOf i th.settled).state ≠ .Dormant :=
    settled_state_ne_dormant (insideWait_state w ht hin)
  have hcontinuation : result.runtime.restoredContinuation (snapshotOf i th.settled) =
      some ⟨i, result.runtime.contextOf i
        ((runtime.recoveredThread scheduler i info).info guest)⟩ := by
    unfold restoredContinuation
    rw [if_neg hstate]
    change (result.runtime.info? i).map _ = _
    rw [hinfo]
    rfl
  unfold startPc
  rw [hrestored.continuations, show (fun k : EeContinuation => decide (k.threadId = i)) =
    fun k => decide (k.threadId = (snapshotOf i th.settled).id) from rfl, hfind, hcontinuation,
    Option.map_some]
  congr 1
  by_cases hmain : i = 1
  · -- the main thread's context is the runtime's
    have hno : ¬ Recovered runtime i info := fun h => h.1 hmain
    rw [if_neg hno]
    unfold contextOf
    rw [if_pos hmain, if_pos hmain, hrestored.loaded.cpuContext]
  · unfold contextOf
    rw [if_neg hmain]
    have hcontext : ((runtime.recoveredThread scheduler i info).info guest).context =
        (runtime.savedThread i info).recoverNativeWaitContinuation.context := by
      unfold SavedThread.info
      simp only
      rw [recoveredThread_id, if_pos hmain]
      unfold recoveredThread
      rw [settleThread_context]
    rw [hcontext, recoverNativeWaitContinuation_pc]
    refine if_congr ?_ rfl rfl
    unfold Recovered
    rw [and_iff_right hmain]
    refine and_congr ?_ Iff.rfl
    change (info.guestState.state.status == kWait || info.guestState.state.status == kWaitSuspend) =
      true ↔ _
    rw [Bool.or_eq_true, beq_iff_eq, beq_iff_eq]

/-- Every thread resumes behind its wait exactly if each was recovered or saved there. -/
theorem resumesBehindWaits_iff (w : scheduler.Wf) (hrestored : Restored runtime scheduler result) :
    ResumesBehindWaits runtime scheduler result ↔
      ∀ i info, InsideWait scheduler i → runtime.info? i = some info →
        Recovered runtime i info ∨
          (runtime.contextOf i info).pc = (runtime.contextOf i info).returnAddress := by
  refine forall₄_congr fun i info hin hi => ?_
  rw [startPc_eq w hrestored hi hin, Option.some.injEq]
  by_cases hrec : Recovered runtime i info
  · simp [hrec]
  · simp [hrec]

end PS2Runtime

namespace RuntimeLedger

open PS2Runtime

/-- **A load resumes the threads of a run behind their waits** exactly if every thread inside a wait
is recovered by the decoder or was saved at its return address. -/
theorem restored_threads_resume_iff {Sections : Type}
    (checkSections : Sections → Except String Unit) (cpuContext : R5900Context)
    (sections : Sections) (steps : List (RuntimeStep Sections))
    (hfew : Along (step checkSections) (Below checkSections) (boot cpuContext sections) steps)
    (result : RestoredRuntime Sections)
    (hload : (run (step checkSections) (boot cpuContext sections) steps).runtime.saveAndLoad
      checkSections (run (step checkSections) (boot cpuContext sections) steps).ledger.scheduler =
        .ok result) :
    let r := run (step checkSections) (boot cpuContext sections) steps
    ResumesBehindWaits r.runtime r.ledger.scheduler result ↔
      ∀ i info, InsideWait r.ledger.scheduler i → r.runtime.info? i = some info →
        Recovered r.runtime i info ∨
          (r.runtime.contextOf i info).pc = (r.runtime.contextOf i info).returnAddress := by
  have k := kept_of_run hfew
  exact resumesBehindWaits_iff k.account.wf
    (restored_of_saveAndLoad k.account.wf k.registered hload)

/-- The main thread's context in a kernel call, with its return address. -/
def mainContext : R5900Context :=
  { pc := 0x100200, r := Function.update (fun _ => 0) 31 0x100104 }

/-- The main thread starts a worker and waits on a semaphore. -/
def mainWaitRun : List (RuntimeStep Unit) :=
  [.ensureThreadInfo 1 {}, .scheduler (.addRunningThread 1 1 0),
    .createThread { entry := 0x100000, priority := 5 }, .scheduler (.addDormantThread 2 2 5),
    .scheduler (.startThread ⟨2, 2⟩),
    .updateThread 2 fun info => { info with guestState := info.guestState.start.2 },
    .setCpuContext mainContext, .scheduler (.blockCurrentThread ⟨.Semaphore, 3⟩),
    .updateThread 1 fun info =>
      { info with guestState := (info.guestState.block .Semaphore kWaitSemaphore 3).2 },
    .updateThread 2 fun info => { info with guestState := info.guestState.publishRunning }]

theorem mainWaitRun_below :
    Along (step anySections) (Below anySections) (boot {} ()) mainWaitRun := by
  decide +kernel

theorem mainWaitRun_loads : ∃ result,
    (run (step anySections) (boot {} ()) mainWaitRun).runtime.saveAndLoad anySections
      (run (step anySections) (boot {} ()) mainWaitRun).ledger.scheduler = .ok result := by
  have k := kept_of_run mainWaitRun_below
  have acc : Acceptable anySections (run (step anySections) (boot {} ()) mainWaitRun).runtime
      (run (step anySections) (boot {} ()) mainWaitRun).ledger.scheduler := by
    decide +kernel
  obtain ⟨result, hresult, -⟩ := acc.saveAndLoad k.account.wf k.registered
  exact ⟨result, hresult⟩

theorem mainWaitRun_resumes_iff : ∃ result,
    let r := run (step anySections) (boot {} ()) mainWaitRun
    r.runtime.saveAndLoad anySections r.ledger.scheduler = .ok result ∧
      (ResumesBehindWaits r.runtime r.ledger.scheduler result ↔
        ∀ i info, InsideWait r.ledger.scheduler i → r.runtime.info? i = some info →
          Recovered r.runtime i info ∨
            (r.runtime.contextOf i info).pc = (r.runtime.contextOf i info).returnAddress) := by
  obtain ⟨result, hload⟩ := mainWaitRun_loads
  exact ⟨result, hload,
    restored_threads_resume_iff anySections {} () mainWaitRun mainWaitRun_below result hload⟩

/-- **The main thread does not resume behind its wait**: it starts in the call again. -/
theorem main_wait_performed_again :
    ¬ ∀ (steps : List (RuntimeStep Unit)) (result : RestoredRuntime Unit),
      Along (step anySections) (Below anySections) (boot {} ()) steps →
        (run (step anySections) (boot {} ()) steps).runtime.saveAndLoad anySections
          (run (step anySections) (boot {} ()) steps).ledger.scheduler = .ok result →
        ResumesBehindWaits (run (step anySections) (boot {} ()) steps).runtime
          (run (step anySections) (boot {} ()) steps).ledger.scheduler result := by
  intro h
  obtain ⟨result, hload⟩ := mainWaitRun_loads
  have k := kept_of_run mainWaitRun_below
  have hcond := (resumesBehindWaits_iff k.account.wf
    (restored_of_saveAndLoad k.account.wf k.registered hload)).mp
      (h mainWaitRun result mainWaitRun_below hload)
  have hin : InsideWait (run (step anySections) (boot {} ()) mainWaitRun).ledger.scheduler 1 := by
    decide +kernel
  have hmain : (run (step anySections) (boot {} ()) mainWaitRun).runtime.info? 1 ≠ none := by
    decide +kernel
  obtain ⟨info, hi⟩ := Option.ne_none_iff_exists'.mp hmain
  rcases hcond 1 info hin hi with hrec | hpc
  · exact hrec.1 rfl
  · have hcontext : (run (step anySections) (boot {} ()) mainWaitRun).runtime.contextOf 1 info =
        mainContext := rfl
    rw [hcontext] at hpc
    revert hpc
    decide

end RuntimeLedger

end Ps2Recomp
