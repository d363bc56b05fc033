import Ps2Recomp.Syscalls.Frame

/-!
# Every step keeps the frame

One lemma for each thread syscall and each wait, and `frame_run`: a `KernelOp` leaves the objects
there were as `Frame` says, but for the object of the thread that makes the step.
-/

namespace Ps2Recomp.Syscalls

open EeThreadGuestState

variable {k k' : KernelState} {own : Option ObjectRef} {info : ObjectRef}

theorem Transition.of_state {α : Type} {t : Transition α} (h : t.state = .ok k') :
    ∃ a, t = .ok (a, k') := by
  cases t with
  | error message => cases h
  | ok p =>
    cases h
    exact ⟨p.1, rfl⟩

/-! ## Waits of the thread itself -/

theorem frame_publishRunning (info : ObjectRef) :
    Frame (some info) k (k.publishRunningAtGuestBoundary info).2 := by
  unfold KernelState.publishRunningAtGuestBoundary
  dsimp only
  split
  · exact .refl _ k
  · split
    · exact .refl _ k
    · split
      · exact frame_own rfl
      · exact .refl _ k

theorem frame_returnToGuest {outcome : KernelState.Continuation}
    (h : k.returnToGuest info = .ok (outcome, k')) : Frame (some info) k k' := by
  unfold KernelState.returnToGuest at h
  split at h
  · cases h
  · cases h
    exact .refl _ k
  · exact Frame.of_snd (Except.ok.inj h) (frame_publishRunning info)

theorem frame_sleepThread {blocked : Bool} (h : k.sleepThread info = .ok (blocked, k')) :
    Frame (some info) k k' := by
  unfold KernelState.sleepThread at h
  split at h
  · cases h
  · dsimp only at h
    split at h
    · cases h
    · split at h
      · cases h
      · cases h
        exact (frame_setScheduler _).trans (frame_own rfl)
    · split at h
      · cases h
      · rename_i k₁ hmirror
        cases h
        exact ((frame_setScheduler _).trans (frame_mirrorBlock hmirror)).trans (frame_own rfl)

theorem frame_resumeSleep {blocked : Bool} {ret : Option Int}
    (h : k.resumeSleep info blocked = .ok (ret, k')) : Frame (some info) k k' := by
  have htaken : Frame (some info) k (if blocked = true then k.sleepTaken info else k) := by
    split
    · exact frame_own rfl
    · exact .refl _ k
  unfold KernelState.resumeSleep at h
  split at h
  · cases h
    exact .refl _ k
  · split at h
    · cases h
    · rename_i hreturn
      cases h
      exact htaken.trans (frame_returnToGuest hreturn)
    · rename_i hreturn
      cases h
      exact htaken.trans (frame_returnToGuest hreturn)

theorem frame_hleBlock {objectId : Int} (h : k.hleBlock info objectId = .ok k') :
    Frame (some info) k k' := by
  unfold KernelState.hleBlock at h
  dsimp only at h
  split at h
  · cases h
  · split at h
    · cases h
    · split at h
      · cases h
      · rename_i k₁ hmirror
        cases h
        exact ((frame_setScheduler _).trans (frame_mirrorBlock hmirror)).trans (frame_own rfl)

theorem frame_applyWaitEventFlag {call : WaitEventFlag.Call}
    {transition : WaitEventFlag.WaitTransition}
    (h : WaitEventFlag.apply k call = .ok (transition, k')) : Frame (some call.info) k k' := by
  have hcleared : Frame (some call.info) k (WaitEventFlag.cleared k call.info) := frame_own rfl
  unfold WaitEventFlag.apply at h
  split at h
  · cases h
  · dsimp only at h
    split at h
    · cases h
      exact hcleared
    · split at h
      · cases h
        exact hcleared
      · split at h
        · cases h
          exact hcleared.trans (frame_setEventFlagInfo _ _)
        · split at h
          · cases h
          · rename_i k₁ hblock
            cases h
            refine hcleared.trans ?_
            unfold WaitEventFlag.block at hblock
            dsimp only at hblock
            split at hblock
            · cases hblock
            · split at hblock
              · cases hblock
              · rename_i k₂ hmirror
                split at hblock
                · cases hblock
                · cases hblock
                  exact ((frame_setScheduler _).trans (frame_mirrorBlock hmirror)).trans
                    (frame_setEventFlagInfo _ _)

theorem frame_resumeWaitEventFlag {call : WaitEventFlag.Call}
    {ret : Option (Int × Option (BitVec 32))}
    (h : WaitEventFlag.resume k call = .ok (ret, k')) : Frame (some call.info) k k' := by
  have htaken : Frame (some call.info) k
      (if call.transition.blocked = true then WaitEventFlag.taken k call else k) := by
    split
    · exact frame_own rfl
    · exact .refl _ k
  unfold WaitEventFlag.resume at h
  split at h
  · cases h
  · split at h
    · cases h
      exact .refl _ k
    · split at h
      · cases h
      · split at h
        · cases h
        · rename_i hreturn
          cases h
          exact htaken.trans (frame_returnToGuest hreturn)
        · rename_i hreturn
          cases h
          exact htaken.trans (frame_returnToGuest hreturn)

/-! ## Threads -/

theorem frame_addCreatedThread {priority : Int} (h : k.addCreatedThread info priority = .ok k') :
    Frame own k k' := by
  unfold KernelState.addCreatedThread at h
  split at h
  · cases h
  · cases h
    exact frame_setScheduler _

/-- A thread that waits is not dormant, so `StartThread` refuses it. -/
theorem frame_startThread (threadId : Int) : Frame own k (k.startThread threadId).2 := by
  unfold KernelState.startThread
  split
  · exact .refl own k
  · split
    · exact .refl own k
    · dsimp only
      split
      · exact .refl own k
      · rename_i hdormant
        refine frame_setThreadInfo rfl fun _ _ _ hw => absurd hw.dormant ?_
        rw [not_or, not_not] at hdormant
        unfold isDormant
        rw [hdormant.2]
        decide

theorem frame_startScheduled {priority : Int} (h : k.startScheduled info priority = .ok k') :
    Frame own k k' := by
  unfold KernelState.startScheduled at h
  dsimp only at h
  split at h
  · cases h
  · split at h
    · cases h
      exact frame_setScheduler _
    · cases h

theorem frame_deleteScheduled {deleted : Bool} (h : k.deleteScheduled info = .ok (deleted, k')) :
    Frame own k k' := by
  unfold KernelState.deleteScheduled at h
  split at h
  · cases h
    exact .refl own _
  · split at h
    · cases h
      exact .refl own _
    · split at h
      · cases h
      · cases h
        exact frame_setScheduler _

theorem frame_suspendThread {ret : Int} (h : k.suspendThread info = .ok (ret, k')) :
    Frame own k k' := by
  unfold KernelState.suspendThread at h
  split at h
  · cases h
    exact .refl own _
  · split at h
    · cases h
      exact .refl own _
    · split at h
      · cases h
      · cases h
      · rename_i scheduler guest _ hguest
        dsimp only at h
        split at h
        · cases h
          have hkeeps : KeepsWait _ (k.threadInfo info).guestState.suspend.2 := keepsWait_suspend
          rw [hguest] at hkeeps
          exact (frame_setScheduler scheduler).trans (frame_setGuestState hkeeps)
        · cases h

theorem frame_resumeThread {ret : Int} (h : k.resumeThread info = .ok (ret, k')) :
    Frame own k k' := by
  unfold KernelState.resumeThread at h
  split at h
  · cases h
    exact .refl own _
  · split at h
    · cases h
      exact .refl own _
    · split at h
      · cases h
        exact .refl own _
      · split at h
        · cases h
        · cases h
        · rename_i scheduler _ guest _ hguest
          dsimp only at h
          split at h
          · cases h
            have hkeeps : KeepsWait _ ((k.threadInfo info).guestState.resume false).2.2 :=
              keepsWait_resume false
            rw [hguest] at hkeeps
            exact (frame_setScheduler scheduler).trans (frame_setGuestState hkeeps)
          · cases h

theorem frame_changeThreadPriority {priority ret : Int}
    (h : k.changeThreadPriority info priority = .ok (ret, k')) : Frame own k k' := by
  unfold KernelState.changeThreadPriority at h
  split at h
  · cases h
    exact .refl own _
  · split at h
    · cases h
      exact .refl own _
    · split at h
      · cases h
      · dsimp only at h
        split at h
        · cases h
          exact (frame_setScheduler _).trans
            (frame_setGuestState (keepsWait_setCurrentPriority priority))
        · cases h

theorem frame_wakeupThread {result : EeSchedulerWakeResult}
    (h : k.wakeupThread info = .ok (result, k')) : Frame own k k' := by
  unfold KernelState.wakeupThread at h
  dsimp only at h
  split at h
  · split at h
    · cases h
    · rename_i guest hwake
      cases h
      refine (frame_setScheduler _).trans (frame_setThreadInfo rfl fun _ _ _ hw => ?_)
      exact absurd (hw.linked_of_releaseWait hwake).1 nofun
  · cases h
    exact (frame_setScheduler _).trans (frame_setGuestState keepsWait_incrementWakeup)
  · cases h
    exact frame_setScheduler _

theorem frame_cancelWakeupThread {ret : Int} (h : k.cancelWakeupThread info = .ok (ret, k')) :
    Frame own k k' := by
  unfold KernelState.cancelWakeupThread at h
  split at h
  · cases h
    exact .refl own _
  · dsimp only at h
    split at h
    · cases h
    · cases h
      exact (frame_setScheduler _).trans (frame_setGuestState keepsWait_cancelWakeups)

theorem frame_hleWake {objectId : Int} (h : k.hleWake info objectId = .ok k') :
    Frame own k k' := by
  unfold KernelState.hleWake at h
  dsimp only at h
  split at h
  · cases h
    exact .refl own _
  · split at h
    · cases h
    · exact (frame_setScheduler _).trans (frame_mirrorRelease h nofun)

/-! ## `ReleaseWaitThread` -/

theorem frame_applyRelease {wait : WaitedOn} {released : Bool}
    (h : k.applyRelease wait = .ok (released, k')) :
    Frame own k k' ∧ k'.semaInfo = k.semaInfo := by
  unfold KernelState.applyRelease at h
  split at h
  · cases h
    exact ⟨.refl own _, rfl⟩
  · split at h
    · cases h
    · rename_i scheduler _ _ k₁ hmirror
      have h₁ : Frame own _ k₁ := frame_mirrorRelease hmirror fun _ => nofun
      have h₂ : Frame own k₁ (k₁.setThreadInfo wait.info
          { k₁.threadInfo wait.info with pendingEventFlagResultBits := 0, forceRelease := true }) :=
        frame_setFields rfl rfl rfl
      cases h
      exact ⟨((frame_setScheduler scheduler).trans h₁).trans h₂,
        (mirrorRelease_semaInfo hmirror).trans rfl⟩

theorem frame_releaseWaitThread {wait : WaitedOn} {released : Bool}
    (h : k.releaseWaitThread wait = .ok (released, k')) : Frame own k k' := by
  unfold KernelState.releaseWaitThread at h
  split at h
  · cases h
    exact .refl own _
  · split at h
    · split at h
      · cases h
      · rename_i hrelease
        cases h
        exact (frame_applyRelease hrelease).1
      · rename_i hrelease
        dsimp only at h
        split at h
        · cases h
        · cases h
          exact (frame_applyRelease hrelease).1.trans (frame_setSemaInfo id)
    · dsimp only at h
      split at h
      · cases h
      · split at h
        · cases h
        · rename_i hrelease
          cases h
          exact (frame_applyRelease hrelease).1
        · rename_i hrelease
          split at h
          · cases h
          · cases h
            exact (frame_applyRelease hrelease).1.trans (frame_setEventFlagInfo _ _)
    · exact (frame_applyRelease h).1

/-! ## Termination -/

theorem frame_forgetWaiter (wait : WaitedOn) (kind : EeSchedulerWaitKind) :
    Frame own k (k.forgetWaiter wait kind) := by
  unfold KernelState.forgetWaiter
  split
  · exact frame_setSemaInfo id
  · exact frame_setEventFlagInfo _ _
  · exact .refl own k

theorem frame_finishTermination {wait : WaitedOn}
    {disposition : KernelState.TerminateDisposition}
    (h : k.finishTermination wait = .ok (disposition, k')) :
    Frame (some wait.info) k k' ∧ disposition = .Terminated := by
  unfold KernelState.finishTermination at h
  dsimp only at h
  split at h
  · cases h
  · cases h
    exact ⟨frame_own rfl, rfl⟩

theorem frame_terminateThread {wait : WaitedOn} {disposition : KernelState.TerminateDisposition}
    (h : k.terminateThread wait = .ok (disposition, k')) :
    Frame (some wait.info) k k' ∧ (disposition ≠ .Terminated → k' = k) := by
  unfold KernelState.terminateThread at h
  split at h
  · cases h
    exact ⟨.refl _ _, fun _ => rfl⟩
  · split at h
    · cases h
      exact ⟨.refl _ _, fun _ => rfl⟩
    · rename_i before _ _
      dsimp only at h
      split at h
      · cases h
      · split at h
        · cases h
        · split at h
          · cases h
          · cases h
          · rename_i scheduler _ _
            obtain ⟨hfinish, rfl⟩ := frame_finishTermination h
            refine ⟨Frame.trans ?_ hfinish, fun hne => absurd rfl hne⟩
            split
            · exact (frame_setScheduler scheduler).trans (frame_forgetWaiter _ _)
            · exact frame_setScheduler scheduler

/-! ## Every step -/

/-- **Every step of the kernel** keeps the frame. -/
theorem frame_run {op : KernelOp} (h : op.run k = .ok k') : Frame op.own k k' := by
  cases op with
  | createSema init max =>
    cases h
    exact frame_createSema init max
  | pollSema sid =>
    cases h
    exact frame_pollSema sid
  | deleteSema sema =>
    obtain ⟨_, h⟩ := Transition.of_state h
    exact frame_deleteSema h
  | createEventFlag attr initBits =>
    cases h
    exact frame_createEventFlag attr initBits
  | clearEventFlag eid bits =>
    cases h
    exact frame_clearEventFlag eid bits
  | pollEventFlag eid waitBits mode =>
    cases h
    exact frame_pollEventFlag eid waitBits mode
  | setEventFlag flag bits =>
    obtain ⟨_, h⟩ := Transition.of_state h
    exact frame_setEventFlag h
  | deleteEventFlag flag =>
    obtain ⟨_, h⟩ := Transition.of_state h
    exact frame_deleteEventFlag h
  | applyWaitEventFlag call =>
    obtain ⟨_, h⟩ := Transition.of_state h
    exact frame_applyWaitEventFlag h
  | resumeWaitEventFlag call =>
    obtain ⟨_, h⟩ := Transition.of_state h
    exact frame_resumeWaitEventFlag h
  | ensureCurrentThreadInfo threadId =>
    cases h
    exact frame_ensureCurrentThreadInfo threadId
  | publishRunning info =>
    cases h
    exact frame_publishRunning info
  | createThread priority =>
    cases h
    exact frame_createThread priority
  | addCreatedThread info priority => exact frame_addCreatedThread h
  | startThread threadId =>
    cases h
    exact frame_startThread threadId
  | startScheduled info priority => exact frame_startScheduled h
  | deleteScheduled info =>
    obtain ⟨_, h⟩ := Transition.of_state h
    exact frame_deleteScheduled h
  | eraseThread threadId =>
    cases h
    exact frame_eraseThread threadId
  | exitThread info =>
    cases h
    exact frame_own rfl
  | threadEnded info =>
    cases h
    exact frame_own rfl
  | suspendThread info =>
    obtain ⟨_, h⟩ := Transition.of_state h
    exact frame_suspendThread h
  | resumeThread info =>
    obtain ⟨_, h⟩ := Transition.of_state h
    exact frame_resumeThread h
  | changeThreadPriority info priority =>
    obtain ⟨_, h⟩ := Transition.of_state h
    exact frame_changeThreadPriority h
  | sleepThread info =>
    obtain ⟨_, h⟩ := Transition.of_state h
    exact frame_sleepThread h
  | resumeSleep info blocked =>
    obtain ⟨_, h⟩ := Transition.of_state h
    exact frame_resumeSleep h
  | wakeupThread info =>
    obtain ⟨_, h⟩ := Transition.of_state h
    exact frame_wakeupThread h
  | cancelWakeupThread info =>
    obtain ⟨_, h⟩ := Transition.of_state h
    exact frame_cancelWakeupThread h
  | hleBlock info objectId => exact frame_hleBlock h
  | hleWake info objectId => exact frame_hleWake h
  | hleTaken info objectId =>
    cases h
    exact frame_own rfl
  | releaseWaitThread wait =>
    obtain ⟨_, h⟩ := Transition.of_state h
    exact frame_releaseWaitThread h
  | scheduler op =>
    cases h
    exact frame_setScheduler _

end Ps2Recomp.Syscalls
