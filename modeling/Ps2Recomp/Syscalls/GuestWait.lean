import Ps2Recomp.SaveState.GuestState

/-!
# The wait of a guest state

What the members of `EeThreadGuestState` do to the queue a thread is linked to. `commit` keeps the
old state when the new one is not valid, so each member is a case of two (`commit_cases`), and a
member whose new state is valid whenever it accepts takes effect (`commit_state`).

* `releaseWait_spec`: a release that is accepted ends a wait on exactly the queue it names.
* `block_spec`: a block that is accepted links the thread to the queue.
* `KeepsWait`: suspending, resuming, counting wakeups and changing the priority leave the link as
  it is.
-/

namespace Ps2Recomp

namespace EeThreadGuestState

variable {guest guest' : EeThreadGuestState} {next : EeThreadGuestStateSnapshot}
  {queue : EeThreadWaitQueue} {waitType waitId id : Int}

theorem commit_state (h : next.isValid = true) :
    (guest.commit next).state = { next with revision := guest.state.revision + 1 } := by
  have hvalid : ({ next with revision := guest.state.revision + 1 } :
      EeThreadGuestStateSnapshot).isValid = true := h
  rw [commit, restore, dif_pos hvalid]
  rfl

theorem commit_of_not_valid (h : next.isValid = false) : guest.commit next = guest := by
  have hinvalid : ¬({ next with revision := guest.state.revision + 1 } :
      EeThreadGuestStateSnapshot).isValid = true := by
    intro hvalid
    exact Bool.noConfusion (hvalid.symm.trans h)
  rw [commit, restore, dif_neg hinvalid]
  rfl

theorem commit_cases (guest : EeThreadGuestState) (next : EeThreadGuestStateSnapshot) :
    guest.commit next = guest ∨
      (guest.commit next).state = { next with revision := guest.state.revision + 1 } := by
  cases h : next.isValid with
  | true => exact .inr (commit_state h)
  | false => exact .inl (commit_of_not_valid h)

theorem started_of_not_dormant (h : guest.isDormant = false) : guest.state.started = true := by
  have hvalid := guest.valid
  unfold isDormant at h
  unfold EeThreadGuestStateSnapshot.isValid EeThreadGuestStateSnapshot.statusFits at hvalid
  grind

theorem not_dormant_of_waiting (h : guest.isWaiting = true) : guest.isDormant = false := by
  unfold isWaiting at h
  unfold isDormant
  rw [Bool.or_eq_true, beq_iff_eq, beq_iff_eq] at h
  rw [beq_eq_false_iff_ne]
  rcases h with h | h <;> rw [h] <;> decide

theorem hasQueue_of_waiting (h : guest.isWaiting = true) :
    guest.state.hasQueue = true ∧ guest.state.hasWaitReason = true := by
  have hvalid := guest.valid
  unfold isWaiting at h
  unfold EeThreadGuestStateSnapshot.isValid EeThreadGuestStateSnapshot.statusFits at hvalid
  grind

theorem releaseWait_spec {retain : Bool}
    (h : guest.releaseWait queue waitType waitId retain = (true, guest')) :
    guest.isWaitingOn waitType waitId = true ∧ guest.isLinkedTo queue waitId = true ∧
      queue ≠ .None ∧ guest'.state.waitQueue = .None ∧ guest'.isDormant = false := by
  unfold releaseWait at h
  split at h
  · exact absurd (Prod.mk.inj h).1 (by decide)
  · rename_i hnot
    rw [Bool.or_eq_true, not_or, Bool.not_eq_true', Bool.not_eq_true', Bool.not_eq_false,
      Bool.not_eq_false] at hnot
    obtain ⟨hon, hlinked⟩ := hnot
    have hwaiting : guest.isWaiting = true := by
      unfold isWaitingOn at hon
      simp only [Bool.and_eq_true] at hon
      exact hon.1.1
    obtain ⟨hqueue, hreason⟩ := hasQueue_of_waiting hwaiting
    have hstarted := started_of_not_dormant (not_dormant_of_waiting hwaiting)
    have hvalid := guest.valid
    have hq : queue ≠ .None := by
      rintro rfl
      unfold isLinkedTo at hlinked
      unfold EeThreadGuestStateSnapshot.hasQueue at hqueue
      grind
    obtain rfl := (Prod.mk.inj h).2
    have hnext : ({ guest.state with
        status := if 0 < guest.state.suspendCount then kSuspend else kReady
        waitQueue := .None
        waitQueueId := 0
        waitCompletionPending := retain
        waitType := if retain then guest.state.waitType else kWaitNone
        waitId := if retain then guest.state.waitId else 0 } :
          EeThreadGuestStateSnapshot).isValid = true := by
      have h1 := EeThreadGuestStateSnapshot.suspendCount_nonneg hvalid
      have h2 := EeThreadGuestStateSnapshot.wakeupCount_nonneg hvalid
      unfold EeThreadGuestStateSnapshot.isValid EeThreadGuestStateSnapshot.statusFits
        EeThreadGuestStateSnapshot.hasQueue EeThreadGuestStateSnapshot.hasWaitReason
      unfold EeThreadGuestStateSnapshot.hasWaitReason at hreason
      cases retain <;> grind
    refine ⟨hon, hlinked, hq, ?_, ?_⟩
    · rw [commit_state hnext]
    · unfold isDormant
      rw [commit_state hnext]
      dsimp only
      split <;> decide

/-- A block that is accepted, on a queue whose wait type is the one given. -/
theorem block_spec (h : guest.block queue waitType id = (true, guest'))
    (hmatch : ({ waitQueue := queue, waitType := waitType, waitId := id, waitQueueId := id } :
      EeThreadGuestStateSnapshot).queueMatchesReason = true) :
    guest'.isLinkedTo queue id = true ∧ guest'.isWaitingOn waitType id = true := by
  unfold block at h
  split at h
  · exact absurd (Prod.mk.inj h).1 (by decide)
  · rename_i hnot
    rw [Bool.or_eq_true, not_or, Bool.not_eq_true] at hnot
    obtain ⟨hdormant, hq⟩ := hnot
    have hstarted := started_of_not_dormant hdormant
    have hvalid := guest.valid
    obtain rfl := (Prod.mk.inj h).2
    have hnext : ({ guest.state with
        status := if 0 < guest.state.suspendCount then kWaitSuspend else kWait
        waitType := waitType
        waitId := id
        waitQueue := queue
        waitQueueId := id
        waitCompletionPending := false } : EeThreadGuestStateSnapshot).isValid = true := by
      have h1 := EeThreadGuestStateSnapshot.suspendCount_nonneg hvalid
      have h2 := EeThreadGuestStateSnapshot.wakeupCount_nonneg hvalid
      unfold EeThreadGuestStateSnapshot.queueMatchesReason at hmatch
      unfold EeThreadGuestStateSnapshot.isValid EeThreadGuestStateSnapshot.statusFits
        EeThreadGuestStateSnapshot.hasQueue EeThreadGuestStateSnapshot.hasWaitReason
        EeThreadGuestStateSnapshot.queueMatchesReason
      cases queue <;> grind
    constructor
    · unfold isLinkedTo
      rw [commit_state hnext]
      simp
    · unfold isWaitingOn isWaiting
      rw [commit_state hnext]
      dsimp only
      split <;> simp

/-- The link is the same, and a thread that was not dormant is not. -/
structure KeepsWait (guest guest' : EeThreadGuestState) : Prop where
  waitQueue : guest'.state.waitQueue = guest.state.waitQueue
  waitQueueId : guest'.state.waitQueueId = guest.state.waitQueueId
  dormant : guest.isDormant = false → guest'.isDormant = false

theorem KeepsWait.refl (guest : EeThreadGuestState) : KeepsWait guest guest := ⟨rfl, rfl, id⟩

theorem KeepsWait.commit (hqueue : next.waitQueue = guest.state.waitQueue)
    (hid : next.waitQueueId = guest.state.waitQueueId)
    (hdormant : guest.isDormant = false → next.status ≠ kDormant) :
    KeepsWait guest (guest.commit next) := by
  rcases commit_cases guest next with h | h
  · rw [h]
    exact .refl guest
  · constructor
    · rw [h]
      exact hqueue
    · rw [h]
      exact hid
    · intro hd
      unfold isDormant
      rw [h, beq_eq_false_iff_ne]
      exact hdormant hd

theorem status_ne_of_not_dormant (h : guest.isDormant = false) : guest.state.status ≠ kDormant := by
  unfold isDormant at h
  rwa [beq_eq_false_iff_ne] at h

theorem keepsWait_setCurrentPriority (priority : Int) :
    KeepsWait guest (guest.setCurrentPriority priority) :=
  .commit rfl rfl status_ne_of_not_dormant

theorem keepsWait_incrementWakeup : KeepsWait guest guest.incrementWakeup.2 :=
  .commit rfl rfl status_ne_of_not_dormant

theorem keepsWait_cancelWakeups : KeepsWait guest guest.cancelWakeups.2 :=
  .commit rfl rfl status_ne_of_not_dormant

theorem keepsWait_suspend : KeepsWait guest guest.suspend.2 := by
  unfold suspend
  split
  · exact .refl guest
  · refine .commit rfl rfl fun _ => ?_
    dsimp only
    split <;> decide

theorem keepsWait_resume (isCurrentThread : Bool) :
    KeepsWait guest (guest.resume isCurrentThread).2.2 := by
  unfold resume
  split
  · exact .refl guest
  · refine .commit rfl rfl fun hd => ?_
    dsimp only
    unfold resumedStatus
    split
    · split
      · decide
      · split <;> decide
    · exact status_ne_of_not_dormant hd

end EeThreadGuestState

end Ps2Recomp
