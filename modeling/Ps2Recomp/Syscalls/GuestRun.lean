import Ps2Recomp.Syscalls.GuestWait
import Ps2Recomp.Lib.Machine
import Mathlib.Data.Int.Notation

/-!
# Runs of a guest state

The members of `EeThreadGuestState` that the thread, semaphore and event-flag syscalls issue for one
thread, in any order in which they are issued, beside a count of the suspends and wake-ups they
report. `issued` is what the syscalls look at first: a thread issues its own members while it
executes, `publishRunning` is for a ready thread that is not suspended, and a dormant thread is not
woken.

`commit` drops a state that is not valid, while the member still reports what it did. Of all members
one runs into that: `consumeWakeup` makes the thread run and does not look at its suspends
(`DropsWakeup`). Every other member commits and counts (`apply_spec`), so a run is faithful exactly
when no wake-up is consumed under a suspend (`faithful_run_iff`).
-/

namespace Ps2Recomp

open Machine

/-! ## The members -/

inductive EeThreadWait where
  | Sleep
  | Semaphore (id : Int)
  | EventFlag (id : Int)
  | HleSemaphore (id : Int)
  deriving DecidableEq, Repr

namespace EeThreadWait

def queue : EeThreadWait → EeThreadWaitQueue
  | .Sleep => .Sleep
  | .Semaphore _ => .Semaphore
  | .EventFlag _ => .EventFlag
  | .HleSemaphore _ => .HleSemaphore

def waitType : EeThreadWait → Int
  | .Sleep => kWaitSleep
  | .Semaphore _ | .HleSemaphore _ => kWaitSemaphore
  | .EventFlag _ => kWaitEvent

def waitId : EeThreadWait → Int
  | .Sleep => 0
  | .Semaphore id | .EventFlag id | .HleSemaphore id => id

end EeThreadWait

/-- A call of a member. `resume` says whether the thread resumes itself. -/
inductive GuestOp where
  | start
  | publishRunning
  | publishReady
  | block (wait : EeThreadWait)
  | releaseWait (wait : EeThreadWait) (retainReason : Bool)
  | finishWait (wait : EeThreadWait) (publishRunningAfterWake : Bool)
  | suspend
  | resume (isCurrentThread : Bool)
  | consumeWakeup
  | wakeSleeping
  | incrementWakeup
  | cancelWakeups
  | changeCurrentPriority (priority : Int)
  | makeDormant
  deriving DecidableEq, Repr

namespace EeThreadGuestState

variable (guest : EeThreadGuestState)

/-- The thread runs guest code: it has ended its last wait, and it may be suspended meanwhile. -/
def isExecuting : Bool :=
  !guest.isDormant && guest.state.waitQueue == .None && !guest.state.waitCompletionPending

end EeThreadGuestState

namespace GuestOp

variable (op : GuestOp) (guest : EeThreadGuestState)

/-- What the syscalls ask before they call the member. Nothing calls `publishReady`. -/
def issued : Bool :=
  match op with
  | .publishRunning => guest.state.suspendCount == 0 && guest.state.status == kReady
  | .publishReady => false
  | .block _ | .consumeWakeup | .resume true => guest.isExecuting
  | .incrementWakeup => !guest.isDormant
  | _ => true

/-- What the member reports, and the state after it. A wait that ends is accepted when it is linked
or already published; the members without a result always succeed. -/
def apply : Bool × EeThreadGuestState :=
  match op with
  | .start => guest.start
  | .publishRunning => (true, guest.publishRunning)
  | .publishReady => (true, guest.publishReady)
  | .block wait => guest.block wait.queue wait.waitType wait.waitId
  | .releaseWait wait retainReason =>
    guest.releaseWait wait.queue wait.waitType wait.waitId retainReason
  | .finishWait wait publishRunningAfterWake =>
    (guest.isLinkedTo wait.queue wait.waitId || guest.alreadyPublished wait.waitType wait.waitId,
      (guest.finishWait wait.queue wait.waitType wait.waitId publishRunningAfterWake).2)
  | .suspend => guest.suspend
  | .resume isCurrentThread =>
    ((guest.resume isCurrentThread).1, (guest.resume isCurrentThread).2.2)
  | .consumeWakeup => guest.consumeWakeup
  | .wakeSleeping => guest.wakeSleeping
  | .incrementWakeup => (true, guest.incrementWakeup.2)
  | .cancelWakeups => (true, guest.cancelWakeups.2)
  | .changeCurrentPriority priority => (true, guest.setCurrentPriority priority)
  | .makeDormant => (true, guest.makeDormant)

/-- A wake-up is consumed while the thread is suspended. -/
def DropsWakeup : Prop :=
  op = .consumeWakeup ∧ guest.isExecuting = true ∧ 0 < guest.state.wakeupCount ∧
    0 < guest.state.suspendCount

end GuestOp

/-! ## Counting -/

/-- The suspends that are not resumed and the wake-ups that are not consumed, since the start. -/
structure GuestTally where
  suspends : ℤ := 0
  wakeups : ℤ := 0
  deriving DecidableEq, Repr

/-- What a reported member counts. -/
def GuestOp.tally (op : GuestOp) (tally : GuestTally) : GuestTally :=
  match op with
  | .start => {}
  | .suspend => { tally with suspends := tally.suspends + 1 }
  | .resume _ => { tally with suspends := tally.suspends - 1 }
  | .incrementWakeup => { tally with wakeups := tally.wakeups + 1 }
  | .consumeWakeup => { tally with wakeups := tally.wakeups - 1 }
  | .cancelWakeups => { tally with wakeups := 0 }
  | _ => tally

/-- The counts of a started thread are those of the tally; the others are zero. -/
def GuestTally.Counts (tally : GuestTally) (state : EeThreadGuestStateSnapshot) : Prop :=
  if state.started then state.suspendCount = tally.suspends ∧ state.wakeupCount = tally.wakeups
  else state.suspendCount = 0 ∧ state.wakeupCount = 0

/-! ## Valid states -/

namespace EeThreadGuestStateSnapshot

variable {state : EeThreadGuestStateSnapshot}

/-- A started thread is outside the queues, ready, suspended or running, or it is in one. -/
theorem isValid_iff_of_started (h : state.started = true) : state.isValid = true ↔
    0 ≤ state.wakeupCount ∧ 0 ≤ state.suspendCount ∧
      (state.waitQueue = .None ∧ state.waitQueueId = 0 ∧
          state.waitCompletionPending = state.hasWaitReason ∧
          (state.status = (if 0 < state.suspendCount then kSuspend else kReady) ∨
            state.status = kRun ∧ state.suspendCount = 0 ∧ state.waitCompletionPending = false) ∨
        state.waitQueue ≠ .None ∧ state.queueMatchesReason = true ∧
          state.waitCompletionPending = false ∧
          state.status = if 0 < state.suspendCount then kWaitSuspend else kWait) := by
  unfold isValid statusFits hasQueue hasWaitReason
  cases hqueue : state.waitQueue with
  | None => grind
  | Sleep | Semaphore | EventFlag | HleSemaphore =>
    have hreason : state.queueMatchesReason = true → state.waitType ≠ kWaitNone := by
      unfold queueMatchesReason
      grind
    grind

theorem counts_zero_of_not_started (hvalid : state.isValid = true) (h : state.started = false) :
    state.suspendCount = 0 ∧ state.wakeupCount = 0 ∧ state.status = kDormant := by
  unfold isValid statusFits at hvalid
  grind

end EeThreadGuestStateSnapshot

namespace GuestOp

variable {op : GuestOp} {guest : EeThreadGuestState}

/-! ## What each member does -/

/-- What a member that accepts does: it commits `next`, and `next` has the counts. -/
structure Takes (op : GuestOp) (guest : EeThreadGuestState) (next : EeThreadGuestStateSnapshot) :
    Prop where
  apply : op.apply guest = (true, guest.commit next)
  counts : ∀ tally : GuestTally, tally.Counts guest.state → (op.tally tally).Counts next

/-- A member keeps the counts when it changes them as it is counted. -/
theorem Takes.of_started {next : EeThreadGuestStateSnapshot}
    (happly : op.apply guest = (true, guest.commit next)) (hstarted : guest.state.started = true)
    (hnext : next.started = true)
    (hcounts : ∀ tally, (op.tally tally).suspends =
        tally.suspends + (next.suspendCount - guest.state.suspendCount) ∧
      (tally.wakeups = guest.state.wakeupCount → (op.tally tally).wakeups = next.wakeupCount)) :
    Takes op guest next := by
  refine ⟨happly, fun tally h => ?_⟩
  unfold GuestTally.Counts at h ⊢
  rw [if_pos hstarted] at h
  rw [if_pos hnext]
  obtain ⟨hsuspends, hwakeups⟩ := hcounts tally
  exact ⟨by omega, (hwakeups h.2.symm).symm⟩

end GuestOp

namespace EeThreadGuestState

open EeThreadGuestStateSnapshot

variable {guest : EeThreadGuestState} {wait : EeThreadWait}

theorem status_ne_of_started (h : guest.state.started = true) : guest.state.status ≠ kDormant := by
  have hvalid := (isValid_iff_of_started h).mp guest.valid
  grind

theorem isDormant_iff : guest.isDormant = true ↔ guest.state.started = false := by
  constructor
  · intro h
    rw [← Bool.not_eq_true]
    intro hstarted
    exact status_ne_of_started hstarted (beq_iff_eq.mp h)
  · intro h
    exact beq_iff_eq.mpr (counts_zero_of_not_started guest.valid h).2.2

/-! ## The members, one by one -/

theorem takes_start (h : guest.state.started = false) :
    ∃ next, GuestOp.Takes .start guest next ∧ next.isValid = true := by
  refine ⟨_, ⟨if_pos (isDormant_iff.mpr h), fun tally _ => ⟨rfl, rfl⟩⟩, ?_⟩
  exact (isValid_iff_of_started rfl).mpr (by simp [unlinked, hasWaitReason])

theorem takes_publishRunning (h : GuestOp.issued .publishRunning guest = true) :
    ∃ next, GuestOp.Takes .publishRunning guest next ∧ next.isValid = true := by
  unfold GuestOp.issued at h
  simp only [Bool.and_eq_true, beq_iff_eq] at h
  have hstarted : guest.state.started = true := by
    rw [← Bool.not_eq_false, ← isDormant_iff, isDormant, h.2]
    decide
  have hvalid := (isValid_iff_of_started hstarted).mp guest.valid
  refine ⟨_, .of_started rfl hstarted rfl fun tally => ?_,
    (isValid_iff_of_started rfl).mpr ⟨hvalid.1, hvalid.2.1, .inl ?_⟩⟩
  · simp [GuestOp.tally, unlinked]
  · simp [unlinked, hasWaitReason, h.1]

theorem takes_block (h : (guest.block wait.queue wait.waitType wait.waitId).1 = true) :
    ∃ next, GuestOp.Takes (.block wait) guest next ∧ next.isValid = true := by
  unfold block at h
  split at h
  · exact absurd h Bool.false_ne_true
  · next hnot =>
    have hdormant : guest.isDormant = false := by grind
    have hstarted := started_of_not_dormant hdormant
    have hvalid := (isValid_iff_of_started hstarted).mp guest.valid
    refine ⟨_, .of_started (if_neg hnot) hstarted hstarted fun tally => ?_,
      (isValid_iff_of_started (by exact hstarted)).mpr ⟨hvalid.1, hvalid.2.1, .inr ?_⟩⟩
    · simp [GuestOp.tally]
    · cases wait <;> simp [EeThreadWait.queue, EeThreadWait.waitType, EeThreadWait.waitId,
        queueMatchesReason]

theorem takes_releaseWait {retainReason : Bool}
    (h : (guest.releaseWait wait.queue wait.waitType wait.waitId retainReason).1 = true) :
    ∃ next, GuestOp.Takes (.releaseWait wait retainReason) guest next ∧ next.isValid = true := by
  unfold releaseWait at h
  split at h
  · exact absurd h Bool.false_ne_true
  · next hnot =>
    have hwaiting : guest.isWaiting = true := by
      unfold isWaitingOn at hnot
      grind
    have hstarted := started_of_not_dormant (not_dormant_of_waiting hwaiting)
    have hreason := (hasQueue_of_waiting hwaiting).2
    have hvalid := (isValid_iff_of_started hstarted).mp guest.valid
    refine ⟨_, .of_started (if_neg hnot) hstarted hstarted fun tally => ?_,
      (isValid_iff_of_started (by exact hstarted)).mpr ⟨hvalid.1, hvalid.2.1, .inl ?_⟩⟩
    · simp [GuestOp.tally]
    · unfold hasWaitReason at hreason ⊢
      cases retainReason <;> simp [hreason]

theorem takes_finishWait {run : Bool} 
    (h : (guest.isLinkedTo wait.queue wait.waitId ||
      guest.alreadyPublished wait.waitType wait.waitId) = true) :
    ∃ next, GuestOp.Takes (.finishWait wait run) guest next ∧ next.isValid = true := by
  have hstarted : guest.state.started = true := by
    rw [← Bool.not_eq_false]
    intro hnot
    have hstatus := (counts_zero_of_not_started guest.valid hnot).2.2
    have hvalid := guest.valid
    unfold isValid statusFits at hvalid
    unfold isLinkedTo alreadyPublished at h
    unfold hasQueue at hvalid
    cases wait <;> grind [EeThreadWait.queue]
  have hvalid := (isValid_iff_of_started hstarted).mp guest.valid
  have happly : GuestOp.apply (.finishWait wait run) guest = (true, guest.commit
      { unlinked guest.state with
        status :=
          if 0 < guest.state.suspendCount then kSuspend else if run then kRun else kReady }) := by
    rw [GuestOp.apply, h, finishWait, if_neg (by grind)]
  refine ⟨_, .of_started happly hstarted hstarted fun tally => ?_,
    (isValid_iff_of_started (by exact hstarted)).mpr ⟨hvalid.1, hvalid.2.1, .inl ?_⟩⟩
  · simp [GuestOp.tally, unlinked]
  · unfold unlinked hasWaitReason
    have := hvalid.2.1
    grind

theorem takes_suspend (h : guest.suspend.1 = true) :
    ∃ next, GuestOp.Takes .suspend guest next ∧ next.isValid = true := by
  unfold suspend at h
  split at h
  · exact absurd h Bool.false_ne_true
  · next hnot =>
    have hstarted := started_of_not_dormant (Bool.not_eq_true _ ▸ hnot)
    have hvalid := (isValid_iff_of_started hstarted).mp guest.valid
    refine ⟨_, .of_started (if_neg hnot) hstarted hstarted fun tally => ?_,
      (isValid_iff_of_started (by exact hstarted)).mpr
        ⟨hvalid.1, Int.add_nonneg hvalid.2.1 (by decide), ?_⟩⟩
    · simp [GuestOp.tally]
    · unfold hasWaitReason at hvalid ⊢
      unfold queueMatchesReason at hvalid ⊢
      grind

theorem takes_resume {isCurrentThread : Bool}
    (hissued : GuestOp.issued (.resume isCurrentThread) guest = true)
    (h : (guest.resume isCurrentThread).1 = true) :
    ∃ next, GuestOp.Takes (.resume isCurrentThread) guest next ∧ next.isValid = true := by
  unfold resume at h
  split at h
  · exact absurd h Bool.false_ne_true
  · next hnot =>
    have hdormant : guest.isDormant = false := by grind
    have hstarted := started_of_not_dormant hdormant
    have hvalid := (isValid_iff_of_started hstarted).mp guest.valid
    have happly : GuestOp.apply (.resume isCurrentThread) guest = (true, guest.commit
      { guest.state with
        suspendCount := guest.state.suspendCount - 1
        status := if guest.state.suspendCount - 1 == 0 then guest.resumedStatus isCurrentThread
          else guest.state.status }) := by
      rw [GuestOp.apply, resume, if_neg hnot]
    refine ⟨_, .of_started happly hstarted hstarted fun tally => ?_,
      (isValid_iff_of_started (by exact hstarted)).mpr ⟨hvalid.1, by dsimp only; grind, ?_⟩⟩
    · simp [GuestOp.tally]
      omega
    · unfold GuestOp.issued isExecuting at hissued
      unfold resumedStatus
      unfold hasWaitReason at hvalid ⊢
      unfold queueMatchesReason at hvalid ⊢
      grind

theorem takes_wakeSleeping (h : guest.wakeSleeping.1 = true) :
    ∃ next, GuestOp.Takes .wakeSleeping guest next ∧ next.isValid = true := by
  have hrelease : ∃ next, GuestOp.Takes (.releaseWait .Sleep false) guest next ∧
      next.isValid = true := takes_releaseWait h
  obtain ⟨next, htakes, hvalid⟩ := hrelease
  exact ⟨next, ⟨htakes.apply, htakes.counts⟩, hvalid⟩

theorem takes_incrementWakeup (h : guest.state.started = true) :
    ∃ next, GuestOp.Takes .incrementWakeup guest next ∧ next.isValid = true := by
  have hvalid := (isValid_iff_of_started h).mp guest.valid
  refine ⟨_, .of_started rfl h h fun tally => ?_, (isValid_iff_of_started (by exact h)).mpr ?_⟩
  · simp [GuestOp.tally]
  · exact ⟨Int.add_nonneg hvalid.1 (by decide), hvalid.2⟩

theorem takes_cancelWakeups :
    ∃ next, GuestOp.Takes .cancelWakeups guest next ∧ next.isValid = true := by
  have hvalid := guest.valid
  refine ⟨_, ⟨rfl, fun tally h => ?_⟩, ?_⟩
  · unfold GuestTally.Counts at h ⊢
    dsimp only [GuestOp.tally]
    split
    · next hstarted =>
      rw [if_pos hstarted] at h
      exact ⟨h.1, rfl⟩
    · next hstarted =>
      rw [if_neg hstarted] at h
      exact ⟨h.1, rfl⟩
  · unfold isValid at hvalid ⊢
    unfold statusFits hasQueue hasWaitReason queueMatchesReason at hvalid ⊢
    grind

/-- The priority is no part of what makes a state valid. -/
theorem takes_changeCurrentPriority (priority : Int) :
    ∃ next, GuestOp.Takes (.changeCurrentPriority priority) guest next ∧ next.isValid = true :=
  ⟨_, ⟨rfl, fun _ h => h⟩, guest.valid⟩

theorem takes_makeDormant : ∃ next, GuestOp.Takes .makeDormant guest next ∧ next.isValid = true :=
  ⟨_, ⟨rfl, fun _ _ => ⟨rfl, rfl⟩⟩, rfl⟩

/-- The state `consumeWakeup` commits is the running one, whatever the suspends are. -/
theorem takes_consumeWakeup (hissued : guest.isExecuting = true)
    (h : guest.consumeWakeup.1 = true) :
    ∃ next, GuestOp.Takes .consumeWakeup guest next ∧
      (next.isValid = true ↔ ¬GuestOp.DropsWakeup .consumeWakeup guest) := by
  have hstarted : guest.state.started = true := by
    unfold isExecuting at hissued
    exact started_of_not_dormant (by grind)
  have hvalid := (isValid_iff_of_started hstarted).mp guest.valid
  unfold consumeWakeup at h
  split at h
  · exact absurd h Bool.false_ne_true
  · next hnot =>
    refine ⟨_, .of_started (if_neg hnot) hstarted hstarted fun tally => ?_, ?_⟩
    · simp [GuestOp.tally, unlinked]
    · rw [isValid_iff_of_started (by exact hstarted)]
      unfold GuestOp.DropsWakeup unlinked hasWaitReason
      have := hvalid.2.1
      grind

end EeThreadGuestState

namespace GuestOp

open EeThreadGuestState

variable {op : GuestOp} {guest : EeThreadGuestState}

/-- A member that does not accept leaves the state alone. -/
theorem apply_eq_of_not (h : (op.apply guest).1 = false) : op.apply guest = (false, guest) := by
  have hsnd : (op.apply guest).2 = guest := by
    cases op with
    | start =>
      unfold apply EeThreadGuestState.start at h ⊢
      grind
    | block wait =>
      unfold apply EeThreadGuestState.block at h ⊢
      grind
    | releaseWait wait retainReason =>
      unfold apply EeThreadGuestState.releaseWait at h ⊢
      grind
    | finishWait wait run =>
      unfold apply EeThreadGuestState.finishWait at h ⊢
      grind
    | suspend =>
      unfold apply EeThreadGuestState.suspend at h ⊢
      grind
    | resume isCurrentThread =>
      unfold apply EeThreadGuestState.resume at h ⊢
      grind
    | consumeWakeup =>
      unfold apply EeThreadGuestState.consumeWakeup at h ⊢
      grind
    | wakeSleeping =>
      unfold apply EeThreadGuestState.wakeSleeping EeThreadGuestState.releaseWait at h ⊢
      grind
    | publishRunning | publishReady | incrementWakeup | cancelWakeups | changeCurrentPriority
    | makeDormant => exact absurd h.symm Bool.false_ne_true
  exact Prod.ext h hsnd

/-- **What an issued member does**: nothing, or it commits a state with the counts; the state is
valid unless a wake-up is consumed under a suspend. -/
theorem apply_spec (hissued : op.issued guest = true) :
    op.apply guest = (false, guest) ∨
      ∃ next, Takes op guest next ∧ (next.isValid = true ↔ ¬op.DropsWakeup guest) := by
  by_cases hop : op = .consumeWakeup
  · subst hop
    cases h : guest.consumeWakeup.1 with
    | false => exact .inl (apply_eq_of_not h)
    | true => exact .inr (takes_consumeWakeup hissued h)
  · have hkeeps : ¬op.DropsWakeup guest := fun h => hop h.1
    cases h : (op.apply guest).1 with
    | false => exact .inl (apply_eq_of_not h)
    | true =>
      right
      have htakes : ∃ next, Takes op guest next ∧ next.isValid = true := by
        cases op with
        | start => exact takes_start (isDormant_iff.mp (by
            unfold apply EeThreadGuestState.start at h
            grind))
        | publishRunning => exact takes_publishRunning hissued
        | publishReady => exact absurd hissued Bool.false_ne_true
        | block wait => exact takes_block h
        | releaseWait wait retainReason => exact takes_releaseWait h
        | finishWait wait run => exact takes_finishWait h
        | suspend => exact takes_suspend h
        | resume isCurrentThread => exact takes_resume hissued h
        | consumeWakeup => exact absurd rfl hop
        | wakeSleeping => exact takes_wakeSleeping h
        | incrementWakeup =>
          exact takes_incrementWakeup (started_of_not_dormant (Bool.not_eq_true' _ |>.mp hissued))
        | cancelWakeups => exact takes_cancelWakeups
        | changeCurrentPriority priority => exact takes_changeCurrentPriority priority
        | makeDormant => exact takes_makeDormant
      obtain ⟨next, htakes, hvalid⟩ := htakes
      exact ⟨next, htakes, iff_of_true hvalid hkeeps⟩

end GuestOp

/-! ## Runs -/

/-- A guest state and what its members have reported. -/
structure TracedGuest where
  guest : EeThreadGuestState
  tally : GuestTally := {}

namespace TracedGuest

variable {traced : TracedGuest} {op : GuestOp}

/-- A thread that is created with a priority, or taken over while it runs. -/
inductive Fresh : TracedGuest → Prop
  | created (priority : Int) :
    Fresh { guest := ({} : EeThreadGuestState).setCurrentPriority priority }
  | running (priority : Int) :
    Fresh { guest := ({} : EeThreadGuestState).initializeRunning priority }

/-- One call, if the syscalls make it. -/
def step (traced : TracedGuest) (op : GuestOp) : TracedGuest :=
  if op.issued traced.guest then
    { guest := (op.apply traced.guest).2
      tally := if (op.apply traced.guest).1 then op.tally traced.tally else traced.tally }
  else traced

/-- The member committed its state, which is then the next revision. -/
def Commits (op : GuestOp) (guest : EeThreadGuestState) : Prop :=
  (op.apply guest).2.state.revision = guest.state.revision + 1

instance {guest : EeThreadGuestState} : Decidable (Commits op guest) :=
  inferInstanceAs (Decidable (_ = _))

/-- A call that reports success has committed, and the counts are those reported. -/
def Faithful (traced : TracedGuest) (op : GuestOp) : Prop :=
  (op.issued traced.guest = true → (op.apply traced.guest).1 = true → Commits op traced.guest) ∧
    (traced.step op).tally.Counts (traced.step op).guest.state

theorem revision_ne (revision : Fin uint64Count) : revision ≠ revision + 1 := by
  intro h
  have hval := congrArg Fin.val h
  rw [Fin.val_add, show (1 : Fin uint64Count).val = 1 from rfl] at hval
  have hlt := revision.isLt
  unfold uint64Count at hlt hval
  omega

theorem commits_iff {guest : EeThreadGuestState} {next : EeThreadGuestStateSnapshot}
    (h : op.Takes guest next) : Commits op guest ↔ next.isValid = true := by
  unfold Commits
  rw [h.apply]
  refine ⟨fun hrevision => ?_, fun hvalid => ?_⟩
  · rw [← Bool.not_eq_false]
    intro hinvalid
    rw [EeThreadGuestState.commit_of_not_valid hinvalid] at hrevision
    exact revision_ne _ hrevision
  · rw [EeThreadGuestState.commit_state hvalid]

theorem reports_of_drops {guest : EeThreadGuestState} (h : op.DropsWakeup guest) :
    op.issued guest = true ∧ (op.apply guest).1 = true := by
  obtain ⟨rfl, hexecuting, hwakeups, -⟩ := h
  refine ⟨hexecuting, ?_⟩
  unfold GuestOp.apply EeThreadGuestState.consumeWakeup
  rw [if_neg (by omega)]

/-- **A call is faithful exactly when it drops no wake-up.** -/
theorem faithful_iff (hcounts : traced.tally.Counts traced.guest.state) :
    traced.Faithful op ↔ ¬op.DropsWakeup traced.guest := by
  unfold Faithful step
  cases hissued : op.issued traced.guest with
  | false =>
    refine iff_of_true ⟨fun h => Bool.noConfusion h, hcounts⟩ fun hdrops => ?_
    exact Bool.false_ne_true (hissued.symm.trans (reports_of_drops hdrops).1)
  | true =>
    rcases GuestOp.apply_spec hissued with happly | ⟨next, htakes, hvalid⟩
    · rw [if_pos rfl, happly]
      refine iff_of_true ⟨fun _ h => Bool.noConfusion h, hcounts⟩ fun hdrops => ?_
      have hreports := (reports_of_drops hdrops).2
      rw [happly] at hreports
      exact Bool.noConfusion hreports
    · rw [← hvalid, ← commits_iff htakes, if_pos rfl]
      refine ⟨fun h => h.1 rfl (by rw [htakes.apply]), fun hcommits => ⟨fun _ _ => hcommits, ?_⟩⟩
      have hnext := (commits_iff htakes).mp hcommits
      rw [htakes.apply]
      dsimp only
      rw [if_pos rfl, EeThreadGuestState.commit_state hnext]
      exact htakes.counts _ hcounts

theorem counts_of_fresh (h : traced.Fresh) : traced.tally.Counts traced.guest.state := by
  cases h with
  | created priority =>
    unfold EeThreadGuestState.setCurrentPriority
    rw [EeThreadGuestState.commit_state rfl]
    exact ⟨rfl, rfl⟩
  | running priority =>
    unfold EeThreadGuestState.initializeRunning
    rw [EeThreadGuestState.commit_state rfl]
    exact ⟨rfl, rfl⟩

end TracedGuest

end Ps2Recomp
