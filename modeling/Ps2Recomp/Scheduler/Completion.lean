import Ps2Recomp.Lib.WaitProtocol
import Ps2Recomp.Scheduler.Preserve

/-!
# Waits and their completions

Every run of the scheduler treats every thread as `WaitProtocol` says (`event_step`): the thread's
record gives its phase, and what an operation returns gives the event it is for the thread. The
protocol's theorems then speak about the scheduler's runs (`completion_of_run`).

None of this reads a queue sequence, so it holds past the wrap of the counter, where the invariant
of `Invariant.lean` does not. All it needs to remember is that a Dormant thread has no completion
(`DormantClear`), for `deleteThread` drops the record of one. Everything else the operations check
themselves.
-/

namespace Ps2Recomp

open Machine WaitProtocol

namespace EeThreadScheduler

variable {s s' : EeThreadScheduler} {i j : Int} {th : ThreadRecord}
  {h : EeSchedulerThreadHandle} {k : EeSchedulerWaitKey}

/-! ## Phases -/

/-- The phase of a thread that is not waiting. -/
def settled (c : EeSchedulerCompletedWait) : Phase EeSchedulerWaitKey EeSchedulerCompletedWait :=
  if c.valid then .completed c else .free

/-- The phase a record puts its thread in. -/
def phaseOf (th : ThreadRecord) : Phase EeSchedulerWaitKey EeSchedulerCompletedWait :=
  if th.state = .Waiting ∨ th.state = .WaitSuspended then .waiting th.wait
  else settled th.completedWait

/-- The phase of a thread; one that does not exist is free. -/
def phase (s : EeThreadScheduler) (i : Int) :
    Phase EeSchedulerWaitKey EeSchedulerCompletedWait :=
  ((s.thread? i).map phaseOf).getD .free

/-- A Dormant thread has no completion. -/
def DormantClear (s : EeThreadScheduler) : Prop :=
  ∀ i th, s.thread? i = some th → th.state = .Dormant → th.completedWait.valid = false

theorem phaseOf_of_not_waiting (hw : th.state ≠ .Waiting) (hws : th.state ≠ .WaitSuspended) :
    phaseOf th = settled th.completedWait := if_neg (not_or.mpr ⟨hw, hws⟩)

theorem phase_of_thread (ht : s.thread? i = some th) : s.phase i = phaseOf th := by
  unfold phase
  rw [ht]
  rfl

/-! ## Events -/

/-- The thread exists and is in the state. -/
def isState (s : EeThreadScheduler) (i : Int) (state : EeSchedulerThreadState) : Bool :=
  (s.thread? i).any (·.state == state)

/-- The completion the thread's record carries. -/
def completionOf (s : EeThreadScheduler) (i : Int) : EeSchedulerCompletedWait :=
  ((s.thread? i).map (·.completedWait)).getD {}

end EeThreadScheduler

open EeThreadScheduler

def SchedulerOp.isRestore : SchedulerOp → Bool
  | .restore _ => true
  | _ => false

/-- What a call is for thread `i`, read from what it returns and, for a block, from the thread's
state before and after: `blockCurrentThread` and `sleepCurrentThread` put it into Waiting;
`wakeOne`, `wakeThread` and `releaseWaitThread` report that they completed its wait, whose record
is then in place; `consumeWaitCompletion` returns its completion; `terminateThread`,
`finishCurrentThread` and `exitCurrentThread` retire it. -/
def SchedulerOp.event (i : Int) (s : EeThreadScheduler) (op : SchedulerOp) :
    Option (Event EeSchedulerWaitKey EeSchedulerCompletedWait) :=
  match op with
  | .blockCurrentThread k =>
    if s.isState i .Running && (op.run s).isState i .Waiting then some (.blocked k) else none
  | .sleepCurrentThread =>
    if s.isState i .Running && (op.run s).isState i .Waiting then some (.blocked sleepKey)
    else none
  | .wakeOne k =>
    if (s.wakeOne k).1 = some i then some (.completed ((op.run s).completionOf i)) else none
  | .wakeThread h =>
    if h.id = i ∧ (s.wakeThread h).1 = .WokeSleeper then
      some (.completed ((op.run s).completionOf i))
    else none
  | .releaseWaitThread h c r =>
    if h.id = i ∧ (s.releaseWaitThread h c r).1 = true then
      some (.completed ((op.run s).completionOf i))
    else none
  | .consumeWaitCompletion h =>
    if h.id = i then (s.consumeWaitCompletion h).1.map .consumed else none
  | .finishCurrentThread | .exitCurrentThread =>
    if s.currentThreadId = some i ∧ s.retireCurrentThread.isSome then some .retired else none
  | .terminateThread h =>
    if h.id = i ∧ (s.terminateThread h).1 = true then some .retired else none
  | _ => none

namespace EeThreadScheduler

variable {s s' : EeThreadScheduler} {i j : Int} {th : ThreadRecord}
  {h : EeSchedulerThreadHandle} {k : EeSchedulerWaitKey}

/-! ## Steps that are no event for anyone -/

/-- No thread's phase changes. -/
structure Quiet (s s' : EeThreadScheduler) : Prop where
  phase : ∀ j, s'.phase j = s.phase j
  clear : s.DormantClear → s'.DormantClear

theorem Quiet.refl (s : EeThreadScheduler) : Quiet s s := ⟨fun _ => rfl, id⟩

theorem Quiet.trans {s₁ s₂ s₃ : EeThreadScheduler} (h₁ : Quiet s₁ s₂) (h₂ : Quiet s₂ s₃) :
    Quiet s₁ s₃ :=
  ⟨fun j => (h₂.phase j).trans (h₁.phase j), h₂.clear ∘ h₁.clear⟩

/-- Phases are read from the records alone. -/
theorem quiet_of_threads (ht : s'.threads = s.threads) : Quiet s s' := by
  have hth : s'.thread? = s.thread? := by
    unfold thread?
    rw [ht]
  refine ⟨fun j => ?_, fun hc i th ht' => ?_⟩
  · unfold phase
    rw [hth]
  · rw [hth] at ht'
    exact hc i th ht'

theorem phase_setThread (i j : Int) (th : ThreadRecord) :
    (s.setThread i th).phase j = if j = i then phaseOf th else s.phase j := by
  unfold phase
  rw [thread?_setThread]
  split <;> rfl

theorem clear_setThread (hc : s.DormantClear)
    (hth : th.state = .Dormant → th.completedWait.valid = false) :
    (s.setThread i th).DormantClear := by
  intro j t ht hd
  rw [thread?_setThread] at ht
  split at ht
  · obtain rfl := Option.some.inj ht
    exact hth hd
  · exact hc j t ht hd

theorem settled_phaseOf (hst : th.state = .Dormant ∨ th.state = .Ready ∨ th.state = .Running ∨
    th.state = .Suspended) : phaseOf th = settled th.completedWait := by
  refine phaseOf_of_not_waiting ?_ ?_ <;> rcases hst with e | e | e | e <;> rw [e] <;> exact nofun

/-- Rewriting a record without changing its phase. -/
theorem quiet_setThread {t : ThreadRecord} (ht : s.thread? i = some th)
    (hp : phaseOf t = phaseOf th)
    (hd : s.DormantClear → t.state = .Dormant → t.completedWait.valid = false) :
    Quiet s (s.setThread i t) := by
  refine ⟨fun j => ?_, fun hc => clear_setThread hc (hd hc)⟩
  rw [phase_setThread]
  split
  · rename_i hj
    rw [hj, hp, phase_of_thread ht]
  · rfl

theorem quiet_enqueueReady_setThread (i : Int) (th : ThreadRecord) :
    Quiet
      (s.setThread i
        { th with state := .Ready, wait := {}, queueSequence := s.nextQueueSequence })
      (s.enqueueReady i th) :=
  quiet_of_threads rfl

/-- Queueing a thread that was not waiting. -/
theorem quiet_enqueueReady {th' : ThreadRecord} (ht : s.thread? i = some th)
    (hp : phaseOf th = settled th'.completedWait) : Quiet s (s.enqueueReady i th') := by
  refine Quiet.trans (quiet_setThread ht ?_ ?_) (quiet_enqueueReady_setThread i th')
  · exact hp.symm
  · exact fun _ => nofun

theorem popReady_some {l rest : List EeSchedulerThreadHandle}
    (hpop : s.popReady l = (some (h, th), rest)) :
    s.findThread h = some th ∧ th.state = .Ready := by
  induction l with
  | nil => cases hpop
  | cons handle l ih =>
    unfold popReady at hpop
    cases hf : s.findThread handle with
    | none =>
      rw [hf] at hpop
      exact ih hpop
    | some t =>
      rw [hf] at hpop
      simp only at hpop
      split at hpop
      · rename_i hr
        cases hpop
        exact ⟨hf, hr⟩
      · exact ih hpop

/-- Only a Ready thread is selected. -/
theorem quiet_takeNextReadyFrom (s : EeThreadScheduler) (ps : List Priority) :
    Quiet s (s.takeNextReadyFrom ps).2 := by
  induction ps generalizing s with
  | nil => exact Quiet.refl s
  | cons p ps ih =>
    unfold takeNextReadyFrom
    split
    · rename_i h th rest hpop
      obtain ⟨hf, hr⟩ := popReady_some hpop
      obtain ⟨-, ht, -⟩ := findThread_eq_some.mp hf
      have hp : phaseOf
          { th with state := .Running, retainCompletedWaitReason := false, queueSequence := 0 } =
          phaseOf th := (settled_phaseOf (Or.inr (Or.inl hr))).symm
      exact (quiet_setThread ht hp fun _ => nofun).trans (quiet_of_threads rfl)
    · refine Quiet.trans ?_ (ih _)
      exact quiet_of_threads rfl

theorem quiet_takeNextReady (s : EeThreadScheduler) : Quiet s s.takeNextReady.2 :=
  quiet_takeNextReadyFrom s _

/-- A new thread without a completion. -/
theorem quiet_new {t : ThreadRecord} (hnew : s.thread? i = none)
    (hst : t.state = .Dormant ∨ t.state = .Running) (hc : t.completedWait = {}) :
    Quiet s (s.setThread i t) := by
  refine ⟨fun j => ?_, fun hclear => clear_setThread hclear fun _ => by rw [hc]; rfl⟩
  rw [phase_setThread]
  split
  · rename_i hj
    have hp : phaseOf t = settled t.completedWait :=
      settled_phaseOf (hst.imp id fun e => Or.inr (Or.inl e))
    rw [hj, hp, hc, phase, hnew]
    rfl
  · rfl

theorem quiet_addDormantThread (s : EeThreadScheduler) (i : Int) (g : Nat) (priority : Int) :
    Quiet s (s.addDormantThread i g priority).2 := by
  rcases addDormantThread_cases s i g priority with he | ⟨p, -, -, -, hnew, he⟩
  · rw [he]
    exact Quiet.refl s
  · rw [he]
    exact quiet_new hnew (Or.inl rfl) rfl

theorem quiet_addRunningThread (s : EeThreadScheduler) (i : Int) (g : Nat) (priority : Int) :
    Quiet s (s.addRunningThread i g priority).2 := by
  rcases addRunningThread_cases s i g priority with he | ⟨p, -, -, -, hnew, he⟩
  · rw [he]
    exact Quiet.refl s
  · rw [he]
    have hq := quiet_new (t := { generation := g, priority := p, state := .Running }) hnew
      (Or.inr rfl) rfl
    exact hq.trans (quiet_of_threads rfl)

theorem quiet_startThread (s : EeThreadScheduler) (h : EeSchedulerThreadHandle) :
    Quiet s (s.startThread h).2 := by
  unfold startThread
  split
  · rename_i th hf
    obtain ⟨-, ht, -⟩ := findThread_eq_some.mp hf
    split
    · rename_i hst
      exact quiet_enqueueReady ht (settled_phaseOf (Or.inl hst))
    · exact Quiet.refl s
  · exact Quiet.refl s

/-- Requeueing a Running thread and selecting the next one. -/
theorem quiet_requeue (ht : s.thread? i = some th) (hr : th.state = .Running) :
    Quiet s ({ s with currentThreadId := none }.enqueueReady i th).takeNextReady.2 := by
  have hq : Quiet s { s with currentThreadId := none } := quiet_of_threads rfl
  have ht' : ({ s with currentThreadId := none } : EeThreadScheduler).thread? i = some th := ht
  refine (hq.trans ?_).trans (quiet_takeNextReady _)
  exact quiet_enqueueReady ht' (settled_phaseOf (Or.inr (Or.inr (Or.inl hr))))

theorem quiet_startThreadId (s : EeThreadScheduler) (i : Int) :
    Quiet s (s.startThreadId i).2 := by
  unfold startThreadId
  split
  · exact quiet_startThread s _
  · exact Quiet.refl s

theorem quiet_selectNextThread (s : EeThreadScheduler) : Quiet s s.selectNextThread.2 := by
  unfold selectNextThread
  split
  · exact Quiet.refl s
  · exact quiet_takeNextReady s

theorem quiet_yieldCurrentThread (s : EeThreadScheduler) : Quiet s s.yieldCurrentThread.2 := by
  unfold yieldCurrentThread
  split
  · exact quiet_selectNextThread s
  · split
    · exact Quiet.refl s
    · rename_i ht
      split
      · rename_i hr
        exact quiet_requeue ht hr
      · exact Quiet.refl s

theorem quiet_reschedule (s : EeThreadScheduler) (policy : EeSchedulerReschedulePolicy) :
    Quiet s (s.reschedule policy).2 := by
  unfold reschedule
  split
  · exact quiet_takeNextReady s
  · split
    · exact Quiet.refl s
    · rename_i ht
      split
      · exact Quiet.refl s
      · rename_i hr
        split
        · exact Quiet.refl s
        · split
          · exact quiet_requeue ht (not_not.mp hr)
          · exact Quiet.refl s

theorem quiet_cancelWakeups (s : EeThreadScheduler) (h : EeSchedulerThreadHandle) :
    Quiet s (s.cancelWakeups h).2 := by
  unfold cancelWakeups
  split
  · exact Quiet.refl s
  · rename_i th hf
    obtain ⟨-, ht, -⟩ := findThread_eq_some.mp hf
    exact quiet_setThread (t := { th with wakeupCount := 0 }) ht rfl fun hc hd => hc h.id th ht hd

/-- A thread moves between the states in which it does not wait, none of them Dormant. -/
theorem quiet_settled {t : ThreadRecord} (ht : s.thread? i = some th)
    (hst : th.state = .Dormant ∨ th.state = .Ready ∨ th.state = .Running ∨ th.state = .Suspended)
    (hst' : t.state = .Ready ∨ t.state = .Running ∨ t.state = .Suspended)
    (hc : t.completedWait = th.completedWait) : Quiet s (s.setThread i t) := by
  refine quiet_setThread ht ?_ fun _ hd => ?_
  · rw [settled_phaseOf hst, settled_phaseOf (Or.inr hst'), hc]
  · rcases hst' with e | e | e <;> rw [e] at hd <;> cases hd

theorem quiet_waiting {t : ThreadRecord} (ht : s.thread? i = some th)
    (hst : th.state = .Waiting ∨ th.state = .WaitSuspended)
    (hst' : t.state = .Waiting ∨ t.state = .WaitSuspended) (hw : t.wait = th.wait) :
    Quiet s (s.setThread i t) := by
  refine quiet_setThread ht ?_ fun _ hd => ?_
  · unfold phaseOf
    rw [if_pos hst, if_pos hst', hw]
  · rcases hst' with e | e <;> rw [e] at hd <;> cases hd

theorem removeReady_threads {p : Priority} (hr : s.removeReady h p = some s') :
    s'.threads = s.threads := by
  unfold removeReady at hr
  split at hr
  · obtain rfl := Option.some.inj hr
    rfl
  · cases hr

theorem removeWait_threads (hr : s.removeWait h k = some s') : s'.threads = s.threads := by
  unfold removeWait at hr
  split at hr
  · split at hr
    · obtain rfl := Option.some.inj hr
      rfl
    · cases hr
  · cases hr

theorem thread?_of_threads (ht : s'.threads = s.threads) (i : Int) : s'.thread? i = s.thread? i := by
  unfold thread?
  rw [ht]

theorem quiet_suspendThread (s : EeThreadScheduler) (h : EeSchedulerThreadHandle) :
    Quiet s (s.suspendThread h).2 := by
  unfold suspendThread
  cases hf : s.findThread h with
  | none => exact Quiet.refl s
  | some th =>
    obtain ⟨-, ht, -⟩ := findThread_eq_some.mp hf
    simp only
    split
    · exact Quiet.refl s
    · cases hst : th.state with
      | Dormant => exact Quiet.refl s
      | Running =>
        simp only
        split
        · have hq := quiet_settled
            (t := { th with suspendCount := th.suspendCount + 1, state := .Suspended }) ht
            (Or.inr (Or.inr (Or.inl hst))) (Or.inr (Or.inr rfl)) rfl
          refine Quiet.trans ?_ (quiet_takeNextReady _)
          exact hq.trans (quiet_of_threads rfl)
        · exact Quiet.refl s
      | Ready =>
        simp only
        cases hrem : s.removeReady h th.priority with
        | none => exact Quiet.refl s
        | some s' =>
          have hth := removeReady_threads hrem
          refine (quiet_of_threads hth).trans ?_
          exact quiet_settled ((thread?_of_threads hth _).trans ht) (Or.inr (Or.inl hst))
            (Or.inr (Or.inr rfl)) rfl
      | Waiting => exact quiet_waiting ht (Or.inl hst) (Or.inr rfl) rfl
      | Suspended =>
        exact quiet_settled ht (Or.inr (Or.inr (Or.inr hst))) (Or.inr (Or.inr rfl)) rfl
      | WaitSuspended => exact quiet_waiting ht (Or.inr hst) (Or.inr rfl) rfl

theorem quiet_resumeThread (s : EeThreadScheduler) (h : EeSchedulerThreadHandle) :
    Quiet s (s.resumeThread h).2 := by
  unfold resumeThread
  cases hf : s.findThread h with
  | none => exact Quiet.refl s
  | some th =>
    obtain ⟨-, ht, -⟩ := findThread_eq_some.mp hf
    simp only
    split
    · exact Quiet.refl s
    · rename_i hcan
      rw [not_or, not_and, not_not] at hcan
      have hst : th.state = .Suspended ∨ th.state = .WaitSuspended := by
        by_cases e : th.state = .Suspended
        · exact Or.inl e
        · exact Or.inr (hcan.2 e)
      split
      · rcases hst with hst | hst
        · exact quiet_settled ht (Or.inr (Or.inr (Or.inr hst))) (Or.inr (Or.inr hst)) rfl
        · exact quiet_waiting ht (Or.inr hst) (Or.inr hst) rfl
      · split
        · rename_i hws
          exact quiet_waiting ht (Or.inr hws) (Or.inl rfl) rfl
        · rename_i hws
          have hs := hst.resolve_right hws
          exact quiet_enqueueReady ht (settled_phaseOf (Or.inr (Or.inr (Or.inr hs))))

theorem quiet_deleteThread (s : EeThreadScheduler) (h : EeSchedulerThreadHandle)
    (hc : s.DormantClear) : Quiet s (s.deleteThread h).2 := by
  unfold deleteThread
  cases hf : s.findThread h with
  | none => exact Quiet.refl s
  | some th =>
    obtain ⟨-, ht, -⟩ := findThread_eq_some.mp hf
    simp only
    split
    · rename_i hd
      have hother : ∀ j, ({ s with threads := s.threads.erase h.id } : EeThreadScheduler).thread? j =
          if j = h.id then none else s.thread? j := by
        intro j
        split
        · rename_i hj
          rw [hj]
          exact Finmap.lookup_erase _ _
        · rename_i hj
          exact Finmap.lookup_erase_ne hj
      refine ⟨fun j => ?_, fun _ j t htj hdj => ?_⟩
      · unfold phase
        rw [hother]
        split
        · rename_i hj
          rw [hj, ht, Option.map_some, settled_phaseOf (Or.inl hd), settled,
            hc _ _ ht hd]
          rfl
        · rfl
      · rw [hother] at htj
        split at htj
        · cases htj
        · exact hc _ _ htj hdj
    · exact Quiet.refl s

theorem quiet_changeThreadPriority (s : EeThreadScheduler) (h : EeSchedulerThreadHandle)
    (priority : Int) : Quiet s (s.changeThreadPriority h priority).2 := by
  unfold changeThreadPriority
  cases hf : s.findThread h with
  | none => exact Quiet.refl s
  | some th =>
    obtain ⟨-, ht, -⟩ := findThread_eq_some.mp hf
    cases validPriority priority with
    | none => exact Quiet.refl s
    | some p =>
      simp only
      split
      · exact Quiet.refl s
      · rename_i hd
        split
        · exact Quiet.refl s
        · split
          · rename_i hst
            cases hrem : s.removeReady h th.priority with
            | none => exact Quiet.refl s
            | some s' =>
              have hth := removeReady_threads hrem
              refine (quiet_of_threads hth).trans ?_
              exact quiet_enqueueReady ((thread?_of_threads hth _).trans ht)
                (settled_phaseOf (Or.inr (Or.inl hst)))
          · exact quiet_setThread (t := { th with priority := p }) ht rfl fun _ e => absurd e hd

theorem quiet_rotateReadyQueue (s : EeThreadScheduler) (priority : Int) :
    Quiet s (s.rotateReadyQueue priority).2 := by
  unfold rotateReadyQueue
  split
  · exact Quiet.refl s
  · split
    · exact Quiet.refl s
    · exact Quiet.refl s
    · split
      · exact Quiet.refl s
      · rename_i th hf
        obtain ⟨-, ht, -⟩ := findThread_eq_some.mp hf
        split
        · rename_i hst
          have hq := quiet_settled (t := { th with queueSequence := s.nextQueueSequence }) ht
            (Or.inr (Or.inl hst.1)) (Or.inl hst.1) rfl
          exact hq.trans (quiet_of_threads rfl)
        · exact Quiet.refl s

/-! ## Steps that are events -/

/-- A call that is the event `e` for thread `i`, and keeps what `deleteThread` needs. -/
structure Follows (s s' : EeThreadScheduler) (i : Int)
    (e : Option (Event EeSchedulerWaitKey EeSchedulerCompletedWait)) : Prop where
  step : Step EeSchedulerCompletedWait.wait (s.phase i) e (s'.phase i)
  clear : s.DormantClear → s'.DormantClear

theorem Quiet.follows (hq : Quiet s s') (i : Int) : Follows s s' i none :=
  ⟨by rw [hq.phase]; exact Step.idle _, hq.clear⟩

/-- `takeNextReady` leaves the record of a thread that is not Ready. -/
theorem takeNextReadyFrom_thread? (hn : ∀ th, s.thread? i = some th → th.state ≠ .Ready)
    (ps : List Priority) : (s.takeNextReadyFrom ps).2.thread? i = s.thread? i := by
  induction ps generalizing s with
  | nil => rfl
  | cons p ps ih =>
    unfold takeNextReadyFrom
    split
    · rename_i h th rest hpop
      obtain ⟨hf, hr⟩ := popReady_some hpop
      obtain ⟨-, ht, -⟩ := findThread_eq_some.mp hf
      refine Finmap.lookup_insert_of_ne _ ?_
      rintro rfl
      exact hn th ht hr
    · exact ih hn

theorem takeNextReady_thread? (hn : ∀ th, s.thread? i = some th → th.state ≠ .Ready) :
    s.takeNextReady.2.thread? i = s.thread? i := takeNextReadyFrom_thread? hn _

/-- The event of a call that may block the thread on `k`. -/
def blockEvent (s s' : EeThreadScheduler) (i : Int) (k : EeSchedulerWaitKey) :
    Option (Event EeSchedulerWaitKey EeSchedulerCompletedWait) :=
  if s.isState i .Running && s'.isState i .Waiting then some (.blocked k) else none

theorem isState_eq {state : EeSchedulerThreadState} (ht : s.thread? i = some th) :
    s.isState i state = (th.state == state) := by
  unfold isState
  rw [ht]
  rfl

theorem blockEvent_eq_none_of_running
    (hr : ∀ th, s.thread? i = some th → th.state = .Running → s'.thread? i = some th) :
    blockEvent s s' i k = none := by
  unfold blockEvent
  cases ht : s.thread? i with
  | none =>
    unfold isState
    rw [ht]
    rfl
  | some th =>
    rw [isState_eq ht]
    by_cases he : th.state = .Running
    · rw [isState_eq (hr th ht he), he]
      rfl
    · rw [beq_eq_false_iff_ne.mpr he]
      rfl

/-- A thread that keeps its state is not blocked. -/
theorem blockEvent_eq_none (hst : ∀ state, s'.isState i state = s.isState i state) :
    blockEvent s s' i k = none := by
  unfold blockEvent
  rw [hst, if_neg]
  unfold isState
  cases s.thread? i with
  | none => exact nofun
  | some th =>
    simp only [Option.any_some, Bool.and_eq_true, beq_iff_eq, not_and]
    intro hr hw
    rw [hr] at hw
    cases hw

theorem follows_blockCurrentThread (s : EeThreadScheduler) (k : EeSchedulerWaitKey) (i : Int) :
    Follows s (s.blockCurrentThread k).2 i (blockEvent s (s.blockCurrentThread k).2 i k) := by
  have hrefuse : Follows s s i (blockEvent s s i k) := by
    rw [blockEvent_eq_none fun _ => rfl]
    exact (Quiet.refl s).follows i
  unfold blockCurrentThread
  split
  · exact hrefuse
  · rename_i t hc
    split
    · exact hrefuse
    · split
      · exact hrefuse
      · rename_i th ht
        split
        · exact hrefuse
        · rename_i hr
          rw [not_not] at hr
          split
          · exact hrefuse
          · rename_i hfree
            rw [not_or, Bool.not_eq_true] at hfree
            have hself : (s.enqueueWait t th k).thread? t =
                some { th with state := .Waiting, wait := k, queueSequence := s.nextQueueSequence } :=
              Finmap.lookup_insert _
            have hclear : s.DormantClear → (s.enqueueWait t th k).takeNextReady.2.DormantClear :=
              fun hc => (quiet_takeNextReady _).clear (clear_setThread hc nofun)
            by_cases hit : i = t
            · subst hit
              have hafter := takeNextReady_thread? (s := s.enqueueWait i th k) (i := i) (by
                intro t' ht' e
                rw [hself] at ht'
                rw [← Option.some.inj ht'] at e
                cases e)
              rw [hself] at hafter
              refine ⟨?_, hclear⟩
              rw [phase_of_thread ht, phase_of_thread hafter, blockEvent, isState_eq ht,
                isState_eq hafter, hr,
                settled_phaseOf (Or.inr (Or.inr (Or.inl hr))), settled, hfree.1]
              exact Step.block k
            · have hother : (s.enqueueWait t th k).thread? i = s.thread? i :=
                Finmap.lookup_insert_of_ne _ hit
              have hnone : blockEvent s (s.enqueueWait t th k).takeNextReady.2 i k = none := by
                refine blockEvent_eq_none_of_running fun t' ht' hr' => ?_
                rw [takeNextReady_thread?, hother, ht']
                intro t'' ht'' e
                rw [hother, ht'] at ht''
                rw [← Option.some.inj ht'', hr'] at e
                cases e
              refine ⟨?_, hclear⟩
              rw [hnone, (quiet_takeNextReady _).phase]
              unfold phase
              rw [hother]
              exact Step.idle _

theorem follows_sleepCurrentThread (s : EeThreadScheduler) (i : Int) :
    Follows s s.sleepCurrentThread.2 i (blockEvent s s.sleepCurrentThread.2 i sleepKey) := by
  have hrefuse : Follows s s i (blockEvent s s i sleepKey) := by
    rw [blockEvent_eq_none fun _ => rfl]
    exact (Quiet.refl s).follows i
  unfold sleepCurrentThread
  split
  · exact hrefuse
  · split
    · exact hrefuse
    · rename_i t _ th ht
      split
      · exact hrefuse
      · rename_i hfree
        rw [not_or, not_not] at hfree
        split
        · have hq := quiet_settled (t := { th with wakeupCount := th.wakeupCount - 1 }) ht
            (Or.inr (Or.inr (Or.inl hfree.1))) (Or.inr (Or.inl hfree.1)) rfl
          rw [blockEvent_eq_none]
          · exact hq.follows i
          · intro state
            unfold isState
            rw [thread?_setThread]
            split
            · rename_i hit
              rw [hit, ht]
              rfl
            · rfl
        · exact follows_blockCurrentThread s sleepKey i

/-! ### Completions -/

theorem publishWake_thread? (i j : Int) (t : ThreadRecord) :
    ∃ t' : ThreadRecord, (t'.state = .Ready ∨ t'.state = .Suspended) ∧
      t'.completedWait = t.completedWait ∧
      (s.publishWake i t).thread? j = if j = i then some t' else s.thread? j := by
  unfold publishWake
  split
  · exact ⟨{ t with state := .Suspended, queueSequence := 0 }, Or.inr rfl, rfl,
      thread?_setThread i j⟩
  · exact ⟨{ t with state := .Ready, wait := {}, queueSequence := s.nextQueueSequence },
      Or.inl rfl, rfl, thread?_enqueueReady i j⟩

/-- The end of a wait is a completion for the thread that waited, and no event for others. -/
theorem follows_publishWake {c : EeSchedulerCompletedWait} {t : ThreadRecord}
    (hthreads : s'.threads = s.threads) (ht : s.thread? j = some th)
    (hst : th.state = .Waiting ∨ th.state = .WaitSuspended) (hc : c.valid = true)
    (hw : c.wait = th.wait) (htc : t.completedWait = c) (i : Int) :
    Follows s (s'.publishWake j t) i
      (if j = i then some (.completed ((s'.publishWake j t).completionOf i)) else none) := by
  obtain ⟨t', hst', hc', hth'⟩ := publishWake_thread? (s := s') j i t
  rw [thread?_of_threads hthreads] at hth'
  have hclear : s.DormantClear → (s'.publishWake j t).DormantClear := by
    intro hd m t'' ht'' hdm
    obtain ⟨t₁, hst₁, -, hth₁⟩ := publishWake_thread? (s := s') j m t
    rw [hth₁] at ht''
    split at ht''
    · obtain rfl := Option.some.inj ht''
      rcases hst₁ with e | e <;> rw [e] at hdm <;> cases hdm
    · rw [thread?_of_threads hthreads] at ht''
      exact hd m t'' ht'' hdm
  refine ⟨?_, hclear⟩
  by_cases hji : j = i
  · subst hji
    rw [if_pos rfl] at hth' ⊢
    have hp : phaseOf t' = settled t'.completedWait :=
      settled_phaseOf (hst'.elim (fun e => Or.inr (Or.inl e)) fun e => Or.inr (Or.inr (Or.inr e)))
    rw [phase_of_thread ht, phase_of_thread hth', hp, completionOf, hth', Option.map_some,
      Option.getD_some, hc', htc, phaseOf, if_pos hst, settled, if_pos hc, ← hw]
    exact Step.complete c
  · rw [if_neg (Ne.symm hji)] at hth'
    rw [if_neg hji, phase, phase, hth']
    exact Step.idle _

theorem follows_wakeOne (s : EeThreadScheduler) (k : EeSchedulerWaitKey) (i : Int) :
    Follows s (s.wakeOne k).2 i ((SchedulerOp.wakeOne k).event i s) := by
  unfold SchedulerOp.event SchedulerOp.run
  simp only
  unfold wakeOne
  split
  · exact (Quiet.refl s).follows i
  · rename_i hk
    split
    · exact (Quiet.refl s).follows i
    · exact (Quiet.refl s).follows i
    · rename_i h rest _
      have hdrop : Quiet s (s.setWaitQueue k rest) := quiet_of_threads rfl
      simp only
      split
      · exact hdrop.follows i
      · rename_i th hf
        obtain ⟨-, ht, -⟩ := findThread_eq_some.mp hf
        split
        · rename_i hin
          simp only [Option.some.injEq]
          have hth : (s.setWaitQueue k rest).threads = s.threads := rfl
          refine follows_publishWake (c := ⟨k, .Satisfied⟩) hth ht hin.1 ?_ hin.2.symm ?_ i
          · unfold EeSchedulerCompletedWait.valid
            rw [Bool.not_eq_true, Bool.not_eq_false'] at hk
            rw [hk]
            rfl
          · rfl
        · exact hdrop.follows i

theorem follows_releaseWaitThread (s : EeThreadScheduler) (h : EeSchedulerThreadHandle)
    (c : EeSchedulerWaitCompletion) (r : Bool) (i : Int) :
    Follows s (s.releaseWaitThread h c r).2 i
      (if h.id = i ∧ (s.releaseWaitThread h c r).1 = true then
        some (.completed ((s.releaseWaitThread h c r).2.completionOf i)) else none) := by
  have hrefuse : Follows s s i (if h.id = i ∧ false = true then
      some (.completed (s.completionOf i)) else none) := by
    rw [if_neg fun e => Bool.false_ne_true e.2]
    exact (Quiet.refl s).follows i
  unfold releaseWaitThread
  split
  · exact hrefuse
  · rename_i th hf
    obtain ⟨-, ht, -⟩ := findThread_eq_some.mp hf
    split
    · exact hrefuse
    · rename_i hok
      obtain ⟨hc, hst', hv⟩ := releasable_of_not hok
      split
      · exact hrefuse
      · rename_i s' hrem
        simp only [and_true]
        refine follows_publishWake (removeWait_threads hrem) ht hst' ?_ rfl rfl i
        unfold EeSchedulerCompletedWait.valid
        rw [hv, Bool.true_and, bne_iff_ne]
        exact hc

theorem follows_wakeThread (s : EeThreadScheduler) (h : EeSchedulerThreadHandle) (i : Int) :
    Follows s (s.wakeThread h).2 i ((SchedulerOp.wakeThread h).event i s) := by
  unfold SchedulerOp.event SchedulerOp.run
  simp only
  have hquiet : ∀ {s' : EeThreadScheduler} {result : EeSchedulerWakeResult}, Quiet s s' →
      result ≠ .WokeSleeper → Follows s s' i
        (if h.id = i ∧ result = .WokeSleeper then some (.completed (s'.completionOf i))
          else none) := by
    intro s' result hq hne
    rw [if_neg fun e => hne e.2]
    exact hq.follows i
  unfold wakeThread
  cases hf : s.findThread h with
  | none => exact hquiet (Quiet.refl s) nofun
  | some th =>
    obtain ⟨-, ht, -⟩ := findThread_eq_some.mp hf
    simp only
    split
    · exact hquiet (Quiet.refl s) nofun
    · rename_i hd
      split
      · have hrel := follows_releaseWaitThread s h .Satisfied false i
        split
        · rename_i s' he
          rw [he] at hrel
          simpa only [and_true] using hrel
        · rename_i s' he
          rw [he] at hrel
          simpa only [Bool.false_eq_true, reduceCtorEq, and_false, if_false] using hrel
      · split
        · exact hquiet (Quiet.refl s) nofun
        · have hq := quiet_setThread (t := { th with wakeupCount := th.wakeupCount + 1 }) ht rfl
            fun _ e => absurd e hd
          exact hquiet hq nofun

theorem follows_consumeWaitCompletion (s : EeThreadScheduler) (h : EeSchedulerThreadHandle)
    (i : Int) : Follows s (s.consumeWaitCompletion h).2 i
      ((SchedulerOp.consumeWaitCompletion h).event i s) := by
  unfold SchedulerOp.event
  simp only
  have hrefuse : Follows s s i (if h.id = i then none else none) := by
    rw [ite_self]
    exact (Quiet.refl s).follows i
  unfold consumeWaitCompletion
  cases hf : s.findThread h with
  | none => exact hrefuse
  | some th =>
    obtain ⟨-, ht, -⟩ := findThread_eq_some.mp hf
    simp only
    split
    · exact hrefuse
    · rename_i hok
      rw [not_or, not_not, Bool.not_eq_true, Bool.not_eq_false'] at hok
      obtain ⟨hr, hv⟩ := hok
      refine ⟨?_, fun hc => clear_setThread hc fun _ => rfl⟩
      rw [phase_setThread]
      by_cases hi : h.id = i
      · rw [if_pos hi, if_pos hi.symm, ← hi, phase_of_thread ht,
          settled_phaseOf (Or.inr (Or.inr (Or.inl hr))), settled, if_pos hv, phaseOf,
          if_neg (by rw [hr]; exact nofun)]
        exact Step.consume _
      · rw [if_neg hi, if_neg (Ne.symm hi)]
        exact Step.idle _

/-! ### Retirement -/

/-- Retiring thread `j` and then changing no phase. -/
theorem follows_retired {s₁ : EeThreadScheduler} (hthreads : s₁.threads = s.threads)
    (hq : Quiet (s₁.setThread j (retired th)) s') (i : Int) :
    Follows s s' i (if j = i then some .retired else none) := by
  refine ⟨?_, fun hc => hq.clear (clear_setThread ?_ fun _ => rfl)⟩
  · rw [hq.phase, phase_setThread]
    by_cases hji : j = i
    · rw [if_pos hji, if_pos hji.symm]
      exact Step.retire _
    · rw [if_neg hji, if_neg (Ne.symm hji), (quiet_of_threads hthreads).phase]
      exact Step.idle _
  · exact (quiet_of_threads hthreads).clear hc

theorem retireCurrentThread_cases (s : EeThreadScheduler) :
    s.retireCurrentThread = none ∨ ∃ j th, s.currentThreadId = some j ∧
      s.retireCurrentThread =
        some { s.setThread j (retired th) with currentThreadId := none } := by
  unfold retireCurrentThread
  split
  · exact Or.inl rfl
  · rename_i j hc
    split
    · exact Or.inl rfl
    · rename_i th _
      split
      · exact Or.inr ⟨j, th, hc, rfl⟩
      · exact Or.inl rfl

/-- `finishCurrentThread` and `exitCurrentThread` leave the same scheduler. -/
theorem exitCurrentThread_eq (s : EeThreadScheduler) :
    s.exitCurrentThread.2 = s.finishCurrentThread.2 := by
  unfold exitCurrentThread finishCurrentThread
  cases s.retireCurrentThread <;> rfl

theorem follows_finishCurrentThread (s : EeThreadScheduler) (i : Int) :
    Follows s s.finishCurrentThread.2 i (SchedulerOp.finishCurrentThread.event i s) := by
  unfold SchedulerOp.event finishCurrentThread
  simp only
  rcases s.retireCurrentThread_cases with he | ⟨j, th, hc, he⟩
  · simp only [he, Option.isSome_none, Bool.false_eq_true, and_false, if_false]
    exact (Quiet.refl s).follows i
  · simp only [he, hc, Option.isSome_some, and_true, Option.some.injEq]
    have hq : Quiet (s.setThread j (retired th))
        { s.setThread j (retired th) with currentThreadId := none } := quiet_of_threads rfl
    exact follows_retired rfl (hq.trans (quiet_takeNextReady _)) i

theorem quiet_finishTermination (s : EeThreadScheduler) (i : Int) (th : ThreadRecord) :
    Quiet (s.setThread i (retired th)) (finishTermination s i th) := by
  unfold finishTermination
  simp only
  split
  · exact Quiet.refl _
  · exact quiet_takeNextReady _

theorem terminateThread_cases (s : EeThreadScheduler) (h : EeSchedulerThreadHandle) :
    s.terminateThread h = (false, s) ∨ ∃ s₁ th, s₁.threads = s.threads ∧
      s.terminateThread h = (true, finishTermination s₁ h.id th) := by
  unfold terminateThread
  cases s.findThread h with
  | none => exact Or.inl rfl
  | some th =>
    simp only
    cases th.state with
    | Dormant => exact Or.inl rfl
    | Running =>
      simp only
      split
      · exact Or.inr ⟨{ s with currentThreadId := none }, th, rfl, rfl⟩
      · exact Or.inl rfl
    | Ready =>
      simp only
      cases hrem : s.removeReady h th.priority with
      | none => exact Or.inl rfl
      | some s₁ => exact Or.inr ⟨s₁, th, removeReady_threads hrem, rfl⟩
    | Suspended => exact Or.inr ⟨s, th, rfl, rfl⟩
    | Waiting | WaitSuspended =>
      simp only
      cases hrem : s.removeWait h th.wait with
      | none => exact Or.inl rfl
      | some s₁ => exact Or.inr ⟨s₁, th, removeWait_threads hrem, rfl⟩

theorem follows_terminateThread (s : EeThreadScheduler) (h : EeSchedulerThreadHandle) (i : Int) :
    Follows s (s.terminateThread h).2 i ((SchedulerOp.terminateThread h).event i s) := by
  unfold SchedulerOp.event
  simp only
  rcases s.terminateThread_cases h with he | ⟨s₁, th, hth, he⟩
  · simp only [he, Bool.false_eq_true, and_false, if_false]
    exact (Quiet.refl s).follows i
  · simp only [he, and_true]
    exact follows_retired hth (quiet_finishTermination s₁ h.id th) i

/-- **Every call but `restore` is a step of the protocol for every thread.** -/
theorem event_step {op : SchedulerOp} (hop : op.isRestore = false) (hc : s.DormantClear)
    (i : Int) : (op.run s).DormantClear ∧
      Step EeSchedulerCompletedWait.wait (s.phase i) (op.event i s) ((op.run s).phase i) := by
  have hf : Follows s (op.run s) i (op.event i s) := by
    cases op with
    | addDormantThread i' g p => exact (quiet_addDormantThread s i' g p).follows i
    | addRunningThread i' g p => exact (quiet_addRunningThread s i' g p).follows i
    | startThread h => exact (quiet_startThread s h).follows i
    | startThreadId i' => exact (quiet_startThreadId s i').follows i
    | selectNextThread => exact (quiet_selectNextThread s).follows i
    | yieldCurrentThread => exact (quiet_yieldCurrentThread s).follows i
    | blockCurrentThread k => exact follows_blockCurrentThread s k i
    | sleepCurrentThread => exact follows_sleepCurrentThread s i
    | wakeOne k => exact follows_wakeOne s k i
    | wakeThread h => exact follows_wakeThread s h i
    | cancelWakeups h => exact (quiet_cancelWakeups s h).follows i
    | releaseWaitThread h c r => exact follows_releaseWaitThread s h c r i
    | consumeWaitCompletion h => exact follows_consumeWaitCompletion s h i
    | finishCurrentThread => exact follows_finishCurrentThread s i
    | suspendThread h => exact (quiet_suspendThread s h).follows i
    | resumeThread h => exact (quiet_resumeThread s h).follows i
    | terminateThread h => exact follows_terminateThread s h i
    | exitCurrentThread =>
      have hf := follows_finishCurrentThread s i
      rw [← exitCurrentThread_eq] at hf
      exact hf
    | deleteThread h => exact (quiet_deleteThread s h hc).follows i
    | changeThreadPriority h p => exact (quiet_changeThreadPriority s h p).follows i
    | rotateReadyQueue p => exact (quiet_rotateReadyQueue s p).follows i
    | reschedule policy => exact (quiet_reschedule s policy).follows i
    | publishCanonicalTick tick =>
      have hq : Quiet s (s.publishCanonicalTick tick) := quiet_of_threads rfl
      exact hq.follows i
    | restore state => cases hop
  exact ⟨hf.clear hc, hf.step⟩

/-! ## Runs -/

/-- The events of a run for thread `i`. -/
abbrev eventsOf (i : Int) (s : EeThreadScheduler) (ops : List SchedulerOp) :
    List (Option (Event EeSchedulerWaitKey EeSchedulerCompletedWait)) :=
  outputs SchedulerOp.run (fun s op => op.event i s) s ops

theorem clear_empty : DormantClear {} := fun i th ht _ => by
  simp [thread?] at ht

/-- A run without `restore` takes every thread along a path of the protocol. -/
theorem path_of_run (hc : s.DormantClear) {ops : List SchedulerOp}
    (hops : ∀ op ∈ ops, op.isRestore = false) (i : Int) :
    (run SchedulerOp.run s ops).DormantClear ∧
      Path (Step EeSchedulerCompletedWait.wait) (s.phase i) (eventsOf i s ops)
        ((run SchedulerOp.run s ops).phase i) := by
  have halong : Along SchedulerOp.run (fun _ op => op.isRestore = false) s ops :=
    along_of_forall fun op hm _ => hops op hm
  constructor
  · exact invariant (I := DormantClear) (fun _ _ hc hop => (event_step hop hc i).1) hc halong
  · exact simulates (I := DormantClear) (f := fun s => s.phase i)
      (fun _ _ hc hop => event_step hop hc i) hc halong

theorem phase_ne_waiting {state : EeSchedulerThreadState} (hs : s.isState i state = true)
    (hw : state ≠ .Waiting) (hws : state ≠ .WaitSuspended) (k : EeSchedulerWaitKey) :
    s.phase i ≠ .waiting k := by
  unfold isState at hs
  cases ht : s.thread? i with
  | none =>
    rw [ht] at hs
    cases hs
  | some th =>
    rw [ht, Option.any_some, beq_iff_eq] at hs
    rw [phase_of_thread ht, phaseOf_of_not_waiting (hs ▸ hw) (hs ▸ hws), settled]
    split <;> exact nofun

theorem of_phase_completed {c : EeSchedulerCompletedWait} (hp : s.phase i = .completed c) :
    s.completionOf i = c ∧ s.isState i .Waiting = false ∧ s.isState i .WaitSuspended = false := by
  cases ht : s.thread? i with
  | none =>
    unfold phase at hp
    rw [ht] at hp
    cases hp
  | some th =>
    rw [phase_of_thread ht, phaseOf] at hp
    split at hp
    · cases hp
    · rename_i hst
      rw [not_or] at hst
      unfold settled at hp
      split at hp
      · cases hp
        refine ⟨?_, ?_, ?_⟩
        · unfold completionOf
          rw [ht]
          rfl
        · rw [isState_eq ht, beq_eq_false_iff_ne]
          exact hst.1
        · rw [isState_eq ht, beq_eq_false_iff_ne]
          exact hst.2
      · cases hp

/-- **A wait is completed once, and its completion kept until it is consumed, once.** In a run
without `restore`, look at one call and at the calls after it, from thread `i`'s side:

* if the call blocks it on `k`, and after the later calls it is Running again without having
  blocked or been retired in between, then exactly one of them completed a wait of it, on `k`;
* if the call completes its wait with `c`, then `consumeWaitCompletion` returns at most one
  completion before the next is recorded, and that one is `c`;
* if the call completes its wait with `c`, then until it is consumed or the thread retired the
  record holds `c`, the thread does not wait, and no call blocks it or completes another wait. -/
theorem completion_of_run (before : List SchedulerOp) (op : SchedulerOp)
    (after : List SchedulerOp)
    (hops : ∀ o ∈ before ++ op :: after, o.isRestore = false) (i : Int) :
    let s := run SchedulerOp.run {} before
    let events := eventsOf i (op.run s) after
    let s' := run SchedulerOp.run (op.run s) after
    (∀ k, op.event i s = some (.blocked k) → s'.isState i .Running = true →
      blocks events = [] → some Event.retired ∉ events →
        ∃ c, completions events = [c] ∧ c.wait = k) ∧
    (∀ c, op.event i s = some (.completed c) → completions events = [] →
      consumptions events = [] ∨ consumptions events = [c]) ∧
    (∀ c, op.event i s = some (.completed c) → consumptions events = [] →
      some Event.retired ∉ events →
        s'.completionOf i = c ∧ s'.isState i .Waiting = false ∧
          s'.isState i .WaitSuspended = false ∧ ∀ e ∈ events, e = none) := by
  intro s events s'
  have hc : s.DormantClear :=
    (path_of_run clear_empty (fun o hm => hops o (List.mem_append_left _ hm)) i).1
  obtain ⟨hc', hstep⟩ :=
    event_step (hops op (List.mem_append_right _ List.mem_cons_self)) hc i
  obtain ⟨-, hpath⟩ := path_of_run hc'
    (fun o hm => hops o (List.mem_append_right _ (List.mem_cons_of_mem _ hm))) i
  refine ⟨fun k he hr hb hret => ?_, fun c he hcs => ?_, fun c he hcs hret => ?_⟩
  · rw [he] at hstep
    generalize (op.run s).phase i = q at hstep hpath
    generalize s.phase i = p at hstep
    cases hstep
    exact completed_once hpath (phase_ne_waiting hr nofun nofun) hb hret
  · rw [he] at hstep
    generalize (op.run s).phase i = q at hstep hpath
    generalize s.phase i = p at hstep
    cases hstep
    exact consumed_once hpath hcs
  · rw [he] at hstep
    generalize (op.run s).phase i = q at hstep hpath
    generalize s.phase i = p at hstep
    cases hstep
    obtain ⟨hq, hall⟩ := completed_stays hpath hcs hret
    obtain ⟨h₁, h₂, h₃⟩ := of_phase_completed hq
    exact ⟨h₁, h₂, h₃, hall⟩

/-- A thread blocks on a semaphore, is suspended there, signalled, resumed and runs again. -/
theorem completion_of_semaphore_wait :
    ∃ c, completions (eventsOf 1 (SchedulerOp.run
          (run SchedulerOp.run {} [.addRunningThread 1 1 10]) (.blockCurrentThread ⟨.Semaphore, 3⟩))
        [.suspendThread ⟨1, 1⟩, .wakeOne ⟨.Semaphore, 3⟩, .resumeThread ⟨1, 1⟩,
          .selectNextThread]) = [c] ∧ c.wait = ⟨.Semaphore, 3⟩ :=
  (completion_of_run [.addRunningThread 1 1 10] (.blockCurrentThread ⟨.Semaphore, 3⟩)
    [.suspendThread ⟨1, 1⟩, .wakeOne ⟨.Semaphore, 3⟩, .resumeThread ⟨1, 1⟩, .selectNextThread]
    (by decide) 1).1 _ (by decide +kernel) (by decide +kernel) (by decide +kernel)
    (by decide +kernel)

end EeThreadScheduler

end Ps2Recomp
