import Ps2Recomp.Executor.Boundary
import Ps2Recomp.Lib.StateExcept
import Ps2Recomp.Scheduler.FailureAtomic

/-!
# What a boundary publishes

The hooks run while `m_processingBoundary` is set, so a boundary that a hook enters is rejected: it
counts itself and changes nothing else (`processBoundary_eq`). With that, a boundary that returns
has served one consequence after the other, each from the first stage that had one when it was
polled (`Round`), and the context published last is the one the scheduler has selected
(`boundary_publishes_selected`). That takes a scheduler whose current thread runs, as every
scheduler's does that calls lead to (`Reached`): `reschedule` gives up on any other without saying so.
-/

namespace Ps2Recomp

open StateExcept Machine

namespace EeThreadScheduler

variable {s : EeThreadScheduler}

theorem Located.takeNextReady_selected (w : Located s) (hnone : s.currentThreadId = none) :
    s.takeNextReady.1 = s.takeNextReady.2.currentThreadId := by
  rcases w.takeNextReady_cases with ⟨-, heq⟩ | ⟨p, h, th, rest, -, -, -, -, heq⟩
  · rw [heq, hnone]
  · rw [heq]
    rfl

/-- **`reschedule` returns the thread it selects.** -/
theorem Located.reschedule_selected (w : Located s) (policy : EeSchedulerReschedulePolicy) :
    (s.reschedule policy).1 = (s.reschedule policy).2.currentThreadId := by
  unfold reschedule
  cases hcurrent : s.currentThreadId with
  | none => exact w.takeNextReady_selected hcurrent
  | some i =>
    obtain ⟨th, ht, hrunning⟩ := w.current_running hcurrent
    simp only [ht, hrunning, ne_eq, not_true_eq_false, if_false]
    cases s.highestReadyPriority with
    | none => exact hcurrent.symm
    | some p =>
      simp only
      split
      · exact (w.located_requeue hcurrent ht).takeNextReady_selected rfl
      · exact hcurrent.symm

/-- A scheduler that some calls lead to. -/
def Reached (s : EeThreadScheduler) : Prop := ∃ ops, s = run SchedulerOp.run {} ops

theorem Reached.located (h : Reached s) : Located s := by
  obtain ⟨ops, rfl⟩ := h
  exact located_run ops

theorem Reached.run (h : Reached s) (op : SchedulerOp) : Reached (op.run s) := by
  obtain ⟨ops, rfl⟩ := h
  exact ⟨ops ++ [op], run_append ops [op] ▸ rfl⟩

end EeThreadScheduler

/-- The context that a hook call publishes. -/
def BoundaryEvent.publication : BoundaryEvent → Option (Option Int)
  | .published selectedThreadId => some selectedThreadId
  | _ => none

namespace Boundary

open EeThreadScheduler (Reached)

variable {η α : Type} {scheduler : Bool} {hooks : EeSchedulerExecutorHooks η}
  {w w' : BoundaryWorld η}

/-! ## Hooks -/

/-- A nested boundary that is rejected. -/
def rejects : Nested η := fun _ => rejectReentrant

/-- What a hook leaves of the world. -/
structure Undisturbed (scheduler : Bool) (w w' : BoundaryWorld η) : Prop where
  events : w'.events = w.events
  scheduler : scheduler = false → w'.scheduler = w.scheduler
  reached : Reached w.scheduler → Reached w'.scheduler

theorem Undisturbed.refl : Undisturbed scheduler w w := ⟨rfl, fun _ => rfl, id⟩

theorem Undisturbed.trans {w₁ : BoundaryWorld η} (h : Undisturbed scheduler w w₁)
    (h' : Undisturbed scheduler w₁ w') : Undisturbed scheduler w w' where
  events := h'.events.trans h.events
  scheduler hno := (h'.scheduler hno).trans (h.scheduler hno)
  reached hw := h'.reached (h.reached hw)

theorem runHook_spec {program : HookProgram scheduler α} {a : α}
    (h : runHook rejects program w = .ok a w') : Undisturbed scheduler w w' := by
  induction program generalizing w with
  | ret b =>
    obtain ⟨-, rfl⟩ := pure_eq_ok.1 h
    exact .refl
  | raise what => exact absurd h throw_ne_ok
  | schedule allowed op next ih =>
    have hnext : runHook rejects (next (op.run w.scheduler))
        { w with scheduler := op.run w.scheduler } = .ok a w' := h
    have hop : Undisturbed scheduler w { w with scheduler := op.run w.scheduler } := by
      refine ⟨rfl, fun hno => ?_, fun hw => hw.run op⟩
      rw [allowed] at hno
      cases hno
    exact hop.trans (ih _ hnext)
  | control op next ih =>
    have hnext : runHook rejects (next (w.executor.run op))
        { w with executor := w.executor.run op } = .ok a w' := h
    have hop : Undisturbed scheduler w { w with executor := w.executor.run op } :=
      ⟨rfl, fun _ => rfl, id⟩
    exact hop.trans (ih _ hnext)
  | processBoundary input next ih =>
    obtain ⟨result, w₁, hreject⟩ : ∃ result w₁, rejects input w = .ok result w₁ := ⟨_, _, rfl⟩
    have hop : Undisturbed scheduler w w₁ := by
      cases hreject
      exact ⟨rfl, fun _ => rfl, id⟩
    have hnext : runHook rejects (next (.ok result)) w₁ = .ok a w' := by
      cases hreject
      exact h
    exact hop.trans (ih _ hnext)

/-- A hook without scheduler operations. -/
theorem runHook_quiet {program : HookProgram false α} {a : α}
    (h : runHook rejects program w = .ok a w') :
    w'.events = w.events ∧ w'.scheduler = w.scheduler :=
  ⟨(runHook_spec h).events, (runHook_spec h).scheduler rfl⟩

theorem record_runHook_spec {event : BoundaryEvent} {program : η → HookProgram false η}
    (h : (do
      record event
      let memory ← runHook rejects (program (← get).hooks)
      remember memory : BoundaryM η Unit) w = .ok () w') :
    w'.events = w.events ++ [event] ∧ w'.scheduler = w.scheduler := by
  obtain ⟨_, w₁, hrecord, hrest⟩ := bind_eq_ok.1 h
  obtain ⟨_, w₂, hget, hrest⟩ := bind_eq_ok.1 hrest
  obtain ⟨memory, w₃, hrun, hend⟩ := bind_eq_ok.1 hrest
  obtain ⟨rfl, rfl⟩ := get_eq_ok.1 hget
  obtain ⟨hevents, hscheduler⟩ := runHook_quiet hrun
  cases hrecord
  cases hend
  exact ⟨hevents, hscheduler⟩

theorem commitPriorContext_spec {input : EeSchedulerBoundaryInput} {tick : EeTick}
    (h : commitPriorContext rejects hooks input tick w = .ok () w') :
    w'.events = w.events ++ [.committed input.priorThreadId input.elapsed] ∧
      w'.scheduler = w.scheduler :=
  record_runHook_spec h

theorem publishSelectedContext_spec {selected : Option Int} {tick : EeTick}
    (h : publishSelectedContext rejects hooks selected tick w = .ok () w') :
    w'.events = w.events ++ [.published selected] ∧ w'.scheduler = w.scheduler :=
  record_runHook_spec h

theorem hasImmediateConsequence_spec {stage : EeSchedulerConsequenceStage} {tick : EeTick}
    {answer : Bool} (h : hasImmediateConsequence rejects hooks stage tick w = .ok answer w') :
    w'.events = w.events ++ [.polled stage answer] ∧ w'.scheduler = w.scheduler := by
  obtain ⟨_, w₁, hget, hrest⟩ := bind_eq_ok.1 h
  obtain ⟨⟨answer', memory⟩, w₂, hrun, hend⟩ := bind_eq_ok.1 hrest
  obtain ⟨rfl, rfl⟩ := get_eq_ok.1 hget
  obtain ⟨hevents, hscheduler⟩ := runHook_quiet hrun
  cases hend
  exact ⟨congrArg (· ++ [_]) hevents, hscheduler⟩

theorem applyNextConsequence_spec {stage : EeSchedulerConsequenceStage} {tick : EeTick}
    {policy : EeSchedulerReschedulePolicy}
    (h : applyNextConsequence rejects hooks stage tick w = .ok policy w') :
    w'.events = w.events ++ [.applied stage] ∧ (Reached w.scheduler → Reached w'.scheduler) := by
  obtain ⟨_, w₁, hrecord, hrest⟩ := bind_eq_ok.1 h
  obtain ⟨_, w₂, hget, hrest⟩ := bind_eq_ok.1 hrest
  obtain ⟨⟨policy', memory⟩, w₃, hrun, hend⟩ := bind_eq_ok.1 hrest
  obtain ⟨rfl, rfl⟩ := get_eq_ok.1 hget
  have hundisturbed := runHook_spec hrun
  cases hrecord
  cases hend
  exact ⟨hundisturbed.events, hundisturbed.reached⟩

/-! ## Polling -/

/-- Every stage has none. -/
def noConsequence (stages : List EeSchedulerConsequenceStage) : List BoundaryEvent :=
  stages.map (.polled · false)

/-- The stages before this one have none, and it has one. -/
def consequenceAt (stage : EeSchedulerConsequenceStage)
    (stages : List EeSchedulerConsequenceStage) : List BoundaryEvent :=
  noConsequence (stages.takeWhile (· ≠ stage)) ++ [.polled stage true]

/-- What polling the stages in turn asks, and answers. -/
def polls (stages : List EeSchedulerConsequenceStage) :
    Option EeSchedulerConsequenceStage → List BoundaryEvent
  | none => noConsequence stages
  | some stage => consequenceAt stage stages

theorem nextStageOf_spec {tick : EeTick} {stages : List EeSchedulerConsequenceStage}
    {found : Option EeSchedulerConsequenceStage} (hnodup : stages.Nodup)
    (h : nextStageOf rejects hooks tick stages w = .ok found w') :
    (∀ stage ∈ found, stage ∈ stages) ∧ w'.events = w.events ++ polls stages found ∧
      w'.scheduler = w.scheduler := by
  induction stages generalizing w with
  | nil =>
    obtain ⟨rfl, rfl⟩ := pure_eq_ok.1 h
    exact ⟨by rintro _ ⟨⟩, (List.append_nil _).symm, rfl⟩
  | cons stage rest ih =>
    obtain ⟨answer, w₁, hpoll, h⟩ := bind_eq_ok.1 h
    obtain ⟨hevents, hscheduler⟩ := hasImmediateConsequence_spec hpoll
    cases answer with
    | true =>
      obtain ⟨rfl, rfl⟩ := pure_eq_ok.1 h
      refine ⟨fun _ hmem => by cases hmem; exact List.mem_cons_self, ?_, hscheduler⟩
      rw [hevents, polls, consequenceAt, List.takeWhile_cons_of_neg (by simp)]
      rfl
    | false =>
      obtain ⟨hnew, hnodup⟩ := List.nodup_cons.1 hnodup
      obtain ⟨hmem, hrest, hscheduler'⟩ := ih hnodup h
      refine ⟨fun s hs => List.mem_cons_of_mem _ (hmem s hs), ?_, hscheduler'.trans hscheduler⟩
      rw [hrest, hevents, List.append_assoc]
      congr 1
      cases found with
      | none => rfl
      | some s =>
        have hne : stage ≠ s := fun heq => hnew (heq ▸ hmem s rfl)
        rw [polls, polls, consequenceAt, consequenceAt,
          List.takeWhile_cons_of_pos (by simpa using hne)]
        rfl

theorem nextImmediateStage_spec {tick : EeTick} {found : Option EeSchedulerConsequenceStage}
    (h : nextImmediateStage rejects hooks tick w = .ok found w') :
    w'.events = w.events ++ polls EeSchedulerConsequenceStage.all found ∧ w'.scheduler = w.scheduler :=
  (nextStageOf_spec (by decide) h).2

/-! ## The context that was published last -/

def lastPublished (events : List BoundaryEvent) : Option (Option Int) :=
  (events.filterMap BoundaryEvent.publication).getLast?

theorem lastPublished_published (events : List BoundaryEvent) (selected : Option Int) :
    lastPublished (events ++ [.published selected]) = some selected := by
  unfold lastPublished
  rw [List.filterMap_append]
  exact List.getLast?_append

theorem lastPublished_append {events more : List BoundaryEvent}
    (h : ∀ event ∈ more, event.publication = none) :
    lastPublished (events ++ more) = lastPublished events := by
  unfold lastPublished
  rw [List.filterMap_append, List.filterMap_eq_nil_iff.2 h, List.append_nil]

theorem publication_polls (stages : List EeSchedulerConsequenceStage)
    (found : Option EeSchedulerConsequenceStage) :
    ∀ event ∈ polls stages found, event.publication = none := by
  have hnone : ∀ stages, ∀ event ∈ noConsequence stages, event.publication = none := by
    intro stages event hmem
    obtain ⟨stage, -, rfl⟩ := List.mem_map.1 hmem
    rfl
  intro event hmem
  cases found with
  | none => exact hnone _ event hmem
  | some stage =>
    rcases List.mem_append.1 hmem with hmem | hmem
    · exact hnone _ event hmem
    · rw [List.mem_singleton.1 hmem]
      rfl

/-- The selected thread is the one that was published last. -/
structure Current (result : EeSchedulerBoundaryResult) (w : BoundaryWorld η) : Prop where
  reached : Reached w.scheduler
  published : lastPublished w.events = some w.scheduler.currentThreadId
  selected : result.selectedThreadId = w.scheduler.currentThreadId

/-- Hooks that publish nothing and leave the scheduler alone. -/
theorem Current.silent {result : EeSchedulerBoundaryResult} (h : Current result w)
    {more : List BoundaryEvent} (hevents : w'.events = w.events ++ more)
    (hmore : ∀ event ∈ more, event.publication = none) (hscheduler : w'.scheduler = w.scheduler) :
    Current result w' where
  reached := hscheduler ▸ h.reached
  published := by
    rw [hevents, lastPublished_append hmore, hscheduler]
    exact h.published
  selected := by
    rw [hscheduler]
    exact h.selected

/-! ## One consequence after the other -/

/-- One consequence: the stage, and what was published if the selection changed. -/
structure Round where
  stage : EeSchedulerConsequenceStage
  published : Option (Option Int)
  deriving DecidableEq, Repr

/-- The stages are polled up to the first that has a consequence, and that is the one applied. -/
def Round.events (round : Round) : List BoundaryEvent :=
  consequenceAt round.stage EeSchedulerConsequenceStage.all ++
    .applied round.stage :: round.published.toList.map .published

theorem modifyScheduler_eq_ok {f : EeThreadScheduler → α × EeThreadScheduler} {a : α}
    (h : modifyScheduler f w = .ok a w') :
    a = (f w.scheduler).1 ∧ w' = { w with scheduler := (f w.scheduler).2 } := by
  cases h
  exact ⟨rfl, rfl⟩

theorem serveConsequence_spec {stage : EeSchedulerConsequenceStage}
    {result result' : EeSchedulerBoundaryResult} (hcurrent : Current result w)
    (h : serveConsequence rejects hooks stage result w = .ok result' w') :
    ∃ published : Option (Option Int),
      w'.events = w.events ++ .applied stage :: published.toList.map .published ∧
      result'.consequencesProcessed = result.consequencesProcessed + 1 ∧ Current result' w' := by
  obtain ⟨_, w₁, hget, hrest⟩ := bind_eq_ok.1 h
  obtain ⟨policy, w₂, happly, hrest⟩ := bind_eq_ok.1 hrest
  obtain ⟨selected, w₃, hreschedule, hend⟩ := bind_eq_ok.1 hrest
  obtain ⟨rfl, rfl⟩ := get_eq_ok.1 hget
  obtain ⟨hevents, hreached⟩ := applyNextConsequence_spec happly
  obtain ⟨hselected, hw₃⟩ := modifyScheduler_eq_ok hreschedule
  have hreached₂ : Reached w₂.scheduler := hreached hcurrent.reached
  have hreached₃ : Reached w₃.scheduler := by
    rw [hw₃]
    exact hreached₂.run (.reschedule policy)
  have hselected₃ : selected = w₃.scheduler.currentThreadId := by
    rw [hselected, hw₃]
    exact hreached₂.located.reschedule_selected policy
  have hevents₃ : w₃.events = w.events ++ [.applied stage] := by
    rw [hw₃]
    exact hevents
  dsimp only at hend
  split at hend
  · -- the selection has changed
    obtain ⟨_, w₄, hpublish, hend⟩ := bind_eq_ok.1 hend
    obtain ⟨rfl, rfl⟩ := pure_eq_ok.1 hend
    obtain ⟨hevents₄, hscheduler₄⟩ := publishSelectedContext_spec hpublish
    refine ⟨some selected, ?_, rfl, ?_⟩
    · rw [hevents₄, hevents₃, List.append_assoc]
      rfl
    · refine ⟨hscheduler₄ ▸ hreached₃, ?_, ?_⟩
      · rw [hevents₄, lastPublished_published, hscheduler₄, hselected₃]
      · rw [hscheduler₄]
        exact hselected₃
  · rename_i hsame
    obtain ⟨rfl, rfl⟩ := pure_eq_ok.1 hend
    refine ⟨none, hevents₃, rfl, hreached₃, ?_, hselected₃⟩
    rw [hevents₃, lastPublished_append (by simp [BoundaryEvent.publication]), hcurrent.published,
      ← hselected₃, not_not.1 hsame]

/-- The loop: every round is one consequence, and the last poll found none, unless as many rounds
were served as may be. -/
theorem serveConsequences_spec {remaining : ℕ} {result result' : EeSchedulerBoundaryResult}
    (hcurrent : Current result w)
    (h : serveConsequences rejects hooks remaining result w = .ok result' w') :
    ∃ rounds : List Round, rounds.length ≤ remaining ∧
      w'.events = w.events ++ rounds.flatMap Round.events ++
        (if rounds.length = remaining then []
          else noConsequence EeSchedulerConsequenceStage.all) ∧
      result'.consequencesProcessed = result.consequencesProcessed + rounds.length ∧
      Current result' w' := by
  induction remaining generalizing result w with
  | zero =>
    obtain ⟨rfl, rfl⟩ := pure_eq_ok.1 h
    exact ⟨[], le_rfl, by simp, rfl, hcurrent⟩
  | succ remaining ih =>
    obtain ⟨found, w₁, hpoll, hrest⟩ := bind_eq_ok.1 h
    obtain ⟨hevents₁, hscheduler₁⟩ := nextImmediateStage_spec hpoll
    have hcurrent₁ : Current result w₁ :=
      hcurrent.silent hevents₁ (publication_polls _ _) hscheduler₁
    cases found with
    | none =>
      obtain ⟨rfl, rfl⟩ := pure_eq_ok.1 hrest
      exact ⟨[], Nat.zero_le _, by rw [hevents₁]; simp [polls], rfl, hcurrent₁⟩
    | some stage =>
      obtain ⟨result₂, w₂, hserve, hloop⟩ := bind_eq_ok.1 hrest
      obtain ⟨published, hevents₂, hcount₂, hcurrent₂⟩ := serveConsequence_spec hcurrent₁ hserve
      obtain ⟨rounds, hlength, hevents, hcount, hcurrent'⟩ := ih hcurrent₂ hloop
      refine ⟨⟨stage, published⟩ :: rounds, Nat.succ_le_succ hlength, ?_, ?_, hcurrent'⟩
      · rw [hevents, hevents₂, hevents₁]
        simp [Round.events, polls]
      · rw [hcount, hcount₂, List.length_cons]
        omega

/-! ## Before the first consequence -/

theorem applyTransitionKind_spec {transition : EeSchedulerOwnerLocalTransition}
    (hreached : Reached w.scheduler) (h : applyTransitionKind transition w = .ok () w') :
    w'.events = w.events ∧ Reached w'.scheduler := by
  unfold applyTransitionKind at h
  cases hkind : transition.kind with
  | None =>
    rw [hkind] at h
    exact absurd h throw_ne_ok
  | RotateReadyQueue =>
    rw [hkind] at h
    obtain ⟨_, w₁, hget, h⟩ := bind_eq_ok.1 h
    obtain ⟨rfl, rfl⟩ := get_eq_ok.1 hget
    cases horigin : w.scheduler.thread transition.originatingThread.id with
    | none =>
      rw [horigin] at h
      exact absurd h throw_ne_ok
    | some origin =>
      simp only [horigin] at h
      split at h
      · exact absurd h throw_ne_ok
      split at h
      · obtain ⟨rotated, w₂, hrotate, h⟩ := bind_eq_ok.1 h
        obtain ⟨-, rfl⟩ := modifyScheduler_eq_ok hrotate
        split at h
        · exact absurd h throw_ne_ok
        · obtain ⟨-, rfl⟩ := pure_eq_ok.1 h
          exact ⟨rfl, hreached.run (.rotateReadyQueue transition.priority)⟩
      · obtain ⟨-, rfl⟩ := pure_eq_ok.1 h
        exact ⟨rfl, hreached⟩

/-- `reschedule`, as a boundary calls it. -/
theorem reschedule_spec {policy : EeSchedulerReschedulePolicy} {selected : Option Int}
    (hreached : Reached w.scheduler)
    (h : modifyScheduler (·.reschedule policy) w = .ok selected w') :
    w'.events = w.events ∧ Reached w'.scheduler ∧ selected = w'.scheduler.currentThreadId := by
  obtain ⟨rfl, rfl⟩ := modifyScheduler_eq_ok h
  exact ⟨rfl, hreached.run (.reschedule policy), hreached.located.reschedule_selected policy⟩

theorem applyOwnerLocalTransition_spec {transition : EeSchedulerOwnerLocalTransition}
    {selected : Option Int} (hreached : Reached w.scheduler)
    (h : applyOwnerLocalTransition transition w = .ok selected w') :
    w'.events = w.events ∧ Reached w'.scheduler ∧ selected = w'.scheduler.currentThreadId := by
  obtain ⟨_, w₁, hkind, h⟩ := bind_eq_ok.1 h
  obtain ⟨selected', w₂, hreschedule, h⟩ := bind_eq_ok.1 h
  obtain ⟨hevents₁, hreached₁⟩ := applyTransitionKind_spec hreached hkind
  obtain ⟨hevents₂, hreached₂, hselected⟩ := reschedule_spec hreached₁ hreschedule
  split at h
  · exact absurd h throw_ne_ok
  · obtain ⟨rfl, rfl⟩ := pure_eq_ok.1 h
    exact ⟨hevents₂.trans hevents₁, hreached₂, hselected⟩

/-- The selection is published right after it is made. -/
theorem Current.publish {result : EeSchedulerBoundaryResult} {tick : EeTick}
    {selected : Option Int} (hreached : Reached w.scheduler)
    (hselected : selected = w.scheduler.currentThreadId)
    (hresult : result.selectedThreadId = selected)
    (h : publishSelectedContext rejects hooks selected tick w = .ok () w') :
    Current result w' := by
  obtain ⟨hevents, hscheduler⟩ := publishSelectedContext_spec h
  refine ⟨hscheduler ▸ hreached, ?_, ?_⟩
  · rw [hevents, lastPublished_published, hscheduler, hselected]
  · rw [hresult, hscheduler, hselected]

/-- What was done before the first consequence, and the selection that was published. -/
theorem selectContext_spec {input : EeSchedulerBoundaryInput} {result : EeSchedulerBoundaryResult}
    (hreached : Reached w.scheduler) (h : selectContext rejects hooks input w = .ok result w') :
    ∃ selected,
      w'.events = w.events ++ [.committed input.priorThreadId input.elapsed, .published selected] ∧
      result.consequencesProcessed = 0 ∧ Current result w' := by
  obtain ⟨_, w₁, hget, h⟩ := bind_eq_ok.1 h
  obtain ⟨rfl, rfl⟩ := get_eq_ok.1 hget
  cases hvalid : validateOwnerLocalTransition w.scheduler input with
  | error what =>
    rw [hvalid] at h
    exact absurd h throw_ne_ok
  | ok _ =>
    rw [hvalid] at h
    obtain ⟨_, w₂, hnow, hrest⟩ := bind_eq_ok.1 h
    cases hnow
    obtain ⟨_, w₃, hget, hrest⟩ := bind_eq_ok.1 hrest
    obtain ⟨rfl, rfl⟩ := get_eq_ok.1 hget
    obtain ⟨_, w₄, htick, hrest⟩ := bind_eq_ok.1 hrest
    obtain ⟨-, rfl⟩ := modifyScheduler_eq_ok htick
    obtain ⟨_, w₅, hcommit, hend⟩ := bind_eq_ok.1 hrest
    obtain ⟨hevents₅, hscheduler₅⟩ := commitPriorContext_spec hcommit
    have hreached₅ : Reached w₅.scheduler := by
      rw [hscheduler₅]
      exact hreached.run (.publishCanonicalTick _)
    split at hend
    · obtain ⟨selected, w₆, hselect, hend⟩ := bind_eq_ok.1 hend
      obtain ⟨_, w₇, hpublish, hend⟩ := bind_eq_ok.1 hend
      obtain ⟨rfl, rfl⟩ := pure_eq_ok.1 hend
      obtain ⟨hevents₆, hreached₆, hselected⟩ := applyOwnerLocalTransition_spec hreached₅ hselect
      refine ⟨selected, ?_, rfl, .publish hreached₆ hselected rfl hpublish⟩
      rw [(publishSelectedContext_spec hpublish).1, hevents₆, hevents₅, List.append_assoc]
      rfl
    · obtain ⟨selected, w₆, hselect, hend⟩ := bind_eq_ok.1 hend
      obtain ⟨_, w₇, hpublish, hend⟩ := bind_eq_ok.1 hend
      obtain ⟨rfl, rfl⟩ := pure_eq_ok.1 hend
      obtain ⟨hevents₆, hreached₆, hselected⟩ := reschedule_spec hreached₅ hselect
      refine ⟨selected, ?_, rfl, .publish hreached₆ hselected rfl hpublish⟩
      rw [(publishSelectedContext_spec hpublish).1, hevents₆, hevents₅, List.append_assoc]
      rfl

/-- What a boundary did, from its first hook to its last. -/
structure Trace (input : EeSchedulerBoundaryInput) (result : EeSchedulerBoundaryResult)
    (events : List BoundaryEvent) : Prop where
  rounds : ∃ (selected : Option Int) (rounds : List Round),
    events = .committed input.priorThreadId input.elapsed :: .published selected ::
      rounds.flatMap Round.events ++ polls EeSchedulerConsequenceStage.all result.offendingStage ∧
    rounds.length = result.consequencesProcessed
  bounded : result.consequencesProcessed ≤ kMaximumConsequencesPerBoundary
  exceeded : result.limitExceeded = true ↔
    result.consequencesProcessed = kMaximumConsequencesPerBoundary ∧
      result.offendingStage.isSome

theorem runBoundary_spec {diagnostics : Bool} {input : EeSchedulerBoundaryInput}
    {result : EeSchedulerBoundaryResult} (hreached : Reached w.scheduler)
    (h : runBoundary rejects hooks diagnostics input w = .ok result w') :
    ∃ events, w'.events = w.events ++ events ∧ Trace input result events ∧ Current result w' := by
  obtain ⟨result₁, w₁, hselect, hrest⟩ := bind_eq_ok.1 h
  obtain ⟨result₂, w₂, hserve, hrest⟩ := bind_eq_ok.1 hrest
  obtain ⟨found, w₃, hpoll, hrest⟩ := bind_eq_ok.1 hrest
  obtain ⟨disposition, w₄, hdebug, hend⟩ := bind_eq_ok.1 hrest
  cases hdebug
  obtain ⟨rfl, rfl⟩ := pure_eq_ok.1 hend
  obtain ⟨selected, hevents₁, hcount₁, hcurrent₁⟩ := selectContext_spec hreached hselect
  obtain ⟨rounds, hlength, hevents₂, hcount₂, hcurrent₂⟩ :=
    serveConsequences_spec hcurrent₁ hserve
  rw [hcount₁, Nat.zero_add] at hcount₂
  have hlast : w₃.events = w.events ++ (.committed input.priorThreadId input.elapsed ::
        .published selected :: rounds.flatMap Round.events ++
          polls EeSchedulerConsequenceStage.all found) ∧
      (found.isSome → rounds.length = kMaximumConsequencesPerBoundary) ∧
      Current result₂ w₃ := by
    unfold offendingStage at hpoll
    split at hpoll
    · rename_i hmax
      rw [hcount₂] at hmax
      rw [if_pos hmax, List.append_nil] at hevents₂
      obtain ⟨hevents₃, hscheduler₃⟩ := nextImmediateStage_spec hpoll
      refine ⟨?_, fun _ => hmax, hcurrent₂.silent hevents₃ (publication_polls _ _) hscheduler₃⟩
      rw [hevents₃, hevents₂, hevents₁]
      simp
    · rename_i hless
      rw [hcount₂] at hless
      rw [if_neg hless] at hevents₂
      obtain ⟨rfl, rfl⟩ := pure_eq_ok.1 hpoll
      refine ⟨?_, fun hsome => absurd hsome (by decide), hcurrent₂⟩
      rw [hevents₂, hevents₁]
      simp [polls]
  obtain ⟨hevents₃, hmax, hcurrent₃⟩ := hlast
  refine ⟨_, hevents₃, ⟨⟨selected, rounds, rfl, hcount₂.symm⟩, hcount₂ ▸ hlength, ?_⟩, ?_⟩
  · exact ⟨fun hsome => ⟨hcount₂.trans (hmax hsome), hsome⟩, And.right⟩
  · exact ⟨hcurrent₃.reached, hcurrent₃.published, hcurrent₃.selected⟩

/-! ## Nested boundaries -/

/-- A boundary of this host thread is under way. -/
structure Busy (current : HostThreadId) (w : BoundaryWorld η) : Prop where
  processing : w.executor.processingBoundary = true
  owner : w.executor.ownerThreadId = some current

variable {diagnostics : Bool} {current : HostThreadId} {depth : ℕ}

theorem Busy.run (h : Busy current w) (op : EeSchedulerExecutorOp) :
    Busy current { w with executor := w.executor.run op } := by
  obtain ⟨hprocessing, howner⟩ := h
  cases op with
  | debugRequestPause => exact ⟨hprocessing, howner⟩
  | debugResume => exact ⟨hprocessing, howner⟩
  | debugRequestStop => exact ⟨hprocessing, howner⟩
  | debugStepBoundaries count =>
    simp only [EeSchedulerExecutor.run, EeSchedulerExecutor.debugStepBoundaries]
    split
    · exact ⟨hprocessing, howner⟩
    · exact ⟨hprocessing, howner⟩
  | reset =>
    simp only [EeSchedulerExecutor.run, EeSchedulerExecutor.reset, hprocessing, if_true]
    exact ⟨hprocessing, howner⟩

theorem Busy.requireOwner (h : Busy current w) :
    (requireOwner current : BoundaryM η Unit) w = .ok () w := by
  unfold Boundary.requireOwner
  rw [get_bind, h.owner]
  simp only [ne_eq, not_true_eq_false, if_false]
  rfl

/-- **A boundary entered while one is under way is rejected.** -/
theorem processBoundary_busy (h : Busy current w) (input : EeSchedulerBoundaryInput) :
    processBoundary hooks diagnostics current (depth + 1) input w = rejects input w := by
  unfold processBoundary processBoundaryWith
  rw [bind_of_ok h.requireOwner, get_bind, h.processing]
  rfl

theorem agree_runHook (program : HookProgram scheduler α) :
    AgreeOn (Busy current)
      (runHook (processBoundary hooks diagnostics current (depth + 1)) program)
      (runHook rejects program) := by
  induction program with
  | ret a => exact .pure a
  | raise what => exact .throw what
  | schedule allowed op next ih =>
    intro w hw
    exact ih _ { w with scheduler := op.run w.scheduler } ⟨hw.processing, hw.owner⟩
  | control op next ih =>
    intro w hw
    exact ih _ { w with executor := w.executor.run op } (hw.run op)
  | processBoundary input next ih =>
    intro w hw
    obtain ⟨result, w₁, hreject, hw₁⟩ :
        ∃ result w₁, rejects input w = .ok result w₁ ∧ Busy current w₁ :=
      ⟨_, _, rfl, hw.processing, hw.owner⟩
    unfold runHook
    rw [processBoundary_busy hw, hreject]
    exact ih (.ok result) w₁ hw₁

/-! The same for all that runs in the `try`. -/

theorem agree_modifyScheduler (f : EeThreadScheduler → α × EeThreadScheduler) :
    AgreeOn (Busy current) (modifyScheduler f : BoundaryM η α) (modifyScheduler f) :=
  .refl fun _ hw => ⟨hw.processing, hw.owner⟩

theorem agree_modifyExecutor {f : EeSchedulerExecutor → EeSchedulerExecutor}
    (hf : ∀ e, (f e).processingBoundary = e.processingBoundary ∧
      (f e).ownerThreadId = e.ownerThreadId) :
    AgreeOn (Busy current) (modifyExecutor f : BoundaryM η Unit) (modifyExecutor f) :=
  .refl fun w hw => ⟨(hf w.executor).1.trans hw.processing, (hf w.executor).2.trans hw.owner⟩

theorem agree_record (event : BoundaryEvent) :
    AgreeOn (Busy current) (record event : BoundaryM η Unit) (record event) :=
  .refl fun _ hw => ⟨hw.processing, hw.owner⟩

theorem agree_remember (memory : η) :
    AgreeOn (Busy current) (remember memory) (remember memory) :=
  .refl fun _ hw => ⟨hw.processing, hw.owner⟩

theorem agree_commitPriorContext (input : EeSchedulerBoundaryInput) (tick : EeTick) :
    AgreeOn (Busy current)
      (commitPriorContext (processBoundary hooks diagnostics current (depth + 1)) hooks input tick)
      (commitPriorContext rejects hooks input tick) :=
  (agree_record _).bind fun _ => AgreeOn.get.bind fun _ => (agree_runHook _).bind agree_remember

theorem agree_publishSelectedContext (selected : Option Int) (tick : EeTick) :
    AgreeOn (Busy current)
      (publishSelectedContext (processBoundary hooks diagnostics current (depth + 1)) hooks
        selected tick)
      (publishSelectedContext rejects hooks selected tick) :=
  (agree_record _).bind fun _ => AgreeOn.get.bind fun _ => (agree_runHook _).bind agree_remember

theorem agree_nextStageOf (tick : EeTick) (stages : List EeSchedulerConsequenceStage) :
    AgreeOn (Busy current)
      (nextStageOf (processBoundary hooks diagnostics current (depth + 1)) hooks tick stages)
      (nextStageOf rejects hooks tick stages) := by
  induction stages with
  | nil => exact .pure none
  | cons stage rest ih =>
    have hpoll : AgreeOn (Busy current)
        (hasImmediateConsequence (processBoundary hooks diagnostics current (depth + 1)) hooks
          stage tick)
        (hasImmediateConsequence rejects hooks stage tick) := by
      refine AgreeOn.get.bind fun _ => (agree_runHook _).bind fun _ => ?_
      exact (agree_remember _).bind fun _ => (agree_record _).bind fun _ => .pure _
    exact hpoll.bind fun answer => .ite (.pure _) ih

theorem agree_serveConsequence (stage : EeSchedulerConsequenceStage)
    (result : EeSchedulerBoundaryResult) :
    AgreeOn (Busy current)
      (serveConsequence (processBoundary hooks diagnostics current (depth + 1)) hooks stage result)
      (serveConsequence rejects hooks stage result) := by
  have happly : AgreeOn (Busy current)
      (applyNextConsequence (processBoundary hooks diagnostics current (depth + 1)) hooks
        stage result.tick)
      (applyNextConsequence rejects hooks stage result.tick) := by
    refine (agree_record _).bind fun _ => AgreeOn.get.bind fun _ => ?_
    exact (agree_runHook _).bind fun _ => (agree_remember _).bind fun _ => .pure _
  refine AgreeOn.get.bind fun _ => happly.bind fun _ => (agree_modifyScheduler _).bind fun _ => ?_
  exact .ite ((agree_publishSelectedContext _ _).bind fun _ => .pure _) (.pure _)

theorem agree_serveConsequences (remaining : ℕ) (result : EeSchedulerBoundaryResult) :
    AgreeOn (Busy current)
      (serveConsequences (processBoundary hooks diagnostics current (depth + 1)) hooks remaining
        result)
      (serveConsequences rejects hooks remaining result) := by
  induction remaining generalizing result with
  | zero => exact .pure result
  | succ remaining ih =>
    refine (agree_nextStageOf result.tick _).bind fun found => ?_
    cases found with
    | none => exact .pure result
    | some stage => exact (agree_serveConsequence stage result).bind ih

theorem agree_applyOwnerLocalTransition (transition : EeSchedulerOwnerLocalTransition) :
    AgreeOn (Busy current) (applyOwnerLocalTransition transition : BoundaryM η (Option Int))
      (applyOwnerLocalTransition transition) := by
  have hkind : AgreeOn (Busy current) (applyTransitionKind transition : BoundaryM η Unit)
      (applyTransitionKind transition) := by
    unfold applyTransitionKind
    cases transition.kind with
    | None => exact .throw _
    | RotateReadyQueue =>
      refine AgreeOn.get.bind fun w => ?_
      cases w.scheduler.thread transition.originatingThread.id with
      | none => exact .throw _
      | some origin =>
        refine .ite (.throw _) (.ite ?_ (.pure ()))
        exact (agree_modifyScheduler _).bind fun rotated => .ite (.throw _) (.pure ())
  unfold applyOwnerLocalTransition
  exact hkind.bind fun _ => (agree_modifyScheduler _).bind fun _ => .ite (.throw _) (.pure _)

theorem agree_selectContext (input : EeSchedulerBoundaryInput) :
    AgreeOn (Busy current)
      (selectContext (processBoundary hooks diagnostics current (depth + 1)) hooks input)
      (selectContext rejects hooks input) := by
  unfold selectContext
  refine AgreeOn.get.bind fun w => ?_
  cases validateOwnerLocalTransition w.scheduler input with
  | error what => exact .throw what
  | ok _ =>
    refine (agree_modifyExecutor ?_).bind fun _ => AgreeOn.get.bind fun _ => ?_
    · exact fun _ => ⟨rfl, rfl⟩
    refine (agree_modifyScheduler _).bind fun _ => (agree_commitPriorContext _ _).bind fun _ => ?_
    refine .ite ?_ ?_
    · refine (agree_applyOwnerLocalTransition _).bind fun _ => ?_
      exact (agree_publishSelectedContext _ _).bind fun _ => .pure _
    · refine (agree_modifyScheduler _).bind fun _ => ?_
      exact (agree_publishSelectedContext _ _).bind fun _ => .pure _

theorem applyDebugControl_keeps (diagnostics : Bool) (e : EeSchedulerExecutor) :
    (applyDebugControl diagnostics e).2.processingBoundary = e.processingBoundary ∧
      (applyDebugControl diagnostics e).2.ownerThreadId = e.ownerThreadId := by
  unfold applyDebugControl
  dsimp only
  split_ifs
  all_goals exact ⟨rfl, rfl⟩

theorem agree_runBoundary (input : EeSchedulerBoundaryInput) :
    AgreeOn (Busy current)
      (runBoundary (processBoundary hooks diagnostics current (depth + 1)) hooks diagnostics input)
      (runBoundary rejects hooks diagnostics input) := by
  unfold runBoundary
  refine (agree_selectContext input).bind fun _ => (agree_serveConsequences _ _).bind fun _ => ?_
  have hlast (result : EeSchedulerBoundaryResult) : AgreeOn (Busy current)
      (offendingStage (processBoundary hooks diagnostics current (depth + 1)) hooks result)
      (offendingStage rejects hooks result) := .ite (agree_nextStageOf _ _) (.pure none)
  refine (hlast _).bind fun _ => ?_
  refine .bind (.refl fun w hw => ?_) fun _ => .pure _
  obtain ⟨hprocessing, howner⟩ := applyDebugControl_keeps diagnostics w.executor
  exact ⟨hprocessing.trans hw.processing, howner.trans hw.owner⟩

theorem requireOwner_spec (h : requireOwner current w = .ok () w') :
    w' = { w with executor := { w.executor with ownerThreadId := some current } } := by
  unfold requireOwner at h
  rw [get_bind] at h
  obtain ⟨executor, scheduler, memory, events⟩ := w
  obtain ⟨now, statistics, processing, pause, stop, steps, owner⟩ := executor
  cases owner with
  | none =>
    cases h
    rfl
  | some owner =>
    simp only at h
    split at h
    · exact absurd h throw_ne_ok
    · rename_i hsame
      obtain ⟨-, rfl⟩ := pure_eq_ok.1 h
      rw [not_not.1 hsame]

/-- **Every boundary that a hook enters is rejected.** -/
theorem processBoundary_eq (input : EeSchedulerBoundaryInput) :
    processBoundary hooks diagnostics current (depth + 2) input w =
      processBoundaryWith rejects hooks diagnostics current input w := by
  change processBoundaryWith (processBoundary hooks diagnostics current (depth + 1)) hooks
    diagnostics current input w = _
  unfold processBoundaryWith
  refine bind_congr_ok fun _ w₁ howner => ?_
  rw [get_bind, get_bind]
  split
  · rfl
  · refine bind_congr_ok fun _ w₂ hset => bind_congr_left ?_
    have hbusy : Busy current w₂ := by
      cases hset
      exact ⟨rfl, requireOwner_spec howner ▸ rfl⟩
    exact (agree_runBoundary input).tryCatch hbusy

/-- A boundary that no other one is under way for. -/
theorem processBoundaryWith_spec {input : EeSchedulerBoundaryInput}
    {result : EeSchedulerBoundaryResult} (hreached : Reached w.scheduler)
    (hidle : w.executor.processingBoundary = false)
    (h : processBoundaryWith rejects hooks diagnostics current input w = .ok result w') :
    ∃ events, w'.events = w.events ++ events ∧ Trace input result events ∧ Current result w' := by
  obtain ⟨_, w₁, howner, hrest⟩ := bind_eq_ok.1 h
  rw [requireOwner_spec howner] at hrest
  rw [get_bind, if_neg (by rw [hidle]; decide)] at hrest
  obtain ⟨_, w₂, hset, hrest⟩ := bind_eq_ok.1 hrest
  have hentered : w₂.events = w.events ∧ w₂.scheduler = w.scheduler := by
    cases hset
    exact ⟨rfl, rfl⟩
  obtain ⟨hevents₂, hscheduler₂⟩ := hentered
  obtain ⟨result', w₃, htry, hrest⟩ := bind_eq_ok.1 hrest
  obtain ⟨_, w₄, hcount, hend⟩ := bind_eq_ok.1 hrest
  cases hcount
  obtain ⟨rfl, rfl⟩ := pure_eq_ok.1 hend
  rw [tryCatch_eq_ok] at htry
  · obtain ⟨events, hevents, htrace, hcurrent⟩ :=
      runBoundary_spec (hscheduler₂ ▸ hreached) htry
    refine ⟨events, hevents₂ ▸ hevents, htrace, ?_⟩
    exact ⟨hcurrent.reached, hcurrent.published, hcurrent.selected⟩
  · intro what s a s' hthrow
    obtain ⟨_, s₁, -, hthrow⟩ := bind_eq_ok.1 hthrow
    exact throw_ne_ok hthrow

theorem Trace.lastPublished {input : EeSchedulerBoundaryInput}
    {result : EeSchedulerBoundaryResult} {events before : List BoundaryEvent}
    (h : Trace input result events) :
    Boundary.lastPublished (before ++ events) = Boundary.lastPublished events := by
  obtain ⟨selected, rounds, rfl, -⟩ := h.rounds
  unfold Boundary.lastPublished
  rw [List.filterMap_append, List.getLast?_append_of_ne_nil]
  simp [BoundaryEvent.publication]

/-- **A boundary that returns has published exactly the context it selected.** Its hooks were
called as `Trace` says: the prior context is committed, a context is published, and then the
consequences are served one at a time, each from the first stage that has one. Whatever the hooks
do, a boundary that one of them enters counts a rejection and does nothing else. -/
theorem boundary_publishes_selected {η : Type} (hooks : EeSchedulerExecutorHooks η)
    (diagnostics : Bool) (current : HostThreadId) (depth : ℕ) (input : EeSchedulerBoundaryInput)
    (w : BoundaryWorld η) :
    processBoundary hooks diagnostics current (depth + 2) input w =
        processBoundaryWith rejects hooks diagnostics current input w ∧
      (∀ nestedInput (inside : BoundaryWorld η), ∃ result,
        rejects nestedInput inside = .ok result { inside with
          executor := { inside.executor with
            statistics := { inside.executor.statistics with
              reentrantBoundaryRejects :=
                inside.executor.statistics.reentrantBoundaryRejects + 1 } } }) ∧
      ∀ ops result w', w.scheduler = run SchedulerOp.run {} ops →
        w.executor.processingBoundary = false →
        processBoundary hooks diagnostics current (depth + 2) input w = .ok result w' →
        ∃ events, w'.events = w.events ++ events ∧ Trace input result events ∧
          lastPublished events = some w'.scheduler.currentThreadId ∧
          result.selectedThreadId = w'.scheduler.currentThreadId ∧
          ∃ ops', w'.scheduler = run SchedulerOp.run {} ops' := by
  refine ⟨processBoundary_eq input, fun _ _ => ⟨_, rfl⟩, ?_⟩
  intro ops result w' hops hidle h
  rw [processBoundary_eq] at h
  obtain ⟨events, hevents, htrace, hcurrent⟩ := processBoundaryWith_spec ⟨ops, hops⟩ hidle h
  refine ⟨events, hevents, htrace, ?_, hcurrent.selected, hcurrent.reached⟩
  rw [← hcurrent.published, hevents, htrace.lastPublished]

/-- Hooks with hardware events that start the second thread, and enter a boundary. -/
def startingHooks : EeSchedulerExecutorHooks ℕ where
  commitPriorContext _ _ _ left := .ret left
  publishSelectedContext _ _ left := .ret left
  hasImmediateConsequence stage _ left := .ret (stage == .HardwareEvent && left != 0, left)
  applyNextConsequence _ _ _ left :=
    .schedule rfl (.startThreadId 2) fun _ =>
      .processBoundary {} fun _ => .ret (.HigherPriorityOnly, left - 1)

/-- The first thread runs, the second can preempt it, and one event is due. -/
def startingWorld : BoundaryWorld ℕ where
  executor := {}
  scheduler := run SchedulerOp.run {} [.addRunningThread 1 1 20, .addDormantThread 2 1 10]
  hooks := 1

theorem boundary_publishes_selected_started :
    ∃ result w', processBoundary startingHooks false 7 2 {} startingWorld = .ok result w' ∧
      w'.scheduler.currentThreadId = some 2 ∧
      w'.executor.statistics.reentrantBoundaryRejects = 1 ∧
      ∃ events, w'.events = events ∧ Trace {} result events ∧
        lastPublished events = some w'.scheduler.currentThreadId ∧
        result.selectedThreadId = w'.scheduler.currentThreadId := by
  have hran : (match processBoundary startingHooks false 7 2 {} startingWorld with
      | .ok _ w' => w'.scheduler.currentThreadId == some 2 &&
          w'.executor.statistics.reentrantBoundaryRejects == 1
      | .error _ _ => false) = true := by decide +kernel
  cases h : processBoundary startingHooks false 7 2 {} startingWorld with
  | error what w' =>
    rw [h] at hran
    exact absurd hran Bool.false_ne_true
  | ok result w' =>
    rw [h, Bool.and_eq_true, beq_iff_eq, beq_iff_eq] at hran
    obtain ⟨events, hevents, htrace, hlast, hselected, -⟩ :=
      (boundary_publishes_selected startingHooks false 7 0 {} startingWorld).2.2 _ _ _ rfl rfl h
    exact ⟨result, w', rfl, hran.1, hran.2, events, hevents, htrace, hlast, hselected⟩

end Boundary

end Ps2Recomp
