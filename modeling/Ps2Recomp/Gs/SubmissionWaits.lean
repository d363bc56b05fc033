import Ps2Recomp.Gs.SubmissionLedger

/-!
# Nobody waits for nothing

Once somebody has taken the mutex after admission was closed (`quiesced`) no submission is past its
first test (`Closing`). Up to there the signals that are out, that the worker holds, or that a
submission is about to give are as many as the items in the queue; afterwards there may be more
(`Signals`), so that the worker finds the queue empty only if all is over. A producer that waits on
the current epoch has no room, or the worker is about to raise the epoch (`Epochs`).
-/

namespace Ps2Recomp

namespace GsWorker

/-- A signal has been taken and the queue not been looked at since. -/
def heldSignals : GsWorker → ℕ
  | .testCancel | .pop => 1
  | _ => 0

/-- The mutex has been taken, and the cancellation not been requested. -/
def requests : GsWorker → Bool
  | .requestCancel _ => true
  | _ => false

/-- Admission has been closed for a failure, and the mutex not been taken since. -/
def closing : GsWorker → Bool
  | .signalSpace (.quiesce _) | .notifySpace (.quiesce _) | .quiesce _ => true
  | _ => false

/-- The worker cancels what is queued, or is about to. -/
def cancelling : GsWorker → Bool
  | .setException _ false | .signalWork _ | .notifyWork _ | .release _ true
  | .signalSpace .cancelQueued | .notifySpace .cancelQueued | .cancelQueued => true
  | _ => false

/-- The worker has found the queue empty with no signal left, or has cancelled it. -/
def emptied : GsWorker → Bool
  | .testDrain | .exit | .signalSpace .exited | .notifySpace .exited | .exited => true
  | _ => false

end GsWorker

namespace GsSubmissionSystem

variable {s : GsSubmissionSystem} {item : GsQueuedItem}

/-- The item has been queued and its signal not been given. -/
def owedSignals : Option (GsQueuedItem × GsSubmitting) → ℕ
  | some (_, .signalWork) => 1
  | _ => 0

/-- The submission has not passed its first test of `m_accepting`. -/
def Unadmitted : Option (GsQueuedItem × GsSubmitting) → Prop
  | none | some (_, .entered) => True
  | _ => False

/-- Admission has been closed and the mutex not been taken since. -/
def closes : Option (GsExecutorShutdownMode × GsShuttingDown) → Bool
  | some (_, .signalSpace) | some (_, .notifySpace) | some (_, .quiesce) => true
  | _ => false

/-- The mutex has been taken, and the request not been made. -/
def requests : Option (GsExecutorShutdownMode × GsShuttingDown) → Bool
  | some (_, .request) => true
  | _ => false

/-- The request has been made. -/
def requested : Option (GsExecutorShutdownMode × GsShuttingDown) → Bool
  | some (_, .signalWork) | some (_, .notifyWork) | some (_, .join) => true
  | _ => false

/-! ## Closing -/

/-- Somebody has taken the mutex after admission was closed. -/
def quiesced (s : GsSubmissionSystem) : Bool :=
  s.cancelRequested || s.drainRequested || requests s.stopping || s.worker.requests

structure Closing (s : GsSubmissionSystem) : Prop where
  closed : (s.quiesced || s.worker.closing || closes s.stopping) = true → s.accepting = false
  unadmitted : s.quiesced = true → Unadmitted s.submission
  cancelled : s.worker.cancelling = true → s.cancelRequested = true
  requested : requested s.stopping = true → (s.cancelRequested || s.drainRequested) = true

theorem Closing.create (queueCapacity payloadCapacityBytes : ℕ) :
    (GsSubmissionSystem.create queueCapacity payloadCapacityBytes).Closing :=
  ⟨(by rintro ⟨⟩), (by rintro ⟨⟩), (by rintro ⟨⟩), (by rintro ⟨⟩)⟩

theorem Closing.submit (h : s.Closing) (payloadBytes : ℕ) : (s.submit payloadBytes).Closing := by
  unfold GsSubmissionSystem.submit
  split
  · exact h
  · exact ⟨h.closed, fun _ => trivial, h.cancelled, h.requested⟩

theorem Closing.notifyWork (h : s.Closing) : s.notifyWork.Closing := by
  obtain ⟨closed, unadmitted, cancelled, requested⟩ := h
  rcases s.notifyWork_eq with heq | ⟨hasleep, heq⟩ <;> rw [heq]
  · exact ⟨closed, unadmitted, cancelled, requested⟩
  · simp only [quiesced, hasleep] at closed unadmitted
    exact ⟨closed, unadmitted, (by rintro ⟨⟩), requested⟩

/-- A submission that has passed its first test finds nobody who has taken the mutex to close. -/
theorem Closing.live (h : s.Closing) (hsub : ¬Unadmitted s.submission) : s.quiesced ≠ true :=
  fun hquiesced => hsub (h.unadmitted hquiesced)

theorem Closing.notifySpace (h : s.Closing) : s.notifySpace.Closing := by
  rcases s.notifySpace_eq with heq | ⟨item, e, hsub, heq⟩ <;> rw [heq]
  · exact h
  · have hlive : s.quiesced ≠ true := h.live (by rw [hsub]; exact not_false)
    exact ⟨h.closed, fun hquiesced => absurd hquiesced hlive, h.cancelled, h.requested⟩

theorem Closing.submitStep (h : s.Closing) (fails : Bool) : (s.submitStep fails).Closing := by
  rcases hsub : s.submission with _ | ⟨item, pc⟩
  · simpa [GsSubmissionSystem.submitStep, hsub] using h
  cases pc with
  | entered =>
    obtain ⟨closed, -, cancelled, requested⟩ := h
    simp only [GsSubmissionSystem.submitStep, hsub]
    split
    · rename_i haccepting
      have hlive : s.quiesced ≠ true := by
        intro hquiesced
        simp [closed (by simp [hquiesced])] at haccepting
      exact ⟨closed, fun hquiesced => absurd hquiesced hlive, cancelled, requested⟩
    · exact ⟨closed, fun _ => trivial, cancelled, requested⟩
  | ensureStarted =>
    have hlive : s.quiesced ≠ true := h.live (by rw [hsub]; exact not_false)
    obtain ⟨closed, -, cancelled, requested⟩ := h
    simp only [GsSubmissionSystem.submitStep, hsub]
    split
    · exact ⟨closed, fun hquiesced => absurd hquiesced hlive, cancelled, requested⟩
    · rename_i hworker
      repeat' split
      · exact ⟨closed, fun _ => trivial, cancelled, requested⟩
      · exact ⟨fun _ => rfl, fun _ => trivial, cancelled, requested⟩
      · simp only [quiesced, not_not.1 hworker] at closed hlive
        exact ⟨closed, fun hquiesced => absurd hquiesced hlive, (by rintro ⟨⟩), requested⟩
  | notifyWork =>
    have hkept := s.notifyWork_submission
    have hlive : s.notifyWork.quiesced ≠ true :=
      h.notifyWork.live (by rw [hkept, hsub]; exact not_false)
    obtain ⟨closed, -, cancelled, requested⟩ := h.notifyWork
    simp only [GsSubmissionSystem.submitStep, hsub]
    exact ⟨closed, fun hquiesced => absurd hquiesced hlive, cancelled, requested⟩
  | asleep e => simpa only [GsSubmissionSystem.submitStep, hsub] using h
  | _ =>
    have hlive : s.quiesced ≠ true := h.live (by rw [hsub]; exact not_false)
    obtain ⟨closed, -, cancelled, requested⟩ := h
    simp only [GsSubmissionSystem.submitStep, hsub, GsSubmissionSystem.signalWork]
    repeat' split
    all_goals exact ⟨closed, fun hquiesced => absurd hquiesced hlive, cancelled, requested⟩

theorem Closing.workerStep (h : s.Closing) (throws : Bool) : (s.workerStep throws).Closing := by
  cases hworker : s.worker with
  | notStarted | asleep | exited => simpa only [GsSubmissionSystem.workerStep, hworker] using h
  | testCancel =>
    obtain ⟨closed, unadmitted, -, requested⟩ := h
    simp only [quiesced, hworker] at closed unadmitted
    simp only [GsSubmissionSystem.workerStep, hworker]
    split
    · exact ⟨closed, unadmitted, fun _ => ‹_›, requested⟩
    · exact ⟨closed, unadmitted, (by rintro ⟨⟩), requested⟩
  | testCancelAgain i =>
    obtain ⟨closed, unadmitted, -, requested⟩ := h
    simp only [quiesced, hworker] at closed unadmitted
    simp only [GsSubmissionSystem.workerStep, hworker]
    split
    · exact ⟨closed, unadmitted, fun _ => ‹_›, requested⟩
    · exact ⟨closed, unadmitted, (by rintro ⟨⟩), requested⟩
  | setException i failed =>
    obtain ⟨closed, unadmitted, cancelled, requested⟩ := h
    simp only [quiesced, hworker] at closed unadmitted
    rw [hworker] at cancelled
    simp only [GsSubmissionSystem.workerStep, hworker]
    cases failed with
    | true => exact ⟨closed, unadmitted, (by rintro ⟨⟩), requested⟩
    | false => exact ⟨closed, unadmitted, cancelled, requested⟩
  | closeAdmission i =>
    obtain ⟨closed, unadmitted, -, requested⟩ := h
    simp only [quiesced, hworker] at unadmitted
    simp only [GsSubmissionSystem.workerStep, hworker]
    exact ⟨fun _ => rfl, unadmitted, (by rintro ⟨⟩), requested⟩
  | quiesce i =>
    obtain ⟨closed, unadmitted, cancelled, requested⟩ := h
    simp only [GsSubmissionSystem.workerStep, hworker]
    split
    · exact ⟨closed, unadmitted, cancelled, requested⟩
    · rename_i hfree
      refine ⟨fun _ => closed ?_, fun _ => ?_, (by rintro ⟨⟩), requested⟩
      · simp [hworker, GsWorker.closing]
      · rw [Option.not_isSome_iff_eq_none] at hfree
        exact (hfree ▸ trivial : Unadmitted s.submission)
  | requestCancel i =>
    obtain ⟨closed, unadmitted, -, requested⟩ := h
    have hquiesced : s.quiesced = true := by simp [quiesced, hworker, GsWorker.requests]
    simp only [GsSubmissionSystem.workerStep, hworker]
    exact ⟨fun _ => closed (by simp [hquiesced]), fun _ => unadmitted hquiesced, fun _ => rfl,
      fun _ => rfl⟩
  | notifyWork i =>
    have hawake : s.notifyWork = s := by simp [GsSubmissionSystem.notifyWork, hworker]
    obtain ⟨closed, unadmitted, cancelled, requested⟩ := h
    simp only [quiesced, hworker] at closed unadmitted cancelled
    simp only [GsSubmissionSystem.workerStep, hworker, hawake]
    exact ⟨closed, unadmitted, cancelled, requested⟩
  | signalSpace next =>
    obtain ⟨closed, unadmitted, cancelled, requested⟩ := h
    simp only [quiesced, hworker] at closed unadmitted cancelled
    simp only [GsSubmissionSystem.workerStep, hworker, GsSubmissionSystem.signalSpace]
    split
    · exact ⟨closed, unadmitted, cancelled, requested⟩
    · cases next <;> exact ⟨closed, unadmitted, cancelled, requested⟩
  | notifySpace next =>
    have hkept := s.notifySpace_worker
    obtain ⟨closed, unadmitted, cancelled, requested⟩ := h.notifySpace
    simp only [quiesced, hkept, hworker] at closed unadmitted cancelled
    simp only [GsSubmissionSystem.workerStep, hworker]
    cases next <;> exact ⟨closed, unadmitted, cancelled, requested⟩
  | release i cancels =>
    obtain ⟨closed, unadmitted, cancelled, requested⟩ := h
    simp only [quiesced, hworker] at closed unadmitted cancelled
    simp only [GsSubmissionSystem.workerStep, hworker, GsSubmissionSystem.release]
    split
    · exact ⟨closed, unadmitted, cancelled, requested⟩
    · cases cancels <;> exact ⟨closed, unadmitted, cancelled, requested⟩
  | _ =>
    obtain ⟨closed, unadmitted, cancelled, requested⟩ := h
    simp only [quiesced, hworker] at closed unadmitted cancelled
    simp only [GsSubmissionSystem.workerStep, hworker, GsSubmissionSystem.signalWork]
    repeat' split
    all_goals
      first
      | exact ⟨closed, unadmitted, cancelled, requested⟩
      | exact ⟨closed, unadmitted, fun h => (Bool.false_ne_true h).elim, requested⟩

theorem Closing.shutdown (h : s.Closing) (mode : GsExecutorShutdownMode) :
    (s.shutdown mode).Closing := by
  unfold GsSubmissionSystem.shutdown
  split
  · exact h
  · rename_i hfree
    rw [Option.not_isSome_iff_eq_none] at hfree
    obtain ⟨closed, unadmitted, cancelled, requested⟩ := h
    simp only [quiesced, hfree] at closed unadmitted
    exact ⟨closed, unadmitted, cancelled, (by rintro ⟨⟩)⟩

theorem Closing.shutdownStep (h : s.Closing) : s.shutdownStep.Closing := by
  rcases hstop : s.stopping with _ | ⟨mode, pc⟩
  · simpa [GsSubmissionSystem.shutdownStep, hstop] using h
  cases pc with
  | closeAdmission =>
    obtain ⟨closed, unadmitted, cancelled, requested⟩ := h
    simp only [quiesced, hstop] at unadmitted
    simp only [GsSubmissionSystem.shutdownStep, hstop]
    exact ⟨fun _ => rfl, unadmitted, cancelled, (by rintro ⟨⟩)⟩
  | notifySpace =>
    have hkept := s.notifySpace_stopping
    obtain ⟨closed, unadmitted, cancelled, requested⟩ := h.notifySpace
    simp only [quiesced, hkept, hstop] at closed unadmitted requested
    simp only [GsSubmissionSystem.shutdownStep, hstop]
    exact ⟨closed, unadmitted, cancelled, requested⟩
  | notifyWork =>
    have hkept := s.notifyWork_stopping
    obtain ⟨closed, unadmitted, cancelled, requested⟩ := h.notifyWork
    simp only [quiesced, hkept, hstop] at closed unadmitted requested
    simp only [GsSubmissionSystem.shutdownStep, hstop]
    exact ⟨closed, unadmitted, cancelled, requested⟩
  | quiesce =>
    obtain ⟨closed, unadmitted, cancelled, requested⟩ := h
    simp only [GsSubmissionSystem.shutdownStep, hstop]
    split
    · exact ⟨closed, unadmitted, cancelled, requested⟩
    · rename_i hfree
      refine ⟨fun _ => closed ?_, fun _ => ?_, cancelled, (by rintro ⟨⟩)⟩
      · simp [hstop, closes]
      · rw [Option.not_isSome_iff_eq_none] at hfree
        exact (hfree ▸ trivial : Unadmitted s.submission)
  | request =>
    obtain ⟨closed, unadmitted, cancelled, requested⟩ := h
    have hquiesced : s.quiesced = true := by simp [quiesced, hstop, GsSubmissionSystem.requests]
    simp only [GsSubmissionSystem.shutdownStep, hstop]
    refine ⟨fun _ => closed (by simp [hquiesced]), fun _ => unadmitted hquiesced, ?_, ?_⟩
    · intro hcancelling
      simp [cancelled hcancelling]
    · cases mode <;> simp
  | signalSpace | signalWork =>
    obtain ⟨closed, unadmitted, cancelled, requested⟩ := h
    simp only [quiesced, hstop] at closed unadmitted requested
    simp only [GsSubmissionSystem.shutdownStep, hstop, GsSubmissionSystem.signalSpace,
      GsSubmissionSystem.signalWork]
    split <;> exact ⟨closed, unadmitted, cancelled, requested⟩
  | join =>
    obtain ⟨closed, unadmitted, cancelled, requested⟩ := h
    simp only [GsSubmissionSystem.shutdownStep, hstop]
    split
    · simp only [quiesced, hstop] at closed unadmitted
      exact ⟨closed, unadmitted, cancelled, (by rintro ⟨⟩)⟩
    · exact ⟨closed, unadmitted, cancelled, requested⟩

/-! ## Signals -/

/-- The worker has been given a signal, and who gave it is about to wake it. -/
def WorkerCalled (s : GsSubmissionSystem) : Prop :=
  (∃ item, s.submission = some (item, .notifyWork)) ∨
    (∃ mode, s.stopping = some (mode, .notifyWork)) ∧ s.queue = []

structure Signals (s : GsSubmissionSystem) : Prop where
  enough : s.worker.cancelling = false →
    s.queue.length ≤ s.workSignals + s.worker.heldSignals + owedSignals s.submission
  exact : s.quiesced = false →
    s.workSignals + s.worker.heldSignals + owedSignals s.submission ≤ s.queue.length
  called : s.worker = .asleep → s.workSignals ≠ 0 → s.WorkerCalled
  emptied : s.worker.emptied = true → s.quiesced = true ∧ s.queue = []

theorem Signals.create (queueCapacity payloadCapacityBytes : ℕ) :
    (GsSubmissionSystem.create queueCapacity payloadCapacityBytes).Signals :=
  ⟨fun _ => le_rfl, fun _ => le_rfl, (by rintro ⟨⟩), (by rintro ⟨⟩)⟩

theorem Signals.submit (h : s.Signals) (payloadBytes : ℕ) : (s.submit payloadBytes).Signals := by
  unfold GsSubmissionSystem.submit
  split
  · exact h
  · rename_i hnone
    obtain ⟨enough, exact', called, emptied⟩ := h
    rw [hnone] at enough exact'
    refine ⟨enough, exact', ?_, emptied⟩
    intro hasleep hsignals
    exact .inr ((called hasleep hsignals).resolve_left (by simp [hnone]))

theorem notifyWork_awake (s : GsSubmissionSystem) : s.notifyWork.worker ≠ .asleep := by
  unfold notifyWork
  split
  · rintro ⟨⟩
  · exact ‹_›

theorem Signals.notifyWork (h : s.Signals) : s.notifyWork.Signals := by
  obtain ⟨enough, exact', called, emptied⟩ := h
  rcases s.notifyWork_eq with heq | ⟨hasleep, heq⟩ <;> rw [heq]
  · exact ⟨enough, exact', called, emptied⟩
  · simp only [quiesced, hasleep] at enough exact'
    exact ⟨enough, exact', (by rintro ⟨⟩), (by rintro ⟨⟩)⟩

theorem Signals.notifySpace (h : s.Signals) : s.notifySpace.Signals := by
  obtain ⟨enough, exact', called, emptied⟩ := h
  rcases s.notifySpace_eq with heq | ⟨item, e, hsub, heq⟩ <;> rw [heq]
  · exact ⟨enough, exact', called, emptied⟩
  · rw [hsub] at enough exact'
    refine ⟨enough, exact', ?_, emptied⟩
    intro hasleep hsignals
    exact .inr ((called hasleep hsignals).resolve_left (by simp [hsub]))

theorem Signals.submitStep (h : s.Signals) (hclosing : s.Closing) (fails : Bool) :
    (s.submitStep fails).Signals := by
  rcases hsub : s.submission with _ | ⟨item, pc⟩
  · simpa [GsSubmissionSystem.submitStep, hsub] using h
  cases pc with
  | asleep e => simpa only [GsSubmissionSystem.submitStep, hsub] using h
  | ensureStarted =>
    obtain ⟨enough, exact', called, emptied⟩ := h
    rw [hsub] at enough exact'
    have hcalled : s.worker = .asleep → s.workSignals ≠ 0 →
        (∃ mode, s.stopping = some (mode, .notifyWork)) ∧ s.queue = [] :=
      fun hasleep hsignals => (called hasleep hsignals).resolve_left (by simp [hsub])
    simp only [GsSubmissionSystem.submitStep, hsub]
    split
    · exact ⟨enough, exact', fun ha hs => .inr (hcalled ha hs), emptied⟩
    · rename_i hworker
      repeat' split
      · exact ⟨enough, exact', fun ha hs => .inr (hcalled ha hs), emptied⟩
      · exact ⟨enough, exact', fun ha hs => .inr (hcalled ha hs), emptied⟩
      · simp only [quiesced, not_not.1 hworker] at enough exact'
        exact ⟨enough, exact', (by rintro ⟨⟩), (by rintro ⟨⟩)⟩
  | emplace e =>
    have hlive : s.quiesced ≠ true := hclosing.live (by rw [hsub]; exact not_false)
    have hunrequested : ¬requested s.stopping = true := by
      intro hrequested
      have hflag := hclosing.requested hrequested
      refine hlive ?_
      rw [quiesced, hflag]
      rfl
    obtain ⟨enough, exact', called, emptied⟩ := h
    rw [hsub] at enough exact'
    have hcalled : s.worker = .asleep → s.workSignals ≠ 0 → False := by
      intro hasleep hsignals
      rcases called hasleep hsignals with ⟨_, hnotify⟩ | ⟨⟨_, hstop⟩, -⟩
      · simp [hsub] at hnotify
      · exact hunrequested (by rw [hstop]; rfl)
    simp only [GsSubmissionSystem.submitStep, hsub]
    split
    · exact ⟨enough, exact', fun ha hs => (hcalled ha hs).elim, emptied⟩
    · refine ⟨?_, ?_, fun ha hs => (hcalled ha hs).elim, fun h => absurd (emptied h).1 hlive⟩
      · intro hloop
        have := enough hloop
        simp only [submitGoes, owedSignals, List.length_append, List.length_singleton] at this ⊢
        omega
      · intro hq
        have := exact' hq
        simp only [submitGoes, owedSignals, List.length_append, List.length_singleton] at this ⊢
        omega
  | signalWork =>
    obtain ⟨enough, exact', called, emptied⟩ := h
    rw [hsub] at enough exact'
    simp only [GsSubmissionSystem.submitStep, hsub, GsSubmissionSystem.signalWork]
    split
    · refine ⟨enough, exact', ?_, emptied⟩
      intro hasleep hsignals
      exact .inr ((called hasleep hsignals).resolve_left (by simp [hsub]))
    · refine ⟨?_, ?_, fun _ _ => .inl ⟨item, rfl⟩, emptied⟩
      · intro hloop
        have := enough hloop
        simp only [submitGoes, owedSignals] at this ⊢
        omega
      · intro hq
        have := exact' hq
        simp only [submitGoes, owedSignals] at this ⊢
        omega
  | notifyWork =>
    have hkept := s.notifyWork_submission
    obtain ⟨enough, exact', called, emptied⟩ := h.notifyWork
    rw [hkept, hsub] at enough exact'
    simp only [GsSubmissionSystem.submitStep, hsub]
    exact ⟨enough, exact', fun ha => absurd ha s.notifyWork_awake, emptied⟩
  | _ =>
    obtain ⟨enough, exact', called, emptied⟩ := h
    rw [hsub] at enough exact'
    have hcalled : s.worker = .asleep → s.workSignals ≠ 0 →
        (∃ mode, s.stopping = some (mode, .notifyWork)) ∧ s.queue = [] :=
      fun hasleep hsignals => (called hasleep hsignals).resolve_left (by simp [hsub])
    simp only [GsSubmissionSystem.submitStep, hsub]
    repeat' split
    all_goals exact ⟨enough, exact', fun ha hs => .inr (hcalled ha hs), emptied⟩

theorem Signals.workerStep (h : s.Signals) (hclosing : s.Closing) (throws : Bool) :
    (s.workerStep throws).Signals := by
  cases hworker : s.worker with
  | notStarted | asleep | exited => simpa only [GsSubmissionSystem.workerStep, hworker] using h
  | acquire =>
    obtain ⟨enough, exact', -, -⟩ := h
    simp only [quiesced, hworker] at enough exact'
    simp only [GsSubmissionSystem.workerStep, hworker]
    split
    · exact ⟨enough, exact', (by rintro ⟨⟩), (by rintro ⟨⟩)⟩
    · refine ⟨fun _ => (enough rfl).trans ?_, fun hq => (exact' hq).trans' ?_, (by rintro ⟨⟩), (by rintro ⟨⟩)⟩
      · simp only [workerGoes, GsWorker.heldSignals]
        omega
      · simp only [workerGoes, GsWorker.heldSignals]
        omega
  | wait =>
    obtain ⟨enough, exact', -, -⟩ := h
    simp only [quiesced, hworker] at enough exact'
    simp only [GsSubmissionSystem.workerStep, hworker]
    split
    · exact ⟨enough, exact', fun _ hsignals => absurd ‹_› hsignals, (by rintro ⟨⟩)⟩
    · exact ⟨enough, exact', (by rintro ⟨⟩), (by rintro ⟨⟩)⟩
  | testCancel =>
    obtain ⟨enough, exact', -, -⟩ := h
    simp only [quiesced, hworker] at enough exact'
    simp only [GsSubmissionSystem.workerStep, hworker]
    split
    · rename_i hcancel
      refine ⟨(by rintro ⟨⟩), ?_, (by rintro ⟨⟩), (by rintro ⟨⟩)⟩
      simp [quiesced, hcancel]
    · exact ⟨enough, exact', (by rintro ⟨⟩), (by rintro ⟨⟩)⟩
  | pop =>
    obtain ⟨enough, exact', -, -⟩ := h
    have hquiesced : s.queue = [] → s.quiesced = true := by
      intro hempty
      by_contra hlive
      have := exact' (Bool.not_eq_true _ ▸ hlive)
      rw [hempty, hworker] at this
      simp [GsWorker.heldSignals] at this
    simp only [quiesced, hworker] at enough exact'
    simp only [GsSubmissionSystem.workerStep, hworker]
    split
    · rename_i hempty
      have hq := hquiesced hempty
      simp only [quiesced, hworker] at hq
      refine ⟨fun _ => ?_, fun hq' => ?_, (by rintro ⟨⟩), fun _ => ⟨hq, hempty⟩⟩
      · simp [hempty]
      · exact absurd (hq.symm.trans hq') Bool.noConfusion
    · rename_i i rest hqueue
      simp only [hqueue, List.length_cons, GsWorker.heldSignals] at enough exact'
      refine ⟨fun _ => ?_, fun hq => ?_, (by rintro ⟨⟩), (by rintro ⟨⟩)⟩
      · have := enough rfl
        simp only [workerGoes, GsWorker.heldSignals]
        omega
      · have := exact' hq
        simp only [workerGoes, GsWorker.heldSignals]
        omega
  | testDrain =>
    obtain ⟨enough, exact', -, emptied⟩ := h
    obtain ⟨hq, hempty⟩ := emptied (by rw [hworker]; rfl)
    simp only [quiesced, hworker] at enough exact' hq
    simp only [GsSubmissionSystem.workerStep, hworker]
    split
    · exact ⟨enough, exact', (by rintro ⟨⟩), fun _ => ⟨hq, hempty⟩⟩
    · exact ⟨enough, exact', (by rintro ⟨⟩), (by rintro ⟨⟩)⟩
  | testCancelAgain i =>
    obtain ⟨enough, exact', -, -⟩ := h
    simp only [quiesced, hworker] at enough exact'
    simp only [GsSubmissionSystem.workerStep, hworker]
    split
    · exact ⟨(by rintro ⟨⟩), exact', (by rintro ⟨⟩), (by rintro ⟨⟩)⟩
    · exact ⟨enough, exact', (by rintro ⟨⟩), (by rintro ⟨⟩)⟩
  | setException i failed =>
    obtain ⟨enough, exact', -, -⟩ := h
    simp only [quiesced, hworker] at enough exact'
    simp only [GsSubmissionSystem.workerStep, hworker]
    cases failed with
    | true => exact ⟨enough, exact', (by rintro ⟨⟩), (by rintro ⟨⟩)⟩
    | false => exact ⟨(by rintro ⟨⟩), exact', (by rintro ⟨⟩), (by rintro ⟨⟩)⟩
  | quiesce i =>
    obtain ⟨enough, exact', called, emptied⟩ := h
    simp only [GsSubmissionSystem.workerStep, hworker]
    split
    · exact ⟨enough, exact', called, emptied⟩
    · simp only [hworker] at enough
      refine ⟨enough, ?_, (by rintro ⟨⟩), (by rintro ⟨⟩)⟩
      simp [quiesced, GsWorker.requests]
  | requestCancel i =>
    simp only [GsSubmissionSystem.workerStep, hworker]
    refine ⟨(by rintro ⟨⟩), ?_, (by rintro ⟨⟩), (by rintro ⟨⟩)⟩
    simp [quiesced]
  | signalWork i =>
    have hcancelled : s.cancelRequested = true := hclosing.cancelled (by rw [hworker]; rfl)
    simp only [GsSubmissionSystem.workerStep, hworker, GsSubmissionSystem.signalWork]
    split
    · refine ⟨(by rintro ⟨⟩), ?_, (by rintro ⟨⟩), (by rintro ⟨⟩)⟩
      simp [quiesced, hcancelled]
    · refine ⟨(by rintro ⟨⟩), ?_, (by rintro ⟨⟩), (by rintro ⟨⟩)⟩
      simp [quiesced, hcancelled]
  | notifyWork i =>
    have hawake : s.notifyWork = s := by simp [GsSubmissionSystem.notifyWork, hworker]
    obtain ⟨-, exact', -, -⟩ := h
    simp only [quiesced, hworker] at exact'
    simp only [GsSubmissionSystem.workerStep, hworker, hawake]
    exact ⟨(by rintro ⟨⟩), exact', (by rintro ⟨⟩), (by rintro ⟨⟩)⟩
  | release i cancels =>
    obtain ⟨enough, exact', -, -⟩ := h
    simp only [quiesced, hworker] at enough exact'
    simp only [GsSubmissionSystem.workerStep, hworker, GsSubmissionSystem.release]
    split
    · exact ⟨enough, exact', (by rintro ⟨⟩), (by rintro ⟨⟩)⟩
    · cases cancels with
      | true => exact ⟨(by rintro ⟨⟩), exact', (by rintro ⟨⟩), (by rintro ⟨⟩)⟩
      | false => exact ⟨enough, exact', (by rintro ⟨⟩), (by rintro ⟨⟩)⟩
  | signalSpace next =>
    obtain ⟨enough, exact', called, emptied⟩ := h
    simp only [quiesced, hworker] at enough exact' emptied
    simp only [GsSubmissionSystem.workerStep, hworker, GsSubmissionSystem.signalSpace]
    split
    · exact ⟨enough, exact', (by rintro ⟨⟩), emptied⟩
    · cases next <;> exact ⟨enough, exact', (by rintro ⟨⟩), emptied⟩
  | notifySpace next =>
    have hkept := s.notifySpace_worker
    obtain ⟨enough, exact', called, emptied⟩ := h.notifySpace
    simp only [quiesced, hkept, hworker] at enough exact' emptied
    simp only [GsSubmissionSystem.workerStep, hworker]
    cases next <;> exact ⟨enough, exact', (by rintro ⟨⟩), emptied⟩
  | cancelQueued =>
    have hcancelled : s.cancelRequested = true := hclosing.cancelled (by rw [hworker]; rfl)
    simp only [GsSubmissionSystem.workerStep, hworker]
    split
    · rename_i hempty
      refine ⟨fun _ => ?_, ?_, (by rintro ⟨⟩), fun _ => ⟨?_, hempty⟩⟩
      · simp [hempty]
      · simp [quiesced, hcancelled]
      · simp [quiesced, hcancelled]
    · refine ⟨(by rintro ⟨⟩), ?_, (by rintro ⟨⟩), (by rintro ⟨⟩)⟩
      simp [quiesced, hcancelled]
  | exit =>
    obtain ⟨enough, exact', -, emptied⟩ := h
    simp only [quiesced, hworker] at enough exact' emptied
    simp only [GsSubmissionSystem.workerStep, hworker]
    exact ⟨enough, exact', (by rintro ⟨⟩), emptied⟩
  | _ =>
    obtain ⟨enough, exact', -, -⟩ := h
    simp only [quiesced, hworker] at enough exact'
    simp only [GsSubmissionSystem.workerStep, hworker]
    repeat' split
    all_goals exact ⟨enough, exact', (by rintro ⟨⟩), (by rintro ⟨⟩)⟩

theorem Signals.shutdown (h : s.Signals) (mode : GsExecutorShutdownMode) :
    (s.shutdown mode).Signals := by
  unfold GsSubmissionSystem.shutdown
  split
  · exact h
  · rename_i hfree
    rw [Option.not_isSome_iff_eq_none] at hfree
    obtain ⟨enough, exact', called, emptied⟩ := h
    simp only [quiesced, hfree] at exact' emptied
    refine ⟨enough, exact', ?_, emptied⟩
    intro hasleep hsignals
    refine .inl ((called hasleep hsignals).resolve_right ?_)
    simp [hfree]

theorem Signals.shutdownStep (h : s.Signals) (hclosing : s.Closing) : s.shutdownStep.Signals := by
  rcases hstop : s.stopping with _ | ⟨mode, pc⟩
  · simpa [GsSubmissionSystem.shutdownStep, hstop] using h
  have hcalled : pc ≠ .notifyWork → s.worker = .asleep → s.workSignals ≠ 0 →
      ∃ item, s.submission = some (item, .notifyWork) := by
    intro hpc hasleep hsignals
    exact (h.called hasleep hsignals).resolve_right (by simp [hstop, hpc])
  cases pc with
  | notifySpace =>
    have hkept := s.notifySpace_stopping
    obtain ⟨enough, exact', called, emptied⟩ := h.notifySpace
    simp only [quiesced, hkept, hstop] at exact' emptied
    simp only [GsSubmissionSystem.shutdownStep, hstop]
    refine ⟨enough, exact', ?_, emptied⟩
    intro hasleep hsignals
    exact .inl ((called hasleep hsignals).resolve_right (by simp [hkept, hstop]))
  | notifyWork =>
    have hkept := s.notifyWork_stopping
    obtain ⟨enough, exact', called, emptied⟩ := h.notifyWork
    simp only [quiesced, hkept, hstop] at exact' emptied
    simp only [GsSubmissionSystem.shutdownStep, hstop]
    exact ⟨enough, exact', fun ha => absurd ha s.notifyWork_awake, emptied⟩
  | signalWork =>
    have hflag : (s.cancelRequested || s.drainRequested) = true :=
      hclosing.requested (by rw [hstop]; rfl)
    have hquiesced : s.quiesced = true := by rw [quiesced, hflag]; rfl
    have hunadmitted := hclosing.unadmitted hquiesced
    obtain ⟨enough, exact', called, emptied⟩ := h
    simp only [GsSubmissionSystem.shutdownStep, hstop, GsSubmissionSystem.signalWork]
    split
    · simp only [quiesced, hstop] at exact' emptied
      exact ⟨enough, exact', fun ha hs => .inl (hcalled (by rintro ⟨⟩) ha hs), emptied⟩
    · refine ⟨fun hloop => ?_, ?_, ?_, ?_⟩
      · have := enough hloop
        simp only [shutdownGoes]
        omega
      · simp [quiesced, hflag]
      · -- no signal was out before this one, so nothing is queued
        intro hasleep _
        have hnone : s.workSignals = 0 := by
          by_contra hsignals
          obtain ⟨item, hsub⟩ := hcalled (by rintro ⟨⟩) hasleep hsignals
          rw [hsub] at hunadmitted
          exact hunadmitted
        have howed : owedSignals s.submission = 0 := by
          unfold Unadmitted at hunadmitted
          split at hunadmitted
          · rename_i hsub
            rw [hsub]; rfl
          · rename_i hsub
            rw [hsub]; rfl
          · exact hunadmitted.elim
        have hqueue := enough (by rw [show s.worker = .asleep from hasleep]; rfl)
        rw [show s.worker = .asleep from hasleep, hnone, howed] at hqueue
        exact .inr ⟨⟨mode, rfl⟩, List.eq_nil_of_length_eq_zero (Nat.le_zero.1 hqueue)⟩
      · intro h
        exact ⟨by simp [quiesced, hflag], (emptied h).2⟩
  | quiesce =>
    obtain ⟨enough, exact', called, emptied⟩ := h
    simp only [GsSubmissionSystem.shutdownStep, hstop]
    split
    · exact ⟨enough, exact', called, emptied⟩
    · refine ⟨enough, ?_, fun ha hs => .inl (hcalled (by rintro ⟨⟩) ha hs), fun h => ⟨?_, (emptied h).2⟩⟩
      · simp [quiesced, GsSubmissionSystem.requests]
      · simp [quiesced, GsSubmissionSystem.requests]
  | request =>
    obtain ⟨enough, exact', called, emptied⟩ := h
    have hq : ((s.requestStop mode).shutdownGoes mode .signalWork).quiesced = true := by
      cases mode <;> simp [quiesced]
    simp only [GsSubmissionSystem.shutdownStep, hstop]
    exact ⟨enough, fun hlive => absurd (hq.symm.trans hlive) Bool.noConfusion,
      fun ha hs => .inl (hcalled (by rintro ⟨⟩) ha hs), fun h => ⟨hq, (emptied h).2⟩⟩
  | join =>
    obtain ⟨enough, exact', called, emptied⟩ := h
    simp only [GsSubmissionSystem.shutdownStep, hstop]
    split
    · simp only [quiesced, hstop] at exact' emptied
      exact ⟨enough, exact', fun ha hs => .inl (hcalled (by rintro ⟨⟩) ha hs), emptied⟩
    · exact ⟨enough, exact', called, emptied⟩
  | _ =>
    obtain ⟨enough, exact', called, emptied⟩ := h
    simp only [quiesced, hstop] at exact' emptied
    simp only [GsSubmissionSystem.shutdownStep, hstop, GsSubmissionSystem.signalSpace]
    repeat' split
    all_goals exact ⟨enough, exact', fun ha hs => .inl (hcalled (by rintro ⟨⟩) ha hs), emptied⟩

/-! ## Epochs -/

/-- `tryEnqueue` would find room. -/
def HasRoom (s : GsSubmissionSystem) (item : GsQueuedItem) : Prop :=
  s.queue.length < s.queueCapacity ∧
    s.queuedPayloadBytes + item.payloadBytes ≤ s.payloadCapacityBytes

/-- A thread has made room or closed admission, and is about to raise the epoch. -/
def OwesSpace (s : GsSubmissionSystem) : Prop :=
  (∃ next, s.worker = .signalSpace next) ∨ ∃ mode, s.stopping = some (mode, .signalSpace)

/-- A thread has raised the epoch and is about to wake the producer. -/
def NotifiesSpace (s : GsSubmissionSystem) : Prop :=
  (∃ next, s.worker = .notifySpace next) ∨ ∃ mode, s.stopping = some (mode, .notifySpace)

/-- What a submission knows of the epoch it has loaded. -/
def EpochOk (s : GsSubmissionSystem) : Option (GsQueuedItem × GsSubmitting) → Prop
  | some (_, .testFull e) | some (_, .loadPayload e) => e ≤ s.spaceEpoch
  | some (item, .recheckAccepting e) =>
    e ≤ s.spaceEpoch ∧ (s.spaceEpoch = e → ¬s.HasRoom item ∨ s.OwesSpace)
  | some (item, .wait e) =>
    e ≤ s.spaceEpoch ∧
      (s.spaceEpoch = e → ¬s.HasRoom item ∧ s.accepting = true ∨ s.OwesSpace)
  | some (item, .asleep e) =>
    e ≤ s.spaceEpoch ∧
      (s.spaceEpoch = e → ¬s.HasRoom item ∧ s.accepting = true ∨ s.OwesSpace) ∧
      (s.spaceEpoch ≠ e → s.NotifiesSpace)
  | _ => True

variable {s' : GsSubmissionSystem} {submission : Option (GsQueuedItem × GsSubmitting)}

/-- Nothing has changed that the producer depends on; it depends on a notification only while it is
asleep. -/
theorem EpochOk.kept (h : s.EpochOk submission) (hepoch : s'.spaceEpoch = s.spaceEpoch)
    (hroom : ∀ item, s'.HasRoom item → s.HasRoom item) (haccepting : s'.accepting = s.accepting)
    (howes : s.OwesSpace → s'.OwesSpace)
    (hnotifies : (∀ item e, submission ≠ some (item, .asleep e)) ∨
      (s.NotifiesSpace → s'.NotifiesSpace)) : s'.EpochOk submission := by
  unfold EpochOk at *
  rw [hepoch, haccepting]
  split
  · exact h
  · exact h
  · exact ⟨h.1, fun heq => (h.2 heq).imp (mt (hroom _)) howes⟩
  · exact ⟨h.1, fun heq => (h.2 heq).imp (And.imp_left (mt (hroom _))) howes⟩
  · have hasleep := hnotifies.resolve_left fun hawake => hawake _ _ rfl
    exact ⟨h.1, fun heq => (h.2.1 heq).imp (And.imp_left (mt (hroom _))) howes,
      fun hne => hasleep (h.2.2 hne)⟩
  · trivial

/-- Whatever has changed, the epoch is about to be raised. -/
theorem EpochOk.owing (h : s.EpochOk submission) (hepoch : s'.spaceEpoch = s.spaceEpoch)
    (howes : s'.OwesSpace) (hnotifies : s.NotifiesSpace → s'.NotifiesSpace) :
    s'.EpochOk submission := by
  unfold EpochOk at *
  rw [hepoch]
  split
  · exact h
  · exact h
  · exact ⟨h.1, fun _ => .inr howes⟩
  · exact ⟨h.1, fun _ => .inr howes⟩
  · exact ⟨h.1, fun _ => .inr howes, fun hne => hnotifies (h.2.2 hne)⟩
  · trivial

/-- The epoch has been raised, and the producer is about to be told. -/
theorem EpochOk.raised (h : s.EpochOk submission) (hepoch : s'.spaceEpoch = s.spaceEpoch + 1)
    (hnotifies : s'.NotifiesSpace) : s'.EpochOk submission := by
  have hpassed : ∀ {e}, e ≤ s.spaceEpoch → s.spaceEpoch + 1 ≠ e := by
    intro e hle
    omega
  unfold EpochOk at *
  rw [hepoch]
  split
  · exact Nat.le_succ_of_le h
  · exact Nat.le_succ_of_le h
  · exact ⟨Nat.le_succ_of_le h.1, fun heq => absurd heq (hpassed h.1)⟩
  · exact ⟨Nat.le_succ_of_le h.1, fun heq => absurd heq (hpassed h.1)⟩
  · exact ⟨Nat.le_succ_of_le h.1, fun heq => absurd heq (hpassed h.1), fun _ => hnotifies⟩
  · trivial

theorem Unadmitted.epochOk (h : Unadmitted submission) : s.EpochOk submission := by
  unfold Unadmitted at h
  split at h
  · trivial
  · trivial
  · exact h.elim

/-- The invariant of the epochs. -/
def Epochs (s : GsSubmissionSystem) : Prop := s.EpochOk s.submission

theorem Epochs.create (queueCapacity payloadCapacityBytes : ℕ) :
    (GsSubmissionSystem.create queueCapacity payloadCapacityBytes).Epochs := trivial

theorem Epochs.submit (h : s.Epochs) (payloadBytes : ℕ) : (s.submit payloadBytes).Epochs := by
  unfold GsSubmissionSystem.submit
  split
  · exact h
  · trivial

theorem Epochs.notifyWork (h : s.Epochs) : s.notifyWork.Epochs := by
  rcases s.notifyWork_eq with heq | ⟨hasleep, heq⟩ <;> rw [heq]
  · exact h
  · refine EpochOk.kept h rfl (fun _ => id) rfl ?_ (.inr ?_)
    · exact .imp_left (by rintro ⟨next, hnext⟩; cases hasleep.symm.trans hnext)
    · exact .imp_left (by rintro ⟨next, hnext⟩; cases hasleep.symm.trans hnext)

theorem notifySpace_awake (s : GsSubmissionSystem) (item : GsQueuedItem) (e : ℕ) :
    s.notifySpace.submission ≠ some (item, .asleep e) := by
  unfold notifySpace
  split
  · rintro ⟨⟩
  · rename_i hawake
    exact fun hsub => hawake _ _ hsub

/-- The producer is awake and knows what it knew. -/
theorem Epochs.notifySpace (h : s.Epochs) : s.notifySpace.Epochs := by
  rcases s.notifySpace_eq with heq | ⟨item, e, hsub, heq⟩ <;> rw [heq]
  · exact h
  · rw [Epochs, hsub] at h
    exact ⟨h.1, h.2.1⟩

theorem Epochs.submitStep (h : s.Epochs) (hpayload : s.Payload) (fails : Bool) :
    (s.submitStep fails).Epochs := by
  rcases hsub : s.submission with _ | ⟨item, pc⟩
  · simpa [GsSubmissionSystem.submitStep, hsub] using h
  cases pc with
  | asleep e => simpa only [GsSubmissionSystem.submitStep, hsub] using h
  | loadSpaceEpoch =>
    simp only [GsSubmissionSystem.submitStep, hsub]
    exact Nat.le_refl s.spaceEpoch
  | testFull e =>
    rw [Epochs, hsub] at h
    simp only [GsSubmissionSystem.submitStep, hsub]
    split
    · rename_i hfull
      have hroom : ¬s.HasRoom item := fun hroom => by
        simp [full] at hfull
        exact absurd hroom.1 (Nat.not_lt.2 hfull)
      exact ⟨h, fun _ => .inl hroom⟩
    · exact h
  | loadPayload e =>
    rw [Epochs, hsub] at h
    simp only [GsSubmissionSystem.submitStep, hsub]
    split
    · rename_i hexceeds
      have hle := hpayload.bytes_le
      have hroom : ¬s.HasRoom item := fun hroom => by
        have hfits := hroom.2
        simp only [payloadExceeds, decide_eq_true_eq] at hexceeds
        omega
      exact ⟨h, fun _ => .inl hroom⟩
    · trivial
  | unreserve e => exact (hsub ▸ hpayload.admits : s.Admits (some (item, .unreserve e))).elim
  | recheckAccepting e =>
    rw [Epochs, hsub] at h
    simp only [GsSubmissionSystem.submitStep, hsub]
    split
    · exact ⟨h.1, fun heq => (h.2 heq).imp_left fun hroom => ⟨hroom, ‹_›⟩⟩
    · trivial
  | wait e =>
    rw [Epochs, hsub] at h
    simp only [GsSubmissionSystem.submitStep, hsub]
    split
    · exact ⟨h.1, h.2, fun hne => absurd ‹_› hne⟩
    · trivial
  | _ =>
    simp only [GsSubmissionSystem.submitStep, hsub, GsSubmissionSystem.signalWork]
    repeat' split
    all_goals trivial

theorem Epochs.workerStep (h : s.Epochs) (hclosing : s.Closing) (throws : Bool) :
    (s.workerStep throws).Epochs := by
  have howes : ∀ {s' : GsSubmissionSystem}, (∀ next, s.worker ≠ .signalSpace next) →
      s'.stopping = s.stopping → s.OwesSpace → s'.OwesSpace :=
    fun hworker hstop howes =>
      .inr (hstop ▸ howes.resolve_left fun hex => hex.elim fun next hnext => hworker next hnext)
  have hnotifies : ∀ {s' : GsSubmissionSystem}, (∀ next, s.worker ≠ .notifySpace next) →
      s'.stopping = s.stopping → s.NotifiesSpace → s'.NotifiesSpace :=
    fun hworker hstop hnotifies =>
      .inr (hstop ▸ hnotifies.resolve_left fun hex => hex.elim fun next hnext => hworker next hnext)
  cases hworker : s.worker with
  | notStarted | asleep | exited => simpa only [GsSubmissionSystem.workerStep, hworker] using h
  | pop =>
    simp only [GsSubmissionSystem.workerStep, hworker]
    split
    · exact EpochOk.kept h rfl (fun _ => id) rfl (howes (by simp [hworker]) rfl)
        (.inr (hnotifies (by simp [hworker]) rfl))
    · exact EpochOk.owing h rfl (.inl ⟨_, rfl⟩) (hnotifies (by simp [hworker]) rfl)
  | release i cancels =>
    simp only [GsSubmissionSystem.workerStep, hworker, GsSubmissionSystem.release]
    split
    · exact EpochOk.kept h rfl (fun _ => id) rfl (howes (by simp [hworker]) rfl)
        (.inr (hnotifies (by simp [hworker]) rfl))
    · exact EpochOk.owing h rfl (.inl ⟨_, rfl⟩) (hnotifies (by simp [hworker]) rfl)
  | closeAdmission i =>
    simp only [GsSubmissionSystem.workerStep, hworker]
    exact EpochOk.owing h rfl (.inl ⟨_, rfl⟩) (hnotifies (by simp [hworker]) rfl)
  | signalSpace next =>
    simp only [GsSubmissionSystem.workerStep, hworker, GsSubmissionSystem.signalSpace]
    split
    · exact EpochOk.kept h rfl (fun _ => id) rfl (.imp_left fun _ => ⟨next, rfl⟩)
        (.inr (hnotifies (by simp [hworker]) rfl))
    · exact EpochOk.raised h rfl (.inl ⟨next, rfl⟩)
  | notifySpace next =>
    have hkept := s.notifySpace_worker
    simp only [GsSubmissionSystem.workerStep, hworker]
    refine EpochOk.kept h.notifySpace rfl (fun _ => id) rfl ?_ (.inl s.notifySpace_awake)
    rw [OwesSpace, hkept, hworker]
    exact .imp_left (by rintro ⟨_, ⟨⟩⟩)
  | notifyWork i =>
    have hawake : s.notifyWork = s := by simp [GsSubmissionSystem.notifyWork, hworker]
    simp only [GsSubmissionSystem.workerStep, hworker, hawake]
    exact EpochOk.kept h rfl (fun _ => id) rfl (howes (by simp [hworker]) rfl)
      (.inr (hnotifies (by simp [hworker]) rfl))
  | cancelQueued =>
    -- the producers have been shut out
    have hcancelled : s.cancelRequested = true := hclosing.cancelled (by rw [hworker]; rfl)
    have hunadmitted := hclosing.unadmitted (by simp [quiesced, hcancelled])
    simp only [GsSubmissionSystem.workerStep, hworker]
    split
    · exact hunadmitted.epochOk
    · exact hunadmitted.epochOk
  | _ =>
    simp only [GsSubmissionSystem.workerStep, hworker, GsSubmissionSystem.signalWork]
    repeat' split
    all_goals
      exact EpochOk.kept h rfl (fun _ => id) rfl (howes (by simp [hworker]) rfl)
        (.inr (hnotifies (by simp [hworker]) rfl))

theorem Epochs.shutdown (h : s.Epochs) (mode : GsExecutorShutdownMode) :
    (s.shutdown mode).Epochs := by
  unfold GsSubmissionSystem.shutdown
  split
  · exact h
  · rename_i hfree
    rw [Option.not_isSome_iff_eq_none] at hfree
    refine EpochOk.kept h rfl (fun _ => id) rfl ?_ (.inr ?_)
    · exact .imp_right (by rintro ⟨mode, hmode⟩; cases hfree.symm.trans hmode)
    · exact .imp_right (by rintro ⟨mode, hmode⟩; cases hfree.symm.trans hmode)

theorem Epochs.shutdownStep (h : s.Epochs) : s.shutdownStep.Epochs := by
  rcases hstop : s.stopping with _ | ⟨mode, pc⟩
  · simpa [GsSubmissionSystem.shutdownStep, hstop] using h
  have howes : ∀ {s' : GsSubmissionSystem}, pc ≠ .signalSpace → s'.worker = s.worker →
      s.OwesSpace → s'.OwesSpace := by
    intro s' hpc hworker howes
    exact .inl (hworker ▸ howes.resolve_right (by simp [hstop, hpc]))
  have hnotifies : ∀ {s' : GsSubmissionSystem}, pc ≠ .notifySpace → s'.worker = s.worker →
      s.NotifiesSpace → s'.NotifiesSpace := by
    intro s' hpc hworker hnotifies
    exact .inl (hworker ▸ hnotifies.resolve_right (by simp [hstop, hpc]))
  cases pc with
  | closeAdmission =>
    simp only [GsSubmissionSystem.shutdownStep, hstop]
    exact EpochOk.owing h rfl (.inr ⟨mode, rfl⟩) (hnotifies (by rintro ⟨⟩) rfl)
  | signalSpace =>
    simp only [GsSubmissionSystem.shutdownStep, hstop, GsSubmissionSystem.signalSpace]
    split
    · exact EpochOk.kept h rfl (fun _ => id) rfl (.imp_right fun _ => ⟨mode, rfl⟩)
        (.inr (hnotifies (by rintro ⟨⟩) rfl))
    · exact EpochOk.raised h rfl (.inr ⟨mode, rfl⟩)
  | notifySpace =>
    have hkept := s.notifySpace_stopping
    simp only [GsSubmissionSystem.shutdownStep, hstop]
    refine EpochOk.kept h.notifySpace rfl (fun _ => id) rfl ?_ (.inl s.notifySpace_awake)
    rw [OwesSpace, hkept, hstop]
    exact .imp_right (by rintro ⟨_, ⟨⟩⟩)
  | notifyWork =>
    have hkept := s.notifyWork_stopping
    simp only [GsSubmissionSystem.shutdownStep, hstop]
    refine EpochOk.kept h.notifyWork rfl (fun _ => id) rfl ?_ (.inr ?_)
    · rw [OwesSpace, hkept, hstop]
      exact .imp_right (by rintro ⟨_, ⟨⟩⟩)
    · rw [NotifiesSpace, hkept, hstop]
      exact .imp_right (by rintro ⟨_, ⟨⟩⟩)
  | _ =>
    simp only [GsSubmissionSystem.shutdownStep, hstop, GsSubmissionSystem.signalWork]
    repeat' split
    all_goals
      first
      | exact h
      | exact EpochOk.kept h rfl (fun _ => id) rfl (howes (by rintro ⟨⟩) rfl) (.inr (hnotifies (by rintro ⟨⟩) rfl))

end GsSubmissionSystem
end Ps2Recomp
