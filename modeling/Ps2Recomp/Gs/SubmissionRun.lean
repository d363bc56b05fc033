import Ps2Recomp.Gs.SubmissionWaits

/-!
# Every submission is answered once

All the invariants hold in every state that the threads reach together (`inv_run`). Hence the
promises that have been set when the worker is gone are those of the submissions that have returned.

A submission queues its item before it signals, adds its bytes before it queues its item, and a
thread raises the epoch before it wakes the producer: in between the worker sleeps beside an item,
the bytes are more than what is queued, and the producer sleeps on an epoch that has passed
(`between_the_steps`).
-/

namespace Ps2Recomp

open Machine

/-- The worker has set `m_workerExited`. -/
def GsWorker.gone : GsWorker → Bool
  | .signalSpace .exited | .notifySpace .exited | .exited => true
  | _ => false

namespace GsSubmissionSystem

variable {s : GsSubmissionSystem}

/-! ## The end of the worker -/

/-- The worker is gone, or it will never be started. -/
def Exited (s : GsSubmissionSystem) : Prop :=
  s.workerExited = true → s.worker.gone = true ∨ s.worker = .notStarted ∧ s.quiesced = true

theorem Exited.submit (h : s.Exited) (payloadBytes : ℕ) : (s.submit payloadBytes).Exited := by
  unfold GsSubmissionSystem.submit
  split <;> exact h

theorem Exited.notifyWork (h : s.Exited) : s.notifyWork.Exited := by
  rcases s.notifyWork_eq with heq | ⟨hasleep, heq⟩ <;> rw [heq]
  · exact h
  · intro hexited
    have := h hexited
    simp [hasleep, GsWorker.gone] at this

theorem Exited.notifySpace (h : s.Exited) : s.notifySpace.Exited := by
  rcases s.notifySpace_eq with heq | ⟨_, _, _, heq⟩ <;> rw [heq] <;> exact h

theorem Exited.submitStep (h : s.Exited) (hclosing : s.Closing) (fails : Bool) :
    (s.submitStep fails).Exited := by
  rcases hsub : s.submission with _ | ⟨item, pc⟩
  · simpa [GsSubmissionSystem.submitStep, hsub] using h
  cases pc with
  | ensureStarted =>
    have hlive : s.quiesced ≠ true := hclosing.live (by rw [hsub]; exact not_false)
    simp only [GsSubmissionSystem.submitStep, hsub]
    split
    · exact h
    · rename_i hworker
      repeat' split
      · exact h
      · exact h
      · intro hexited
        rcases h hexited with hgone | ⟨-, hquiesced⟩
        · rw [not_not.1 hworker] at hgone
          exact absurd hgone Bool.noConfusion
        · exact absurd hquiesced hlive
  | notifyWork =>
    simp only [GsSubmissionSystem.submitStep, hsub]
    exact h.notifyWork
  | _ =>
    simp only [GsSubmissionSystem.submitStep, hsub, GsSubmissionSystem.signalWork]
    repeat' split
    all_goals exact h

theorem Exited.workerStep (h : s.Exited) (throws : Bool) : (s.workerStep throws).Exited := by
  cases hworker : s.worker with
  | notStarted | asleep | exited => simpa only [GsSubmissionSystem.workerStep, hworker] using h
  | exit =>
    simp only [GsSubmissionSystem.workerStep, hworker]
    exact fun _ => .inl rfl
  | signalSpace next =>
    have hnext : s.workerExited = true → next = .exited := by
      intro hexited
      have := h hexited
      cases next <;> simp_all [GsWorker.gone]
    simp only [GsSubmissionSystem.workerStep, hworker, GsSubmissionSystem.signalSpace]
    split
    · intro hexited
      rw [hnext hexited]
      exact .inl rfl
    · intro hexited
      rw [hnext hexited]
      exact .inl rfl
  | notifySpace next =>
    have hkept := s.notifySpace_worker
    have hnext : s.notifySpace.workerExited = true → next = .exited := by
      intro hexited
      have := h.notifySpace hexited
      rw [hkept, hworker] at this
      cases next <;> simp_all [GsWorker.gone]
    simp only [GsSubmissionSystem.workerStep, hworker]
    intro hexited
    rw [hnext hexited]
    exact .inl rfl
  | notifyWork i =>
    have hawake : s.notifyWork = s := by simp [GsSubmissionSystem.notifyWork, hworker]
    simp only [GsSubmissionSystem.workerStep, hworker, hawake]
    intro hexited
    have := h hexited
    simp [hworker, GsWorker.gone] at this
  | _ =>
    have hrunning : s.workerExited ≠ true := by
      intro hexited
      have := h hexited
      simp [hworker, GsWorker.gone] at this
    simp only [GsSubmissionSystem.workerStep, hworker, GsSubmissionSystem.signalWork,
      GsSubmissionSystem.release]
    repeat' split
    all_goals exact fun hexited => absurd hexited hrunning

theorem Exited.shutdown (h : s.Exited) (mode : GsExecutorShutdownMode) :
    (s.shutdown mode).Exited := by
  unfold GsSubmissionSystem.shutdown
  split
  · exact h
  · rename_i hfree
    rw [Option.not_isSome_iff_eq_none] at hfree
    intro hexited
    have := h hexited
    simp only [quiesced, hfree] at this
    exact this

theorem Exited.shutdownStep (h : s.Exited) (hclosing : s.Closing) : s.shutdownStep.Exited := by
  rcases hstop : s.stopping with _ | ⟨mode, pc⟩
  · simpa [GsSubmissionSystem.shutdownStep, hstop] using h
  cases pc with
  | notifySpace =>
    have hkept := s.notifySpace_stopping
    have hexited := h.notifySpace
    simp only [Exited, quiesced, hkept, hstop] at hexited
    simp only [GsSubmissionSystem.shutdownStep, hstop]
    exact hexited
  | notifyWork =>
    have hkept := s.notifyWork_stopping
    have hexited := h.notifyWork
    simp only [Exited, quiesced, hkept, hstop] at hexited
    simp only [GsSubmissionSystem.shutdownStep, hstop]
    exact hexited
  | quiesce =>
    simp only [GsSubmissionSystem.shutdownStep, hstop]
    split
    · exact h
    · exact fun hexited => (h hexited).imp_right fun hworker => ⟨hworker.1, by
        simp [quiesced, GsSubmissionSystem.requests]⟩
  | request =>
    have hq : ((s.requestStop mode).shutdownGoes mode .signalWork).quiesced = true := by
      cases mode <;> simp [quiesced]
    simp only [GsSubmissionSystem.shutdownStep, hstop]
    intro hexited
    simp only [shutdownGoes, requestStop, Bool.or_eq_true, decide_eq_true_eq] at hexited
    rcases hexited with hexited | hworker
    · exact (h hexited).imp_right fun hworker => ⟨hworker.1, hq⟩
    · exact .inr ⟨hworker, hq⟩
  | join =>
    have hflag : (s.cancelRequested || s.drainRequested) = true :=
      hclosing.requested (by rw [hstop]; rfl)
    simp only [GsSubmissionSystem.shutdownStep, hstop]
    split
    · exact fun hexited => (h hexited).imp_right fun hworker => ⟨hworker.1, by
        simp [quiesced, hflag]⟩
    · exact h
  | _ =>
    simp only [Exited, quiesced, hstop] at h
    simp only [GsSubmissionSystem.shutdownStep, hstop, GsSubmissionSystem.signalSpace,
      GsSubmissionSystem.signalWork]
    repeat' split
    all_goals exact h

/-! ## Runs -/

/-- All the invariants of a reachable state. -/
structure Inv (payloadCapacityBytes : ℕ) (s : GsSubmissionSystem) : Prop where
  capacity : s.payloadCapacityBytes = payloadCapacityBytes
  ledger : s.Ledger
  payload : s.Payload
  closing : s.Closing
  signals : s.Signals
  epochs : s.Epochs
  exited : s.Exited

variable {payloadCapacityBytes : ℕ}

theorem inv_create (queueCapacity payloadCapacityBytes : ℕ) :
    (create queueCapacity payloadCapacityBytes).Inv payloadCapacityBytes where
  capacity := rfl
  ledger := Ledger.create ..
  payload := Payload.create ..
  closing := Closing.create ..
  signals := Signals.create ..
  epochs := Epochs.create ..
  exited := nofun

theorem step_payloadCapacityBytes (s : GsSubmissionSystem) (input : GsSubmissionInput) :
    (s.step input).payloadCapacityBytes = s.payloadCapacityBytes := by
  have hwork : s.notifyWork.payloadCapacityBytes = s.payloadCapacityBytes := by
    rcases s.notifyWork_eq with heq | ⟨-, heq⟩ <;> rw [heq]
  have hspace : s.notifySpace.payloadCapacityBytes = s.payloadCapacityBytes := by
    rcases s.notifySpace_eq with heq | ⟨_, _, _, heq⟩ <;> rw [heq]
  unfold step
  cases input with
  | submit bytes | submitStep fails | workerStep throws | shutdown mode | shutdownStep =>
    simp only [submit, submitStep, workerStep, shutdown, shutdownStep, signalWork, signalSpace,
      release]
    repeat' split
    all_goals first | rfl | exact hwork | exact hspace
  | wakeProducer | wakeWorker =>
    simp only
    split
    · rfl
    · assumption

theorem Inv.step (h : s.Inv payloadCapacityBytes) (input : GsSubmissionInput) :
    (s.step input).Inv payloadCapacityBytes := by
  have hcapacity := (step_payloadCapacityBytes s input).trans h.capacity
  unfold GsSubmissionSystem.step at *
  by_cases hterminated : s.terminated.isSome = true
  · rwa [if_pos hterminated]
  rw [if_neg hterminated] at hcapacity ⊢
  cases input with
  | submit bytes =>
    exact ⟨hcapacity, h.ledger.submit bytes, h.payload.submit bytes, h.closing.submit bytes,
      h.signals.submit bytes, h.epochs.submit bytes, h.exited.submit bytes⟩
  | submitStep fails =>
    exact ⟨hcapacity, h.ledger.submitStep fails, h.payload.submitStep fails,
      h.closing.submitStep fails, h.signals.submitStep h.closing fails,
      h.epochs.submitStep h.payload fails, h.exited.submitStep h.closing fails⟩
  | workerStep throws =>
    exact ⟨hcapacity, h.ledger.workerStep throws, h.payload.workerStep throws,
      h.closing.workerStep throws, h.signals.workerStep h.closing throws,
      h.epochs.workerStep h.closing throws, h.exited.workerStep throws⟩
  | shutdown mode =>
    exact ⟨hcapacity, h.ledger.shutdown mode, h.payload.shutdown mode, h.closing.shutdown mode,
      h.signals.shutdown mode, h.epochs.shutdown mode, h.exited.shutdown mode⟩
  | shutdownStep =>
    exact ⟨hcapacity, h.ledger.shutdownStep, h.payload.shutdownStep, h.closing.shutdownStep,
      h.signals.shutdownStep h.closing, h.epochs.shutdownStep, h.exited.shutdownStep h.closing⟩
  | wakeProducer =>
    exact ⟨hcapacity, h.ledger.notifySpace, h.payload.notifySpace, h.closing.notifySpace,
      h.signals.notifySpace, h.epochs.notifySpace, h.exited.notifySpace⟩
  | wakeWorker =>
    exact ⟨hcapacity, h.ledger.notifyWork, h.payload.notifyWork, h.closing.notifyWork,
      h.signals.notifyWork, h.epochs.notifyWork, h.exited.notifyWork⟩

theorem inv_run (queueCapacity payloadCapacityBytes : ℕ) (inputs : List GsSubmissionInput) :
    (run step (create queueCapacity payloadCapacityBytes) inputs).Inv payloadCapacityBytes :=
  have hrun : Along step (fun _ _ => True) (create queueCapacity payloadCapacityBytes) inputs :=
    along_of_forall fun _ _ _ => trivial
  invariant (fun _ input h _ => h.step input) (inv_create queueCapacity payloadCapacityBytes) hrun

/-! ## The results -/

theorem inFlight_of_unadmitted {submission : Option (GsQueuedItem × GsSubmitting)}
    (h : Unadmitted submission) : inFlight submission = [] := by
  unfold Unadmitted at h
  split at h
  · rfl
  · rfl
  · exact h.elim

/-- When the worker is gone, what has been answered is what has been submitted, in order. -/
theorem Inv.settled_of_exited (h : s.Inv payloadCapacityBytes) (hexited : s.workerExited = true) :
    s.settled.map Prod.fst = s.returned := by
  have horder := h.ledger.order
  rcases h.exited hexited with hgone | ⟨hworker, hquiesced⟩
  · have hemptied : s.worker.emptied = true ∧ s.worker.unsettled = [] := by
      unfold GsWorker.gone at hgone
      split at hgone
      · rename_i hworker
        rw [hworker]
        exact ⟨rfl, rfl⟩
      · rename_i hworker
        rw [hworker]
        exact ⟨rfl, rfl⟩
      · rename_i hworker
        rw [hworker]
        exact ⟨rfl, rfl⟩
      · cases hgone
    obtain ⟨hquiesced, hqueue⟩ := h.signals.emptied hemptied.1
    rw [inFlight_of_unadmitted (h.closing.unadmitted hquiesced), hemptied.2, hqueue] at horder
    simpa using horder.symm
  · obtain ⟨hqueue, hsettled⟩ := h.ledger.unstarted hworker
    rw [inFlight_of_unadmitted (h.closing.unadmitted hquiesced), hworker, hqueue,
      hsettled] at horder
    rw [hsettled]
    simpa [GsWorker.unsettled] using horder.symm

/-- No call is counted twice. -/
theorem Ledger.nodup (h : s.Ledger) : (s.returned ++ s.thrown ++ underWay s.submission).Nodup :=
  h.calls.nodup_iff.2 List.nodup_range

/-- What is in flight is under way. -/
theorem inFlight_sublist (submission : Option (GsQueuedItem × GsSubmitting)) :
    (inFlight submission).Sublist (underWay submission) := by
  rcases submission with _ | ⟨item, pc⟩
  · exact List.Sublist.refl _
  · rw [inFlight_some, underWay_some]
    split
    · exact List.Sublist.refl _
    · exact List.nil_sublist _

/-- No promise is set twice, and none of a call that has thrown is set or queued. -/
theorem Ledger.answers (h : s.Ledger) :
    (s.settled.map Prod.fst).Nodup ∧ ∀ promise ∈ s.thrown,
      promise ∉ s.queue.map GsQueuedItem.promise ∧ promise ∉ s.settled.map Prod.fst := by
  have hnodup := h.nodup
  have hcomm : (s.returned ++ underWay s.submission ++ s.thrown).Nodup := by
    rw [List.append_assoc] at hnodup ⊢
    exact (List.perm_append_comm.append_left s.returned).nodup_iff.1 hnodup
  have hsub : (s.returned ++ inFlight s.submission ++ s.thrown).Nodup :=
    hcomm.sublist ((inFlight_sublist s.submission).append_left s.returned |>.append_right s.thrown)
  rw [h.order] at hsub
  obtain ⟨hanswered, -, hdisjoint⟩ := List.nodup_append.1 hsub
  refine ⟨?_, fun promise hthrown => ⟨fun hqueued => ?_, fun hsettled => ?_⟩⟩
  · rw [List.append_assoc] at hanswered
    exact (List.nodup_append.1 hanswered).1
  · exact hdisjoint promise (List.mem_append_right _ hqueued) promise hthrown rfl
  · exact hdisjoint promise (List.mem_append_left _ (List.mem_append_left _ hsettled)) promise
      hthrown rfl

/-- The worker sleeps beside an item only while its submission is about to give the signal, or to
wake the worker. -/
theorem Inv.worker_asleep (h : s.Inv payloadCapacityBytes) (hasleep : s.worker = .asleep)
    (hqueue : s.queue ≠ []) :
    ∃ item, s.submission = some (item, .signalWork) ∨ s.submission = some (item, .notifyWork) := by
  by_cases hsignals : s.workSignals = 0
  · have henough := h.signals.enough (by rw [hasleep]; rfl)
    have hpos : 0 < s.queue.length := List.length_pos_iff.2 hqueue
    rw [hasleep, hsignals] at henough
    unfold owedSignals at henough
    split at henough
    · rename_i item hsub
      exact ⟨item, .inl hsub⟩
    · exact absurd henough (by simp [GsWorker.heldSignals, hqueue])
  · obtain ⟨item, hsub⟩ := (h.signals.called hasleep hsignals).resolve_right fun hempty =>
      hqueue hempty.2
    exact ⟨item, .inr hsub⟩

/-- The producer sleeps beside room, on a closed door or on an epoch that has passed only while
somebody is about to raise the epoch, or to wake the producer. -/
theorem Inv.producer_asleep (h : s.Inv payloadCapacityBytes) {item : GsQueuedItem} {e : ℕ}
    (hsub : s.submission = some (item, .asleep e))
    (hwait : s.HasRoom item ∨ s.accepting = false ∨ s.spaceEpoch ≠ e) :
    s.OwesSpace ∨ s.NotifiesSpace := by
  obtain ⟨-, hcurrent, hpassed⟩ := (hsub ▸ h.epochs : s.EpochOk (some (item, .asleep e)))
  by_cases hepoch : s.spaceEpoch = e
  · refine (hcurrent hepoch).elim (fun hblocked => ?_) .inl
    rcases hwait with hroom | hclosed | hne
    · exact absurd hroom hblocked.1
    · exact absurd (hclosed.symm.trans hblocked.2) Bool.noConfusion
    · exact absurd hepoch hne
  · exact .inr (hpassed hepoch)

/-- **No submission is lost or answered twice.** -/
theorem submissions_answered (queueCapacity payloadCapacityBytes : ℕ)
    (inputs : List GsSubmissionInput) :
    let s := run step (create queueCapacity payloadCapacityBytes) inputs
    (s.workerExited = true →
      ∀ promise ∈ s.returned, (s.settled.map Prod.fst).count promise = 1) ∧
    (s.settled.map Prod.fst).Nodup ∧
    (∀ promise ∈ s.thrown,
      promise ∉ s.queue.map GsQueuedItem.promise ∧ promise ∉ s.settled.map Prod.fst) ∧
    s.queuedPayloadBytes =
      (s.queue.map GsQueuedItem.payloadBytes).sum + s.worker.unreleased +
        reservedBytes s.submission ∧
    s.queuedPayloadBytes ≤ payloadCapacityBytes ∧
    s.terminated ≠ some .payloadBytes ∧
    (s.worker = .asleep → s.queue ≠ [] → ∃ item,
      s.submission = some (item, .signalWork) ∨ s.submission = some (item, .notifyWork)) ∧
    (∀ item e, s.submission = some (item, .asleep e) →
      s.HasRoom item ∨ s.accepting = false ∨ s.spaceEpoch ≠ e →
      s.OwesSpace ∨ s.NotifiesSpace) := by
  intro s
  have hinv : s.Inv payloadCapacityBytes := inv_run queueCapacity payloadCapacityBytes inputs
  obtain ⟨hnodup, hthrown⟩ := hinv.ledger.answers
  refine ⟨?_, hnodup, hthrown, hinv.payload.bytes_eq, ?_, hinv.payload.no_underflow,
    hinv.worker_asleep, fun item e hsub hwait => hinv.producer_asleep hsub hwait⟩
  · intro hexited promise hreturned
    rw [← hinv.settled_of_exited hexited] at hreturned
    exact List.count_eq_one_of_mem hnodup hreturned
  · exact hinv.capacity ▸ hinv.payload.bytes_le

/-- A submission of one byte and its first steps. -/
def submitFor (steps : ℕ) : List GsSubmissionInput :=
  .submit 1 :: List.replicate steps (.submitStep false)

set_option maxRecDepth 4000 in
/-- **Between two steps** the worker sleeps beside an item, the bytes are more than what is queued
or not released, and the producer sleeps on an epoch that has passed although there is room. -/
theorem between_the_steps :
    (let s := run step (create 1 8) (submitFor 3 ++ List.replicate 2 (.workerStep false) ++
      List.replicate 7 (.submitStep false));
    s.worker = .asleep ∧ s.queue = [⟨0, 1⟩]) ∧
    (let s := run step (create 1 8) (submitFor 9);
    s.queue = [] ∧ s.worker.unreleased = 0 ∧ s.queuedPayloadBytes = 1) ∧
    (let s := run step (create 1 8)
      (submitFor 13 ++ submitFor 9 ++ List.replicate 4 (.workerStep false));
    s.submission = some (⟨1, 1⟩, .asleep 0) ∧ s.spaceEpoch = 1 ∧ s.queue = [] ∧
      s.queuedPayloadBytes + 1 ≤ s.payloadCapacityBytes) := by
  refine ⟨?_, ?_, ?_⟩ <;> decide

end GsSubmissionSystem

end Ps2Recomp
