import Ps2Recomp.Vu.CommandIdentity
import Mathlib.Data.List.Range

/-!
# The threaded VU1 executor: runs

`Inv` is the agreement of producer and worker in every state: the items on their way lead from where
the processor stands to where the producer stands, and a submission that is under way will extend
them by one. It holds along every run whose steps all satisfy `KeepsIdentities`
(`identities_agree`).
-/

namespace Ps2Recomp

open Machine Vu1Position

variable {υ β : Type} {vu : Vu1Unit υ β}

namespace ThreadedVu1Executor

variable {s : ThreadedVu1Executor υ β}

/-- What the worker has still to process, in order. -/
def pending (s : ThreadedVu1Executor υ β) : List (Vu1WorkItem β) := s.active.toList ++ s.queue

/-- The producer without the submission that is under way. -/
def settled (s : ThreadedVu1Executor υ β) : Vu1Producer :=
  match s.submitting with
  | none => s.producer
  | some p => p.entry

/-- The call reaches the point where its resolution takes effect. -/
structure Resolving (s : ThreadedVu1Executor υ β) (request : Vu1SubmitRequest β) : Prop where
  free : s.submitting = none
  accepting : s.accepting = true
  type : request.resultless = true → request.payload.type.supportsResultlessAdmission = true
  flag : request.commitsExtendedSpeculativeAdvance = false
  resolution : request.resolution ≠ .None
  outstanding : s.producer.speculationCheckpoint.isSome = true

/-- The step is none of those that let producer and worker part: a submission that resolves a
speculation is not refused afterwards, and the worker can digest what it processes. -/
def KeepsIdentities (vu : Vu1Unit υ β) (s : ThreadedVu1Executor υ β) : Vu1ExecutorInput β → Prop
  | .submit request =>
    s.Resolving request → s.producer.Affords s.payloadCapacityBytes request
  | .tryEnqueue => ∀ p ∈ s.submitting, p.item.speculationResolution ≠ .None → s.accepting = true
  | .work => ∀ item ∈ s.active, s.processor.Digestible vu s.minimumAcceptedGeneration item
  | _ => True

structure Inv (s : ThreadedVu1Executor υ β) : Prop where
  path : ∃ v, Path Fits v s.pending s.settled.position ∧
    s.processor.Follows v s.minimumAcceptedGeneration
  coherent : s.settled.Coherent
  awaits : ∀ p ∈ s.submitting, s.producer.Awaits p
  bound : s.minimumAcceptedGeneration ≤ s.settled.generation
  cancelling : ∀ generation ∈ s.cancelling, generation ≤ s.settled.generation
  fatal : s.fatalFailure = none
  results : ∀ c ∈ s.completions, c.disposition = .Completed ∨
    c.disposition = .StaleGeneration ∧ c.generation < s.minimumAcceptedGeneration
  tickets : s.completions.map (·.ticket) ++ s.pending.map (·.ticket) =
    List.range' 1 s.settled.nextTicket

theorem inv_create {queueCapacity payloadCapacityBytes : ℕ} {processor : Vu1CommandProcessor υ}
    (hidle : processor.speculativeSliceCheckpoint = none) :
    (create queueCapacity payloadCapacityBytes processor : ThreadedVu1Executor υ β).Inv where
  path := by
    refine ⟨⟨processor.generation, processor.nextSequence, none⟩, Path.nil _, rfl, ?_, ?_, ?_⟩
    · exact congrArg Option.isSome hidle
    · intro c hc
      rw [Option.mem_def, show (create queueCapacity payloadCapacityBytes processor :
        ThreadedVu1Executor υ β).processor = processor from rfl, hidle] at hc
      cases hc
    · exact Or.inr ⟨rfl, congrArg (Option.map _) hidle⟩
  coherent := nofun
  awaits _ hp := absurd hp (Option.not_mem_none _)
  bound := Nat.le_refl _
  cancelling := nofun
  fatal := rfl
  results := nofun
  tickets := rfl

/-! ## Steps -/

theorem settled_of_idle (hidle : s.submitting = none) : s.settled = s.producer := by
  unfold settled
  rw [hidle]

/-- The submission that is under way is not yet settled. -/
theorem Inv.submitting (h : s.Inv) (hidle : s.submitting = none) {producer : Vu1Producer}
    {p : Vu1Submitting β} (hentry : p.entry = s.producer) (hawaits : producer.Awaits p) :
    ({ s with producer, submitting := some p } : ThreadedVu1Executor υ β).Inv := by
  have hsettled : ({ s with producer, submitting := some p } : ThreadedVu1Executor υ β).settled =
      s.settled := hentry.trans (settled_of_idle hidle).symm
  refine ⟨hsettled ▸ h.path, hsettled ▸ h.coherent, ?_, hsettled ▸ h.bound,
    hsettled ▸ h.cancelling, h.fatal, h.results, hsettled ▸ h.tickets⟩
  intro p' hp'
  cases hp'
  exact hawaits

/-- **A submission keeps the agreement, and one that throws leaves everything as it was.** -/
theorem Inv.submit (h : s.Inv) {request : Vu1SubmitRequest β}
    (hinput : s.KeepsIdentities vu (.submit request)) :
    (s.submit request).1.Inv ∧ ((s.submit request).2.isSome → (s.submit request).1 = s) := by
  unfold ThreadedVu1Executor.submit
  split
  next => exact ⟨h, nofun⟩
  next hbusy =>
    have hidle : s.submitting = none := by simpa using hbusy
    split
    next => exact ⟨h, fun _ => rfl⟩
    next htype =>
      split
      next => exact ⟨h, fun _ => rfl⟩
      next haccepting =>
        split
        next => exact ⟨h, fun _ => rfl⟩
        next producer extendedIdentity hok =>
          have hcoherent : s.producer.Coherent := settled_of_idle hidle ▸ h.coherent
          dsimp only
          rcases Vu1Producer.resolveSpeculation_ok hcoherent hok with
            ⟨hresolved, rfl⟩ | ⟨hextended, rfl⟩
          · -- A resolution that has taken effect is followed by an item.
            have hsame : (¬ s.producer.Affords s.payloadCapacityBytes request) →
                producer = s.producer := by
              intro hrefused
              refine hresolved.unresolved ?_
              by_contra hresolution
              refine hrefused (hinput ⟨hidle, by simpa using haccepting, fun hr => ?_,
                hresolved.flag, hresolution, hresolved.outstanding hresolution⟩)
              simpa [hr] using htype
            split
            next hbegins =>
              have hproducer : producer = s.producer := by
                refine hsame fun hafford => ?_
                simp only [Bool.and_eq_true, bne_iff_ne, ne_eq] at hbegins
                exact hbegins.2 (hafford.begins hbegins.1)
              subst hproducer
              exact ⟨h, fun _ => rfl⟩
            next hbegins =>
              split
              next failure hfailure =>
                have hproducer : producer = s.producer := by
                  refine hsame fun hafford => ?_
                  exact hresolved.makeItem hafford failure hfailure
                subst hproducer
                exact ⟨h, fun _ => rfl⟩
              next item hitem =>
                refine ⟨h.submitting hidle rfl (hresolved.awaits (fun hb => ?_) hitem), nofun⟩
                simpa [hb] using hbegins
          · have hbegins : ¬ (request.beginsSpeculativeSlice &&
                request.payload.type != .AdvanceSlice) = true := by
              simp [hextended.begins]
            rw [if_neg hbegins]
            split
            next => exact ⟨h, fun _ => rfl⟩
            next item hitem => exact ⟨h.submitting hidle rfl (hextended.awaits hitem), nofun⟩

theorem Inv.tryEnqueue (h : s.Inv) (hinput : s.KeepsIdentities vu .tryEnqueue) :
    s.tryEnqueue.1.Inv ∧ (s.tryEnqueue.2.isSome → s.tryEnqueue.1.producer = s.settled) := by
  unfold ThreadedVu1Executor.tryEnqueue
  split
  next hidle =>
    exact ⟨h, nofun⟩
  next p hp =>
    have hsettled : s.settled = p.entry := by
      unfold settled
      rw [hp]
    have hawaits := h.awaits p hp
    split
    next hclosed =>
      have hnone : p.item.speculationResolution = .None := by
        by_contra hne
        rw [hinput p hp hne] at hclosed
        cases hclosed
      have hproducer : s.producer = s.settled := by rw [hsettled, hawaits.unresolved hnone]
      have hinv : ({ s with submitting := none } : ThreadedVu1Executor υ β).Inv := by
        have hsame : ({ s with submitting := none } : ThreadedVu1Executor υ β).settled =
            s.settled := hproducer
        exact ⟨hsame ▸ h.path, hsame ▸ h.coherent, fun _ hp => absurd hp (Option.not_mem_none _),
          hsame ▸ h.bound, hsame ▸ h.cancelling, h.fatal, h.results, hsame ▸ h.tickets⟩
      exact ⟨hinv, fun _ => hproducer⟩
    next =>
      split
      next => exact ⟨h, nofun⟩
      next =>
        refine ⟨?_, nofun⟩
        obtain ⟨v, hpath, hfollows⟩ := h.path
        have htickets := h.tickets
        have hcancelling := h.cancelling
        have hbound := h.bound
        rw [hsettled] at hpath htickets hcancelling hbound
        have hpending : ({ s with
            queue := s.queue ++ [p.item]
            queuedPayloadBytes := s.queuedPayloadBytes + p.item.payloadBytes
            producer := s.producer.submitted p
            submitting := none } : ThreadedVu1Executor υ β).pending = s.pending ++ [p.item] :=
          (List.append_assoc _ _ _).symm
        refine ⟨⟨v, ?_, hfollows⟩, hawaits.coherent,
          fun _ hp => absurd hp (Option.not_mem_none _), hbound.trans hawaits.generation,
          fun g hg => (hcancelling g hg).trans hawaits.generation, h.fatal, h.results, ?_⟩
        · rw [hpending]
          exact hpath.snoc hawaits.fits
        · have hnext : (s.producer.submitted p).nextTicket = p.entry.nextTicket + 1 :=
            hawaits.ticket
          have hconcat : List.range' 1 (p.entry.nextTicket + 1) =
              List.range' 1 p.entry.nextTicket ++ [p.item.ticket] := by
            rw [List.range'_1_concat, hawaits.ticket, Nat.add_comm 1]
          rw [hpending, List.map_append, ← List.append_assoc, htickets]
          change _ = List.range' 1 (s.producer.submitted p).nextTicket
          rw [hnext, hconcat]
          rfl

theorem Inv.cancelPendingBeforeGeneration (h : s.Inv) {generation : ℕ} :
    (s.cancelPendingBeforeGeneration generation).1.Inv ∧
      ((s.cancelPendingBeforeGeneration generation).2.isSome →
        (s.cancelPendingBeforeGeneration generation).1 = s) := by
  unfold ThreadedVu1Executor.cancelPendingBeforeGeneration
  split
  next => exact ⟨h, nofun⟩
  next hbusy =>
    split
    next => exact ⟨h, fun _ => rfl⟩
    next =>
      split
      next => exact ⟨h, fun _ => rfl⟩
      next hle =>
        refine ⟨⟨h.path, h.coherent, h.awaits, h.bound, fun g hg => ?_, h.fatal, h.results,
          h.tickets⟩, nofun⟩
        have hidle : s.submitting = none := by simpa using hbusy
        rcases List.mem_cons.1 hg with rfl | hg
        · have hsettled := settled_of_idle hidle
          exact (Nat.le_of_not_lt hle).trans_eq (congrArg Vu1Producer.generation hsettled.symm)
        · exact h.cancelling g hg

theorem Inv.raiseMinimumAcceptedGeneration (h : s.Inv) {generation : ℕ} :
    (s.raiseMinimumAcceptedGeneration generation).Inv := by
  unfold ThreadedVu1Executor.raiseMinimumAcceptedGeneration
  split
  next hmem =>
    obtain ⟨v, hpath, hfollows⟩ := h.path
    have hle : s.minimumAcceptedGeneration ≤ max s.minimumAcceptedGeneration generation :=
      Nat.le_max_left _ _
    exact ⟨⟨v, hpath, hfollows.mono hle⟩, h.coherent, h.awaits,
      Nat.max_le.2 ⟨h.bound, h.cancelling generation hmem⟩,
      fun g hg => h.cancelling g (List.mem_of_mem_erase hg), h.fatal,
      fun c hc => (h.results c hc).imp_right fun hc => ⟨hc.1, Nat.lt_of_lt_of_le hc.2 hle⟩,
      h.tickets⟩
  next => exact h

theorem Inv.dequeue (h : s.Inv) : s.dequeue.Inv := by
  unfold ThreadedVu1Executor.dequeue
  split
  next => exact h
  next hbusy =>
    push Not at hbusy
    have hactive : s.active = none := by simpa using hbusy.1
    split
    next => exact h
    next item rest hqueue =>
      have hpending : ({ s with active := some item, queue := rest } :
          ThreadedVu1Executor υ β).pending = s.pending := by
        simp [pending, hactive, hqueue]
      exact ⟨hpending ▸ h.path, h.coherent, h.awaits, h.bound, h.cancelling, h.fatal, h.results,
        hpending ▸ h.tickets⟩

theorem Inv.work (h : s.Inv) (hinput : s.KeepsIdentities vu .work) : (s.work vu).Inv := by
  unfold ThreadedVu1Executor.work
  split
  next => exact h
  next item hactive =>
    obtain ⟨v, hpath, hfollows⟩ := h.path
    have hpending : s.pending = item :: s.queue := by simp [pending, hactive]
    have htickets := h.tickets
    rw [hpending] at hpath htickets
    obtain ⟨v', hfits, htail⟩ := hpath.of_cons
    obtain ⟨disposition, processor, hdone, hfollows', hdisposition⟩ :=
      hfollows.processItem hfits (hinput item hactive)
    rw [hdone]
    refine ⟨⟨v', htail, hfollows'⟩, h.coherent, h.awaits, h.bound, h.cancelling, h.fatal, ?_, ?_⟩
    · intro c hc
      rcases List.mem_append.1 hc with hc | hc
      · exact h.results c hc
      · rw [List.mem_singleton.1 hc]
        exact hdisposition
    · rw [List.map_append, List.append_assoc]
      exact htickets

/-! ## Runs -/

theorem step_inv (s : ThreadedVu1Executor υ β) (input : Vu1ExecutorInput β) (h : s.Inv)
    (hinput : s.KeepsIdentities vu input) : (s.step vu input).Inv := by
  cases input with
  | submit request => exact (h.submit hinput).1
  | tryEnqueue => exact (h.tryEnqueue hinput).1
  | cancelPendingBeforeGeneration generation => exact h.cancelPendingBeforeGeneration.1
  | raiseMinimumAcceptedGeneration generation => exact h.raiseMinimumAcceptedGeneration
  | closeAdmission =>
    exact ⟨h.path, h.coherent, h.awaits, h.bound, h.cancelling, h.fatal, h.results, h.tickets⟩
  | dequeue => exact h.dequeue
  | work => exact h.work hinput

/-- A call that throws leaves the producer as it found it. -/
theorem step_throws (h : s.Inv) {input : Vu1ExecutorInput β}
    (hinput : s.KeepsIdentities vu input) (hthrows : (s.stepThrowing vu input).2.isSome) :
    (s.step vu input).producer = s.settled := by
  have hidle (hsame : (s.step vu input) = s) (hfree : s.submitting = none) :
      (s.step vu input).producer = s.settled := by
    rw [hsame, settled_of_idle hfree]
  cases input with
  | submit request =>
    refine hidle ((h.submit hinput).2 hthrows) ?_
    by_contra hbusy
    simp [stepThrowing, ThreadedVu1Executor.submit, Option.isSome_iff_ne_none.2 hbusy] at hthrows
  | tryEnqueue => exact (h.tryEnqueue hinput).2 hthrows
  | cancelPendingBeforeGeneration generation =>
    refine hidle (h.cancelPendingBeforeGeneration.2 hthrows) ?_
    by_contra hbusy
    simp [stepThrowing, ThreadedVu1Executor.cancelPendingBeforeGeneration,
      Option.isSome_iff_ne_none.2 hbusy] at hthrows
  | raiseMinimumAcceptedGeneration generation => cases hthrows
  | closeAdmission => cases hthrows
  | dequeue => cases hthrows
  | work => cases hthrows

/-- **In every run whose steps keep the identities, the worker never fails, completes the tickets in
order and drops only what is below the cancellation bound; once everything is processed both sides
count alike; and a submission that throws leaves the producer as it found it.** -/
theorem identities_agree {queueCapacity payloadCapacityBytes : ℕ}
    {processor : Vu1CommandProcessor υ} {inputs : List (Vu1ExecutorInput β)}
    (hidle : processor.speculativeSliceCheckpoint = none)
    (hrun : Along (step vu) (KeepsIdentities vu)
      (create queueCapacity payloadCapacityBytes processor) inputs) :
    let s := run (step vu) (create queueCapacity payloadCapacityBytes processor) inputs
    s.fatalFailure = none ∧
    (∀ c ∈ s.completions, c.disposition = .Completed ∨
      c.disposition = .StaleGeneration ∧ c.generation < s.minimumAcceptedGeneration) ∧
    s.completions.map (·.ticket) = List.range' 1 s.completions.length ∧
    (s.submitting = none → s.active = none → s.queue = [] →
      s.producer.generation = s.processor.generation ∧
      s.producer.nextSequence = s.processor.nextSequence ∧
      s.producer.speculationCheckpoint.isSome =
        s.processor.speculativeSliceCheckpoint.isSome) ∧
    ∀ input, s.KeepsIdentities vu input → (s.stepThrowing vu input).2.isSome →
      (s.step vu input).producer = s.settled := by
  intro s
  have h : s.Inv := invariant step_inv (inv_create hidle) hrun
  refine ⟨h.fatal, h.results, ?_, fun hfree hactive hqueue => ?_, fun input => step_throws h⟩
  · have hprefix : s.completions.map (·.ticket) <+: List.range' 1 s.settled.nextTicket :=
      ⟨_, h.tickets⟩
    have hlength := hprefix.length_le
    rw [List.length_map, List.length_range'] at hlength
    rw [List.prefix_iff_eq_take.1 hprefix, List.length_map, List.take_range'_of_length_ge hlength]
  · obtain ⟨v, hpath, hfollows⟩ := h.path
    have hpending : s.pending = [] := by simp [pending, hactive, hqueue]
    rw [hpending, settled_of_idle hfree] at hpath
    cases hpath
    have hbound := h.bound
    rw [settled_of_idle hfree] at hbound
    have hsync := hfollows.sequence.resolve_left (Nat.not_lt.2 hbound)
    refine ⟨hfollows.generation.symm, hsync.1.symm, ?_⟩
    rw [hfollows.outstanding]
    exact (Option.isSome_map ..).symm

/-! ## Where they part -/

def acceptingUnit : Vu1Unit Unit Unit where
  validPayload _ _ := true
  apply u _ := (u, .Completed)
  advanceSlice u _ := u

def slicePayload : Vu1CommandPayload Unit := ⟨.AdvanceSlice, 5, 100, ()⟩

def resetPayload : Vu1CommandPayload Unit := ⟨.Reset, 2, 0, ()⟩

def writePayload : Vu1CommandPayload Unit := ⟨.DataMemoryWrite, 16, 0, ()⟩

/-- A slice is speculated and rolled back by a reset. -/
def speculateThenReset : List (Vu1ExecutorInput Unit) :=
  [.submit { payload := slicePayload, beginsSpeculativeSlice := true }, .tryEnqueue, .dequeue,
    .work, .submit { payload := resetPayload, resolution := .Rollback }, .tryEnqueue, .dequeue,
    .work]

theorem identities_agree_reset :
    let s := run (step acceptingUnit) (create 4 8 { unit := () }) speculateThenReset
    s.producer.generation = 2 ∧ s.producer.generation = s.processor.generation ∧
    s.producer.nextSequence = s.processor.nextSequence := by
  have hdigest (p : Vu1CommandProcessor Unit) (item : Vu1WorkItem Unit) (bound : ℕ)
      (hlive : bound ≤ item.identity.generation)
      (hsequence : item.identity.sequence ≠ uint64Max.val) (hopen : p.shutdown = false) :
      p.Digestible acceptingUnit bound item :=
    ⟨fun hlt => absurd hlt (Nat.not_lt.2 hlive), fun _ => ⟨hsequence, hopen, rfl, rfl⟩⟩
  have hrun : Along (step acceptingUnit) (KeepsIdentities acceptingUnit)
      (create 4 8 { unit := () }) speculateThenReset := by
    refine ⟨fun h => absurd rfl h.resolution, ?_, trivial, ?_, fun _ => ?_, ?_, trivial, ?_,
      trivial⟩
    · intro p _ _
      rfl
    · rintro item hitem
      cases hitem
      exact hdigest _ _ _ (by decide) (by decide) rfl
    · exact ⟨by decide, by decide, by decide, by decide, by decide⟩
    · intro p _ _
      rfl
    · rintro item hitem
      cases hitem
      exact hdigest _ _ _ (by decide) (by decide) rfl
  obtain ⟨-, -, -, hdrained, -⟩ := identities_agree rfl hrun
  obtain ⟨hgeneration, hsequence, -⟩ := hdrained rfl rfl rfl
  exact ⟨by decide, hgeneration, hsequence⟩

/-- A refused submission has consumed the speculation it was to roll back, and the next command is
fatal; so is a cancellation that drops the first of two resets. -/
theorem identities_part :
    (let before := run (step acceptingUnit) (create 4 8 { unit := () })
        [.submit { payload := slicePayload, beginsSpeculativeSlice := true }, .tryEnqueue]
      let request : Vu1SubmitRequest Unit := { payload := writePayload, resolution := .Rollback }
      (before.submit request).2.isSome = true ∧ before.producer.nextSequence = 2 ∧
      (before.submit request).1.producer.nextSequence = 1 ∧
      (run (step acceptingUnit) (before.submit request).1
        [.submit { payload := resetPayload }, .tryEnqueue, .dequeue, .work, .dequeue,
          .work]).fatalFailure.isSome = true) ∧
    (run (step acceptingUnit) (create 4 8 { unit := () })
      [.submit { payload := resetPayload }, .tryEnqueue, .submit { payload := resetPayload },
        .tryEnqueue, .cancelPendingBeforeGeneration 3, .raiseMinimumAcceptedGeneration 3, .dequeue,
        .work, .dequeue, .work]).fatalFailure.isSome = true := by
  decide

end ThreadedVu1Executor

end Ps2Recomp
