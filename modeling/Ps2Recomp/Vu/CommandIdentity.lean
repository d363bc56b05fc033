import Ps2Recomp.Vu.CommandExecutor

/-!
# Producer and worker agree on identities

`Fits v item v'` is the numbering rule of both sides: an owner that stands at `v` accepts `item` and
then stands at `v'`. The producer is always ahead of the worker by exactly the items on their way:
they lead from an owner position `v` to the producer's own position, and the processor stands at `v`
(`Follows`), except that it may not have counted the items that it dropped as stale in a generation
below the bound; a new generation makes up for that.

Three steps break the rule. A submission that resolves a speculation and is refused afterwards has
changed the producer but reaches nobody. A cancellation that drops a command which opens a
generation or begins a speculation leaves the processor behind for good. And the last sequence
number is given out by the producer but not accepted by the processor. `Digestible` and
`Vu1Producer.Affords` exclude them.
-/

namespace Ps2Recomp

open Machine

variable {υ β : Type} {vu : Vu1Unit υ β}

/-! ## The numbering rule -/

/-- A position in the numbering: the generation, the next sequence number, and, while a speculation
is outstanding, the sequence number it started from. -/
structure Vu1Position where
  generation : ℕ
  nextSequence : ℕ
  speculation : Option ℕ := none
  deriving DecidableEq

namespace Vu1Position

/-- The sequence number after this one; the last one is followed by 0. -/
def sequenceAfter (sequence : ℕ) : ℕ := if sequence = uint64Max.val then 0 else sequence + 1

/-- The position after a resolution, if it is due. -/
inductive Resolves : Vu1Position → Vu1SpeculationResolution → Vu1Position → Prop
  | idle {generation nextSequence : ℕ} :
      Resolves ⟨generation, nextSequence, none⟩ .None ⟨generation, nextSequence, none⟩
  | commit {generation nextSequence start : ℕ} :
      Resolves ⟨generation, nextSequence, some start⟩ .Commit ⟨generation, nextSequence, none⟩
  | rollback {generation nextSequence start : ℕ} :
      Resolves ⟨generation, nextSequence, some start⟩ .Rollback ⟨generation, start, none⟩

/-- An owner at the first position accepts the item and moves on to the second. -/
inductive Fits : Vu1Position → Vu1WorkItem β → Vu1Position → Prop
  | extendsSlice {v : Vu1Position} {start : ℕ} {item : Vu1WorkItem β}
      (hflag : item.commitsExtendedSpeculativeAdvance = true)
      (hspeculation : v.speculation = some start)
      (htype : item.payload.type = .AdvanceSlice)
      (hcycles : item.speculativeExtensionCycles ≤ item.payload.maximumCycles)
      (hgeneration : item.identity.generation = v.generation)
      (hsequence : item.identity.sequence ≠ uint64Max.val)
      (hnext : v.nextSequence = item.identity.sequence + 1)
      (hnone : item.speculationResolution = .None) :
      Fits v item ⟨v.generation, v.nextSequence, none⟩
  | opens {v v' : Vu1Position} {item : Vu1WorkItem β}
      (hflag : item.commitsExtendedSpeculativeAdvance = false)
      (hresolves : Resolves v item.speculationResolution v')
      (hbegins : item.beginsSpeculativeSlice = false)
      (hopens : item.payload.type.startsGeneration = true)
      (hmax : v'.generation ≠ uint64Max.val)
      (hgeneration : item.identity.generation = v'.generation + 1)
      (hsequence : item.identity.sequence = 1) :
      Fits v item ⟨v'.generation + 1, 2, none⟩
  | begins {v v' : Vu1Position} {item : Vu1WorkItem β}
      (hflag : item.commitsExtendedSpeculativeAdvance = false)
      (hresolves : Resolves v item.speculationResolution v')
      (hbegins : item.beginsSpeculativeSlice = true)
      (htype : item.payload.type = .AdvanceSlice)
      (hgeneration : item.identity.generation = v'.generation)
      (hsequence : item.identity.sequence = v'.nextSequence) :
      Fits v item ⟨v'.generation, sequenceAfter v'.nextSequence, some v'.nextSequence⟩
  | continues {v v' : Vu1Position} {item : Vu1WorkItem β}
      (hflag : item.commitsExtendedSpeculativeAdvance = false)
      (hresolves : Resolves v item.speculationResolution v')
      (hbegins : item.beginsSpeculativeSlice = false)
      (hopens : item.payload.type.startsGeneration = false)
      (hgeneration : item.identity.generation = v'.generation)
      (hsequence : item.identity.sequence = v'.nextSequence) :
      Fits v item ⟨v'.generation, sequenceAfter v'.nextSequence, none⟩

variable {v v' : Vu1Position} {resolution : Vu1SpeculationResolution} {item : Vu1WorkItem β}

end Vu1Position

open Vu1Position

/-! ## The processor follows -/

namespace Vu1CommandProcessor

variable {p p' : Vu1CommandProcessor υ} {v v' : Vu1Position} {bound bound' : ℕ}
  {item : Vu1WorkItem β} {resolution : Vu1SpeculationResolution}

/-- The processor stands at `v`, up to the sequence number in a generation below the bound. -/
structure Follows (p : Vu1CommandProcessor υ) (v : Vu1Position) (bound : ℕ) : Prop where
  generation : p.generation = v.generation
  outstanding : p.speculativeSliceCheckpoint.isSome = v.speculation.isSome
  checkpoint : ∀ c ∈ p.speculativeSliceCheckpoint, c.generation = v.generation
  sequence : v.generation < bound ∨ p.nextSequence = v.nextSequence ∧
    p.speculativeSliceCheckpoint.map (·.nextSequence) = v.speculation

theorem Follows.mono (h : p.Follows v bound) (hbound : bound ≤ bound') : p.Follows v bound' where
  generation := h.generation
  outstanding := h.outstanding
  checkpoint := h.checkpoint
  sequence := h.sequence.imp_left fun hlt => Nat.lt_of_lt_of_le hlt hbound

/-- The unit as a resolution leaves it. -/
def unitAfter (p : Vu1CommandProcessor υ) (resolution : Vu1SpeculationResolution) : υ :=
  match resolution, p.speculativeSliceCheckpoint with
  | .Rollback, some checkpoint => checkpoint.unit
  | _, _ => p.unit

/-- **A resolution that is due succeeds, and the processor keeps up.** -/
theorem Follows.resolve (h : p.Follows v bound) (hresolves : Resolves v resolution v') :
    ∃ p', p.resolveSpeculativeSlice resolution = .ok p' ∧ p'.Follows v' bound ∧
      p'.speculativeSliceCheckpoint = none ∧ p'.shutdown = p.shutdown ∧
      p'.unit = p.unitAfter resolution := by
  cases hresolves with
  | idle =>
    have hnone : p.speculativeSliceCheckpoint = none := by simpa using h.outstanding
    exact ⟨p, by simp [resolveSpeculativeSlice, hnone], h, hnone, rfl, rfl⟩
  | commit =>
    obtain ⟨c, hsome⟩ := Option.isSome_iff_exists.1 h.outstanding
    refine ⟨{ p with speculativeSliceCheckpoint := none },
      by simp [resolveSpeculativeSlice, hsome], ⟨h.generation, rfl, by simp, ?_⟩, rfl, rfl, rfl⟩
    exact h.sequence.imp_right fun hsync => ⟨hsync.1, rfl⟩
  | rollback =>
    obtain ⟨c, hsome⟩ := Option.isSome_iff_exists.1 h.outstanding
    refine ⟨{ p with
        unit := c.unit
        generation := c.generation
        nextSequence := c.nextSequence
        speculativeSliceCheckpoint := none },
      by simp [resolveSpeculativeSlice, hsome], ⟨h.checkpoint c hsome, rfl, by simp, ?_⟩, rfl, rfl,
      by simp [unitAfter, hsome]⟩
    exact h.sequence.imp_right fun hsync => ⟨by simpa [hsome] using hsync.2, rfl⟩

/-- What the worker needs of the item it has taken: dropped as stale, it opens no generation and
begins no speculation; otherwise it does not carry the last sequence number, nothing has shut the
processor down, and the payload is valid for the memory that is bound. -/
structure Digestible (vu : Vu1Unit υ β) (p : Vu1CommandProcessor υ) (bound : ℕ)
    (item : Vu1WorkItem β) : Prop where
  dropped : item.identity.generation < bound →
    item.payload.type.startsGeneration = false ∧ item.beginsSpeculativeSlice = false
  executed : bound ≤ item.identity.generation →
    item.identity.sequence ≠ uint64Max.val ∧ p.shutdown = false ∧
      vu.validPayload (p.unitAfter item.speculationResolution) item.payload = true ∧
      (vu.apply (p.unitAfter item.speculationResolution) item.payload).2 = .Completed

/-! ## Commands that carry the next identity -/

variable {identity : Vu1WorkIdentity} {payload : Vu1CommandPayload β}

theorem process_opens (hshutdown : p.shutdown = false)
    (hopens : payload.type.startsGeneration = true) (hmax : p.generation ≠ uint64Max.val)
    (hgeneration : identity.generation = p.generation + 1) (hsequence : identity.sequence = 1)
    (hvalid : vu.validPayload p.unit payload = true)
    (hcompleted : (vu.apply p.unit payload).2 = .Completed) :
    ∃ p', p.process vu identity payload = .ok (.Completed, p') ∧
      p'.generation = p.generation + 1 ∧ p'.nextSequence = 2 ∧
      p'.speculativeSliceCheckpoint = p.speculativeSliceCheckpoint := by
  have hnext : p.identityRejection identity true = none := by
    simp [identityRejection, hgeneration, hmax, hsequence]
  refine ⟨{ p with
      unit := (vu.apply p.unit payload).1
      shutdown := decide (payload.type = .Shutdown)
      generation := identity.generation
      nextSequence := 2 }, ?_, hgeneration, rfl, rfl⟩
  simp [process, hshutdown, hopens, hnext, hvalid, hcompleted]

theorem identityRejection_next (hgeneration : identity.generation = p.generation)
    (hsequence : identity.sequence = p.nextSequence) :
    p.identityRejection identity false = none := by
  simp [identityRejection, hgeneration, hsequence]

theorem process_continues (hshutdown : p.shutdown = false)
    (hopens : payload.type.startsGeneration = false) (hmax : p.nextSequence ≠ uint64Max.val)
    (hgeneration : identity.generation = p.generation)
    (hsequence : identity.sequence = p.nextSequence)
    (hvalid : vu.validPayload p.unit payload = true)
    (hcompleted : (vu.apply p.unit payload).2 = .Completed) :
    ∃ p', p.process vu identity payload = .ok (.Completed, p') ∧
      p'.generation = p.generation ∧ p'.nextSequence = p.nextSequence + 1 ∧
      p'.speculativeSliceCheckpoint = p.speculativeSliceCheckpoint := by
  refine ⟨{ p with
      unit := (vu.apply p.unit payload).1
      shutdown := decide (payload.type = .Shutdown)
      nextSequence := p.nextSequence + 1 }, ?_, rfl, rfl, rfl⟩
  simp [process, hshutdown, hopens, identityRejection_next hgeneration hsequence, hvalid,
    hcompleted, hmax]

theorem processSpeculativeSlice_next (hshutdown : p.shutdown = false)
    (hmax : p.nextSequence ≠ uint64Max.val) (hgeneration : identity.generation = p.generation)
    (hsequence : identity.sequence = p.nextSequence)
    (hvalid : vu.validPayload p.unit payload = true)
    (hnone : p.speculativeSliceCheckpoint = none) :
    p.processSpeculativeSlice vu identity payload = .ok (.Completed,
      { p with
        unit := vu.advanceSlice p.unit payload.maximumCycles
        nextSequence := p.nextSequence + 1
        speculativeSliceCheckpoint := some ⟨p.unit, p.generation, p.nextSequence⟩ }) := by
  simp [processSpeculativeSlice, hshutdown, identityRejection_next hgeneration hsequence, hvalid,
    hmax, hnone]

theorem commitExtendedSpeculativeAdvance_next {cycles : ℕ}
    (hsome : p.speculativeSliceCheckpoint.isSome = true) (hcycles : cycles ≤ payload.maximumCycles)
    (hgeneration : identity.generation = p.generation)
    (hmax : identity.sequence ≠ uint64Max.val) (hnext : p.nextSequence = identity.sequence + 1)
    (hvalid : vu.validPayload p.unit payload = true) :
    p.commitExtendedSpeculativeAdvance vu identity payload cycles = .ok (.Completed,
      { p with
        unit := if cycles = 0 then p.unit else vu.advanceSlice p.unit cycles
        speculativeSliceCheckpoint := none }) := by
  have hnone : p.speculativeSliceCheckpoint.isNone = false := by
    rw [Option.isNone_eq_false_iff, hsome]
  simp [commitExtendedSpeculativeAdvance, hnone, hgeneration, hmax, hnext, hvalid,
    Nat.not_lt.2 hcycles]

/-! ## The worker's loop -/

/-- An item whose resolution is due is dropped as stale or handed to the processor. -/
theorem processItem_of_resolve (hflag : item.commitsExtendedSpeculativeAdvance = false)
    (hresolve : p.resolveSpeculativeSlice item.speculationResolution = .ok p')
    {r : Vu1CommandProcessor υ}
    (hstale : item.identity.generation < bound → r = p')
    (hbegins : bound ≤ item.identity.generation → item.beginsSpeculativeSlice = true →
      item.payload.type = .AdvanceSlice ∧
        p'.processSpeculativeSlice vu item.identity item.payload = .ok (.Completed, r))
    (hprocess : bound ≤ item.identity.generation → item.beginsSpeculativeSlice = false →
      p'.process vu item.identity item.payload = .ok (.Completed, r)) :
    ∃ disposition, p.processItem vu bound item = .ok (disposition, r) ∧
      (disposition = .Completed ∨
        disposition = .StaleGeneration ∧ item.identity.generation < bound) := by
  by_cases hlt : item.identity.generation < bound
  · refine ⟨.StaleGeneration, ?_, Or.inr ⟨rfl, hlt⟩⟩
    simp [processItem, hflag, hresolve, hlt, hstale hlt, bind, Except.bind, pure, Except.pure]
  · refine ⟨.Completed, ?_, Or.inl rfl⟩
    cases hb : item.beginsSpeculativeSlice with
    | true =>
      obtain ⟨htype, hdone⟩ := hbegins (Nat.le_of_not_lt hlt) hb
      simp [processItem, hflag, hresolve, hlt, hb, htype, hdone, bind, Except.bind, pure,
        Except.pure]
    | false =>
      have hdone := hprocess (Nat.le_of_not_lt hlt) hb
      simp [processItem, hflag, hresolve, hlt, hb, hdone, bind, Except.bind, pure, Except.pure]

/-- An extension commits the speculation; a stale one rolls it back. -/
theorem Follows.processItem_extends (h : p.Follows v bound)
    (hflag : item.commitsExtendedSpeculativeAdvance = true) {start : ℕ}
    (hspeculation : v.speculation = some start) (htype : item.payload.type = .AdvanceSlice)
    (hcycles : item.speculativeExtensionCycles ≤ item.payload.maximumCycles)
    (hgeneration : item.identity.generation = v.generation)
    (hsequence : item.identity.sequence ≠ uint64Max.val)
    (hnext : v.nextSequence = item.identity.sequence + 1)
    (hnone : item.speculationResolution = .None) (hitem : p.Digestible vu bound item) :
    ∃ disposition p', p.processItem vu bound item = .ok (disposition, p') ∧
      p'.Follows ⟨v.generation, v.nextSequence, none⟩ bound ∧
      (disposition = .Completed ∨
        disposition = .StaleGeneration ∧ item.identity.generation < bound) := by
  have hsome : p.speculativeSliceCheckpoint.isSome = true := by
    rw [h.outstanding, hspeculation]
    rfl
  obtain ⟨c, hc⟩ := Option.isSome_iff_exists.1 hsome
  by_cases hstale : item.identity.generation < bound
  · refine ⟨.StaleGeneration, { p with
        unit := c.unit
        generation := c.generation
        nextSequence := c.nextSequence
        speculativeSliceCheckpoint := none }, ?_,
      ⟨h.checkpoint c hc, rfl, by simp, Or.inl (by rwa [← hgeneration])⟩, Or.inr ⟨rfl, hstale⟩⟩
    simp [processItem, hflag, hstale, resolveSpeculativeSlice, hc, bind, Except.bind, pure,
      Except.pure]
  · obtain ⟨-, -, hvalid, -⟩ := hitem.executed (Nat.le_of_not_lt hstale)
    have hsync := h.sequence.resolve_left (by rwa [← hgeneration])
    have hunit : p.unitAfter item.speculationResolution = p.unit := by
      simp [unitAfter, hnone]
    rw [hunit] at hvalid
    have hdone := commitExtendedSpeculativeAdvance_next hsome hcycles
      (hgeneration.trans h.generation.symm) hsequence (hsync.1.trans hnext) hvalid
    refine ⟨.Completed, { p with
        unit :=
          if item.speculativeExtensionCycles = 0 then p.unit
          else vu.advanceSlice p.unit item.speculativeExtensionCycles
        speculativeSliceCheckpoint := none }, ?_,
      ⟨h.generation, rfl, by simp, Or.inr ⟨hsync.1, rfl⟩⟩, Or.inl rfl⟩
    simp [processItem, hflag, hstale, htype, hdone, bind, Except.bind, pure, Except.pure]

/-- **The worker completes the item or drops it as stale, and the processor keeps up.** -/
theorem Follows.processItem (h : p.Follows v bound) (hfits : Fits v item v')
    (hitem : p.Digestible vu bound item) :
    ∃ disposition p', p.processItem vu bound item = .ok (disposition, p') ∧ p'.Follows v' bound ∧
      (disposition = .Completed ∨
        disposition = .StaleGeneration ∧ item.identity.generation < bound) := by
  cases hfits with
  | extendsSlice hflag hspeculation htype hcycles hgeneration hsequence hnext hnone =>
    exact h.processItem_extends hflag hspeculation htype hcycles hgeneration hsequence hnext hnone
      hitem
  | opens hflag hresolves hbegins hopens hmax hgeneration hsequence =>
    obtain ⟨p₁, hresolve, hfollows, hnone, hshutdown, hunit⟩ := h.resolve hresolves
    have hlive : bound ≤ item.identity.generation := by
      by_contra hlt
      rw [(hitem.dropped (Nat.lt_of_not_le hlt)).1] at hopens
      cases hopens
    obtain ⟨-, hopen, hvalid, hcompleted⟩ := hitem.executed hlive
    rw [← hunit] at hvalid hcompleted
    obtain ⟨p', hprocess, hg, hs, hc⟩ := process_opens (hshutdown.trans hopen) hopens
      (by rwa [hfollows.generation]) (by rw [hgeneration, hfollows.generation]) hsequence hvalid
      hcompleted
    obtain ⟨disposition, hdone, hd⟩ := @processItem_of_resolve _ _ vu p p₁ bound item hflag hresolve
      p' (fun hlt => absurd hlt (Nat.not_lt.2 hlive))
      (fun _ hb => absurd hb (by rw [hbegins]; exact Bool.false_ne_true)) fun _ _ => hprocess
    refine ⟨disposition, p', hdone, ⟨by rw [hg, hfollows.generation], by rw [hc, hnone]; rfl, ?_,
      Or.inr ⟨hs, by rw [hc, hnone]; rfl⟩⟩, hd⟩
    rw [hc, hnone]
    simp
  | begins hflag hresolves hbegins htype hgeneration hsequence =>
    obtain ⟨p₁, hresolve, hfollows, hnone, hshutdown, hunit⟩ := h.resolve hresolves
    have hlive : bound ≤ item.identity.generation := by
      by_contra hlt
      rw [(hitem.dropped (Nat.lt_of_not_le hlt)).2] at hbegins
      cases hbegins
    obtain ⟨hmax, hopen, hvalid, -⟩ := hitem.executed hlive
    rw [← hunit] at hvalid
    have hsync := hfollows.sequence.resolve_left (by rw [← hgeneration]; exact Nat.not_lt.2 hlive)
    have hnextMax : p₁.nextSequence ≠ uint64Max.val := by rwa [hsync.1, ← hsequence]
    have hslice := processSpeculativeSlice_next (hshutdown.trans hopen) hnextMax
      (hgeneration.trans hfollows.generation.symm) (hsequence.trans hsync.1.symm) hvalid hnone
    obtain ⟨disposition, hdone, hd⟩ := @processItem_of_resolve _ _ vu p p₁ bound item hflag hresolve
      _ (fun hlt => absurd hlt (Nat.not_lt.2 hlive)) (fun _ _ => ⟨htype, hslice⟩)
      (fun _ hb => absurd hbegins (by rw [hb]; exact Bool.false_ne_true))
    refine ⟨disposition, _, hdone, ⟨hfollows.generation, rfl, ?_, Or.inr ⟨?_, ?_⟩⟩, hd⟩
    · intro c hc
      cases hc
      exact hfollows.generation
    · rw [hsync.1] at hnextMax ⊢
      exact (if_neg hnextMax).symm
    · exact congrArg some hsync.1
  | continues hflag hresolves hbegins hopens hgeneration hsequence =>
    obtain ⟨p₁, hresolve, hfollows, hnone, hshutdown, hunit⟩ := h.resolve hresolves
    by_cases hlt : item.identity.generation < bound
    · obtain ⟨disposition, hdone, hd⟩ := @processItem_of_resolve _ _ vu p p₁ bound item hflag
        hresolve p₁ (fun _ => rfl) (fun hlive => absurd hlt (Nat.not_lt.2 hlive))
        (fun hlive => absurd hlt (Nat.not_lt.2 hlive))
      refine ⟨disposition, p₁, hdone, ⟨hfollows.generation, by rw [hnone]; rfl, ?_,
        Or.inl (by rwa [← hgeneration])⟩, hd⟩
      rw [hnone]
      simp
    · have hlive := Nat.le_of_not_lt hlt
      obtain ⟨hmax, hopen, hvalid, hcompleted⟩ := hitem.executed hlive
      rw [← hunit] at hvalid hcompleted
      have hsync := hfollows.sequence.resolve_left (by rwa [← hgeneration])
      have hnextMax : p₁.nextSequence ≠ uint64Max.val := by rwa [hsync.1, ← hsequence]
      obtain ⟨p', hprocess, hg, hs, hc⟩ := process_continues (hshutdown.trans hopen) hopens hnextMax
        (hgeneration.trans hfollows.generation.symm) (hsequence.trans hsync.1.symm) hvalid
        hcompleted
      obtain ⟨disposition, hdone, hd⟩ := @processItem_of_resolve _ _ vu p p₁ bound item hflag
        hresolve p' (fun h => absurd h hlt)
        (fun _ hb => absurd hb (by rw [hbegins]; exact Bool.false_ne_true)) fun _ _ => hprocess
      refine ⟨disposition, p', hdone, ⟨hg.trans hfollows.generation, by rw [hc, hnone]; rfl, ?_,
        Or.inr ⟨?_, by rw [hc, hnone]; rfl⟩⟩, hd⟩
      · rw [hc, hnone]
        simp
      · rw [hsync.1] at hnextMax hs
        rw [hs]
        exact (if_neg hnextMax).symm

end Vu1CommandProcessor

/-! ## The producer -/

namespace Vu1Producer

variable {q q' : Vu1Producer} {request : Vu1SubmitRequest β} {p : Vu1Submitting β}
  {item : Vu1WorkItem β} {extendedIdentity : Option Vu1WorkIdentity} {capacity : ℕ}

def position (q : Vu1Producer) : Vu1Position where
  generation := q.generation
  nextSequence := q.nextSequence
  speculation := q.speculationCheckpoint.map (·.nextSequence)

/-- A speculation starts in the current generation. -/
def Coherent (q : Vu1Producer) : Prop :=
  ∀ checkpoint ∈ q.speculationCheckpoint, checkpoint.generation = q.generation

/-- The next sequence number after a resolution. -/
def resumedSequence (q : Vu1Producer) (resolution : Vu1SpeculationResolution) : ℕ :=
  match resolution, q.speculationCheckpoint with
  | .Rollback, some checkpoint => checkpoint.nextSequence
  | _, _ => q.nextSequence

/-- What a resolution does to the producer. -/
structure Resolved (q : Vu1Producer) (request : Vu1SubmitRequest β) (q' : Vu1Producer) : Prop where
  flag : request.commitsExtendedSpeculativeAdvance = false
  resolves : Resolves q.position request.resolution q'.position
  generation : q'.generation = q.generation
  sequence : q'.nextSequence = q.resumedSequence request.resolution
  cleared : q'.speculationCheckpoint = none
  ticket : q'.nextTicket = q.nextTicket
  unresolved : request.resolution = .None → q' = q

/-- What an extension demands. -/
structure Extended (q : Vu1Producer) (request : Vu1SubmitRequest β)
    (extendedIdentity : Option Vu1WorkIdentity) : Prop where
  flag : request.commitsExtendedSpeculativeAdvance = true
  resolution : request.resolution = .None
  begins : request.beginsSpeculativeSlice = false
  type : request.payload.type = .AdvanceSlice
  cycles : request.speculativeExtensionCycles ≤ request.payload.maximumCycles
  identity : ∃ checkpoint ∈ q.speculationCheckpoint, extendedIdentity = some checkpoint.identity

theorem resolveSpeculation_ok (hcoherent : q.Coherent)
    (h : q.resolveSpeculation request = .ok (q', extendedIdentity)) :
    (q.Resolved request q' ∧ extendedIdentity = none) ∨
      (q.Extended request extendedIdentity ∧ q' = q) := by
  unfold resolveSpeculation at h
  split at h
  next hnone =>
    split at h
    next => cases h
    next hflag =>
      split at h
      next => cases h
      next hresolution =>
        cases h
        have hidle : request.resolution = .None := by simpa using hresolution
        refine Or.inl ⟨⟨by simpa using hflag, ?_, rfl, ?_, hnone, rfl, fun _ => rfl⟩, rfl⟩
        · rw [hidle, position, hnone]
          exact Resolves.idle
        · simp [resumedSequence, hidle]
  next checkpoint hsome =>
    have hgeneration := hcoherent checkpoint hsome
    split at h
    next hflag =>
      split at h
      next => cases h
      next hvalid =>
        cases h
        push Not at hvalid
        obtain ⟨hresolution, hbegins, htype, -, hcycles, -⟩ := hvalid
        exact Or.inr ⟨⟨hflag, hresolution, by simpa using hbegins, htype, hcycles,
          checkpoint, hsome, rfl⟩, rfl⟩
    next hflag =>
      split at h
      next => cases h
      next hcommit =>
        cases h
        refine Or.inl ⟨⟨by simpa using hflag, ?_, rfl, ?_, rfl, rfl, ?_⟩, rfl⟩
        · rw [hcommit, position, hsome]
          exact Resolves.commit
        · simp [resumedSequence, hcommit]
        · rw [hcommit]
          exact nofun
      next hrollback =>
        cases h
        refine Or.inl ⟨⟨by simpa using hflag, ?_, hgeneration, ?_, rfl, rfl, ?_⟩, rfl⟩
        · rw [hrollback, position, hsome]
          simp only [position, hgeneration, Option.map_some]
          exact Resolves.rollback
        · simp [resumedSequence, hrollback, hsome]
        · rw [hrollback]
          exact nofun

theorem Resolved.outstanding (h : q.Resolved request q')
    (hresolution : request.resolution ≠ .None) : q.speculationCheckpoint.isSome = true := by
  have hresolves := h.resolves
  cases hsome : q.speculationCheckpoint with
  | some checkpoint => rfl
  | none =>
    rw [position, hsome] at hresolves
    cases hidle : request.resolution with
    | None => exact absurd hidle hresolution
    | Commit =>
      rw [hidle] at hresolves
      cases hresolves
    | Rollback =>
      rw [hidle] at hresolves
      cases hresolves

theorem checkedVu1Increment_ok {value result : ℕ} {identityName : String}
    (h : checkedVu1Increment value identityName = .ok result) :
    value ≠ uint64Max.val ∧ result = value + 1 := by
  unfold checkedVu1Increment at h
  split at h
  next => cases h
  next hmax =>
    cases h
    exact ⟨hmax, rfl⟩

theorem makeItem_ok (h : q.makeItem capacity request extendedIdentity = .ok item) :
    q.nextIdentity request extendedIdentity =
        .ok (item.identity.generation, item.identity.sequence) ∧
      item.ticket = q.nextTicket + 1 ∧ item.payload = request.payload ∧
      item.speculationResolution = request.resolution ∧
      item.beginsSpeculativeSlice = request.beginsSpeculativeSlice ∧
      item.commitsExtendedSpeculativeAdvance = request.commitsExtendedSpeculativeAdvance ∧
      item.speculativeExtensionCycles = request.speculativeExtensionCycles := by
  unfold makeItem at h
  cases hidentity : q.nextIdentity request extendedIdentity with
  | error failure =>
    rw [hidentity] at h
    cases h
  | ok identity =>
    cases hticket : checkedVu1Increment q.nextTicket "transport ticket" with
    | error failure =>
      rw [hidentity, hticket] at h
      cases h
    | ok ticket =>
      rw [hidentity, hticket] at h
      simp only [bind, Except.bind] at h
      split at h
      next => cases h
      next =>
        cases h
        exact ⟨rfl, (checkedVu1Increment_ok hticket).2, rfl, rfl, rfl, rfl, rfl⟩

/-- What a submission needs so that it is not refused after its resolution has taken effect. -/
structure Affords (q : Vu1Producer) (capacity : ℕ) (request : Vu1SubmitRequest β) : Prop where
  begins : request.beginsSpeculativeSlice = true → request.payload.type = .AdvanceSlice
  ticket : q.nextTicket ≠ uint64Max.val
  size : request.payload.payloadSize ≤ capacity
  generation : request.payload.type.startsGeneration = true → q.generation ≠ uint64Max.val
  sequence : request.payload.type.startsGeneration = false →
    q.resumedSequence request.resolution ≠ 0

theorem Resolved.makeItem (h : q.Resolved request q') (hafford : q.Affords capacity request)
    (failure : String) : q'.makeItem capacity request none ≠ .error failure := by
  intro hfailure
  have hticket : checkedVu1Increment q'.nextTicket "transport ticket" =
      .ok (q'.nextTicket + 1) := by
    rw [checkedVu1Increment, h.ticket, if_neg hafford.ticket]
  have hsize : ¬ request.payload.payloadSize > capacity := Nat.not_lt.2 hafford.size
  cases hopens : request.payload.type.startsGeneration with
  | true =>
    have hidentity : q'.nextIdentity request none = .ok (q'.generation + 1, 1) := by
      simp only [nextIdentity, hopens, if_true, checkedVu1Increment, h.generation,
        if_neg (hafford.generation hopens)]
      rfl
    rw [Vu1Producer.makeItem, hidentity, hticket] at hfailure
    simp only [bind, Except.bind, if_neg hsize] at hfailure
    cases hfailure
  | false =>
    have hidentity : q'.nextIdentity request none = .ok (q'.generation, q'.nextSequence) := by
      simp only [nextIdentity, hopens, Bool.false_eq_true, if_false, h.sequence,
        if_neg (hafford.sequence hopens)]
    rw [Vu1Producer.makeItem, hidentity, hticket] at hfailure
    simp only [bind, Except.bind, if_neg hsize] at hfailure
    cases hfailure

/-- The submission is queued next after the commands of `p.entry`. -/
structure Awaits (q : Vu1Producer) (p : Vu1Submitting β) : Prop where
  fits : Fits p.entry.position p.item (q.submitted p).position
  coherent : (q.submitted p).Coherent
  ticket : p.item.ticket = p.entry.nextTicket + 1
  generation : p.entry.generation ≤ (q.submitted p).generation
  unresolved : p.item.speculationResolution = .None → q = p.entry

theorem Extended.awaits (h : q.Extended request extendedIdentity)
    (hitem : q.makeItem capacity request extendedIdentity = .ok item) :
    q.Awaits ⟨item, q.generation, q.nextSequence, q.lastGuestTick, q⟩ := by
  obtain ⟨hidentity, hticket, hpayload, hresolution, hbegins, hflag, hcycles⟩ := makeItem_ok hitem
  obtain ⟨checkpoint, hsome, rfl⟩ := h.identity
  simp only [nextIdentity] at hidentity
  split at hidentity
  next => cases hidentity
  next hfresh =>
    push Not at hfresh
    obtain ⟨hgeneration, hmax, hnext⟩ := hfresh
    simp only [Except.ok.injEq, Prod.mk.injEq] at hidentity
    obtain ⟨hg, hs⟩ := hidentity
    rw [hgeneration] at hg
    rw [hs] at hmax hnext
    rw [h.flag] at hflag
    rw [h.begins] at hbegins
    have hsubmitted : (q.submitted
        ⟨item, q.generation, q.nextSequence, q.lastGuestTick, q⟩).position =
          ⟨q.generation, q.nextSequence, none⟩ := by
      simp [submitted, hflag, hbegins, position]
    refine ⟨?_, ?_, hticket, ?_, fun _ => rfl⟩
    · rw [hsubmitted]
      exact Fits.extendsSlice hflag (congrArg (Option.map _) hsome) (hpayload ▸ h.type)
        (by rw [hcycles, hpayload]; exact h.cycles) hg.symm hmax hnext (hresolution ▸ h.resolution)
    · simp [submitted, hflag, hbegins, Coherent]
    · simp [submitted, hflag]

theorem Resolved.awaits (h : q.Resolved request q')
    (hbegins : request.beginsSpeculativeSlice = true → request.payload.type = .AdvanceSlice)
    (hitem : q'.makeItem capacity request none = .ok item) :
    q'.Awaits ⟨item, q'.generation, q'.nextSequence, q'.lastGuestTick, q⟩ := by
  obtain ⟨hidentity, hticket, hpayload, hresolution, hslice, hflag, -⟩ := makeItem_ok hitem
  rw [h.flag] at hflag
  rw [← hslice, ← hpayload] at hbegins
  have hresolves := h.resolves
  rw [← hresolution] at hresolves
  have hunresolved : item.speculationResolution = .None → q' = q := by
    rw [hresolution]
    exact h.unresolved
  simp only [nextIdentity] at hidentity
  split at hidentity
  next hopens =>
    cases hincrement : checkedVu1Increment q'.generation "generation" with
    | error failure =>
      rw [hincrement] at hidentity
      cases hidentity
    | ok generation =>
      obtain ⟨hmax, rfl⟩ := checkedVu1Increment_ok hincrement
      rw [hincrement] at hidentity
      simp only [bind, Except.bind, pure, Except.pure, Except.ok.injEq, Prod.mk.injEq] at hidentity
      obtain ⟨hg, hs⟩ := hidentity
      rw [← hpayload] at hopens
      have hplain : item.beginsSpeculativeSlice = false := by
        by_contra hb
        rw [hbegins (by simpa using hb)] at hopens
        cases hopens
      refine ⟨?_, ?_, by rw [hticket, h.ticket], ?_, hunresolved⟩
      · have hsubmitted : (q'.submitted
            ⟨item, q'.generation, q'.nextSequence, q'.lastGuestTick, q⟩).position =
              ⟨q'.position.generation + 1, 2, none⟩ := by
          simp [submitted, hflag, hplain, position, ← hg, ← hs, h.cleared, uint64Max, uint64Count]
        rw [hsubmitted]
        exact Fits.opens hflag hresolves hplain hopens hmax hg.symm hs.symm
      · simp [submitted, hflag, hplain, Coherent, h.cleared]
      · simp only [submitted, hflag, Bool.false_eq_true, if_false, ← hg, h.generation]
        exact Nat.le_succ _
  next hopens =>
    split at hidentity
    next => cases hidentity
    next =>
      simp only [Except.ok.injEq, Prod.mk.injEq] at hidentity
      obtain ⟨hg, hs⟩ := hidentity
      rw [← hpayload, Bool.not_eq_true] at hopens
      refine ⟨?_, ?_, by rw [hticket, h.ticket], ?_, hunresolved⟩
      · cases hb : item.beginsSpeculativeSlice with
        | true =>
          have hsubmitted : (q'.submitted
              ⟨item, q'.generation, q'.nextSequence, q'.lastGuestTick, q⟩).position =
                ⟨q'.position.generation, sequenceAfter q'.position.nextSequence,
                  some q'.position.nextSequence⟩ := by
            simp only [submitted, hflag, hb, position, sequenceAfter, if_true, Bool.false_eq_true,
              if_false, Option.map_some, hg, hs]
          rw [hsubmitted]
          exact Fits.begins hflag hresolves hb (hbegins hb) hg.symm hs.symm
        | false =>
          have hsubmitted : (q'.submitted
              ⟨item, q'.generation, q'.nextSequence, q'.lastGuestTick, q⟩).position =
                ⟨q'.position.generation, sequenceAfter q'.position.nextSequence, none⟩ := by
            simp [submitted, hflag, hb, position, ← hg, ← hs, sequenceAfter, h.cleared]
          rw [hsubmitted]
          exact Fits.continues hflag hresolves hb hopens hg.symm hs.symm
      · cases hb : item.beginsSpeculativeSlice with
        | true => simp [submitted, hflag, hb, Coherent, hg]
        | false => simp [submitted, hflag, hb, Coherent, h.cleared]
      · simp only [submitted, hflag, Bool.false_eq_true, if_false, ← hg, h.generation]
        exact Nat.le_refl _

end Vu1Producer

end Ps2Recomp
