import Mathlib.Data.Prod.Lex
import Ps2Recomp.Gs.CommandExecutor

/-!
# Both sides of the threaded GS executor number alike

The items between the producer and the processor form a path of numbers (`Fits`). The processor stands
where the path begins, in the generation at least; its sequence number may lag behind only while all
that is left of the generation is below the cancellation bound (`Follows`). Each step keeps this
(`Inv`) unless it drops an item that opens a generation: then the processor stays behind, and the next
item that opens one is rejected.
-/

namespace Ps2Recomp

open Machine

variable {υ β : Type} {gs : GsUnit υ β}

/-! ## Numbers -/

/-- The last numbers given out, or used up. -/
structure GsPosition where
  generation : ℕ
  sequence : ℕ
  ticket : ℕ
  fieldMarker : ℕ

/-- The item is the next one after `v`, and leads to `v'`. -/
structure GsWorkItem.Fits (gs : GsUnit υ β) (v : GsPosition) (item : GsWorkItem β)
    (v' : GsPosition) : Prop where
  type : item.command.type = item.command.payload.type
  payloadSize : item.command.payloadSize = item.command.payload.payloadSize
  valid : gs.isValidCommandPayload item.command.payload = true
  generation : v'.generation =
    if item.command.payload.type.startsGeneration then v.generation + 1 else v.generation
  sequence : v'.sequence =
    if item.command.payload.type.startsGeneration then 1 else v.sequence + 1
  ticket : v'.ticket = v.ticket + 1
  fieldMarker : v'.fieldMarker = ThreadedGsExecutor.fieldMarkerAfter v.fieldMarker item
  marked : item.command.payload.type = .FieldMarker →
    v.fieldMarker < item.command.payload.fieldSequence
  numbered : item.command.identity.generation = v'.generation ∧
    item.command.identity.sequence = v'.sequence ∧ item.ticket = v'.ticket
  countable :
    if item.command.payload.type.startsGeneration then v.generation ≠ uint64Max.val
    else v.sequence ≠ uint64Max.val

open GsWorkItem (Fits)

theorem checkedGsIncrement_ok {value next : ℕ} {identityName : String}
    (h : checkedGsIncrement value identityName = .ok next) :
    value ≠ uint64Max.val ∧ next = value + 1 := by
  unfold checkedGsIncrement at h
  split at h
  · cases h
  · rename_i hlast
    cases h
    exact ⟨hlast, rfl⟩

/-! ## The processor -/

/-- The processor stands at `v`; within a generation that is below the bound it may lag behind. -/
structure GsCommandProcessor.Follows (p : GsCommandProcessor υ) (v : GsPosition) (bound : ℕ) :
    Prop where
  generation : p.generation = v.generation
  pos : 0 < v.generation
  sequence : v.generation < bound ∨
    p.completedSequence = v.sequence ∧ p.completedFieldSequence = v.fieldMarker

namespace GsCommandProcessor

variable {p : GsCommandProcessor υ} {v v' : GsPosition} {bound bound' : ℕ} {item : GsWorkItem β}

theorem Follows.mono (h : p.Follows v bound) (hbound : bound ≤ bound') : p.Follows v bound' where
  generation := h.generation
  pos := h.pos
  sequence := h.sequence.imp_left fun hlt => Nat.lt_of_lt_of_le hlt hbound

/-- The item that opens the next generation is accepted. -/
theorem Follows.process_opens (h : p.Follows v bound) (hfits : Fits gs v item v')
    (hopens : item.command.payload.type.startsGeneration = true) :
    ∃ p', p.process gs item.command = (p', .ok .Completed) ∧ p'.Follows v' bound := by
  have hgeneration := hfits.generation
  have hsequence := hfits.sequence
  rw [if_pos hopens] at hgeneration hsequence
  have hcountable := hfits.countable
  rw [if_pos hopens] at hcountable
  have hfield : item.command.payload.type ≠ .FieldMarker := by
    intro htype
    rw [htype] at hopens
    cases hopens
  have hmarker : v'.fieldMarker = 0 := by
    rw [hfits.fieldMarker, ThreadedGsExecutor.fieldMarkerAfter, hfits.type, if_pos hopens]
  have hp := h.generation
  have hpos := h.pos
  have hnext : item.command.identity.generation = p.generation + 1 := by
    rw [hfits.numbered.1, hgeneration, hp]
  have hfirst : item.command.identity.sequence = 1 := by rw [hfits.numbered.2.1, hsequence]
  have hlast : p.generation ≠ uint64Max.val := hp ▸ hcountable
  have hprocess : p.process gs item.command =
      ({ p with
          gs := gs.apply p.gs item.command.debugVsyncTick item.command.payload
          generation := item.command.identity.generation
          completedSequence := item.command.identity.sequence
          completedFieldSequence := 0
          currentDebugVsyncTick := item.command.debugVsyncTick }, .ok .Completed) := by
    have hbegins : decide (p.generation < item.command.identity.generation) = true := by
      rw [hnext]
      exact decide_eq_true (Nat.lt_succ_self _)
    have hwell : ¬(item.command.type ≠ item.command.payload.type ∨
        item.command.payloadSize ≠ item.command.payload.payloadSize ∨
        item.command.identity.sequence = 0 ∨ item.command.identity.generation = 0 ∨
        (!gs.isValidCommandPayload item.command.payload) = true) := by
      simp [hfits.type, hfits.payloadSize, hfits.valid, hnext, hfirst]
    unfold process
    dsimp only
    rw [if_neg hwell, if_neg (by omega), hopens, hbegins]
    simp [hnext, hfirst, hlast, hfield]
  exact ⟨_, hprocess, hfits.numbered.1, by omega, .inr ⟨hfits.numbered.2.1, hmarker.symm⟩⟩

/-- An item of the current generation is accepted, if the processor does not lag behind. -/
theorem Follows.process_continues (h : p.Follows v bound) (hfits : Fits gs v item v')
    (hopens : item.command.payload.type.startsGeneration = false) (hlive : bound ≤ v.generation) :
    ∃ p', p.process gs item.command = (p', .ok .Completed) ∧ p'.Follows v' bound := by
  have hgeneration := hfits.generation
  have hsequence := hfits.sequence
  rw [hopens, if_neg Bool.false_ne_true] at hgeneration hsequence
  have hcountable := hfits.countable
  rw [hopens, if_neg Bool.false_ne_true] at hcountable
  obtain ⟨hdone, hfield⟩ := h.sequence.resolve_left (Nat.not_lt.2 hlive)
  have hp := h.generation
  have hpos := h.pos
  have hcurrent : item.command.identity.generation = p.generation := by
    rw [hfits.numbered.1, hgeneration, hp]
  have hnext : item.command.identity.sequence = p.completedSequence + 1 := by
    rw [hfits.numbered.2.1, hsequence, hdone]
  have hlast : p.completedSequence ≠ uint64Max.val := hdone ▸ hcountable
  have hmarker : v'.fieldMarker =
      if item.command.payload.type = .FieldMarker then item.command.payload.fieldSequence
      else v.fieldMarker := by
    rw [hfits.fieldMarker, ThreadedGsExecutor.fieldMarkerAfter, hfits.type, hopens,
      if_neg Bool.false_ne_true]
  have hadvances : ¬(item.command.payload.type = .FieldMarker ∧
      item.command.payload.fieldSequence ≤ p.completedFieldSequence) :=
    fun hstuck => Nat.not_le.2 (hfits.marked hstuck.1) (hfield ▸ hstuck.2)
  have hprocess : p.process gs item.command =
      ({ p with
          gs := gs.apply p.gs item.command.debugVsyncTick item.command.payload
          completedSequence := item.command.identity.sequence
          completedFieldSequence :=
            if item.command.payload.type = .FieldMarker then item.command.payload.fieldSequence
            else p.completedFieldSequence
          currentDebugVsyncTick := item.command.debugVsyncTick }, .ok .Completed) := by
    have hbegins : decide (p.generation < item.command.identity.generation) = false := by
      rw [hcurrent]
      exact decide_eq_false (Nat.lt_irrefl _)
    have hwell : ¬(item.command.type ≠ item.command.payload.type ∨
        item.command.payloadSize ≠ item.command.payload.payloadSize ∨
        item.command.identity.sequence = 0 ∨ item.command.identity.generation = 0 ∨
        (!gs.isValidCommandPayload item.command.payload) = true) := by
      simp [hfits.type, hfits.payloadSize, hfits.valid, hnext, hcurrent]
      omega
    unfold process
    dsimp only
    rw [if_neg hwell, if_neg (by omega), hopens, hbegins]
    simp [hnext, hlast, hadvances]
  refine ⟨_, hprocess, hp.trans hgeneration.symm, by omega, .inr ⟨hfits.numbered.2.1, ?_⟩⟩
  rw [hmarker, hfield]

end GsCommandProcessor

/-! ## The producer -/

/-- The numbers after an item. -/
def GsWorkItem.position (item : GsWorkItem β) (fieldMarker : ℕ) : GsPosition where
  generation := item.command.identity.generation
  sequence := item.command.identity.sequence
  ticket := item.ticket
  fieldMarker := ThreadedGsExecutor.fieldMarkerAfter fieldMarker item

def GsProducer.position (producer : GsProducer) (fieldMarker : ℕ) : GsPosition where
  generation := producer.generation
  sequence := producer.nextSequence
  ticket := producer.nextTicket
  fieldMarker := fieldMarker

theorem GsProducer.makeItem_fits {producer : GsProducer} {capacity fieldMarker : ℕ}
    {request : GsSubmitRequest β} {item : GsWorkItem β}
    (hvalid : gs.isValidCommandPayload request.payload = true)
    (hmarked : request.payload.type = .FieldMarker →
      fieldMarker < request.payload.fieldSequence)
    (h : producer.makeItem capacity request = .ok item) :
    Fits gs (producer.position fieldMarker) item (item.position fieldMarker) := by
  unfold makeItem at h
  dsimp only at h
  cases hgeneration : producer.nextGeneration request.payload.type.startsGeneration with
  | error failure =>
    rw [hgeneration] at h
    cases h
  | ok generation =>
    cases hsequence : checkedGsIncrement
        (if request.payload.type.startsGeneration = true then 0 else producer.nextSequence)
        "sequence" with
    | error failure =>
      rw [hgeneration, hsequence] at h
      cases h
    | ok sequence =>
      cases hticket : checkedGsIncrement producer.nextTicket "transport ticket" with
      | error failure =>
        rw [hgeneration, hsequence, hticket] at h
        cases h
      | ok ticket =>
        rw [hgeneration, hsequence, hticket] at h
        simp only [bind, Except.bind] at h
        split at h
        · cases h
        · cases h
          have hnumber := checkedGsIncrement_ok hsequence
          unfold nextGeneration at hgeneration
          refine ⟨rfl, rfl, hvalid, ?_, ?_, (checkedGsIncrement_ok hticket).2, rfl, hmarked,
            ⟨rfl, rfl, rfl⟩, ?_⟩
          · change generation = if request.payload.type.startsGeneration then
              producer.generation + 1 else producer.generation
            split at hgeneration
            · rename_i hopens
              rw [if_pos hopens]
              exact (checkedGsIncrement_ok hgeneration).2
            · rename_i hopens
              rw [if_neg hopens]
              exact (Except.ok.inj hgeneration).symm
          · change sequence = if request.payload.type.startsGeneration then 1
              else producer.nextSequence + 1
            rw [hnumber.2]
            split <;> rfl
          · change if request.payload.type.startsGeneration then _ else _
            split
            · rename_i hopens
              rw [if_pos hopens] at hgeneration
              exact (checkedGsIncrement_ok hgeneration).1
            · rename_i hopens
              rw [if_neg hopens] at hnumber
              exact hnumber.1

/-! ## The executor -/

namespace ThreadedGsExecutor

variable {s : ThreadedGsExecutor υ β}

/-- The items between the producer and the processor. -/
def pending (s : ThreadedGsExecutor υ β) : List (GsWorkItem β) := s.active.toList ++ s.queue

/-- The producer's last numbers. -/
def position (s : ThreadedGsExecutor υ β) : GsPosition := s.producer.position s.lastFieldMarker

/-- A generation and a sequence number, in lexicographic order. -/
def number (generation sequence : ℕ) : ℕ ×ₗ ℕ := toLex (generation, sequence)

/-- The numbers of what is done and of what is pending. -/
def numbers (s : ThreadedGsExecutor υ β) : List (ℕ ×ₗ ℕ) :=
  s.published.map (fun p => number p.generation p.sequence) ++
    s.pending.map fun item => number item.command.identity.generation item.command.identity.sequence

/-- What the client of the executor keeps to, and what no cancellation may do: payloads are valid and
field markers increase within a generation; no item that opens a generation is dropped as stale. -/
def KeepsGenerations (gs : GsUnit υ β) (s : ThreadedGsExecutor υ β) : GsExecutorInput β → Prop
  | .submit request =>
    gs.isValidCommandPayload request.payload = true ∧
      (request.payload.type = .FieldMarker → s.lastFieldMarker < request.payload.fieldSequence)
  | .work => ∀ item, s.active = some item → item.command.payload.type.startsGeneration = true →
      s.minimumAcceptedGeneration ≤ item.command.identity.generation
  | _ => True

structure Inv (gs : GsUnit υ β) (s : ThreadedGsExecutor υ β) : Prop where
  path : ∃ v, Path (Fits gs) v s.pending s.position ∧
    s.processor.Follows v s.minimumAcceptedGeneration
  submitting : ∀ item, s.submitting = some item →
    Fits gs s.position item (item.position s.lastFieldMarker)
  bound : s.minimumAcceptedGeneration ≤ s.producer.generation
  cancelling : ∀ generation ∈ s.cancelling, generation ≤ s.producer.generation
  fatal : s.fatalFailure = none
  results : ∀ p ∈ s.published, p.disposition = .Completed ∨
    p.disposition = .StaleGeneration ∧ p.generation < s.minimumAcceptedGeneration
  tickets : s.published.map (·.ticket) ++ s.pending.map (·.ticket) =
    List.range' 1 s.producer.nextTicket
  increasing : s.numbers.Pairwise (· < ·)
  counted : ∀ n ∈ s.numbers, n ≤ number s.producer.generation s.producer.nextSequence

theorem inv_create {queueCapacity payloadCapacityBytes : ℕ} {processor : GsCommandProcessor υ}
    (hpos : 0 < processor.generation) :
    (create queueCapacity payloadCapacityBytes processor : ThreadedGsExecutor υ β).Inv gs where
  path := ⟨_, .nil _, ⟨rfl, hpos, .inr ⟨rfl, rfl⟩⟩⟩
  submitting _ hitem := absurd hitem.symm (Option.some_ne_none _)
  bound := Nat.le_refl _
  cancelling := nofun
  fatal := rfl
  results := nofun
  tickets := rfl
  increasing := .nil
  counted := nofun

theorem Inv.submit (h : s.Inv gs) {request : GsSubmitRequest β}
    (hinput : s.KeepsGenerations gs (.submit request)) : (s.submit request).1.Inv gs := by
  unfold ThreadedGsExecutor.submit
  split
  · exact h
  · split
    · exact h
    · split
      · exact h
      · rename_i item hitem
        refine ⟨h.path, fun item' hitem' => ?_, h.bound, h.cancelling, h.fatal, h.results,
          h.tickets, h.increasing, h.counted⟩
        obtain rfl := Option.some.inj hitem'
        exact GsProducer.makeItem_fits hinput.1 hinput.2 hitem

/-- The numbers of the next item are the next ones. -/
theorem number_lt {v v' : GsPosition} {item : GsWorkItem β} (h : Fits gs v item v') :
    number v.generation v.sequence <
      number item.command.identity.generation item.command.identity.sequence := by
  rw [h.numbered.1, h.numbered.2.1, number, number, Prod.Lex.toLex_lt_toLex, h.generation,
    h.sequence]
  split
  · exact .inl (Nat.lt_succ_self _)
  · exact .inr ⟨rfl, Nat.lt_succ_self _⟩

theorem Inv.tryEnqueue (h : s.Inv gs) : s.tryEnqueue.1.Inv gs := by
  unfold ThreadedGsExecutor.tryEnqueue
  split
  · exact h
  · rename_i item hitem
    split
    · exact ⟨h.path, fun _ hitem => absurd hitem.symm (Option.some_ne_none _), h.bound,
        h.cancelling, h.fatal, h.results, h.tickets, h.increasing, h.counted⟩
    · split
      · exact h
      · obtain ⟨v, hpath, hfollows⟩ := h.path
        have hfits := h.submitting item hitem
        have hle : s.producer.generation ≤ item.command.identity.generation := by
          rw [hfits.numbered.1, hfits.generation]
          have hle : s.position.generation ≤ if item.command.payload.type.startsGeneration = true
              then s.position.generation + 1 else s.position.generation := by
            split <;> omega
          exact hle
        have hlt := number_lt hfits
        have hpending : ({ s with
            queue := s.queue ++ [item]
            queuedPayloadBytes := s.queuedPayloadBytes + item.payloadBytes
            producer := .submitted item
            submitting := none
            lastFieldMarker := fieldMarkerAfter s.lastFieldMarker item } :
              ThreadedGsExecutor υ β).pending = s.pending ++ [item] :=
          (List.append_assoc _ _ _).symm
        refine ⟨⟨v, ?_, hfollows⟩, fun _ hitem => absurd hitem.symm (Option.some_ne_none _),
          h.bound.trans hle, fun g hg => (h.cancelling g hg).trans hle, h.fatal, h.results, ?_, ?_, ?_⟩
        · rw [hpending]
          exact hpath.snoc hfits
        · have hnext : item.ticket = s.producer.nextTicket + 1 :=
            hfits.numbered.2.2.trans hfits.ticket
          rw [hpending, List.map_append, ← List.append_assoc, h.tickets]
          change _ = List.range' 1 item.ticket
          rw [hnext, List.range'_1_concat, Nat.add_comm 1]
          simp [hnext]
        · rw [numbers, hpending, List.map_append, ← List.append_assoc, List.pairwise_append]
          refine ⟨h.increasing, List.pairwise_singleton _ _, fun n hn m hm => ?_⟩
          rw [List.map_singleton, List.mem_singleton] at hm
          rw [hm]
          exact lt_of_le_of_lt (h.counted n hn) hlt
        · intro n hn
          rw [numbers, hpending, List.map_append, ← List.append_assoc, List.mem_append] at hn
          rcases hn with hn | hn
          · exact ((h.counted n hn).trans_lt hlt).le
          · rw [List.map_singleton, List.mem_singleton] at hn
            exact le_of_eq hn

theorem Inv.cancelPendingBeforeGeneration (h : s.Inv gs) {generation : ℕ} :
    (s.cancelPendingBeforeGeneration generation).1.Inv gs := by
  unfold ThreadedGsExecutor.cancelPendingBeforeGeneration
  split
  · exact h
  · split
    · exact h
    · split
      · exact h
      · rename_i hle
        refine ⟨h.path, h.submitting, h.bound, fun g hg => ?_, h.fatal, h.results, h.tickets,
          h.increasing, h.counted⟩
        rcases List.mem_cons.1 hg with rfl | hg
        · exact Nat.le_of_not_lt hle
        · exact h.cancelling g hg

theorem Inv.raiseMinimumAcceptedGeneration (h : s.Inv gs) {generation : ℕ} :
    (s.raiseMinimumAcceptedGeneration generation).Inv gs := by
  unfold ThreadedGsExecutor.raiseMinimumAcceptedGeneration
  split
  · rename_i hmem
    obtain ⟨v, hpath, hfollows⟩ := h.path
    have hle : s.minimumAcceptedGeneration ≤ max s.minimumAcceptedGeneration generation :=
      Nat.le_max_left _ _
    exact ⟨⟨v, hpath, hfollows.mono hle⟩, h.submitting,
      Nat.max_le.2 ⟨h.bound, h.cancelling generation hmem⟩,
      fun g hg => h.cancelling g (List.mem_of_mem_erase hg), h.fatal,
      fun p hp => (h.results p hp).imp_right fun hp => ⟨hp.1, Nat.lt_of_lt_of_le hp.2 hle⟩,
      h.tickets, h.increasing, h.counted⟩
  · exact h

theorem Inv.dequeue (h : s.Inv gs) : s.dequeue.Inv gs := by
  unfold ThreadedGsExecutor.dequeue
  split
  · exact h
  · rename_i hbusy
    push Not at hbusy
    have hactive : s.active = none := by simpa using hbusy.1
    split
    · exact h
    · rename_i item rest hqueue
      have hpending : ({ s with active := some item, queue := rest } :
          ThreadedGsExecutor υ β).pending = s.pending := by
        simp [pending, hactive, hqueue]
      have hnumbers : ({ s with active := some item, queue := rest } :
          ThreadedGsExecutor υ β).numbers = s.numbers := by
        rw [numbers, hpending, numbers]
      exact ⟨hpending ▸ h.path, h.submitting, h.bound, h.cancelling, h.fatal, h.results,
        hpending ▸ h.tickets, hnumbers ▸ h.increasing, hnumbers ▸ h.counted⟩

/-- What the worker makes of the next item. -/
theorem Inv.processItem {item : GsWorkItem β} {v v' : GsPosition} (hfits : Fits gs v item v')
    (hfollows : s.processor.Follows v s.minimumAcceptedGeneration)
    (hopens : item.command.payload.type.startsGeneration = true →
      s.minimumAcceptedGeneration ≤ item.command.identity.generation) :
    ∃ processor disposition, s.processItem gs item = (processor, .ok disposition) ∧
      processor.Follows v' s.minimumAcceptedGeneration ∧
      (disposition = .Completed ∨ disposition = .StaleGeneration ∧
        item.command.identity.generation < s.minimumAcceptedGeneration) := by
  unfold ThreadedGsExecutor.processItem
  by_cases hstale : item.command.identity.generation < s.minimumAcceptedGeneration
  · have hcontinues : item.command.payload.type.startsGeneration = false := by
      by_contra hstarts
      exact Nat.not_le.2 hstale (hopens (Bool.not_eq_false _ ▸ hstarts))
    have hgeneration := hfits.generation
    rw [hcontinues, if_neg Bool.false_ne_true] at hgeneration
    rw [if_pos hstale]
    refine ⟨_, _, rfl, ⟨hfollows.generation.trans hgeneration.symm, ?_, .inl ?_⟩,
      .inr ⟨rfl, hstale⟩⟩
    · rw [hgeneration]
      exact hfollows.pos
    · rw [← hfits.numbered.1]
      exact hstale
  · rw [if_neg hstale]
    cases hstarts : item.command.payload.type.startsGeneration with
    | true =>
      obtain ⟨p', hprocess, hfollows'⟩ := hfollows.process_opens hfits hstarts
      rw [hprocess]
      exact ⟨p', .Completed, rfl, hfollows', .inl rfl⟩
    | false =>
      have hgeneration := hfits.generation
      rw [hstarts, if_neg Bool.false_ne_true] at hgeneration
      have hlive : s.minimumAcceptedGeneration ≤ v.generation := by
        rw [← hgeneration, ← hfits.numbered.1]
        exact Nat.le_of_not_lt hstale
      obtain ⟨p', hprocess, hfollows'⟩ := hfollows.process_continues hfits hstarts hlive
      rw [hprocess]
      exact ⟨p', .Completed, rfl, hfollows', .inl rfl⟩

theorem Inv.work (h : s.Inv gs) (hinput : s.KeepsGenerations gs .work) : (s.work gs).Inv gs := by
  unfold ThreadedGsExecutor.work
  split
  · exact h
  · rename_i item hactive
    obtain ⟨v, hpath, hfollows⟩ := h.path
    have hpending : s.pending = item :: s.queue := by simp [pending, hactive]
    have htickets := h.tickets
    have hincreasing := h.increasing
    have hcounted := h.counted
    rw [numbers, hpending] at hincreasing hcounted
    rw [hpending] at hpath htickets
    obtain ⟨v', hfits, htail⟩ := hpath.of_cons
    obtain ⟨processor, disposition, hdone, hfollows', hdisposition⟩ :=
      Inv.processItem hfits hfollows (hinput item hactive)
    rw [hdone]
    have hnumbers : ({ s with
        processor
        active := none
        queuedPayloadBytes := s.queuedPayloadBytes - item.payloadBytes
        published := s.published ++
          [⟨item.ticket, item.command.identity.generation, item.command.identity.sequence,
            disposition⟩] } : ThreadedGsExecutor υ β).numbers =
        s.published.map (fun p => number p.generation p.sequence) ++
          (item :: s.queue).map fun item =>
            number item.command.identity.generation item.command.identity.sequence := by
      simp [numbers, pending]
    refine ⟨⟨v', htail, hfollows'⟩, h.submitting, h.bound, h.cancelling, h.fatal, ?_, ?_,
      hnumbers ▸ hincreasing, hnumbers ▸ hcounted⟩
    · intro p hp
      rcases List.mem_append.1 hp with hp | hp
      · exact h.results p hp
      · rw [List.mem_singleton.1 hp]
        exact hdisposition
    · rw [List.map_append, List.append_assoc]
      exact htickets

/-! ## Runs -/

theorem step_inv (s : ThreadedGsExecutor υ β) (input : GsExecutorInput β) (h : s.Inv gs)
    (hinput : s.KeepsGenerations gs input) : (s.step gs input).Inv gs := by
  cases input with
  | submit request => exact h.submit hinput
  | tryEnqueue => exact h.tryEnqueue
  | cancelPendingBeforeGeneration generation => exact h.cancelPendingBeforeGeneration
  | raiseMinimumAcceptedGeneration generation => exact h.raiseMinimumAcceptedGeneration
  | dequeue => exact h.dequeue
  | work => exact h.work hinput

/-- **In every run in which no item that opens a generation is dropped, the worker never fails,
completes every item or drops it below the cancellation bound, publishes the tickets one by one and the
numbers in lexicographic order; and once everything is processed both sides stand alike.** -/
theorem protocol_kept {queueCapacity payloadCapacityBytes : ℕ} {processor : GsCommandProcessor υ}
    {inputs : List (GsExecutorInput β)} (hpos : 0 < processor.generation)
    (hrun : Along (step gs) (KeepsGenerations gs)
      (create queueCapacity payloadCapacityBytes processor) inputs) :
    let s := run (step gs) (create queueCapacity payloadCapacityBytes processor) inputs
    s.fatalFailure = none ∧
    (∀ p ∈ s.published, p.disposition = .Completed ∨
      p.disposition = .StaleGeneration ∧ p.generation < s.minimumAcceptedGeneration) ∧
    s.published.map (·.ticket) = List.range' 1 s.published.length ∧
    s.published.Pairwise (fun p q => number p.generation p.sequence <
      number q.generation q.sequence) ∧
    (s.active = none → s.queue = [] →
      s.producer.generation = s.processor.generation ∧
      s.producer.nextSequence = s.processor.completedSequence) := by
  intro s
  have h : s.Inv gs := invariant step_inv (inv_create hpos) hrun
  refine ⟨h.fatal, h.results, ?_, ?_, fun hactive hqueue => ?_⟩
  · have hprefix : s.published.map (·.ticket) <+: List.range' 1 s.producer.nextTicket :=
      ⟨_, h.tickets⟩
    have hlength := hprefix.length_le
    rw [List.length_map, List.length_range'] at hlength
    rw [List.prefix_iff_eq_take.1 hprefix, List.length_map, List.take_range'_of_length_ge hlength]
  · exact List.pairwise_map.1 (List.pairwise_append.1 h.increasing).1
  · obtain ⟨v, hpath, hfollows⟩ := h.path
    have hpending : s.pending = [] := by simp [pending, hactive, hqueue]
    rw [hpending] at hpath
    cases hpath
    have hsync := hfollows.sequence.resolve_left (Nat.not_lt.2 h.bound)
    exact ⟨hfollows.generation.symm, hsync.1.symm⟩

/-! ## Where it fails -/

/-- A GS that accepts everything. -/
def acceptingGs : GsUnit Unit Unit where
  validBody _ _ := true
  apply u _ _ := u

def resetRequest : GsSubmitRequest Unit := { payload := ⟨.Reset, 0, 0, ()⟩ }

def markerRequest (fieldSequence : ℕ) : GsSubmitRequest Unit :=
  { payload := ⟨.FieldMarker, 8, fieldSequence, ()⟩ }

/-- A field marker is dropped, and the reset after it is not. -/
def markerThenReset : List (GsExecutorInput Unit) :=
  [.submit (markerRequest 5), .tryEnqueue, .submit resetRequest, .tryEnqueue,
    .cancelPendingBeforeGeneration 2, .raiseMinimumAcceptedGeneration 2, .dequeue, .work, .dequeue,
    .work]

theorem protocol_kept_reset :
    let s := run (step acceptingGs) (create 4 8 { gs := () }) markerThenReset
    s.published.length = 2 ∧ s.fatalFailure = none ∧
    s.producer.generation = s.processor.generation := by
  have hrun : Along (step acceptingGs) (KeepsGenerations acceptingGs)
      (create 4 8 { gs := () }) markerThenReset := by
    refine ⟨⟨rfl, fun _ => by decide⟩, trivial, ⟨rfl, fun h => by cases h⟩, trivial, trivial,
      trivial, trivial, ?_, trivial, ?_, trivial⟩
    · intro item hitem hopens
      cases hitem
      cases hopens
    · intro item hitem _
      cases hitem
      decide
  obtain ⟨hfatal, -, -, -, hdrained⟩ := protocol_kept (by decide) hrun
  exact ⟨by decide, hfatal, (hdrained rfl rfl).1⟩

/-- The first of two resets is dropped, and the second is fatal. -/
theorem dropped_reset_fatal :
    (run (step acceptingGs) (create 4 8 { gs := () })
      [.submit resetRequest, .tryEnqueue, .submit resetRequest, .tryEnqueue,
        .cancelPendingBeforeGeneration 3, .raiseMinimumAcceptedGeneration 3, .dequeue, .work,
        .dequeue, .work]).fatalFailure = some "GS owner rejected queued command: reset" := by
  decide

end ThreadedGsExecutor

end Ps2Recomp
