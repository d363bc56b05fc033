import Ps2Recomp.Gs.InlineExecutor

/-!
# What a failed inline submission leaves behind

The executor and the processor have the same numbers after every call, and a call that fails leaves
those of the processor alone, in exactly the runs in which no `Reset` or `RestoreReplayState` fails for
its payload or in the GS (`atomic_iff_opens`). A `RestoreReplayState` with a state that
`encodeGsReplayState` rejects leaves the executor a generation ahead: everything after it is rejected.
-/

namespace Ps2Recomp

open Machine

/-! ## The processor -/

namespace GsCommandProcessor

variable {υ : Type}

/-- The numbers by which the next command is judged are the same. -/
structure SameNumbers (p p' : GsCommandProcessor υ) : Prop where
  generation : p'.generation = p.generation
  completedSequence : p'.completedSequence = p.completedSequence
  completedFieldSequence : p'.completedFieldSequence = p.completedFieldSequence

theorem SameNumbers.refl (p : GsCommandProcessor υ) : SameNumbers p p := ⟨rfl, rfl, rfl⟩

/-- The processor when a new generation has begun. -/
def opened (p : GsCommandProcessor υ) (generation : ℕ) : GsCommandProcessor υ :=
  { p with generation, completedSequence := 0, completedFieldSequence := 0 }

end GsCommandProcessor

namespace GsDevice

variable {υ δ : Type} {gs : GsDevice υ δ} {p : GsCommandProcessor υ} {command : GsVariantCommand δ}

/-- The GS carries the payload out: a field marker advances, and nothing throws. -/
def Performs (gs : GsDevice υ δ) (p : GsCommandProcessor υ) (debugVsyncTick : ℕ)
    (payload : GsCommandVariant δ) : Prop :=
  (payload.type = .FieldMarker → p.completedFieldSequence < payload.fieldSequence) ∧
    (gs.execute p.gs debugVsyncTick payload).2 = none

/-- The command says of its payload what is the case, and its payload is valid. -/
structure WellFormed (command : GsVariantCommand δ) : Prop where
  type : command.type = command.payload.type
  payloadSize : command.payloadSize = command.payload.payloadSize
  sequence : command.identity.sequence ≠ 0
  generation : command.identity.generation ≠ 0
  valid : command.payload.isValidCommandPayload

theorem perform_of_performs (h : gs.Performs p command.debugVsyncTick command.payload) :
    (gs.perform p command).2 = .ok .Completed ∧
      (gs.perform p command).1.generation = p.generation ∧
      (gs.perform p command).1.completedSequence = command.identity.sequence := by
  have hmarker : ¬(command.payload.type = .FieldMarker ∧
      command.payload.fieldSequence ≤ p.completedFieldSequence) := by
    intro hstale
    exact absurd (h.1 hstale.1) (by omega)
  unfold perform
  dsimp only
  rw [if_neg hmarker, h.2]
  exact ⟨rfl, rfl, rfl⟩

theorem perform_of_not_performs (h : ¬gs.Performs p command.debugVsyncTick command.payload) :
    (∃ failure, (gs.perform p command).2 = .error failure) ∧
      p.SameNumbers (gs.perform p command).1 := by
  unfold perform
  dsimp only
  split
  case isTrue hstale => exact ⟨⟨_, rfl⟩, rfl, rfl, rfl⟩
  case isFalse hmarker =>
    cases hcall : (gs.execute p.gs command.debugVsyncTick command.payload).2 with
    | some failure => exact ⟨⟨failure, rfl⟩, rfl, rfl, rfl⟩
    | none =>
      have hadvances : command.payload.type = .FieldMarker →
          p.completedFieldSequence < command.payload.fieldSequence := by
        intro htype
        exact Nat.lt_of_not_le fun hle => hmarker ⟨htype, hle⟩
      exact absurd ⟨hadvances, hcall⟩ h

theorem process_malformed (h : ¬command.payload.isValidCommandPayload) :
    gs.process p command = (p, .ok .Malformed) := by
  have hmalformed : command.type ≠ command.payload.type ∨
      command.payloadSize ≠ command.payload.payloadSize ∨ command.identity.sequence = 0 ∨
      command.identity.generation = 0 ∨ !command.payload.isValidCommandPayload := by
    simp only [h, Bool.not_false, or_true]
  unfold process
  dsimp only
  rw [if_pos hmalformed]

theorem WellFormed.not_malformed (h : WellFormed command) :
    ¬(command.type ≠ command.payload.type ∨
      command.payloadSize ≠ command.payload.payloadSize ∨ command.identity.sequence = 0 ∨
      command.identity.generation = 0 ∨ !command.payload.isValidCommandPayload) := by
  simp [h.type, h.payloadSize, h.sequence, h.generation, h.valid]

/-- The next command of the generation goes to the GS. -/
theorem process_next (h : WellFormed command) (hstarts : command.payload.startsGeneration = false)
    (hgeneration : command.identity.generation = p.generation)
    (hsequence : command.identity.sequence = p.completedSequence + 1)
    (hmax : p.completedSequence ≠ uint64Max.val) :
    gs.process p command = gs.perform p command := by
  unfold process
  dsimp only
  rw [if_neg h.not_malformed]
  simp [hstarts, hgeneration, hsequence, hmax]

/-- So does the first command of the next generation, once the processor has opened it. -/
theorem process_open (h : WellFormed command) (hstarts : command.payload.startsGeneration = true)
    (hgeneration : command.identity.generation = p.generation + 1)
    (hsequence : command.identity.sequence = 1) (hmax : p.generation ≠ uint64Max.val) :
    gs.process p command = gs.perform (p.opened (p.generation + 1)) command := by
  unfold process
  dsimp only
  rw [if_neg h.not_malformed]
  simp [hstarts, hgeneration, hsequence, hmax, GsCommandProcessor.opened]

/-! A GS that never throws makes this the processor of `Gs/CommandExecutor.lean`. -/

/-- The payload for a processor that reads its type, size and field sequence only. -/
def erasedPayload (payload : GsCommandVariant δ) : GsCommandPayload (GsCommandVariant δ) where
  type := payload.type
  payloadSize := payload.payloadSize
  fieldSequence := payload.fieldSequence
  body := payload

def erased (command : GsVariantCommand δ) : GsCommand (GsCommandVariant δ) where
  identity := command.identity
  type := command.type
  payloadSize := command.payloadSize
  debugVsyncTick := command.debugVsyncTick
  payload := erasedPayload command.payload

def total (gs : GsDevice υ δ) : GsUnit υ (GsCommandVariant δ) where
  validBody _ payload := payload.isValidCommandPayload
  apply device debugVsyncTick payload := (gs.execute device debugVsyncTick payload.body).1

theorem total_isValidCommandPayload (payload : GsCommandVariant δ) :
    gs.total.isValidCommandPayload (erasedPayload payload) = payload.isValidCommandPayload := by
  cases payload with
  | FieldMarker fieldSequence registers =>
    simp only [GsUnit.isValidCommandPayload, total, erasedPayload, GsCommandVariant.type,
      GsCommandVariant.fieldSequence, GsCommandVariant.isValidCommandPayload]
    by_cases hzero : fieldSequence = 0
    · simp [hzero]
    · simp [hzero]
  | plain type arguments =>
    have htype : type.val ≠ .FieldMarker := fun hmarker => by
      have hplain := type.property
      rw [hmarker] at hplain
      exact absurd hplain (by decide)
    simp [GsUnit.isValidCommandPayload, total, erasedPayload, GsCommandVariant.type, htype]
  | _ => simp [GsUnit.isValidCommandPayload, total, erasedPayload, GsCommandVariant.type]

theorem process_eq_of_total
    (h : ∀ device tick payload, (gs.execute device tick payload).2 = none) :
    gs.process p command = p.process gs.total (erased command) := by
  unfold process GsCommandProcessor.process perform
  simp only [h]
  rw [erased, total_isValidCommandPayload]
  rfl

theorem process_generation_pos (gs : GsDevice υ δ) (command : GsVariantCommand δ)
    (h : 0 < p.generation) : 0 < (gs.processed p command).generation := by
  have hperform : ∀ p : GsCommandProcessor υ, (gs.perform p command).1.generation = p.generation := by
    intro p
    by_cases hperforms : gs.Performs p command.debugVsyncTick command.payload
    · exact (perform_of_performs hperforms).2.1
    · exact (perform_of_not_performs hperforms).2.generation
  unfold processed process
  dsimp only
  split
  · exact h
  split
  · exact h
  case isFalse hstale =>
    split
    · exact h
    split
    · exact h
    split
    · exact h
    split
    case isTrue hbegins =>
      split
      · exact Nat.lt_of_lt_of_le h (Nat.not_lt.mp hstale)
      · rw [hperform]
        exact Nat.lt_of_lt_of_le h (Nat.not_lt.mp hstale)
    case isFalse hbegins =>
      split
      · exact h
      · rw [hperform]
        exact h

end GsDevice

/-! ## A call of the executor -/

namespace InlineGsExecutor

open GsDevice (WellFormed process_malformed process_next process_open)

variable {υ δ : Type} {gs : GsDevice υ δ} {diagnostics : Bool} {s : InlineGsExecutor υ}
  {request : InlineGsRequest δ} {command : GsVariantCommand δ} {p : GsCommandProcessor υ}

/-- The numbers of the executor are those of the processor. -/
structure InSync (s : InlineGsExecutor υ) : Prop where
  generation : s.generation = s.processor.generation
  nextSequence : s.nextSequence = s.processor.completedSequence

theorem complete_performed (hprocess : gs.process s.processor command = gs.perform p command)
    (h : gs.Performs p command.debugVsyncTick command.payload) :
    (s.complete gs command).2 = .ok command.identity ∧
      (s.complete gs command).1.processor.generation = p.generation ∧
      (s.complete gs command).1.generation = s.generation ∧
      (s.complete gs command).1.nextSequence =
        (s.complete gs command).1.processor.completedSequence := by
  obtain ⟨hcompleted, hgeneration, hsequence⟩ := GsDevice.perform_of_performs h
  unfold complete
  dsimp only
  rw [hprocess, hcompleted]
  exact ⟨rfl, hgeneration, rfl, hsequence.symm⟩

theorem complete_failed (hprocess : gs.process s.processor command = gs.perform p command)
    (h : ¬gs.Performs p command.debugVsyncTick command.payload) :
    (∃ failure, (s.complete gs command).2 = .error failure) ∧
      p.SameNumbers (s.complete gs command).1.processor ∧
      (s.complete gs command).1.generation = s.generation ∧
      (s.complete gs command).1.nextSequence = s.nextSequence := by
  obtain ⟨⟨failure, hfailed⟩, hsame⟩ := GsDevice.perform_of_not_performs h
  unfold complete
  dsimp only
  rw [hprocess, hfailed]
  exact ⟨⟨failure, rfl⟩, hsame, rfl, rfl⟩

theorem complete_malformed (h : ¬command.payload.isValidCommandPayload) :
    s.complete gs command = (s, .error ("inline GS command rejected: " ++ command.type.name)) := by
  unfold complete
  dsimp only
  rw [process_malformed h]

/-- The executor once a hot command has claimed its thread. -/
def withProducer (s : InlineGsExecutor υ) (thread : Option ℕ) : InlineGsExecutor υ :=
  { s with hotProducerThread := thread }

/-- The executor once it has opened a generation. -/
def opened (s : InlineGsExecutor υ) : InlineGsExecutor υ :=
  { s with generation := s.generation + 1, nextSequence := 0 }

theorem InSync.withProducer (h : s.InSync) (thread : Option ℕ) : (s.withProducer thread).InSync :=
  ⟨h.generation, h.nextSequence⟩

/-- The counter that the request advances first has room. -/
def HasRoom (s : InlineGsExecutor υ) (payload : GsCommandVariant δ) : Prop :=
  if payload.startsGeneration then s.generation ≠ uint64Max.val else s.nextSequence ≠ uint64Max.val

theorem checkedGsIncrement_of_ne {value : ℕ} (h : value ≠ uint64Max.val) (identityName : String) :
    checkedGsIncrement value identityName = .ok (value + 1) := if_neg h

theorem checkedGsIncrement_max {value : ℕ} (h : value = uint64Max.val) (identityName : String) :
    checkedGsIncrement value identityName = .error ("GS command " ++ identityName ++ " exhausted") :=
  if_pos h

theorem checkedGsIncrement_zero (identityName : String) :
    checkedGsIncrement 0 identityName = .ok 1 := checkedGsIncrement_of_ne (by decide) identityName

theorem submit_thread {failure : String}
    (h : s.assertHotProducerThread diagnostics request = .error failure) :
    s.submit gs diagnostics request = (s, .error failure) := by
  unfold submit
  rw [h]

theorem submit_exhausted (gs : GsDevice υ δ) {thread : Option ℕ}
    (h : s.assertHotProducerThread diagnostics request = .ok thread)
    (hroom : ¬s.HasRoom request.payload) :
    ∃ failure, s.submit gs diagnostics request = (s.withProducer thread, .error failure) := by
  unfold submit openGeneration
  rw [h]
  unfold HasRoom at hroom
  split at hroom
  case isTrue hstarts =>
    have hmax : s.generation = uint64Max.val := not_not.mp hroom
    simp only [hstarts, if_true, checkedGsIncrement_max hmax, Except.map]
    exact ⟨_, rfl⟩
  case isFalse hstarts =>
    have hmax : s.nextSequence = uint64Max.val := not_not.mp hroom
    simp only [hstarts, Bool.false_eq_true, if_false, checkedGsIncrement_max hmax]
    exact ⟨_, rfl⟩

theorem submit_next {thread : Option ℕ}
    (h : s.assertHotProducerThread diagnostics request = .ok thread)
    (hroom : s.HasRoom request.payload) (hstarts : request.payload.startsGeneration = false) :
    s.submit gs diagnostics request =
      (s.withProducer thread).complete gs
        ((s.withProducer thread).makeCommand request (s.nextSequence + 1)) := by
  have hmax : s.nextSequence ≠ uint64Max.val := by simpa [HasRoom, hstarts] using hroom
  unfold submit openGeneration
  rw [h]
  simp only [hstarts, Bool.false_eq_true, if_false, checkedGsIncrement_of_ne hmax]
  rfl

theorem submit_open {thread : Option ℕ}
    (h : s.assertHotProducerThread diagnostics request = .ok thread)
    (hroom : s.HasRoom request.payload) (hstarts : request.payload.startsGeneration = true) :
    s.submit gs diagnostics request =
      (s.withProducer thread).opened.complete gs
        ((s.withProducer thread).opened.makeCommand request 1) := by
  have hmax : s.generation ≠ uint64Max.val := by simpa [HasRoom, hstarts] using hroom
  unfold submit openGeneration
  rw [h]
  simp only [hstarts, if_true, checkedGsIncrement_of_ne hmax, Except.map, checkedGsIncrement_zero]
  rfl

/-- The command of a valid request with a positive generation and sequence number is well formed. -/
theorem wellFormed_makeCommand (hvalid : request.payload.isValidCommandPayload)
    (hgeneration : 0 < s.generation) (sequence : ℕ) :
    WellFormed (s.makeCommand request (sequence + 1)) where
  type := rfl
  payloadSize := rfl
  sequence := Nat.succ_ne_zero sequence
  generation := Nat.pos_iff_ne_zero.mp hgeneration
  valid := hvalid

/-- In step with the processor, the next command of the generation is the one it waits for. -/
theorem InSync.process_next (gs : GsDevice υ δ) (h : s.InSync) (hpos : 0 < s.processor.generation)
    (hvalid : request.payload.isValidCommandPayload) (hroom : s.HasRoom request.payload)
    (hstarts : request.payload.startsGeneration = false) :
    gs.process s.processor (s.makeCommand request (s.nextSequence + 1)) =
      gs.perform s.processor (s.makeCommand request (s.nextSequence + 1)) := by
  have hmax : s.nextSequence ≠ uint64Max.val := by simpa [HasRoom, hstarts] using hroom
  refine GsDevice.process_next (wellFormed_makeCommand hvalid (h.generation ▸ hpos) _) hstarts
    h.generation ?_ ?_
  · exact congrArg (· + 1) h.nextSequence
  · rwa [← h.nextSequence]

/-- So is the first command of the next one. -/
theorem InSync.process_open (gs : GsDevice υ δ) (h : s.InSync) (hvalid : request.payload.isValidCommandPayload)
    (hroom : s.HasRoom request.payload) (hstarts : request.payload.startsGeneration = true) :
    gs.process s.opened.processor (s.opened.makeCommand request 1) =
      gs.perform (s.processor.opened (s.processor.generation + 1))
        (s.opened.makeCommand request 1) := by
  have hmax : s.generation ≠ uint64Max.val := by simpa [HasRoom, hstarts] using hroom
  refine GsDevice.process_open
    (wellFormed_makeCommand hvalid (Nat.succ_pos s.generation) 0) hstarts ?_ rfl ?_
  · exact congrArg (· + 1) h.generation
  · exact h.generation ▸ hmax

/-- A command that opens a generation is not a field marker. -/
theorem performs_opened (hstarts : request.payload.startsGeneration = true) (generation : ℕ) :
    gs.Performs (p.opened generation) request.debugVsyncTick request.payload ↔
      (gs.execute p.gs request.debugVsyncTick request.payload).2 = none := by
  have hmarker : request.payload.type ≠ .FieldMarker := by
    intro htype
    rw [GsCommandVariant.startsGeneration, htype] at hstarts
    exact absurd hstarts (by decide)
  exact and_iff_right fun htype => absurd htype hmarker

/-- Nor is it a hot one. -/
theorem thread_of_startsGeneration (diagnostics : Bool)
    (hstarts : request.payload.startsGeneration = true) :
    s.assertHotProducerThread diagnostics request = .ok s.hotProducerThread := by
  have hcold : request.payload.isHotCommand = false := by
    unfold GsCommandVariant.startsGeneration at hstarts
    unfold GsCommandVariant.isHotCommand
    revert hstarts
    cases request.payload.type <;> decide
  unfold assertHotProducerThread
  rw [hcold]
  exact if_pos (by simp)

/-! ## Atomic calls -/

/-- A valid submission: its thread may submit it, its payload passes the checks, its identity is not
exhausted, and the GS carries it out. -/
structure Admissible (gs : GsDevice υ δ) (diagnostics : Bool) (s : InlineGsExecutor υ)
    (request : InlineGsRequest δ) : Prop where
  thread : ∃ thread, s.assertHotProducerThread diagnostics request = .ok thread
  valid : request.payload.isValidCommandPayload
  room : s.HasRoom request.payload
  performs : if request.payload.startsGeneration then
      (gs.execute s.processor.gs request.debugVsyncTick request.payload).2 = none
    else gs.Performs s.processor request.debugVsyncTick request.payload

def AcceptsValid (gs : GsDevice υ δ) (diagnostics : Bool) (s : InlineGsExecutor υ) : Prop :=
  ∀ request, s.Admissible gs diagnostics request →
    ∃ identity, (s.submit gs diagnostics request).2 = .ok identity

/-- After the call the numbers agree and every valid submission is accepted, and if the call has
failed the processor still has its numbers. -/
structure Atomic (gs : GsDevice υ δ) (diagnostics : Bool) (s : InlineGsExecutor υ)
    (request : InlineGsRequest δ) : Prop where
  inSync : (s.submitted gs diagnostics request).InSync
  accepts : (s.submitted gs diagnostics request).AcceptsValid gs diagnostics
  unchanged : ∀ failure, (s.submit gs diagnostics request).2 = .error failure →
    s.processor.SameNumbers (s.submitted gs diagnostics request).processor

/-- A request that opens a generation has a valid payload, and the GS carries it out, unless there is
no generation left to open. -/
def Opens (gs : GsDevice υ δ) (s : InlineGsExecutor υ) (request : InlineGsRequest δ) : Prop :=
  request.payload.startsGeneration = true →
    s.generation = uint64Max.val ∨
      request.payload.isValidCommandPayload = true ∧
        (gs.execute s.processor.gs request.debugVsyncTick request.payload).2 = none

/-- **In step with the processor, every valid submission is accepted.** -/
theorem InSync.accepts (h : s.InSync) (hpos : 0 < s.processor.generation) :
    s.AcceptsValid gs diagnostics := by
  intro request hrequest
  obtain ⟨thread, hthread⟩ := hrequest.thread
  have hsync := h.withProducer thread
  have hperforms := hrequest.performs
  cases hstarts : request.payload.startsGeneration with
  | false =>
    rw [submit_next hthread hrequest.room hstarts]
    rw [if_neg (by simp [hstarts])] at hperforms
    have hnext := hsync.process_next gs hpos hrequest.valid hrequest.room hstarts
    exact ⟨_, (complete_performed hnext hperforms).1⟩
  | true =>
    rw [submit_open hthread hrequest.room hstarts]
    rw [if_pos hstarts] at hperforms
    have hopen := hsync.process_open gs hrequest.valid hrequest.room hstarts
    exact ⟨_, (complete_performed hopen ((performs_opened hstarts _).mpr hperforms)).1⟩

/-- A command of the running generation keeps the executor in step, whatever becomes of it. -/
theorem InSync.submit_next (h : s.InSync) (hpos : 0 < s.processor.generation)
    (hstarts : request.payload.startsGeneration = false) :
    (s.submitted gs diagnostics request).InSync ∧
      ∀ failure, (s.submit gs diagnostics request).2 = .error failure →
        s.processor.SameNumbers (s.submitted gs diagnostics request).processor := by
  unfold submitted
  cases hthread : s.assertHotProducerThread diagnostics request with
  | error failure =>
    rw [submit_thread hthread]
    exact ⟨h, fun _ _ => GsCommandProcessor.SameNumbers.refl _⟩
  | ok thread =>
    have hsync := h.withProducer thread
    by_cases hroom : s.HasRoom request.payload
    · rw [InlineGsExecutor.submit_next hthread hroom hstarts]
      by_cases hvalid : request.payload.isValidCommandPayload = true
      · have hnext := hsync.process_next gs hpos hvalid hroom hstarts
        by_cases hperforms : gs.Performs s.processor request.debugVsyncTick request.payload
        · obtain ⟨hok, hgeneration, hkept, hsequence⟩ := complete_performed hnext hperforms
          refine ⟨⟨?_, hsequence⟩, fun failure hfailed => ?_⟩
          · exact hkept.trans (hsync.generation.trans hgeneration.symm)
          · exact absurd (hok.symm.trans hfailed) (by simp)
        · obtain ⟨-, hsame, hkept, hsequence⟩ := complete_failed hnext hperforms
          refine ⟨⟨?_, ?_⟩, fun _ _ => hsame⟩
          · exact hkept.trans (hsync.generation.trans hsame.generation.symm)
          · exact hsequence.trans (hsync.nextSequence.trans hsame.completedSequence.symm)
      · rw [complete_malformed hvalid]
        exact ⟨hsync, fun _ _ => GsCommandProcessor.SameNumbers.refl _⟩
    · obtain ⟨failure, hexhausted⟩ := submit_exhausted gs hthread hroom
      rw [hexhausted]
      exact ⟨hsync, fun _ _ => GsCommandProcessor.SameNumbers.refl _⟩

/-- With no generation left, nothing happens. -/
theorem submit_lastGeneration (hstarts : request.payload.startsGeneration = true)
    (hmax : s.generation = uint64Max.val) : s.submitted gs diagnostics request = s := by
  have hroom : ¬s.HasRoom request.payload := by
    rw [HasRoom, if_pos hstarts]
    exact not_not.mpr hmax
  obtain ⟨failure, hexhausted⟩ :=
    submit_exhausted gs (thread_of_startsGeneration diagnostics hstarts) hroom
  rw [submitted, hexhausted]
  rfl

/-- A command that opens a generation keeps them in step if its payload is valid. -/
theorem InSync.submit_open (h : s.InSync) (hstarts : request.payload.startsGeneration = true)
    (hmax : s.generation ≠ uint64Max.val) :
    ((s.submitted gs diagnostics request).InSync ∧
      ∀ failure, (s.submit gs diagnostics request).2 = .error failure →
        s.processor.SameNumbers (s.submitted gs diagnostics request).processor) ↔
    request.payload.isValidCommandPayload = true ∧
      (gs.execute s.processor.gs request.debugVsyncTick request.payload).2 = none := by
  have hroom : s.HasRoom request.payload := by rwa [HasRoom, if_pos hstarts]
  have hsync := h.withProducer s.hotProducerThread
  unfold submitted
  rw [InlineGsExecutor.submit_open (thread_of_startsGeneration diagnostics hstarts) hroom hstarts]
  by_cases hvalid : request.payload.isValidCommandPayload = true
  · have hopen := hsync.process_open gs hvalid hroom hstarts
    by_cases hcall : (gs.execute s.processor.gs request.debugVsyncTick request.payload).2 = none
    · obtain ⟨hok, hgeneration, hkept, hsequence⟩ :=
        complete_performed hopen ((performs_opened hstarts _).mpr hcall)
      refine iff_of_true ⟨⟨?_, hsequence⟩, fun failure hfailed => ?_⟩ ⟨hvalid, hcall⟩
      · exact hkept.trans ((congrArg (· + 1) h.generation).trans hgeneration.symm)
      · exact absurd (hok.symm.trans hfailed) (by simp)
    · have hperforms := mt (performs_opened hstarts (s.processor.generation + 1)).mp hcall
      obtain ⟨⟨failure, hfailed⟩, hsame, -, -⟩ := complete_failed hopen hperforms
      refine iff_of_false (fun hatomic => ?_) fun hopens => hcall hopens.2
      have hkept := (hatomic.2 failure hfailed).generation.symm.trans hsame.generation
      exact absurd hkept (Nat.ne_of_lt (Nat.lt_succ_self _))
  · rw [complete_malformed hvalid]
    refine iff_of_false (fun hatomic => ?_) fun hopens => hvalid hopens.1
    -- the executor has moved on and the processor has not
    have hahead : s.generation + 1 = s.processor.generation := hatomic.1.generation
    exact absurd (hahead.trans h.generation.symm) (Nat.succ_ne_self _)

theorem submitted_generation_pos (h : 0 < s.processor.generation) :
    0 < (s.submitted gs diagnostics request).processor.generation := by
  have hcomplete : ∀ t : InlineGsExecutor υ, 0 < t.processor.generation → ∀ command,
      0 < (t.complete gs command).1.processor.generation := by
    intro t ht command
    have hprocessed := GsDevice.process_generation_pos gs command ht
    unfold complete
    dsimp only
    split <;> exact hprocessed
  unfold submitted
  cases hthread : s.assertHotProducerThread diagnostics request with
  | error failure => rwa [submit_thread hthread]
  | ok thread =>
    by_cases hroom : s.HasRoom request.payload
    · cases hstarts : request.payload.startsGeneration with
      | false =>
        rw [InlineGsExecutor.submit_next hthread hroom hstarts]
        exact hcomplete (s.withProducer thread) h _
      | true =>
        rw [InlineGsExecutor.submit_open hthread hroom hstarts]
        exact hcomplete (s.withProducer thread).opened h _
    · obtain ⟨failure, hexhausted⟩ := submit_exhausted gs hthread hroom
      rwa [hexhausted]

/-- **One call** is atomic exactly if it does not fail after opening a generation. -/
theorem InSync.atomic_iff (h : s.InSync) (hpos : 0 < s.processor.generation) :
    s.Atomic gs diagnostics request ↔ s.Opens gs request := by
  have haccepts : (s.submitted gs diagnostics request).InSync →
      (s.submitted gs diagnostics request).AcceptsValid gs diagnostics :=
    fun hafter => hafter.accepts (submitted_generation_pos hpos)
  have hatomic : s.Atomic gs diagnostics request ↔
      (s.submitted gs diagnostics request).InSync ∧
        ∀ failure, (s.submit gs diagnostics request).2 = .error failure →
          s.processor.SameNumbers (s.submitted gs diagnostics request).processor :=
    ⟨fun hcall => ⟨hcall.inSync, hcall.unchanged⟩,
      fun hcall => ⟨hcall.1, haccepts hcall.1, hcall.2⟩⟩
  rw [hatomic, Opens]
  cases hstarts : request.payload.startsGeneration with
  | false => exact iff_of_true (h.submit_next hpos hstarts) fun hopens => absurd hopens (by decide)
  | true =>
    by_cases hmax : s.generation = uint64Max.val
    · rw [submit_lastGeneration hstarts hmax]
      exact iff_of_true ⟨h, fun _ _ => GsCommandProcessor.SameNumbers.refl _⟩ fun _ => .inl hmax
    · rw [h.submit_open hstarts hmax]
      simp [hmax]

/-! ## Runs -/

/-- **Submission is atomic in its identities**, in every run of an executor on a processor with any
history, exactly if no call that opens a generation fails for its payload or in the GS. -/
theorem atomic_iff_opens (gs : GsDevice υ δ) (diagnostics : Bool) (device : υ)
    (history : List (GsVariantCommand δ)) (requests : List (InlineGsRequest δ)) :
    Along (submitted gs diagnostics) (Atomic gs diagnostics)
        (create (run gs.processed { gs := device } history)) requests ↔
      Along (submitted gs diagnostics) (Opens gs)
        (create (run gs.processed { gs := device } history)) requests := by
  let Tracked (s : InlineGsExecutor υ) := s.InSync ∧ 0 < s.processor.generation
  have hfree : Along gs.processed (fun _ _ => True) { gs := device } history :=
    along_of_forall fun _ _ _ => trivial
  have hpos : 0 < (run gs.processed { gs := device } history).generation :=
    invariant (I := fun p : GsCommandProcessor υ => 0 < p.generation)
      (fun _ command hp _ => GsDevice.process_generation_pos gs command hp) Nat.one_pos hfree
  have hstart : Tracked (create (run gs.processed { gs := device } history)) := ⟨⟨rfl, rfl⟩, hpos⟩
  refine along_iff (R := fun s t => s = t ∧ Tracked s) ?_ ?_ ⟨rfl, hstart⟩
  · rintro s _ request ⟨rfl, hsync, hgeneration⟩
    exact hsync.atomic_iff hgeneration
  · rintro s _ request ⟨rfl, -, hgeneration⟩ hatomic
    exact ⟨rfl, hatomic.inSync, submitted_generation_pos hgeneration⟩

/-! ## A rejected restore -/

/-- A GS that does nothing. -/
def idleDevice : GsDevice Unit Unit where
  execute _ _ _ := ((), none)

/-- A restore whose state has a scan mask that does not exist. -/
def brokenRestore : InlineGsRequest Unit where
  payload := .RestoreReplayState { (default : GsReplay.GsReplayState) with scanMask := 4 }

/-- The executor is a generation ahead after it, and the `Barrier` that follows is rejected. -/
theorem restore_notAtomic :
    ¬Along (submitted idleDevice true) (Atomic idleDevice true)
        (create (run idleDevice.processed { gs := () } [])) [brokenRestore] ∧
      (((create { gs := () }).submitted idleDevice true brokenRestore).submit idleDevice true
        { payload := .plain ⟨.Barrier, rfl⟩ () }).2 =
          .error "inline GS command rejected: barrier" := by
  refine ⟨fun hrun => ?_, by decide⟩
  have hahead := hrun.1.inSync.generation
  revert hahead
  decide

end InlineGsExecutor

end Ps2Recomp
