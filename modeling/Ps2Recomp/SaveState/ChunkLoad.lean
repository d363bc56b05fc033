import Ps2Recomp.SaveState.HleChunk
import Ps2Recomp.SaveState.ThreadImage
import Ps2Recomp.Lib.StateExcept

/-!
# Loading the core and the HLE chunk

`PS2Runtime::decodeRuntimeCoreSaveState` and `decodeRuntimeHleSaveState`
(`ps2_runtime_save_state.cpp`) on the bytes of a chunk, as computations on the runtime: a decoder
that returns `false` is one that throws, and what it had assigned by then stays.

* Both read and check the whole chunk before the first assignment (`readCore`, `readHle`). The HLE
  decoder has no check after it, so a chunk that it rejects changes nothing.
* The core decoder restores the event scheduler only after the context, the COP0 timing and the
  timeline, and no check before it implies those of `EeEventScheduler::restore`
  (`commitCore_of_not_restorable`).
* The second restore in its commit, that of the guest states, never fails: the checks before keep
  them valid (`checkRuntimeCore_valid`).

`Host` stands for the members that no chunk saves (open files, throttles, host threads), and
`resetCore` and `resetHle` for what the commits do to them.
-/

namespace Ps2Recomp

namespace ChunkLoad

open ByteCodec CoreChunk HleChunk

structure EeVSyncPacing where
  eeDeadlineTick : EeTick := 0
  enabled : Bool := false
  anchored : Bool := false

/-- The members of the runtime beside the context, the registry and the pending scheduler. A context
is bound by the id of its thread. -/
structure RuntimeMembers (Host : Type) where
  registers : R5900Registers
  threadRegisters : List (Int × R5900Registers) := []
  cop0Timing : Cop0Timing := {}
  eeTimeline : EeTick := 0
  eeEventScheduler : EeEventScheduler := .new
  boundEeContext : Option Int := none
  boundEeThreadId : Int := 1
  tail : CoreTail := {}
  eeVSyncPacing : EeVSyncPacing := {}
  eeExecutorInterruptPassComplete : Bool := false
  hle : HleMembers := {}
  host : Host

abbrev Runtime (Host : Type) := PS2Runtime (RuntimeMembers Host)

variable {Host : Type}

/-! ## The commit of a core chunk -/

/-- The assignments before the restore of the event scheduler. -/
def restoreProcessor (header : CoreHeader) (runtime : Runtime Host) : Runtime Host :=
  { runtime with
    cpuContext := header.cpu.1
    sections :=
      { runtime.sections with
        registers := header.cpu.2
        cop0Timing := header.cop0
        eeTimeline := header.timeline } }

/-- `m_eeEventScheduler.restore(events)`. -/
def restoreEventScheduler (events : EeEventSchedulerSnapshot) (runtime : Runtime Host) :
    Bool × Runtime Host :=
  let restored := runtime.sections.eeEventScheduler.restore events
  (restored.1,
    { runtime with sections := { runtime.sections with eeEventScheduler := restored.2 } })

/-- The registry before the loop over the saved threads. Thread 1 runs on `m_cpuContext`. -/
def clearThreads (resetCore : Host → Host) (image : CoreImage) (runtime : Runtime Host) :
    Runtime Host :=
  { runtime with
    threadState :=
      { runtime.threadState with
        threads := ∅
        nextThreadId := image.checked.nextThreadId
        nextGeneration := image.checked.nextGeneration }
    sections :=
      { runtime.sections with
        threadRegisters := image.threadRegisters.filter (·.1 ≠ 1)
        host := resetCore runtime.sections.host } }

/-- `runtimeState.threads.emplace(saved.id, info)`. -/
def emplaceThread (saved : SavedThread) (guest : EeThreadGuestState) (runtime : Runtime Host) :
    Runtime Host :=
  { runtime with
    threadState :=
      { runtime.threadState with
        threads :=
          if (runtime.threadState.threads.lookup saved.id).isSome then runtime.threadState.threads
          else runtime.threadState.threads.insert saved.id (saved.info guest) } }

/-- The loop over the saved threads. -/
def fillThreads : List SavedThread → EStateM String (Runtime Host) Unit
  | [] => return ()
  | saved :: rest =>
    match EeThreadGuestState.restore saved.guest with
    | none => throw "failed to restore EE guest-thread state"
    | some guest => do
      modify (emplaceThread saved guest)
      fillThreads rest

/-- The assignments after the loop. -/
def restoreMembers (image : CoreImage) (runtime : Runtime Host) : Runtime Host :=
  { runtime with
    threadState :=
      { runtime.threadState with currentThreadId := image.checked.currentThreadId }
    pendingRestoredEeScheduler := some image.checked.scheduler
    sections :=
      { runtime.sections with
        boundEeContext := none
        boundEeThreadId := image.checked.currentThreadId
        tail := image.tail
        eeVSyncPacing :=
          { runtime.sections.eeVSyncPacing with eeDeadlineTick := 0, anchored := false }
        eeExecutorInterruptPassComplete := false } }

abbrev COP0_CAUSE_IP7 : UInt32 := 0x00008000

/-- `publishCop0TimingMirrors(&m_cpuContext)`, with no context bound. -/
def publishCop0TimingMirrors (runtime : Runtime Host) : Runtime Host :=
  let state := runtime.sections.cop0Timing
  let target := runtime.sections.registers
  { runtime with
    sections :=
      { runtime.sections with
        registers :=
          { target with
            cop0_count := .ofBitVec state.count
            cop0_compare := .ofBitVec state.compare
            cop0_perf := .ofBitVec state.pccr
            cop0_pcr0 := .ofBitVec (state.pcr ⟨0, Nat.two_pos⟩)
            cop0_pcr1 := .ofBitVec (state.pcr ⟨1, Nat.one_lt_two⟩)
            cop0_cause :=
              if state.timerPending then target.cop0_cause ||| COP0_CAUSE_IP7
              else target.cop0_cause &&& ~~~COP0_CAUSE_IP7 } } }

/-- `decodeRuntimeCoreSaveState` after the restore of the event scheduler. -/
def commitMembers (resetCore : Host → Host) (image : CoreImage) :
    EStateM String (Runtime Host) Unit := do
  modify (clearThreads resetCore image)
  fillThreads image.checked.threads
  modify fun runtime => publishCop0TimingMirrors (restoreMembers image runtime)

/-- `decodeRuntimeCoreSaveState` from its first assignment on. -/
def commitCore (resetCore : Host → Host) (image : CoreImage) :
    EStateM String (Runtime Host) Unit := do
  modify (restoreProcessor image.header)
  let restored ← modifyGet (restoreEventScheduler image.header.events)
  if restored then commitMembers resetCore image
  else throw "failed to restore EE event scheduler"

/-! ## The decoders -/

/-- `decodeRuntimeCoreSaveState`. -/
def decodeRuntimeCoreSaveState (resetCore : Host → Host) (input : Bytes) :
    EStateM String (Runtime Host) Unit :=
  match readCore input with
  | .error message => throw message
  | .ok image => commitCore resetCore image

/-- `decodeRuntimeHleSaveState`. -/
def decodeRuntimeHleSaveState (resetHle : Host → Host) (input : Bytes) :
    EStateM (Option String) (Runtime Host) Unit :=
  match readHle input with
  | .error message => throw message
  | .ok (members, _) =>
    modify fun runtime =>
      { runtime with
        sections :=
          { runtime.sections with hle := members, host := resetHle runtime.sections.host } }

/-! ## The checked threads -/

def GuestsValid (threads : List SavedThread) : Prop := ∀ t ∈ threads, t.guest.isValid = true

theorem readSavedThreads_valid {threads : List SavedThread} :
    ∀ {threadIds : List Int} {read : List SavedThread},
      readSavedThreads threadIds threads = .ok read → GuestsValid read := by
  induction threads with
  | nil =>
    rintro threadIds read ⟨⟩ t ht
    exact absurd ht List.not_mem_nil
  | cons thread rest ih =>
    intro threadIds read h
    unfold readSavedThreads at h
    split at h
    · cases h
    · rename_i hcheck
      have hguest : thread.guest.isValid = true := by
        simp only [SavedThread.readable, Bool.or_eq_true, Bool.not_eq_true', not_or,
          Bool.not_eq_false, Bool.and_eq_true] at hcheck
        exact hcheck.1.2
      cases hrest : readSavedThreads (thread.id :: threadIds) rest with
      | error message =>
        rw [hrest] at h
        cases h
      | ok threads =>
        rw [hrest] at h
        cases h
        refine List.forall_mem_cons.mpr ⟨?_, ih hrest⟩
        rwa [SavedThread.recover_guest]

/-- A change of one thread that leaves it a valid guest state. -/
theorem GuestsValid.modify {id : Int} {f : SavedThread → SavedThread} {threads : List SavedThread}
    (h : GuestsValid threads)
    (hf : ∀ found, threads.find? (·.id = id) = some found → (f found).guest.isValid = true) :
    GuestsValid (modifyThread id f threads) := by
  induction threads with
  | nil => exact h
  | cons thread rest ih =>
    obtain ⟨hthread, hrest⟩ := List.forall_mem_cons.mp h
    unfold modifyThread
    split
    · rename_i hid
      have hfound : (thread :: rest).find? (·.id = id) = some thread :=
        List.find?_cons_of_pos (by simpa using hid)
      exact List.forall_mem_cons.mpr ⟨hf thread hfound, hrest⟩
    · rename_i hid
      refine List.forall_mem_cons.mpr ⟨hthread, ih hrest fun found hfound => hf found ?_⟩
      rwa [List.find?_cons_of_neg (by simpa using hid)]

/-- The normalisation checks each guest state that it changes. -/
theorem normalizeHleWaits_valid {scheduled : List EeSchedulerThreadSnapshot} :
    ∀ {threads : List SavedThread}
      {result : List EeSchedulerThreadSnapshot × List SavedThread},
      GuestsValid threads → normalizeHleWaits scheduled threads = .ok result →
        GuestsValid result.2 := by
  induction scheduled with
  | nil =>
    rintro threads result hvalid ⟨⟩
    exact hvalid
  | cons source rest ih =>
    intro threads result hvalid h
    unfold normalizeHleWaits at h
    split at h
    · cases hfind : threads.find? (·.id = source.id) with
      | none =>
        rw [hfind] at h
        cases h
      | some found =>
        rw [hfind] at h
        simp only at h
        split at h
        · cases h
        · rename_i hcheck
          obtain ⟨normalized, left, hrest, rfl⟩ := consEntry_eq_ok.mp h
          have hmodified : GuestsValid (modifyThread source.id .withoutWait threads) :=
            hvalid.modify fun other hother => by
              obtain rfl : found = other := Option.some.inj (hfind.symm.trans hother)
              simpa using hcheck
          exact (ih hmodified hrest : GuestsValid (normalized, left).2)
    · obtain ⟨normalized, left, hrest, rfl⟩ := consEntry_eq_ok.mp h
      exact (ih hvalid hrest : GuestsValid (normalized, left).2)

/-- **The checks of the threads imply those of the commit.** -/
theorem checkRuntimeCore_valid {Sections : Type} {checkSections : Sections → Except String Unit}
    {input checked : RuntimeCorePayload Sections}
    (h : PS2Runtime.checkRuntimeCore checkSections input = .ok checked) :
    GuestsValid checked.threads := by
  unfold PS2Runtime.checkRuntimeCore at h
  split at h
  · cases h
  · cases hread : readSavedThreads [] input.threads with
    | error message =>
      rw [hread] at h
      cases h
    | ok read =>
      rw [hread] at h
      simp only at h
      cases hnormal : normalizeHleWaits input.scheduler.threads read with
      | error message =>
        rw [hnormal] at h
        cases h
      | ok result =>
        rw [hnormal] at h
        have hvalid := normalizeHleWaits_valid (readSavedThreads_valid hread) hnormal
        simp only at h
        split at h
        · cases h
        · split at h
          · cases h
          · split at h
            · cases h
            · split at h
              · cases h
              · cases h
                exact hvalid

theorem readCore_valid {input : Bytes} {image : CoreImage} (h : readCore input = .ok image) :
    GuestsValid image.checked.threads := by
  unfold readCore at h
  split at h
  · cases h
  · split at h
    · cases h
    · split at h
      · cases h
      · rename_i hchecked
        split at h
        · cases h
        · cases h
          exact checkRuntimeCore_valid hchecked

/-! ## What the commit does -/

section Commit

variable {runtime after : Runtime Host} {resetCore resetHle : Host → Host} {image : CoreImage}

/-- With valid guest states the loop returns, and the registry is that of `restoreThreadInfos`. -/
theorem fillThreads_eq {threads : List SavedThread} (hvalid : GuestsValid threads)
    (runtime : Runtime Host) :
    ∃ restored, restoreThreadInfos runtime.threadState.threads threads = .ok restored ∧
      fillThreads threads runtime = .ok ()
        { runtime with threadState := { runtime.threadState with threads := restored } } := by
  induction threads generalizing runtime with
  | nil => exact ⟨runtime.threadState.threads, rfl, rfl⟩
  | cons saved rest ih =>
    obtain ⟨hsaved, hrest⟩ := List.forall_mem_cons.mp hvalid
    have hguest : EeThreadGuestState.restore saved.guest = some ⟨saved.guest, hsaved⟩ :=
      EeThreadGuestState.restore_eq_some.mpr rfl
    obtain ⟨restored, hregistry, hloop⟩ :=
      ih hrest (emplaceThread saved ⟨saved.guest, hsaved⟩ runtime)
    refine ⟨restored, ?_, ?_⟩
    · unfold restoreThreadInfos
      rw [hguest]
      exact hregistry
    · unfold fillThreads
      rw [hguest]
      exact hloop

/-- The event scheduler of the image passes the checks of its restore. -/
def EventsRestorable (header : CoreHeader) : Prop :=
  ∀ index, EeEventScheduler.restorable header.events index

/-- The processor of the image is that of the runtime. -/
structure ProcessorPresent (header : CoreHeader) (runtime : Runtime Host) : Prop where
  cpuContext : header.cpu.1 = runtime.cpuContext
  registers : header.cpu.2 = runtime.sections.registers
  cop0Timing : header.cop0 = runtime.sections.cop0Timing
  eeTimeline : header.timeline = runtime.sections.eeTimeline

theorem restoreProcessor_eq_iff {header : CoreHeader} :
    restoreProcessor header runtime = runtime ↔ ProcessorPresent header runtime := by
  constructor
  · intro h
    exact
      { cpuContext := congrArg PS2Runtime.cpuContext h
        registers := congrArg (·.sections.registers) h
        cop0Timing := congrArg (·.sections.cop0Timing) h
        eeTimeline := congrArg (·.sections.eeTimeline) h }
  · intro h
    unfold restoreProcessor
    rw [h.cpuContext, h.registers, h.cop0Timing, h.eeTimeline]

theorem restoreEventScheduler_of_not {header : CoreHeader} (h : ¬ EventsRestorable header)
    (runtime : Runtime Host) : restoreEventScheduler header.events runtime = (false, runtime) := by
  have hrestore : runtime.sections.eeEventScheduler.restore header.events =
      (false, runtime.sections.eeEventScheduler) := if_neg h
  unfold restoreEventScheduler
  rw [hrestore]

theorem restoreEventScheduler_of_restorable {header : CoreHeader} (h : EventsRestorable header)
    (runtime : Runtime Host) : (restoreEventScheduler header.events runtime).1 = true := by
  have hrestore : (runtime.sections.eeEventScheduler.restore header.events).1 = true :=
    congrArg Prod.fst (if_pos h)
  exact hrestore

theorem commitCore_eq (runtime : Runtime Host) :
    commitCore resetCore image runtime =
      let restored := restoreEventScheduler image.header.events
        (restoreProcessor image.header runtime)
      if restored.1 then commitMembers resetCore image restored.2
      else .error "failed to restore EE event scheduler" restored.2 := by
  unfold commitCore
  rw [StateExcept.modify_bind, StateExcept.modifyGet_bind]
  simp only
  split <;> rfl

/-- The commit fails after it has replaced the processor. -/
theorem commitCore_of_not_restorable (h : ¬ EventsRestorable image.header)
    (runtime : Runtime Host) :
    commitCore resetCore image runtime =
      .error "failed to restore EE event scheduler" (restoreProcessor image.header runtime) := by
  rw [commitCore_eq, restoreEventScheduler_of_not h]
  rfl

/-- The registry and the members after it are restored without a failure. -/
theorem commitMembers_ok (hvalid : GuestsValid image.checked.threads) (runtime : Runtime Host) :
    ∃ after, commitMembers resetCore image runtime = .ok () after ∧
      restoreThreadInfos ∅ image.checked.threads = .ok after.threadState.threads := by
  obtain ⟨restored, hregistry, hloop⟩ :=
    fillThreads_eq hvalid (clearThreads resetCore image runtime)
  have hcommit := StateExcept.bind_of_ok hloop
    (f := fun _ => modify fun runtime => publishCop0TimingMirrors (restoreMembers image runtime))
  exact ⟨_, hcommit, hregistry⟩

theorem commitCore_of_restorable (hvalid : GuestsValid image.checked.threads)
    (h : EventsRestorable image.header) (resetCore : Host → Host) (runtime : Runtime Host) :
    ∃ after, commitCore resetCore image runtime = .ok () after ∧
      restoreThreadInfos ∅ image.checked.threads = .ok after.threadState.threads := by
  rw [commitCore_eq]
  simp only [restoreEventScheduler_of_restorable h, if_true]
  exact commitMembers_ok hvalid _

/-- **Where the core decoder returns `false`**: a check before the commit failed and nothing was
changed, or the event scheduler refused its section when the processor had been replaced. -/
theorem decodeCore_error_iff {input : Bytes} {message : String} :
    decodeRuntimeCoreSaveState resetCore input runtime = .error message after ↔
      readCore input = .error message ∧ after = runtime ∨
        ∃ image, readCore input = .ok image ∧ ¬ EventsRestorable image.header ∧
          message = "failed to restore EE event scheduler" ∧
          after = restoreProcessor image.header runtime := by
  unfold decodeRuntimeCoreSaveState
  cases hread : readCore input with
  | error text =>
    constructor
    · rintro ⟨⟩
      exact .inl ⟨rfl, rfl⟩
    · rintro (⟨⟨⟩, rfl⟩ | ⟨image, ⟨⟩, -⟩)
      rfl
  | ok image =>
    by_cases hevents : EventsRestorable image.header
    · obtain ⟨restored, hcommit, -⟩ :=
        commitCore_of_restorable (readCore_valid hread) hevents resetCore runtime
      simp only [hcommit]
      refine iff_of_false nofun ?_
      rintro (⟨⟨⟩, -⟩ | ⟨_, ⟨⟩, hnot, -⟩)
      exact hnot hevents
    · simp only [commitCore_of_not_restorable hevents]
      constructor
      · rintro ⟨⟩
        exact .inr ⟨image, rfl, hevents, rfl, rfl⟩
      · rintro (⟨⟨⟩, -⟩ | ⟨_, ⟨⟩, -, rfl, rfl⟩)
        rfl

/-- The core decoder returns `true` for the chunks that pass both. -/
theorem decodeCore_ok_iff {input : Bytes} :
    (∃ after, decodeRuntimeCoreSaveState resetCore input runtime = .ok () after) ↔
      ∃ image, readCore input = .ok image ∧ EventsRestorable image.header := by
  constructor
  · rintro ⟨after, h⟩
    unfold decodeRuntimeCoreSaveState at h
    cases hread : readCore input with
    | error text =>
      rw [hread] at h
      cases h
    | ok image =>
      refine ⟨image, rfl, by_contra fun hnot => ?_⟩
      rw [hread] at h
      simp only [commitCore_of_not_restorable hnot] at h
      cases h
  · rintro ⟨image, hread, hevents⟩
    obtain ⟨after, hcommit, -⟩ :=
      commitCore_of_restorable (readCore_valid hread) hevents resetCore runtime
    refine ⟨after, ?_⟩
    unfold decodeRuntimeCoreSaveState
    rw [hread]
    exact hcommit

/-- The HLE decoder has no check after its first assignment. -/
theorem decodeHle_rejected {input : Bytes} {message : Option String}
    (h : decodeRuntimeHleSaveState resetHle input runtime = .error message after) :
    readHle input = .error message ∧ after = runtime := by
  unfold decodeRuntimeHleSaveState at h
  cases hread : readHle input with
  | error text =>
    rw [hread] at h
    cases h
    exact ⟨rfl, rfl⟩
  | ok members =>
    rw [hread] at h
    cases h

/-- The chunk decoders leave the runtime as it was wherever they return `false`. -/
def RejectionChangesNothing (resetCore resetHle : Host → Host) (runtime : Runtime Host)
    (core hle : Bytes) : Prop :=
  (∀ message after,
    decodeRuntimeCoreSaveState resetCore core runtime = .error message after → after = runtime) ∧
  ∀ message after,
    decodeRuntimeHleSaveState resetHle hle runtime = .error message after → after = runtime

/-- **A rejected chunk changes nothing** exactly where a core chunk that passes the checks before
the commit has an event section that passes those of its restore, or the processor that is there
already. -/
theorem rejectionChangesNothing_iff (resetCore resetHle : Host → Host) (runtime : Runtime Host)
    (core hle : Bytes) :
    RejectionChangesNothing resetCore resetHle runtime core hle ↔
      ∀ image, readCore core = .ok image →
        EventsRestorable image.header ∨ ProcessorPresent image.header runtime := by
  constructor
  · intro h image hread
    by_cases hevents : EventsRestorable image.header
    · exact .inl hevents
    · have herror : decodeRuntimeCoreSaveState resetCore core runtime =
          .error "failed to restore EE event scheduler" (restoreProcessor image.header runtime) :=
        decodeCore_error_iff.mpr (.inr ⟨image, hread, hevents, rfl, rfl⟩)
      exact .inr (restoreProcessor_eq_iff.mp (h.1 _ _ herror))
  · intro h
    refine ⟨fun message after herror => ?_, fun message after herror => ?_⟩
    · rcases decodeCore_error_iff.mp herror with ⟨-, hsame⟩ | ⟨image, hread, hevents, -, hafter⟩
      · exact hsame
      · have hpresent := (h image hread).resolve_left hevents
        exact hafter.trans (restoreProcessor_eq_iff.mpr hpresent)
    · exact (decodeHle_rejected herror).2

/-- A core chunk of a Dormant thread 1 with every other field zero. All its event slots name the
first source. -/
def unrestorableChunk : Bytes :=
  let zeros := fun count : ℕ => List.replicate count (0 : UInt8)
  let header := [1, 0, 0, 0] ++ zeros 1673 ++ zeros 46 ++ zeros 8 ++ zeros 454
  let scheduler := zeros 5 ++ [1] ++ zeros 15
  let registry := zeros 12 ++ [1, 0, 0, 0]
  let thread := [1, 0, 0, 0] ++ zeros 32 ++ [1, 0, 0, 0] ++ zeros 5 ++ [0x10] ++ zeros 1721
  header ++ scheduler ++ registry ++ thread ++ zeros 274

/-- A runtime before its first instruction: the Random register is 47. -/
def freshRuntime : Runtime Unit := { sections := { registers := default, host := () } }

set_option maxRecDepth 10000 in
/-- The rejected chunk has put its Random register, 0, into the CPU context. -/
theorem rejected_chunk_replaces_random :
    ¬ RejectionChangesNothing id id freshRuntime unrestorableChunk [] := by
  intro h
  have hrandom : (StateExcept.errorState
      (decodeRuntimeCoreSaveState id unrestorableChunk freshRuntime)).map
        (·.cpuContext.cop0_random) = some 0 := by
    decide +kernel
  have hkept : freshRuntime.cpuContext.cop0_random = 47 := rfl
  cases hresult : decodeRuntimeCoreSaveState id unrestorableChunk freshRuntime with
  | ok value after =>
    rw [hresult] at hrandom
    cases hrandom
  | error message after =>
    rw [hresult, StateExcept.errorState, h.1 message after hresult, Option.map_some, hkept,
      Option.some.injEq] at hrandom
    exact absurd hrandom (by decide)

end Commit

end ChunkLoad

end Ps2Recomp
