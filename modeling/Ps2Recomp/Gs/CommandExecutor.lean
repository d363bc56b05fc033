import Mathlib.Data.Nat.Notation
import Ps2Recomp.Lib.Machine
import Ps2Recomp.Timing

/-!
# The threaded GS executor (`ps2_gs_command_stream.cpp`)

`submitAsync` gives a command its ticket, generation and sequence number long before the worker hands
it to the `GsCommandProcessor`, which counts for itself and rejects a command that is not the next one;
`Reset` and `RestoreReplayState` open a generation. A rejected command ends the worker.

A submission holds `m_submitMutex` from its first check until its item is queued or refused;
`cancelPendingBeforeGeneration` tests the generation under the mutex and raises the bound after it has
let go. The worker takes an item out of the queue and processes it in a later step. What the GS does is
the parameter `GsUnit`, and it does not throw.

The atomic steps of the queue, the signals and the shutdown are in `Gs/Submission.lean`. Digests,
results, futures, statistics, hooks and the test for a second producer thread are left out.
-/

namespace Ps2Recomp

/-! ## Commands -/

inductive GsCommandType where
  | DrainBatch
  | BeginRenderBatch
  | FlushRenderBatch
  | EndRenderBatch
  | WriteRegister
  | NativePackedGif
  | NativeImageUpload
  | Reset
  | ClearFramebuffer
  | ReadFifo
  | CaptureReplayState
  | RestoreReplayState
  | DebugSnapshot
  | ProgressSnapshot
  | DebugHistory
  | RecentGifPackets
  | ClearDebugHistory
  | DebugHistoryPaused
  | SetDebugHistoryPaused
  | SetProgressTracking
  | LatchPresentation
  | CopyPresentation
  | ConfigureVulkan
  | SetRendererMode
  | RendererStatus
  | SetBackendCountersEnabled
  | ResetBackendCounters
  | BackendCounters
  | SetDrawCommandLimit
  | ClearDrawCommandLimit
  | DrawStatus
  | Barrier
  | CopyVram
  | FieldMarker
  deriving DecidableEq, Repr

/-- `gsCommandTypeName`. -/
def GsCommandType.name : GsCommandType → String
  | .DrainBatch => "drain-batch"
  | .BeginRenderBatch => "begin-render-batch"
  | .FlushRenderBatch => "flush-render-batch"
  | .EndRenderBatch => "end-render-batch"
  | .WriteRegister => "write-register"
  | .NativePackedGif => "native-packed-gif"
  | .NativeImageUpload => "native-image-upload"
  | .Reset => "reset"
  | .ClearFramebuffer => "clear-framebuffer"
  | .ReadFifo => "read-fifo"
  | .CaptureReplayState => "capture-replay-state"
  | .RestoreReplayState => "restore-replay-state"
  | .DebugSnapshot => "debug-snapshot"
  | .ProgressSnapshot => "progress-snapshot"
  | .DebugHistory => "debug-history"
  | .RecentGifPackets => "recent-gif-packets"
  | .ClearDebugHistory => "clear-debug-history"
  | .DebugHistoryPaused => "debug-history-paused"
  | .SetDebugHistoryPaused => "set-debug-history-paused"
  | .SetProgressTracking => "set-progress-tracking"
  | .LatchPresentation => "latch-presentation"
  | .CopyPresentation => "copy-presentation"
  | .ConfigureVulkan => "configure-vulkan"
  | .SetRendererMode => "set-renderer-mode"
  | .RendererStatus => "renderer-status"
  | .SetBackendCountersEnabled => "set-backend-counters-enabled"
  | .ResetBackendCounters => "reset-backend-counters"
  | .BackendCounters => "backend-counters"
  | .SetDrawCommandLimit => "set-draw-command-limit"
  | .ClearDrawCommandLimit => "clear-draw-command-limit"
  | .DrawStatus => "draw-status"
  | .Barrier => "barrier"
  | .CopyVram => "copy-vram"
  | .FieldMarker => "field-marker"

/-- `startsGeneration`. -/
def GsCommandType.startsGeneration : GsCommandType → Bool
  | .Reset | .RestoreReplayState => true
  | _ => false

/-- The alternative, its size, the field sequence of a `FieldMarker`, and whatever else it carries. -/
structure GsCommandPayload (β : Type) where
  type : GsCommandType
  payloadSize : ℕ
  fieldSequence : ℕ := 0
  body : β
  deriving DecidableEq, Repr

structure GsWorkIdentity where
  sequence : ℕ
  generation : ℕ
  guestTick : ℕ
  publicationToken : ℕ
  deriving DecidableEq, Repr

structure GsCommand (β : Type) where
  identity : GsWorkIdentity
  type : GsCommandType
  payloadSize : ℕ
  debugVsyncTick : ℕ
  payload : GsCommandPayload β
  deriving DecidableEq, Repr

inductive GsCommandDisposition where
  | Completed
  | StaleGeneration
  | FutureGeneration
  | OutOfOrder
  | Malformed
  deriving DecidableEq, Repr

/-- `checkedIncrement`. -/
def checkedGsIncrement (value : ℕ) (identityName : String) : Except String ℕ :=
  if value = uint64Max.val then .error ("GS command " ++ identityName ++ " exhausted")
  else .ok (value + 1)

/-! ## The processor -/

/-- The GS, as far as the processor needs it. -/
structure GsUnit (υ β : Type) where
  /-- What `isValidCommandPayload` asks of a payload beyond its field sequence. -/
  validBody : GsCommandType → β → Bool
  /-- `apply gs debugVsyncTick payload`. -/
  apply : υ → ℕ → GsCommandPayload β → υ

/-- `isValidCommandPayload`. -/
def GsUnit.isValidCommandPayload {υ β : Type} (gs : GsUnit υ β) (payload : GsCommandPayload β) : Bool :=
  gs.validBody payload.type payload.body &&
    (payload.type ≠ .FieldMarker || payload.fieldSequence ≠ 0)

structure GsCommandProcessor (υ : Type) where
  gs : υ
  generation : ℕ := 1
  completedSequence : ℕ := 0
  completedFieldSequence : ℕ := 0
  currentDebugVsyncTick : ℕ := 0
  deriving DecidableEq, Repr

/-- `process`: the processor after it, and the disposition or the text of the exception. -/
def GsCommandProcessor.process {υ β : Type} (gs : GsUnit υ β) (p : GsCommandProcessor υ)
    (command : GsCommand β) : GsCommandProcessor υ × Except String GsCommandDisposition :=
  let identity := command.identity
  let payload := command.payload
  if command.type ≠ payload.type ∨ command.payloadSize ≠ payload.payloadSize ∨
      identity.sequence = 0 ∨ identity.generation = 0 ∨ !gs.isValidCommandPayload payload then
    (p, .ok .Malformed)
  else if identity.generation < p.generation then (p, .ok .StaleGeneration)
  else
    let startsGeneration := payload.type.startsGeneration
    if startsGeneration && identity.generation = p.generation then (p, .ok .FutureGeneration)
    else
      let beginsNewGeneration : Bool := p.generation < identity.generation
      if beginsNewGeneration &&
          (!startsGeneration || p.generation = uint64Max.val ||
            identity.generation ≠ p.generation + 1) then (p, .ok .FutureGeneration)
      else if beginsNewGeneration && identity.sequence ≠ 1 then (p, .ok .OutOfOrder)
      else
        let p :=
          if beginsNewGeneration then
            { p with
              generation := identity.generation
              completedSequence := 0
              completedFieldSequence := 0 }
          else p
        if !beginsNewGeneration &&
            (p.completedSequence = uint64Max.val ||
              identity.sequence ≠ p.completedSequence + 1) then (p, .ok .OutOfOrder)
        else
          let p := { p with currentDebugVsyncTick := command.debugVsyncTick }
          if payload.type = .FieldMarker ∧ payload.fieldSequence ≤ p.completedFieldSequence then
            (p, .error "GS field markers must advance monotonically")
          else
            ({ p with
                gs := gs.apply p.gs command.debugVsyncTick payload
                completedFieldSequence :=
                  if payload.type = .FieldMarker then payload.fieldSequence
                  else p.completedFieldSequence
                completedSequence := identity.sequence }, .ok .Completed)

/-! ## The executor -/

structure GsWorkItem (β : Type) where
  ticket : ℕ
  payloadBytes : ℕ
  command : GsCommand β
  deriving DecidableEq, Repr

/-- The members that `m_submitMutex` guards; `nextSequence` and `nextTicket` are the last ones given
out. -/
structure GsProducer where
  generation : ℕ
  nextSequence : ℕ
  nextTicket : ℕ := 0
  lastGuestTick : ℕ := 0
  deriving DecidableEq, Repr

/-- The arguments of `submitAsync`. -/
structure GsSubmitRequest (β : Type) where
  payload : GsCommandPayload β
  guestTick : ℕ := 0
  publicationToken : ℕ := 0
  debugVsyncTick : ℕ := 0
  deriving DecidableEq, Repr

/-- What `m_completedTickets`, `m_completedGeneration` and `m_completedSequence` are set to when an
item is done, and how it ended. -/
structure GsPublication where
  ticket : ℕ
  generation : ℕ
  sequence : ℕ
  disposition : GsCommandDisposition
  deriving DecidableEq, Repr

structure ThreadedGsExecutor (υ β : Type) where
  queueCapacity : ℕ
  payloadCapacityBytes : ℕ
  processor : GsCommandProcessor υ
  producer : GsProducer
  queue : List (GsWorkItem β) := []
  queuedPayloadBytes : ℕ := 0
  accepting : Bool := true
  /-- The item of the submission that holds the mutex. -/
  submitting : Option (GsWorkItem β) := none
  minimumAcceptedGeneration : ℕ
  /-- Cancellations that have passed their test and not yet raised the bound. -/
  cancelling : List ℕ := []
  /-- The item the worker has taken out of the queue. -/
  active : Option (GsWorkItem β) := none
  published : List GsPublication := []
  fatalFailure : Option String := none
  /-- The last field marker queued in the producer's generation. The code has no such member: it is
  what a submission has to stay above. -/
  lastFieldMarker : ℕ
  deriving DecidableEq, Repr

def GsProducer.nextGeneration (producer : GsProducer) (startsGeneration : Bool) : Except String ℕ :=
  if startsGeneration then checkedGsIncrement producer.generation "generation"
  else .ok producer.generation

/-- The item that a request becomes. -/
def GsProducer.makeItem {β : Type} (producer : GsProducer) (payloadCapacityBytes : ℕ)
    (request : GsSubmitRequest β) : Except String (GsWorkItem β) := do
  let payload := request.payload
  let generation ← producer.nextGeneration payload.type.startsGeneration
  let sequenceBase := if payload.type.startsGeneration then 0 else producer.nextSequence
  let sequence ← checkedGsIncrement sequenceBase "sequence"
  let ticket ← checkedGsIncrement producer.nextTicket "transport ticket"
  if payload.payloadSize > payloadCapacityBytes then
    throw "GS command exceeds the bounded payload capacity"
  else
    pure
      { ticket
        payloadBytes := payload.payloadSize
        command :=
          { identity :=
              { sequence
                generation
                guestTick := max request.guestTick producer.lastGuestTick
                publicationToken := request.publicationToken }
            type := payload.type
            payloadSize := payload.payloadSize
            debugVsyncTick := request.debugVsyncTick
            payload } }

/-- The producer after its item has been queued. -/
def GsProducer.submitted {β : Type} (item : GsWorkItem β) : GsProducer where
  generation := item.command.identity.generation
  nextSequence := item.command.identity.sequence
  nextTicket := item.ticket
  lastGuestTick := item.command.identity.guestTick

namespace ThreadedGsExecutor

variable {υ β : Type}

/-- The constructor. -/
def create (queueCapacity payloadCapacityBytes : ℕ) (processor : GsCommandProcessor υ) :
    ThreadedGsExecutor υ β where
  queueCapacity := queueCapacity
  payloadCapacityBytes := payloadCapacityBytes
  processor := processor
  producer := { generation := processor.generation, nextSequence := processor.completedSequence }
  minimumAcceptedGeneration := processor.generation
  lastFieldMarker := processor.completedFieldSequence

/-- `throwSubmissionUnavailable`. -/
def unavailable (s : ThreadedGsExecutor υ β) : String :=
  s.fatalFailure.getD "threaded GS executor is not accepting work"

/-- `submitAsync` up to the admission loop; the second component is the text of an exception. While
another submission holds the mutex nothing happens. -/
def submit (s : ThreadedGsExecutor υ β) (request : GsSubmitRequest β) :
    ThreadedGsExecutor υ β × Option String :=
  if s.submitting.isSome then (s, none)
  else if !s.accepting then (s, some s.unavailable)
  else
    match s.producer.makeItem s.payloadCapacityBytes request with
    | .error failure => (s, some failure)
    | .ok item => ({ s with submitting := some item }, none)

/-- Neither the slots nor the payload bytes are used up. -/
def hasSpace (s : ThreadedGsExecutor υ β) (item : GsWorkItem β) : Bool :=
  s.queue.length < s.queueCapacity &&
  item.payloadBytes ≤
    s.payloadCapacityBytes - min s.queuedPayloadBytes s.payloadCapacityBytes

/-- The last field marker of the generation after an item. -/
def fieldMarkerAfter (last : ℕ) (item : GsWorkItem β) : ℕ :=
  if item.command.type.startsGeneration then 0
  else if item.command.type = .FieldMarker then item.command.payload.fieldSequence
  else last

/-- One turn of the admission loop around `tryEnqueue`. -/
def tryEnqueue (s : ThreadedGsExecutor υ β) : ThreadedGsExecutor υ β × Option String :=
  match s.submitting with
  | none => (s, none)
  | some item =>
    if !s.accepting then ({ s with submitting := none }, some s.unavailable)
    else if !s.hasSpace item then (s, none)
    else
      ({ s with
          queue := s.queue ++ [item]
          queuedPayloadBytes := s.queuedPayloadBytes + item.payloadBytes
          producer := .submitted item
          submitting := none
          lastFieldMarker := fieldMarkerAfter s.lastFieldMarker item }, none)

/-- The test of `cancelPendingBeforeGeneration`, under the mutex. -/
def cancelPendingBeforeGeneration (s : ThreadedGsExecutor υ β) (generation : ℕ) :
    ThreadedGsExecutor υ β × Option String :=
  if s.submitting.isSome then (s, none)
  else if generation = 0 then (s, some "GS cancellation generation must be non-zero")
  else if generation > s.producer.generation then
    (s, some "GS cancellation generation has not been submitted")
  else ({ s with cancelling := generation :: s.cancelling }, none)

def raiseMinimumAcceptedGeneration (s : ThreadedGsExecutor υ β) (generation : ℕ) :
    ThreadedGsExecutor υ β :=
  if generation ∈ s.cancelling then
    { s with
      cancelling := s.cancelling.erase generation
      minimumAcceptedGeneration := max s.minimumAcceptedGeneration generation }
  else s

/-- The worker takes the next item. -/
def dequeue (s : ThreadedGsExecutor υ β) : ThreadedGsExecutor υ β :=
  if s.active.isSome ∨ s.fatalFailure.isSome then s
  else
    match s.queue with
    | [] => s
    | item :: rest => { s with active := some item, queue := rest }

/-- What becomes of the item the worker has taken: a stale one is answered without the processor. -/
def processItem (gs : GsUnit υ β) (s : ThreadedGsExecutor υ β) (item : GsWorkItem β) :
    GsCommandProcessor υ × Except String GsCommandDisposition :=
  if item.command.identity.generation < s.minimumAcceptedGeneration then
    (s.processor, .ok .StaleGeneration)
  else
    match s.processor.process gs item.command with
    | (processor, .error failure) => (processor, .error failure)
    | (processor, .ok disposition) =>
      if disposition ≠ .Completed then
        (processor, .error ("GS owner rejected queued command: " ++ item.command.type.name))
      else (processor, .ok .Completed)

/-- The worker processes the item it has taken. A failure is recorded and ends it: admission is
closed and what is queued is cancelled. -/
def work (gs : GsUnit υ β) (s : ThreadedGsExecutor υ β) : ThreadedGsExecutor υ β :=
  match s.active with
  | none => s
  | some item =>
    match s.processItem gs item with
    | (processor, .ok disposition) =>
      { s with
        processor
        active := none
        queuedPayloadBytes := s.queuedPayloadBytes - item.payloadBytes
        published := s.published ++
          [⟨item.ticket, item.command.identity.generation, item.command.identity.sequence,
            disposition⟩] }
    | (processor, .error failure) =>
      { s with
        processor
        active := none
        queue := []
        queuedPayloadBytes := 0
        accepting := false
        fatalFailure := some failure }

end ThreadedGsExecutor

inductive GsExecutorInput (β : Type) where
  | submit (request : GsSubmitRequest β)
  | tryEnqueue
  | cancelPendingBeforeGeneration (generation : ℕ)
  | raiseMinimumAcceptedGeneration (generation : ℕ)
  | dequeue
  | work
  deriving DecidableEq, Repr

/-- One step of any of the threads; a call that throws has no other effect than that. -/
def ThreadedGsExecutor.step {υ β : Type} (gs : GsUnit υ β) (s : ThreadedGsExecutor υ β) :
    GsExecutorInput β → ThreadedGsExecutor υ β
  | .submit request => (s.submit request).1
  | .tryEnqueue => s.tryEnqueue.1
  | .cancelPendingBeforeGeneration generation => (s.cancelPendingBeforeGeneration generation).1
  | .raiseMinimumAcceptedGeneration generation => s.raiseMinimumAcceptedGeneration generation
  | .dequeue => s.dequeue
  | .work => s.work gs

end Ps2Recomp
