import Ps2Recomp.Lib.Machine
import Ps2Recomp.Timing

/-!
# The threaded VU1 executor (`ps2_vu1_command_stream.cpp`)

The producer numbers its commands before they are executed: a generation, opened by `Reset` and
`Restore`, and a sequence number within it. The worker hands them to the command processor, which
counts for itself and rejects a command that does not carry the next identity. A slice may be
executed speculatively; the next submission commits it, rolls it back or extends it, and both sides
keep a checkpoint until then.

A submission holds `m_submitMutex` from `submit` to `tryEnqueue`, where it is queued, waits for
space or finds the admission closed; `cancelPendingBeforeGeneration` tests the generation under the
mutex and raises the bound after it has let go. The worker takes an item out of the queue and
processes it in a later step. What the VU itself does is the parameter `Vu1Unit`.

Execution epochs, result futures, statistics, the hooks, the discarding shutdown and failures to
create the thread are left out.
-/

namespace Ps2Recomp

/-! ## Commands -/

inductive Vu1CommandType where
  | BindMemory
  | SetDiagnostics
  | SetBackend
  | MicroMemoryWrite
  | DataMemoryWrite
  | DecodedUnpack
  | VifStateUpdate
  | RegisterWrite
  | Mscal
  | Mscalf
  | Mscnt
  | Invocation
  | AdvanceSlice
  | Reset
  | Snapshot
  | Restore
  | Barrier
  | Shutdown
  deriving DecidableEq, Repr

/-- `vu1CommandTypeName`. -/
def Vu1CommandType.name : Vu1CommandType → String
  | .BindMemory => "bind-memory"
  | .SetDiagnostics => "set-diagnostics"
  | .SetBackend => "set-backend"
  | .MicroMemoryWrite => "micro-memory-write"
  | .DataMemoryWrite => "data-memory-write"
  | .DecodedUnpack => "decoded-unpack"
  | .VifStateUpdate => "vif-state-update"
  | .RegisterWrite => "register-write"
  | .Mscal => "mscal"
  | .Mscalf => "mscalf"
  | .Mscnt => "mscnt"
  | .Invocation => "invocation"
  | .AdvanceSlice => "advance-slice"
  | .Reset => "reset"
  | .Snapshot => "snapshot"
  | .Restore => "restore"
  | .Barrier => "barrier"
  | .Shutdown => "shutdown"

/-- The alternative, its size, the cycles of an `AdvanceSlice`, and whatever else it carries. -/
structure Vu1CommandPayload (β : Type) where
  type : Vu1CommandType
  payloadSize : ℕ
  maximumCycles : ℕ := 0
  body : β
  deriving DecidableEq, Repr

/-- `supportsVu1ResultlessAdmission`. -/
def Vu1CommandType.supportsResultlessAdmission : Vu1CommandType → Bool
  | .SetDiagnostics | .MicroMemoryWrite | .DataMemoryWrite | .DecodedUnpack
  | .VifStateUpdate => true
  | _ => false

/-- `startsVu1Generation`. -/
def Vu1CommandType.startsGeneration : Vu1CommandType → Bool
  | .Reset | .Restore => true
  | _ => false

structure Vu1WorkIdentity where
  sequence : ℕ
  generation : ℕ
  guestTick : ℕ
  publicationToken : ℕ
  deriving DecidableEq, Repr

inductive Vu1SpeculationResolution where
  | None
  | Commit
  | Rollback
  deriving DecidableEq, Repr

inductive Vu1CommandDisposition where
  | Completed
  | StaleGeneration
  | FutureGeneration
  | OutOfOrder
  | Malformed
  | Shutdown
  deriving DecidableEq, Repr

structure Vu1WorkItem (β : Type) where
  ticket : ℕ
  payloadBytes : ℕ
  identity : Vu1WorkIdentity
  payload : Vu1CommandPayload β
  speculationResolution : Vu1SpeculationResolution
  beginsSpeculativeSlice : Bool
  commitsExtendedSpeculativeAdvance : Bool
  speculativeExtensionCycles : ℕ
  deriving DecidableEq, Repr

/-- `checkedVu1Increment`. -/
def checkedVu1Increment (value : ℕ) (identityName : String) : Except String ℕ :=
  if value = uint64Max.val then .error ("VU1 command " ++ identityName ++ " exhausted")
  else .ok (value + 1)

/-! ## The processor -/

/-- What the processor does to the VU and its memories. -/
structure Vu1Unit (υ β : Type) where
  /-- The payload is complete, and the memories it needs are bound. -/
  validPayload : υ → Vu1CommandPayload β → Bool
  apply : υ → Vu1CommandPayload β → υ × Vu1CommandDisposition
  advanceSlice : υ → ℕ → υ

structure Vu1SliceCheckpoint (υ : Type) where
  unit : υ
  generation : ℕ
  nextSequence : ℕ
  deriving DecidableEq, Repr

structure Vu1CommandProcessor (υ : Type) where
  unit : υ
  generation : ℕ := 1
  nextSequence : ℕ := 1
  speculativeSliceCheckpoint : Option (Vu1SliceCheckpoint υ) := none
  shutdown : Bool := false
  deriving DecidableEq, Repr

namespace Vu1CommandProcessor

variable {υ β : Type}

def resolveSpeculativeSlice (p : Vu1CommandProcessor υ) :
    Vu1SpeculationResolution → Except String (Vu1CommandProcessor υ)
  | .None =>
    if p.speculativeSliceCheckpoint.isSome then
      .error "VU1 speculative slice requires an explicit resolution"
    else .ok p
  | .Commit =>
    match p.speculativeSliceCheckpoint with
    | none => .error "VU1 has no speculative slice to commit"
    | some _ => .ok { p with speculativeSliceCheckpoint := none }
  | .Rollback =>
    match p.speculativeSliceCheckpoint with
    | none => .error "VU1 has no speculative slice to roll back"
    | some checkpoint =>
      .ok { p with
        unit := checkpoint.unit
        generation := checkpoint.generation
        nextSequence := checkpoint.nextSequence
        speculativeSliceCheckpoint := none }

/-- The tests of the identity that `process` makes; `none` if the command is next. -/
def identityRejection (p : Vu1CommandProcessor υ) (identity : Vu1WorkIdentity)
    (opensGeneration : Bool) : Option Vu1CommandDisposition :=
  if opensGeneration then
    if identity.generation ≤ p.generation then some .StaleGeneration
    else if p.generation = uint64Max.val ∨ identity.generation ≠ p.generation + 1 then
      some .FutureGeneration
    else if identity.sequence ≠ 1 then some .OutOfOrder
    else none
  else if identity.generation < p.generation then some .StaleGeneration
  else if identity.generation > p.generation then some .FutureGeneration
  else if identity.sequence ≠ p.nextSequence then some .OutOfOrder
  else none

def process (vu : Vu1Unit υ β) (p : Vu1CommandProcessor υ) (identity : Vu1WorkIdentity)
    (payload : Vu1CommandPayload β) :
    Except String (Vu1CommandDisposition × Vu1CommandProcessor υ) :=
  if p.shutdown then .ok (.Shutdown, p)
  else
    match p.identityRejection identity payload.type.startsGeneration with
    | some disposition => .ok (disposition, p)
    | none =>
      if !vu.validPayload p.unit payload then .ok (.Malformed, p)
      else
        let (unit, disposition) := vu.apply p.unit payload
        let p := { p with unit, shutdown := decide (payload.type = .Shutdown) }
        if disposition ≠ .Completed then .ok (disposition, p)
        else if payload.type.startsGeneration then
          .ok (.Completed, { p with generation := identity.generation, nextSequence := 2 })
        else if p.nextSequence = uint64Max.val then .error "VU1 command sequence exhausted"
        else .ok (.Completed, { p with nextSequence := p.nextSequence + 1 })

/-- `processAdvanceSlice` with `speculative` set. -/
def processSpeculativeSlice (vu : Vu1Unit υ β) (p : Vu1CommandProcessor υ)
    (identity : Vu1WorkIdentity) (payload : Vu1CommandPayload β) :
    Except String (Vu1CommandDisposition × Vu1CommandProcessor υ) :=
  if p.shutdown then .ok (.Shutdown, p)
  else
    match p.identityRejection identity false with
    | some disposition => .ok (disposition, p)
    | none =>
      if !vu.validPayload p.unit payload then .ok (.Malformed, p)
      else if p.nextSequence = uint64Max.val then .error "VU1 command sequence exhausted"
      else if p.speculativeSliceCheckpoint.isSome then
        .error "VU1 already has an unresolved speculative slice"
      else
        .ok (.Completed,
          { p with
            unit := vu.advanceSlice p.unit payload.maximumCycles
            nextSequence := p.nextSequence + 1
            speculativeSliceCheckpoint := some ⟨p.unit, p.generation, p.nextSequence⟩ })

def commitExtendedSpeculativeAdvance (vu : Vu1Unit υ β) (p : Vu1CommandProcessor υ)
    (identity : Vu1WorkIdentity) (payload : Vu1CommandPayload β) (extensionCycles : ℕ) :
    Except String (Vu1CommandDisposition × Vu1CommandProcessor υ) :=
  if p.speculativeSliceCheckpoint.isNone then .error "VU1 has no speculative slice to extend"
  else if extensionCycles > payload.maximumCycles ∨ identity.generation ≠ p.generation ∨
      identity.sequence = uint64Max.val ∨ p.nextSequence ≠ identity.sequence + 1 ∨
      !vu.validPayload p.unit payload then
    .error "invalid VU1 speculative extension"
  else
    .ok (.Completed,
      { p with
        unit := if extensionCycles = 0 then p.unit else vu.advanceSlice p.unit extensionCycles
        speculativeSliceCheckpoint := none })

/-- The body of the worker's loop. -/
def processItem (vu : Vu1Unit υ β) (p : Vu1CommandProcessor υ) (minimumAcceptedGeneration : ℕ)
    (item : Vu1WorkItem β) : Except String (Vu1CommandDisposition × Vu1CommandProcessor υ) := do
  let stale : Bool := item.identity.generation < minimumAcceptedGeneration
  let (disposition, p) ←
    if item.commitsExtendedSpeculativeAdvance then
      if stale then
        let p ← p.resolveSpeculativeSlice .Rollback
        pure (.StaleGeneration, p)
      else if item.payload.type ≠ .AdvanceSlice then
        throw "threaded VU1 speculative extension is not an advance"
      else
        p.commitExtendedSpeculativeAdvance vu item.identity item.payload
          item.speculativeExtensionCycles
    else
      let p ← p.resolveSpeculativeSlice item.speculationResolution
      if stale then pure (.StaleGeneration, p)
      else if item.beginsSpeculativeSlice then
        if item.payload.type ≠ .AdvanceSlice then
          throw "threaded VU1 speculative work is not an advance"
        else p.processSpeculativeSlice vu item.identity item.payload
      else p.process vu item.identity item.payload
  if !stale && disposition ≠ .Completed then
    throw ("VU1 owner rejected queued command: " ++ item.payload.type.name)
  else pure (disposition, p)

end Vu1CommandProcessor

/-! ## The executor -/

structure ProducerSpeculationCheckpoint where
  identity : Vu1WorkIdentity
  generation : ℕ
  nextSequence : ℕ
  lastGuestTick : ℕ
  deriving DecidableEq, Repr

/-- The members that `m_submitMutex` guards. -/
structure Vu1Producer where
  generation : ℕ
  nextSequence : ℕ
  nextTicket : ℕ := 0
  lastGuestTick : ℕ := 0
  speculationCheckpoint : Option ProducerSpeculationCheckpoint := none
  deriving DecidableEq, Repr

/-- The arguments of `submitAsyncImpl`; `resultless` if they come from one of the calls that want
no result, which take only some types. -/
structure Vu1SubmitRequest (β : Type) where
  payload : Vu1CommandPayload β
  resolution : Vu1SpeculationResolution := .None
  beginsSpeculativeSlice : Bool := false
  commitsExtendedSpeculativeAdvance : Bool := false
  speculativeExtensionCycles : ℕ := 0
  resultless : Bool := false
  guestTick : ℕ := 0
  publicationToken : ℕ := 0
  deriving DecidableEq, Repr

/-- A submission that waits to be queued. `entry` is the producer as the call found it. -/
structure Vu1Submitting (β : Type) where
  item : Vu1WorkItem β
  previousGeneration : ℕ
  previousNextSequence : ℕ
  previousLastGuestTick : ℕ
  entry : Vu1Producer
  deriving DecidableEq, Repr

structure Vu1Completion where
  ticket : ℕ
  generation : ℕ
  disposition : Vu1CommandDisposition
  deriving DecidableEq, Repr

structure ThreadedVu1Executor (υ β : Type) where
  queueCapacity : ℕ
  payloadCapacityBytes : ℕ
  processor : Vu1CommandProcessor υ
  producer : Vu1Producer
  queue : List (Vu1WorkItem β) := []
  queuedPayloadBytes : ℕ := 0
  accepting : Bool := true
  submitting : Option (Vu1Submitting β) := none
  minimumAcceptedGeneration : ℕ
  /-- Cancellations that have passed their test and not yet raised the bound. -/
  cancelling : List ℕ := []
  /-- The item the worker has taken out of the queue. -/
  active : Option (Vu1WorkItem β) := none
  completions : List Vu1Completion := []
  fatalFailure : Option String := none
  deriving DecidableEq, Repr

namespace Vu1Producer

variable {β : Type}

/-- The first part of `submitAsyncImpl`: the resolution takes effect; the result has the identity
that an extension reuses. -/
def resolveSpeculation (producer : Vu1Producer) (request : Vu1SubmitRequest β) :
    Except String (Vu1Producer × Option Vu1WorkIdentity) :=
  match producer.speculationCheckpoint with
  | none =>
    if request.commitsExtendedSpeculativeAdvance then
      .error "invalid threaded VU1 speculative extension"
    else if request.resolution ≠ .None then .error "threaded VU1 has no speculation to resolve"
    else .ok (producer, none)
  | some checkpoint =>
    if request.commitsExtendedSpeculativeAdvance then
      if request.resolution ≠ .None ∨ request.beginsSpeculativeSlice ∨
          request.payload.type ≠ .AdvanceSlice ∨ request.payload.maximumCycles = 0 ∨
          request.speculativeExtensionCycles > request.payload.maximumCycles ∨
          request.publicationToken ≠ checkpoint.identity.publicationToken then
        .error "invalid threaded VU1 speculative extension"
      else .ok (producer, some checkpoint.identity)
    else
      match request.resolution with
      | .None => .error "threaded VU1 speculation requires an explicit resolution"
      | .Commit => .ok ({ producer with speculationCheckpoint := none }, none)
      | .Rollback =>
        .ok ({ producer with
            generation := checkpoint.generation
            nextSequence := checkpoint.nextSequence
            lastGuestTick := checkpoint.lastGuestTick
            speculationCheckpoint := none }, none)

def nextIdentity (producer : Vu1Producer) (request : Vu1SubmitRequest β)
    (extendedIdentity : Option Vu1WorkIdentity) : Except String (ℕ × ℕ) :=
  match extendedIdentity with
  | some identity =>
    if identity.generation ≠ producer.generation ∨ identity.sequence = uint64Max.val ∨
        producer.nextSequence ≠ identity.sequence + 1 then
      .error "threaded VU1 speculative extension identity is stale"
    else .ok (identity.generation, identity.sequence)
  | none =>
    if request.payload.type.startsGeneration then do
      let generation ← checkedVu1Increment producer.generation "generation"
      pure (generation, 1)
    else if producer.nextSequence = 0 then .error "VU1 command sequence exhausted"
    else .ok (producer.generation, producer.nextSequence)

/-- The second part of `submitAsyncImpl`: the item with its identity and ticket. -/
def makeItem (producer : Vu1Producer) (payloadCapacityBytes : ℕ) (request : Vu1SubmitRequest β)
    (extendedIdentity : Option Vu1WorkIdentity) : Except String (Vu1WorkItem β) := do
  let (generation, sequence) ← producer.nextIdentity request extendedIdentity
  let ticket ← checkedVu1Increment producer.nextTicket "transport ticket"
  if request.payload.payloadSize > payloadCapacityBytes then
    throw "VU1 command exceeds the bounded payload capacity"
  else
    pure
      { ticket
        payloadBytes := request.payload.payloadSize
        identity :=
          { sequence
            generation
            guestTick := max request.guestTick producer.lastGuestTick
            publicationToken := request.publicationToken }
        payload := request.payload
        speculationResolution := request.resolution
        beginsSpeculativeSlice := request.beginsSpeculativeSlice
        commitsExtendedSpeculativeAdvance := request.commitsExtendedSpeculativeAdvance
        speculativeExtensionCycles := request.speculativeExtensionCycles }

/-- The producer after its item has been queued. -/
def submitted (producer : Vu1Producer) (p : Vu1Submitting β) : Vu1Producer :=
  let identity := p.item.identity
  let counted :=
    if p.item.commitsExtendedSpeculativeAdvance then
      { producer with speculationCheckpoint := none }
    else
      { producer with
        generation := identity.generation
        nextSequence := if identity.sequence = uint64Max.val then 0 else identity.sequence + 1 }
  { counted with
    nextTicket := p.item.ticket
    lastGuestTick := identity.guestTick
    speculationCheckpoint :=
      if p.item.beginsSpeculativeSlice then
        some ⟨identity, p.previousGeneration, p.previousNextSequence, p.previousLastGuestTick⟩
      else counted.speculationCheckpoint }

end Vu1Producer

namespace ThreadedVu1Executor

variable {υ β : Type}

/-- The constructor. -/
def create (queueCapacity payloadCapacityBytes : ℕ) (processor : Vu1CommandProcessor υ) :
    ThreadedVu1Executor υ β where
  queueCapacity := queueCapacity
  payloadCapacityBytes := payloadCapacityBytes
  processor := processor
  producer := { generation := processor.generation, nextSequence := processor.nextSequence }
  minimumAcceptedGeneration := processor.generation

/-- `throwSubmissionUnavailable`. -/
def unavailable (s : ThreadedVu1Executor υ β) : String :=
  s.fatalFailure.getD "threaded VU1 executor is not accepting work"

/-- `submitAsyncImpl` up to the admission loop. The second component is the text of an exception.
While another submission holds the mutex nothing happens. -/
def submit (s : ThreadedVu1Executor υ β) (request : Vu1SubmitRequest β) :
    ThreadedVu1Executor υ β × Option String :=
  if s.submitting.isSome then (s, none)
  else if request.resultless && !request.payload.type.supportsResultlessAdmission then
    (s, some "response-producing VU1 command requires a completion")
  else if !s.accepting then (s, some s.unavailable)
  else
    match s.producer.resolveSpeculation request with
    | .error failure => (s, some failure)
    | .ok (producer, extendedIdentity) =>
      -- From here on the resolution has taken effect, whatever follows.
      let resolved := { s with producer }
      if request.beginsSpeculativeSlice && request.payload.type != .AdvanceSlice then
        (resolved, some "only a VU1 advance may begin speculation")
      else
        match producer.makeItem s.payloadCapacityBytes request extendedIdentity with
        | .error failure => (resolved, some failure)
        | .ok item =>
          ({ resolved with
              submitting := some
                { item
                  previousGeneration := producer.generation
                  previousNextSequence := producer.nextSequence
                  previousLastGuestTick := producer.lastGuestTick
                  entry := s.producer } }, none)

/-- Neither the slots nor the payload bytes are used up. -/
def hasSpace (s : ThreadedVu1Executor υ β) (item : Vu1WorkItem β) : Bool :=
  s.queue.length < s.queueCapacity &&
  item.payloadBytes ≤
    s.payloadCapacityBytes - min s.queuedPayloadBytes s.payloadCapacityBytes

/-- One turn of the admission loop around `tryEnqueue`. -/
def tryEnqueue (s : ThreadedVu1Executor υ β) : ThreadedVu1Executor υ β × Option String :=
  match s.submitting with
  | none => (s, none)
  | some p =>
    if !s.accepting then ({ s with submitting := none }, some s.unavailable)
    else if !s.hasSpace p.item then (s, none)
    else
      ({ s with
          queue := s.queue ++ [p.item]
          queuedPayloadBytes := s.queuedPayloadBytes + p.item.payloadBytes
          producer := s.producer.submitted p
          submitting := none }, none)

/-- The test of `cancelPendingBeforeGeneration`, under the mutex. -/
def cancelPendingBeforeGeneration (s : ThreadedVu1Executor υ β) (generation : ℕ) :
    ThreadedVu1Executor υ β × Option String :=
  if s.submitting.isSome then (s, none)
  else if generation = 0 then (s, some "VU1 cancellation generation must be non-zero")
  else if generation > s.producer.generation then
    (s, some "VU1 cancellation generation has not been submitted")
  else ({ s with cancelling := generation :: s.cancelling }, none)

def raiseMinimumAcceptedGeneration (s : ThreadedVu1Executor υ β) (generation : ℕ) :
    ThreadedVu1Executor υ β :=
  if generation ∈ s.cancelling then
    { s with
      cancelling := s.cancelling.erase generation
      minimumAcceptedGeneration := max s.minimumAcceptedGeneration generation }
  else s

/-- The worker takes the next item. -/
def dequeue (s : ThreadedVu1Executor υ β) : ThreadedVu1Executor υ β :=
  if s.active.isSome ∨ s.fatalFailure.isSome then s
  else
    match s.queue with
    | [] => s
    | item :: rest => { s with active := some item, queue := rest }

/-- The worker processes the item it has taken. A failure is recorded and ends it: admission is
closed and what is queued is cancelled. -/
def work (vu : Vu1Unit υ β) (s : ThreadedVu1Executor υ β) : ThreadedVu1Executor υ β :=
  match s.active with
  | none => s
  | some item =>
    match s.processor.processItem vu s.minimumAcceptedGeneration item with
    | .ok (disposition, processor) =>
      { s with
        processor
        active := none
        queuedPayloadBytes := s.queuedPayloadBytes - item.payloadBytes
        completions :=
          s.completions ++ [⟨item.ticket, item.identity.generation, disposition⟩] }
    | .error failure =>
      { s with
        active := none
        queue := []
        queuedPayloadBytes := 0
        accepting := false
        fatalFailure := some failure }

end ThreadedVu1Executor

inductive Vu1ExecutorInput (β : Type) where
  | submit (request : Vu1SubmitRequest β)
  | tryEnqueue
  | cancelPendingBeforeGeneration (generation : ℕ)
  | raiseMinimumAcceptedGeneration (generation : ℕ)
  | closeAdmission
  | dequeue
  | work
  deriving DecidableEq, Repr

namespace ThreadedVu1Executor

variable {υ β : Type}

/-- One step of any of the threads, with the text of the exception it throws. -/
def stepThrowing (vu : Vu1Unit υ β) (s : ThreadedVu1Executor υ β) :
    Vu1ExecutorInput β → ThreadedVu1Executor υ β × Option String
  | .submit request => s.submit request
  | .tryEnqueue => s.tryEnqueue
  | .cancelPendingBeforeGeneration generation => s.cancelPendingBeforeGeneration generation
  | .raiseMinimumAcceptedGeneration generation =>
    (s.raiseMinimumAcceptedGeneration generation, none)
  | .closeAdmission => ({ s with accepting := false }, none)
  | .dequeue => (s.dequeue, none)
  | .work => (s.work vu, none)

def step (vu : Vu1Unit υ β) (s : ThreadedVu1Executor υ β) (input : Vu1ExecutorInput β) :
    ThreadedVu1Executor υ β :=
  (s.stepThrowing vu input).1

end ThreadedVu1Executor

end Ps2Recomp
