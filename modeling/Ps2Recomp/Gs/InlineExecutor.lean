import Ps2Recomp.Gs.CommandExecutor
import Ps2Recomp.Gs.ReplayCodec

/-!
# The inline GS executor (`ps2_gs_command_stream.cpp`)

`InlineGsExecutor::submit` processes a command before it returns. It keeps a generation and a sequence
number of its own beside those of the `GsCommandProcessor`, and the processor rejects a command whose
numbers are not the next ones. A `Reset` or `RestoreReplayState` stores the new generation in the
executor before the processor has looked at the payload, and the processor stores it before the GS
has carried the command out.

What the GS does is the parameter `GsDevice`, and it may throw. `Gs/CommandExecutor.lean` has the same
processor for a GS that does not (`process_eq_of_total`).

Digests, results, the privileged effects and `std::bad_alloc` are left out, and a thread is a number.
-/

namespace Ps2Recomp

open ByteCodec (Bytes)
open GsReplay (GsReplayState encodeGsReplayState validateReplayState)

/-! ## Payloads -/

/-- `GifArbiterDrainBatch::Packet` as a producer may fill it in. -/
structure GsDrainPacket where
  pathId : UInt8 := 3
  path2DirectHl : Bool := false
  path3Image : Bool := false
  storageIndex : UInt8 := 0
  offset : ℕ := 0
  size : ℕ := 0
  deriving DecidableEq, Repr

structure GsDrainBatch where
  storage : Fin 4 → Bytes := fun _ => []
  packets : List GsDrainPacket := []
  beginSubmissionBatch : Bool := true
  endSubmissionBatch : Bool := true

/-- `batch.storage[index]`, for an index that is in range. -/
def GsDrainBatch.storageSize (batch : GsDrainBatch) (index : UInt8) : ℕ :=
  if h : index.toNat < 4 then (batch.storage ⟨index.toNat, h⟩).length else 0

def GsDrainBatch.isValidPacket (batch : GsDrainBatch) (packet : GsDrainPacket) : Bool :=
  !(packet.pathId < 1 ||
    packet.pathId > 3 ||
    packet.storageIndex ≠ packet.pathId ||
    packet.size = 0 ||
    packet.size > uint32Max ||
    packet.offset > batch.storageSize packet.pathId ||
    packet.size > batch.storageSize packet.pathId - packet.offset ||
    packet.path2DirectHl && packet.pathId ≠ 2 ||
    packet.path3Image && packet.pathId ≠ 3)

/-- `isValidDrainBatch`. -/
def GsDrainBatch.isValidDrainBatch (batch : GsDrainBatch) : Bool :=
  batch.packets.all batch.isValidPacket

/-- The loop of `gsCommandPayloadSize` over the packets; it stops at the largest size there is. -/
def GsDrainBatch.packetSizes : List GsDrainPacket → ℕ → ℕ
  | [], size => size
  | packet :: rest, size =>
    let metadataSize := 1 + 1 + 1 + 8
    if metadataSize > uint64Max.val - size then uint64Max.val
    else if packet.size > uint64Max.val - (size + metadataSize) then uint64Max.val
    else packetSizes rest (size + metadataSize + packet.size)

structure GsPrivilegedRegisterSnapshot where
  valid : Bool := false
  pmode : UInt64 := 0
  smode2 : UInt64 := 0
  dispfb1 : UInt64 := 0
  display1 : UInt64 := 0
  dispfb2 : UInt64 := 0
  display2 : UInt64 := 0
  bgcolor : UInt64 := 0
  deriving DecidableEq, Repr

/-- Nothing but the GS reads what the alternative carries. -/
def GsCommandType.isPlain : GsCommandType → Bool
  | .DrainBatch | .NativePackedGif | .NativeImageUpload | .RestoreReplayState | .FieldMarker
  | .ConfigureVulkan => false
  | _ => true

/-- `GsCommandPayload`: the alternatives that are checked or measured, and the others with
arguments for the GS. -/
inductive GsCommandVariant (δ : Type) where
  | DrainBatch (batch : GsDrainBatch)
  | NativePackedGif (bytes : Bytes)
  | NativeImageUpload (bitbltbuf trxpos trxreg trxdir : UInt64) (bytes : Bytes)
  | RestoreReplayState (state : GsReplayState)
  | FieldMarker (fieldSequence : ℕ) (registers : GsPrivilegedRegisterSnapshot)
  | ConfigureVulkan (loaderPath verificationArtifactDirectory : Bytes) (arguments : δ)
  | plain (type : { type : GsCommandType // type.isPlain }) (arguments : δ)

namespace GsCommandVariant

variable {δ : Type}

/-- `gsCommandType`. -/
def type : GsCommandVariant δ → GsCommandType
  | .DrainBatch _ => .DrainBatch
  | .NativePackedGif _ => .NativePackedGif
  | .NativeImageUpload .. => .NativeImageUpload
  | .RestoreReplayState _ => .RestoreReplayState
  | .FieldMarker .. => .FieldMarker
  | .ConfigureVulkan .. => .ConfigureVulkan
  | .plain type _ => type

/-- The size of what a plain alternative carries. -/
def argumentSize : GsCommandType → ℕ
  | .WriteRegister => 1 + 8
  | .ClearFramebuffer => 4 + 4 + 1
  | .ReadFifo => 4
  | .ProgressSnapshot => 1
  | .RecentGifPackets => 8
  | .LatchPresentation => 1 + 7 * 8
  | .SetDebugHistoryPaused | .SetProgressTracking | .SetBackendCountersEnabled => 1
  | .SetRendererMode => 1
  | .SetDrawCommandLimit => 8
  | _ => 0

/-- `gsCommandPayloadSize`. -/
def payloadSize : GsCommandVariant δ → ℕ
  | .DrainBatch batch => GsDrainBatch.packetSizes batch.packets (8 + 1 + 1)
  | .NativePackedGif bytes => 8 + bytes.length
  | .NativeImageUpload _ _ _ _ bytes => 8 + 8 + 8 + 8 + 8 + bytes.length
  | .RestoreReplayState state =>
    let encoded := encodeGsReplayState state none
    if encoded.accepted then encoded.output.length else 0
  | .FieldMarker .. => 8 + 1 + 7 * 8
  | .ConfigureVulkan loaderPath verificationArtifactDirectory _ =>
    1 + 8 + loaderPath.length + 4 + 4 + 8 + 1 + 8 + verificationArtifactDirectory.length + 8 + 10 * 8
  | .plain type _ => argumentSize type

/-- `isValidCommandPayload`. -/
def isValidCommandPayload : GsCommandVariant δ → Bool
  | .DrainBatch batch => batch.isValidDrainBatch
  | .NativePackedGif bytes => bytes.length ≤ uint32Max
  | .NativeImageUpload _ _ _ _ bytes => bytes.length ≤ uint32Max
  | .RestoreReplayState state => (encodeGsReplayState state none).accepted
  | .FieldMarker fieldSequence registers => fieldSequence ≠ 0 && registers.valid
  | _ => true

/-- `isHotCommand`. -/
def isHotCommand (payload : GsCommandVariant δ) : Bool :=
  payload.type = .DrainBatch || payload.type = .WriteRegister ||
  payload.type = .NativePackedGif || payload.type = .NativeImageUpload ||
  payload.type = .ClearFramebuffer || payload.type = .FieldMarker

/-- The field sequence of a marker; no other alternative has one. -/
def fieldSequence : GsCommandVariant δ → ℕ
  | .FieldMarker fieldSequence _ => fieldSequence
  | _ => 0

/-- `startsGeneration`. -/
def startsGeneration (payload : GsCommandVariant δ) : Bool := payload.type.startsGeneration

end GsCommandVariant

/-- `GsCommand` with its alternative. -/
structure GsVariantCommand (δ : Type) where
  identity : GsWorkIdentity
  type : GsCommandType
  payloadSize : ℕ
  debugVsyncTick : ℕ
  payload : GsCommandVariant δ

/-! ## The processor -/

/-- The GS: what it is after a command, at a VSync tick of the debug history, and the text of the
exception that the call ended with. -/
structure GsDevice (υ δ : Type) where
  execute : υ → ℕ → GsCommandVariant δ → υ × Option String

namespace GsDevice

variable {υ δ : Type}

/-- The end of `process`, from the store of the debug tick on. -/
def perform (gs : GsDevice υ δ) (p : GsCommandProcessor υ) (command : GsVariantCommand δ) :
    GsCommandProcessor υ × Except String GsCommandDisposition :=
  let payload := command.payload
  let p := { p with currentDebugVsyncTick := command.debugVsyncTick }
  if payload.type = .FieldMarker ∧ payload.fieldSequence ≤ p.completedFieldSequence then
    (p, .error "GS field markers must advance monotonically")
  else
    let outcome := gs.execute p.gs command.debugVsyncTick payload
    match outcome.2 with
    | some failure => ({ p with gs := outcome.1 }, .error failure)
    | none =>
      ({ p with
          gs := outcome.1
          completedFieldSequence :=
            if payload.type = .FieldMarker then payload.fieldSequence
            else p.completedFieldSequence
          completedSequence := command.identity.sequence }, .ok .Completed)

/-- `process`: the processor after it, and the disposition or the text of the exception. -/
def process (gs : GsDevice υ δ) (p : GsCommandProcessor υ) (command : GsVariantCommand δ) :
    GsCommandProcessor υ × Except String GsCommandDisposition :=
  let identity := command.identity
  let payload := command.payload
  if command.type ≠ payload.type ∨ command.payloadSize ≠ payload.payloadSize ∨
      identity.sequence = 0 ∨ identity.generation = 0 ∨ !payload.isValidCommandPayload then
    (p, .ok .Malformed)
  else if identity.generation < p.generation then (p, .ok .StaleGeneration)
  else
    let startsGeneration := payload.startsGeneration
    if startsGeneration && identity.generation = p.generation then (p, .ok .FutureGeneration)
    else
      let beginsNewGeneration : Bool := p.generation < identity.generation
      if beginsNewGeneration &&
          (!startsGeneration || p.generation = uint64Max.val ||
            identity.generation ≠ p.generation + 1) then (p, .ok .FutureGeneration)
      else if beginsNewGeneration && identity.sequence ≠ 1 then (p, .ok .OutOfOrder)
      else
        let p :=
          if beginsNewGeneration then
            { p with
              generation := identity.generation
              completedSequence := 0
              completedFieldSequence := 0 }
          else p
        if !beginsNewGeneration &&
            (p.completedSequence = uint64Max.val ||
              identity.sequence ≠ p.completedSequence + 1) then (p, .ok .OutOfOrder)
        else gs.perform p command

/-- The processor after a command, whatever became of it. -/
def processed (gs : GsDevice υ δ) (p : GsCommandProcessor υ) (command : GsVariantCommand δ) :
    GsCommandProcessor υ :=
  (gs.process p command).1

end GsDevice

/-! ## The executor -/

structure InlineGsExecutor (υ : Type) where
  processor : GsCommandProcessor υ
  generation : ℕ
  nextSequence : ℕ
  lastGuestTick : ℕ := 0
  hotProducerThread : Option ℕ := none
  deriving DecidableEq, Repr

/-- The arguments of `submit`, and the thread that calls it. -/
structure InlineGsRequest (δ : Type) where
  payload : GsCommandVariant δ
  guestTick : ℕ := 0
  publicationToken : ℕ := 0
  debugVsyncTick : ℕ := 0
  thread : ℕ := 0

namespace InlineGsExecutor

variable {υ δ : Type}

/-- The constructor. -/
def create (processor : GsCommandProcessor υ) : InlineGsExecutor υ where
  processor := processor
  generation := processor.generation
  nextSequence := processor.completedSequence

/-- `assertHotProducerThread`: `m_hotProducerThread` after it. `diagnostics` is
`PS2X_ENABLE_RUNTIME_DIAGNOSTICS`. -/
def assertHotProducerThread (diagnostics : Bool) (s : InlineGsExecutor υ)
    (request : InlineGsRequest δ) : Except String (Option ℕ) :=
  if !diagnostics || !request.payload.isHotCommand then .ok s.hotProducerThread
  else
    match s.hotProducerThread with
    | none => .ok (some request.thread)
    | some thread =>
      if thread ≠ request.thread then
        .error "GS hot command submitted from multiple producer threads"
      else .ok (some thread)

/-- The stores of `submit` to `m_generation` and `m_nextSequence` before the command is built. -/
def openGeneration (s : InlineGsExecutor υ) (payload : GsCommandVariant δ) :
    Except String (InlineGsExecutor υ) :=
  if payload.startsGeneration then
    (checkedGsIncrement s.generation "generation").map fun generation =>
      { s with generation, nextSequence := 0 }
  else .ok s

/-- The command that a request becomes. -/
def makeCommand (s : InlineGsExecutor υ) (request : InlineGsRequest δ) (sequence : ℕ) :
    GsVariantCommand δ where
  identity :=
    { sequence
      generation := s.generation
      guestTick := max request.guestTick s.lastGuestTick
      publicationToken := request.publicationToken }
  type := request.payload.type
  payloadSize := request.payload.payloadSize
  debugVsyncTick := request.debugVsyncTick
  payload := request.payload

/-- The end of `submit`, from the call of the processor on. -/
def complete (gs : GsDevice υ δ) (s : InlineGsExecutor υ) (command : GsVariantCommand δ) :
    InlineGsExecutor υ × Except String GsWorkIdentity :=
  let result := gs.process s.processor command
  let s := { s with processor := result.1 }
  match result.2 with
  | .error failure => (s, .error failure)
  | .ok .Completed =>
    ({ s with
        nextSequence := command.identity.sequence
        lastGuestTick := command.identity.guestTick }, .ok command.identity)
  | .ok _ => (s, .error ("inline GS command rejected: " ++ command.type.name))

/-- `submit`: the executor after it, and the identity of the result or the text of the exception. -/
def submit (gs : GsDevice υ δ) (diagnostics : Bool) (s : InlineGsExecutor υ)
    (request : InlineGsRequest δ) : InlineGsExecutor υ × Except String GsWorkIdentity :=
  match s.assertHotProducerThread diagnostics request with
  | .error failure => (s, .error failure)
  | .ok hotProducerThread =>
    let s := { s with hotProducerThread }
    match s.openGeneration request.payload with
    | .error failure => (s, .error failure)
    | .ok s =>
      match checkedGsIncrement s.nextSequence "sequence" with
      | .error failure => (s, .error failure)
      | .ok sequence => s.complete gs (s.makeCommand request sequence)

/-- The executor after a call, whether it returned or threw. -/
def submitted (gs : GsDevice υ δ) (diagnostics : Bool) (s : InlineGsExecutor υ)
    (request : InlineGsRequest δ) : InlineGsExecutor υ :=
  (s.submit gs diagnostics request).1

end InlineGsExecutor

end Ps2Recomp
