import Ps2Recomp.Dmac.SourceChain
import Ps2Recomp.Timing

/-!
# The GIF channel (`ps2_memory.cpp`)

One advance fetches tags until there is a payload, and then delivers a slice of it: to the GIF, to
its FIFO while PATH3 is masked, or, where only a raw packet callback is there, to a buffer that the
callback gets when the transfer ends. The GS has its memory, without which no transfer starts.
-/

namespace Ps2Recomp

/-- Who takes the data. -/
structure GifSink where
  gifArbiter : Bool
  gifPacketCallback : Bool
  deriving DecidableEq, Repr

/-- There is no one who would put the packets together again. -/
def GifSink.direct (sink : GifSink) : Bool := !sink.gifArbiter && sink.gifPacketCallback

structure GifDmaState where
  registers : DmacChannelRegisters
  phase : SourceChainPhase := .Idle
  chcr : BitVec 32 := 0#32
  madr : BitVec 32 := 0#32
  qwc : ℕ := 0
  tadr : BitVec 32 := 0#32
  asr0 : BitVec 32 := 0#32
  asr1 : BitVec 32 := 0#32
  tagsProcessed : ℕ := 0
  asp : BitVec 2 := 0#2
  tagId : BitVec 3 := 0#3
  active : Bool := false
  chainMode : Bool := false
  tie : Bool := false
  tagIrq : Bool := false
  endAfterPayload : Bool := false
  fifoData : List UInt8 := []
  directCallbackData : List UInt8 := []
  visitedStates : List DmacSourceChainKey := []
  deriving DecidableEq, Repr

/-- What an advance finds: D_CTRL, GIF_CTRL, the PATH3 mask and the IMT bit of GIF_MODE. -/
structure GifDmaConditions where
  dmacEnabled : Bool := true
  gifPaused : Bool := false
  path3Masked : Bool := false
  intermittent : Bool := false
  deriving DecidableEq, Repr

/-- What an advance does to the outside. -/
inductive GifDmaEvent where
  | tag (address : BitVec 32)
  | submitGifPacket (data : List UInt8)
  | gifPacketCallback (data : List UInt8) (sizeBytes : ℕ)
  | requestDmacCompletion
  deriving DecidableEq, Repr

namespace GifDmaState

def publishGifDmaRegisters (s : GifDmaState) : GifDmaState :=
  { s with
    registers :=
      { chcr := if s.active then Chcr.setStr s.chcr else s.chcr
        madr := s.madr
        qwc := s.qwc % 0x10000
        tadr := s.tadr
        asr0 := s.asr0
        asr1 := s.asr1 } }

def startGifDma (registers : DmacChannelRegisters) (chcr : BitVec 32) : GifDmaState :=
  let qwc := registers.qwc % 0x10000
  let chainMode : Bool := Chcr.mode chcr = 1#2
  publishGifDmaRegisters
    { registers
      chcr := Chcr.setStr chcr
      madr := registers.madr
      qwc
      tadr := registers.tadr
      asr0 := registers.asr0
      asr1 := registers.asr1
      asp := Chcr.asp chcr
      chainMode
      tie := Chcr.tie chcr
      active := true
      phase :=
        if qwc ≠ 0 then .TransferPayload else if chainMode then .FetchTag else .Finalize
      endAfterPayload := !chainMode }

/-- A write to CHCR with STR set, before the first advance. -/
def writeChcr (s : GifDmaState) (value : BitVec 32) (dmacEnabled : Bool) : GifDmaState :=
  let registers := { s.registers with chcr := value }
  if dmacEnabled then startGifDma registers value else { s with registers }

def fault (s : GifDmaState) : GifDmaState := { s with phase := .Fault }

def key (s : GifDmaState) : DmacSourceChainKey := ⟨s.tadr, s.asr0, s.asr1, s.asp⟩

/-- What the tag IDs do to the addresses, the call stack and the end mark, and the address of the
data; `none` where the call stack overflows. -/
def decodeTag (s : GifDmaState) (tag : BitVec 64) : Option (GifDmaState × BitVec 32) :=
  let tagAddressField := (tag >>> 32).setWidth 32 &&& 0x7FFFFFFF#32
  let next := s.tadr + 16#32 &&& 0x7FFFFFFF#32
  let after := next + BitVec.ofNat 32 (DmaTag.qwc tag * 16) &&& 0x7FFFFFFF#32
  match DmaTag.id tag with
  | 0 => some ({ s with tadr := next, endAfterPayload := true }, tagAddressField) -- REFE
  | 1 => some ({ s with tadr := after }, next) -- CNT
  | 2 => some ({ s with tadr := tagAddressField }, next) -- NEXT
  | 3 | 4 => some ({ s with tadr := next }, tagAddressField) -- REF, REFS
  | 5 => -- CALL
    if s.asp = 0#2 then
      some ({ s with asr0 := after, asp := 1#2, tadr := tagAddressField }, next)
    else if s.asp = 1#2 then
      some ({ s with asr1 := after, asp := 2#2, tadr := tagAddressField }, next)
    else none
  | 6 => -- RET
    if s.asp = 2#2 then some ({ s with tadr := s.asr1, asr1 := 0#32, asp := 1#2 }, next)
    else if s.asp = 1#2 then some ({ s with tadr := s.asr0, asr0 := 0#32, asp := 0#2 }, next)
    else some ({ s with endAfterPayload := true }, next)
  | 7 => some ({ s with endAfterPayload := true }, next) -- END

/-- What the tag says before its ID is looked at. -/
def readTag (s : GifDmaState) (tag : BitVec 64) : GifDmaState :=
  { s with
    tagId := DmaTag.id tag
    tagIrq := DmaTag.irq tag
    endAfterPayload := false
    tagsProcessed := s.tagsProcessed + 1 }

/-- The state after a tag, with the data at `dataAddress` to come. -/
def finishTag (s : GifDmaState) (tag : BitVec 64) (dataAddress : BitVec 32) : GifDmaState :=
  let endAfterPayload := s.endAfterPayload || (s.tie && s.tagIrq)
  publishGifDmaRegisters
    { s with
      endAfterPayload
      chcr := Chcr.withAsp (Chcr.withTag s.chcr tag) s.asp
      madr := dataAddress
      qwc := DmaTag.qwc tag
      phase :=
        if DmaTag.qwc tag ≠ 0 then .TransferPayload
        else if endAfterPayload then .Finalize
        else .FetchTag }

def fetchTag (memory : DmaMemory) (s : GifDmaState) : GifDmaState × List GifDmaEvent :=
  if kMaximumChainTags ≤ s.tagsProcessed then (s.fault, [])
  else if s.key ∈ s.visitedStates then (s.fault, [])
  else
    let s := { s with visitedStates := s.key :: s.visitedStates }
    match memory.tagAt s.tadr with
    | none => (s.fault, [])
    | some (tag, _) =>
      match (s.readTag tag).decodeTag tag with
      | none => ((s.readTag tag).fault, [.tag s.tadr])
      | some (next, dataAddress) => (next.finishTag tag dataAddress, [.tag s.tadr])

/-- The loop over the tags; each round counts a tag, so the tag limit bounds the rounds. -/
def fetchTags (memory : DmaMemory) : ℕ → GifDmaState → GifDmaState × List GifDmaEvent
  | 0, s => (s, [])
  | rounds + 1, s =>
    if s.phase ≠ .FetchTag then (s, [])
    else
      let (s, events) := s.fetchTag memory
      let (s, later) := fetchTags memory rounds s
      (s, events ++ later)

/-- The pieces of a payload in memory, and whether that was all of it. A piece ends with its memory,
and the next one starts at the beginning; each has a quadword at least. -/
def payloadChunks (memory : DmaMemory) : ℕ → BitVec 32 → ℕ → List (List UInt8) × Bool
  | 0, _, bytesLeft => ([], bytesLeft = 0)
  | rounds + 1, currentAddress, bytesLeft =>
    let scratch := isScratchpad currentAddress
    match memory.translateAddress currentAddress with
    | none => ([], false)
    | some sourceOffset =>
      let chunk := min bytesLeft (DmaMemory.limit scratch - sourceOffset.toNat) / 16 * 16
      if chunk = 0 then ([], false)
      else
        let data := memory.read scratch sourceOffset.toNat chunk
        if bytesLeft = chunk then ([data], true)
        else
          let (chunks, copied) := payloadChunks memory rounds
            (if scratch then 0x70000000#32 else 0#32) (bytesLeft - chunk)
          (data :: chunks, copied)

/-- `copyGifDmaPayload`. -/
def copyGifDmaPayload (memory : DmaMemory) (sink : GifSink) (s : GifDmaState) (qwc : ℕ)
    (toFifo : Bool) : Bool × GifDmaState × List GifDmaEvent :=
  let (chunks, copied) := payloadChunks memory qwc s.madr (qwc * 16)
  if toFifo then (copied, { s with fifoData := s.fifoData ++ chunks.flatten }, [])
  else if sink.direct then
    (copied, { s with directCallbackData := s.directCallbackData ++ chunks.flatten }, [])
  else (copied, s, chunks.map .submitGifPacket)

/-- How much of the payload goes at once. -/
def sliceQwc (qwc : ℕ) (conditions : GifDmaConditions) : ℕ :=
  if conditions.path3Masked then min qwc 16
  else if conditions.intermittent then if qwc > 64 then max 1 (qwc / 2) else min qwc 8
  else if qwc > 8 then qwc - 8
  else qwc

/-- The part of an advance that transfers a slice. -/
def transferPayload (memory : DmaMemory) (sink : GifSink) (conditions : GifDmaConditions)
    (s : GifDmaState) : GifDmaState × List GifDmaEvent :=
  let slice := sliceQwc s.qwc conditions
  if slice = 0 then (if conditions.path3Masked then s.publishGifDmaRegisters else s.fault, [])
  else
    let (copied, s, events) := s.copyGifDmaPayload memory sink slice conditions.path3Masked
    if !copied then (s.fault, events)
    else
      (publishGifDmaRegisters
        { s with
          madr := s.madr + BitVec.ofNat 32 (slice * 16) &&& 0x7FFFFFFF#32
          qwc := s.qwc - slice
          phase :=
            if s.qwc - slice ≠ 0 then s.phase
            else if s.endAfterPayload then .Finalize
            else .FetchTag }, events)

def advanceGifDma (memory : DmaMemory) (sink : GifSink) (s : GifDmaState)
    (conditions : GifDmaConditions) : GifDmaState × List GifDmaEvent :=
  if !s.active || s.phase == .Fault then (s, [])
  else if !conditions.dmacEnabled || conditions.gifPaused then (s, [])
  else if s.fifoData ≠ [] then
    if conditions.path3Masked then (s, [])
    else if sink.direct then
      ({ s with
        directCallbackData := s.directCallbackData ++ s.fifoData
        fifoData := [] }, [])
    else ({ s with fifoData := [] }, [.submitGifPacket s.fifoData])
  else if s.phase = .Finalize then
    if sink.direct && 16 ≤ s.directCallbackData.length then
      ({ s with active := false, directCallbackData := [] },
        [.gifPacketCallback s.directCallbackData (min s.directCallbackData.length uint32Max),
          .requestDmacCompletion])
    else ({ s with active := false }, [.requestDmacCompletion])
  else
    let (s, events) := s.fetchTags memory (kMaximumChainTags + 1)
    match s.phase with
    | .Finalize | .Fault => (s, events)
    | .TransferPayload =>
      let (s, delivered) := s.transferPayload memory sink conditions
      (s, events ++ delivered)
    | _ => (s.fault, events)

/-! ## What an advance leaves -/

variable {memory : DmaMemory} {sink : GifSink} {s t : GifDmaState}

/-- A tag changes the addresses, the call stack and the end mark. -/
theorem decodeTag_eq {tag : BitVec 64} {dataAddress : BitVec 32}
    (h : s.decodeTag tag = some (t, dataAddress)) :
    t = { s with
      tadr := t.tadr
      asr0 := t.asr0
      asr1 := t.asr1
      asp := t.asp
      endAfterPayload := t.endAfterPayload } := by
  unfold decodeTag at h
  dsimp only at h
  repeat' split at h
  all_goals cases h
  all_goals rfl

theorem fetchTags_fault {rounds : ℕ} (h : s.phase = .Fault) :
    s.fetchTags memory rounds = (s, []) := by
  cases rounds with
  | zero => rfl
  | succ rounds => rw [fetchTags, if_pos (by rw [h]; decide)]

/-- Copying changes only what is held. -/
theorem copyGifDmaPayload_eq (memory : DmaMemory) (sink : GifSink) (s : GifDmaState) (qwc : ℕ)
    (toFifo : Bool) :
    (s.copyGifDmaPayload memory sink qwc toFifo).2.1 = { s with
      fifoData := (s.copyGifDmaPayload memory sink qwc toFifo).2.1.fifoData
      directCallbackData :=
        (s.copyGifDmaPayload memory sink qwc toFifo).2.1.directCallbackData } := by
  unfold copyGifDmaPayload
  dsimp only
  split
  next => rfl
  next => split <;> rfl

theorem fetchTag_active : (s.fetchTag memory).1.active = s.active := by
  unfold fetchTag
  dsimp only
  split
  next => rfl
  next =>
    split
    next => rfl
    next =>
      split
      next => rfl
      next =>
        split
        next => rfl
        next next dataAddress hdecode =>
          change next.active = s.active
          rw [decodeTag_eq hdecode]
          rfl

theorem fetchTags_active (memory : DmaMemory) (s : GifDmaState) (rounds : ℕ) : (s.fetchTags memory rounds).1.active = s.active := by
  induction rounds generalizing s with
  | zero => rfl
  | succ rounds ih =>
    unfold fetchTags
    split
    next => rfl
    next => exact (ih _).trans fetchTag_active

end GifDmaState

end Ps2Recomp
