import Ps2Recomp.Dmac.SourceChain
import Ps2Recomp.Timing

/-!
# The VIF0 channel (`ps2_memory.cpp`, `ps2_vif1_interpreter.cpp`)

One advance fetches one tag, or hands a payload to the parser of VIF0, whole: what the parser does
not take at once stays in its stream, and the registers follow what it has taken. VIF0 itself is a
parameter: its registers, and what its commands do with the bytes of the stream.
-/

namespace Ps2Recomp

inductive Vif0ParserDisposition where
  | Drained
  | NeedMoreData
  | WaitingForVu
  | VifInterrupt
  deriving DecidableEq, Repr

/-- `parserStall` is a reason to stall. -/
def Vif0ParserDisposition.stalls : Vif0ParserDisposition → Bool
  | .WaitingForVu | .VifInterrupt => true
  | .Drained | .NeedMoreData => false

/-- VIF0: `VIF0_STAT`, whether it waits for VU0, and the loop over the commands of a stream, with the
number of bytes it takes. -/
structure Vif0Unit (ρ : Type) where
  stat : ρ → BitVec 32
  waitingForVu : ρ → Bool
  /-- `VPS` is set to idle. -/
  idle : ρ → ρ
  interpret : ρ → (data : List UInt8) → ρ × Vif0ParserDisposition × Fin (data.length + 1)

structure Vif0DmaState (ρ : Type) where
  registers : DmacChannelRegisters
  vif : ρ
  deferredData : List UInt8 := []
  phase : SourceChainPhase := .Idle
  madr : BitVec 32 := 0#32
  qwc : ℕ := 0
  tadr : BitVec 32 := 0#32
  asr0 : BitVec 32 := 0#32
  asr1 : BitVec 32 := 0#32
  bufferedPayloadBytes : ℕ := 0
  payloadByteOffset : ℕ := 0
  tagsProcessed : ℕ := 0
  asp : BitVec 2 := 0#2
  tagId : BitVec 3 := 0#3
  active : Bool := false
  chainMode : Bool := false
  tie : Bool := false
  tte : Bool := false
  tagIrq : Bool := false
  endAfterPayload : Bool := false
  visitedStates : List DmacSourceChainKey := []
  deriving DecidableEq, Repr

/-- What an advance finds: D_CTRL, and what has become of VIF0 since the last one. -/
structure Vif0DmaConditions (ρ : Type) where
  dmacEnabled : Bool := true
  vif : ρ → ρ := id

inductive Vif0DmaEvent where
  | tag (address : BitVec 32)
  | appendVif0Stream (data : List UInt8)
  | requestDmacCompletion
  deriving DecidableEq, Repr

namespace Vif0DmaState

variable {ρ : Type}

def publishVif0DmaRegisters (s : Vif0DmaState ρ) : Vif0DmaState ρ :=
  { s with
    registers :=
      { s.registers with
        madr := s.madr
        qwc := s.qwc
        tadr := s.tadr
        asr0 := s.asr0
        asr1 := s.asr1 } }

def startVif0Dma (registers : DmacChannelRegisters) (vif : ρ) (deferredData : List UInt8)
    (chcr : BitVec 32) : Vif0DmaState ρ :=
  let qwc := registers.qwc % 0x10000
  let chainMode : Bool := Chcr.mode chcr = 1#2
  let resumes : Bool := chainMode && qwc ≠ 0
  let tagId := if resumes then Chcr.tagId chcr else 0#3
  let tagIrq := if resumes then Chcr.tagIrq chcr else false
  publishVif0DmaRegisters
    { registers
      vif
      deferredData
      madr := registers.madr
      qwc
      tadr := registers.tadr
      asr0 := registers.asr0
      asr1 := registers.asr1
      asp := Chcr.asp chcr
      tagId
      active := true
      chainMode
      tie := Chcr.tie chcr
      tte := Chcr.tte chcr
      tagIrq
      endAfterPayload :=
        if chainMode then
          resumes && (tagId = 0#3 || tagId = 7#3 || (Chcr.tie chcr && tagIrq))
        else true
      phase :=
        if qwc ≠ 0 then .TransferPayload else if chainMode then .FetchTag else .Finalize }

def fault (s : Vif0DmaState ρ) : Vif0DmaState ρ := { s with phase := .Fault }

def key (s : Vif0DmaState ρ) : DmacSourceChainKey := ⟨s.tadr, s.asr0, s.asr1, s.asp⟩

/-- `currentVif0DmaStall` is a reason to stall. -/
def stalled (unit : Vif0Unit ρ) (s : Vif0DmaState ρ) (dmacEnabled : Bool) : Bool :=
  s.phase = .Fault || !dmacEnabled || (unit.stat s.vif).getLsbD 9 || (unit.stat s.vif).getLsbD 8 ||
    (unit.stat s.vif).getLsbD 10 || unit.waitingForVu s.vif

def processVif0Stream (unit : Vif0Unit ρ) (s : Vif0DmaState ρ) :
    Vif0DmaState ρ × Vif0ParserDisposition × ℕ :=
  if unit.waitingForVu s.vif then (s, .WaitingForVu, 0)
  else if (unit.stat s.vif).getLsbD 10 then (s, .VifInterrupt, 0)
  else if s.deferredData = [] then ({ s with vif := unit.idle s.vif }, .Drained, 0)
  else
    let (vif, disposition, consumed) := unit.interpret s.vif s.deferredData
    ({ s with vif, deferredData := s.deferredData.drop consumed }, disposition, consumed)

/-- What the tag IDs do to the addresses, the call stack and the end mark, and the address of the
data; `none` where the call stack overflows. -/
def decodeTag (s : Vif0DmaState ρ) (tag : BitVec 64) : Option (Vif0DmaState ρ × BitVec 32) :=
  let tagAddressField := (tag >>> 32).setWidth 32 &&& 0x7FFFFFFF#32
  let next := s.tadr + 16#32
  let returnAddress := next + BitVec.ofNat 32 (DmaTag.qwc tag * 16)
  match DmaTag.id tag with
  | 0 => some ({ s with tadr := next, endAfterPayload := true }, tagAddressField) -- REFE
  | 1 => some ({ s with tadr := next }, next) -- CNT
  | 2 => some ({ s with tadr := tagAddressField }, next) -- NEXT
  | 3 | 4 => some ({ s with tadr := next }, tagAddressField) -- REF, REFS
  | 5 => -- CALL
    if s.asp = 0#2 then
      some ({ s with asr0 := returnAddress, asp := 1#2, tadr := tagAddressField }, next)
    else if s.asp = 1#2 then
      some ({ s with asr1 := returnAddress, asp := 2#2, tadr := tagAddressField }, next)
    else none
  | 6 => -- RET
    if s.asp = 2#2 then some ({ s with tadr := s.asr1, asr1 := 0#32, asp := 1#2 }, next)
    else if s.asp = 1#2 then some ({ s with tadr := s.asr0, asr0 := 0#32, asp := 0#2 }, next)
    else some ({ s with endAfterPayload := true }, next)
  | 7 => some ({ s with endAfterPayload := true }, next) -- END

/-- What the tag says before its ID is looked at. -/
def readTag (s : Vif0DmaState ρ) (tag : BitVec 64) : Vif0DmaState ρ :=
  { s with
    tagId := DmaTag.id tag
    tagIrq := DmaTag.irq tag
    endAfterPayload := false
    tagsProcessed := s.tagsProcessed + 1 }

/-- The registers after a tag, with the data at `dataAddress` to come. -/
def finishTag (s : Vif0DmaState ρ) (tag : BitVec 64) (dataAddress : BitVec 32) : Vif0DmaState ρ :=
  publishVif0DmaRegisters
    { s with
      endAfterPayload := s.endAfterPayload || (s.tie && s.tagIrq)
      madr := dataAddress
      qwc := DmaTag.qwc tag
      payloadByteOffset := 0
      bufferedPayloadBytes := 0
      registers :=
        { s.registers with
          chcr := Chcr.withAsp (Chcr.withTag s.registers.chcr tag) s.asp } }

/-- With TTE, the upper half of the tag goes to the parser. -/
def transferTag (unit : Vif0Unit ρ) (s : Vif0DmaState ρ) (upper : List UInt8) :
    Vif0DmaState ρ × List Vif0DmaEvent :=
  if s.tte then
    ((processVif0Stream unit { s with deferredData := s.deferredData ++ upper }).1,
      [.appendVif0Stream upper])
  else (s, [])

def fetchTag (memory : DmaMemory) (unit : Vif0Unit ρ) (s : Vif0DmaState ρ) :
    Vif0DmaState ρ × List Vif0DmaEvent :=
  if kMaximumChainTags ≤ s.tagsProcessed then (s.fault, [])
  else if s.key ∈ s.visitedStates then (s.fault, [])
  else
    let s := { s with visitedStates := s.key :: s.visitedStates }
    match memory.tagAt s.tadr with
    | none => (s.fault, [])
    | some (tag, upper) =>
      match (s.readTag tag).decodeTag tag with
      | none => ((s.readTag tag).fault, [.tag s.tadr])
      | some (next, dataAddress) =>
        let (next, events) := (next.finishTag tag dataAddress).transferTag unit upper
        ({ next with
          phase :=
            if next.qwc ≠ 0 then .TransferPayload
            else if next.endAfterPayload then .Finalize
            else .FetchTag }, .tag s.tadr :: events)

/-- The bytes of a payload; at the end of its memory it goes on at the beginning. -/
def payload (memory : DmaMemory) (scratch : Bool) (sourceOffset sizeBytes : ℕ) : List UInt8 :=
  let limit := DmaMemory.limit scratch
  let start := if limit ≤ sourceOffset then 0 else sourceOffset
  (List.range sizeBytes).map fun i => memory.base scratch ((start + i) % limit)

/-- The accounting after the parser has taken `acceptedBytes` of the payload. -/
def acceptPayload (s : Vif0DmaState ρ) (acceptedBytes : ℕ) : Vif0DmaState ρ :=
  let acceptedWithOffset := s.payloadByteOffset + acceptedBytes
  let completedQwc := acceptedWithOffset / 16
  if s.qwc < completedQwc then s.fault
  else
    let s :=
      { s with
        madr := s.madr + BitVec.ofNat 32 (completedQwc * 16)
        qwc := s.qwc - completedQwc
        payloadByteOffset := acceptedWithOffset % 16 }
    if s.qwc = 0 ∧ s.payloadByteOffset ≠ 0 then s.fault
    else if s.qwc = 0 then
      publishVif0DmaRegisters
        { s with
          tadr := if s.chainMode && s.tagId = 1#3 then s.madr else s.tadr
          phase := if s.endAfterPayload then .Finalize else .FetchTag }
    else s.publishVif0DmaRegisters

def transferPayload (memory : DmaMemory) (unit : Vif0Unit ρ) (s : Vif0DmaState ρ) :
    Vif0DmaState ρ × List Vif0DmaEvent :=
  let remainingBytes := s.qwc * 16 - s.payloadByteOffset
  if s.qwc * 16 < s.payloadByteOffset ∨ uint32Max < remainingBytes then (s.fault, [])
  else if s.bufferedPayloadBytes ≠ 0 then
    let (s, disposition, consumed) := s.processVif0Stream unit
    let acceptedBytes :=
      if disposition.stalls then min consumed s.bufferedPayloadBytes else s.bufferedPayloadBytes
    (acceptPayload
      { s with bufferedPayloadBytes := s.bufferedPayloadBytes - acceptedBytes } acceptedBytes, [])
  else if remainingBytes ≠ 0 then
    let sourceAddress := s.madr + BitVec.ofNat 32 s.payloadByteOffset
    match memory.translateAddress sourceAddress with
    | none => (s.fault, [])
    | some sourceOffset =>
      let oldParserBytes := s.deferredData.length
      let data := payload memory (isScratchpad sourceAddress) sourceOffset.toNat remainingBytes
      let (s, disposition, consumed) :=
        processVif0Stream unit { s with deferredData := s.deferredData ++ data }
      let acceptedBytes :=
        if disposition.stalls then min (consumed - min oldParserBytes uint32Max) remainingBytes
        else remainingBytes
      (acceptPayload { s with bufferedPayloadBytes := remainingBytes - acceptedBytes }
        acceptedBytes, [.appendVif0Stream data])
  else (s.acceptPayload 0, [])

def advanceVif0Dma (memory : DmaMemory) (unit : Vif0Unit ρ) (s : Vif0DmaState ρ)
    (conditions : Vif0DmaConditions ρ) : Vif0DmaState ρ × List Vif0DmaEvent :=
  let s := { s with vif := conditions.vif s.vif }
  if !s.active then (s, [])
  else if s.stalled unit conditions.dmacEnabled then (s, [])
  else
    match s.phase with
    | .Finalize => ({ s with active := false }, [.requestDmacCompletion])
    | .FetchTag => s.fetchTag memory unit
    | .TransferPayload => s.transferPayload memory unit
    | .Idle | .Fault => (s.fault, [])

/-! ## What an advance leaves -/

/-- The parser takes bytes from the front of the stream. -/
theorem processVif0Stream_eq (unit : Vif0Unit ρ) (s : Vif0DmaState ρ) :
    (s.processVif0Stream unit).1 = { s with
        vif := (s.processVif0Stream unit).1.vif
        deferredData := s.deferredData.drop (s.processVif0Stream unit).2.2 } ∧
      (s.processVif0Stream unit).2.2 ≤ s.deferredData.length := by
  unfold processVif0Stream
  split
  next => exact ⟨rfl, Nat.zero_le _⟩
  next =>
    split
    next => exact ⟨rfl, Nat.zero_le _⟩
    next =>
      split
      next => exact ⟨rfl, Nat.zero_le _⟩
      next => exact ⟨rfl, Nat.le_of_lt_succ (unit.interpret s.vif s.deferredData).2.2.isLt⟩

theorem processVif0Stream_frame (unit : Vif0Unit ρ) (s : Vif0DmaState ρ) :
    (s.processVif0Stream unit).1 = { s with
      vif := (s.processVif0Stream unit).1.vif
      deferredData := (s.processVif0Stream unit).1.deferredData } := by
  rw [(processVif0Stream_eq unit s).1]

theorem transferTag_eq (unit : Vif0Unit ρ) (s : Vif0DmaState ρ) (upper : List UInt8) :
    (s.transferTag unit upper).1 = { s with
      vif := (s.transferTag unit upper).1.vif
      deferredData := (s.transferTag unit upper).1.deferredData } := by
  unfold transferTag
  split
  next => exact processVif0Stream_frame unit { s with deferredData := s.deferredData ++ upper }
  next => rfl

theorem length_payload (scratch : Bool) (sourceOffset sizeBytes : ℕ) :
    (payload memory scratch sourceOffset sizeBytes).length = sizeBytes := by
  simp [payload]

end Vif0DmaState

end Ps2Recomp
