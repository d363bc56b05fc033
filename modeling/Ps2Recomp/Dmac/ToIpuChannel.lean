import Ps2Recomp.Dmac.SourceChain

/-!
# The channel to the IPU (`ps2_memory.cpp`)

One advance fetches a tag and delivers as much of its payload as the input FIFO of the IPU has room
for. How full the FIFO is when an advance comes is up to the IPU. The channel resolves addresses by
itself: memory that is not populated reads as zero, and what lies beyond cannot be read. CALL and RET
end the chain here; the call stack is not used.
-/

namespace Ps2Recomp

def kIpuInputFifoCapacityQwc : ℕ := 8

structure ToIpuDmaState where
  registers : DmacChannelRegisters
  phase : SourceChainPhase := .Idle
  chcr : BitVec 32 := 0#32
  madr : BitVec 32 := 0#32
  qwc : ℕ := 0
  tadr : BitVec 32 := 0#32
  tagsProcessed : ℕ := 0
  tagId : BitVec 3 := 0#3
  active : Bool := false
  normalMode : Bool := false
  chainMode : Bool := false
  tie : Bool := false
  tagIrq : Bool := false
  endAfterPayload : Bool := false
  deriving DecidableEq, Repr

/-- What an advance finds: D_CTRL, and how many quadwords are in the input FIFO. -/
structure ToIpuDmaConditions where
  dmacEnabled : Bool := true
  ipuInputFifoQwc : ℕ := 0
  deriving DecidableEq, Repr

inductive ToIpuDmaEvent where
  | tag (address : BitVec 32)
  | writeIpuInputFifo (data : List UInt8)
  | requestDmacCompletion
  deriving DecidableEq, Repr

namespace DmaMemory

/-- The quadword at an address as the channel to the IPU reads it. -/
def ipuQuadword (memory : DmaMemory) (address : BitVec 32) : Option (List UInt8) :=
  let physicalAddress := address &&& 0x1FFFFFF0#32
  let scratchAlias := 0x10000000 ≤ physicalAddress.toNat ∧ physicalAddress.toNat < 0x10004000
  if address.getLsbD 31 ∨ scratchAlias then
    some (memory.read true (address &&& 0x3FF0#32).toNat 16)
  else if physicalAddress.toNat < ps2RamSize.toNat then
    some (memory.read false physicalAddress.toNat 16)
  else if physicalAddress.toNat < 0x10000000 then some (List.replicate 16 0)
  else none

/-- `loadScalar<uint64_t>` at the beginning of the quadword. -/
def ipuTag (memory : DmaMemory) (tagAddress : BitVec 32) : Option (BitVec 64) :=
  (memory.ipuQuadword tagAddress).map fun quadword =>
    (quadword.take 8).foldr (fun byte tag => tag <<< 8 ||| byte.toBitVec.setWidth 64) 0

/-- The loop of `copyToIpuDmaPayload`. -/
def ipuPayload (memory : DmaMemory) (currentAddress : BitVec 32) : ℕ → Option (List UInt8)
  | 0 => some []
  | qwc + 1 =>
    match memory.ipuQuadword currentAddress, memory.ipuPayload (currentAddress + 16#32) qwc with
    | some quadword, some payload => some (quadword ++ payload)
    | _, _ => none

end DmaMemory

namespace ToIpuDmaState

def publishToIpuDmaRegisters (s : ToIpuDmaState) : ToIpuDmaState :=
  { s with
    registers :=
      { s.registers with
        chcr := if s.active then Chcr.setStr s.chcr else s.chcr
        madr := s.madr
        qwc := s.qwc % 0x10000
        tadr := s.tadr } }

def startToIpuDma (registers : DmacChannelRegisters) (chcr : BitVec 32) : ToIpuDmaState :=
  let normalMode : Bool := Chcr.mode chcr = 0#2
  let chainMode : Bool := Chcr.mode chcr = 1#2
  let started := Chcr.setStr chcr
  let tie := Chcr.tie started
  let tagId := Chcr.tagId started
  let tagIrq := Chcr.tagIrq started
  let registerQwc := registers.qwc % 0x10000
  publishToIpuDmaRegisters
    { registers
      chcr := started
      madr := registers.madr &&& 0xFFFFFFF0#32
      tadr := registers.tadr &&& 0xFFFFFFF0#32
      normalMode
      chainMode
      tie
      tagId
      tagIrq
      qwc := if normalMode && registerQwc = 0 then 0x10000 else registerQwc
      endAfterPayload :=
        normalMode ||
          (chainMode && registerQwc ≠ 0 && (tagId = 0#3 || tagId = 7#3 || (tie && tagIrq)))
      active := true
      phase :=
        if normalMode then .TransferPayload
        else if chainMode then if registerQwc ≠ 0 then .TransferPayload else .FetchTag
        else .Fault }

/-- `cancelDmacTransfer`: the state is cleared, the registers keep their values. -/
def cancelDmacTransfer (s : ToIpuDmaState) : ToIpuDmaState :=
  { registers := { s.registers with chcr := Chcr.clearStr s.registers.chcr } }

def fault (s : ToIpuDmaState) : ToIpuDmaState := { s with phase := .Fault }

/-- What the tag IDs do to TADR and the end mark, and the address of the data. -/
def decodeTag (s : ToIpuDmaState) (tag : BitVec 64) : ToIpuDmaState × BitVec 32 :=
  let tagAddressField := (tag >>> 32).setWidth 32 &&& 0xFFFFFFF0#32
  let next := s.tadr + 16#32
  match DmaTag.id tag with
  | 0 => ({ s with tadr := next, endAfterPayload := true }, tagAddressField) -- REFE
  | 1 => ({ s with tadr := next }, next) -- CNT
  | 2 => ({ s with tadr := tagAddressField }, next) -- NEXT
  | 3 | 4 => ({ s with tadr := next }, tagAddressField) -- REF, REFS
  | 5 | 6 => ({ s with endAfterPayload := true }, tagAddressField) -- CALL, RET
  | 7 => ({ s with endAfterPayload := true }, next) -- END

/-- What the tag says before its ID is looked at. -/
def readTag (s : ToIpuDmaState) (tag : BitVec 64) : ToIpuDmaState :=
  { s with
    tagId := DmaTag.id tag
    tagIrq := DmaTag.irq tag
    endAfterPayload := false
    tagsProcessed := s.tagsProcessed + 1 }

/-- The state after a tag, with the data at `dataAddress` to come. -/
def finishTag (s : ToIpuDmaState) (tag : BitVec 64) (dataAddress : BitVec 32) : ToIpuDmaState :=
  let endAfterPayload := s.endAfterPayload || (s.tie && s.tagIrq)
  publishToIpuDmaRegisters
    { s with
      endAfterPayload
      chcr := Chcr.withTag s.chcr tag
      madr := dataAddress
      qwc := DmaTag.qwc tag
      phase :=
        if DmaTag.qwc tag ≠ 0 then .TransferPayload
        else if endAfterPayload then .Finalize
        else .FetchTag }

def fetchTag (memory : DmaMemory) (s : ToIpuDmaState) : ToIpuDmaState × List ToIpuDmaEvent :=
  if !s.chainMode then (s.fault, [])
  else if kMaximumChainTags ≤ s.tagsProcessed then (s.fault, [])
  else
    match memory.ipuTag (s.tadr &&& 0xFFFFFFF0#32) with
    | none => (s.fault, [])
    | some tag =>
      let (next, dataAddress) := (s.readTag tag).decodeTag tag
      (next.finishTag tag dataAddress, [.tag (s.tadr &&& 0xFFFFFFF0#32)])

/-- The part of an advance that fills the FIFO. -/
def transferPayload (memory : DmaMemory) (ipuInputFifoQwc : ℕ) (s : ToIpuDmaState) :
    ToIpuDmaState × List ToIpuDmaEvent :=
  let slice := min s.qwc (kIpuInputFifoCapacityQwc - min ipuInputFifoQwc kIpuInputFifoCapacityQwc)
  match memory.ipuPayload s.madr slice with
  | none => (s.fault, [])
  | some data =>
    let madr := s.madr + BitVec.ofNat 32 (slice * 16)
    (publishToIpuDmaRegisters
      { s with
        madr
        qwc := s.qwc - slice
        tadr := if s.chainMode && s.tagId = 1#3 then madr else s.tadr
        phase :=
          if s.qwc - slice ≠ 0 then s.phase
          else if s.endAfterPayload then .Finalize
          else .FetchTag }, if slice = 0 then [] else [.writeIpuInputFifo data])

def advanceToIpuDma (memory : DmaMemory) (s : ToIpuDmaState) (conditions : ToIpuDmaConditions) :
    ToIpuDmaState × List ToIpuDmaEvent :=
  if !s.active then (s, [])
  else if (!s.normalMode && !s.chainMode) || s.phase = .Fault then (s.fault, [])
  else if !conditions.dmacEnabled then (s, [])
  else if s.phase = .Finalize then ({ s with active := false }, [.requestDmacCompletion])
  else if kIpuInputFifoCapacityQwc ≤ conditions.ipuInputFifoQwc then (s, [])
  else
    match s.phase with
    | .FetchTag =>
      let (s, events) := s.fetchTag memory
      if s.phase = .TransferPayload then
        let (s, delivered) := s.transferPayload memory conditions.ipuInputFifoQwc
        (s, events ++ delivered)
      else (s, events)
    | .TransferPayload => s.transferPayload memory conditions.ipuInputFifoQwc
    | _ => (s.fault, [])

end ToIpuDmaState

end Ps2Recomp
