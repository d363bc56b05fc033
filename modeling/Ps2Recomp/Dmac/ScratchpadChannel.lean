import Ps2Recomp.Dmac.IpuFifos

/-!
# The scratchpad channels (`ps2_memory.cpp`)

One advance fetches a tag and moves a slice of its payload, between the scratchpad and any address
that the CPU can reach. A source chain (`ToScratchpad`) finds its tags at TADR, a destination chain
(`FromScratchpad`) at SADR in the scratchpad.

Accesses go through `read32`, `read128` and `write128`. How an address is translated is a parameter
(`none` is an exception), and so is all that lies beyond main memory and the scratchpad
(`EeBus`): VU memory, GS and I/O registers. The registers of the channel itself are not among them.
The transfer tokens, the events and the log of faults are left out.
-/

namespace Ps2Recomp

/-! ## Accesses -/

/-- `Ps2IsEeBusErrorPhysicalAddress`. -/
def isEeBusErrorPhysicalAddress (physicalAddress : BitVec 32) : Bool :=
  physicalAddress ≥ 0x11010000#32 && physicalAddress < 0x12000000#32 ||
  physicalAddress ≥ 0x12010000#32 && physicalAddress < 0x14000000#32 ||
  physicalAddress ≥ 0x20000000#32 && physicalAddress < 0x40000000#32 ||
  physicalAddress ≥ 0x80000000#32

structure EeMemory (D : Type*) where
  rdram : ℕ → UInt8
  scratchpad : ℕ → UInt8
  devices : D

/-- What the accesses rest on. A device access may throw, and may change the devices. -/
structure EeBus (D : Type*) where
  translateAddress : BitVec 32 → (write : Bool) → (accessSize : ℕ) → Option EeTranslatedAddress
  deviceRead32 : D → BitVec 32 → Option (BitVec 32) × D
  deviceRead128 : D → BitVec 32 → Option Quadword × D
  deviceWrite128 : D → BitVec 32 → Quadword → Bool × D

/-- What an address leads to. -/
inductive EeTarget where
  | scratchpad (offset : ℕ)
  | rdram (offset : ℕ)
  | device (physicalAddress : BitVec 32)
  deriving DecidableEq, Repr

namespace EeBus

variable {D : Type*} (bus : EeBus D)

/-- The checks of an access, in the order of the source; `none` is an exception. The FIFO of the IPU
comes before all memory. -/
def locate (address : BitVec 32) (write : Bool) (accessSize : ℕ)
    (ipuFifo : Option (BitVec 32)) : Option EeTarget :=
  if address.toNat % accessSize ≠ 0 then none
  else
    match bus.translateAddress address write accessSize with
    | none => none
    | some translated =>
      let physAddr := translated.physicalAddress
      if isEeBusErrorPhysicalAddress physAddr then none
      else if ipuFifo = some physAddr then some (.device physAddr)
      else if translated.scratchpad then
        if ps2ScratchpadSize < physAddr.toNat + accessSize then none
        else some (.scratchpad physAddr.toNat)
      else if physAddr < ps2RamSize then
        if ps2RamSize.toNat < physAddr.toNat + accessSize then none
        else some (.rdram physAddr.toNat)
      else some (.device physAddr)

/-- `loadScalar<uint32_t>`. -/
def word (bytes : ℕ → UInt8) (offset : ℕ) : BitVec 32 :=
  (List.range 4).foldr (fun i word => word <<< 8 ||| (bytes (offset + i)).toBitVec.setWidth 32) 0

def read32 (memory : EeMemory D) (address : BitVec 32) : Option (BitVec 32) × EeMemory D :=
  let device (address : BitVec 32) : Option (BitVec 32) × EeMemory D :=
    let (value, devices) := bus.deviceRead32 memory.devices address
    (value, { memory with devices })
  if address.toNat % 4 ≠ 0 then (none, memory)
  else if addressInRange address 0x12000000#32 0x2000#32 then device address
  else
    match bus.locate address false 4 none with
    | none => (none, memory)
    | some (.scratchpad offset) => (some (word memory.scratchpad offset), memory)
    | some (.rdram offset) => (some (word memory.rdram offset), memory)
    | some (.device physAddr) => device physAddr

def read128 (memory : EeMemory D) (address : BitVec 32) : Option Quadword × EeMemory D :=
  match bus.locate address false 16 (some 0x10007000#32) with
  | none => (none, memory)
  | some (.scratchpad offset) => (some fun i => memory.scratchpad (offset + i), memory)
  | some (.rdram offset) => (some fun i => memory.rdram (offset + i), memory)
  | some (.device physAddr) =>
    let (value, devices) := bus.deviceRead128 memory.devices physAddr
    (value, { memory with devices })

def write128 (memory : EeMemory D) (address : BitVec 32) (value : Quadword) : Bool × EeMemory D :=
  match bus.locate address true 16 (some 0x10007010#32) with
  | none => (false, memory)
  | some (.scratchpad offset) =>
    (true, { memory with
      scratchpad := DmaMemory.writeQuadword memory.scratchpad offset value })
  | some (.rdram offset) =>
    (true, { memory with rdram := DmaMemory.writeQuadword memory.rdram offset value })
  | some (.device physAddr) =>
    let (written, devices) := bus.deviceWrite128 memory.devices physAddr value
    (written, { memory with devices })

/-- `write128(destination, read128(source))`, with whether neither threw. -/
def copy128 (memory : EeMemory D) (destination source : BitVec 32) : Bool × EeMemory D :=
  match bus.read128 memory source with
  | (none, memory) => (false, memory)
  | (some value, memory) => bus.write128 memory destination value

end EeBus

/-! ## State -/

inductive ScratchpadChannel where
  | FromScratchpad
  | ToScratchpad
  deriving DecidableEq, Repr

def PS2_SCRATCHPAD_BASE : BitVec 32 := 0x70000000#32

/-- What `publishScratchpadDmaRegisters` writes, and a start reads. -/
structure ScratchpadDmaRegisters where
  chcr : BitVec 32 := 0#32
  madr : BitVec 32 := 0#32
  qwc : ℕ := 0
  tadr : BitVec 32 := 0#32
  asr0 : BitVec 32 := 0#32
  asr1 : BitVec 32 := 0#32
  sadr : BitVec 32 := 0#32
  deriving DecidableEq, Repr

structure ScratchpadDmaState where
  registers : ScratchpadDmaRegisters := {}
  phase : SourceChainPhase := .Idle
  chcr : BitVec 32 := 0#32
  madr : BitVec 32 := 0#32
  qwc : ℕ := 0
  tadr : BitVec 32 := 0#32
  asr0 : BitVec 32 := 0#32
  asr1 : BitVec 32 := 0#32
  sadr : BitVec 32 := 0#32
  tagsProcessed : ℕ := 0
  asp : BitVec 2 := 0#2
  tagId : BitVec 3 := 0#3
  active : Bool := false
  chainMode : Bool := false
  tie : Bool := false
  tte : Bool := false
  tagIrq : Bool := false
  endAfterPayload : Bool := false
  deriving DecidableEq, Repr

namespace ScratchpadDmaState

def publishScratchpadDmaRegisters (s : ScratchpadDmaState) : ScratchpadDmaState :=
  { s with
    registers :=
      { chcr := s.chcr
        madr := s.madr
        qwc := s.qwc % 0x10000
        tadr := s.tadr
        asr0 := s.asr0
        asr1 := s.asr1
        sadr := s.sadr &&& 0x3FF0#32 } }

def startScratchpadDma (channel : ScratchpadChannel) (registers : ScratchpadDmaRegisters)
    (chcr : BitVec 32) : ScratchpadDmaState :=
  let chcr := Chcr.setStr chcr
  let qwc := registers.qwc % 0x10000
  let chainMode : Bool := Chcr.mode chcr = 1#2
  let tagId := Chcr.tagId chcr
  let tagIrq := Chcr.tagIrq chcr
  let tie := Chcr.tie chcr
  let payload : Bool := Chcr.mode chcr ≤ 1#2 && chainMode && qwc ≠ 0
  publishScratchpadDmaRegisters
    { registers
      chcr
      madr := registers.madr &&& 0x7FFFFFFF#32
      qwc
      tadr := registers.tadr &&& 0x7FFFFFFF#32
      asr0 := registers.asr0 &&& 0x7FFFFFFF#32
      asr1 := registers.asr1 &&& 0x7FFFFFFF#32
      sadr := registers.sadr &&& 0x3FF0#32
      asp := Chcr.asp chcr
      chainMode
      tie
      tte := Chcr.tte chcr
      tagId := if payload then tagId else 0#3
      tagIrq := payload && tagIrq
      active := true
      endAfterPayload :=
        if payload then
          match channel with
          | .ToScratchpad => tagId = 0#3 || tagId = 7#3 || (tie && tagIrq)
          | .FromScratchpad => tagId = 7#3 || (tie && tagIrq)
        else Chcr.mode chcr ≤ 1#2 && !chainMode
      phase :=
        if Chcr.mode chcr > 1#2 then .Fault
        else if qwc ≠ 0 then .TransferPayload
        else if chainMode then .FetchTag
        else .Finalize }

/-- What the source-chain tag IDs do to the addresses and the call stack, the address of the data,
and whether the chain ends. -/
def decodeTag (s : ScratchpadDmaState) (tagAddress : BitVec 32) (tagQwc : ℕ) :
    ScratchpadDmaState × BitVec 32 × Bool :=
  let next := s.tadr + 16#32 &&& 0x7FFFFFFF#32
  let after := next + BitVec.ofNat 32 (tagQwc * 16) &&& 0x7FFFFFFF#32
  match s.tagId with
  | 0 => ({ s with tadr := next }, tagAddress, true) -- REFE
  | 1 => ({ s with tadr := after }, next, false) -- CNT
  | 2 => ({ s with tadr := tagAddress }, next, false) -- NEXT
  | 3 | 4 => ({ s with tadr := next }, tagAddress, false) -- REF, REFS
  | 5 => -- CALL
    if s.asp = 0#2 then
      ({ s with asr0 := after, asp := 1#2, tadr := tagAddress }, next, false)
    else if s.asp = 1#2 then
      ({ s with asr1 := after, asp := 2#2, tadr := tagAddress }, next, false)
    else ({ s with tadr := tagAddress }, next, true)
  | 6 => -- RET
    if s.asp = 2#2 then ({ s with tadr := s.asr1, asr1 := 0#32, asp := 1#2 }, next, false)
    else if s.asp = 1#2 then ({ s with tadr := s.asr0, asr0 := 0#32, asp := 0#2 }, next, false)
    else (s, next, true)
  | 7 => (s, next, true) -- END

/-- What every tag says, before the channels differ. -/
def noteTag (s : ScratchpadDmaState) (tagWord0 : BitVec 32) : ScratchpadDmaState :=
  { s with
    tagId := tagWord0.extractLsb' 28 3
    tagIrq := tagWord0.getLsbD 31
    chcr := s.chcr &&& 0x0000FFFF#32 ||| tagWord0 &&& 0xFFFF0000#32
    tagsProcessed := s.tagsProcessed + 1 }

/-- The state after a tag. -/
def finishTag (s : ScratchpadDmaState) (madr : BitVec 32) (qwc : ℕ) (endChain : Bool) :
    ScratchpadDmaState :=
  let endAfterPayload := endChain || (s.tie && s.tagIrq)
  publishScratchpadDmaRegisters
    { s with
      madr
      qwc
      endAfterPayload
      phase :=
        if qwc ≠ 0 then .TransferPayload else if endAfterPayload then .Finalize else .FetchTag }

/-- How much of the payload goes at once. -/
def sliceQwc (channel : ScratchpadChannel) (s : ScratchpadDmaState) : ℕ :=
  let slice := min s.qwc 0x400
  match channel with
  | .ToScratchpad => slice
  | .FromScratchpad => min slice (0x400 - ((s.sadr &&& 0x3FFF#32) >>> 4).toNat)

end ScratchpadDmaState

/-- A channel and the memory that it moves. -/
structure ScratchpadDma (D : Type*) where
  dma : ScratchpadDmaState
  memory : EeMemory D

namespace ScratchpadDma

variable {D : Type*} (bus : EeBus D) (channel : ScratchpadChannel) (m : ScratchpadDma D)

def fault : ScratchpadDma D := { m with dma := { m.dma with phase := .Fault } }

/-! ## Tags -/

/-- The two words of a tag. A destination chain steps over it. -/
def readTag : Option (BitVec 32 × BitVec 32) × ScratchpadDma D :=
  let tagBase :=
    match channel with
    | .ToScratchpad => m.dma.tadr
    | .FromScratchpad => PS2_SCRATCHPAD_BASE + m.dma.sadr
  match bus.read32 m.memory tagBase with
  | (none, memory) => (none, { m with memory })
  | (some tagWord0, memory) =>
    match bus.read32 memory (tagBase + 4#32) with
    | (none, memory) => (none, { m with memory })
    | (some address, memory) =>
      let sadr :=
        match channel with
        | .ToScratchpad => m.dma.sadr
        | .FromScratchpad => m.dma.sadr + 16#32 &&& 0x3FFF#32
      (some (tagWord0, address &&& 0x7FFFFFFF#32), { dma := { m.dma with sadr }, memory })

/-- With TTE the tag itself goes to the scratchpad. -/
def transferTag : Bool × ScratchpadDma D :=
  if m.dma.tte then
    match bus.copy128 m.memory (PS2_SCRATCHPAD_BASE + m.dma.sadr) m.dma.tadr with
    | (false, memory) => (false, { m with memory })
    | (true, memory) =>
      (true, { dma := { m.dma with sadr := m.dma.sadr + 16#32 &&& 0x3FFF#32 }, memory })
  else (true, m)

def fetchTag : ScratchpadDma D :=
  if kMaximumChainTags ≤ m.dma.tagsProcessed then m.fault
  else
    match m.readTag bus channel with
    | (none, m) => m.fault
    | (some (tagWord0, tagAddress), m) =>
      let tagQwc := (tagWord0 &&& 0xFFFF#32).toNat
      let m := { m with dma := m.dma.noteTag tagWord0 }
      match channel with
      | .FromScratchpad =>
        if m.dma.tagId ≠ 0#3 && m.dma.tagId ≠ 1#3 && m.dma.tagId ≠ 7#3 then m.fault
        else { m with dma := m.dma.finishTag tagAddress tagQwc (m.dma.tagId = 7#3) }
      | .ToScratchpad =>
        match m.transferTag bus with
        | (false, m) => m.fault
        | (true, m) =>
          let (s, dataAddress, endChain) := m.dma.decodeTag tagAddress tagQwc
          let s := { s with chcr := Chcr.withAsp s.chcr s.asp }
          { m with dma := s.finishTag dataAddress tagQwc endChain }

/-! ## Payload -/

/-- The body of the loop over a slice, with whether nothing threw. -/
def moveQuadword : Bool × ScratchpadDma D :=
  let scratchAddress := PS2_SCRATCHPAD_BASE + m.dma.sadr
  let (moved, memory) :=
    match channel with
    | .ToScratchpad => bus.copy128 m.memory scratchAddress m.dma.madr
    | .FromScratchpad => bus.copy128 m.memory m.dma.madr scratchAddress
  if moved then
    (true,
      { dma :=
          { m.dma with
            madr := m.dma.madr + 16#32 &&& 0x7FFFFFFF#32
            sadr := m.dma.sadr + 16#32 &&& 0x3FFF#32 }
        memory })
  else (false, { m with memory })

def moveQuadwords : ℕ → ScratchpadDma D → Bool × ScratchpadDma D
  | 0, m => (true, m)
  | slice + 1, m =>
    match m.moveQuadword bus channel with
    | (false, m) => (false, m)
    | (true, m) => moveQuadwords slice m

/-- The part of an advance that moves a slice. -/
def transferPayload : ScratchpadDma D :=
  let slice := m.dma.sliceQwc channel
  if slice = 0 then m.fault
  else
    match moveQuadwords bus channel slice m with
    | (false, m) => m.fault
    | (true, m) =>
      let qwc := m.dma.qwc - slice
      { m with
        dma := ScratchpadDmaState.publishScratchpadDmaRegisters
          { m.dma with
            qwc
            phase :=
              if qwc ≠ 0 then m.dma.phase
              else if m.dma.endAfterPayload then .Finalize
              else .FetchTag } }

def advanceScratchpadDma : ScratchpadDma D :=
  if !m.dma.active then m
  else
    match m.dma.phase with
    | .Fault | .Idle => m.fault
    | .Finalize => { m with dma := { m.dma with active := false } }
    | .FetchTag =>
      let m := m.fetchTag bus channel
      if m.dma.phase = .TransferPayload then m.transferPayload bus channel else m
    | .TransferPayload => m.transferPayload bus channel

end ScratchpadDma

end Ps2Recomp
