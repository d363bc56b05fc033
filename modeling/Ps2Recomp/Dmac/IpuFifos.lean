import Ps2Recomp.Dmac.ToIpuChannel
import Ps2Recomp.Lib.RingBuffer

/-!
# The FIFOs of the IPU (`ps2_memory.cpp`)

Two rings of eight quadwords. The decoder writes the output FIFO; the CPU and the channel from the
IPU read it. The CPU and the channel to the IPU write the input FIFO, which nothing reads yet. Where
the source has a pointer to `qwc` quadwords there is the list of them.

What decides outside is an argument: whether the scheduler takes an event (`scheduled`), and whether
the transfer is still the one of its channel (`current`, `progressDmacTransfer`). The FIFO counts in
IPU_CTRL, STADR, the delays and the log of faults are left out. Memory is allocated.
-/

namespace Ps2Recomp

def kIpuOutputFifoCapacityQwc : ℕ := 8

abbrev Quadword := Fin 16 → UInt8

/-! ## The channel from the IPU -/

inductive FromIpuDmaPhase where
  | Idle
  | TransferPayload
  | Finalize
  | Fault
  deriving DecidableEq, Repr

inductive FromIpuDmaStallReason where
  | None
  | OutputFifoEmpty
  | DmacDisabled
  | UnsupportedMode
  | Fault
  deriving DecidableEq, Repr

structure FromIpuDmaState where
  registers : DmacChannelRegisters := {}
  phase : FromIpuDmaPhase := .Idle
  stall : FromIpuDmaStallReason := .None
  chcr : BitVec 32 := 0#32
  madr : BitVec 32 := 0#32
  qwc : ℕ := 0
  active : Bool := false
  eventManaged : Bool := false
  normalMode : Bool := false
  zeroQwcStart : Bool := false
  deriving DecidableEq, Repr

structure FromIpuDmaAdvanceResult where
  phase : FromIpuDmaPhase
  stall : FromIpuDmaStallReason
  active : Bool
  transferredQwc : ℕ := 0
  progressed : Bool := false
  completed : Bool := false
  deriving DecidableEq, Repr

namespace FromIpuDmaState

variable (s : FromIpuDmaState)

def publishFromIpuDmaRegisters : FromIpuDmaState :=
  { s with
    registers :=
      { s.registers with
        chcr := if s.active then Chcr.setStr s.chcr else Chcr.clearStr s.chcr
        madr := s.madr
        qwc := s.qwc % 0x10000 } }

def clearFromIpuDmaState : FromIpuDmaState := { registers := s.registers }

def startFromIpuDma (registers : DmacChannelRegisters) (chcr : BitVec 32) (dmacEnabled : Bool) :
    FromIpuDmaState :=
  let registerQwc := registers.qwc % 0x10000
  let normalMode : Bool := Chcr.mode chcr = 0#2
  publishFromIpuDmaRegisters
    { registers
      chcr := Chcr.setStr chcr
      madr := registers.madr &&& 0xFFFFFFF0#32
      zeroQwcStart := registerQwc = 0
      qwc := if registerQwc = 0 then 0x10000 else registerQwc
      normalMode
      active := true
      phase := if normalMode then .TransferPayload else .Fault
      stall :=
        if !dmacEnabled then .DmacDisabled else if normalMode then .None else .UnsupportedMode }

end FromIpuDmaState

/-! ## Memory -/

namespace DmaMemory

def ipuScratch (address : BitVec 32) : Bool :=
  let physicalAddress := address &&& 0x1FFFFFF0#32
  address.getLsbD 31 || 0x10000000 ≤ physicalAddress.toNat && physicalAddress.toNat < 0x10004000

/-- The check that `copyFromIpuDmaPayload` makes of each address. -/
def fromIpuDestination (address : BitVec 32) : Bool :=
  let physicalAddress := address &&& 0x1FFFFFF0#32
  if ipuScratch address then true
  else if physicalAddress.toNat < ps2RamSize.toNat then
    physicalAddress.toNat ≤ ps2RamSize.toNat - 16
  else physicalAddress.toNat < 0x10000000

/-- The first loop of `copyFromIpuDmaPayload`. -/
def fromIpuDestinations (currentAddress : BitVec 32) : ℕ → Bool
  | 0 => true
  | qwc + 1 =>
    fromIpuDestination currentAddress && fromIpuDestinations (currentAddress + 16#32) qwc

def writeQuadword (bytes : ℕ → UInt8) (offset : ℕ) (quadword : Quadword) : ℕ → UInt8 :=
  fun address =>
    if h : offset ≤ address ∧ address < offset + 16 then quadword ⟨address - offset, by omega⟩
    else bytes address

/-- A quadword of the channel from the IPU; what is not populated swallows it. -/
def storeQuadword (memory : DmaMemory) (address : BitVec 32) (quadword : Quadword) : DmaMemory :=
  let physicalAddress := (address &&& 0x1FFFFFF0#32).toNat
  if ipuScratch address then
    { memory with
      scratchpad := writeQuadword memory.scratchpad (address &&& 0x3FF0#32).toNat quadword }
  else if physicalAddress < ps2RamSize.toNat then
    { memory with rdram := writeQuadword memory.rdram physicalAddress quadword }
  else memory

/-- The second loop of `copyFromIpuDmaPayload`. -/
def storeQuadwords (memory : DmaMemory) (currentAddress : BitVec 32) : List Quadword → DmaMemory
  | [] => memory
  | quadword :: rest =>
    (memory.storeQuadword currentAddress quadword).storeQuadwords (currentAddress + 16#32) rest

end DmaMemory

def quadwords (data : List UInt8) (qwc : ℕ) : List Quadword :=
  (List.range qwc).map fun index byte => data.getD (16 * index + byte) 0

/-! ## The FIFOs -/

inductive IpuFifo where
  | output
  | input
  deriving DecidableEq, Repr

/-- What happens to a FIFO. -/
abbrev IpuEvent := IpuFifo × RingBuffer.Event Quadword

/-- What of `PS2Memory` the FIFOs and their channels are. -/
structure IpuDma where
  outputFifo : RingBuffer Quadword := { slots := fun _ _ => 0 }
  inputFifo : RingBuffer Quadword := { slots := fun _ _ => 0 }
  fromIpuDma : FromIpuDmaState := {}
  toIpuDma : ToIpuDmaState := { registers := {} }
  memory : DmaMemory
  dmacEnabled : Bool := false

namespace IpuDma

variable (m : IpuDma)

def fifo : IpuFifo → RingBuffer Quadword
  | .output => m.outputFifo
  | .input => m.inputFifo

def capacity : IpuFifo → ℕ
  | .output => kIpuOutputFifoCapacityQwc
  | .input => kIpuInputFifoCapacityQwc

def entering (fifo : IpuFifo) (data : List Quadword) : List IpuEvent :=
  data.map fun quadword => (fifo, .entered quadword)

def leaving (fifo : IpuFifo) (data : List Quadword) : List IpuEvent :=
  data.map fun quadword => (fifo, .left quadword)

def clearIpuOutputFifo : IpuDma := { m with outputFifo := { slots := fun _ _ => 0 } }

def clearIpuInputFifo : IpuDma := { m with inputFifo := { slots := fun _ _ => 0 } }

def readIpuOutputFifo (qwc : ℕ) : List Quadword × IpuDma :=
  if qwc = 0 then ([], m)
  else
    let (data, outputFifo) := m.outputFifo.read kIpuOutputFifoCapacityQwc qwc
    (data, { m with outputFifo })

def writeIpuInputFifo (data : List Quadword) : ℕ × IpuDma :=
  if data.length = 0 then (0, m)
  else
    let (accepted, inputFifo) := m.inputFifo.write kIpuInputFifoCapacityQwc data
    (accepted, { m with inputFifo })

/-! ## Advances of the channel from the IPU -/

/-- Whether the slice was delivered. -/
def copyFromIpuDmaPayload (destinationAddress : BitVec 32) (qwc : ℕ) :
    Bool × IpuDma × List IpuEvent :=
  if qwc = 0 then (true, m, [])
  else if m.outputFifo.count < qwc || kIpuOutputFifoCapacityQwc < qwc then (false, m, [])
  else if !DmaMemory.fromIpuDestinations destinationAddress qwc then (false, m, [])
  else
    let (payload, m) := m.readIpuOutputFifo qwc
    if payload.length ≠ qwc then (false, m, leaving .output payload)
    else
      (true, { m with memory := m.memory.storeQuadwords destinationAddress payload },
        leaving .output payload)

/-- The fault of `advanceFromIpuDma`, with the stall that is reported. -/
def faultFromIpuDma (s : FromIpuDmaState) (stall : FromIpuDmaStallReason) :
    FromIpuDmaAdvanceResult × IpuDma :=
  ({ phase := .Fault, stall, active := true },
    { m with fromIpuDma := { s with phase := .Fault, stall } })

/-- The part of an advance that empties the FIFO. -/
def transferFromIpuPayload (result : FromIpuDmaAdvanceResult) (s : FromIpuDmaState) :
    FromIpuDmaAdvanceResult × IpuDma × List IpuEvent :=
  if m.outputFifo.count = 0 then
    if s.zeroQwcStart && s.qwc = 0x10000 then
      let s := { s with qwc := 0, phase := .Finalize }.publishFromIpuDmaRegisters
      ({ result with completed := true, progressed := true, active := false, phase := .Finalize },
        { m with fromIpuDma := { s with active := false } }, [])
    else
      ({ result with stall := .OutputFifoEmpty, active := true },
        { m with fromIpuDma := { s with stall := .OutputFifoEmpty } }, [])
  else
    let sliceQwc := min s.qwc m.outputFifo.count
    if sliceQwc = 0 then
      let (result, m) := m.faultFromIpuDma s .Fault
      (result, m, [])
    else
      let (delivered, m, events) := m.copyFromIpuDmaPayload s.madr sliceQwc
      if !delivered then
        let (result, m) := m.faultFromIpuDma s .Fault
        (result, m, events)
      else
        let qwc := s.qwc - sliceQwc
        let s :=
          { s with
            zeroQwcStart := false
            madr := s.madr + BitVec.ofNat 32 (sliceQwc * 16)
            qwc
            phase := if qwc = 0 then .Finalize else s.phase
            stall := if qwc = 0 then s.stall else .OutputFifoEmpty }.publishFromIpuDmaRegisters
        ({ result with
            progressed := true
            transferredQwc := sliceQwc
            phase := s.phase
            stall := s.stall
            active := true },
          { m with fromIpuDma := s }, events)

def advanceFromIpuDma (current : Bool) : FromIpuDmaAdvanceResult × IpuDma × List IpuEvent :=
  let s := m.fromIpuDma
  let result : FromIpuDmaAdvanceResult :=
    { phase := s.phase, stall := s.stall, active := s.active }
  if !s.active then (result, m, [])
  else if !current then
    ({ result with active := false, phase := .Idle },
      { m with fromIpuDma := s.clearFromIpuDmaState }, [])
  else
    let s := { s with eventManaged := false }
    if !s.normalMode then
      let (result, m) := m.faultFromIpuDma s .UnsupportedMode
      (result, m, [])
    else if s.phase = .Fault then
      let (result, m) := m.faultFromIpuDma s .Fault
      (result, m, [])
    else if !m.dmacEnabled then
      ({ result with stall := .DmacDisabled },
        { m with fromIpuDma := { s with stall := .DmacDisabled } }, [])
    else
      let s := { s with stall := .None }
      match s.phase with
      | .Finalize =>
        ({ result with completed := true, progressed := true, active := false, phase := .Finalize },
          { m with fromIpuDma := { s with active := false } }, [])
      | .TransferPayload => m.transferFromIpuPayload result s
      | _ =>
        let (result, m) := m.faultFromIpuDma s .Fault
        (result, m, [])

/-- `drainFromIpuDmaCompatibility` with the transitions that are left. -/
def drainFromIpuDma (current : Bool) : ℕ → IpuDma → IpuDma × List IpuEvent
  | 0, m => (m, [])
  | transitions + 1, m =>
    if !m.fromIpuDma.active then (m, [])
    else
      let (advance, m, events) := m.advanceFromIpuDma current
      if !advance.active || advance.completed || advance.phase = .Fault then (m, events)
      else if advance.stall ≠ .None then (m, events)
      else if !advance.progressed then (m, events)
      else
        let (m, more) := drainFromIpuDma current transitions m
        (m, events ++ more)

def drainFromIpuDmaCompatibility (current : Bool) : IpuDma × List IpuEvent :=
  drainFromIpuDma current 131072 m

def wakeFromIpuDma (scheduled current : Bool) : IpuDma × List IpuEvent :=
  let s := m.fromIpuDma
  if !s.active then (m, [])
  else if !m.dmacEnabled then ({ m with fromIpuDma := { s with stall := .DmacDisabled } }, [])
  else if !s.normalMode then ({ m with fromIpuDma := { s with stall := .UnsupportedMode } }, [])
  else if s.phase = .TransferPayload && m.outputFifo.count = 0 &&
      !(s.zeroQwcStart && s.qwc = 0x10000) then
    ({ m with fromIpuDma := { s with stall := .OutputFifoEmpty } }, [])
  else if s.eventManaged then ({ m with fromIpuDma := { s with stall := .None } }, [])
  else
    let m := { m with fromIpuDma := { s with stall := .None, eventManaged := scheduled } }
    if scheduled then (m, []) else m.drainFromIpuDmaCompatibility current

/-- The decoder writes, and the channel that waited goes on. -/
def writeIpuOutputFifo (data : List Quadword) (scheduled current : Bool) :
    ℕ × IpuDma × List IpuEvent :=
  if data.length = 0 then (0, m, [])
  else
    let (accepted, outputFifo) := m.outputFifo.write kIpuOutputFifoCapacityQwc data
    let m := { m with outputFifo }
    let entered := entering .output (data.take accepted)
    if accepted ≠ 0 && m.fromIpuDma.active && m.fromIpuDma.phase = .TransferPayload then
      let (m, events) := m.wakeFromIpuDma scheduled current
      (accepted, m, entered ++ events)
    else (accepted, m, entered)

/-! ## Advances of the channel to the IPU -/

/-- `copyToIpuDmaPayload`, with whether the slice was delivered. -/
def copyToIpuDmaPayload (sourceAddress : BitVec 32) (qwc : ℕ) : Bool × IpuDma :=
  if qwc = 0 then (true, m)
  else if kIpuInputFifoCapacityQwc - min m.inputFifo.count kIpuInputFifoCapacityQwc < qwc then
    (false, m)
  else
    match m.memory.ipuPayload sourceAddress qwc with
    | none => (false, m)
    | some payload =>
      let (accepted, m) := m.writeIpuInputFifo (quadwords payload qwc)
      (accepted = qwc, m)

/-- The payload that an advance of the channel delivers goes into the FIFO. -/
def deliver (m : IpuDma) : List ToIpuDmaEvent → IpuDma × List IpuEvent
  | [] => (m, [])
  | .writeIpuInputFifo payload :: rest =>
    let data := quadwords payload (payload.length / 16)
    let (accepted, m) := m.writeIpuInputFifo data
    let (m, events) := deliver m rest
    (m, entering .input (data.take accepted) ++ events)
  | _ :: rest => deliver m rest

def advanceToIpuDma (current : Bool) : IpuDma × List IpuEvent :=
  if m.toIpuDma.active && !current then
    ({ m with toIpuDma := { registers := m.toIpuDma.registers } }, [])
  else
    let conditions : ToIpuDmaConditions :=
      { dmacEnabled := m.dmacEnabled, ipuInputFifoQwc := m.inputFifo.count }
    let (toIpuDma, events) := m.toIpuDma.advanceToIpuDma m.memory conditions
    deliver { m with toIpuDma } events

end IpuDma

/-! ## Runs -/

inductive IpuOp where
  | readIpuOutputFifo (qwc : ℕ)
  | writeIpuOutputFifo (data : List Quadword) (scheduled current : Bool)
  | writeIpuInputFifo (data : List Quadword)
  | clearIpuOutputFifo
  | clearIpuInputFifo
  | advanceFromIpuDma (current : Bool)
  | advanceToIpuDma (current : Bool)
  | wakeFromIpuDma (scheduled current : Bool)
  | startFromIpuDma (registers : DmacChannelRegisters) (chcr : BitVec 32)
  | startToIpuDma (registers : DmacChannelRegisters) (chcr : BitVec 32)
  | cancelFromIpuDma
  | cancelToIpuDma
  | setFromIpuDmaEventPending (pending : Bool)
  | setDmacEnabled (enabled : Bool)
  | storeMemory (memory : DmaMemory)

namespace IpuDma

/-- The state after an operation, and what it did to the FIFOs. -/
def perform (m : IpuDma) : IpuOp → IpuDma × List IpuEvent
  | .readIpuOutputFifo qwc =>
    let (data, m) := m.readIpuOutputFifo qwc
    (m, leaving .output data)
  | .writeIpuOutputFifo data scheduled current => (m.writeIpuOutputFifo data scheduled current).2
  | .writeIpuInputFifo data =>
    let (accepted, m) := m.writeIpuInputFifo data
    (m, entering .input (data.take accepted))
  | .clearIpuOutputFifo => (m.clearIpuOutputFifo, [(.output, .cleared)])
  | .clearIpuInputFifo => (m.clearIpuInputFifo, [(.input, .cleared)])
  | .advanceFromIpuDma current => (m.advanceFromIpuDma current).2
  | .advanceToIpuDma current => m.advanceToIpuDma current
  | .wakeFromIpuDma scheduled current => m.wakeFromIpuDma scheduled current
  | .startFromIpuDma registers chcr =>
    ({ m with fromIpuDma := .startFromIpuDma registers chcr m.dmacEnabled }, [])
  | .startToIpuDma registers chcr => ({ m with toIpuDma := .startToIpuDma registers chcr }, [])
  | .cancelFromIpuDma => ({ m with fromIpuDma := m.fromIpuDma.clearFromIpuDmaState }, [])
  | .cancelToIpuDma => ({ m with toIpuDma := m.toIpuDma.cancelDmacTransfer }, [])
  | .setFromIpuDmaEventPending pending =>
    let s := m.fromIpuDma
    ({ m with
        fromIpuDma := { s with eventManaged := if s.active then pending else s.eventManaged } }, [])
  | .setDmacEnabled enabled => ({ m with dmacEnabled := enabled }, [])
  | .storeMemory memory => ({ m with memory }, [])

def step (m : IpuDma) (op : IpuOp) : IpuDma := (m.perform op).1

def events (m : IpuDma) (op : IpuOp) : List IpuEvent := (m.perform op).2

end IpuDma

end Ps2Recomp
