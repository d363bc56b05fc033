import Ps2Recomp.Lib.RecordCodec
import Ps2Recomp.Lib.FiniteIndices

/-!
# The save state of the memory: what is written and read

Model of `PS2Memory::encodeSaveState` and of what `PS2Memory::decodeSaveState` reads
(`ps2_memory_save_state.cpp`). The records have the members that are saved, in the order in which
they are.

* An enumeration is the number of the enumerator, below their count: `Fin 5` stands for
  `Vif0DmaPhase`, whose last one is `Fault`, 4. An index that is checked against a capacity is
  below it.
* The `Reader` and the `Writer` are those of `ByteCodec`.
* `decodeSaveState` stores some members as it reads them; what a rejected payload leaves behind is
  left out.
-/

namespace Ps2Recomp

open ByteCodec

namespace MemoryImage

def kMemoryStateVersion : UInt32 := 1
def kMaximumIoRegisterCount : ℕ := 65536
def kMaximumTlbEntryCount : ℕ := 256
def kMaximumDeferredBytes : ℕ := 64 * 1024 * 1024
def kMaximumDeferredSegmentCount : ℕ := 2 ^ 20
def kMaximumPath3PacketCount : ℕ := 2 ^ 16
def kMaximumPendingDmacCount : ℕ := 4096

def PS2_RAM_SIZE : ℕ := 32 * 1024 * 1024
def PS2_SCRATCHPAD_SIZE : ℕ := 16 * 1024
def PS2_IOP_RAM_SIZE : ℕ := 2 * 1024 * 1024
def PS2_GS_VRAM_SIZE : ℕ := 4 * 1024 * 1024
def PS2_VU0_CODE_SIZE : ℕ := 4 * 1024
def PS2_VU0_DATA_SIZE : ℕ := 4 * 1024
def PS2_VU1_CODE_SIZE : ℕ := 16 * 1024
def PS2_VU1_DATA_SIZE : ℕ := 16 * 1024

/-! ## Records -/

@[ext] structure DmacTransferToken where
  channel : Fin 10
  generation : UInt64
  deriving Inhabited

@[ext] structure VIFRegisters where
  stat : UInt32
  fbrst : UInt32
  err : UInt32
  mark : UInt32
  cycle : UInt32
  mode : UInt32
  num : UInt32
  mask : UInt32
  code : UInt32
  itops : UInt32
  base : UInt32
  ofst : UInt32
  tops : UInt32
  itop : UInt32
  top : UInt32
  row : List.Vector UInt32 4
  col : List.Vector UInt32 4
  deriving Inhabited

@[ext] structure DMARegisters where
  chcr : UInt32
  madr : UInt32
  qwc : UInt32
  tadr : UInt32
  asr0 : UInt32
  asr1 : UInt32
  sadr : UInt32
  deriving Inhabited

@[ext] structure GSRegisters where
  pmode : UInt64
  smode1 : UInt64
  smode2 : UInt64
  srfsh : UInt64
  synch1 : UInt64
  synch2 : UInt64
  syncv : UInt64
  dispfb1 : UInt64
  display1 : UInt64
  dispfb2 : UInt64
  display2 : UInt64
  extbuf : UInt64
  extdata : UInt64
  extwrite : UInt64
  bgcolor : UInt64
  csr : UInt64
  imr : UInt64
  busdir : UInt64
  siglblid : UInt64
  deriving Inhabited

@[ext] structure EeTlbEntry where
  pageMask : UInt32
  entryHi : UInt32
  entryLo0 : UInt32
  entryLo1 : UInt32
  deriving Inhabited

@[ext] structure Vif0DmaState where
  transfer : DmacTransferToken
  phase : Fin 5
  stall : Fin 7
  madr : UInt32
  qwc : UInt32
  tadr : UInt32
  asr0 : UInt32
  asr1 : UInt32
  bufferedPayloadBytes : UInt32
  payloadByteOffset : UInt32
  tagsProcessed : UInt32
  asp : UInt8
  tagId : UInt8
  active : Bool
  eventManaged : Bool
  chainMode : Bool
  tie : Bool
  tte : Bool
  tagIrq : Bool
  endAfterPayload : Bool
  faultReported : Bool
  deriving Inhabited

@[ext] structure Vif1DmaState where
  transfer : DmacTransferToken
  phase : Fin 5
  stall : Fin 8
  madr : UInt32
  qwc : UInt32
  tadr : UInt32
  asr0 : UInt32
  asr1 : UInt32
  tagsProcessed : UInt32
  asp : UInt8
  tagId : UInt8
  active : Bool
  eventManaged : Bool
  chainMode : Bool
  tie : Bool
  tte : Bool
  tagIrq : Bool
  endAfterPayload : Bool
  faultReported : Bool
  deriving Inhabited

@[ext] structure GifDmaState where
  transfer : DmacTransferToken
  phase : Fin 5
  stall : Fin 5
  chcr : UInt32
  madr : UInt32
  qwc : UInt32
  tadr : UInt32
  asr0 : UInt32
  asr1 : UInt32
  tagsProcessed : UInt32
  asp : UInt8
  tagId : UInt8
  active : Bool
  eventManaged : Bool
  chainMode : Bool
  tie : Bool
  tagIrq : Bool
  endAfterPayload : Bool
  faultReported : Bool
  copyCounted : Bool
  fifoData : Bytes
  directCallbackData : Bytes
  deriving Inhabited

@[ext] structure FromIpuDmaState where
  transfer : DmacTransferToken
  phase : Fin 4
  stall : Fin 5
  chcr : UInt32
  madr : UInt32
  qwc : UInt32
  active : Bool
  eventManaged : Bool
  normalMode : Bool
  zeroQwcStart : Bool
  faultReported : Bool
  deriving Inhabited

@[ext] structure ToIpuDmaState where
  transfer : DmacTransferToken
  phase : Fin 5
  stall : Fin 6
  chcr : UInt32
  madr : UInt32
  qwc : UInt32
  tadr : UInt32
  tagsProcessed : UInt32
  tagId : UInt8
  active : Bool
  eventManaged : Bool
  normalMode : Bool
  chainMode : Bool
  tie : Bool
  tagIrq : Bool
  endAfterPayload : Bool
  faultReported : Bool
  deriving Inhabited

@[ext] structure ScratchpadDmaState where
  transfer : DmacTransferToken
  phase : Fin 5
  chcr : UInt32
  madr : UInt32
  qwc : UInt32
  tadr : UInt32
  asr0 : UInt32
  asr1 : UInt32
  sadr : UInt32
  tagsProcessed : UInt32
  asp : UInt8
  tagId : UInt8
  active : Bool
  eventManaged : Bool
  chainMode : Bool
  tie : Bool
  tte : Bool
  tagIrq : Bool
  endAfterPayload : Bool
  faultReported : Bool
  deriving Inhabited

@[ext] structure DmacChannelLifecycle where
  phase : Fin 3
  generation : UInt64
  deriving Inhabited

@[ext] structure DmacCompletionRequest where
  transfer : DmacTransferToken
  readySequence : UInt64
  deriving Inhabited

@[ext] structure DmacPendingInterrupt where
  source : Fin 10
  cause : UInt32
  channelGeneration : UInt64
  eventSequence : UInt64
  publicationSequence : UInt64
  deriving Inhabited

@[ext] structure EeCounterSnapshot where
  count : UInt32
  mode : UInt16
  target : UInt16
  hold : UInt16
  rate : UInt32
  startCycle : UInt64
  targetAfterOverflow : Bool
  deriving Inhabited

@[ext] structure EeCounterVideoTiming where
  renderCycles : UInt64
  blankCycles : UInt64
  hRenderCycles : UInt32
  hBlankCycles : UInt32
  hSyncErrorCycles : UInt32
  deriving Inhabited

@[ext] structure EeCounterBankSnapshot where
  counters : List.Vector EeCounterSnapshot 4
  videoTiming : EeCounterVideoTiming
  currentCycle : UInt64
  hSyncStartCycle : UInt64
  vSyncStartCycle : UInt64
  hSyncDeltaCycles : UInt32
  vSyncDeltaCycles : UInt64
  hSyncPhase : Fin 2
  vSyncPhase : Fin 2
  deriving Inhabited

@[ext] structure MemoryBlocks where
  rdram : List.Vector UInt8 PS2_RAM_SIZE
  scratchpad : List.Vector UInt8 PS2_SCRATCHPAD_SIZE
  iop_ram : List.Vector UInt8 PS2_IOP_RAM_SIZE
  gsVRAM : List.Vector UInt8 PS2_GS_VRAM_SIZE
  vu0Code : List.Vector UInt8 PS2_VU0_CODE_SIZE
  vu0Data : List.Vector UInt8 PS2_VU0_DATA_SIZE
  vu1Code : List.Vector UInt8 PS2_VU1_CODE_SIZE
  vu1Data : List.Vector UInt8 PS2_VU1_DATA_SIZE
  deriving Inhabited

@[ext] structure MemoryCounts where
  seenGifCopy : Bool
  dmaStartCount : UInt64
  gifCopyCount : UInt64
  gsWriteCount : UInt64
  vifWriteCount : UInt64
  vu0CodeGeneration : UInt64
  vu1CodeGeneration : UInt64
  deriving Inhabited

@[ext] structure Vif1StreamSegment where
  byteCount : UInt64
  firstByteOffset : Fin 16
  deriving Inhabited

/-- A FIFO of the IPU: eight quadwords. -/
@[ext] structure IpuFifo where
  quadwords : List.Vector UInt8 128
  readIndex : Fin 8
  writeIndex : Fin 8
  qwc : Fin 9
  deriving Inhabited

/-- The flags and bytes of the streams, in front of the segments. -/
@[ext] structure VifStreams where
  path3Masked : Bool
  gifModePath3Masked : Bool
  vif0WaitingForVu : Bool
  vif0DeferredData : Bytes
  vif1PendingPath2DirectQwc : UInt32
  vif1PendingPath2DirectHl : Bool
  vif1PendingIrqAfterCommand : Bool
  vif1WaitingForVu : Bool
  vif1DeferredData : Bytes
  deriving Inhabited

end MemoryImage

open MemoryImage in
/-- The members that are saved. -/
@[ext] structure MemoryImage extends MemoryBlocks, MemoryCounts, VifStreams where
  ioRegisters : List (UInt32 × UInt32)
  gs_regs : GSRegisters
  vif0_regs : MemoryImage.VIFRegisters
  vif1_regs : MemoryImage.VIFRegisters
  dma_regs : List.Vector DMARegisters 10
  tlbEntries : List MemoryImage.EeTlbEntry
  postBiosTlbStateConfigured : Bool
  tlbMappingGeneration : UInt64
  vif1DeferredSegments : List MemoryImage.Vif1StreamSegment
  vif1NextByteOffset : Fin 16
  path3MaskedFifo : List Bytes
  vif0Dma : MemoryImage.Vif0DmaState
  vif1Dma : Vif1DmaState
  gifDma : MemoryImage.GifDmaState
  fromIpuDma : MemoryImage.FromIpuDmaState
  toIpuDma : MemoryImage.ToIpuDmaState
  ipuOutputFifo : MemoryImage.IpuFifo
  ipuInputFifo : MemoryImage.IpuFifo
  scratchpadDma : List.Vector MemoryImage.ScratchpadDmaState 2
  dmacChannels : List.Vector MemoryImage.DmacChannelLifecycle 10
  readyDmacCompletions : List MemoryImage.DmacCompletionRequest
  pendingDmacInterrupts : List MemoryImage.DmacPendingInterrupt
  dmacReadySequence : UInt64
  dmacPublicationSequence : UInt64
  eeCounters : MemoryImage.EeCounterBankSnapshot
  deriving Inhabited

end Ps2Recomp
