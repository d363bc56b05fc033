import Ps2Recomp.SaveState.MemoryImage

/-!
# The save state of the memory: the payload

`PS2Memory::encodeSaveState` and the reads of `PS2Memory::decodeSaveState`
(`ps2_memory_save_state.cpp`), record by record: what `writeMemory` lists, `readMemory` reads in the
same order, with the checks that `decodeSaveState` makes in between.
-/

namespace Ps2Recomp

open ByteCodec

namespace MemoryImage

/-! ## Records -/

def writeToken (value : DmacTransferToken) : Bytes :=
  [writeFin value.channel,
    writeU64 value.generation].flatten

def readToken : ByteReader DmacTransferToken := do
  let channel ← readFin 10
  let generation ← readU64
  return { channel, generation }

def writeVifRegisters (value : VIFRegisters) : Bytes :=
  [writeU32 value.stat,
    writeU32 value.fbrst,
    writeU32 value.err,
    writeU32 value.mark,
    writeU32 value.cycle,
    writeU32 value.mode,
    writeU32 value.num,
    writeU32 value.mask,
    writeU32 value.code,
    writeU32 value.itops,
    writeU32 value.base,
    writeU32 value.ofst,
    writeU32 value.tops,
    writeU32 value.itop,
    writeU32 value.top,
    writeVector writeU32 value.row,
    writeVector writeU32 value.col].flatten

def readVifRegisters : ByteReader VIFRegisters := do
  let stat ← readU32
  let fbrst ← readU32
  let err ← readU32
  let mark ← readU32
  let cycle ← readU32
  let mode ← readU32
  let num ← readU32
  let mask ← readU32
  let code ← readU32
  let itops ← readU32
  let base ← readU32
  let ofst ← readU32
  let tops ← readU32
  let itop ← readU32
  let top ← readU32
  let row ← readVector readU32 4
  let col ← readVector readU32 4
  return {
    stat, fbrst, err, mark, cycle, mode, num, mask, code, itops, base, ofst, tops, itop, top, row
    col }

def writeDmaRegisters (value : DMARegisters) : Bytes :=
  [writeU32 value.chcr,
    writeU32 value.madr,
    writeU32 value.qwc,
    writeU32 value.tadr,
    writeU32 value.asr0,
    writeU32 value.asr1,
    writeU32 value.sadr].flatten

def readDmaRegisters : ByteReader DMARegisters := do
  let chcr ← readU32
  let madr ← readU32
  let qwc ← readU32
  let tadr ← readU32
  let asr0 ← readU32
  let asr1 ← readU32
  let sadr ← readU32
  return { chcr, madr, qwc, tadr, asr0, asr1, sadr }

def writeGsRegisters (value : GSRegisters) : Bytes :=
  [writeU64 value.pmode,
    writeU64 value.smode1,
    writeU64 value.smode2,
    writeU64 value.srfsh,
    writeU64 value.synch1,
    writeU64 value.synch2,
    writeU64 value.syncv,
    writeU64 value.dispfb1,
    writeU64 value.display1,
    writeU64 value.dispfb2,
    writeU64 value.display2,
    writeU64 value.extbuf,
    writeU64 value.extdata,
    writeU64 value.extwrite,
    writeU64 value.bgcolor,
    writeU64 value.csr,
    writeU64 value.imr,
    writeU64 value.busdir,
    writeU64 value.siglblid].flatten

def readGsRegisters : ByteReader GSRegisters := do
  let pmode ← readU64
  let smode1 ← readU64
  let smode2 ← readU64
  let srfsh ← readU64
  let synch1 ← readU64
  let synch2 ← readU64
  let syncv ← readU64
  let dispfb1 ← readU64
  let display1 ← readU64
  let dispfb2 ← readU64
  let display2 ← readU64
  let extbuf ← readU64
  let extdata ← readU64
  let extwrite ← readU64
  let bgcolor ← readU64
  let csr ← readU64
  let imr ← readU64
  let busdir ← readU64
  let siglblid ← readU64
  return {
    pmode, smode1, smode2, srfsh, synch1, synch2, syncv, dispfb1, display1, dispfb2, display2
    extbuf, extdata, extwrite, bgcolor, csr, imr, busdir, siglblid }

def writeTlbEntry (value : EeTlbEntry) : Bytes :=
  [writeU32 value.pageMask,
    writeU32 value.entryHi,
    writeU32 value.entryLo0,
    writeU32 value.entryLo1].flatten

def readTlbEntry : ByteReader EeTlbEntry := do
  let pageMask ← readU32
  let entryHi ← readU32
  let entryLo0 ← readU32
  let entryLo1 ← readU32
  return { pageMask, entryHi, entryLo0, entryLo1 }

def writeVif0Dma (state : Vif0DmaState) : Bytes :=
  [writeToken state.transfer,
    writeFin state.phase,
    writeFin state.stall,
    writeU32 state.madr,
    writeU32 state.qwc,
    writeU32 state.tadr,
    writeU32 state.asr0,
    writeU32 state.asr1,
    writeU32 state.bufferedPayloadBytes,
    writeU32 state.payloadByteOffset,
    writeU32 state.tagsProcessed,
    writeU8 state.asp,
    writeU8 state.tagId,
    writeBool state.active,
    writeBool state.eventManaged,
    writeBool state.chainMode,
    writeBool state.tie,
    writeBool state.tte,
    writeBool state.tagIrq,
    writeBool state.endAfterPayload,
    writeBool state.faultReported].flatten

def readVif0Dma : ByteReader Vif0DmaState := do
  let transfer ← readToken
  let phase ← readFin 5
  let stall ← readFin 7
  let madr ← readU32
  let qwc ← readU32
  let tadr ← readU32
  let asr0 ← readU32
  let asr1 ← readU32
  let bufferedPayloadBytes ← readU32
  let payloadByteOffset ← readU32
  let tagsProcessed ← readU32
  let asp ← readU8
  let tagId ← readU8
  let active ← readBool
  let eventManaged ← readBool
  let chainMode ← readBool
  let tie ← readBool
  let tte ← readBool
  let tagIrq ← readBool
  let endAfterPayload ← readBool
  let faultReported ← readBool
  return {
    transfer, phase, stall, madr, qwc, tadr, asr0, asr1, bufferedPayloadBytes, payloadByteOffset
    tagsProcessed, asp, tagId, active, eventManaged, chainMode, tie, tte, tagIrq, endAfterPayload
    faultReported }

def writeVif1Dma (state : Vif1DmaState) : Bytes :=
  [writeToken state.transfer,
    writeFin state.phase,
    writeFin state.stall,
    writeU32 state.madr,
    writeU32 state.qwc,
    writeU32 state.tadr,
    writeU32 state.asr0,
    writeU32 state.asr1,
    writeU32 state.tagsProcessed,
    writeU8 state.asp,
    writeU8 state.tagId,
    writeBool state.active,
    writeBool state.eventManaged,
    writeBool state.chainMode,
    writeBool state.tie,
    writeBool state.tte,
    writeBool state.tagIrq,
    writeBool state.endAfterPayload,
    writeBool state.faultReported].flatten

def readVif1Dma : ByteReader Vif1DmaState := do
  let transfer ← readToken
  let phase ← readFin 5
  let stall ← readFin 8
  let madr ← readU32
  let qwc ← readU32
  let tadr ← readU32
  let asr0 ← readU32
  let asr1 ← readU32
  let tagsProcessed ← readU32
  let asp ← readU8
  let tagId ← readU8
  let active ← readBool
  let eventManaged ← readBool
  let chainMode ← readBool
  let tie ← readBool
  let tte ← readBool
  let tagIrq ← readBool
  let endAfterPayload ← readBool
  let faultReported ← readBool
  return {
    transfer, phase, stall, madr, qwc, tadr, asr0, asr1, tagsProcessed, asp, tagId, active
    eventManaged, chainMode, tie, tte, tagIrq, endAfterPayload, faultReported }

/-- `readOwnedBytes`. -/
def readOwnedBytes : ByteReader Bytes := readSized kMaximumDeferredBytes

def writeGifDma (state : GifDmaState) : Bytes :=
  [writeToken state.transfer,
    writeFin state.phase,
    writeFin state.stall,
    writeU32 state.chcr,
    writeU32 state.madr,
    writeU32 state.qwc,
    writeU32 state.tadr,
    writeU32 state.asr0,
    writeU32 state.asr1,
    writeU32 state.tagsProcessed,
    writeU8 state.asp,
    writeU8 state.tagId,
    writeBool state.active,
    writeBool state.eventManaged,
    writeBool state.chainMode,
    writeBool state.tie,
    writeBool state.tagIrq,
    writeBool state.endAfterPayload,
    writeBool state.faultReported,
    writeBool state.copyCounted,
    writeSized state.fifoData,
    writeSized state.directCallbackData].flatten

def readGifDma : ByteReader GifDmaState := do
  let transfer ← readToken
  let phase ← readFin 5
  let stall ← readFin 5
  let chcr ← readU32
  let madr ← readU32
  let qwc ← readU32
  let tadr ← readU32
  let asr0 ← readU32
  let asr1 ← readU32
  let tagsProcessed ← readU32
  let asp ← readU8
  let tagId ← readU8
  let active ← readBool
  let eventManaged ← readBool
  let chainMode ← readBool
  let tie ← readBool
  let tagIrq ← readBool
  let endAfterPayload ← readBool
  let faultReported ← readBool
  let copyCounted ← readBool
  let fifoData ← readOwnedBytes
  let directCallbackData ← readOwnedBytes
  return {
    transfer, phase, stall, chcr, madr, qwc, tadr, asr0, asr1, tagsProcessed, asp, tagId, active
    eventManaged, chainMode, tie, tagIrq, endAfterPayload, faultReported, copyCounted, fifoData
    directCallbackData }

def writeFromIpuDma (state : FromIpuDmaState) : Bytes :=
  [writeToken state.transfer,
    writeFin state.phase,
    writeFin state.stall,
    writeU32 state.chcr,
    writeU32 state.madr,
    writeU32 state.qwc,
    writeBool state.active,
    writeBool state.eventManaged,
    writeBool state.normalMode,
    writeBool state.zeroQwcStart,
    writeBool state.faultReported].flatten

def readFromIpuDma : ByteReader FromIpuDmaState := do
  let transfer ← readToken
  let phase ← readFin 4
  let stall ← readFin 5
  let chcr ← readU32
  let madr ← readU32
  let qwc ← readU32
  let active ← readBool
  let eventManaged ← readBool
  let normalMode ← readBool
  let zeroQwcStart ← readBool
  let faultReported ← readBool
  return {
    transfer, phase, stall, chcr, madr, qwc, active, eventManaged, normalMode, zeroQwcStart
    faultReported }

def writeToIpuDma (state : ToIpuDmaState) : Bytes :=
  [writeToken state.transfer,
    writeFin state.phase,
    writeFin state.stall,
    writeU32 state.chcr,
    writeU32 state.madr,
    writeU32 state.qwc,
    writeU32 state.tadr,
    writeU32 state.tagsProcessed,
    writeU8 state.tagId,
    writeBool state.active,
    writeBool state.eventManaged,
    writeBool state.normalMode,
    writeBool state.chainMode,
    writeBool state.tie,
    writeBool state.tagIrq,
    writeBool state.endAfterPayload,
    writeBool state.faultReported].flatten

def readToIpuDma : ByteReader ToIpuDmaState := do
  let transfer ← readToken
  let phase ← readFin 5
  let stall ← readFin 6
  let chcr ← readU32
  let madr ← readU32
  let qwc ← readU32
  let tadr ← readU32
  let tagsProcessed ← readU32
  let tagId ← readU8
  let active ← readBool
  let eventManaged ← readBool
  let normalMode ← readBool
  let chainMode ← readBool
  let tie ← readBool
  let tagIrq ← readBool
  let endAfterPayload ← readBool
  let faultReported ← readBool
  return {
    transfer, phase, stall, chcr, madr, qwc, tadr, tagsProcessed, tagId, active, eventManaged
    normalMode, chainMode, tie, tagIrq, endAfterPayload, faultReported }

def writeScratchpadDma (state : ScratchpadDmaState) : Bytes :=
  [writeToken state.transfer,
    writeFin state.phase,
    writeU32 state.chcr,
    writeU32 state.madr,
    writeU32 state.qwc,
    writeU32 state.tadr,
    writeU32 state.asr0,
    writeU32 state.asr1,
    writeU32 state.sadr,
    writeU32 state.tagsProcessed,
    writeU8 state.asp,
    writeU8 state.tagId,
    writeBool state.active,
    writeBool state.eventManaged,
    writeBool state.chainMode,
    writeBool state.tie,
    writeBool state.tte,
    writeBool state.tagIrq,
    writeBool state.endAfterPayload,
    writeBool state.faultReported].flatten

def readScratchpadDma : ByteReader ScratchpadDmaState := do
  let transfer ← readToken
  let phase ← readFin 5
  let chcr ← readU32
  let madr ← readU32
  let qwc ← readU32
  let tadr ← readU32
  let asr0 ← readU32
  let asr1 ← readU32
  let sadr ← readU32
  let tagsProcessed ← readU32
  let asp ← readU8
  let tagId ← readU8
  let active ← readBool
  let eventManaged ← readBool
  let chainMode ← readBool
  let tie ← readBool
  let tte ← readBool
  let tagIrq ← readBool
  let endAfterPayload ← readBool
  let faultReported ← readBool
  return {
    transfer, phase, chcr, madr, qwc, tadr, asr0, asr1, sadr, tagsProcessed, asp, tagId, active
    eventManaged, chainMode, tie, tte, tagIrq, endAfterPayload, faultReported }

def writeLifecycle (value : DmacChannelLifecycle) : Bytes :=
  [writeFin value.phase,
    writeU64 value.generation].flatten

def readLifecycle : ByteReader DmacChannelLifecycle := do
  let phase ← readFin 3
  let generation ← readU64
  return { phase, generation }

def writeCompletion (value : DmacCompletionRequest) : Bytes :=
  [writeToken value.transfer,
    writeU64 value.readySequence].flatten

def readCompletion : ByteReader DmacCompletionRequest := do
  let transfer ← readToken
  let readySequence ← readU64
  return { transfer, readySequence }

def writeInterrupt (value : DmacPendingInterrupt) : Bytes :=
  [writeFin value.source,
    writeU32 value.cause,
    writeU64 value.channelGeneration,
    writeU64 value.eventSequence,
    writeU64 value.publicationSequence].flatten

def readInterrupt : ByteReader DmacPendingInterrupt := do
  let source ← readFin 10
  let cause ← readU32
  let channelGeneration ← readU64
  let eventSequence ← readU64
  let publicationSequence ← readU64
  return { source, cause, channelGeneration, eventSequence, publicationSequence }

def writeCounter (value : EeCounterSnapshot) : Bytes :=
  [writeU32 value.count,
    writeU16 value.mode,
    writeU16 value.target,
    writeU16 value.hold,
    writeU32 value.rate,
    writeU64 value.startCycle,
    writeBool value.targetAfterOverflow].flatten

def readCounter : ByteReader EeCounterSnapshot := do
  let count ← readU32
  let mode ← readU16
  let target ← readU16
  let hold ← readU16
  let rate ← readU32
  let startCycle ← readU64
  let targetAfterOverflow ← readBool
  return { count, mode, target, hold, rate, startCycle, targetAfterOverflow }

def writeVideoTiming (value : EeCounterVideoTiming) : Bytes :=
  [writeU64 value.renderCycles,
    writeU64 value.blankCycles,
    writeU32 value.hRenderCycles,
    writeU32 value.hBlankCycles,
    writeU32 value.hSyncErrorCycles].flatten

def readVideoTiming : ByteReader EeCounterVideoTiming := do
  let renderCycles ← readU64
  let blankCycles ← readU64
  let hRenderCycles ← readU32
  let hBlankCycles ← readU32
  let hSyncErrorCycles ← readU32
  return { renderCycles, blankCycles, hRenderCycles, hBlankCycles, hSyncErrorCycles }

def writeCounterSnapshot (value : EeCounterBankSnapshot) : Bytes :=
  [writeVector writeCounter value.counters,
    writeVideoTiming value.videoTiming,
    writeU64 value.currentCycle,
    writeU64 value.hSyncStartCycle,
    writeU64 value.vSyncStartCycle,
    writeU32 value.hSyncDeltaCycles,
    writeU64 value.vSyncDeltaCycles,
    writeFin value.hSyncPhase,
    writeFin value.vSyncPhase].flatten

def readCounterSnapshot : ByteReader EeCounterBankSnapshot := do
  let counters ← readVector readCounter 4
  let videoTiming ← readVideoTiming
  let currentCycle ← readU64
  let hSyncStartCycle ← readU64
  let vSyncStartCycle ← readU64
  let hSyncDeltaCycles ← readU32
  let vSyncDeltaCycles ← readU64
  let hSyncPhase ← readFin 2
  let vSyncPhase ← readFin 2
  return {
    counters, videoTiming, currentCycle, hSyncStartCycle, vSyncStartCycle, hSyncDeltaCycles
    vSyncDeltaCycles, hSyncPhase, vSyncPhase }

def writeBlocks (value : MemoryBlocks) : Bytes :=
  [value.rdram.toList,
    value.scratchpad.toList,
    value.iop_ram.toList,
    value.gsVRAM.toList,
    value.vu0Code.toList,
    value.vu0Data.toList,
    value.vu1Code.toList,
    value.vu1Data.toList].flatten

def readBlocks : ByteReader MemoryBlocks := do
  let rdram ← readBytes PS2_RAM_SIZE
  let scratchpad ← readBytes PS2_SCRATCHPAD_SIZE
  let iop_ram ← readBytes PS2_IOP_RAM_SIZE
  let gsVRAM ← readBytes PS2_GS_VRAM_SIZE
  let vu0Code ← readBytes PS2_VU0_CODE_SIZE
  let vu0Data ← readBytes PS2_VU0_DATA_SIZE
  let vu1Code ← readBytes PS2_VU1_CODE_SIZE
  let vu1Data ← readBytes PS2_VU1_DATA_SIZE
  return { rdram, scratchpad, iop_ram, gsVRAM, vu0Code, vu0Data, vu1Code, vu1Data }

def writeCounts (value : MemoryCounts) : Bytes :=
  [writeBool value.seenGifCopy,
    writeU64 value.dmaStartCount,
    writeU64 value.gifCopyCount,
    writeU64 value.gsWriteCount,
    writeU64 value.vifWriteCount,
    writeU64 value.vu0CodeGeneration,
    writeU64 value.vu1CodeGeneration].flatten

def readCounts : ByteReader MemoryCounts := do
  let seenGifCopy ← readBool
  let dmaStartCount ← readU64
  let gifCopyCount ← readU64
  let gsWriteCount ← readU64
  let vifWriteCount ← readU64
  let vu0CodeGeneration ← readU64
  let vu1CodeGeneration ← readU64
  return {
    seenGifCopy, dmaStartCount, gifCopyCount, gsWriteCount, vifWriteCount, vu0CodeGeneration
    vu1CodeGeneration }

def writeIoRegister (entry : UInt32 × UInt32) : Bytes :=
  [writeU32 entry.1,
    writeU32 entry.2].flatten

def readIoRegister : ByteReader (UInt32 × UInt32) := do
  let address ← readU32
  let value ← readU32
  return (address, value)

def writeVifStreams (value : VifStreams) : Bytes :=
  [writeBool value.path3Masked,
    writeBool value.gifModePath3Masked,
    writeBool value.vif0WaitingForVu,
    writeSized value.vif0DeferredData,
    writeU32 value.vif1PendingPath2DirectQwc,
    writeBool value.vif1PendingPath2DirectHl,
    writeBool value.vif1PendingIrqAfterCommand,
    writeBool value.vif1WaitingForVu,
    writeSized value.vif1DeferredData].flatten

def readVifStreams : ByteReader VifStreams := do
  let path3Masked ← readBool
  let gifModePath3Masked ← readBool
  let vif0WaitingForVu ← readBool
  let vif0DeferredData ← readOwnedBytes
  let vif1PendingPath2DirectQwc ← readU32
  let vif1PendingPath2DirectHl ← readBool
  let vif1PendingIrqAfterCommand ← readBool
  let vif1WaitingForVu ← readBool
  let vif1DeferredData ← readOwnedBytes
  return {
    path3Masked, gifModePath3Masked, vif0WaitingForVu, vif0DeferredData
    vif1PendingPath2DirectQwc, vif1PendingPath2DirectHl, vif1PendingIrqAfterCommand
    vif1WaitingForVu, vif1DeferredData }

def writeSegment (value : Vif1StreamSegment) : Bytes :=
  [writeU64 value.byteCount,
    writeFin value.firstByteOffset].flatten

def readSegment : ByteReader Vif1StreamSegment := do
  let byteCount ← readU64
  let firstByteOffset ← readFin 16
  return { byteCount, firstByteOffset }

/-- An index or a count of a FIFO, below `n`. -/
def writePosition {n : ℕ} (value : Fin n) : Bytes := writeU32 (UInt32.ofNat value.val)

def readPosition (n : ℕ) : ByteReader (Fin n) := fun input =>
  (readU32 input).bind fun p => if h : p.1.toNat < n then some (⟨p.1.toNat, h⟩, p.2) else none

def writeIpuFifo (value : IpuFifo) : Bytes :=
  [value.quadwords.toList,
    writePosition value.readIndex,
    writePosition value.writeIndex,
    writePosition value.qwc].flatten

def readIpuFifo : ByteReader IpuFifo := do
  let quadwords ← readBytes 128
  let readIndex ← readPosition 8
  let writeIndex ← readPosition 8
  let qwc ← readPosition 9
  return { quadwords, readIndex, writeIndex, qwc }

/-! ## The whole payload -/

/-- What `encodeSaveState` writes of an initialized memory. -/
def writeMemory (memory : MemoryImage) : Bytes :=
  [writeU32 kMemoryStateVersion,
    writeBlocks memory.toMemoryBlocks,
    writeCounts memory.toMemoryCounts,
    writeU32 (UInt32.ofNat memory.ioRegisters.length),
    memory.ioRegisters.flatMap writeIoRegister,
    writeGsRegisters memory.gs_regs,
    writeVifRegisters memory.vif0_regs,
    writeVifRegisters memory.vif1_regs,
    writeVector writeDmaRegisters memory.dma_regs,
    writeU32 (UInt32.ofNat memory.tlbEntries.length),
    memory.tlbEntries.flatMap writeTlbEntry,
    writeBool memory.postBiosTlbStateConfigured,
    writeU64 memory.tlbMappingGeneration,
    writeVifStreams memory.toVifStreams,
    writeU32 (UInt32.ofNat memory.vif1DeferredSegments.length),
    memory.vif1DeferredSegments.flatMap writeSegment,
    writeFin memory.vif1NextByteOffset,
    writeU32 (UInt32.ofNat memory.path3MaskedFifo.length),
    memory.path3MaskedFifo.flatMap writeSized,
    writeVif0Dma memory.vif0Dma,
    writeVif1Dma memory.vif1Dma,
    writeGifDma memory.gifDma,
    writeFromIpuDma memory.fromIpuDma,
    writeToIpuDma memory.toIpuDma,
    writeIpuFifo memory.ipuOutputFifo,
    writeIpuFifo memory.ipuInputFifo,
    writeVector writeScratchpadDma memory.scratchpadDma,
    writeVector writeLifecycle memory.dmacChannels,
    writeU32 (UInt32.ofNat memory.readyDmacCompletions.length),
    memory.readyDmacCompletions.flatMap writeCompletion,
    writeU32 (UInt32.ofNat memory.pendingDmacInterrupts.length),
    memory.pendingDmacInterrupts.flatMap writeInterrupt,
    writeU64 memory.dmacReadySequence,
    writeU64 memory.dmacPublicationSequence,
    writeCounterSnapshot memory.eeCounters].flatten

/-- The sum of the sizes of the segments. -/
def segmentBytes (segments : List Vif1StreamSegment) : ℕ :=
  (segments.map fun segment => segment.byteCount.toNat).sum

/-- What `decodeSaveState` reads before it checks that this was all. -/
def readMemory : FieldReader String MemoryImage := do
  let version ← readU32.orError "unsupported PS2 memory state version"
  if version = kMemoryStateVersion then
    let blocks ← readBlocks.orError "PS2 memory state payload is truncated"
    let counts ← readCounts.orError "PS2 memory state counters are invalid"
    let ioCount ← (readCount kMaximumIoRegisterCount).orError
      "PS2 memory state I/O register count is invalid"
    let ioRegisters ← (readChecked readIoRegister (addKey Prod.fst) ioCount []).orError
      "PS2 memory state I/O registers are invalid"
    let gs_regs ← readGsRegisters.orError "PS2 memory state register payload is invalid"
    let vif0_regs ← readVifRegisters.orError "PS2 memory state register payload is invalid"
    let vif1_regs ← readVifRegisters.orError "PS2 memory state register payload is invalid"
    let dma_regs ← (readVector readDmaRegisters 10).orError
      "PS2 memory state DMA registers are invalid"
    let tlbCount ← (readCount kMaximumTlbEntryCount).orError
      "PS2 memory state TLB entry count is invalid"
    let tlbEntries ← (readList readTlbEntry tlbCount).orError
      "PS2 memory state TLB payload is invalid"
    let postBiosTlbStateConfigured ← readBool.orError "PS2 memory state TLB metadata is invalid"
    let tlbMappingGeneration ← readU64.orError "PS2 memory state TLB metadata is invalid"
    if tlbMappingGeneration ≠ 0 then
      let streams ← readVifStreams.orError "PS2 memory state VIF stream payload is invalid"
      let segmentCount ← (readCount kMaximumDeferredSegmentCount).orError
        "PS2 memory state VIF segment count is invalid"
      let vif1DeferredSegments ←
        (readChecked readSegment (addSize (·.byteCount.toNat) kMaximumDeferredBytes)
          segmentCount 0).orError "PS2 memory state VIF segment is invalid"
      if segmentBytes vif1DeferredSegments = streams.vif1DeferredData.length then
        let vif1NextByteOffset ← (readFin 16).orError
          "PS2 memory state VIF segment coverage is invalid"
        let packetCount ← (readCount kMaximumPath3PacketCount).orError
          "PS2 memory state PATH3 packet count is invalid"
        let path3MaskedFifo ←
          (readChecked readOwnedBytes (addSize List.length kMaximumDeferredBytes)
            packetCount 0).orError "PS2 memory state PATH3 payload is invalid"
        let vif0Dma ← readVif0Dma.orError "PS2 memory state VIF DMA payload is invalid"
        let vif1Dma ← readVif1Dma.orError "PS2 memory state VIF DMA payload is invalid"
        let gifDma ← readGifDma.orError "PS2 memory state GIF DMA payload is invalid"
        let fromIpuDma ← readFromIpuDma.orError
          "PS2 memory state from-IPU DMA payload is invalid"
        let toIpuDma ← readToIpuDma.orError "PS2 memory state to-IPU DMA payload is invalid"
        let ipuOutputFifo ← readIpuFifo.orError "PS2 memory state IPU FIFO payload is invalid"
        let ipuInputFifo ← readIpuFifo.orError "PS2 memory state IPU FIFO payload is invalid"
        let scratchpadDma ← (readVector readScratchpadDma 2).orError
          "PS2 memory state scratchpad DMA payload is invalid"
        let dmacChannels ← (readVector readLifecycle 10).orError
          "PS2 memory state DMAC lifecycle is invalid"
        let readyCount ← (readCount kMaximumPendingDmacCount).orError
          "PS2 memory state ready-DMAC count is invalid"
        let readyDmacCompletions ← (readList readCompletion readyCount).orError
          "PS2 memory state ready-DMAC payload is invalid"
        let interruptCount ← (readCount kMaximumPendingDmacCount).orError
          "PS2 memory state DMAC interrupt count is invalid"
        let pendingDmacInterrupts ← (readList readInterrupt interruptCount).orError
          "PS2 memory state DMAC interrupt payload is invalid"
        let dmacReadySequence ← readU64.orError "PS2 memory state DMAC sequence is invalid"
        let dmacPublicationSequence ← readU64.orError
          "PS2 memory state DMAC sequence is invalid"
        let eeCounters ← readCounterSnapshot.orError
          "PS2 memory state counter payload is invalid"
        return { blocks, counts, streams with
          ioRegisters, gs_regs, vif0_regs, vif1_regs, dma_regs, tlbEntries
          postBiosTlbStateConfigured, tlbMappingGeneration, vif1DeferredSegments
          vif1NextByteOffset, path3MaskedFifo, vif0Dma, vif1Dma, gifDma, fromIpuDma, toIpuDma
          ipuOutputFifo, ipuInputFifo, scratchpadDma, dmacChannels, readyDmacCompletions
          pendingDmacInterrupts, dmacReadySequence, dmacPublicationSequence, eeCounters }
      else throw "PS2 memory state VIF segment coverage is invalid"
    else throw "PS2 memory state TLB metadata is invalid"
  else throw "unsupported PS2 memory state version"

end MemoryImage

end Ps2Recomp
