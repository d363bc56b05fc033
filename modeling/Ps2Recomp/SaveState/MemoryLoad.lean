import Ps2Recomp.Counter.Bank
import Ps2Recomp.Dmac.IpuFifos
import Ps2Recomp.Dmac.Lifecycle
import Ps2Recomp.SaveState.MemoryCodec
import Ps2Recomp.Vif.Stream

/-!
# Loading the save state of the memory

`PS2Memory::decodeSaveState` (`ps2_memory_save_state.cpp`): the image that is read becomes the
rings, the transfers, the stream, the TLB table and the counters of the running memory. `Consistent`
is what the running code keeps of them. The decoder checks ranges, and that the segments cover the
deferred bytes; the other relations hold after a load exactly where they hold in the image
(`Related`, `decodeSaveState_consistent_iff`).

The caches that a load empties are left out.
-/

namespace Ps2Recomp

open ByteCodec

/-! ## The members -/

/-- The members that the running models use, and the rest as it was read. -/
structure PS2Memory where
  initialized : Bool
  rest : MemoryImage
  ipuOutputFifo : RingBuffer Quadword
  ipuInputFifo : RingBuffer Quadword
  dmac : Dmac
  vif1DeferredData : Bytes
  vif1DeferredSegments : List Vif1StreamSegment
  tlbEntries : List EeTlbEntry
  eeCounters : EeCounterBank

namespace MemoryImage

/-- The enumerator of a number. -/
def channelOf : Fin 10 → Ps2Recomp.DmacChannel := fun number =>
  match number.val with
  | 0 => .Vif0
  | 1 => .Vif1
  | 2 => .Gif
  | 3 => .FromIpu
  | 4 => .ToIpu
  | 5 => .Sif0
  | 6 => .Sif1
  | 7 => .Sif2
  | 8 => .FromScratchpad
  | _ => .ToScratchpad

def phaseOf : Fin 3 → Ps2Recomp.DmacChannelPhase := fun number =>
  match number.val with
  | 0 => .Idle
  | 1 => .Active
  | _ => .CompletionReady

def DmacTransferToken.restored (token : DmacTransferToken) : Ps2Recomp.DmacTransferToken where
  channel := channelOf token.channel
  generation := token.generation.toNat

def DmacChannelLifecycle.restored (state : DmacChannelLifecycle) :
    Ps2Recomp.DmacChannelLifecycle where
  phase := phaseOf state.phase
  generation := state.generation.toNat

def DmacCompletionRequest.restored (completion : DmacCompletionRequest) :
    Ps2Recomp.DmacCompletionRequest where
  transfer := completion.transfer.restored
  readySequence := completion.readySequence.toNat

def DmacPendingInterrupt.restored (interrupt : DmacPendingInterrupt) :
    Ps2Recomp.DmacPendingInterrupt where
  source := channelOf interrupt.source
  cause := interrupt.cause.toNat
  channelGeneration := interrupt.channelGeneration.toNat
  eventSequence := interrupt.eventSequence.toNat
  publicationSequence := interrupt.publicationSequence.toNat

def IpuFifo.restored (fifo : IpuFifo) : RingBuffer Quadword where
  slots slot byte := fifo.quadwords.toList.getD (16 * slot + byte.val) 0
  readIndex := fifo.readIndex.val
  writeIndex := fifo.writeIndex.val
  count := fifo.qwc.val

def Vif1StreamSegment.restored (segment : Vif1StreamSegment) : Ps2Recomp.Vif1StreamSegment where
  byteCount := segment.byteCount.toNat
  firstByteOffset := segment.firstByteOffset.val

def EeTlbEntry.restored (entry : EeTlbEntry) : Ps2Recomp.EeTlbEntry where
  pageMask := entry.pageMask.toBitVec
  entryHi := entry.entryHi.toBitVec
  entryLo0 := entry.entryLo0.toBitVec
  entryLo1 := entry.entryLo1.toBitVec

/-- A 64-bit word as a tick. -/
def tickOf (value : UInt64) : EeTick := ⟨value.toNat, value.toNat_lt⟩

def EeCounterSnapshot.restored (counter : EeCounterSnapshot) : Ps2Recomp.EeCounterSnapshot where
  count := counter.count.toBitVec
  mode := counter.mode.toBitVec
  target := counter.target.toBitVec
  hold := counter.hold.toBitVec
  rate := counter.rate.toBitVec
  startCycle := tickOf counter.startCycle
  targetAfterOverflow := counter.targetAfterOverflow

def EeCounterBankSnapshot.restored (state : EeCounterBankSnapshot) :
    Ps2Recomp.EeCounterBankSnapshot where
  counters index := (state.counters.get index).restored
  videoTiming := {
    renderCycles := state.videoTiming.renderCycles.toNat
    blankCycles := state.videoTiming.blankCycles.toNat
    hRenderCycles := state.videoTiming.hRenderCycles.toNat
    hBlankCycles := state.videoTiming.hBlankCycles.toNat
    hSyncErrorCycles := state.videoTiming.hSyncErrorCycles.toNat }
  currentCycle := tickOf state.currentCycle
  hSyncStartCycle := tickOf state.hSyncStartCycle
  vSyncStartCycle := tickOf state.vSyncStartCycle
  hSyncDeltaCycles := state.hSyncDeltaCycles.toBitVec
  vSyncDeltaCycles := tickOf state.vSyncDeltaCycles
  hSyncPhase := BitVec.ofNat 8 state.hSyncPhase.val
  vSyncPhase := BitVec.ofNat 8 state.vSyncPhase.val

/-- The transfers; registers that were not saved read as 0. -/
def dmac (image : MemoryImage) : Dmac where
  channels channel :=
    if h : channel.index < 10 then (image.dmacChannels.get ⟨channel.index, h⟩).restored else {}
  readyCompletions := image.readyDmacCompletions.map DmacCompletionRequest.restored
  pendingInterrupts := image.pendingDmacInterrupts.map DmacPendingInterrupt.restored
  readySequence := image.dmacReadySequence.toNat
  publicationSequence := image.dmacPublicationSequence.toNat
  ioRegisters address :=
    match image.ioRegisters.find? fun register => register.1.toNat = address with
    | some register => register.2.toBitVec
    | none => 0

end MemoryImage

namespace PS2Memory

/-- What a load leaves, with the counters restored. -/
def install (memory : PS2Memory) (image : MemoryImage) (eeCounters : EeCounterBank) :
    PS2Memory where
  initialized := memory.initialized
  rest := image
  ipuOutputFifo := image.ipuOutputFifo.restored
  ipuInputFifo := image.ipuInputFifo.restored
  dmac := image.dmac
  vif1DeferredData := image.vif1DeferredData
  vif1DeferredSegments := image.vif1DeferredSegments.map MemoryImage.Vif1StreamSegment.restored
  tlbEntries := image.tlbEntries.map MemoryImage.EeTlbEntry.restored
  eeCounters := eeCounters

def decodeSaveState (memory : PS2Memory) (input : Bytes) : Except String PS2Memory :=
  if memory.initialized = false then .error "PS2 memory is not initialized"
  else do
    let image ← MemoryImage.readMemory input
    let counters := memory.eeCounters.restore image.1.eeCounters.restored
    if counters.1 = false ∨ image.2 ≠ [] then
      .error "PS2 memory state counter payload is invalid"
    else .ok (memory.install image.1 counters.2)

/-! ## What the running code keeps -/

/-- The count is the distance from the read to the write index, or all. -/
structure CountIsDistance (capacity : ℕ) (fifo : RingBuffer Quadword) : Prop where
  readIndex : fifo.readIndex < capacity
  writeIndex : fifo.writeIndex < capacity
  count : fifo.count ≤ capacity
  distance : fifo.count % capacity = (fifo.writeIndex + capacity - fifo.readIndex) % capacity

structure Consistent (memory : PS2Memory) : Prop where
  outputFifo : CountIsDistance kIpuOutputFifoCapacityQwc memory.ipuOutputFifo
  inputFifo : CountIsDistance kIpuInputFifoCapacityQwc memory.ipuInputFifo
  distinct : (memory.dmac.readyCompletions.map (·.transfer.channel)).Nodup
  current : ∀ completion ∈ memory.dmac.readyCompletions,
    memory.dmac.channels completion.transfer.channel =
      ⟨.CompletionReady, completion.transfer.generation⟩
  readySequence : ∀ completion ∈ memory.dmac.readyCompletions,
    completion.readySequence ≤ memory.dmac.readySequence
  publicationSequence : ∀ interrupt ∈ memory.dmac.pendingInterrupts,
    interrupt.publicationSequence ≤ memory.dmac.publicationSequence
  nonempty : ∀ segment ∈ memory.vif1DeferredSegments, 0 < segment.byteCount
  coverage : Vif1StreamSegment.total memory.vif1DeferredSegments = memory.vif1DeferredData.length
  tlb : memory.tlbEntries.length = 48

end PS2Memory

/-! ## What an image must say for that -/

namespace MemoryImage

/-- The relations between the fields of an image that no check of the decoder is about. -/
structure Related (image : MemoryImage) : Prop where
  outputFifo : image.ipuOutputFifo.writeIndex.val =
    (image.ipuOutputFifo.readIndex.val + image.ipuOutputFifo.qwc.val) % 8
  inputFifo : image.ipuInputFifo.writeIndex.val =
    (image.ipuInputFifo.readIndex.val + image.ipuInputFifo.qwc.val) % 8
  distinct : (image.readyDmacCompletions.map (·.transfer.channel)).Nodup
  current : ∀ completion ∈ image.readyDmacCompletions,
    (image.dmacChannels.get completion.transfer.channel).phase.val = 2 ∧
      (image.dmacChannels.get completion.transfer.channel).generation =
        completion.transfer.generation
  readySequence : ∀ completion ∈ image.readyDmacCompletions,
    completion.readySequence ≤ image.dmacReadySequence
  publicationSequence : ∀ interrupt ∈ image.pendingDmacInterrupts,
    interrupt.publicationSequence ≤ image.dmacPublicationSequence
  nonempty : ∀ segment ∈ image.vif1DeferredSegments, segment.byteCount ≠ 0
  tlb : image.tlbEntries.length = 48

theorem index_channelOf (number : Fin 10) : (channelOf number).index = number.val := by
  revert number
  decide

theorem channelOf_injective : Function.Injective channelOf := fun number number' h =>
  Fin.ext ((index_channelOf number).symm.trans (congrArg DmacChannel.index h |>.trans
    (index_channelOf number')))

theorem phaseOf_eq_iff (number : Fin 3) : phaseOf number = .CompletionReady ↔ number.val = 2 := by
  revert number
  decide

/-- A channel is restored from where it was saved. -/
theorem channels_dmac (image : MemoryImage) (number : Fin 10) :
    image.dmac.channels (channelOf number) = (image.dmacChannels.get number).restored := by
  have hindex := index_channelOf number
  have hlt : (channelOf number).index < 10 := hindex ▸ number.isLt
  have hnumber : (⟨(channelOf number).index, hlt⟩ : Fin 10) = number := Fin.ext hindex
  exact (dif_pos hlt).trans (by rw [hnumber])

theorem current_iff (image : MemoryImage) (completion : DmacCompletionRequest) :
    image.dmac.channels completion.restored.transfer.channel =
        ⟨.CompletionReady, completion.restored.transfer.generation⟩ ↔
      (image.dmacChannels.get completion.transfer.channel).phase.val = 2 ∧
        (image.dmacChannels.get completion.transfer.channel).generation =
          completion.transfer.generation := by
  have hchannels := channels_dmac image completion.transfer.channel
  have hchannel : completion.restored.transfer.channel = channelOf completion.transfer.channel :=
    rfl
  rw [hchannel, hchannels, DmacChannelLifecycle.restored, Ps2Recomp.DmacChannelLifecycle.mk.injEq,
    phaseOf_eq_iff]
  exact and_congr_right fun _ => UInt64.toNat_inj

theorem total_restored (segments : List Vif1StreamSegment) :
    Vif1StreamSegment.total (segments.map Vif1StreamSegment.restored) = segmentBytes segments := by
  rw [Vif1StreamSegment.total, List.map_map]
  rfl

theorem countIsDistance_restored (fifo : IpuFifo) :
    PS2Memory.CountIsDistance 8 fifo.restored ↔
      fifo.writeIndex.val = (fifo.readIndex.val + fifo.qwc.val) % 8 := by
  have hread : fifo.restored.readIndex < 8 := fifo.readIndex.isLt
  have hwrite : fifo.restored.writeIndex < 8 := fifo.writeIndex.isLt
  have hcount : fifo.restored.count ≤ 8 := Nat.le_of_lt_succ fifo.qwc.isLt
  have hwell := RingBuffer.wellFormed_iff hread hwrite hcount
  constructor
  · exact fun h => (hwell.mpr h.distance).write_eq
  · exact fun h => ⟨hread, hwrite, hcount, hwell.mp ⟨hread, h, hcount⟩⟩

theorem consistent_install_iff (memory : PS2Memory) {image : MemoryImage} (h : image.Readable)
    (eeCounters : EeCounterBank) :
    (memory.install image eeCounters).Consistent ↔ image.Related := by
  have hchannels : (image.dmac.readyCompletions.map (·.transfer.channel)).Nodup ↔
      (image.readyDmacCompletions.map (·.transfer.channel)).Nodup := by
    have hmap : image.dmac.readyCompletions.map (·.transfer.channel) =
        (image.readyDmacCompletions.map (·.transfer.channel)).map channelOf := by
      rw [dmac, List.map_map, List.map_map]
      rfl
    rw [hmap, List.nodup_map_iff channelOf_injective]
  constructor
  · intro hconsistent
    exact {
      outputFifo := (countIsDistance_restored _).mp hconsistent.outputFifo
      inputFifo := (countIsDistance_restored _).mp hconsistent.inputFifo
      distinct := hchannels.mp hconsistent.distinct
      current := fun completion hmem => (current_iff image completion).mp
        (hconsistent.current _ (List.mem_map_of_mem hmem))
      readySequence := fun completion hmem =>
        hconsistent.readySequence _ (List.mem_map_of_mem hmem)
      publicationSequence := fun interrupt hmem =>
        hconsistent.publicationSequence _ (List.mem_map_of_mem hmem)
      nonempty := fun segment hmem hzero => by
        have hpos := hconsistent.nonempty _ (List.mem_map_of_mem hmem)
        exact absurd (congrArg UInt64.toNat hzero) (Nat.ne_of_gt hpos)
      tlb := (List.length_map _).symm.trans hconsistent.tlb }
  · intro hrelated
    exact {
      outputFifo := (countIsDistance_restored _).mpr hrelated.outputFifo
      inputFifo := (countIsDistance_restored _).mpr hrelated.inputFifo
      distinct := hchannels.mpr hrelated.distinct
      current := fun completion hmem => by
        obtain ⟨saved, hsaved, rfl⟩ := List.mem_map.mp hmem
        exact (current_iff image saved).mpr (hrelated.current saved hsaved)
      readySequence := fun completion hmem => by
        obtain ⟨saved, hsaved, rfl⟩ := List.mem_map.mp hmem
        exact hrelated.readySequence saved hsaved
      publicationSequence := fun interrupt hmem => by
        obtain ⟨saved, hsaved, rfl⟩ := List.mem_map.mp hmem
        exact hrelated.publicationSequence saved hsaved
      nonempty := fun segment hmem => by
        obtain ⟨saved, hsaved, rfl⟩ := List.mem_map.mp hmem
        exact Nat.pos_of_ne_zero fun hzero =>
          hrelated.nonempty saved hsaved (UInt64.toNat_inj.mp hzero)
      coverage := (total_restored _).trans h.coverage
      tlb := (List.length_map _).trans hrelated.tlb }

end MemoryImage

namespace PS2Memory

/-- The payloads of this image are accepted. -/
structure Accepts (memory : PS2Memory) (image : MemoryImage) : Prop where
  initialized : memory.initialized = true
  readable : image.Readable
  counters : (memory.eeCounters.restore image.eeCounters.restored).1 = true

theorem decodeSaveState_eq_ok_iff {memory memory' : PS2Memory} {input : Bytes} :
    memory.decodeSaveState input = .ok memory' ↔
      ∃ image, memory.Accepts image ∧ input = MemoryImage.writeMemory image ∧
        memory' = memory.install image (memory.eeCounters.restore image.eeCounters.restored).2 := by
  have hread : ∀ image rest, MemoryImage.readMemory input = .ok (image, rest) ↔
      input = MemoryImage.writeMemory image ++ rest ∧ image.Readable := fun image rest => by
    rw [← exact_iff.mp MemoryImage.exact_memory input image rest, accepts_eq_some_iff]
  unfold decodeSaveState
  constructor
  · intro h
    split at h
    · cases h
    · next hinit =>
      cases himage : MemoryImage.readMemory input with
      | error message =>
        rw [himage] at h
        cases h
      | ok image =>
        rw [himage] at h
        dsimp only [bind, Except.bind] at h
        split at h
        · cases h
        · next hend =>
          cases h
          rw [not_or, Bool.not_eq_false, not_not] at hend
          obtain ⟨hinput, hreadable⟩ := (hread image.1 []).mp (himage.trans (by rw [← hend.2]))
          exact ⟨image.1, ⟨Bool.not_eq_false _ ▸ hinit, hreadable, hend.1⟩,
            hinput.trans (List.append_nil _), rfl⟩
  · rintro ⟨image, haccepts, hinput, rfl⟩
    have himage := (hread image []).mpr
      ⟨hinput.trans (List.append_nil _).symm, haccepts.readable⟩
    have hinit : ¬ memory.initialized = false := by
      rw [haccepts.initialized]
      decide
    rw [if_neg hinit, himage]
    dsimp only [bind, Except.bind]
    rw [if_neg]
    rw [haccepts.counters]
    simp

/-- A load leaves a consistent memory exactly where the payload is of a related image. -/
theorem decodeSaveState_consistent_iff (memory : PS2Memory) (input : Bytes) :
    (∀ memory', memory.decodeSaveState input = .ok memory' → memory'.Consistent) ↔
      ∀ image, memory.Accepts image → input = MemoryImage.writeMemory image → image.Related := by
  constructor
  · intro h image haccepts hinput
    exact (MemoryImage.consistent_install_iff memory haccepts.readable _).mp
      (h _ (decodeSaveState_eq_ok_iff.mpr ⟨image, haccepts, hinput, rfl⟩))
  · intro h memory' hdecode
    obtain ⟨image, haccepts, hinput, rfl⟩ := decodeSaveState_eq_ok_iff.mp hdecode
    exact (MemoryImage.consistent_install_iff memory haccepts.readable _).mpr
      (h image haccepts hinput)

end PS2Memory

/-! ## An inconsistent load -/

namespace MemoryImage

/-- A memory at rest, but for a quadword in the output FIFO that the indices do not know of. -/
def countedTwice : MemoryImage :=
  { (default : MemoryImage) with
    tlbEntries := List.replicate 48 default
    tlbMappingGeneration := 1
    ipuOutputFifo := { (default : IpuFifo) with qwc := ⟨1, by decide⟩ }
    eeCounters := { (default : EeCounterBankSnapshot) with
      counters := List.Vector.replicate 4 { (default : EeCounterSnapshot) with rate := 2 }
      videoTiming := ⟨1, 1, 1, 1, 0⟩ } }

theorem readable_countedTwice : countedTwice.Readable where
  ioCount := by decide
  ioRegisters := by decide
  tlbCount := by decide
  tlbMappingGeneration := by decide
  streams := ⟨by decide, by decide⟩
  segmentCount := by decide
  coverage := by decide
  packetCount := by decide
  packets := by decide
  gifDma := ⟨by decide, by decide⟩
  readyCount := by decide
  interruptCount := by decide

end MemoryImage

namespace PS2Memory

/-- An initialized memory. -/
def fresh : PS2Memory where
  initialized := true
  rest := default
  ipuOutputFifo := { slots := fun _ _ => 0 }
  ipuInputFifo := { slots := fun _ _ => 0 }
  dmac := {}
  vif1DeferredData := []
  vif1DeferredSegments := []
  tlbEntries := List.replicate 48 {}
  eeCounters := EeCounterBank.new

theorem decodeSaveState_countedTwice :
    ∃ memory', fresh.decodeSaveState (MemoryImage.writeMemory MemoryImage.countedTwice) =
      .ok memory' ∧ ¬ memory'.Consistent := by
  have hcounters :
      (fresh.eeCounters.restore MemoryImage.countedTwice.eeCounters.restored).1 = true := by
    decide
  refine ⟨_, decodeSaveState_eq_ok_iff.mpr ⟨MemoryImage.countedTwice,
    ⟨rfl, MemoryImage.readable_countedTwice, hcounters⟩, rfl, rfl⟩, fun hconsistent => ?_⟩
  have hrelated := (MemoryImage.consistent_install_iff fresh MemoryImage.readable_countedTwice
    _).mp hconsistent
  exact absurd hrelated.outputFifo (by decide)

end PS2Memory

end Ps2Recomp
