import Mathlib.Algebra.Order.BigOperators.Group.List
import Ps2Recomp.SaveState.MemoryPayload

/-!
# The save state of the memory: writing and reading are inverse

The field lists are walked through together, record by record, up to `exact_memory`: what
`readMemory` accepts is what `writeMemory` writes of a `Readable` image, and every readable image
comes back as it was.
-/

namespace Ps2Recomp

namespace MemoryImage

open ByteCodec

/-! ## Records -/

theorem exact_token : Exact writeToken readToken (fun _ => True) := by
  unfold writeToken readToken
  simp only [List.flatten_cons, List.flatten_nil]
  refine (exact_fin (by decide)).field fun _ => exact_u64.field fun _ => .pure fun value => ?_
  simp only [DmacTransferToken.ext_iff, true_and]

theorem exact_vifRegisters : Exact writeVifRegisters readVifRegisters (fun _ => True) := by
  unfold writeVifRegisters readVifRegisters
  simp only [List.flatten_cons, List.flatten_nil]
  refine exact_u32.field fun _ => exact_u32.field fun _ => exact_u32.field fun _ =>
    exact_u32.field fun _ => exact_u32.field fun _ => exact_u32.field fun _ =>
    exact_u32.field fun _ => exact_u32.field fun _ => exact_u32.field fun _ =>
    exact_u32.field fun _ => exact_u32.field fun _ => exact_u32.field fun _ =>
    exact_u32.field fun _ => exact_u32.field fun _ => exact_u32.field fun _ =>
    (exact_u32.vector _).field fun _ => (exact_u32.vector _).field fun _ => .pure fun value => ?_
  simp only [VIFRegisters.ext_iff, true_and, and_assoc]

theorem exact_dmaRegisters : Exact writeDmaRegisters readDmaRegisters (fun _ => True) := by
  unfold writeDmaRegisters readDmaRegisters
  simp only [List.flatten_cons, List.flatten_nil]
  refine exact_u32.field fun _ => exact_u32.field fun _ => exact_u32.field fun _ =>
    exact_u32.field fun _ => exact_u32.field fun _ => exact_u32.field fun _ =>
    exact_u32.field fun _ => .pure fun value => ?_
  simp only [DMARegisters.ext_iff, true_and, and_assoc]

theorem exact_gsRegisters : Exact writeGsRegisters readGsRegisters (fun _ => True) := by
  unfold writeGsRegisters readGsRegisters
  simp only [List.flatten_cons, List.flatten_nil]
  refine exact_u64.field fun _ => exact_u64.field fun _ => exact_u64.field fun _ =>
    exact_u64.field fun _ => exact_u64.field fun _ => exact_u64.field fun _ =>
    exact_u64.field fun _ => exact_u64.field fun _ => exact_u64.field fun _ =>
    exact_u64.field fun _ => exact_u64.field fun _ => exact_u64.field fun _ =>
    exact_u64.field fun _ => exact_u64.field fun _ => exact_u64.field fun _ =>
    exact_u64.field fun _ => exact_u64.field fun _ => exact_u64.field fun _ =>
    exact_u64.field fun _ => .pure fun value => ?_
  simp only [GSRegisters.ext_iff, true_and, and_assoc]

theorem exact_tlbEntry : Exact writeTlbEntry readTlbEntry (fun _ => True) := by
  unfold writeTlbEntry readTlbEntry
  simp only [List.flatten_cons, List.flatten_nil]
  refine exact_u32.field fun _ => exact_u32.field fun _ => exact_u32.field fun _ =>
    exact_u32.field fun _ => .pure fun value => ?_
  simp only [EeTlbEntry.ext_iff, true_and, and_assoc]

theorem exact_vif0Dma : Exact writeVif0Dma readVif0Dma (fun _ => True) := by
  unfold writeVif0Dma readVif0Dma
  simp only [List.flatten_cons, List.flatten_nil]
  refine exact_token.field fun _ => (exact_fin (by decide)).field fun _ =>
    (exact_fin (by decide)).field fun _ => exact_u32.field fun _ => exact_u32.field fun _ =>
    exact_u32.field fun _ => exact_u32.field fun _ => exact_u32.field fun _ =>
    exact_u32.field fun _ => exact_u32.field fun _ => exact_u32.field fun _ =>
    exact_u8.field fun _ => exact_u8.field fun _ => exact_bool.field fun _ =>
    exact_bool.field fun _ => exact_bool.field fun _ => exact_bool.field fun _ =>
    exact_bool.field fun _ => exact_bool.field fun _ => exact_bool.field fun _ =>
    exact_bool.field fun _ => .pure fun value => ?_
  simp only [Vif0DmaState.ext_iff, true_and, and_assoc]

theorem exact_vif1Dma : Exact writeVif1Dma readVif1Dma (fun _ => True) := by
  unfold writeVif1Dma readVif1Dma
  simp only [List.flatten_cons, List.flatten_nil]
  refine exact_token.field fun _ => (exact_fin (by decide)).field fun _ =>
    (exact_fin (by decide)).field fun _ => exact_u32.field fun _ => exact_u32.field fun _ =>
    exact_u32.field fun _ => exact_u32.field fun _ => exact_u32.field fun _ =>
    exact_u32.field fun _ => exact_u8.field fun _ => exact_u8.field fun _ =>
    exact_bool.field fun _ => exact_bool.field fun _ => exact_bool.field fun _ =>
    exact_bool.field fun _ => exact_bool.field fun _ => exact_bool.field fun _ =>
    exact_bool.field fun _ => exact_bool.field fun _ => .pure fun value => ?_
  simp only [Vif1DmaState.ext_iff, true_and, and_assoc]

theorem exact_ownedBytes :
    Exact writeSized readOwnedBytes (fun bytes => bytes.length ≤ kMaximumDeferredBytes) :=
  exact_sized (by decide)

/-- The buffers of the channel to the GIF are not too long. -/
structure GifDmaState.Readable (state : GifDmaState) : Prop where
  fifoData : state.fifoData.length ≤ kMaximumDeferredBytes
  directCallbackData : state.directCallbackData.length ≤ kMaximumDeferredBytes

theorem exact_gifDma : Exact writeGifDma readGifDma GifDmaState.Readable := by
  unfold writeGifDma readGifDma
  simp only [List.flatten_cons, List.flatten_nil]
  refine exact_token.field fun _ => (exact_fin (by decide)).field fun _ =>
    (exact_fin (by decide)).field fun _ => exact_u32.field fun _ => exact_u32.field fun _ =>
    exact_u32.field fun _ => exact_u32.field fun _ => exact_u32.field fun _ =>
    exact_u32.field fun _ => exact_u32.field fun _ => exact_u8.field fun _ =>
    exact_u8.field fun _ => exact_bool.field fun _ => exact_bool.field fun _ =>
    exact_bool.field fun _ => exact_bool.field fun _ => exact_bool.field fun _ =>
    exact_bool.field fun _ => exact_bool.field fun _ => exact_bool.field fun _ =>
    exact_ownedBytes.bind ?_ fun _ hfifo => exact_ownedBytes.bind ?_ fun _ hdirect =>
    .pure fun state => ?_
  · intro state h
    simp only [and_assoc] at h
    exact h.1.fifoData
  · intro state h
    simp only [and_assoc] at h
    exact h.1.directCallbackData
  · constructor
    · intro h
      simp only [and_assoc] at h
      exact GifDmaState.ext_iff.mpr h.2
    · rintro rfl
      simp only [and_true]
      exact ⟨hfifo, hdirect⟩

theorem exact_fromIpuDma : Exact writeFromIpuDma readFromIpuDma (fun _ => True) := by
  unfold writeFromIpuDma readFromIpuDma
  simp only [List.flatten_cons, List.flatten_nil]
  refine exact_token.field fun _ => (exact_fin (by decide)).field fun _ =>
    (exact_fin (by decide)).field fun _ => exact_u32.field fun _ => exact_u32.field fun _ =>
    exact_u32.field fun _ => exact_bool.field fun _ => exact_bool.field fun _ =>
    exact_bool.field fun _ => exact_bool.field fun _ => exact_bool.field fun _ =>
    .pure fun value => ?_
  simp only [FromIpuDmaState.ext_iff, true_and, and_assoc]

theorem exact_toIpuDma : Exact writeToIpuDma readToIpuDma (fun _ => True) := by
  unfold writeToIpuDma readToIpuDma
  simp only [List.flatten_cons, List.flatten_nil]
  refine exact_token.field fun _ => (exact_fin (by decide)).field fun _ =>
    (exact_fin (by decide)).field fun _ => exact_u32.field fun _ => exact_u32.field fun _ =>
    exact_u32.field fun _ => exact_u32.field fun _ => exact_u32.field fun _ =>
    exact_u8.field fun _ => exact_bool.field fun _ => exact_bool.field fun _ =>
    exact_bool.field fun _ => exact_bool.field fun _ => exact_bool.field fun _ =>
    exact_bool.field fun _ => exact_bool.field fun _ => exact_bool.field fun _ =>
    .pure fun value => ?_
  simp only [ToIpuDmaState.ext_iff, true_and, and_assoc]

theorem exact_scratchpadDma : Exact writeScratchpadDma readScratchpadDma (fun _ => True) := by
  unfold writeScratchpadDma readScratchpadDma
  simp only [List.flatten_cons, List.flatten_nil]
  refine exact_token.field fun _ => (exact_fin (by decide)).field fun _ =>
    exact_u32.field fun _ => exact_u32.field fun _ => exact_u32.field fun _ =>
    exact_u32.field fun _ => exact_u32.field fun _ => exact_u32.field fun _ =>
    exact_u32.field fun _ => exact_u32.field fun _ => exact_u8.field fun _ =>
    exact_u8.field fun _ => exact_bool.field fun _ => exact_bool.field fun _ =>
    exact_bool.field fun _ => exact_bool.field fun _ => exact_bool.field fun _ =>
    exact_bool.field fun _ => exact_bool.field fun _ => exact_bool.field fun _ =>
    .pure fun value => ?_
  simp only [ScratchpadDmaState.ext_iff, true_and, and_assoc]

theorem exact_lifecycle : Exact writeLifecycle readLifecycle (fun _ => True) := by
  unfold writeLifecycle readLifecycle
  simp only [List.flatten_cons, List.flatten_nil]
  refine (exact_fin (by decide)).field fun _ => exact_u64.field fun _ => .pure fun value => ?_
  simp only [DmacChannelLifecycle.ext_iff, true_and]

theorem exact_completion : Exact writeCompletion readCompletion (fun _ => True) := by
  unfold writeCompletion readCompletion
  simp only [List.flatten_cons, List.flatten_nil]
  refine exact_token.field fun _ => exact_u64.field fun _ => .pure fun value => ?_
  simp only [DmacCompletionRequest.ext_iff, true_and]

theorem exact_interrupt : Exact writeInterrupt readInterrupt (fun _ => True) := by
  unfold writeInterrupt readInterrupt
  simp only [List.flatten_cons, List.flatten_nil]
  refine (exact_fin (by decide)).field fun _ => exact_u32.field fun _ => exact_u64.field fun _ =>
    exact_u64.field fun _ => exact_u64.field fun _ => .pure fun value => ?_
  simp only [DmacPendingInterrupt.ext_iff, true_and, and_assoc]

theorem exact_counter : Exact writeCounter readCounter (fun _ => True) := by
  unfold writeCounter readCounter
  simp only [List.flatten_cons, List.flatten_nil]
  refine exact_u32.field fun _ => exact_u16.field fun _ => exact_u16.field fun _ =>
    exact_u16.field fun _ => exact_u32.field fun _ => exact_u64.field fun _ =>
    exact_bool.field fun _ => .pure fun value => ?_
  simp only [EeCounterSnapshot.ext_iff, true_and, and_assoc]

theorem exact_videoTiming : Exact writeVideoTiming readVideoTiming (fun _ => True) := by
  unfold writeVideoTiming readVideoTiming
  simp only [List.flatten_cons, List.flatten_nil]
  refine exact_u64.field fun _ => exact_u64.field fun _ => exact_u32.field fun _ =>
    exact_u32.field fun _ => exact_u32.field fun _ => .pure fun value => ?_
  simp only [EeCounterVideoTiming.ext_iff, true_and, and_assoc]

theorem exact_counterSnapshot : Exact writeCounterSnapshot readCounterSnapshot (fun _ => True) := by
  unfold writeCounterSnapshot readCounterSnapshot
  simp only [List.flatten_cons, List.flatten_nil]
  refine (exact_counter.vector _).field fun _ => exact_videoTiming.field fun _ =>
    exact_u64.field fun _ => exact_u64.field fun _ => exact_u64.field fun _ =>
    exact_u32.field fun _ => exact_u64.field fun _ => (exact_fin (by decide)).field fun _ =>
    (exact_fin (by decide)).field fun _ => .pure fun value => ?_
  simp only [EeCounterBankSnapshot.ext_iff, true_and, and_assoc]

theorem exact_blocks : Exact writeBlocks readBlocks (fun _ => True) := by
  unfold writeBlocks readBlocks
  simp only [List.flatten_cons, List.flatten_nil]
  refine (exact_bytes _).field fun _ => (exact_bytes _).field fun _ =>
    (exact_bytes _).field fun _ => (exact_bytes _).field fun _ => (exact_bytes _).field fun _ =>
    (exact_bytes _).field fun _ => (exact_bytes _).field fun _ => (exact_bytes _).field fun _ =>
    .pure fun value => ?_
  simp only [MemoryBlocks.ext_iff, true_and, and_assoc]

theorem exact_counts : Exact writeCounts readCounts (fun _ => True) := by
  unfold writeCounts readCounts
  simp only [List.flatten_cons, List.flatten_nil]
  refine exact_bool.field fun _ => exact_u64.field fun _ => exact_u64.field fun _ =>
    exact_u64.field fun _ => exact_u64.field fun _ => exact_u64.field fun _ =>
    exact_u64.field fun _ => .pure fun value => ?_
  simp only [MemoryCounts.ext_iff, true_and, and_assoc]

theorem exact_ioRegister : Exact writeIoRegister readIoRegister (fun _ => True) := by
  unfold writeIoRegister readIoRegister
  simp only [List.flatten_cons, List.flatten_nil]
  refine exact_u32.field fun _ => exact_u32.field fun _ => .pure fun value => ?_
  simp only [Prod.ext_iff, true_and]

theorem exact_segment : Exact writeSegment readSegment (fun _ => True) := by
  unfold writeSegment readSegment
  simp only [List.flatten_cons, List.flatten_nil]
  refine exact_u64.field fun _ => (exact_fin (by decide)).field fun _ => .pure fun value => ?_
  simp only [Vif1StreamSegment.ext_iff, true_and]

theorem exact_position {n : ℕ} (hn : n ≤ 2 ^ 32) :
    Exact (writePosition (n := n)) (readPosition n) (fun _ => True) where
  read_write value rest _ := by
    have hword : (UInt32.ofNat value.val).toNat = value.val :=
      UInt32.toNat_ofNat_of_lt' (value.isLt.trans_le hn)
    rw [readPosition, writePosition, exact_u32.read_write _ _ trivial, Option.bind_some]
    simp only [hword, value.isLt, dite_true]
  write_read input value rest hread := by
    obtain ⟨⟨word, mid⟩, hword, hvalue⟩ := Option.bind_eq_some_iff.mp hread
    obtain ⟨rfl, -⟩ := exact_u32.write_read input word mid hword
    split at hvalue
    · cases hvalue
      exact ⟨by rw [writePosition, UInt32.ofNat_toNat], trivial⟩
    · cases hvalue

theorem exact_ipuFifo : Exact writeIpuFifo readIpuFifo (fun _ => True) := by
  unfold writeIpuFifo readIpuFifo
  simp only [List.flatten_cons, List.flatten_nil]
  refine (exact_bytes _).field fun _ => (exact_position (by decide)).field fun _ =>
    (exact_position (by decide)).field fun _ => (exact_position (by decide)).field fun _ =>
    .pure fun value => ?_
  simp only [IpuFifo.ext_iff, true_and, and_assoc]

/-- The deferred bytes are not too many. -/
structure VifStreams.Readable (value : VifStreams) : Prop where
  vif0DeferredData : value.vif0DeferredData.length ≤ kMaximumDeferredBytes
  vif1DeferredData : value.vif1DeferredData.length ≤ kMaximumDeferredBytes

theorem exact_vifStreams : Exact writeVifStreams readVifStreams VifStreams.Readable := by
  unfold writeVifStreams readVifStreams
  simp only [List.flatten_cons, List.flatten_nil]
  refine exact_bool.field fun _ => exact_bool.field fun _ => exact_bool.field fun _ =>
    exact_ownedBytes.bind ?_ fun _ hvif0 => exact_u32.field fun _ => exact_bool.field fun _ =>
    exact_bool.field fun _ => exact_bool.field fun _ =>
    exact_ownedBytes.bind ?_ fun _ hvif1 => .pure fun value => ?_
  · intro value h
    simp only [and_assoc] at h
    exact h.1.vif0DeferredData
  · intro value h
    simp only [and_assoc] at h
    exact h.1.vif1DeferredData
  · constructor
    · intro h
      simp only [and_assoc] at h
      exact VifStreams.ext_iff.mpr h.2
    · rintro rfl
      simp only [and_true]
      exact ⟨hvif0, hvif1⟩

/-! ## The whole payload -/

/-- What `readMemory` checks. -/
structure Readable (memory : MemoryImage) : Prop where
  ioCount : memory.ioRegisters.length ≤ kMaximumIoRegisterCount
  ioRegisters : (memory.ioRegisters.map Prod.fst).Nodup
  tlbCount : memory.tlbEntries.length ≤ kMaximumTlbEntryCount
  tlbMappingGeneration : memory.tlbMappingGeneration ≠ 0
  streams : memory.toVifStreams.Readable
  segmentCount : memory.vif1DeferredSegments.length ≤ kMaximumDeferredSegmentCount
  coverage : segmentBytes memory.vif1DeferredSegments = memory.vif1DeferredData.length
  packetCount : memory.path3MaskedFifo.length ≤ kMaximumPath3PacketCount
  packets : (memory.path3MaskedFifo.map List.length).sum ≤ kMaximumDeferredBytes
  gifDma : memory.gifDma.Readable
  readyCount : memory.readyDmacCompletions.length ≤ kMaximumPendingDmacCount
  interruptCount : memory.pendingDmacInterrupts.length ≤ kMaximumPendingDmacCount

theorem exact_ioRegisters (count : ℕ) :
    Exact (fun registers => registers.flatMap writeIoRegister)
      (readChecked readIoRegister (addKey Prod.fst) count [])
      (fun registers => registers.length = count ∧ (registers.map Prod.fst).Nodup) :=
  (exact_ioRegister.checked _ count []).imp fun registers => by simp [taken_addKey]

theorem exact_segments (count : ℕ) :
    Exact (fun segments => segments.flatMap writeSegment)
      (readChecked readSegment (addSize (·.byteCount.toNat) kMaximumDeferredBytes) count 0)
      (fun segments => segments.length = count ∧ segmentBytes segments ≤ kMaximumDeferredBytes) :=
  (exact_segment.checked _ count 0).imp fun segments => by
    rw [taken_addSize (Nat.zero_le _), Nat.zero_add]
    simp [segmentBytes]

theorem exact_packets (count : ℕ) :
    Exact (fun packets => packets.flatMap writeSized)
      (readChecked readOwnedBytes (addSize List.length kMaximumDeferredBytes) count 0)
      (fun packets => packets.length = count ∧
        (packets.map List.length).sum ≤ kMaximumDeferredBytes) := by
  refine (exact_ownedBytes.checked _ count 0).imp fun packets => ?_
  rw [taken_addSize (Nat.zero_le _), Nat.zero_add]
  constructor
  · exact fun h => ⟨h.1, h.2.2⟩
  · refine fun h => ⟨h.1, fun packet hmem => ?_, h.2⟩
    exact (List.le_sum_of_mem (List.mem_map_of_mem hmem)).trans h.2

theorem exact_memory : Exact writeMemory (accepts readMemory) Readable := by
  unfold writeMemory readMemory
  simp only [List.flatten_cons, List.flatten_nil, accepts_bind, accepts_orError, accepts_ite,
    accepts_pure, accepts_throw]
  refine exact_u32.field fun version => .guard ?_ fun hversion => exact_blocks.field fun _ =>
    exact_counts.field fun _ => (exact_count (by decide)).bind ?_ fun ioCount hioCount =>
    (exact_ioRegisters ioCount).bind ?_ fun _ hioRegisters => exact_gsRegisters.field fun _ =>
    exact_vifRegisters.field fun _ => exact_vifRegisters.field fun _ =>
    (exact_dmaRegisters.vector _).field fun _ =>
    (exact_count (by decide)).bind ?_ fun tlbCount htlbCount =>
    (exact_tlbEntry.list tlbCount).bind ?_ fun _ htlbEntries => exact_bool.field fun _ =>
    exact_u64.field fun generation => .guard ?_ fun hgeneration =>
    exact_vifStreams.bind ?_ fun streams hstreams =>
    (exact_count (by decide)).bind ?_ fun segmentCount hsegmentCount =>
    (exact_segments segmentCount).bind ?_ fun segments hsegments => .guard ?_ fun hcoverage =>
    (exact_fin (by decide)).field fun _ =>
    (exact_count (by decide)).bind ?_ fun packetCount hpacketCount =>
    (exact_packets packetCount).bind ?_ fun _ hpackets => exact_vif0Dma.field fun _ =>
    exact_vif1Dma.field fun _ => exact_gifDma.bind ?_ fun _ hgifDma =>
    exact_fromIpuDma.field fun _ => exact_toIpuDma.field fun _ => exact_ipuFifo.field fun _ =>
    exact_ipuFifo.field fun _ => (exact_scratchpadDma.vector _).field fun _ =>
    (exact_lifecycle.vector _).field fun _ =>
    (exact_count (by decide)).bind ?_ fun readyCount hreadyCount =>
    (exact_completion.list readyCount).bind ?_ fun _ hready =>
    (exact_count (by decide)).bind ?_ fun interruptCount hinterruptCount =>
    (exact_interrupt.list interruptCount).bind ?_ fun _ hinterrupts => exact_u64.field fun _ =>
    exact_u64.field fun _ => exact_counterSnapshot.field fun _ => .pure fun memory => ?_
  · rintro memory ⟨-, rfl⟩
    rfl
  · intro memory h
    simp only [and_assoc] at h
    exact h.1.ioCount
  · rintro memory ⟨h, hcount⟩
    simp only [and_assoc] at h
    exact ⟨hcount, h.1.ioRegisters⟩
  · intro memory h
    simp only [and_assoc] at h
    exact h.1.tlbCount
  · rintro memory ⟨-, hcount⟩
    exact ⟨hcount, fun _ _ => trivial⟩
  · rintro memory ⟨h, rfl⟩
    simp only [and_assoc] at h
    exact h.1.tlbMappingGeneration
  · intro memory h
    simp only [and_assoc] at h
    exact h.1.streams
  · intro memory h
    simp only [and_assoc] at h
    exact h.1.segmentCount
  · rintro memory ⟨h, hcount⟩
    simp only [and_assoc] at h
    exact ⟨hcount, h.1.coverage.trans_le h.1.streams.vif1DeferredData⟩
  · rintro memory ⟨h, rfl⟩
    simp only [and_assoc] at h
    obtain ⟨h, -, -, -, -, -, -, -, -, -, -, -, -, -, rfl, -⟩ := h
    exact h.coverage
  · intro memory h
    simp only [and_assoc] at h
    exact h.1.packetCount
  · rintro memory ⟨h, hcount⟩
    simp only [and_assoc] at h
    exact ⟨hcount, h.1.packets⟩
  · intro memory h
    simp only [and_assoc] at h
    exact h.1.gifDma
  · intro memory h
    simp only [and_assoc] at h
    exact h.1.readyCount
  · rintro memory ⟨-, hcount⟩
    exact ⟨hcount, fun _ _ => trivial⟩
  · intro memory h
    simp only [and_assoc] at h
    exact h.1.interruptCount
  · rintro memory ⟨-, hcount⟩
    exact ⟨hcount, fun _ _ => trivial⟩
  · constructor
    · intro h
      simp only [and_assoc] at h
      obtain ⟨-, -, rfl, rfl, -, rfl, rfl, rfl, rfl, rfl, -, rfl, rfl, rfl, rfl, -, rfl, rfl, -,
        rfl, rfl, rfl, rfl, rfl, rfl, rfl, rfl, rfl, rfl, -, rfl, -, rfl, rfl, rfl, rfl⟩ := h
      rfl
    · rintro rfl
      simp only [hversion, hioRegisters.1, htlbEntries.1, hsegments.1, hpackets.1, hready.1,
        hinterrupts.1, and_true]
      exact {
        ioCount := hioRegisters.1.trans_le hioCount
        ioRegisters := hioRegisters.2
        tlbCount := htlbEntries.1.trans_le htlbCount
        tlbMappingGeneration := hgeneration
        streams := hstreams
        segmentCount := hsegments.1.trans_le hsegmentCount
        coverage := hcoverage
        packetCount := hpackets.1.trans_le hpacketCount
        packets := hpackets.2
        gifDma := hgifDma
        readyCount := hready.1.trans_le hreadyCount
        interruptCount := hinterrupts.1.trans_le hinterruptCount }

end MemoryImage

end Ps2Recomp
