import Ps2Recomp.SaveState.RuntimeCore
import Ps2Recomp.Lib.RecordCodec
import Ps2Recomp.Event.Scheduler
import Ps2Recomp.Cop0.Timing

/-!
# The bytes of the runtime core chunk

The reads of `PS2Runtime::decodeRuntimeCoreSaveState` (`ps2_runtime_save_state.cpp`), in their order
and with their errors: `readCore` returns the image that the decoder then commits, or the error it
reports. The checks of the threads and of the scheduler are those of `checkRuntimeCore`.

* The fields of a record stand in the order in which they are read.
* A `float` is its bits.
-/

namespace Ps2Recomp

namespace CoreChunk

open ByteCodec

abbrev kRuntimeStateVersion : UInt32 := 1

abbrev kMaximumSavedMapEntries : ℕ := 2 ^ 20

/-! ## Values -/

def readI32 : ByteReader Int := (fun word : UInt32 => word.toInt32.toInt) <$> readU32

/-- A `uint64_t` of the timing code. -/
def readTick : ByteReader (Fin uint64Count) :=
  (fun word : UInt64 => ⟨word.toNat, word.toNat_lt⟩) <$> readU64

def readWord : ByteReader (BitVec 32) := UInt32.toBitVec <$> readU32

/-- `readEnum8`: the byte is the place of the enumerator. -/
def readEnum8 {α : Type} (enumerators : List α) : ByteReader α := fun input =>
  (readU8 input).bind fun p => enumerators[p.1.toNat]?.map fun value => (value, p.2)

/-- `readM128`: the lowest word comes first. -/
def readM128 : ByteReader (BitVec 128) :=
  (fun w0 w1 w2 w3 : BitVec 32 => w3 ++ w2 ++ w1 ++ w0) <$>
    readWord <*> readWord <*> readWord <*> readWord

/-- The loop over a vector that was resized to `count`. -/
def readEach {ε α : Type} (read : FieldReader ε α) : ℕ → FieldReader ε (List α)
  | 0 => return []
  | count + 1 => do
    let value ← read
    let rest ← readEach read count
    return value :: rest

/-! ## The context -/

/-- The VU0 registers of an `R5900Context`. -/
structure Vu0Registers where
  vu0_vf : List.Vector (BitVec 128) 32
  vi : List.Vector UInt16 16
  vu0_q : UInt32
  vu0_p : UInt32
  vu0_i : UInt32
  vu0_r : BitVec 128
  vu0_acc : BitVec 128
  vu0_status : UInt16
  vu0_mac_flags : UInt32
  vu0_clip_flags : UInt32
  vu0_clip_flags2 : UInt32
  vu0_cmsar0 : UInt32
  vu0_cmsar1 : UInt32
  vu0_cmsar2 : UInt32
  vu0_cmsar3 : UInt32
  vu0_vpu_stat : UInt32
  vu0_vpu_stat2 : UInt32
  vu0_vpu_stat3 : UInt32
  vu0_vpu_stat4 : UInt32
  vu0_tpc : UInt32
  vu0_tpc2 : UInt32
  vu0_fbrst : UInt32
  vu0_fbrst2 : UInt32
  vu0_fbrst3 : UInt32
  vu0_fbrst4 : UInt32
  vu0_itop : UInt32
  vu0_top : UInt32
  vu0_info : UInt32
  vu0_xitop : UInt32
  vu0_pc : UInt32
  vu0_cf : List.Vector UInt32 4
  deriving Inhabited

/-- `enforceVu0RegisterInvariants`: VF0 and VI0 are constants. -/
def Vu0Registers.enforceVu0RegisterInvariants (registers : Vu0Registers) : Vu0Registers :=
  { registers with
    vu0_vf := registers.vu0_vf.set 0 (0x3f800000 <<< 96)
    vi := registers.vi.set 0 0 }

def readVu0Registers : ByteReader Vu0Registers :=
  .mk <$> readVector readM128 32 <*> readVector readU16 16 <*> readU32 <*> readU32 <*> readU32 <*>
    readM128 <*> readM128 <*> readU16 <*> readU32 <*> readU32 <*> readU32 <*> readU32 <*>
    readU32 <*> readU32 <*> readU32 <*> readU32 <*> readU32 <*> readU32 <*> readU32 <*> readU32 <*>
    readU32 <*> readU32 <*> readU32 <*> readU32 <*> readU32 <*> readU32 <*> readU32 <*> readU32 <*>
    readU32 <*> readU32 <*> readVector readU32 4

/-- The members of an `R5900Context` that `R5900Context` leaves out. -/
structure R5900Registers where
  insn_count : UInt64
  hi : UInt64
  lo : UInt64
  hi1 : UInt64
  lo1 : UInt64
  sa : UInt32
  vu0 : Vu0Registers
  cop0_index : UInt32
  cop0_entrylo0 : UInt32
  cop0_entrylo1 : UInt32
  cop0_context : UInt32
  cop0_pagemask : UInt32
  cop0_badvaddr : UInt32
  cop0_count : UInt32
  cop0_entryhi : UInt32
  cop0_compare : UInt32
  cop0_status : UInt32
  cop0_cause : UInt32
  cop0_epc : UInt32
  cop0_prid : UInt32
  cop0_config : UInt32
  cop0_badpaddr : UInt32
  cop0_bpc : UInt32
  cop0_iab : UInt32
  cop0_iabm : UInt32
  cop0_dab : UInt32
  cop0_dabm : UInt32
  cop0_dvb : UInt32
  cop0_dvbm : UInt32
  cop0_perf : UInt32
  cop0_pcr0 : UInt32
  cop0_pcr1 : UInt32
  cop0_taglo : UInt32
  cop0_taghi : UInt32
  cop0_errorepc : UInt32
  cop2_ccr : List.Vector UInt32 32
  f : List.Vector UInt32 32
  f_acc : UInt32
  fcr31 : UInt32
  deriving Inhabited

def readProfile : ByteReader EeInstructionIssueProfile :=
  .mk <$> readU32 <*> readU32 <*> readU32 <*> readU32

/-- `readR5900Context`. -/
def readR5900Context : ByteReader (R5900Context × R5900Registers) := do
  let r ← readVector readM128 32
  let pc ← readU32
  let insn_count ← readU64
  let ee_block_cycle_ticks ← readU32
  let ee_block_cycle_active ← readBool
  let cop0_random_pending_retirements ← readU64
  let ee_performance_issue_pending ← readBool
  let ee_performance_pending_issue ← readProfile
  let hi ← readU64
  let lo ← readU64
  let hi1 ← readU64
  let lo1 ← readU64
  let sa ← readU32
  let vu0 ← readVu0Registers
  let cop0_index ← readU32
  let cop0_random ← readU32
  let cop0_entrylo0 ← readU32
  let cop0_entrylo1 ← readU32
  let cop0_context ← readU32
  let cop0_pagemask ← readU32
  let cop0_wired ← readU32
  let cop0_badvaddr ← readU32
  let cop0_count ← readU32
  let cop0_entryhi ← readU32
  let cop0_compare ← readU32
  let cop0_status ← readU32
  let cop0_cause ← readU32
  let cop0_epc ← readU32
  let cop0_prid ← readU32
  let cop0_config ← readU32
  let cop0_badpaddr ← readU32
  let cop0_bpc ← readU32
  let cop0_iab ← readU32
  let cop0_iabm ← readU32
  let cop0_dab ← readU32
  let cop0_dabm ← readU32
  let cop0_dvb ← readU32
  let cop0_dvbm ← readU32
  let cop0_perf ← readU32
  let cop0_pcr0 ← readU32
  let cop0_pcr1 ← readU32
  let cop0_taglo ← readU32
  let cop0_taghi ← readU32
  let cop0_errorepc ← readU32
  let in_delay_slot ← readBool
  let branch_pc ← readU32
  let cop2_ccr ← readVector readU32 32
  let f ← readVector readU32 32
  let f_acc ← readU32
  let fcr31 ← readU32
  return (
    { r := r.get, pc, ee_block_cycle_ticks, ee_block_cycle_active, cop0_random_pending_retirements,
      ee_performance_issue_pending, ee_performance_pending_issue, cop0_random, cop0_wired,
      in_delay_slot, branch_pc },
    { insn_count, hi, lo, hi1, lo1, sa, vu0 := vu0.enforceVu0RegisterInvariants, cop0_index,
      cop0_entrylo0, cop0_entrylo1, cop0_context, cop0_pagemask, cop0_badvaddr, cop0_count,
      cop0_entryhi, cop0_compare, cop0_status, cop0_cause, cop0_epc, cop0_prid, cop0_config,
      cop0_badpaddr, cop0_bpc, cop0_iab, cop0_iabm, cop0_dab, cop0_dabm, cop0_dvb, cop0_dvbm,
      cop0_perf, cop0_pcr0, cop0_pcr1, cop0_taglo, cop0_taghi, cop0_errorepc, cop2_ccr, f, f_acc,
      fcr31 })

/-! ## Timing and events -/

/-- `readCop0Timing`. -/
def readCop0Timing : ByteReader Cop0Timing := do
  let count ← readWord
  let compare ← readWord
  let pccr ← readWord
  let pcr ← readVector readWord 2
  let lastCountCycle ← readTick
  let lastPerformanceCycle ← readVector readTick 2
  let timerArmed ← readBool
  let timerPending ← readBool
  return { count, compare, pccr, pcr := pcr.get, lastCountCycle,
           lastPerformanceCycle := lastPerformanceCycle.get, timerArmed, timerPending }

def readEventSource : ByteReader EeEventSource :=
  readEnum8 ((List.finRange kEeEventSourceCount).map .ofIndex)

/-- `readEventToken`. -/
def readEventToken : ByteReader EeEventToken := .mk <$> readEventSource <*> readTick

def readEventSlot : ByteReader EeEventSlotSnapshot :=
  .mk <$> readEventSource <*> readTick <*> readTick <*> readTick <*> readBool

def readEventStatistics : ByteReader EeEventSchedulerStatistics :=
  .mk <$> readTick <*> readTick <*> readTick <*> readTick <*> readTick <*> readTick <*> readTick

/-- `readEventScheduler`: the checks of `EeEventScheduler::restore` are not made here. -/
def readEventScheduler : ByteReader EeEventSchedulerSnapshot := do
  let slots ← readVector readEventSlot kEeEventSourceCount
  let nextSequence ← readTick
  let statistics ← readEventStatistics
  return { slots := slots.get, nextSequence, statistics }

/-! ## Threads -/

def readWaitKind : ByteReader EeSchedulerWaitKind :=
  readEnum8 [.None, .Sleep, .Semaphore, .EventFlag, .HleSemaphore]

def readWaitCompletion : ByteReader EeSchedulerWaitCompletion :=
  readEnum8 [.None, .Satisfied, .Released, .ObjectDeleted, .TimedOut]

def readWaitKey : ByteReader EeSchedulerWaitKey := .mk <$> readWaitKind <*> readI32

def readCompletedWait : ByteReader EeSchedulerCompletedWait :=
  .mk <$> readWaitKey <*> readWaitCompletion

def readScheduledThread : ByteReader EeSchedulerThreadSnapshot :=
  .mk <$> readI32 <*> (UInt32.toNat <$> readU32) <*> readI32 <*>
    readEnum8 [.Dormant, .Ready, .Running, .Waiting, .Suspended, .WaitSuspended] <*>
    readWaitKey <*> readCompletedWait <*> readBool <*> (UInt32.toNat <$> readU32) <*>
    (UInt32.toNat <$> readU32) <*> readTick

def readOptional {α : Type} (read : ByteReader α) : ByteReader (Option α) := do
  if ← readBool then some <$> read else return none

/-- `readThreadScheduler`: a fresh scheduler has to restore what was read. -/
def readThreadScheduler : ByteReader EeThreadSchedulerSnapshot := do
  let count ← readCount kMaximumSavedThreads
  let threads ← readList readScheduledThread count
  let currentThreadId ← readOptional readI32
  let nextQueueSequence ← readTick
  let canonicalTick ← readTick
  let state : EeThreadSchedulerSnapshot :=
    { threads, currentThreadId, nextQueueSequence, canonicalTick := canonicalTick.val }
  if (EeThreadScheduler.restore {} state).1 = true then return state else failure

def readGuestState : ByteReader EeThreadGuestStateSnapshot :=
  .mk <$> readI32 <*> readI32 <*> readI32 <*> readI32 <*> readI32 <*> readI32 <*>
    readEnum8 [.None, .Sleep, .Semaphore, .EventFlag, .HleSemaphore] <*> readI32 <*> readBool <*>
    readBool <*> readTick

/-- The reads of `readSavedThread`, with the registers that a `SavedThread` leaves out. -/
def readSavedThread : ByteReader (SavedThread × R5900Registers) := do
  let id ← readI32
  let entry ← readU32
  let stack ← readU32
  let stackSize ← readU32
  let gp ← readU32
  let priority ← readU32
  let attr ← readU32
  let option ← readU32
  let arg ← readU32
  let generation ← readU32
  let ownsStack ← readBool
  let tlsBase ← readU32
  let guest ← readGuestState
  let context ← readR5900Context
  let currentPc ← readU32
  let pendingWait ← readWaitCompletion
  let pendingEventFlagResultBits ← readU32
  let resumeAfterNativeWait ← readBool
  return (
    { id, entry, stack, stackSize, gp, priority := priority.toNat, attr, option, arg,
      generation := generation.toNat, ownsStack, tlsBase, guest, context := context.1, currentPc,
      pendingWait, pendingEventFlagResultBits, resumeAfterNativeWait }, context.2)

/-! ## The rest of the chunk -/

/-- `Vu1ExecutionTiming`. -/
structure Vu1ExecutionTiming where
  generation : UInt64 := 0
  lastAdvancedTick : EeTick := 0
  totalAdvancedCycles : UInt64 := 0
  eventToken : EeEventToken := { source := .VifVu1Finish }

structure EventTokens where
  vu1ExecutionTiming : Vu1ExecutionTiming := {}
  vif0VuFinishEventToken : EeEventToken := { source := .VifVu0Finish }
  vif0DmaEventToken : EeEventToken := { source := .DmacVif0 }
  vif1DmaEventToken : EeEventToken := { source := .DmacVif1 }
  gifDmaEventToken : EeEventToken := { source := .DmacGif }
  fromIpuDmaEventToken : EeEventToken := { source := .DmacFromIpu }
  toIpuDmaEventToken : EeEventToken := { source := .DmacToIpu }
  hleSifDmaEventToken : EeEventToken := { source := .HleSif1 }
  fromScratchpadDmaEventToken : EeEventToken := { source := .DmacFromScratchpad }
  toScratchpadDmaEventToken : EeEventToken := { source := .DmacToScratchpad }

def readEventTokens : ByteReader EventTokens :=
  .mk <$> (.mk <$> readU64 <*> readTick <*> readU64 <*> readEventToken) <*> readEventToken <*>
    readEventToken <*> readEventToken <*> readEventToken <*> readEventToken <*> readEventToken <*>
    readEventToken <*> readEventToken <*> readEventToken

inductive HleSifDmaDestination where
  | IopRam
  | SyntheticGuest
  deriving DecidableEq

structure HleSifDmaTransfer where
  src : UInt32
  dest : UInt32
  size : UInt32
  iopOffset : UInt32
  destination : HleSifDmaDestination
  deriving DecidableEq

abbrev kMaximumHleSifDmaTransfers : ℕ := 32

abbrev kHleSifDmaQueueCapacity : ℕ := 32

/-- `HleSifDmaOperation`, with the transfers that its `transferCount` counts. -/
structure HleSifDmaOperation where
  transferId : UInt32
  transfers : List HleSifDmaTransfer
  operationGeneration : UInt64
  iopCycles : UInt64
  deriving DecidableEq

def readSifTransfer : ByteReader HleSifDmaTransfer :=
  .mk <$> readU32 <*> readU32 <*> readU32 <*> readU32 <*> readEnum8 [.IopRam, .SyntheticGuest]

def readSifOperation : FieldReader String HleSifDmaOperation := do
  let transferId ← readU32.orError "invalid HLE SIF DMA operation"
  let transferCount ←
    (readCount kMaximumHleSifDmaTransfers).orError "invalid HLE SIF DMA operation"
  let transfers ←
    (readList readSifTransfer transferCount).orError "invalid HLE SIF DMA transfer"
  let operationGeneration ← readU64.orError "truncated HLE SIF DMA operation"
  let iopCycles ← readU64.orError "truncated HLE SIF DMA operation"
  return { transferId, transfers, operationGeneration, iopCycles }

inductive EeVSyncPhase where
  | Start
  | GsBlank
  | End
  deriving DecidableEq

inductive EeVSyncVideoModeClass where
  | Uninitialized
  | Unknown
  | Ntsc
  | Pal
  | Vesa
  | Sdtv480P
  | Sdtv576P
  | Hdtv720P
  | Hdtv1080I
  | Hdtv1080P
  | DvdNtsc
  | DvdPal
  deriving DecidableEq

structure EeVSyncDurations where
  periodCycles : UInt64 := 4915200
  renderCycles : UInt64 := 4493898
  blankCycles : UInt64 := 421302
  gsBlankCycles : UInt64 := 65535
  hRenderCycles : UInt32 := 15669
  hBlankCycles : UInt32 := 3055
  hSyncErrorCycles : UInt32 := 149

structure EeVSyncTiming where
  phase : EeVSyncPhase := .Start
  startTick : EeTick := 0
  eventToken : EeEventToken := { source := .VSync }
  durations : EeVSyncDurations := {}
  currentVSyncTick : UInt64 := 0
  videoMode : UInt32 := 0
  videoModeClass : EeVSyncVideoModeClass := .Uninitialized
  videoModeConfigured : Bool := false
  interlaced : Bool := true
  enabled : Bool := false

def readDurations : ByteReader EeVSyncDurations :=
  .mk <$> readU64 <*> readU64 <*> readU64 <*> readU64 <*> readU32 <*> readU32 <*> readU32

def readVSyncTiming : ByteReader EeVSyncTiming :=
  .mk <$> readEnum8 [.Start, .GsBlank, .End] <*> readTick <*> readEventToken <*> readDurations <*>
    readU64 <*> readU32 <*>
    readEnum8 [.Uninitialized, .Unknown, .Ntsc, .Pal, .Vesa, .Sdtv480P, .Sdtv576P, .Hdtv720P,
      .Hdtv1080I, .Hdtv1080P, .DvdNtsc, .DvdPal] <*>
    readBool <*> readBool <*> readBool

/-- The tokens of the counters and of the COP0 timer, and the interrupts of the counters. -/
structure CounterEvents where
  eeCounterEventToken : EeEventToken := { source := .EeCounters }
  cop0TimerEventToken : EeEventToken := { source := .Cop0Timer }
  cop0PerformanceEventToken : EeEventToken := { source := .Cop0Performance }
  pendingEeCounterInterrupts : UInt32 := 0

def readCounterEvents : ByteReader CounterEvents :=
  .mk <$> readEventToken <*> readEventToken <*> readEventToken <*> readU32

inductive PendingVSyncKind where
  | Start
  | End
  deriving DecidableEq

structure PendingVSyncDelivery where
  kind : PendingVSyncKind
  tick : UInt64
  eventSequence : UInt64

abbrev kMaximumPendingVSyncDeliveries : ℕ := 1024

def readPendingVSync : ByteReader PendingVSyncDelivery :=
  .mk <$> readEnum8 [.Start, .End] <*> readU64 <*> readU64

/-- `DmacPendingInterrupt`, with the number of its channel. -/
structure PendingInterrupt where
  source : Fin 10
  cause : UInt32
  channelGeneration : UInt64
  eventSequence : UInt64
  publicationSequence : UInt64

def readPendingInterrupt : ByteReader PendingInterrupt :=
  .mk <$> readFin 10 <*> readU32 <*> readU64 <*> readU64 <*> readU64

structure GuestHeapBlock where
  addr : UInt32
  size : UInt32
  free : Bool

structure GuestHeap where
  heapBase : UInt32 := 0x00100000
  heapEnd : UInt32 := 0x00100000
  heapLimit : UInt32 := 0x02000000
  heapSuggestedBase : UInt32 := 0x00100000
  heapConfigured : Bool := false
  heapBlocks : List GuestHeapBlock := []

def readHeapBlock : ByteReader GuestHeapBlock := .mk <$> readU32 <*> readU32 <*> readBool

def readHeap : FieldReader String GuestHeap := do
  let heapBase ← readU32.orError "invalid guest heap state"
  let heapEnd ← readU32.orError "invalid guest heap state"
  let heapLimit ← readU32.orError "invalid guest heap state"
  let heapSuggestedBase ← readU32.orError "invalid guest heap state"
  let heapConfigured ← readBool.orError "invalid guest heap state"
  let heapBlockCount ← (readCount kMaximumSavedMapEntries).orError "invalid guest heap state"
  let heapBlocks ← (readList readHeapBlock heapBlockCount).orError "invalid guest heap block"
  return { heapBase, heapEnd, heapLimit, heapSuggestedBase, heapConfigured, heapBlocks }

/-- The members of the runtime that the chunk saves after the threads. -/
structure CoreTail where
  eventTokens : EventTokens := {}
  /-- The operations from the head of the ring on. -/
  hleSifDmaQueue : List HleSifDmaOperation := []
  hleSifDmaOperationGeneration : UInt64 := 0
  eeVSyncTiming : EeVSyncTiming := {}
  counterEvents : CounterEvents := {}
  pendingVSyncDeliveries : List PendingVSyncDelivery := []
  vu0CycleTick : EeTick := 0
  pendingDmacInterrupts : List PendingInterrupt := []
  dmacCompletionReady : Bool := false
  dmacInterruptDeliveryDirty : Bool := false
  guestHeap : GuestHeap := {}

/-- `atEnd`, or the error. -/
def atEnd {ε : Type} (error : ε) : FieldReader ε Unit := fun input =>
  if input.isEmpty then .ok ((), []) else .error error

def readCoreTail : FieldReader String CoreTail := do
  let eventTokens ← readEventTokens.orError "invalid runtime event-token state"
  let operationCount ←
    (readCount kHleSifDmaQueueCapacity).orError "invalid HLE SIF DMA queue size"
  let hleSifDmaQueue ← readEach readSifOperation operationCount
  let hleSifDmaOperationGeneration ← readU64.orError "truncated HLE SIF generation"
  let eeVSyncTiming ← readVSyncTiming.orError "invalid VSync state"
  let counterEvents ← readCounterEvents.orError "invalid counter event state"
  let deliveryCount ← (readCount kMaximumPendingVSyncDeliveries).orError
    "invalid pending VSync delivery count"
  let pendingVSyncDeliveries ← (readList readPendingVSync deliveryCount).orError
    "invalid pending VSync delivery"
  let vu0CycleTick ← readTick.orError "invalid pending DMAC state"
  let interruptCount ← (readCount 4096).orError "invalid pending DMAC state"
  let pendingDmacInterrupts ← (readList readPendingInterrupt interruptCount).orError
    "invalid pending DMAC interrupt"
  let dmacCompletionReady ← readBool.orError "truncated DMAC publication state"
  let dmacInterruptDeliveryDirty ← readBool.orError "truncated DMAC publication state"
  let guestHeap ← readHeap
  atEnd "runtime core chunk has trailing data"
  return { eventTokens, hleSifDmaQueue, hleSifDmaOperationGeneration, eeVSyncTiming, counterEvents,
           pendingVSyncDeliveries, vu0CycleTick, pendingDmacInterrupts, dmacCompletionReady,
           dmacInterruptDeliveryDirty, guestHeap }

/-! ## The chunk -/

/-- What the chunk saves before the threads. -/
structure CoreHeader where
  cpu : R5900Context × R5900Registers
  cop0 : Cop0Timing
  timeline : EeTick
  events : EeEventSchedulerSnapshot
  scheduler : EeThreadSchedulerSnapshot
  nextThreadId : Int
  nextGeneration : UInt32
  currentThreadId : Int
  threadCount : ℕ

def readVersion : ByteReader Unit := do
  let version ← readU32
  if version = kRuntimeStateVersion then return () else failure

def readHeader : ByteReader CoreHeader := do
  readVersion
  .mk <$> readR5900Context <*> readCop0Timing <*> readTick <*> readEventScheduler <*>
    readThreadScheduler <*> readI32 <*> readU32 <*> readI32 <*> readCount kMaximumSavedThreads

/-- A chunk that was read and checked. -/
structure CoreImage where
  header : CoreHeader
  threadRegisters : List (Int × R5900Registers)
  checked : RuntimeCorePayload Unit
  tail : CoreTail

/-- What `checkRuntimeCore` checks of the chunk: the rest of it is read after that. -/
def corePayload (header : CoreHeader) (threads : List SavedThread) : RuntimeCorePayload Unit where
  cpuContext := header.cpu.1
  scheduler := header.scheduler
  nextThreadId := header.nextThreadId
  nextGeneration := header.nextGeneration
  currentThreadId := header.currentThreadId
  threads := threads
  sections := ()

/-- All of `decodeRuntimeCoreSaveState` before its first assignment to a member. -/
def readCore (input : Bytes) : Except String CoreImage :=
  match readHeader input with
  | none => .error "invalid runtime core save-state header"
  | some (header, rest) =>
    match readList readSavedThread header.threadCount rest with
    | none => .error "invalid or duplicate saved EE thread"
    | some (threads, rest) =>
      match PS2Runtime.checkRuntimeCore (fun _ => .ok ())
          (corePayload header (threads.map Prod.fst)) with
      | .error message => .error message
      | .ok checked =>
        match readCoreTail rest with
        | .error message => .error message
        | .ok (tail, _) =>
          .ok
            { header := header
              threadRegisters := threads.map fun thread => (thread.1.id, thread.2)
              checked := checked
              tail := tail }

end CoreChunk

end Ps2Recomp
