import Ps2Recomp.SaveState.CoreChunk

/-!
# The bytes of the HLE chunk

The reads of `PS2Runtime::decodeRuntimeHleSaveState` (`ps2_runtime_save_state.cpp`), in their order
and with their errors: `readHle` returns the members that the decoder then moves into the runtime.
Where the decoder returns `false` without a text, the error is `none`.

* A map is the list of its entries, a string the list of its bytes.
* The fields of a record stand in the order in which they are read.
-/

namespace Ps2Recomp

namespace HleChunk

open ByteCodec CoreChunk

abbrev kMaximumSavedObjects : ℕ := 65536

abbrev kMaximumSavedString : ℕ := 2 ^ 20

abbrev HleReader (α : Type) := FieldReader (Option String) α

/-- Read, or report the text. -/
abbrev check {α : Type} (text : String) (read : ByteReader α) : HleReader α :=
  read.orError (some text)

/-- Read, or fail without a text. -/
abbrev quiet {α : Type} (read : ByteReader α) : HleReader α := read.orError none

/-- `emplace` in a loop: `count` entries of distinct keys. -/
def readEntries {κ α : Type} [DecidableEq κ] (key : ByteReader κ) (value : ByteReader α)
    (count : ℕ) : ByteReader (List (κ × α)) :=
  readChecked (Prod.mk <$> key <*> value) (addKey Prod.fst) count []

/-- `map[key] = value` in a loop: of two entries with one key the later stays. -/
def assignAll {κ α : Type} [DecidableEq κ] (entries : List (κ × α)) : List (κ × α) :=
  entries.foldl (fun map entry => entry :: map.filter (·.1 ≠ entry.1)) []

/-- A count, then the entries. -/
def readMap {κ α : Type} [DecidableEq κ] (key : ByteReader κ) (value : ByteReader α) :
    ByteReader (List (κ × α)) := do
  let count ← readCount kMaximumSavedObjects
  readEntries key value count

/-- `readU32Map`. -/
def readU32Map : ByteReader (List (UInt32 × UInt32)) := readMap readU32 readU32

def readString : ByteReader Bytes := readSized kMaximumSavedString

/-! ## Synchronisation objects -/

structure SemaInfo where
  count : Int
  maxCount : Int
  initCount : Int
  attr : UInt32
  option : UInt32
  waiters : Int
  deleted : Bool

def readSema : ByteReader SemaInfo :=
  .mk <$> readI32 <*> readI32 <*> readI32 <*> readU32 <*> readU32 <*> readI32 <*> readBool

structure SchedulerWaiter where
  generation : UInt32
  waitBits : UInt32
  mode : UInt32

def readWaiter : ByteReader SchedulerWaiter := .mk <$> readU32 <*> readU32 <*> readU32

structure EventFlagInfo where
  attr : UInt32
  option : UInt32
  initBits : UInt32
  bits : UInt32
  waiters : Int
  deleted : Bool
  schedulerWaiters : List (Int × SchedulerWaiter)
  legacyWaitOrder : List Int

/-- A round of the loop over the event flags, up to the `emplace`. -/
def readEventFlag : HleReader (Int × EventFlagInfo) := do
  let id ← check "invalid saved event flag" readI32
  let attr ← check "invalid saved event flag" readU32
  let option ← check "invalid saved event flag" readU32
  let initBits ← check "invalid saved event flag" readU32
  let bits ← check "invalid saved event flag" readU32
  let waiters ← check "invalid saved event flag" readI32
  let deleted ← check "invalid saved event flag" readBool
  let waiterCount ← check "invalid saved event flag" (readCount kMaximumSavedThreads)
  let schedulerWaiters ← check "invalid saved event-flag waiter"
    (readEntries readI32 readWaiter waiterCount)
  let legacyCount ← check "invalid legacy event wait order" (readCount kMaximumSavedThreads)
  let legacyWaitOrder ← check "truncated legacy event wait order" (readList readI32 legacyCount)
  return (id, { attr, option, initBits, bits, waiters, deleted, schedulerWaiters, legacyWaitOrder })

def readEventFlags : ℕ → List Int → HleReader (List (Int × EventFlagInfo))
  | 0, _ => return []
  | count + 1, ids => do
    let flag ← readEventFlag
    if flag.1 ∈ ids then throw (some "duplicate saved event flag")
    else
      let rest ← readEventFlags count (flag.1 :: ids)
      return flag :: rest

/-- `EeSyncRuntimeState`. -/
structure EeSyncRuntimeState where
  nextSemaId : Int := 0
  semas : List (Int × SemaInfo) := []
  nextEventFlagId : Int := 1
  eventFlags : List (Int × EventFlagInfo) := []

def readSync : HleReader EeSyncRuntimeState := do
  let nextSemaId ← check "invalid saved semaphore registry" readI32
  let semaCount ← check "invalid saved semaphore registry" (readCount kMaximumSavedObjects)
  let semas ← check "invalid saved semaphore" (readEntries readI32 readSema semaCount)
  let nextEventFlagId ← check "invalid saved event-flag registry" readI32
  let flagCount ← check "invalid saved event-flag registry" (readCount kMaximumSavedObjects)
  let eventFlags ← readEventFlags flagCount []
  return { nextSemaId, semas, nextEventFlagId, eventFlags }

/-! ## The kernel -/

structure ExitHandlerEntry where
  func : UInt32
  arg : UInt32

def readExitHandlers : HleReader (Int × List ExitHandlerEntry) := do
  let threadId ← check "invalid saved exit-handler list" readI32
  let handlerCount ← check "invalid saved exit-handler list" (readCount kMaximumSavedObjects)
  let handlers ← check "truncated saved exit handler"
    (readList (ExitHandlerEntry.mk <$> readU32 <*> readU32) handlerCount)
  return (threadId, handlers)

/-- `EeKernelRuntimeState`. -/
structure EeKernelRuntimeState where
  threadRootFunction : UInt32 := 0
  exitHandlers : List (Int × List ExitHandlerEntry) := []
  bootModeInitialized : Bool := false
  bootModePoolOffset : UInt32 := 0
  bootModeAddresses : List (UInt8 × UInt32) := []
  syscallOverrides : List (UInt32 × UInt32) := []
  syscallMirrorAddresses : List UInt32 := []
  activeSyscallOverrides : List UInt32 := []
  tlsIndex : UInt32 := 0
  osdConfigInitialized : Bool := false
  osdConfigRaw : UInt32 := 0
  osdConfig2Raw : UInt32 := 0

def readKernel : HleReader EeKernelRuntimeState := do
  let threadRootFunction ← check "invalid saved kernel state" readU32
  let listCount ← check "invalid saved kernel state" (readCount kMaximumSavedObjects)
  let exitHandlers ← readEach readExitHandlers listCount
  let bootModeInitialized ← check "invalid saved boot-mode state" readBool
  let bootModePoolOffset ← check "invalid saved boot-mode state" readU32
  let bootCount ← check "invalid saved boot-mode state" (readCount 256)
  let bootModeAddresses ← check "invalid saved boot-mode entry"
    (readEntries readU8 readU32 bootCount)
  let overrideCount ← check "invalid syscall-override count" (readCount kMaximumSavedObjects)
  let syscallOverrides ← check "invalid syscall override"
    (readEntries readU32 readU32 overrideCount)
  let mirrorCount ← check "invalid syscall-mirror count" (readCount kMaximumSavedObjects)
  let syscallMirrorAddresses ← check "invalid syscall mirror"
    (readChecked readU32 (addKey id) mirrorCount [])
  let activeCount ← check "invalid active syscall-override count"
    (readCount kMaximumSavedObjects)
  let activeSyscallOverrides ← quiet (readList readU32 activeCount)
  let tlsIndex ← check "invalid saved kernel configuration" readU32
  let osdConfigInitialized ← check "invalid saved kernel configuration" readBool
  let osdConfigRaw ← check "invalid saved kernel configuration" readU32
  let osdConfig2Raw ← check "invalid saved kernel configuration" readU32
  return { threadRootFunction, exitHandlers := assignAll exitHandlers, bootModeInitialized,
           bootModePoolOffset, bootModeAddresses, syscallOverrides, syscallMirrorAddresses,
           activeSyscallOverrides, tlsIndex, osdConfigInitialized, osdConfigRaw, osdConfig2Raw }

/-! ## Interrupts -/

structure IrqHandlerInfo where
  id : Int
  cause : UInt32
  handler : UInt32
  arg : UInt32
  gp : UInt32
  sp : UInt32
  enabled : Bool
  order : Int

def readHandler : ByteReader IrqHandlerInfo :=
  .mk <$> readI32 <*> readU32 <*> readU32 <*> readU32 <*> readU32 <*> readU32 <*> readBool <*>
    readI32

/-- The handlers of `EeInterruptRuntimeState`. -/
structure InterruptHandlers where
  intcHandlers : List (Int × IrqHandlerInfo) := []
  dmacHandlers : List (Int × IrqHandlerInfo) := []
  nextIntcHandlerId : Int := 1
  nextDmacHandlerId : Int := 1
  intcHeadOrder : Int := 0
  intcTailOrder : Int := 1000
  dmacHeadOrder : Int := 0
  dmacTailOrder : Int := 1000
  enabledIntcMask : UInt32 := 0xffffffff
  enabledDmacMask : UInt32 := 0xffffffff

def readInterruptHandlers : ByteReader InterruptHandlers :=
  .mk <$> readMap readI32 readHandler <*> readMap readI32 readHandler <*> readI32 <*> readI32 <*>
    readI32 <*> readI32 <*> readI32 <*> readI32 <*> readU32 <*> readU32

structure EeGsVideoParameters where
  interlace : UInt8 := 1
  outputMode : UInt8 := 2
  frameMode : UInt8 := 1
  version : UInt8 := 3

/-- The members of `EeInterruptRuntimeState` under its `vsyncMutex`. -/
structure InterruptVSync where
  flagAddr : UInt32 := 0
  tickAddr : UInt32 := 0
  vsyncTick : UInt64 := 0
  gsSyncVBaseTick : UInt64 := 0
  gsVideoParameters : EeGsVideoParameters := {}
  gsSyncVCallback : UInt32 := 0
  gsSyncVCallbackGp : UInt32 := 0
  gsSyncVCallbackSp : UInt32 := 0

def readInterruptVSync : ByteReader InterruptVSync :=
  .mk <$> readU32 <*> readU32 <*> readU64 <*> readU64 <*>
    (.mk <$> readU8 <*> readU8 <*> readU8 <*> readU8) <*> readU32 <*> readU32 <*> readU32

/-! ## RPC and modules -/

structure RpcServerState where
  sid : UInt32
  sd_ptr : UInt32
  guestBacked : Bool

structure RpcClientState where
  busy : Bool
  last_rpc : UInt32
  sid : UInt32

structure SifModuleRecord where
  id : Int
  path : Bytes
  pathKey : Bytes
  refCount : UInt32
  loaded : Bool

/-- `EeRpcRuntimeState`. -/
structure EeRpcRuntimeState where
  initialized : Bool := false
  servers : List (UInt32 × RpcServerState) := []
  clients : List (UInt32 × RpcClientState) := []
  latestClientBusyState : UInt64 := 0
  nextDebugSequence : UInt64 := 0
  nextRequestId : UInt32 := 1
  packetIndex : UInt32 := 0
  serverIndex : UInt32 := 0
  activeQueue : UInt32 := 0
  nextModuleId : Int := 1
  modulesById : List (Int × SifModuleRecord) := []
  moduleIdByPath : List (Bytes × Int) := []

def readServer : ByteReader RpcServerState := .mk <$> readU32 <*> readU32 <*> readBool

def readClient : ByteReader RpcClientState := .mk <$> readBool <*> readU32 <*> readU32

def readModule : ByteReader SifModuleRecord :=
  .mk <$> readI32 <*> readString <*> readString <*> readU32 <*> readBool

def readRpc : HleReader EeRpcRuntimeState := do
  let initialized ← check "invalid RPC server state" readBool
  let serverCount ← check "invalid RPC server state" (readCount kMaximumSavedObjects)
  let servers ← check "invalid saved RPC server" (readEntries readU32 readServer serverCount)
  let clientCount ← check "invalid RPC client state" (readCount kMaximumSavedObjects)
  let clients ← check "invalid saved RPC client" (readEntries readU32 readClient clientCount)
  let latestClientBusyState ← check "truncated saved RPC state" readU64
  let nextDebugSequence ← check "truncated saved RPC state" readU64
  let nextRequestId ← check "truncated saved RPC state" readU32
  let packetIndex ← check "truncated saved RPC state" readU32
  let serverIndex ← check "truncated saved RPC state" readU32
  let activeQueue ← check "truncated saved RPC state" readU32
  let nextModuleId ← check "invalid saved IOP-module state" readI32
  let moduleCount ← check "invalid saved IOP-module state" (readCount kMaximumSavedObjects)
  let modulesById ← check "invalid saved IOP module" (readEntries readI32 readModule moduleCount)
  return { initialized, servers, clients, latestClientBusyState, nextDebugSequence, nextRequestId,
           packetIndex, serverIndex, activeQueue, nextModuleId, modulesById,
           moduleIdByPath :=
             assignAll (modulesById.map fun entry => (entry.2.pathKey, entry.2.id)) }

structure Deci2Session where
  protocol : UInt16
  opt : UInt32
  handler : UInt32
  userArea : UInt32
  locked : Bool

/-- `Deci2RuntimeState`. -/
structure Deci2RuntimeState where
  nextSocket : Int := 1
  sessions : List (Int × Deci2Session) := []

def readSession : ByteReader Deci2Session :=
  .mk <$> readU16 <*> readU32 <*> readU32 <*> readU32 <*> readBool

def readDeci2 : HleReader Deci2RuntimeState := do
  let nextSocket ← check "invalid saved DECI2 state" readI32
  let sessionCount ← check "invalid saved DECI2 state" (readCount kMaximumSavedObjects)
  let sessions ← check "invalid saved DECI2 session" (readEntries readI32 readSession sessionCount)
  return { nextSocket, sessions }

/-! ## The stubs -/

structure AudioVoiceTransferState where
  sourceAddress : UInt32 := 0
  destinationAddress : UInt32 := 0
  size : UInt32 := 0
  mode : UInt16 := 0
  completed : Bool := true

structure AudioBlockTransferState where
  base : UInt32 := 0
  size : UInt32 := 0
  pauseBase : UInt32 := 0
  offset : UInt32 := 0
  statusTraceCount : UInt32 := 0
  mode : UInt16 := 0
  active : Bool := false
  loop : Bool := false

/-- `AudioRuntimeState`. -/
structure AudioRuntimeState where
  initialized : Bool := false
  voiceTransfers : List.Vector AudioVoiceTransferState 2 := .replicate 2 {}
  blockTransfers : List.Vector AudioBlockTransferState 2 := .replicate 2 {}

def readAudio : ByteReader AudioRuntimeState :=
  .mk <$> readBool <*>
    readVector (.mk <$> readU32 <*> readU32 <*> readU32 <*> readU16 <*> readBool) 2 <*>
    readVector (.mk <$> readU32 <*> readU32 <*> readU32 <*> readU32 <*> readU32 <*> readU16 <*>
      readBool <*> readBool) 2

/-- The saved members of `CdRuntimeState`. -/
structure CdRuntimeState where
  nextPseudoLbn : UInt32 := 0x00100000
  lastError : Int := 0
  mode : UInt32 := 0
  streamingLbn : UInt32 := 0
  streamingEndLbn : UInt32 := 0xffffffff
  initialized : Bool := false
  lastFailedPath : Bytes := []
  samePathFailCount : UInt32 := 0

def readCd : ByteReader CdRuntimeState :=
  .mk <$> readU32 <*> readI32 <*> readU32 <*> readU32 <*> readU32 <*> readBool <*> readString <*>
    readU32

structure SceDmaEnv where
  sts : UInt8 := 0
  std : UInt8 := 0
  mfd : UInt8 := 0
  rele : UInt8 := 0
  pcr : UInt32 := 0
  sqwc : UInt32 := 0
  rbor : UInt32 := 0
  rbsr : UInt32 := 0

def readDmaEnvironment : ByteReader SceDmaEnv :=
  .mk <$> readU8 <*> readU8 <*> readU8 <*> readU8 <*> readU32 <*> readU32 <*> readU32 <*> readU32

/-- `DmaRuntimeState`. -/
structure DmaRuntimeState where
  currentEnvironment : SceDmaEnv := {}
  pendingPolls : List (UInt32 × UInt32) := []

def readDma : HleReader DmaRuntimeState := do
  let currentEnvironment ← check "invalid saved DMA stub state" readDmaEnvironment
  let pollCount ← check "invalid saved DMA stub state" (readCount kMaximumSavedObjects)
  let pendingPolls ← quiet (readEntries readU32 readU32 pollCount)
  return { currentEnvironment, pendingPolls }

/-- The saved members of `LibCRuntimeState`. -/
structure LibCRuntimeState where
  nextFileHandle : UInt32 := 1
  randomSeed : UInt32 := 1

structure MemoryCardPortState where
  currentDir : Bytes := [47]
  formatted : Bool := true

/-- The saved members of `MemoryCardRuntimeState`. -/
structure MemoryCardRuntimeState where
  nextFd : Int := 1
  lastCmd : Int := 0
  commandPending : Bool := false
  lastResult : Int := 0
  ports : List.Vector MemoryCardPortState 2 := .replicate 2 {}
  cvFileCursor : Int := 0

def readMemoryCard : ByteReader MemoryCardRuntimeState :=
  .mk <$> readI32 <*> readI32 <*> readBool <*> readI32 <*>
    readVector (.mk <$> readString <*> readBool) 2 <*> readI32

structure PadInputState where
  buttons : UInt16 := 0xffff
  rx : UInt8 := 0x80
  ry : UInt8 := 0x80
  lx : UInt8 := 0x80
  ly : UInt8 := 0x80

def readPadInput : ByteReader PadInputState :=
  .mk <$> readU16 <*> readU8 <*> readU8 <*> readU8 <*> readU8

structure PadPortState where
  isOpen : Bool := false
  analogMode : Bool := false
  pressureEnabled : Bool := false
  lastUsedOverride : Bool := false
  lastUsedBackend : Bool := false
  lastReadOk : Bool := false
  buttonMask : UInt16 := 0xffff
  dmaAddr : UInt32 := 0
  reqState : UInt32 := 0
  transientState : UInt32 := 0
  lastInput : PadInputState := {}
  lastData : List.Vector UInt8 32 := .replicate 32 0
  readCount : UInt32 := 0
  lastReadDataAddr : UInt32 := 0

def readPadPort : ByteReader PadPortState :=
  .mk <$> readBool <*> readBool <*> readBool <*> readBool <*> readBool <*> readBool <*> readU16 <*>
    readU32 <*> readU32 <*> readU32 <*> readPadInput <*> readBytes 32 <*> readU32 <*> readU32

/-- The saved members of `PadRuntimeState`. -/
structure PadRuntimeState where
  ports : List.Vector PadPortState 2 := .replicate 2 {}
  frameCount : UInt32 := 0

def readPad : ByteReader PadRuntimeState := .mk <$> readVector readPadPort 2 <*> readU32

/-- The saved members of `SifRuntimeState`. -/
structure SifRuntimeState where
  nextDmaTransferId : UInt32 := 1
  regs : List (UInt32 × UInt32) :=
    [(4, 0x00020000), (0x80000000, 0), (0x80000001, 0), (0x80000002, 0)]
  sregs : List (UInt32 × UInt32) := []
  cmdHandlers : List (UInt32 × UInt32) := []
  cmdBuffer : UInt32 := 0
  sysCmdBuffer : UInt32 := 0
  cmdInitialized : Bool := false
  heapAllocations : List (UInt32 × UInt32) := []
  iopHeapNext : UInt32 := 0x01a00000

def readSif : HleReader SifRuntimeState := do
  let nextDmaTransferId ← quiet readU32
  let regs ← check "invalid saved SIF state" readU32Map
  let sregs ← check "invalid saved SIF state" readU32Map
  let cmdHandlers ← check "invalid saved SIF state" readU32Map
  let cmdBuffer ← check "invalid saved SIF state" readU32
  let sysCmdBuffer ← check "invalid saved SIF state" readU32
  let cmdInitialized ← check "invalid saved SIF state" readBool
  let heapCount ← check "invalid saved SIF state" (readCount kMaximumSavedObjects)
  let heapAllocations ← quiet (readEntries readU32 readU32 heapCount)
  let iopHeapNext ← check "invalid saved SIF heap state" readU32
  return { nextDmaTransferId, regs, sregs, cmdHandlers, cmdBuffer, sysCmdBuffer, cmdInitialized,
           heapAllocations, iopHeapNext }

structure EeFileVagAccumEntry where
  firstBufAddr : UInt32
  data : Bytes

def readVagEntry : ByteReader EeFileVagAccumEntry := .mk <$> readU32 <*> readSized (2 ^ 26)

/-- The saved members of `EeFileRuntimeState`; `paths` are `hostBase`, `cdromBase`, `mcBase`,
`hostCwd`, `cdromCwd` and `mcCwd`. -/
structure EeFileRuntimeState where
  vagAccum : List (Int × EeFileVagAccumEntry) := []
  pathsInitialized : Bool := false
  paths : List.Vector Bytes 6 := .replicate 6 []
  cwdDevice : Bytes := "cdrom0".toUTF8.toList

/-- The count of the entries is still part of the SIF heap state. -/
def readFiles : HleReader EeFileRuntimeState := do
  let vagCount ← check "invalid saved SIF heap state" (readCount kMaximumSavedObjects)
  let vagAccum ← quiet (readEntries readI32 readVagEntry vagCount)
  let pathsInitialized ← quiet readBool
  let paths ← quiet (readVector readString 6)
  let cwdDevice ← check "invalid or trailing HLE save-state data" readString
  return { vagAccum, pathsInitialized, paths, cwdDevice }

/-! ## The chunk -/

/-- The members of the runtime that the chunk saves. -/
structure HleMembers where
  sync : EeSyncRuntimeState := {}
  kernel : EeKernelRuntimeState := {}
  interruptHandlers : InterruptHandlers := {}
  interruptVSync : InterruptVSync := {}
  rpc : EeRpcRuntimeState := {}
  deci2 : Deci2RuntimeState := {}
  audio : AudioRuntimeState := {}
  cd : CdRuntimeState := {}
  dma : DmaRuntimeState := {}
  libc : LibCRuntimeState := {}
  memoryCard : MemoryCardRuntimeState := {}
  pad : PadRuntimeState := {}
  sif : SifRuntimeState := {}
  files : EeFileRuntimeState := {}

/-- All of `decodeRuntimeHleSaveState` before its first assignment to a member. -/
def readHle : HleReader HleMembers := do
  check "unsupported HLE save-state version" readVersion
  let sync ← readSync
  let kernel ← readKernel
  let interruptHandlers ← check "invalid interrupt-handler state" readInterruptHandlers
  let interruptVSync ← check "invalid interrupt VSync state" readInterruptVSync
  let rpc ← readRpc
  let deci2 ← readDeci2
  let audio ← quiet readAudio
  let cd ← check "invalid saved CD state" readCd
  let dma ← readDma
  let libc ← quiet (LibCRuntimeState.mk <$> readU32 <*> readU32)
  let memoryCard ← quiet readMemoryCard
  let pad ← quiet readPad
  let sif ← readSif
  let files ← readFiles
  atEnd (some "invalid or trailing HLE save-state data")
  return { sync, kernel, interruptHandlers, interruptVSync, rpc, deci2, audio, cd, dma, libc,
           memoryCard, pad, sif, files }

end HleChunk

end Ps2Recomp
