import Ps2Recomp.Vu.CommandExecutor
import Ps2Recomp.Vu.DecodedUnpack

/-!
# The VU1 command processor (`ps2_vu1_command_stream.cpp`)

`Vu1CommandProcessor` with its payloads: `process`, the checks before it (`validPayload`) and while it
applies a payload (`apply`), and the entry points that take an UNPACK, a VIF state or a slice without
building a command. What VU1 does when it runs, is started or changes its backend is the parameter
`VuUnitOps`.

A throw leaves a state behind too, so `process` gives a state and, with it, a result or an exception.
Owner-thread assertions, the diagnostic journal and its observers, the hashes, the speculative
checkpoint and the continuation of an epoch are left out.
-/

namespace Ps2Recomp.Vu1CommandStream

open BitMemory (Memory)

inductive VuBackendKind where
  | Auto
  | Interpreter
  | Recompiler
  | Verify
  deriving DecidableEq, Repr

/-! ## Payloads -/

/-- A decoded UNPACK, with the VIF state that was folded into it. -/
structure Vu1DecodedUnpack extends Vu1DecodedUnpackCommand where
  vifStateBefore : Option Vu1VifState := none

inductive Vu1RegisterKind where
  | VectorFloat
  | VectorInteger
  | Accumulator
  | Q
  | P
  | I
  | ProgramCounter
  | Mac
  | Clip
  | Status
  | Top
  | Itop
  deriving DecidableEq, Repr

structure Vu1RegisterWriteCommand where
  kind : Vu1RegisterKind
  index : ℕ
  laneMask : BitVec 8
  words : Lanes

inductive Vu1InvocationKind where
  | Mscal
  | Mscalf
  | Mscnt
  deriving DecidableEq, Repr

/-- `Vu1InvocationCommand` without what was attached to it. -/
structure Vu1Invocation where
  kind : Vu1InvocationKind
  startPc : BitVec 32
  top : BitVec 32
  itop : BitVec 32
  maximumCycles : ℕ
  maximumPath1Bytes : ℕ
  captureState : Bool

/-- What MSCAL, MSCALF, MSCNT and an invocation have attached to them. -/
structure Vu1Attached where
  unpacksBefore : Option (List Vu1DecodedUnpack) := none
  vifStateBefore : Option Vu1VifState := none

/-- The registers of VU1, floats by their bits, and the rest of its state. -/
structure VuExecutionState (ν : Type) where
  vf : Fin 32 → Lanes
  vi : Fin 16 → BitVec 32
  acc : Lanes
  q : BitVec 32
  p : BitVec 32
  i : BitVec 32
  pc : BitVec 32
  mac : BitVec 32
  clip : BitVec 32
  status : BitVec 32
  top : BitVec 32
  itop : BitVec 32
  rest : ν

structure Vu1Snapshot (ν : Type) where
  state : VuExecutionState ν
  microMemory : List UInt8
  dataMemory : List UInt8
  vif : Vu1VifState
  codeGeneration : ℕ

inductive Vu1CommandPayload (ν : Type) where
  | bindMemory (microMemory dataMemory : List UInt8) (codeGeneration : ℕ)
      (deferredDiagnostics : Bool)
  | setDiagnostics (traceEnabled workloadProfileEnabled : Bool)
  | setBackend (backend : VuBackendKind)
  | microMemoryWrite (offset : ℕ) (bytes : List UInt8) (wrap : Bool)
  | dataMemoryWrite (offset : ℕ) (bytes : List UInt8) (wrap : Bool)
  | decodedUnpack (unpack : Vu1DecodedUnpack)
  | decodedUnpackBatch (batch : Option (List Vu1DecodedUnpack))
  | vifStateUpdate (state : Vu1VifState)
  | registerWrite (write : Vu1RegisterWriteCommand)
  | mscal (startPc top itop : BitVec 32) (attached : Vu1Attached)
  | mscalf (startPc top itop : BitVec 32) (attached : Vu1Attached)
  | mscnt (top itop : BitVec 32) (attached : Vu1Attached)
  | invocation (invocation : Vu1Invocation) (attached : Vu1Attached)
  | advanceSlice (maximumCycles : ℕ) (captureState : Bool)
  | reset (clearMicroMemory clearDataMemory : Bool)
  | snapshot (includeBackendDiagnostics : Bool)
  | restore (snapshot : Option (Vu1Snapshot ν)) (interpreterRecovery : Bool)
  | barrier
  | shutdown

structure Vu1Command (ν : Type) where
  identity : Vu1WorkIdentity
  type : Vu1CommandType
  payloadSize : ℕ
  payload : Vu1CommandPayload ν

/-- `decodedUnpackPayloadSize`. -/
def Vu1DecodedUnpack.payloadSize (unpack : Vu1DecodedUnpack) : ℕ :=
  11 + 8 + unpack.bytes.length + if unpack.vifStateBefore.isSome then 12 * 4 else 0

/-- `decodedUnpackBatchPayloadSize`, from `size` on. -/
def batchPayloadSize (size : ℕ) : List Vu1DecodedUnpack → ℕ
  | [] => size
  | unpack :: rest =>
    if unpack.payloadSize > uint64Max.val - size then uint64Max.val
    else batchPayloadSize (size + unpack.payloadSize) rest

def Vu1Attached.payloadSize (attached : Vu1Attached) : ℕ :=
  (attached.unpacksBefore.elim 0 (batchPayloadSize 8)) +
    if attached.vifStateBefore.isSome then 12 * 4 else 0

/-- `validDecodedUnpackPayload`. -/
def Vu1DecodedUnpack.valid (unpack : Vu1DecodedUnpack) : Bool :=
  unpack.bytes ≠ [] && unpack.writeVectorCount ≠ 0 && unpack.sourceVectorCount ≠ 0

/-- The batch is there and holds valid UNPACKs. -/
def validBatch (batch : List Vu1DecodedUnpack) : Bool :=
  !batch.isEmpty && batch.all Vu1DecodedUnpack.valid

def Vu1Attached.valid (attached : Vu1Attached) : Bool :=
  attached.unpacksBefore.elim true validBatch

namespace Vu1CommandPayload

variable {ν : Type} (payload : Vu1CommandPayload ν)

/-- `vu1CommandType`. -/
def type : Vu1CommandType :=
  match payload with
  | bindMemory .. => .BindMemory
  | setDiagnostics .. => .SetDiagnostics
  | setBackend _ => .SetBackend
  | microMemoryWrite .. => .MicroMemoryWrite
  | dataMemoryWrite .. => .DataMemoryWrite
  | decodedUnpack _ => .DecodedUnpack
  | decodedUnpackBatch _ => .DecodedUnpack
  | vifStateUpdate _ => .VifStateUpdate
  | registerWrite _ => .RegisterWrite
  | mscal .. => .Mscal
  | mscalf .. => .Mscalf
  | mscnt .. => .Mscnt
  | invocation .. => .Invocation
  | advanceSlice .. => .AdvanceSlice
  | reset .. => .Reset
  | snapshot _ => .Snapshot
  | restore .. => .Restore
  | barrier => .Barrier
  | shutdown => .Shutdown

/-- `vu1CommandPayloadSize`. -/
def payloadSize : ℕ :=
  match payload with
  | bindMemory microMemory dataMemory .. => 2 * 8 + 8 + 1 + microMemory.length + dataMemory.length
  | setDiagnostics .. => 2
  | setBackend _ => 1
  | microMemoryWrite _ bytes _ | dataMemoryWrite _ bytes _ => 4 + 1 + 8 + bytes.length
  | decodedUnpack unpack => unpack.payloadSize
  | decodedUnpackBatch batch => batch.elim 8 (batchPayloadSize 8)
  | vifStateUpdate _ => 12 * 4
  | registerWrite _ => 3 + 4 * 4
  | mscal _ _ _ attached | mscalf _ _ _ attached => 3 * 4 + attached.payloadSize
  | mscnt _ _ attached => 2 * 4 + attached.payloadSize
  | invocation _ attached => 1 + 4 * 4 + 8 + 1 + attached.payloadSize
  | advanceSlice .. => 4 + 1
  | reset .. => 2
  | snapshot _ => 1
  | restore saved _ =>
    8 + 1 + saved.elim 0 fun snapshot => snapshot.microMemory.length + snapshot.dataMemory.length
  | barrier => 0
  | shutdown => 0

/-- `validPayload`. -/
def valid : Bool :=
  match payload with
  | bindMemory microMemory dataMemory .. =>
    microMemory ≠ [] && dataMemory ≠ [] && microMemory.length ≤ uint32Max &&
      dataMemory.length ≤ uint32Max
  | microMemoryWrite _ bytes _ | dataMemoryWrite _ bytes _ => bytes ≠ []
  | decodedUnpack unpack => unpack.valid
  | decodedUnpackBatch batch => batch.elim false validBatch
  | mscal _ _ _ attached | mscalf _ _ _ attached | mscnt _ _ attached => attached.valid
  | invocation call attached =>
    attached.valid && call.maximumCycles ≠ 0 && call.maximumPath1Bytes ≠ 0
  | advanceSlice maximumCycles _ => maximumCycles ≠ 0
  | restore saved _ => saved.isSome
  | _ => true

end Vu1CommandPayload

/-- `requiresBoundMemory` of `process`. -/
def requiresBoundMemory (type : Vu1CommandType) : Bool :=
  type ≠ .BindMemory && type ≠ .SetDiagnostics && type ≠ .SetBackend && type ≠ .Reset &&
    type ≠ .Snapshot && type ≠ .Barrier && type ≠ .Shutdown

/-! ## The processor -/

structure BoundMemory where
  bytes : Memory
  size : ℕ

namespace BoundMemory

def ofBytes (bytes : List UInt8) : BoundMemory := ⟨fun a => bytes[a]?.getD 0, bytes.length⟩

def toBytes (memory : BoundMemory) : List UInt8 := (List.range memory.size).map memory.bytes

def clear (memory : BoundMemory) : BoundMemory :=
  { memory with bytes := fun a => if a < memory.size then 0 else memory.bytes a }

/-- `validMemoryRange`. -/
def validMemoryRange (memory : BoundMemory) (offset sizeBytes : ℕ) (wrap : Bool) : Bool :=
  if sizeBytes = 0 ∨ memory.size ≤ offset then false
  else if wrap then sizeBytes ≤ memory.size
  else sizeBytes ≤ memory.size - offset

/-- `writeMemory`. -/
def writeMemory (memory : BoundMemory) (offset : ℕ) (bytes : List UInt8) (wrap : Bool) :
    BoundMemory :=
  if !wrap then { memory with bytes := writeBytes memory.bytes offset bytes }
  else
    let first := min bytes.length (memory.size - offset)
    let written := writeBytes memory.bytes offset (bytes.take first)
    { memory with
      bytes := if bytes.length ≠ first then writeBytes written 0 (bytes.drop first) else written }

end BoundMemory

/-- VU1: its registers, and which backend runs it. -/
structure VuUnit (ν β : Type) where
  state : VuExecutionState ν
  interpreterRecoveryPending : Bool
  backend : β

/-- What VU1 does; `advance` and `runInvocation` also give the data memory and the result. -/
structure VuUnitOps (ν β σ : Type) where
  isActive : VuUnit ν β → Bool
  reset : VuUnit ν β → VuUnit ν β
  start : VuUnit ν β → (startPc top itop : BitVec 32) → VuUnit ν β
  resumeState : VuUnit ν β → (top itop : BitVec 32) → VuUnit ν β
  setBackend : VuUnit ν β → VuBackendKind → VuUnit ν β × Bool
  advance : VuUnit ν β → (microMemory dataMemory : BoundMemory) → (codeGeneration : ℕ) →
    (maximumCycles : ℕ) → VuUnit ν β × Memory × σ
  runInvocation : VuUnit ν β → (microMemory dataMemory : BoundMemory) → (codeGeneration : ℕ) →
    Vu1Invocation → VuUnit ν β × Memory × σ

structure Vu1CommandProcessor (ν β : Type) where
  unit : VuUnit ν β
  microMemory : Option BoundMemory := none
  dataMemory : Option BoundMemory := none
  vifState : Vu1VifState
  codeGeneration : ℕ := 0
  generation : ℕ := 1
  nextSequence : ℕ := 1
  traceEnabled : Bool := false
  workloadProfileEnabled : Bool := false
  deferredDiagnostics : Bool := false
  shutdown : Bool := false

structure Vu1SliceResult (ν σ : Type) where
  run : σ
  state : Option (VuExecutionState ν)
  vifCanResume : Bool

inductive Vu1CommandResultPayload (ν σ : Type) where
  | noResult
  | slice (result : Vu1SliceResult ν σ)
  | snapshot (snapshot : Vu1Snapshot ν)
  | barrier
  | vifState (state : Vu1VifState)
  | backendStatus (accepted : Bool) (requested : VuBackendKind)

structure Vu1CommandResult (ν σ : Type) where
  identity : Vu1WorkIdentity
  type : Vu1CommandType
  payloadSize : ℕ
  disposition : Vu1CommandDisposition
  ownerGeneration : ℕ
  codeGeneration : ℕ
  programCounter : BitVec 32
  active : Bool
  payload : Vu1CommandResultPayload ν σ

/-- `Vu1VifState{}`. -/
def initialVifState : Vu1VifState where
  cycle := 0x0101
  mode := 0
  mask := 0
  row := fun _ => 0
  column := fun _ => 0
  tops := 0

/-- `applyVu1DecodedUnpackBatchImpl`, the loop. -/
def applyUnpacks (vif : Vu1VifState) (dataMemory : Memory) (dataMemorySize : ℕ) :
    List Vu1DecodedUnpack → Bool × Vu1VifState × Memory
  | [] => (true, vif, dataMemory)
  | unpack :: rest =>
    match applyVu1DecodedUnpack unpack.toVu1DecodedUnpackCommand
        (unpack.vifStateBefore.getD vif) dataMemory dataMemorySize with
    | (false, vif, dataMemory) => (false, vif, dataMemory)
    | (true, vif, dataMemory) => applyUnpacks vif dataMemory dataMemorySize rest

/-- `applyVu1DecodedUnpackBatchImpl`. -/
def applyVu1DecodedUnpackBatch (vif : Vu1VifState) (dataMemory : Memory) (dataMemorySize : ℕ)
    (batch : List Vu1DecodedUnpack) : Bool × Vu1VifState × Memory :=
  if batch.isEmpty then (false, vif, dataMemory)
  else applyUnpacks vif dataMemory dataMemorySize batch

def writeLanes (laneMask : BitVec 8) (words lanes : Lanes) : Lanes := fun lane =>
  if laneMask.getLsbD lane then words lane else lanes lane

/-- A write to a register of VU1; `none` if there is no such register. -/
def writeRegister {ν : Type} (microMemorySize : ℕ) (state : VuExecutionState ν)
    (write : Vu1RegisterWriteCommand) : Option (VuExecutionState ν) :=
  let word := write.words 0
  match write.kind with
  | .VectorFloat =>
    if h : write.index < 32 then
      let vf := Function.update state.vf ⟨write.index, h⟩
        (writeLanes write.laneMask write.words (state.vf ⟨write.index, h⟩))
      -- VF0 is constant: 0, 0, 0 and 1.0.
      some { state with
        vf := if write.index = 0 then
          Function.update vf 0 fun lane => if lane = 3 then 0x3F800000 else 0
          else vf }
    else none
  | .VectorInteger =>
    if h : write.index < 16 then
      if write.index ≠ 0 then
        some { state with vi := Function.update state.vi ⟨write.index, h⟩ word }
      else some state
    else none
  | .Accumulator => some { state with acc := writeLanes write.laneMask write.words state.acc }
  | .Q => some { state with q := word }
  | .P => some { state with p := word }
  | .I => some { state with i := word }
  | .ProgramCounter =>
    some { state with pc := word &&& (BitVec.ofNat 32 microMemorySize - 1#32) }
  | .Mac => some { state with mac := word }
  | .Clip => some { state with clip := word }
  | .Status => some { state with status := word }
  | .Top => some { state with top := word &&& 0x3FF }
  | .Itop => some { state with itop := word &&& 0x3FF }

namespace Vu1CommandProcessor

variable {ν β σ : Type}

/-- The code memory; where none is bound, none of its bytes are in reach. -/
def micro (p : Vu1CommandProcessor ν β) : BoundMemory := p.microMemory.getD ⟨fun _ => 0, 0⟩

def data (p : Vu1CommandProcessor ν β) : BoundMemory := p.dataMemory.getD ⟨fun _ => 0, 0⟩

def setMicro (p : Vu1CommandProcessor ν β) (bytes : Memory) : Vu1CommandProcessor ν β :=
  { p with microMemory := p.microMemory.map fun memory => { memory with bytes } }

def setData (p : Vu1CommandProcessor ν β) (bytes : Memory) : Vu1CommandProcessor ν β :=
  { p with dataMemory := p.dataMemory.map fun memory => { memory with bytes } }

/-- `m_codeGeneration.fetch_add`. -/
def nextCodeGeneration (p : Vu1CommandProcessor ν β) : Vu1CommandProcessor ν β :=
  { p with codeGeneration := (p.codeGeneration + 1) % 2 ^ 64 }

/-- An UNPACK, after the VIF state that was folded into it. -/
def applyUnpack (p : Vu1CommandProcessor ν β) (unpack : Vu1DecodedUnpack) :
    Bool × Vu1CommandProcessor ν β :=
  let vif := unpack.vifStateBefore.getD p.vifState
  let (accepted, vifState, dataMemory) :=
    applyVu1DecodedUnpack unpack.toVu1DecodedUnpackCommand vif p.data.bytes p.data.size
  (accepted, { p.setData dataMemory with vifState })

def applyBatch (p : Vu1CommandProcessor ν β) (batch : List Vu1DecodedUnpack) :
    Bool × Vu1CommandProcessor ν β :=
  let (accepted, vifState, dataMemory) :=
    applyVu1DecodedUnpackBatch p.vifState p.data.bytes p.data.size batch
  (accepted, { p.setData dataMemory with vifState })

/-- What is attached to the start of a program: the UNPACKs, and then the VIF state. -/
def applyAttached (p : Vu1CommandProcessor ν β) (attached : Vu1Attached) :
    Bool × Vu1CommandProcessor ν β :=
  let (accepted, p) := attached.unpacksBefore.elim (true, p) p.applyBatch
  if accepted then (true, { p with vifState := attached.vifStateBefore.getD p.vifState })
  else (false, p)

/-- `advanceSlice`. -/
def advanceSlice (ops : VuUnitOps ν β σ) (p : Vu1CommandProcessor ν β) (maximumCycles : ℕ)
    (captureState : Bool) : Vu1CommandProcessor ν β × Vu1SliceResult ν σ :=
  let (unit, dataMemory, run) := ops.advance p.unit p.micro p.data p.codeGeneration maximumCycles
  ({ p.setData dataMemory with unit },
    { run
      state := if captureState then some unit.state else none
      vifCanResume := !ops.isActive unit })

/-- `runInvocation`. -/
def runInvocation (ops : VuUnitOps ν β σ) (p : Vu1CommandProcessor ν β) (call : Vu1Invocation) :
    Vu1CommandProcessor ν β × Vu1SliceResult ν σ :=
  let (unit, dataMemory, run) := ops.runInvocation p.unit p.micro p.data p.codeGeneration call
  ({ p.setData dataMemory with unit },
    { run
      state := if call.captureState then some unit.state else none
      vifCanResume := !ops.isActive unit })

/-- `captureSnapshot`. -/
def captureSnapshot (p : Vu1CommandProcessor ν β) : Vu1Snapshot ν where
  state := p.unit.state
  microMemory := p.micro.toBytes
  dataMemory := p.data.toBytes
  vif := p.vifState
  codeGeneration := p.codeGeneration

/-- A write to one of the memories; `none` where it is out of range. -/
def checkedWrite (memory : BoundMemory) (offset : ℕ) (bytes : List UInt8) (wrap : Bool) :
    Option Memory :=
  if memory.validMemoryRange offset bytes.length wrap then
    some (memory.writeMemory offset bytes wrap).bytes
  else none

/-- `apply`: the processor after the payload, whether it was completed or is malformed, and the
payload of the result. -/
def apply (ops : VuUnitOps ν β σ) (p : Vu1CommandProcessor ν β)
    (payload : Vu1CommandPayload ν) :
    Vu1CommandProcessor ν β × Vu1CommandDisposition × Vu1CommandResultPayload ν σ :=
  match payload with
  | .bindMemory microMemory dataMemory codeGeneration deferredDiagnostics =>
    ({ p with
      microMemory := some (.ofBytes microMemory)
      dataMemory := some (.ofBytes dataMemory)
      codeGeneration
      deferredDiagnostics }, .Completed, .noResult)
  | .setDiagnostics traceEnabled workloadProfileEnabled =>
    ({ p with traceEnabled, workloadProfileEnabled }, .Completed, .noResult)
  | .setBackend backend =>
    let (unit, accepted) := ops.setBackend p.unit backend
    ({ p with unit }, .Completed, .backendStatus accepted backend)
  | .microMemoryWrite offset bytes wrap =>
    match checkedWrite p.micro offset bytes wrap with
    | none => (p, .Malformed, .noResult)
    | some written => ((p.setMicro written).nextCodeGeneration, .Completed, .noResult)
  | .dataMemoryWrite offset bytes wrap =>
    match checkedWrite p.data offset bytes wrap with
    | none => (p, .Malformed, .noResult)
    | some written => (p.setData written, .Completed, .noResult)
  | .decodedUnpack unpack =>
    let (accepted, p) := p.applyUnpack unpack
    (p, if accepted then .Completed else .Malformed, .vifState p.vifState)
  | .decodedUnpackBatch batch =>
    let (accepted, p) := batch.elim (false, p) p.applyBatch
    (p, if accepted then .Completed else .Malformed, .vifState p.vifState)
  | .vifStateUpdate state => ({ p with vifState := state }, .Completed, .vifState state)
  | .registerWrite write =>
    match writeRegister p.micro.size p.unit.state write with
    | none => (p, .Malformed, .noResult)
    | some state => ({ p with unit := { p.unit with state } }, .Completed, .noResult)
  | .mscal startPc top itop attached | .mscalf startPc top itop attached =>
    let (accepted, p) := p.applyAttached attached
    if !accepted then (p, .Malformed, .noResult)
    else ({ p with unit := ops.start p.unit startPc top itop }, .Completed, .noResult)
  | .mscnt top itop attached =>
    let (accepted, p) := p.applyAttached attached
    if !accepted then (p, .Malformed, .noResult)
    else ({ p with unit := ops.resumeState p.unit top itop }, .Completed, .noResult)
  | .invocation call attached =>
    let (accepted, p) := p.applyAttached attached
    if !accepted then (p, .Malformed, .noResult)
    else
      let unit :=
        match call.kind with
        | .Mscal | .Mscalf => ops.start p.unit call.startPc call.top call.itop
        | .Mscnt => ops.resumeState p.unit call.top call.itop
      let (p, result) := { p with unit }.runInvocation ops call
      (p, .Completed, .slice result)
  | .advanceSlice maximumCycles captureState =>
    let (p, result) := p.advanceSlice ops maximumCycles captureState
    (p, .Completed, .slice result)
  | .reset clearMicroMemory clearDataMemory =>
    let p := { p with unit := ops.reset p.unit }
    let p :=
      if clearMicroMemory && p.microMemory.isSome then
        (p.setMicro p.micro.clear.bytes).nextCodeGeneration
      else p
    let p := if clearDataMemory then p.setData p.data.clear.bytes else p
    ({ p with vifState := initialVifState }, .Completed, .noResult)
  | .snapshot _ => (p, .Completed, .snapshot p.captureSnapshot)
  | .restore saved interpreterRecovery =>
    match saved with
    | none => (p, .Malformed, .noResult)
    | some snapshot =>
      if snapshot.microMemory.length ≠ p.micro.size ∨
          snapshot.dataMemory.length ≠ p.data.size then (p, .Malformed, .noResult)
      else
        let unit :=
          { p.unit with
            state := snapshot.state
            interpreterRecoveryPending := interpreterRecovery }
        let p := p.setMicro (writeBytes p.micro.bytes 0 snapshot.microMemory)
        let p := p.setData (writeBytes p.data.bytes 0 snapshot.dataMemory)
        ({ p with unit, vifState := snapshot.vif, codeGeneration := snapshot.codeGeneration },
          .Completed, .noResult)
  | .barrier => (p, .Completed, .barrier)
  | .shutdown => ({ p with shutdown := true }, .Completed, .noResult)

/-! ## Entry points -/

/-- The result of a command, as the processor stands. -/
def result (ops : VuUnitOps ν β σ) (p : Vu1CommandProcessor ν β) (identity : Vu1WorkIdentity)
    (type : Vu1CommandType) (payloadSize : ℕ) (disposition : Vu1CommandDisposition)
    (payload : Vu1CommandResultPayload ν σ) : Vu1CommandResult ν σ where
  identity := identity
  type := type
  payloadSize := payloadSize
  disposition := disposition
  ownerGeneration := p.generation
  codeGeneration := p.codeGeneration
  programCounter := p.unit.state.pc
  active := ops.isActive p.unit
  payload := payload

/-- A state, and the result or the exception it was left with. -/
abbrev Outcome (ν β σ : Type) := Vu1CommandProcessor ν β × Except String (Vu1CommandResult ν σ)

def sequenceExhausted : String := "VU1 command sequence exhausted"

/-- `process`. -/
def process (ops : VuUnitOps ν β σ) (p : Vu1CommandProcessor ν β) (command : Vu1Command ν) :
    Outcome ν β σ :=
  let identity := command.identity
  let rejected (disposition : Vu1CommandDisposition) : Outcome ν β σ :=
    (p, .ok (p.result ops identity command.type command.payloadSize disposition .noResult))
  let opensGeneration := command.payload.type.startsGeneration
  if p.shutdown then rejected .Shutdown
  else if opensGeneration && identity.generation ≤ p.generation then rejected .StaleGeneration
  else if opensGeneration &&
      (p.generation = uint64Max.val || identity.generation ≠ p.generation + 1) then
    rejected .FutureGeneration
  else if opensGeneration && identity.sequence ≠ 1 then rejected .OutOfOrder
  else if !opensGeneration && identity.generation < p.generation then rejected .StaleGeneration
  else if !opensGeneration && identity.generation > p.generation then rejected .FutureGeneration
  else if !opensGeneration && identity.sequence ≠ p.nextSequence then rejected .OutOfOrder
  else if command.type ≠ command.payload.type || command.payloadSize ≠ command.payload.payloadSize ||
      !command.payload.valid ||
      (requiresBoundMemory command.type && (p.microMemory.isNone || p.dataMemory.isNone)) then
    rejected .Malformed
  else
    let (p, disposition, payload) := p.apply ops command.payload
    let finished (p : Vu1CommandProcessor ν β) : Outcome ν β σ :=
      (p, .ok (p.result ops identity command.type command.payloadSize disposition payload))
    if disposition ≠ .Completed then finished p
    else if opensGeneration then
      finished { p with generation := identity.generation, nextSequence := 2 }
    else if p.nextSequence = uint64Max.val then (p, .error sequenceExhausted)
    else finished { p with nextSequence := p.nextSequence + 1 }

/-- `processDecodedUnpack`. -/
def processDecodedUnpack (ops : VuUnitOps ν β σ) (p : Vu1CommandProcessor ν β)
    (identity : Vu1WorkIdentity) (unpack : Vu1DecodedUnpack) : Outcome ν β σ :=
  let payloadSize := 11 + 8 + unpack.bytes.length +
    if unpack.vifStateBefore.isSome then 12 * 4 else 0
  let rejected (disposition : Vu1CommandDisposition) : Outcome ν β σ :=
    (p, .ok (p.result ops identity .DecodedUnpack payloadSize disposition .noResult))
  if p.shutdown then rejected .Shutdown
  else if identity.generation < p.generation then rejected .StaleGeneration
  else if identity.generation > p.generation then rejected .FutureGeneration
  else if identity.sequence ≠ p.nextSequence then rejected .OutOfOrder
  else if unpack.bytes = [] || unpack.writeVectorCount = 0 || unpack.sourceVectorCount = 0 ||
      p.microMemory.isNone || p.dataMemory.isNone then rejected .Malformed
  else
    let p := { p with vifState := unpack.vifStateBefore.getD p.vifState }
    let (accepted, vifState, dataMemory) :=
      applyVu1DecodedUnpack unpack.toVu1DecodedUnpackCommand p.vifState p.data.bytes p.data.size
    let p := { p.setData dataMemory with vifState }
    let finished (disposition : Vu1CommandDisposition) (p : Vu1CommandProcessor ν β) :
        Outcome ν β σ :=
      (p, .ok (p.result ops identity .DecodedUnpack payloadSize disposition (.vifState vifState)))
    if !accepted then finished .Malformed p
    else if p.nextSequence = uint64Max.val then (p, .error sequenceExhausted)
    else finished .Completed { p with nextSequence := p.nextSequence + 1 }

/-- `processVifStateUpdate`. -/
def processVifStateUpdate (ops : VuUnitOps ν β σ) (p : Vu1CommandProcessor ν β)
    (identity : Vu1WorkIdentity) (state : Vu1VifState) : Outcome ν β σ :=
  let payloadSize := 12 * 4
  let rejected (disposition : Vu1CommandDisposition) : Outcome ν β σ :=
    (p, .ok (p.result ops identity .VifStateUpdate payloadSize disposition .noResult))
  if p.shutdown then rejected .Shutdown
  else if identity.generation < p.generation then rejected .StaleGeneration
  else if identity.generation > p.generation then rejected .FutureGeneration
  else if identity.sequence ≠ p.nextSequence then rejected .OutOfOrder
  else if p.microMemory.isNone || p.dataMemory.isNone then rejected .Malformed
  else
    let p := { p with vifState := state }
    if p.nextSequence = uint64Max.val then (p, .error sequenceExhausted)
    else
      let p := { p with nextSequence := p.nextSequence + 1 }
      (p, .ok (p.result ops identity .VifStateUpdate payloadSize .Completed (.vifState state)))

/-- `processAdvanceSlice`, not speculative. -/
def processAdvanceSlice (ops : VuUnitOps ν β σ) (p : Vu1CommandProcessor ν β)
    (identity : Vu1WorkIdentity) (maximumCycles : ℕ) (captureState : Bool) : Outcome ν β σ :=
  let payloadSize := 4 + 1
  let rejected (disposition : Vu1CommandDisposition) : Outcome ν β σ :=
    (p, .ok (p.result ops identity .AdvanceSlice payloadSize disposition .noResult))
  if p.shutdown then rejected .Shutdown
  else if identity.generation < p.generation then rejected .StaleGeneration
  else if identity.generation > p.generation then rejected .FutureGeneration
  else if identity.sequence ≠ p.nextSequence then rejected .OutOfOrder
  else if maximumCycles = 0 || p.microMemory.isNone || p.dataMemory.isNone then
    rejected .Malformed
  else if p.nextSequence = uint64Max.val then (p, .error sequenceExhausted)
  else
    let (p, slice) := p.advanceSlice ops maximumCycles captureState
    let p := { p with nextSequence := p.nextSequence + 1 }
    (p, .ok (p.result ops identity .AdvanceSlice payloadSize .Completed (.slice slice)))

end Vu1CommandProcessor

end Ps2Recomp.Vu1CommandStream
