import Ps2Recomp.Vif.Vif1
import Mathlib.Data.List.FinRange
import Mathlib.Data.Nat.Notation

/-!
# Decoded UNPACK (`ps2_vu1_command_stream.cpp`)

`applyVu1DecodedUnpack`: what the owner of VU1 makes of an UNPACK that the parser of VIF1 has decoded
for it. It checks the command against the VIF registers it is given, writes the data memory vector by
vector, and tells at the end whether all source vectors were read.

The shortcut `tryUnpackContiguousV4` and the wrapped copy in it are the same text here and in
`ps2_vif1_interpreter.cpp`, and one definition serves for both. The loop is not: it is embedded here
as it stands, the lanes decoded and written one after the other.
-/

namespace Ps2Recomp

open BitMemory (Memory)

/-- `unpackBytesPerVector`. -/
def unpackBytesPerVector (command : Vu1DecodedUnpackCommand) : ℕ :=
  let components := command.componentCount
  let bits (bitsPerComponent : ℕ) :=
    if command.vectorLength = 3 ∧ components = 4 then 16 else components * bitsPerComponent
  match command.vectorLength with
  | 0 => (bits 32 + 7) / 8
  | 1 => (bits 16 + 7) / 8
  | 2 => (bits 8 + 7) / 8
  | 3 => (bits (if components = 4 then 4 else 16) + 7) / 8
  | _ => 0

namespace Vu1DecodedUnpackCommand

variable (command : Vu1DecodedUnpackCommand)

/-- CL of the VIF state, with 0 read as 1. -/
def cl (vif : Vu1VifState) : ℕ :=
  let cl := (vif.cycle &&& 0xFF).toNat
  if cl = 0 then 1 else cl

/-- WL of the VIF state, with 0 read as 1. -/
def wl (vif : Vu1VifState) : ℕ :=
  let wl := (vif.cycle >>> 8 &&& 0xFF).toNat
  if wl = 0 then 1 else wl

def expectedSourceCount (vif : Vu1VifState) : ℕ :=
  if cl vif < wl vif then
    let fullBlocks := command.writeVectorCount / wl vif
    let remainder := command.writeVectorCount % wl vif
    fullBlocks * cl vif + (if remainder > cl vif then cl vif else remainder)
  else command.writeVectorCount

def vuAddress (vif : Vu1VifState) : ℕ :=
  let vuAddress := command.immediate % 1024
  if command.immediate.testBit 15 then (vuAddress + (vif.tops &&& 0x3FF).toNat) % 1024
  else vuAddress

/-- The checks before anything is written. -/
def accepted (vif : Vu1VifState) (dataMemorySize : ℕ) : Bool :=
  16 ≤ dataMemorySize && 1 ≤ command.componentCount && command.componentCount ≤ 4 &&
    command.vectorLength ≤ 3 && command.writeVectorCount ≠ 0 &&
    1 ≤ command.sourceWordAlignment && command.sourceWordAlignment ≤ 4 &&
    unpackBytesPerVector command ≠ 0 &&
    (command.sourceVectorCount * unpackBytesPerVector command + 3) / 4 * 4 =
      command.bytes.length &&
    command.expectedSourceCount vif = command.sourceVectorCount

/-! ## Decoding a vector -/

/-- The bytes of a component, as a number. -/
def rawComponent (sourceOffset width component : ℕ) : ℕ :=
  littleEndian ((command.bytes.drop (sourceOffset + component * width)).take width)

/-- `extend8` and `extend16`; a word is taken as it is. -/
def extendComponent (raw : ℕ) : BitVec 32 :=
  match command.vectorLength with
  | 0 => BitVec.ofNat 32 raw
  | 1 => if command.zeroExtend then BitVec.ofNat 32 raw else (BitVec.ofNat 16 raw).signExtend 32
  | _ => if command.zeroExtend then BitVec.ofNat 32 raw else (BitVec.ofNat 8 raw).signExtend 32

/-- The loop over the components, from `component` on; it stops where the bytes end. -/
def decodeComponents (width sourceOffset : ℕ) : (remaining component : ℕ) → Lanes → Lanes
  | 0, _, decompressed => decompressed
  | remaining + 1, component, decompressed =>
    if command.bytes.length < sourceOffset + component * width + width then decompressed
    else
      decodeComponents width sourceOffset remaining (component + 1)
        (Function.update decompressed (Fin.ofNat 4 component)
          (command.extendComponent (command.rawComponent sourceOffset width component)))

/-- `zeroW`, after the source vector has been counted. -/
def clearsW (sourceIndex : ℕ) : Bool :=
  match command.vectorLength with
  | 0 => (sourceIndex - 1) % 2 ≠ command.sourceWordAlignment
  | 1 =>
    sourceIndex % 2 = 0 && (sourceIndex / 4 + 1 + (4 - command.sourceWordAlignment)) % 4 = 0
  | 2 => sourceIndex ≠ command.sourceWordAlignment
  | _ => false

/-- A source vector over the lanes in memory, and whether its format is one that is handled. -/
def decodeFormat (sourceOffset : ℕ) (lanes : Lanes) : Bool × Lanes :=
  let components := command.componentCount
  if command.vectorLength ≤ 2 then
    let width := if command.vectorLength = 0 then 4 else if command.vectorLength = 1 then 2 else 1
    if components = 1 then
      (true, fun _ => command.extendComponent (command.rawComponent sourceOffset width 0))
    else
      let limit := if components = 3 then 4 else components
      let decompressed := command.decodeComponents width sourceOffset limit 0 lanes
      if components = 2 then
        (true, Function.update (Function.update decompressed 2 (decompressed 0)) 3 (decompressed 1))
      else (true, decompressed)
  else if command.vectorLength = 3 ∧ components = 4 then
    let packed := command.rawComponent sourceOffset 2 0
    (true, fun lane =>
      match lane with
      | 0 => BitVec.ofNat 32 (packed % 32)
      | 1 => BitVec.ofNat 32 (packed / 32 % 32)
      | 2 => BitVec.ofNat 32 (packed / 1024 % 32)
      | 3 => BitVec.ofNat 32 (packed / 32768 % 2))
  else (false, lanes)

/-- The decoded lanes with the W lanes that are cleared. -/
def decodeSource (sourceOffset sourceIndex : ℕ) (lanes : Lanes) : Bool × Lanes :=
  let (handledFormat, decompressed) := command.decodeFormat sourceOffset lanes
  let decompressed :=
    if command.componentCount = 3 ∧ command.clearsW sourceIndex = true then
      Function.update decompressed 3 0
    else decompressed
  if command.componentCount = 2 ∧ command.vectorLength = 0 then
    (handledFormat, Function.update decompressed 3 0)
  else (handledFormat, decompressed)

/-! ## Writing a vector -/

/-- One field of a vector, and the row register of its lane. -/
def writeField (vif : Vu1VifState) (decoded handledFormat : Bool) (decompressed : Lanes)
    (cyclePosition : ℕ) (state : Lanes × Lanes) (field : Fin 4) : Lanes × Lanes :=
  let (lanes, row) := state
  let mode := vif.mode &&& 3
  let canAdd := command.vectorLength ≠ 3 ∨ command.componentCount ≠ 4
  let maskCycle := min cyclePosition 3
  let maskSpec :=
    if command.maskEnabled then (vif.mask >>> ((maskCycle * 4 + field) * 2) &&& 3).toNat else 0
  let maskSpec := if !decoded && maskSpec = 0 then 1 else maskSpec
  match maskSpec with
  | 0 =>
    if handledFormat then
      if canAdd ∧ (mode = 1 ∨ mode = 2) then
        let writeValue := decompressed field + row field
        (Function.update lanes field writeValue,
          if mode = 2 then Function.update row field writeValue else row)
      else (Function.update lanes field (decompressed field), row)
    else (lanes, row)
  | 1 => (Function.update lanes field (row field), row)
  | 2 => (Function.update lanes field (vif.column (Fin.ofNat 4 maskCycle)), row)
  | _ => (lanes, row)

structure LoopState where
  dataMemory : Memory
  vif : Vu1VifState
  sourceIndex : ℕ := 0

/-- One pass through the loop. -/
def writeOne (vuAddress dataMemorySize : ℕ) (state : LoopState) (writeIndex : ℕ) : LoopState :=
  let cl := cl state.vif
  let wl := wl state.vif
  let cyclePosition := writeIndex % wl
  let sourceAvailable : Bool := cl ≥ wl || cyclePosition < cl
  let destinationVector :=
    if cl ≥ wl then (vuAddress + writeIndex / wl * cl + cyclePosition) % 1024
    else (vuAddress + writeIndex) % 1024
  let destinationOffset := destinationVector * 16
  let decoded := sourceAvailable && state.sourceIndex < command.sourceVectorCount
  let sourceOffset := state.sourceIndex * unpackBytesPerVector command
  let sourceIndex := if decoded then state.sourceIndex + 1 else state.sourceIndex
  if destinationOffset > dataMemorySize ∨ dataMemorySize - destinationOffset < 16 then
    { state with sourceIndex }
  else
    let lanes := loadLanes state.dataMemory destinationOffset
    let (handledFormat, decompressed) :=
      if decoded then command.decodeSource sourceOffset sourceIndex lanes else (false, lanes)
    let mode := state.vif.mode &&& 3
    if !handledFormat && decoded && !command.maskEnabled && (mode = 0 || mode = 3) then
      let copyBytes := min (unpackBytesPerVector command) 16
      { state with
        dataMemory := writeBytes state.dataMemory destinationOffset
          ((command.bytes.drop sourceOffset).take copyBytes)
        sourceIndex }
    else
      let (lanes, row) :=
        (List.finRange 4).foldl
          (command.writeField state.vif decoded handledFormat decompressed cyclePosition)
          (lanes, state.vif.row)
      { dataMemory := storeLanes state.dataMemory destinationOffset lanes
        vif := { state.vif with row }
        sourceIndex }

/-- The loop over the writes. -/
def writeAll (vif : Vu1VifState) (dataMemory : Memory) (dataMemorySize : ℕ) : LoopState :=
  (List.range command.writeVectorCount).foldl
    (command.writeOne (command.vuAddress vif) dataMemorySize) { dataMemory, vif }

end Vu1DecodedUnpackCommand

open Vu1DecodedUnpackCommand in
/-- `applyVu1DecodedUnpack`: whether the command is accepted, and what it leaves of the VIF state and
of the data memory. -/
def applyVu1DecodedUnpack (command : Vu1DecodedUnpackCommand) (vif : Vu1VifState)
    (dataMemory : Memory) (dataMemorySize : ℕ) : Bool × Vu1VifState × Memory :=
  if !command.accepted vif dataMemorySize then (false, vif, dataMemory)
  else
    let mode := vif.mode &&& 3
    let contiguous :=
      if !command.maskEnabled && command.componentCount = 4 && command.vectorLength ≤ 2 &&
          cl vif = wl vif && mode ≤ 1 then
        tryUnpackContiguousV4 dataMemory dataMemorySize (command.vuAddress vif) command.bytes
          command.writeVectorCount command.vectorLength command.zeroExtend mode vif.row
      else none
    match contiguous with
    | some written => (true, vif, written)
    | none =>
      let state := command.writeAll vif dataMemory dataMemorySize
      (state.sourceIndex = command.sourceVectorCount, state.vif, state.dataMemory)

end Ps2Recomp
