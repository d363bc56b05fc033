import Ps2Recomp.Lib.BitMemory
import Ps2Recomp.Lib.FiniteIndices

/-!
# VIF1: UNPACK

The in-place UNPACK of `processVif1Stream` (`ps2_vif1_interpreter.cpp`): it reads packed vectors of
one to four components and writes them to the data memory of VU1, a vector of four 32-bit lanes for
each write cycle. `writeVector` is the body of the loop, `tryUnpackContiguousV4` the shortcut for
unmasked V4 formats that fill consecutive vectors.
-/

namespace Ps2Recomp

open BitMemory (Memory load store)

def PS2_VU1_CODE_SIZE : Nat := 16 * 1024

def PS2_VU1_DATA_SIZE : Nat := 16 * 1024

/-- Four 32-bit values: a vector of VU1, the ROW or the COL registers. -/
abbrev Lanes := Fin 4 → BitVec 32

structure VIFRegisters where
  stat : BitVec 32 := 0
  fbrst : BitVec 32 := 0
  err : BitVec 32 := 0
  mark : BitVec 32 := 0
  cycle : BitVec 32 := 0
  mode : BitVec 32 := 0
  num : BitVec 32 := 0
  mask : BitVec 32 := 0
  code : BitVec 32 := 0
  itops : BitVec 32 := 0
  base : BitVec 32 := 0
  ofst : BitVec 32 := 0
  tops : BitVec 32 := 0
  itop : BitVec 32 := 0
  top : BitVec 32 := 0
  row : Lanes := fun _ => 0
  col : Lanes := fun _ => 0

/-- The little-endian number in the bytes. -/
def littleEndian : List UInt8 → Nat
  | [] => 0
  | byte :: rest => byte.toNat + 256 * littleEndian rest

def writeBytes (memory : Memory) (offset : Nat) (bytes : List UInt8) : Memory := fun address =>
  if offset ≤ address then bytes[address - offset]?.getD (memory address) else memory address

/-- `copyWrappedMicroMemory`. An offset past the end, where the loop of the source would not
end, copies nothing; no caller has one. -/
def copyWrappedMicroMemory (destination : Memory) (destinationSize destinationOffset : Nat)
    (source : List UInt8) : Memory :=
  if _h : source = [] ∨ destinationSize - destinationOffset = 0 then destination
  else
    let chunk := min source.length (destinationSize - destinationOffset)
    copyWrappedMicroMemory (writeBytes destination destinationOffset (source.take chunk))
      destinationSize 0 (source.drop chunk)
termination_by source.length
decreasing_by
  rw [not_or] at _h
  have hpos : 0 < source.length := List.length_pos_iff.2 _h.1
  rw [List.length_drop]
  omega

/-! ## Formats -/

/-- `vn`, `vl` and the mask bit of the opcode. -/
structure UnpackFormat where
  vn : Nat
  vl : Nat
  maskEnable : Bool

namespace UnpackFormat

def ofOpcode (opcode : Nat) : UnpackFormat where
  vn := opcode / 4 % 4
  vl := opcode % 4
  maskEnable := opcode.testBit 4

variable (format : UnpackFormat)

def components : Nat := format.vn + 1

def bitsPerComponent : Nat :=
  match format.vl with
  | 0 => 32
  | 1 => 16
  | 2 => 8
  | _ => if format.vn = 3 then 4 else 16

def bitsPerVector : Nat :=
  if format.vl = 3 ∧ format.vn = 3 then 16 else format.components * format.bitsPerComponent

def bytesPerVector : Nat := (format.bitsPerVector + 7) / 8

end UnpackFormat

/-- NUM counts the writes, with 0 for 256. -/
def writeVectorCount (num : Nat) : Nat := if num = 0 then 256 else num

/-- CL of STCYCL, with 0 read as 1. -/
def cycleLength (regs : VIFRegisters) : Nat :=
  let cl := (regs.cycle &&& 0xFF).toNat
  if cl = 0 then 1 else cl

/-- WL of STCYCL, with 0 read as 1. -/
def writeLength (regs : VIFRegisters) : Nat :=
  let wl := (regs.cycle >>> 8 &&& 0xFF).toNat
  if wl = 0 then 1 else wl

/-- Filling writes (`cl < wl`) read fewer vectors than they write. -/
def sourceVectorCount (cl wl writes : Nat) : Nat :=
  if cl < wl then writes / wl * cl + min (writes % wl) cl else writes

/-- The payload of an UNPACK, in whole words. -/
def unpackTotalBytes (regs : VIFRegisters) (format : UnpackFormat) (num : Nat) : Nat :=
  let sources :=
    sourceVectorCount (cycleLength regs) (writeLength regs) (writeVectorCount num)
  (sources * format.bytesPerVector + 3) / 4 * 4

/-! ## Decoding a vector -/

/-- `extend16` and `extend8`; 32-bit components are taken as they are. -/
def extend (zeroExtend : Bool) (width raw : Nat) : BitVec 32 :=
  if zeroExtend then BitVec.ofNat 32 raw else (BitVec.ofNat (8 * width) raw).signExtend 32

def component (source : List UInt8) (width index : Nat) : Nat :=
  littleEndian ((source.drop (index * width)).take width)

/-- Decode the vector at the front of `source`. A lane without source keeps what the memory holds
(`lanes`). `none` is a format that is not handled. -/
def decompress (format : UnpackFormat) (zeroExtend : Bool) (source : List UInt8) (lanes : Lanes) :
    Option Lanes :=
  if format.vl ≤ 2 then
    let width := format.bitsPerComponent / 8
    if format.components = 1 then
      some fun _ => extend zeroExtend width (component source width 0)
    else
      -- V3 goes through the decoder of V4 and reads the component that follows.
      let limit := if format.components = 3 then 4 else format.components
      let decoded (lane : Fin 4) : BitVec 32 :=
        if lane.val < limit ∧ (lane + 1) * width ≤ source.length then
          extend zeroExtend width (component source width lane)
        else lanes lane
      if format.components = 2 then some fun lane => decoded (lane % 2)
      else some decoded
  else if format.vn = 3 then
    let packed := component source 2 0
    some fun lane =>
      match lane with
      | 0 => BitVec.ofNat 32 (packed % 32)
      | 1 => BitVec.ofNat 32 (packed / 32 % 32)
      | 2 => BitVec.ofNat 32 (packed / 1024 % 32)
      | 3 => BitVec.ofNat 32 (packed / 32768 % 2)
  else none

/-- Where the fourth component of V3 crosses a source quadword, W is zero. `srcIndex` counts the
vectors that were read, this one included. -/
def zeroW (format : UnpackFormat) (srcIndex sourceWordAlignment : Nat) : Bool :=
  format.components = 3 &&
    match format.vl with
    | 0 => (srcIndex - 1) % 2 ≠ sourceWordAlignment
    | 1 => srcIndex % 2 = 0 && (srcIndex / 4 + 1 + (4 - sourceWordAlignment)) % 4 = 0
    | 2 => srcIndex ≠ sourceWordAlignment
    | _ => false

/-- The decoded vector with the W lanes that the hardware clears. -/
def decodeVector (format : UnpackFormat) (zeroExtend : Bool) (source : List UInt8) (lanes : Lanes)
    (srcIndex sourceWordAlignment : Nat) : Option Lanes :=
  (decompress format zeroExtend source lanes).map fun decompressed (lane : Fin 4) =>
    if lane = 3 ∧ (zeroW format srcIndex sourceWordAlignment = true ∨
        format.components = 2 ∧ format.vl = 0) then 0
    else decompressed lane

/-! ## Writing a vector -/

def loadLanes (data : Memory) (offset : Nat) : Lanes := fun lane =>
  BitVec.ofNat 32 (load data (offset + 4 * lane) 4)

def storeLanes (data : Memory) (offset : Nat) (lanes : Lanes) : Memory :=
  (List.finRange 4).foldl
    (fun data (lane : Fin 4) => store data (offset + 4 * lane) 4 (lanes lane).toNat) data

/-- What the loop of an UNPACK does not change. -/
structure Unpack where
  format : UnpackFormat
  zeroExtend : Bool
  vuAddr : Nat
  cl : Nat
  wl : Nat
  writes : Nat
  sources : Nat
  sourceWordAlignment : Nat
  payload : List UInt8

/-- What the loop of an UNPACK changes. -/
structure UnpackState where
  data : Memory
  row : Lanes
  srcIndex : Nat := 0

/-- What becomes of a field: 0 the decoded value, 1 the row, 2 the column, 3 nothing. -/
def maskSpec (regs : VIFRegisters) (maskEnable decoded : Bool) (cycle : Nat) (field : Fin 4) :
    Nat :=
  let spec := if maskEnable then (regs.mask >>> ((cycle * 4 + field) * 2) &&& 3).toNat else 0
  -- Without a source, raw data is filled from the row.
  if !decoded && spec = 0 then 1 else spec

/-- One pass through the loop of an UNPACK. -/
def writeVector (regs : VIFRegisters) (unpack : Unpack) (state : UnpackState) (writeIndex : Nat) :
    UnpackState :=
  let cyclePos := writeIndex % unpack.wl
  let destVec :=
    if unpack.wl ≤ unpack.cl then
      (unpack.vuAddr + writeIndex / unpack.wl * unpack.cl + cyclePos) % 1024
    else (unpack.vuAddr + writeIndex) % 1024
  let destOff := destVec * 16
  let decoded :=
    (unpack.wl ≤ unpack.cl || cyclePos < unpack.cl) && state.srcIndex < unpack.sources
  let srcIndex := if decoded then state.srcIndex + 1 else state.srcIndex
  if destOff + 16 > PS2_VU1_DATA_SIZE then { state with srcIndex }
  else
    let lanes := loadLanes state.data destOff
    let source := unpack.payload.drop (state.srcIndex * unpack.format.bytesPerVector)
    let decompressed :=
      if decoded then
        decodeVector unpack.format unpack.zeroExtend source lanes srcIndex
          unpack.sourceWordAlignment
      else none
    if decoded && decompressed.isNone && !unpack.format.maskEnable &&
        (regs.mode = 0 || regs.mode = 3) then
      -- An unknown format is copied as it is.
      { state with
        data := writeBytes state.data destOff (source.take (min unpack.format.bytesPerVector 16))
        srcIndex }
    else
      let mode := regs.mode &&& 3
      let canAdd := !(unpack.format.vl = 3 && unpack.format.vn = 3)
      let cycle := min cyclePos 3
      let spec := maskSpec regs unpack.format.maskEnable decoded cycle
      let writeVal (field : Fin 4) : BitVec 32 :=
        match spec field with
        | 0 =>
            match decompressed with
            | some value =>
                if canAdd && (mode = 1 || mode = 2) then value field + state.row field
                else value field
            | none => lanes field
        | 1 => state.row field
        | 2 => regs.col (Fin.ofNat 4 cycle)
        | _ => lanes field
      { data := storeLanes state.data destOff writeVal
        row := fun field =>
          if spec field = 0 && decompressed.isSome && canAdd && mode = 2 then writeVal field
          else state.row field
        srcIndex }

def unpackVectors (regs : VIFRegisters) (unpack : Unpack) (data : Memory) : UnpackState :=
  (List.range unpack.writes).foldl (writeVector regs unpack) { data, row := regs.row }

/-! ## The shortcut -/

/-- The vectors of the shortcut from `vector` on. -/
def unpackContiguous (row : Lanes) (width : Nat) (zeroExtend : Bool) (mode : BitVec 32)
    (destinationVectors : Nat) : Nat → Memory → Nat → List UInt8 → Memory
  | 0, destination, _, _ => destination
  | remaining + 1, destination, vector, source =>
      let value (lane : Fin 4) : BitVec 32 :=
        let raw := extend zeroExtend width (component source width lane)
        if mode = 1 then raw + row lane else raw
      unpackContiguous row width zeroExtend mode destinationVectors remaining
        (storeLanes destination (vector * 16) value)
        (if vector + 1 = destinationVectors then 0 else vector + 1) (source.drop (4 * width))

def tryUnpackContiguousV4 (destination : Memory) (destinationSize destinationVector : Nat)
    (source : List UInt8) (vectorCount componentWidth : Nat) (zeroExtend : Bool)
    (mode : BitVec 32) (row : Lanes) : Option Memory :=
  if destinationSize < 16 || destinationSize % 16 ≠ 0 || componentWidth > 2 || mode > 1 then none
  else
    let destinationVectors := destinationSize / 16
    let vector := destinationVector % destinationVectors
    if componentWidth = 0 && mode ≠ 1 then
      some (copyWrappedMicroMemory destination destinationSize (vector * 16)
        (source.take (vectorCount * 16)))
    else
      let width := if componentWidth = 0 then 4 else if componentWidth = 1 then 2 else 1
      some (unpackContiguous row width zeroExtend mode destinationVectors vectorCount destination
        vector source)

/-- The in-place UNPACK: the shortcut where it applies, else the loop. -/
def unpackInPlace (regs : VIFRegisters) (unpack : Unpack) (data : Memory) : UnpackState :=
  let mode := regs.mode &&& 3
  let contiguous :=
    if !unpack.format.maskEnable && unpack.format.vn = 3 && unpack.format.vl ≤ 2 &&
        unpack.cl = unpack.wl && mode ≤ 1 then
      tryUnpackContiguousV4 data PS2_VU1_DATA_SIZE unpack.vuAddr unpack.payload unpack.writes
        unpack.format.vl unpack.zeroExtend mode regs.row
    else none
  match contiguous with
  | some written => { data := written, row := regs.row }
  | none => unpackVectors regs unpack data

end Ps2Recomp
