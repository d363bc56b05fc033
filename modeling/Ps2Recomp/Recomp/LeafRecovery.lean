import Ps2Recomp.Lib.Worklist
import Ps2Recomp.Recomp.FunctionTable

/-!
# Leaf recovery (`elf_parser.cpp`, `r5900_decoder.cpp`)

`RecoverClosedLeafFunction` follows the static control flow from an address in a gap between known
functions, and returns where the function it has found there ends. An instruction and its delay slot
are marked together, and the words between the marked ones must be zero.

* The words of a section are little-endian, at offsets of `data`.
* The decoder asks Rabbitizer, which is a parameter, for the flags of a word and adds some of its own.
* The loop has fuel; `searchFuel` is enough.
-/

namespace Ps2Recomp.Recompiler

open Worklist (Expansion)

/-! ## Decoding -/

@[match_pattern] abbrev OPCODE_SPECIAL : ℕ := 0x00
@[match_pattern] abbrev OPCODE_REGIMM : ℕ := 0x01
@[match_pattern] abbrev OPCODE_J : ℕ := 0x02
@[match_pattern] abbrev OPCODE_JAL : ℕ := 0x03
@[match_pattern] abbrev OPCODE_BEQ : ℕ := 0x04
@[match_pattern] abbrev OPCODE_BGTZ : ℕ := 0x07
@[match_pattern] abbrev OPCODE_COP0 : ℕ := 0x10
@[match_pattern] abbrev OPCODE_COP1 : ℕ := 0x11
@[match_pattern] abbrev OPCODE_COP2 : ℕ := 0x12
@[match_pattern] abbrev OPCODE_BEQL : ℕ := 0x14
@[match_pattern] abbrev OPCODE_BGTZL : ℕ := 0x17

@[match_pattern] abbrev SPECIAL_JR : ℕ := 0x08
@[match_pattern] abbrev SPECIAL_JALR : ℕ := 0x09

/-- `COP0_BC`, `COP1_BC` and `COP2_BC`. -/
abbrev COP_BC : ℕ := 0x08

/-- The fields of an instruction word. -/
structure WordFields where
  opcode : ℕ
  rs : ℕ
  rt : ℕ
  function : ℕ
  simmediate : BitVec 32
  target : BitVec 32
  deriving DecidableEq, Repr

/-- `OPCODE`, `RS`, `RT`, `FUNCTION`, `SIMMEDIATE` and `TARGET`. -/
def fieldsOf (raw : BitVec 32) : WordFields where
  opcode := (raw.extractLsb' 26 6).toNat
  rs := (raw.extractLsb' 21 5).toNat
  rt := (raw.extractLsb' 16 5).toNat
  function := (raw.extractLsb' 0 6).toNat
  simmediate := (raw.extractLsb' 0 16).signExtend 32
  target := (raw.extractLsb' 0 26).setWidth 32

/-- What the decoder asks Rabbitizer about a word. -/
structure Rabbitizer where
  isBranch : BitVec 32 → Bool
  isJump : BitVec 32 → Bool
  isFunctionCall : BitVec 32 → Bool
  isReturn : BitVec 32 → Bool
  hasDelaySlot : BitVec 32 → Bool
  /-- The unique identifier is that of `ERET`. -/
  isEret : BitVec 32 → Bool

/-- The members of `Instruction` that the recovery reads. -/
structure FlowInstruction extends WordFields where
  address : BitVec 32
  isBranch : Bool
  isJump : Bool
  isCall : Bool
  isReturn : Bool
  hasDelaySlot : Bool
  deriving DecidableEq, Repr

namespace FlowInstruction

variable (inst : FlowInstruction)

/-- `decodeCOP2`. -/
def decodeCOP2 : FlowInstruction :=
  if inst.rs = COP_BC then { inst with isBranch := true, hasDelaySlot := true } else inst

/-- `decodeSpecial`. -/
def decodeSpecial : FlowInstruction :=
  match inst.function with
  | SPECIAL_JR =>
    { inst with
      isJump := true
      hasDelaySlot := true
      isReturn := if inst.rs = 31 then true else inst.isReturn }
  | SPECIAL_JALR => { inst with isJump := true, isCall := true, hasDelaySlot := true }
  | _ => inst

def getBranchTarget : BitVec 32 :=
  if !inst.isBranch then 0 else inst.address + 4 + inst.simmediate <<< 2

def getJumpTarget : BitVec 32 :=
  if !inst.isJump then 0
  else if inst.opcode = OPCODE_SPECIAL ∧
      (inst.function = SPECIAL_JR ∨ inst.function = SPECIAL_JALR) then 0
  else if inst.opcode = OPCODE_J ∨ inst.opcode = OPCODE_JAL then
    ((inst.address + 4) &&& 0xF0000000#32) ||| inst.target <<< 2
  else 0

end FlowInstruction

/-- `decodeInstruction`. -/
def Rabbitizer.decodeInstruction (rabbitizer : Rabbitizer) (address raw : BitVec 32) :
    FlowInstruction :=
  let inst : FlowInstruction :=
    { fieldsOf raw with
      address
      isBranch := rabbitizer.isBranch raw
      isJump := rabbitizer.isJump raw
      isCall := rabbitizer.isFunctionCall raw
      isReturn := rabbitizer.isReturn raw || rabbitizer.isEret raw
      hasDelaySlot := rabbitizer.hasDelaySlot raw }
  let inst :=
    if rabbitizer.isEret raw then { inst with isReturn := true, hasDelaySlot := false } else inst
  let inst := if inst.opcode = OPCODE_COP2 then inst.decodeCOP2 else inst
  if inst.opcode = OPCODE_SPECIAL then inst.decodeSpecial else inst

/-! ## The recovery -/

/-- `ReadSectionWord`. -/
def readSectionWord (found : Section) (address : BitVec 32) : Option (BitVec 32) :=
  match found.data with
  | none => none
  | some data =>
    if address < found.address then none
    else
      let offset := address.toNat - found.address.toNat
      if offset + 4 > found.size.toNat then none
      else some (data (offset + 3) ++ data (offset + 2) ++ data (offset + 1) ++ data offset)

def uint32Limit : BitVec 32 := 0xFFFFFFFF

/-- `reachableEnd` and `sawReturn`. -/
structure LeafExtent where
  reachableEnd : BitVec 32
  sawReturn : Bool := false
  deriving DecidableEq, Repr

namespace LeafRecovery

def kMaxInstructions : ℕ := 1024

variable (rabbitizer : Rabbitizer) (found : Section) (start gapEnd : BitVec 32)

/-- `includeInstruction`: the address that it marks. -/
def includeInstruction (address : BitVec 32) : Option (BitVec 32) :=
  if address < start ∨ address ≥ gapEnd ∨ address &&& 3#32 ≠ 0 ∨ address > uint32Limit - 4 then none
  else (readSectionWord found address).map fun _ => address

/-- `includeDelaySlot`. -/
def includeDelaySlot (instruction : FlowInstruction) : Option (List (BitVec 32)) :=
  if !instruction.hasDelaySlot then some []
  else if instruction.address > uint32Limit - 4 then none
  else (includeInstruction found start gapEnd (instruction.address + 4)).map fun slot => [slot]

/-- `queueSuccessor`: the address that it appends if it is not marked. -/
def queueSuccessor (address : BitVec 32) : Option (BitVec 32) :=
  if address < start ∨ address ≥ gapEnd ∨ address &&& 3#32 ≠ 0 then none else some address

/-- The body of the loop for an address that is not marked; the label is `true` at a return. -/
def expand (address : BitVec 32) : Option (Expansion (BitVec 32) Bool) := do
  let raw ← readSectionWord found address
  let included ← includeInstruction found start gapEnd address
  let instruction := rabbitizer.decodeInstruction address raw
  let isJr := instruction.opcode = OPCODE_SPECIAL ∧ instruction.function = SPECIAL_JR
  let isJalr := instruction.opcode = OPCODE_SPECIAL ∧ instruction.function = SPECIAL_JALR
  if isJr ∧ instruction.rs = 31 then
    let slot ← includeDelaySlot found start gapEnd instruction
    return { marks := included :: slot, successors := [], label := true }
  else if instruction.isCall ∨ isJr ∨ isJalr ∨ instruction.isReturn then none
  else if instruction.opcode = OPCODE_J then
    let slot ← includeDelaySlot found start gapEnd instruction
    let target ← queueSuccessor start gapEnd instruction.getJumpTarget
    return { marks := included :: slot, successors := [target], label := false }
  else if instruction.isJump then none
  else if instruction.isBranch then
    let slot ← includeDelaySlot found start gapEnd instruction
    let target ← queueSuccessor start gapEnd instruction.getBranchTarget
    let unconditionalBeq :=
      instruction.opcode = OPCODE_BEQ ∧ instruction.rs = 0 ∧ instruction.rt = 0
    if unconditionalBeq then
      return { marks := included :: slot, successors := [target], label := false }
    else if instruction.address > uint32Limit - 8 then none
    else
      let next ← queueSuccessor start gapEnd (instruction.address + 8)
      return { marks := included :: slot, successors := [target, next], label := false }
  else if address > uint32Limit - 4 then none
  else
    let next ← queueSuccessor start gapEnd (address + 4)
    return { marks := [included], successors := [next], label := false }

/-- `reachableEnd` and `sawReturn` after an instruction. -/
def note (expansion : Expansion (BitVec 32) Bool) (extent : LeafExtent) : LeafExtent where
  reachableEnd := expansion.marks.foldl
    (fun reachableEnd address => if reachableEnd < address + 4 then address + 4 else reachableEnd)
    extent.reachableEnd
  sawReturn := extent.sawReturn || expansion.label

/-- The addresses of the loop over the range. -/
def wordsUpTo (reachableEnd : BitVec 32) : List (BitVec 32) :=
  (List.range ((reachableEnd.toNat - start.toNat + 3) / 4)).map fun i => start + 4 * BitVec.ofNat 32 i

/-- The end of the function after the search. -/
def finish (final : Worklist.State (BitVec 32) LeafExtent) : Option (BitVec 32) :=
  let reachableEnd := final.noted.reachableEnd
  if !final.noted.sawReturn ∨ reachableEnd ≤ start then none
  else if (wordsUpTo start reachableEnd).any fun address =>
      address ∉ final.visited && readSectionWord found address ≠ some 0 then none
  else some reachableEnd

/-- `RecoverClosedLeafFunction`, with fuel for its loop. -/
def recoverClosedLeafFunction (fuel : ℕ) : Option (Option (BitVec 32)) :=
  if start &&& 3#32 ≠ 0 ∨ start ≥ gapEnd then some none
  else
    (Worklist.run (expand rabbitizer found start gapEnd) note kMaxInstructions fuel
      { pending := [start], visited := ∅, noted := { reachableEnd := start } }).map
        fun outcome => outcome.bind (finish found start)

end LeafRecovery

end Ps2Recomp.Recompiler
