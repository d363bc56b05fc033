import Ps2Recomp.Vu.InterpreterState

/-!
# Lower instructions (`ps2_vu1_lower.cpp`)

`execLower` on a state and the data memory of the unit. What is given to the GIF is part of the
state of the XGKICK unit.
-/

namespace Ps2Recomp

namespace VuData

variable (data : VuData)

/-- The word at an address, in memory order. -/
def word (addr : ℕ) : BitVec 32 := BitVec.ofNat 32 (BitMemory.load data.byte addr 4)

def storeWord (addr : ℕ) (value : BitVec 32) : VuData :=
  { data with byte := BitMemory.store data.byte addr 4 value.toNat }

def quadword (addr : ℕ) : Lanes := fun c => data.word (addr + 4 * c.val)

def storeQuadword (addr : ℕ) (lanes : Lanes) : VuData :=
  { data with
    byte := fun a =>
      if addr ≤ a ∧ a < addr + 16 then
        UInt8.ofNat ((lanes (Fin.ofNat 4 ((a - addr) / 4))).toNat >>> (8 * ((a - addr) % 4)))
      else data.byte a }

/-- `(index * 16) & (dataSize - 1)`. -/
def quadAddress (index : BitVec 32) : ℕ :=
  (index * 16#32 &&& BitVec.ofNat 32 (data.size - 1)).toNat

theorem quadAddress_add_le (index : BitVec 32) : data.quadAddress index + 16 ≤ data.size := by
  obtain ⟨k, hk, hk32, hsize⟩ := data.size_pow
  have hpow : (16 : ℕ) ∣ 2 ^ k := Nat.pow_dvd_pow 2 hk
  have hword : 2 ^ k ∣ 2 ^ 32 := Nat.pow_dvd_pow 2 (by omega)
  have hmask : (BitVec.ofNat 32 (data.size - 1)).toNat = 2 ^ k - 1 := by
    rw [BitVec.toNat_ofNat, hsize]
    have hle := Nat.le_of_dvd (by decide) hword
    have hpos := Nat.two_pow_pos k
    exact Nat.mod_eq_of_lt (by omega)
  have haddress : data.quadAddress index = index.toNat * 16 % 2 ^ k := by
    unfold quadAddress
    rw [BitVec.toNat_and, hmask, Nat.and_two_pow_sub_one_eq_mod, BitVec.toNat_mul]
    exact Nat.mod_mod_of_dvd _ hword
  have hlt := Nat.mod_lt (index.toNat * 16) (Nat.two_pow_pos k)
  have hdvd : 16 ∣ index.toNat * 16 % 2 ^ k :=
    (Nat.dvd_mod_iff hpow).2 (Nat.dvd_mul_left 16 index.toNat)
  omega

end VuData

namespace VuInterpreterBackend

variable {ξ : Type}

namespace VuState

variable (state : VuState ξ) (data : VuData)

/-- A quadword of the data memory is loaded. -/
def loadVf (reg addr dest : ℕ) : VuState ξ :=
  if addr + 16 ≤ data.size then state.writeVf reg (data.quadword addr) dest else state

theorem loadVf_quadAddress (reg : ℕ) (index : BitVec 32) (dest : ℕ) :
    state.loadVf data reg (data.quadAddress index) dest =
      state.writeVf reg (data.quadword (data.quadAddress index)) dest :=
  if_pos (data.quadAddress_add_le index)

/-- Lanes of a VF register are stored. -/
def storeVf (reg addr dest : ℕ) : VuData :=
  if addr + 16 ≤ data.size then
    data.storeQuadword addr (applyDest (data.quadword addr) (state.vfOf reg) dest)
  else data

theorem storeVf_quadAddress (reg : ℕ) (index : BitVec 32) (dest : ℕ) :
    state.storeVf data reg (data.quadAddress index) dest =
      data.storeQuadword (data.quadAddress index)
        (applyDest (data.quadword (data.quadAddress index)) (state.vfOf reg) dest) :=
  if_pos (data.quadAddress_add_le index)

/-- The lane that an integer load takes. -/
def firstLane (dest : ℕ) : ℕ :=
  if dest.testBit 3 then 0 else if dest.testBit 2 then 1 else if dest.testBit 1 then 2 else 3

def loadVi (reg addr dest : ℕ) : VuState ξ :=
  if addr + 16 ≤ data.size then
    state.writeVi reg (toInt16 (data.word (addr + firstLane dest * 4)))
  else state

def storeVi (reg addr dest : ℕ) : VuData :=
  if addr + 16 ≤ data.size then
    (List.finRange 4).foldl
      (fun (data : VuData) lane =>
        if selects dest lane then data.storeWord (addr + 4 * lane.val) (toUInt16 (state.viOf reg))
        else data)
      data
  else data

def branchTo (target : BitVec 32) : VuState ξ :=
  { state with rest := { state.rest with
    branchPending := true, branchTarget := target, branchDelay := 1 } }

def relativeTarget (codeAddressMask : BitVec 32) (instr : VuWord) : BitVec 32 :=
  state.pc + 8 + instr.IMM11.signExtend 32 * 8 &&& codeAddressMask

def registerTarget (codeAddressMask : BitVec 32) (reg : ℕ) : BitVec 32 :=
  toUInt16 (state.viOf reg) * 8#32 &&& codeAddressMask

/-- What BAL and JALR leave in their register. -/
def linkAddress : BitVec 32 := (state.pc + 16) / 8

def branchIf (condition : Bool) (codeAddressMask : BitVec 32) (instr : VuWord) : VuState ξ :=
  if condition then state.branchTo (state.relativeTarget codeAddressMask instr) else state

end VuState

/-! ## Floats -/

def isZero (value : BitVec 32) : Bool := value &&& 0x7FFFFFFF#32 = 0

/-- `std::numeric_limits<float>::max()`. -/
def floatMax : BitVec 32 := 0x7F7FFFFF#32

section Floats

variable (fl : HostFloat)

def divResult (num den : BitVec 32) : BitVec 32 :=
  if !isZero den then fl.div num den else if fl.le 0 num then floatMax else negate floatMax

def rsqrtResult (num value : BitVec 32) : BitVec 32 :=
  let den := fl.sqrt (fl.fabs value)
  if !isZero den then fl.div num den else floatMax

def lengthOf (vs : Lanes) : BitVec 32 :=
  fl.sqrt (fl.add (fl.add (fl.mul (vs 0) (vs 0)) (fl.mul (vs 1) (vs 1))) (fl.mul (vs 2) (vs 2)))

def reciprocal (value : BitVec 32) : BitVec 32 :=
  if !isZero value then fl.div 0x3F800000#32 value else floatMax

end Floats

/-! ## Instructions -/

/-- The 15 bits of `IADDIU` and `ISUBIU`. -/
def imm15u (instr : VuWord) : BitVec 32 := instr &&& 0x7FF#32 ||| instr >>> 10 &&& 0x7800#32

def imm24 (instr : VuWord) : BitVec 32 := instr &&& 0xFFFFFF#32

def imm12 (instr : VuWord) : BitVec 32 := (instr >>> 21 &&& 1#32) <<< 11 ||| instr &&& 0x7FF#32

/-- The scalar selectors `fsf` and `ftf`. -/
def fsf (instr : VuWord) : ℕ := (instr >>> 21 &&& 0x3#32).toNat
def ftf (instr : VuWord) : ℕ := (instr >>> 23 &&& 0x3#32).toNat

/-- 1 or 0. -/
def truth (condition : Bool) : BitVec 32 := if condition then 1 else 0

variable (fl : HostFloat) (unit : XgkickUnit ξ) (codeAddressMask : BitVec 32)

/-- The third `switch` of `execLower`. -/
def lowerSpecial (instr : VuWord) (state : VuState ξ) (data : VuData) : VuState ξ × VuData :=
  let vfT := instr.FT
  let vfS := instr.FS
  let viT := instr.VIT
  let viS := instr.VIS
  let dest := instr.DEST
  let addressOf (state : VuState ξ) (reg : ℕ) : ℕ := data.quadAddress (toUInt16 (state.viOf reg))
  match instr.specialOp with
  | 0x30 => (state.writeVf vfT (state.vfOf vfS) dest, data)
  | 0x31 => (state.writeVf vfT (fun c => state.vfOf vfS (c + 1)) dest, data)
  | 0x34 =>
    let state := state.backupVi viS
    let state := state.loadVf data vfT (addressOf state viS) dest
    (state.writeVi viS (toInt16 (state.viOf viS + 1)), data)
  | 0x35 =>
    let state := state.backupVi viT
    let data := state.storeVf data vfS (addressOf state viT) dest
    (state.writeVi viT (toInt16 (state.viOf viT + 1)), data)
  | 0x36 =>
    let state := state.backupVi viS
    let state := state.writeVi viS (toInt16 (state.viOf viS - 1))
    (state.loadVf data vfT (addressOf state viS) dest, data)
  | 0x37 =>
    let state := state.backupVi viT
    let state := state.writeVi viT (toInt16 (state.viOf viT - 1))
    (state, state.storeVf data vfS (addressOf state viT) dest)
  | 0x38 =>
    (state.scheduleQ
      (divResult fl (broadcast (state.vfOf vfS) (fsf instr)) (broadcast (state.vfOf vfT) (ftf instr)))
      7, data)
  | 0x39 =>
    (state.scheduleQ (fl.sqrt (fl.fabs (broadcast (state.vfOf vfT) (ftf instr)))) 7, data)
  | 0x3A =>
    (state.scheduleQ
      (rsqrtResult fl (broadcast (state.vfOf vfS) (fsf instr))
        (broadcast (state.vfOf vfT) (ftf instr)))
      13, data)
  | 0x3C =>
    if viT ≠ 0 then
      ((state.backupVi viT).setVi viT (toInt16 (broadcast (state.vfOf vfS) (fsf instr))), data)
    else (state, data)
  | 0x3D => (state.writeVf vfT (fun _ => toInt16 (state.viOf viS)) dest, data)
  | 0x3E => (state.loadVi data viT (addressOf state viS) dest, data)
  | 0x3F => (state, state.storeVi data viT (addressOf state viS) dest)
  | 0x64 => (state.writeVf vfT (fun _ => state.p) dest, data)
  | 0x68 => (state.writeVi viT (state.top &&& 0x3FF#32), data)
  | 0x69 => (state.writeVi viT (state.itop &&& 0x3FF#32), data)
  | 0x6C =>
    let pipeline := state.rest.pipeline
    (state.withPipeline { pipeline with
      xgkick := unit.beginXgkick data (toUInt16 (state.viOf viS)) pipeline.xgkick }, data)
  | 0x72 => (state.scheduleP (lengthOf fl (state.vfOf vfS)) 18, data)
  | 0x73 => (state.scheduleP (reciprocal fl (lengthOf fl (state.vfOf vfS))) 24, data)
  | 0x7A => (state.scheduleP (reciprocal fl (broadcast (state.vfOf vfS) (fsf instr))) 12, data)
  -- WAITQ and WAITP have waited before the pair; the rest does nothing
  | _ => (state, data)

/-- The second `switch` of `execLower`. -/
def lowerFunction (instr : VuWord) (state : VuState ξ) (data : VuData) : VuState ξ × VuData :=
  let viT := instr.VIT
  let viS := instr.VIS
  let viD := instr.VID
  match (instr &&& 0x3F#32).toNat with
  | 0x30 => (state.writeVi viD (toInt16 (state.viOf viS + state.viOf viT)), data)
  | 0x31 => (state.writeVi viD (toInt16 (state.viOf viS - state.viOf viT)), data)
  | 0x32 =>
    let imm5 := ((instr >>> 6).setWidth 5).signExtend 32
    (state.writeVi viT (toInt16 (state.viOf viS + imm5)), data)
  | 0x34 => (state.writeVi viD (state.viOf viS &&& state.viOf viT), data)
  | 0x35 => (state.writeVi viD (state.viOf viS ||| state.viOf viT), data)
  | 0x3C | 0x3D | 0x3E | 0x3F => lowerSpecial fl unit instr state data
  | _ => (state, data)

def execLower (instr : VuWord) (state : VuState ξ) (data : VuData) : VuState ξ × VuData :=
  let it := instr.VIT
  let is := instr.VIS
  let dest := instr.DEST
  let addressOf (reg : ℕ) : ℕ :=
    data.quadAddress (state.viOf reg + instr.IMM11.signExtend 32)
  if instr = 0 ∨ instr = 0x8000033C#32 then (state, data)
  else
    match instr.lowerPrimary with
    | 0x00 => (state.loadVf data instr.FT (addressOf is) dest, data)
    | 0x01 => (state, state.storeVf data instr.FS (addressOf it) dest)
    | 0x04 => (state.loadVi data it (addressOf is) dest, data)
    | 0x05 => (state, state.storeVi data it (addressOf is) dest)
    | 0x08 => (state.writeVi it (toInt16 (state.viOf is + imm15u instr)), data)
    | 0x09 => (state.writeVi it (toInt16 (state.viOf is - imm15u instr)), data)
    | 0x10 => (state.setVi 1 (truth (state.clip &&& 0xFFFFFF#32 = imm24 instr)), data)
    | 0x11 => (state.scheduleClipFlags (imm24 instr), data)
    | 0x12 => (state.setVi 1 (truth (state.clip &&& imm24 instr ≠ 0)), data)
    | 0x13 => (state.setVi 1 (truth ((state.clip ||| imm24 instr) = 0xFFFFFF#32)), data)
    | 0x14 => (state.writeVi it (truth (state.status &&& 0xFFF#32 = imm12 instr)), data)
    | 0x15 =>
      ({ state with status := imm12 instr &&& 0xFC0#32 ||| state.status &&& 0x3F#32 }, data)
    | 0x16 => (state.writeVi it (state.status &&& 0xFFF#32 &&& imm12 instr), data)
    | 0x17 => (state.writeVi it (state.status &&& 0xFFF#32 ||| imm12 instr), data)
    | 0x18 => (state.writeVi it (truth (state.mac &&& 0xFFFF#32 = toUInt16 (state.viOf is))), data)
    | 0x1A => (state.writeVi it (state.mac &&& 0xFFFF#32 &&& toUInt16 (state.viOf is)), data)
    | 0x1B => (state.writeVi it (state.mac &&& 0xFFFF#32 ||| toUInt16 (state.viOf is)), data)
    | 0x1C => (state.writeVi it (state.clip &&& 0x0FFF#32), data)
    | 0x20 => (state.branchTo (state.relativeTarget codeAddressMask instr), data)
    | 0x21 =>
      let target := state.relativeTarget codeAddressMask instr
      ((state.writeVi it state.linkAddress).branchTo target, data)
    | 0x24 => (state.branchTo (state.registerTarget codeAddressMask is), data)
    | 0x25 =>
      let target := state.registerTarget codeAddressMask is
      ((state.writeVi it state.linkAddress).branchTo target, data)
    | 0x28 =>
      (state.branchIf (state.readViForBranch is = state.readViForBranch it) codeAddressMask instr,
        data)
    | 0x29 =>
      (state.branchIf (state.readViForBranch is ≠ state.readViForBranch it) codeAddressMask instr,
        data)
    | 0x2C => (state.branchIf ((state.readViForBranch is).slt 0) codeAddressMask instr, data)
    | 0x2D =>
      (state.branchIf (BitVec.slt 0 (state.readViForBranch is)) codeAddressMask instr, data)
    | 0x2E => (state.branchIf ((state.readViForBranch is).sle 0) codeAddressMask instr, data)
    | 0x2F =>
      (state.branchIf (BitVec.sle 0 (state.readViForBranch is)) codeAddressMask instr, data)
    | 0x40 => lowerFunction fl unit instr state data
    | _ => (state, data)

end VuInterpreterBackend

end Ps2Recomp
