import Ps2Recomp.Dmac.Vif0Channel
import Ps2Recomp.Vif.Vif1

/-!
# VIF0: the commands of its stream

The loop of `processVif0Stream` (`ps2_vif1_interpreter.cpp`) as a `Vif0Unit`. VIF0 knows fewer
commands than VIF1: it has no double buffer and no path to the GIF, and of the formats of UNPACK it
stores the 32-bit ones only, without masks.

VU0 is a parameter: whether it is busy, and what the programs that are started leave of it and of
its data memory. Positions are numbers, as for VIF1.
-/

namespace Ps2Recomp

open BitMemory (Memory)

def PS2_VU0_CODE_SIZE : Nat := 4 * 1024

def PS2_VU0_DATA_SIZE : Nat := 4 * 1024

/-- What `PS2Memory` has of VIF0, with VU0. -/
structure Vif0State (ν : Type) where
  regs : VIFRegisters := {}
  waitingForVu : Bool := false
  vu0Code : Memory := fun _ => 0
  vu0Data : Memory := fun _ => 0
  vu0 : ν

/-- The callbacks, with what they leave of VU0 and its data memory. -/
structure Vif0Environment (ν : Type) where
  vu0Busy : Vif0State ν → Bool
  vu0Mscal : Vif0State ν → (startPC : Nat) → (itop : BitVec 32) → ν × Memory
  vu0Mscnt : Vif0State ν → (itop : BitVec 32) → ν × Memory

namespace Vif0State

variable {ν : Type}

def setRegs (s : Vif0State ν) (regs : VIFRegisters) : Vif0State ν := { s with regs := regs }

def setStat (s : Vif0State ν) (bits : BitVec 32) : Vif0State ν :=
  s.setRegs { s.regs with stat := s.regs.stat ||| bits }

def clearStat (s : Vif0State ν) (bits : BitVec 32) : Vif0State ν :=
  s.setRegs { s.regs with stat := s.regs.stat &&& ~~~bits }

/-- What reading a code does before the command is looked at. -/
def readCode (s : Vif0State ν) (code : VifCode) : Vif0State ν :=
  let s := s.setRegs { s.regs with code := code.word, num := BitVec.ofNat 32 code.num }
  if code.irq then s.setStat INT else s

/-- The bytes of the payload that a command waits for. -/
def payloadBytes (s : Vif0State ν) (code : VifCode) : Nat :=
  match code.cmd with
  | .STMASK => 4
  | .STROW | .STCOL => 16
  | .MPG => (if code.num = 0 then 256 else code.num) * 8
  | .UNPACK => unpackTotalBytes s.regs (.ofOpcode code.opcode) code.num
  | _ => 0

/-! ## UNPACK -/

/-- The address of the first vector. -/
def unpackAddress (regs : VIFRegisters) (imm : Nat) : Nat :=
  if imm.testBit 15 then (imm % 256 + (regs.tops &&& 0xFF).toNat) % 256 else imm % 256

/-- One pass through the loop of an UNPACK, with the index of the next source vector. -/
def writeVector (regs : VIFRegisters) (code : VifCode) (payload : List UInt8) (state : Memory × Nat)
    (writeIndex : Nat) : Memory × Nat :=
  let format : UnpackFormat := .ofOpcode code.opcode
  let cl := cycleLength regs
  let wl := writeLength regs
  let sources := sourceVectorCount cl wl (writeVectorCount code.num)
  let vuAddr := unpackAddress regs code.imm
  let (data, srcIndex) := state
  let cyclePos := writeIndex % wl
  let sourceAvailable : Bool := wl ≤ cl || cyclePos < cl
  let destVec :=
    if wl ≤ cl then (vuAddr + writeIndex / wl * cl + cyclePos) % 256
    else (vuAddr + writeIndex) % 256
  let destOff := destVec * 16
  if destOff + 16 > PS2_VU0_DATA_SIZE then
    (data, if sourceAvailable && srcIndex < sources then srcIndex + 1 else srcIndex)
  else if !sourceAvailable || sources ≤ srcIndex then (data, srcIndex)
  else
    let srcVec := payload.drop (srcIndex * format.bytesPerVector)
    let lanes := loadLanes data destOff
    (storeLanes data destOff fun lane =>
      if lane < min format.components 4 then BitVec.ofNat 32 (component srcVec 4 lane)
      else lanes lane, srcIndex + 1)

def unpack (s : Vif0State ν) (code : VifCode) (payload : List UInt8) : Vif0State ν :=
  if (UnpackFormat.ofOpcode code.opcode).vl = 0 then
    { s with
      vu0Data := ((List.range (writeVectorCount code.num)).foldl
        (writeVector s.regs code payload) (s.vu0Data, 0)).1 }
  else s

/-! ## Commands -/

def callVu0 (s : Vif0State ν) (left : ν × Memory) : Vif0State ν :=
  { s with vu0 := left.1, vu0Data := left.2 }

/-- A command with its whole payload. -/
def execute (env : Vif0Environment ν) (s : Vif0State ν) (code : VifCode) (payload : List UInt8) :
    Vif0State ν :=
  let regs := s.regs
  let imm := BitVec.ofNat 32 code.imm
  let runItop := regs.itops &&& 0xFF
  match code.cmd with
  | .STCYCL => s.setRegs { regs with cycle := imm }
  | .ITOP => s.setRegs { regs with itops := imm &&& 0xFF }
  | .STMOD => s.setRegs { regs with mode := imm &&& 3 }
  | .MARK => (s.setRegs { regs with mark := imm }).setStat MRK
  | .MSCAL | .MSCALF =>
      let s := s.setRegs { regs with itop := runItop }
      s.callVu0 (env.vu0Mscal s (code.imm % 0x200 * 8) runItop)
  | .MSCNT =>
      let s := s.setRegs { regs with itop := runItop }
      s.callVu0 (env.vu0Mscnt s runItop)
  | .STMASK => s.setRegs { regs with mask := BitVec.ofNat 32 (component payload 4 0) }
  | .STROW => s.setRegs { regs with row := Vif1State.payloadLanes payload }
  | .STCOL => s.setRegs { regs with col := Vif1State.payloadLanes payload }
  | .MPG =>
      { s with
        vu0Code :=
          copyWrappedMicroMemory s.vu0Code PS2_VU0_CODE_SIZE (code.imm % 0x200 * 8) payload }
  | .UNPACK => s.unpack code payload
  | .NOP | .OFFSET | .BASE | .MSKPATH3 | .FLUSHE | .FLUSH | .FLUSHA | .DIRECT | .DIRECTHL
  | .unknown => s

/-! ## The loop -/

/-- How a pass through the loop ends: with the next pass, with `break` before the command, or with
`finish`. -/
inductive Pass (ν : Type) where
  | next (pos : Nat) (stallAfterCommand : Bool) (s : Vif0State ν)
  | incomplete (s : Vif0State ν)
  | wait (s : Vif0State ν)

/-- A pass through the loop, without the test of `stallAfterCommand`. -/
def iterate (env : Vif0Environment ν) (data : List UInt8) (sizeBytes pos : Nat)
    (s : Vif0State ν) : Pass ν :=
  let code := VifCode.ofBytes (data.drop pos)
  let s := s.readCode code
  if code.waitsForVu && env.vu0Busy s then
    .wait ({ s with waitingForVu := true }.setStat VEW)
  else
    let payload := s.payloadBytes code
    if pos + 4 + payload > sizeBytes then .incomplete s
    else
      .next (pos + 4 + payload) code.irq (s.execute env code ((data.drop (pos + 4)).take payload))

theorem iterate_next {env : Vif0Environment ν} {data : List UInt8} {sizeBytes pos pos' : Nat}
    {stall : Bool} {s s' : Vif0State ν} (h : iterate env data sizeBytes pos s = .next pos' stall s') :
    pos < pos' ∧ pos' ≤ sizeBytes := by
  unfold iterate at h
  dsimp only at h
  split at h
  · cases h
  · split at h
    · cases h
    · cases h
      omega

def afterLoop (sizeBytes pos : Nat) (stallAfterCommand : Bool) (s : Vif0State ν) :
    Nat × Vif0ParserDisposition × Vif0State ν :=
  if stallAfterCommand then (pos, .VifInterrupt, s.setStat VIS)
  else if pos = sizeBytes then (pos, .Drained, s)
  else (pos, .NeedMoreData, s)

/-- The loop, over passes that move forward in the stream. -/
def processLoop (sizeBytes : Nat) (pass : Nat → Vif0State ν → Pass ν)
    (hnext : ∀ {pos pos' : Nat} {stall : Bool} {s s' : Vif0State ν},
      pass pos s = .next pos' stall s' → pos < pos' ∧ pos' ≤ sizeBytes)
    (pos : Nat) (stallAfterCommand : Bool) (s : Vif0State ν) :
    Nat × Vif0ParserDisposition × Vif0State ν :=
  if _hpos : pos + 4 ≤ sizeBytes then
    if stallAfterCommand then (pos, .VifInterrupt, s.setStat VIS)
    else
      match _h : pass pos s with
      | .next pos' stall' s' => processLoop sizeBytes pass hnext pos' stall' s'
      | .incomplete s' => afterLoop sizeBytes pos false s'
      | .wait s' => (pos, .WaitingForVu, s')
  else afterLoop sizeBytes pos stallAfterCommand s
termination_by sizeBytes - pos
decreasing_by
  have hlt := hnext _h
  omega

theorem afterLoop_pos (sizeBytes pos : Nat) (stallAfterCommand : Bool) (s : Vif0State ν) :
    (afterLoop sizeBytes pos stallAfterCommand s).1 = pos := by
  unfold afterLoop
  split_ifs <;> rfl

theorem processLoop_le {sizeBytes : Nat} {pass : Nat → Vif0State ν → Pass ν}
    {hnext : ∀ {pos pos' : Nat} {stall : Bool} {s s' : Vif0State ν},
      pass pos s = .next pos' stall s' → pos < pos' ∧ pos' ≤ sizeBytes}
    (pos : Nat) (stallAfterCommand : Bool) (s : Vif0State ν) (hpos : pos ≤ sizeBytes) :
    (processLoop sizeBytes pass hnext pos stallAfterCommand s).1 ≤ sizeBytes := by
  fun_induction processLoop sizeBytes pass hnext pos stallAfterCommand s with
  | case1 => exact hpos
  | case2 _ _ _ _ _ _ _ _ h ih => exact ih (hnext h).2
  | case3 =>
    rw [afterLoop_pos]
    exact hpos
  | case4 => exact hpos
  | case5 =>
    rw [afterLoop_pos]
    exact hpos

/-- The registers that `finish` leaves. -/
def finish (s : Vif0State ν) (disposition : Vif0ParserDisposition) : Vif0State ν :=
  let s := s.clearStat VPS
  if disposition = .NeedMoreData then s.setStat 1 else s

def interpret (env : Vif0Environment ν) (s : Vif0State ν) (data : List UInt8) :
    Vif0State ν × Vif0ParserDisposition × Fin (data.length + 1) :=
  let sizeBytes := min data.length uint32Max
  let loop := processLoop sizeBytes (iterate env data sizeBytes) iterate_next 0 false s
  have hle : loop.1 ≤ sizeBytes := processLoop_le 0 false s (Nat.zero_le _)
  (loop.2.2.finish loop.2.1, loop.2.1, ⟨loop.1, by omega⟩)

def resumeVIF0AfterVu (s : Vif0State ν) : Vif0State ν :=
  if s.waitingForVu then { s with waitingForVu := false }.clearStat VEW else s

end Vif0State

/-- VIF0, as the channel sees it. -/
def vif0Unit {ν : Type} (env : Vif0Environment ν) : Vif0Unit (Vif0State ν) where
  stat s := s.regs.stat
  waitingForVu := Vif0State.waitingForVu
  idle s := s.clearStat VPS
  interpret := Vif0State.interpret env

/-- The parser never takes more than it can count. -/
theorem vif0Unit_consumed_le {ν : Type} (env : Vif0Environment ν) (s : Vif0State ν)
    (data : List UInt8) : ((vif0Unit env).interpret s data).2.2 ≤ uint32Max :=
  (Vif0State.processLoop_le 0 false s (Nat.zero_le _)).trans (Nat.min_le_right _ _)

end Ps2Recomp
