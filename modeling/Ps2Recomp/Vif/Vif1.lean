import Ps2Recomp.Vif.Stream
import Ps2Recomp.Vif.Unpack

/-!
# VIF1: the command stream

`processVIF1Data` and `processVif1Stream` of `ps2_vif1_interpreter.cpp`. A call appends its bytes to
the deferred stream and interprets as many commands as are complete. A command with an immediate
payload that has not all arrived is taken back and tried again with the next call; DIRECT and
DIRECTHL hand their quadwords to the GIF as they arrive and leave a pending count.

Positions are `uint32_t`. They are numbers here, which is the same for buffers that are at least
4096 bytes shorter than 4 GiB, as all are: the main memory has 32 MiB.

What lies outside is a parameter (`Vif1Environment`): whether VU1 is busy and the path to the GIF is
available, what the programs that are started do to the data memory, and the owner of VU1, if there
is one, which is sent the updates of the memories and may answer with new VIF registers. The trace
and the workload profile are left out.
-/

namespace Ps2Recomp

open BitMemory (Memory)

/-! ## Codes -/

inductive VIFCmd
  | NOP | STCYCL | OFFSET | BASE | ITOP | STMOD | MSKPATH3 | MARK | FLUSHE | FLUSH | FLUSHA
  | MSCAL | MSCALF | MSCNT | STMASK | STROW | STCOL | MPG | DIRECT | DIRECTHL | UNPACK | unknown
  deriving DecidableEq

def VIFCmd.ofOpcode : Nat → VIFCmd
  | 0x00 => .NOP
  | 0x01 => .STCYCL
  | 0x02 => .OFFSET
  | 0x03 => .BASE
  | 0x04 => .ITOP
  | 0x05 => .STMOD
  | 0x06 => .MSKPATH3
  | 0x07 => .MARK
  | 0x10 => .FLUSHE
  | 0x11 => .FLUSH
  | 0x13 => .FLUSHA
  | 0x14 => .MSCAL
  | 0x15 => .MSCALF
  | 0x17 => .MSCNT
  | 0x20 => .STMASK
  | 0x30 => .STROW
  | 0x31 => .STCOL
  | 0x4A => .MPG
  | 0x50 => .DIRECT
  | 0x51 => .DIRECTHL
  | opcode => if opcode &&& 0x60 = 0x60 then .UNPACK else .unknown

/-- A VIF code. -/
structure VifCode where
  word : BitVec 32

namespace VifCode

def ofBytes (bytes : List UInt8) : VifCode := ⟨BitVec.ofNat 32 (littleEndian (bytes.take 4))⟩

variable (code : VifCode)

def opcode : Nat := (code.word >>> 24 &&& 0x7F).toNat

def imm : Nat := (code.word &&& 0xFFFF).toNat

def num : Nat := (code.word >>> 16 &&& 0xFF).toNat

def irq : Bool := code.word &&& 0x80000000 ≠ 0

def cmd : VIFCmd := .ofOpcode code.opcode

def waitsForVu : Bool :=
  match code.cmd with
  | .FLUSHE | .FLUSH | .FLUSHA | .MSCAL | .MSCALF | .MSCNT => true
  | _ => false

/-- The quadwords of DIRECT, with 0 for 65536. -/
def requestedQw : Nat := if code.imm = 0 then 65536 else code.imm

end VifCode

/-! ## State -/

/-- The bits of the VIF1 status: VPS, VEW, VGW, MRK, DBF, VIS and INT. -/
def VPS : BitVec 32 := 0x3

def VEW : BitVec 32 := 0x4

def VGW : BitVec 32 := 0x8

def MRK : BitVec 32 := 0x40

def DBF : BitVec 32 := 0x80

def VIS : BitVec 32 := 0x400

def INT : BitVec 32 := 0x800

structure Vu1VifState where
  cycle : BitVec 32
  mode : BitVec 32
  mask : BitVec 32
  row : Lanes
  column : Lanes
  tops : BitVec 32

structure Vu1DecodedUnpackCommand where
  immediate : Nat
  vectorLength : Nat
  componentCount : Nat
  writeVectorCount : Nat
  sourceVectorCount : Nat
  sourceWordAlignment : Nat
  maskEnabled : Bool
  zeroExtend : Bool
  bytes : List UInt8

inductive Vu1Command
  | vifStateUpdate (state : Vu1VifState)
  | microMemoryWrite (offset : Nat) (bytes : List UInt8)
  | decodedUnpack (unpack : Vu1DecodedUnpackCommand)

/-- The answer of the owner to a command that it completes. -/
structure Vu1CommandResult where
  codeGeneration : Nat
  state : Option Vu1VifState

inductive Vu1Callback
  | mscal (startPC : Nat) (top itop : BitVec 32) (mscalf : Bool)
  | mscnt (top itop : BitVec 32)

/-- What the GIF is given: bytes on PATH2, and the news that PATH3 is no longer masked. -/
inductive GifEvent
  | path2 (byte : UInt8) (directHl : Bool)
  | path3Unmasked

/-- What `PS2Memory` has of VIF1 and VU1, with the commands, bytes and callbacks that went out. -/
structure Vif1State where
  regs : VIFRegisters := {}
  pendingPath2DirectQwc : Nat := 0
  pendingPath2DirectHl : Bool := false
  pendingIrqAfterCommand : Bool := false
  waitingForVu : Bool := false
  path3Masked : Bool := false
  gifModePath3Masked : Bool := false
  vu1Code : Memory := fun _ => 0
  vu1Data : Memory := fun _ => 0
  vu1CodeGeneration : Nat := 0
  ownerCommands : List Vu1Command := []
  gif : List GifEvent := []
  callbacks : List Vu1Callback := []

structure Vif1Environment where
  vu1Busy : Vif1State → Bool
  gifPathAvailable : Vif1State → Bool → Bool
  /-- What the last started program leaves of the data memory, with the code memory it runs in. -/
  vu1Program : List Vu1Callback → Memory → Memory → Memory
  /-- The answer to the last of the commands. -/
  vu1Owner : Option (List Vu1Command → Vu1CommandResult)

namespace Vif1State

def setRegs (s : Vif1State) (regs : VIFRegisters) : Vif1State := { s with regs := regs }

def setStat (s : Vif1State) (bits : BitVec 32) : Vif1State :=
  s.setRegs { s.regs with stat := s.regs.stat ||| bits }

def clearStat (s : Vif1State) (bits : BitVec 32) : Vif1State :=
  s.setRegs { s.regs with stat := s.regs.stat &&& ~~~bits }

def stalled (s : Vif1State) : Bool := s.regs.stat &&& VIS ≠ 0

def isPath3Masked (s : Vif1State) : Bool := s.path3Masked || s.gifModePath3Masked

/-! ## The owner of VU1 -/

def captureVu1VifState (s : Vif1State) : Vu1VifState where
  cycle := s.regs.cycle
  mode := s.regs.mode
  mask := s.regs.mask
  row := s.regs.row
  column := s.regs.col
  tops := s.regs.tops

def publishVu1VifState (s : Vif1State) (state : Vu1VifState) : Vif1State :=
  s.setRegs
    { s.regs with
      cycle := state.cycle
      mode := state.mode
      mask := state.mask
      tops := state.tops
      row := state.row
      col := state.column }

/-- `submitVu1OwnerCommand`, with whether there is an owner. -/
def submitVu1OwnerCommand (env : Vif1Environment) (s : Vif1State) (command : Vu1Command) :
    Bool × Vif1State :=
  match env.vu1Owner with
  | none => (false, s)
  | some owner =>
      let commands := s.ownerCommands ++ [command]
      let result := owner commands
      let s :=
        { s with ownerCommands := commands, vu1CodeGeneration := result.codeGeneration }
      (true, match result.state with
        | some state => s.publishVu1VifState state
        | none => s)

def submitVu1VifStateUpdate (env : Vif1Environment) (s : Vif1State) : Vif1State :=
  (s.submitVu1OwnerCommand env (.vifStateUpdate s.captureVu1VifState)).2

/-! ## Commands -/

/-- What reading a code does before the command is looked at. -/
def readCode (s : Vif1State) (code : VifCode) : Vif1State :=
  let s := s.setRegs { s.regs with code := code.word, num := BitVec.ofNat 32 code.num }
  if code.irq then s.setStat INT else s

/-- The part that MSCAL, MSCALF and MSCNT share: TOP and ITOP for the program, then the next
buffer. -/
def startProgram (env : Vif1Environment) (s : Vif1State) : Vif1State :=
  let regs := s.regs
  let tops :=
    if regs.stat &&& DBF ≠ 0 then regs.base &&& 0x3FF else (regs.base + regs.ofst) &&& 0x3FF
  let s := s.setRegs
    { regs with
      top := regs.tops &&& 0x3FF
      itop := regs.itops &&& 0x3FF
      tops := tops
      stat := regs.stat ^^^ DBF }
  s.submitVu1VifStateUpdate env

/-- The callback, and what the program leaves. -/
def callVu1 (env : Vif1Environment) (s : Vif1State) (callback : Vu1Callback) : Vif1State :=
  let callbacks := s.callbacks ++ [callback]
  { s with callbacks := callbacks, vu1Data := env.vu1Program callbacks s.vu1Code s.vu1Data }

def mskpath3 (s : Vif1State) (masked : Bool) : Vif1State :=
  let wasMasked := s.isPath3Masked
  let s := { s with path3Masked := masked }
  if wasMasked && !s.isPath3Masked then { s with gif := s.gif ++ [.path3Unmasked] } else s

def mpg (env : Vif1Environment) (s : Vif1State) (destAddr : Nat) (payload : List UInt8) :
    Vif1State :=
  let (submitted, s) := s.submitVu1OwnerCommand env (.microMemoryWrite destAddr payload)
  let s :=
    { s with
      vu1Code := copyWrappedMicroMemory s.vu1Code PS2_VU1_CODE_SIZE destAddr payload }
  if submitted then s else { s with vu1CodeGeneration := s.vu1CodeGeneration + 1 }

/-- What an UNPACK reads of its code, of the registers and of the stream. -/
def decodeUnpack (regs : VIFRegisters) (code : VifCode) (payload : List UInt8)
    (sourceByteOffset : Nat) : Unpack :=
  let cl := cycleLength regs
  let wl := writeLength regs
  let writes := writeVectorCount code.num
  { format := .ofOpcode code.opcode
    zeroExtend := code.imm.testBit 14
    vuAddr :=
      if code.imm.testBit 15 then (code.imm % 1024 + (regs.tops &&& 0x3FF).toNat) % 1024
      else code.imm % 1024
    cl, wl, writes
    sources := sourceVectorCount cl wl writes
    sourceWordAlignment := if sourceByteOffset = 0 then 4 else sourceByteOffset / 4
    payload }

def decodedUnpackCommand (imm : Nat) (unpack : Unpack) : Vu1DecodedUnpackCommand where
  immediate := imm
  vectorLength := unpack.format.vl
  componentCount := unpack.format.components
  writeVectorCount := unpack.writes
  sourceVectorCount := unpack.sources
  sourceWordAlignment := unpack.sourceWordAlignment
  maskEnabled := unpack.format.maskEnable
  zeroExtend := unpack.zeroExtend
  bytes := unpack.payload

def unpackCommand (env : Vif1Environment) (s : Vif1State) (imm : Nat) (unpack : Unpack) :
    Vif1State :=
  let (submitted, s) :=
    s.submitVu1OwnerCommand env (.decodedUnpack (decodedUnpackCommand imm unpack))
  if submitted then s
  else
    let state := unpackInPlace s.regs unpack s.vu1Data
    { s with vu1Data := state.data }.setRegs { s.regs with row := state.row }

/-- The bytes of the payload that a command waits for. -/
def payloadBytes (s : Vif1State) (code : VifCode) : Nat :=
  match code.cmd with
  | .STMASK => 4
  | .STROW | .STCOL => 16
  | .MPG => (if code.num = 0 then 256 else code.num) * 8
  | .UNPACK => unpackTotalBytes s.regs (.ofOpcode code.opcode) code.num
  | _ => 0

/-- The four words of a payload. -/
def payloadLanes (payload : List UInt8) : Lanes := fun lane =>
  BitVec.ofNat 32 (component payload 4 lane)

/-- A command with its whole payload, which begins at `sourceByteOffset` of its quadword. DIRECT and
DIRECTHL are not among them. -/
def execute (env : Vif1Environment) (s : Vif1State) (code : VifCode) (payload : List UInt8)
    (sourceByteOffset : Nat) : Vif1State :=
  let regs := s.regs
  let imm := BitVec.ofNat 32 code.imm
  match code.cmd with
  | .STCYCL => (s.setRegs { regs with cycle := imm }).submitVu1VifStateUpdate env
  | .OFFSET =>
      let s := s.setRegs { regs with ofst := imm &&& 0x3FF, tops := regs.base &&& 0x3FF }
      (s.clearStat DBF).submitVu1VifStateUpdate env
  | .BASE => s.setRegs { regs with base := imm &&& 0x3FF }
  | .ITOP => s.setRegs { regs with itops := imm &&& 0x3FF }
  | .STMOD => (s.setRegs { regs with mode := imm &&& 3 }).submitVu1VifStateUpdate env
  | .MSKPATH3 => s.mskpath3 (code.imm.testBit 15)
  | .MARK => (s.setRegs { regs with mark := imm }).setStat MRK
  | .MSCAL | .MSCALF =>
      let s := s.startProgram env
      s.callVu1 env (.mscal (code.imm * 8) (regs.tops &&& 0x3FF) (regs.itops &&& 0x3FF)
        (code.cmd = .MSCALF))
  | .MSCNT =>
      let s := s.startProgram env
      s.callVu1 env (.mscnt (regs.tops &&& 0x3FF) (regs.itops &&& 0x3FF))
  | .STMASK =>
      let mask := BitVec.ofNat 32 (component payload 4 0)
      (s.setRegs { regs with mask }).submitVu1VifStateUpdate env
  | .STROW =>
      (s.setRegs { regs with row := payloadLanes payload }).submitVu1VifStateUpdate env
  | .STCOL =>
      (s.setRegs { regs with col := payloadLanes payload }).submitVu1VifStateUpdate env
  | .MPG => s.mpg env (code.imm * 8 % PS2_VU1_CODE_SIZE) payload
  | .UNPACK =>
      s.unpackCommand env code.imm (decodeUnpack regs code payload sourceByteOffset)
  | .NOP | .FLUSHE | .FLUSH | .FLUSHA | .DIRECT | .DIRECTHL | .unknown => s

/-- `submitGifPacket` of quadwords on PATH2. -/
def submitPath2 (s : Vif1State) (bytes : List UInt8) (directHl : Bool) : Vif1State :=
  { s with gif := s.gif ++ bytes.map (.path2 · directHl) }

/-- After the last quadword of a pending DIRECT comes the interrupt that was asked for. -/
def finishDirect (s : Vif1State) : Vif1State :=
  if s.pendingPath2DirectQwc = 0 then
    let s := { s with pendingPath2DirectHl := false }
    if s.pendingIrqAfterCommand then { s with pendingIrqAfterCommand := false }.setStat VIS else s
  else s

/-- Quadwords of a pending DIRECT. -/
def advanceDirect (s : Vif1State) (bytes : List UInt8) (qwc : Nat) : Vif1State :=
  let s := (s.clearStat VGW).submitPath2 bytes s.pendingPath2DirectHl
  { s with pendingPath2DirectQwc := s.pendingPath2DirectQwc - qwc }.finishDirect

end Vif1State

/-! ## The interpreter -/

inductive Vif1ParserDisposition
  | Drained | NeedMoreData | WaitingForVu | VifInterrupt | GifPath
  deriving DecidableEq

/-- How a pass through the loop ends: with the next pass, with `break` (and without
`stallAfterCommand`), or with `finish`. -/
inductive Iteration
  | next (pos : Nat) (stallAfterCommand : Bool) (s : Vif1State)
  | stop (pos : Nat) (s : Vif1State)
  | finish (pos : Nat) (disposition : Vif1ParserDisposition) (s : Vif1State)

def pendingDirect (env : Vif1Environment) (data : List UInt8) (sizeBytes pos : Nat)
    (s : Vif1State) : Iteration :=
  if !env.gifPathAvailable s s.pendingPath2DirectHl then .finish pos .GifPath (s.setStat VGW)
  else
    let availableQw := (sizeBytes - pos) / 16
    if availableQw = 0 then .stop pos (s.clearStat VGW)
    else
      let chunkQw := min s.pendingPath2DirectQwc availableQw
      let advanced := s.advanceDirect ((data.drop pos).take (chunkQw * 16)) chunkQw
      if advanced.pendingPath2DirectQwc = 0 && s.pendingIrqAfterCommand then
        .finish (pos + chunkQw * 16) .VifInterrupt advanced
      else .next (pos + chunkQw * 16) false advanced

/-- DIRECT and DIRECTHL, with `pos` after the code. -/
def direct (env : Vif1Environment) (data : List UInt8) (sizeBytes pos : Nat) (code : VifCode)
    (s : Vif1State) : Iteration :=
  let directHl : Bool := code.cmd = .DIRECTHL
  if !env.gifPathAvailable s directHl then .finish (pos - 4) .GifPath (s.setStat VGW)
  else
    let s := s.clearStat VGW
    let availableQw := (sizeBytes - pos) / 16
    let qwCount := min code.requestedQw availableQw
    let s := s.submitPath2 ((data.drop pos).take (qwCount * 16)) directHl
    if code.requestedQw > availableQw then
      .stop (pos + qwCount * 16)
        { s with
          pendingPath2DirectQwc := code.requestedQw - qwCount
          pendingPath2DirectHl := directHl
          pendingIrqAfterCommand := code.irq }
    else .next (pos + qwCount * 16) code.irq s

/-- A pass through the loop of `processVif1Stream`, without the test of `stallAfterCommand`. -/
def iterate (env : Vif1Environment) (x : Vif1Stream) (sizeBytes pos : Nat) (s : Vif1State) :
    Iteration :=
  if s.pendingPath2DirectQwc ≠ 0 then pendingDirect env x.data sizeBytes pos s
  else
    let code := VifCode.ofBytes (x.data.drop pos)
    let s := s.readCode code
    if code.waitsForVu && env.vu1Busy s then
      .finish pos .WaitingForVu ({ s with waitingForVu := true }.setStat VEW)
    else if code.cmd = .DIRECT ∨ code.cmd = .DIRECTHL then
      direct env x.data sizeBytes (pos + 4) code s
    else
      let payload := s.payloadBytes code
      if pos + 4 + payload > sizeBytes then .stop pos s
      else
        .next (pos + 4 + payload) code.irq
          (s.execute env code ((x.data.drop (pos + 4)).take payload) (x.byteOffset (pos + 4)))

theorem pendingDirect_next_lt {env : Vif1Environment} {data : List UInt8} {sizeBytes pos pos' : Nat}
    {stall : Bool} {s s' : Vif1State} (hpending : s.pendingPath2DirectQwc ≠ 0)
    (h : pendingDirect env data sizeBytes pos s = .next pos' stall s') : pos < pos' := by
  unfold pendingDirect at h
  split at h
  · cases h
  · dsimp only at h
    split at h
    · cases h
    next havailable =>
      split at h
      · cases h
      · cases h
        omega

theorem direct_next_lt {env : Vif1Environment} {data : List UInt8} {sizeBytes pos pos' : Nat}
    {stall : Bool} {code : VifCode} {s s' : Vif1State}
    (h : direct env data sizeBytes (pos + 4) code s = .next pos' stall s') : pos < pos' := by
  unfold direct at h
  dsimp only at h
  split at h
  · cases h
  · split at h
    · cases h
    · cases h
      omega

theorem iterate_next_lt {env : Vif1Environment} {x : Vif1Stream} {sizeBytes pos pos' : Nat}
    {stall : Bool} {s s' : Vif1State} (h : iterate env x sizeBytes pos s = .next pos' stall s') :
    pos < pos' := by
  unfold iterate at h
  split at h
  next hpending => exact pendingDirect_next_lt hpending h
  next =>
    dsimp only at h
    split at h
    · cases h
    · split at h
      · exact direct_next_lt h
      · split at h
        · cases h
        · cases h
          omega

/-- The end of `processVif1Stream` after its loop. -/
def afterLoop (sizeBytes pos : Nat) (stallAfterCommand : Bool) (s : Vif1State) :
    Nat × Vif1ParserDisposition × Vif1State :=
  if stallAfterCommand then (pos, .VifInterrupt, s.setStat VIS)
  else if pos = sizeBytes ∧ s.pendingPath2DirectQwc = 0 then (pos, .Drained, s)
  else (pos, .NeedMoreData, s)

/-- The loop of `processVif1Stream`. -/
def processLoop (env : Vif1Environment) (x : Vif1Stream) (sizeBytes pos : Nat)
    (stallAfterCommand : Bool) (s : Vif1State) : Nat × Vif1ParserDisposition × Vif1State :=
  if _hpos : pos + 4 ≤ sizeBytes then
    if stallAfterCommand then (pos, .VifInterrupt, s.setStat VIS)
    else
      match _h : iterate env x sizeBytes pos s with
      | .next pos' stall' s' => processLoop env x sizeBytes pos' stall' s'
      | .stop pos' s' => afterLoop sizeBytes pos' false s'
      | .finish pos' disposition s' => (pos', disposition, s')
  else afterLoop sizeBytes pos stallAfterCommand s
termination_by sizeBytes - pos
decreasing_by
  have hlt := iterate_next_lt _h
  omega

/-- VIF1 with its deferred stream. -/
structure Vif1 where
  state : Vif1State := {}
  stream : Vif1Stream := {}

def UINT32_MAX : Nat := 2 ^ 32 - 1

/-- The registers that `finish` leaves. -/
def Vif1State.finish (s : Vif1State) (disposition : Vif1ParserDisposition) : Vif1State :=
  let s := s.clearStat VPS
  if disposition = .NeedMoreData then s.setStat 1 else s

def processVif1Stream (env : Vif1Environment) (m : Vif1) : Vif1ParserDisposition × Vif1 :=
  if m.state.waitingForVu then (.WaitingForVu, m)
  else if m.state.stalled then (.VifInterrupt, m)
  else if m.stream.data = [] then (.Drained, { m with state := m.state.clearStat VPS })
  else
    let sizeBytes := min m.stream.data.length UINT32_MAX
    let (pos, disposition, s) := processLoop env m.stream sizeBytes 0 false m.state
    (disposition, { state := s.finish disposition, stream := m.stream.drop pos })

def processVIF1Data (env : Vif1Environment) (m : Vif1) (data : List UInt8) : Vif1 :=
  if data = [] then m
  else
    let m := { m with stream := m.stream.append data }
    if m.state.waitingForVu then m else (processVif1Stream env m).2

end Ps2Recomp
