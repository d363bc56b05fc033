import Ps2Recomp.Vif.Vif1

/-!
# VIF1 as a stream machine

With VU1 never busy and the GIF always available, VIF1 is a machine that consumes whole commands and
the quadwords of a pending DIRECT, each as soon as it is complete. `step` says which, and `suspend`
what a call leaves in the registers when there is no step: the code of an incomplete command is
read, and VPS tells that more data is needed. Neither is noticed by the next call (`suspension`).

No step looks at VPS, which is cleared before each one so that the states can be compared.
-/

namespace Ps2Recomp

open StreamMachine

variable {env : Vif1Environment} {x : Vif1Stream} {s : Vif1State} {code : VifCode}

namespace Vif1State

/-- Bits that VPS does not have. -/
theorem or_clear {bits : BitVec 32} (h : bits &&& ~~~VPS = bits) (stat : BitVec 32) :
    (stat &&& ~~~VPS) ||| bits = (stat ||| bits) &&& ~~~VPS := by
  rw [BitVec.and_or_distrib_right, h]

def withStat (s : Vif1State) (stat : BitVec 32) : Vif1State := s.setRegs { s.regs with stat }

/-- The status with VPS cleared. -/
def idle (s : Vif1State) : Vif1State := s.clearStat VPS

theorem setStat_idle {bits : BitVec 32} (h : bits &&& ~~~VPS = bits) :
    s.idle.setStat bits = (s.setStat bits).idle :=
  congrArg s.withStat (or_clear h s.regs.stat)

theorem clearStat_clearStat (bits bits' : BitVec 32) :
    (s.clearStat bits).clearStat bits' = (s.clearStat bits').clearStat bits := by
  refine congrArg s.withStat ?_
  change (s.regs.stat &&& ~~~bits) &&& ~~~bits' = (s.regs.stat &&& ~~~bits') &&& ~~~bits
  rw [BitVec.and_assoc, BitVec.and_assoc, BitVec.and_comm (~~~bits)]

theorem clearStat_self (bits : BitVec 32) :
    (s.clearStat bits).clearStat bits = s.clearStat bits := by
  refine congrArg s.withStat ?_
  change (s.regs.stat &&& ~~~bits) &&& ~~~bits = s.regs.stat &&& ~~~bits
  rw [BitVec.and_assoc, BitVec.and_self]

theorem clearStat_idle (bits : BitVec 32) : s.idle.clearStat bits = (s.clearStat bits).idle :=
  clearStat_clearStat VPS bits

@[simp] theorem idle_idle : s.idle.idle = s.idle := clearStat_self VPS

theorem setStat_stalled {bits : BitVec 32} (h : bits &&& VIS = 0#32) :
    (s.setStat bits).stalled = s.stalled := by
  unfold stalled
  change decide ((s.regs.stat ||| bits) &&& VIS ≠ 0) = _
  rw [BitVec.and_or_distrib_right, h, BitVec.or_zero]

theorem clearStat_stalled {bits : BitVec 32} (h : ~~~bits &&& VIS = VIS) :
    (s.clearStat bits).stalled = s.stalled := by
  unfold stalled
  change decide ((s.regs.stat &&& ~~~bits) &&& VIS ≠ 0) = _
  rw [BitVec.and_assoc, h]

@[simp] theorem idle_stalled : s.idle.stalled = s.stalled := clearStat_stalled (by decide)

/-! ## Commands do not look at VPS -/

theorem readCode_idle : s.idle.readCode code = (s.readCode code).idle := by
  unfold readCode
  split
  · exact setStat_idle
      (s := s.setRegs { s.regs with code := code.word, num := BitVec.ofNat 32 code.num })
      (by decide)
  · rfl

theorem submitVu1OwnerCommand_idle (command : Vu1Command) :
    s.idle.submitVu1OwnerCommand env command =
      ((s.submitVu1OwnerCommand env command).1, (s.submitVu1OwnerCommand env command).2.idle) := by
  unfold submitVu1OwnerCommand
  cases env.vu1Owner with
  | none => rfl
  | some owner =>
    have hcommands : s.idle.ownerCommands = s.ownerCommands := rfl
    dsimp only
    congr 1
    rw [hcommands]
    cases (owner (s.ownerCommands ++ [command])).state <;> rfl

theorem submitVu1VifStateUpdate_idle :
    s.idle.submitVu1VifStateUpdate env = (s.submitVu1VifStateUpdate env).idle := by
  unfold submitVu1VifStateUpdate
  rw [submitVu1OwnerCommand_idle]
  rfl

theorem xor_clear {bits : BitVec 32} (h : bits &&& ~~~VPS = bits) (stat : BitVec 32) :
    (stat &&& ~~~VPS) ^^^ bits = (stat ^^^ bits) &&& ~~~VPS := by
  generalize ~~~VPS = kept at h ⊢
  ext i hi
  have hbit := congrArg (·[i]) h
  simp only [BitVec.getElem_and, BitVec.getElem_xor] at hbit ⊢
  rw [Bool.and_xor_distrib_right, hbit]

theorem startProgram_idle : s.idle.startProgram env = (s.startProgram env).idle := by
  have hdbf : s.idle.regs.stat &&& DBF = s.regs.stat &&& DBF := by
    change (s.regs.stat &&& ~~~VPS) &&& DBF = s.regs.stat &&& DBF
    rw [BitVec.and_assoc]
    rfl
  have hstat : s.idle.regs.stat ^^^ DBF = (s.regs.stat ^^^ DBF) &&& ~~~VPS :=
    xor_clear (by decide) _
  unfold startProgram
  dsimp only
  rw [hdbf, hstat, ← submitVu1VifStateUpdate_idle]
  rfl

theorem mskpath3_idle (masked : Bool) : s.idle.mskpath3 masked = (s.mskpath3 masked).idle := by
  unfold mskpath3
  dsimp only
  rw [apply_ite idle]
  rfl

theorem mpg_idle (destAddr : Nat) (payload : List UInt8) :
    s.idle.mpg env destAddr payload = (s.mpg env destAddr payload).idle := by
  unfold mpg
  rw [submitVu1OwnerCommand_idle]
  cases s.submitVu1OwnerCommand env (.microMemoryWrite destAddr payload) with
  | mk submitted s => cases submitted <;> rfl

/-! UNPACK reads CYCLE, MODE, MASK, TOPS, ROW and COL. -/

theorem writeVector_stat (regs : VIFRegisters) (stat : BitVec 32) (unpack : Unpack) :
    writeVector { regs with stat } unpack = writeVector regs unpack := rfl

theorem unpackInPlace_stat (regs : VIFRegisters) (stat : BitVec 32) (unpack : Unpack)
    (data : BitMemory.Memory) :
    unpackInPlace { regs with stat } unpack data = unpackInPlace regs unpack data := by
  unfold unpackInPlace unpackVectors
  rw [writeVector_stat]

theorem unpackCommand_idle (imm : Nat) (unpack : Unpack) :
    s.idle.unpackCommand env imm unpack = (s.unpackCommand env imm unpack).idle := by
  unfold unpackCommand
  rw [submitVu1OwnerCommand_idle]
  cases s.submitVu1OwnerCommand env (.decodedUnpack (decodedUnpackCommand imm unpack)) with
  | mk submitted s =>
    cases submitted with
    | true => rfl
    | false =>
      have hunpack : unpackInPlace s.idle.regs unpack s.vu1Data =
          unpackInPlace s.regs unpack s.vu1Data := unpackInPlace_stat _ _ _ _
      change ({ s with vu1Data := (unpackInPlace s.idle.regs unpack s.vu1Data).data }).setRegs
        { s.idle.regs with row := (unpackInPlace s.idle.regs unpack s.vu1Data).row } = _
      rw [hunpack]
      rfl

theorem execute_idle (payload : List UInt8) (sourceByteOffset : Nat) :
    s.idle.execute env code payload sourceByteOffset =
      (s.execute env code payload sourceByteOffset).idle := by
  have hupdate := fun regs => @submitVu1VifStateUpdate_idle env (s.setRegs regs)
  unfold execute
  cases code.cmd with
  | STCYCL => exact hupdate { s.regs with cycle := BitVec.ofNat 32 code.imm }
  | OFFSET =>
    dsimp only
    rw [← submitVu1VifStateUpdate_idle, ← clearStat_idle]
    rfl
  | STMOD => exact hupdate { s.regs with mode := BitVec.ofNat 32 code.imm &&& 3 }
  | MSKPATH3 => exact mskpath3_idle _
  | MARK =>
    exact @setStat_idle (s.setRegs { s.regs with mark := BitVec.ofNat 32 code.imm }) MRK (by decide)
  | MSCAL =>
    dsimp only
    rw [startProgram_idle]
    rfl
  | MSCALF =>
    dsimp only
    rw [startProgram_idle]
    rfl
  | MSCNT =>
    dsimp only
    rw [startProgram_idle]
    rfl
  | STMASK => exact hupdate { s.regs with mask := BitVec.ofNat 32 (component payload 4 0) }
  | STROW => exact hupdate { s.regs with row := payloadLanes payload }
  | STCOL => exact hupdate { s.regs with col := payloadLanes payload }
  | MPG => exact mpg_idle _ _
  | UNPACK => exact unpackCommand_idle _ _
  | _ => rfl

theorem finishDirect_idle : s.idle.finishDirect = s.finishDirect.idle := by
  have hirq := @setStat_idle
    { s with pendingPath2DirectHl := false, pendingIrqAfterCommand := false } VIS (by decide)
  unfold finishDirect
  dsimp only
  rw [apply_ite idle, apply_ite idle, ← hirq]
  rfl

theorem advanceDirect_idle (bytes : List UInt8) (qwc : Nat) :
    s.idle.advanceDirect bytes qwc = (s.advanceDirect bytes qwc).idle := by
  unfold advanceDirect
  dsimp only
  rw [← finishDirect_idle, clearStat_idle]
  rfl

/-- DIRECT and DIRECTHL before any of their quadwords. -/
def beginDirect (s : Vif1State) (code : VifCode) : Vif1State :=
  { s.clearStat VGW with
    pendingPath2DirectQwc := code.requestedQw
    pendingPath2DirectHl := code.cmd = .DIRECTHL
    pendingIrqAfterCommand := code.irq }

theorem beginDirect_idle : s.idle.beginDirect code = (s.beginDirect code).idle := by
  unfold beginDirect
  rw [clearStat_idle]
  rfl

def interruptAfter (s : Vif1State) (irq : Bool) : Vif1State := if irq then s.setStat VIS else s

theorem interruptAfter_idle (irq : Bool) :
    s.idle.interruptAfter irq = (s.interruptAfter irq).idle := by
  cases irq with
  | true => exact @setStat_idle s VIS (by decide)
  | false => rfl

/-- The command at the front, if it is complete. -/
def commandStep (env : Vif1Environment) (s : Vif1State) (code : VifCode) (x : Vif1Stream) :
    Option (Nat × Vif1State) :=
  if code.cmd = .DIRECT ∨ code.cmd = .DIRECTHL then some (4, s.beginDirect code)
  else
    let payload := s.payloadBytes code
    if 4 + payload ≤ x.data.length then
      some (4 + payload,
        (s.execute env code ((x.data.drop 4).take payload) (x.byteOffset 4)).interruptAfter code.irq)
    else none

/-- The first whole command, or the first quadword of a pending DIRECT. -/
def step (env : Vif1Environment) (s : Vif1State) (x : Vif1Stream) : Option (Nat × Vif1State) :=
  if s.waitingForVu || s.stalled then none
  else if s.pendingPath2DirectQwc ≠ 0 then
    if 16 ≤ x.data.length then some (16, s.advanceDirect (x.data.take 16) 1) else none
  else if x.data.length < 4 then none
  else commandStep env (s.readCode (.ofBytes x.data)) (.ofBytes x.data) x

theorem commandStep_idle :
    commandStep env s.idle code x = (commandStep env s code x).map (Prod.map id idle) := by
  have hpayload : s.idle.payloadBytes code = s.payloadBytes code := rfl
  unfold commandStep
  dsimp only
  rw [hpayload, beginDirect_idle, execute_idle, interruptAfter_idle, apply_ite (Option.map _),
    apply_ite (Option.map _)]
  rfl

/-- **No step looks at VPS.** -/
theorem step_idle : step env s.idle x = (step env s x).map (Prod.map id idle) := by
  have hwaiting : s.idle.waitingForVu = s.waitingForVu := rfl
  have hpending : s.idle.pendingPath2DirectQwc = s.pendingPath2DirectQwc := rfl
  unfold step
  rw [hwaiting, idle_stalled, hpending, advanceDirect_idle, readCode_idle, commandStep_idle]
  simp only [apply_ite (Option.map _)]
  rfl

/-! ## Steps and the buffer -/

variable {n : Nat} {s' : Vif1State} {r : Nat × Vif1State}

theorem ofBytes_append {bytes : List UInt8} (h : 4 ≤ bytes.length) (piece : List UInt8) :
    VifCode.ofBytes (bytes ++ piece) = VifCode.ofBytes bytes := by
  unfold VifCode.ofBytes
  rw [List.take_append_of_le_length h]

theorem commandStep_size (hsize : 4 ≤ x.data.length) (h : commandStep env s code x = some r) :
    0 < r.1 ∧ r.1 ≤ x.data.length := by
  unfold commandStep at h
  split at h
  · cases h
    exact ⟨Nat.succ_pos 3, hsize⟩
  · dsimp only at h
    split at h
    next hfits =>
      cases h
      exact ⟨by dsimp only; omega, hfits⟩
    next => cases h

theorem step_size (h : step env s x = some r) : 0 < r.1 ∧ r.1 ≤ x.data.length := by
  unfold step at h
  split at h
  · cases h
  · split at h
    · split at h
      next hfits =>
        cases h
        exact ⟨Nat.succ_pos 15, hfits⟩
      next => cases h
    · split at h
      · cases h
      next hsize => exact commandStep_size (Nat.not_lt.1 hsize) h

theorem commandStep_append (hsize : 4 ≤ x.data.length) (h : commandStep env s code x = some r)
    (piece : List UInt8) : commandStep env s code (x.append piece) = some r := by
  unfold commandStep at h ⊢
  split at h
  next hdirect => rwa [if_pos hdirect]
  next hdirect =>
    rw [if_neg hdirect]
    dsimp only at h ⊢
    split at h
    next hfits =>
      have hpayload : s.payloadBytes code ≤ (x.data.drop 4).length := by
        rw [List.length_drop]
        omega
      rw [Vif1Stream.append_data, List.length_append, if_pos (by omega),
        List.drop_append_of_le_length hsize, List.take_append_of_le_length hpayload,
        Vif1Stream.byteOffset_append hsize]
      exact h
    next => cases h

/-- **A step that can be taken is not changed by more input.** -/
theorem step_append (h : step env s x = some r) (piece : List UInt8) :
    step env s (x.append piece) = some r := by
  unfold step at h ⊢
  split at h
  · cases h
  next hrunning =>
    rw [if_neg hrunning, Vif1Stream.append_data, List.length_append]
    split at h
    next hpending =>
      rw [if_pos hpending]
      split at h
      next hfits =>
        rw [if_pos (by omega), List.take_append_of_le_length hfits]
        exact h
      next => cases h
    next hpending =>
      rw [if_neg hpending]
      split at h
      · cases h
      next hsize =>
        have hsize' : 4 ≤ x.data.length := Nat.not_lt.1 hsize
        rw [if_neg (by omega), ofBytes_append hsize']
        exact commandStep_append hsize' h piece

/-- VIF1 with VU1 never busy and the GIF always available. -/
def machine (env : Vif1Environment) : Machine Vif1State Vif1Stream where
  step s x := step env s.idle x
  pos h := (step_size h).1
  fits h := (step_size h).2
  stable piece h := step_append h piece

/-! ## Stopping for lack of input -/

/-- What the last pass through the loop does to the state without consuming anything. -/
def touch (s : Vif1State) (x : Vif1Stream) : Vif1State :=
  if s.waitingForVu || s.stalled then s
  else if x.data.length < 4 then s
  else if s.pendingPath2DirectQwc ≠ 0 then s.clearStat VGW
  else s.readCode (.ofBytes x.data)

/-- Why the loop ends. -/
def disposition (s : Vif1State) (x : Vif1Stream) : Vif1ParserDisposition :=
  if s.waitingForVu || s.stalled then .VifInterrupt
  else if x.data = [] ∧ s.pendingPath2DirectQwc = 0 then .Drained
  else .NeedMoreData

/-- What a call leaves where there is no step. -/
def suspend (s : Vif1State) (x : Vif1Stream) : Vif1State :=
  (s.touch x).finish (s.disposition x)

theorem finish_idle (disposition : Vif1ParserDisposition) :
    (s.finish disposition).idle = s.idle := by
  have hbit : ((s.regs.stat &&& ~~~VPS) ||| 1) &&& ~~~VPS = s.regs.stat &&& ~~~VPS := by
    rw [BitVec.and_or_distrib_right, BitVec.and_assoc, BitVec.and_self]
    exact BitVec.or_zero
  unfold finish
  dsimp only
  split
  · exact congrArg s.withStat hbit
  · exact idle_idle

theorem idle_finish (disposition : Vif1ParserDisposition) :
    s.idle.finish disposition = s.finish disposition := by
  have h : s.idle.clearStat VPS = s.clearStat VPS := idle_idle
  unfold finish
  rw [h]

theorem touch_idle : s.idle.touch x = (s.touch x).idle := by
  have hwaiting : s.idle.waitingForVu = s.waitingForVu := rfl
  have hpending : s.idle.pendingPath2DirectQwc = s.pendingPath2DirectQwc := rfl
  unfold touch
  rw [hwaiting, hpending, idle_stalled, clearStat_idle, readCode_idle]
  simp only [apply_ite idle]

theorem disposition_idle : s.idle.disposition x = s.disposition x := by
  unfold disposition
  rw [idle_stalled]
  rfl

theorem suspend_idle : s.idle.suspend x = s.suspend x := by
  unfold suspend
  rw [touch_idle, disposition_idle, idle_finish]

/-- VPS, which tells why a call ended, makes no difference to the next one. -/
theorem suspend_finish (disposition : Vif1ParserDisposition) :
    (s.finish disposition).suspend x = s.suspend x := by
  rw [← suspend_idle, finish_idle, suspend_idle]

/-! Reading the code of an incomplete command, or making the path to the GIF ready, can be done
twice. -/

theorem readCode_stalled : (s.readCode code).stalled = s.stalled := by
  unfold readCode
  dsimp only
  split
  · exact setStat_stalled (by decide)
  · rfl

theorem readCode_fields :
    (s.readCode code).waitingForVu = s.waitingForVu ∧
      (s.readCode code).pendingPath2DirectQwc = s.pendingPath2DirectQwc := by
  unfold readCode
  dsimp only
  split <;> exact ⟨rfl, rfl⟩

theorem readCode_readCode : (s.readCode code).readCode code = s.readCode code := by
  unfold readCode
  dsimp only
  split
  · refine congrArg (withStat (s.setRegs { s.regs with code := code.word, num := _ })) ?_
    change (s.regs.stat ||| INT) ||| INT = s.regs.stat ||| INT
    rw [BitVec.or_assoc, BitVec.or_self]
  · rfl

theorem advanceDirect_clearStat (bytes : List UInt8) (qwc : Nat) :
    (s.clearStat VGW).advanceDirect bytes qwc = s.advanceDirect bytes qwc := by
  unfold advanceDirect
  rw [clearStat_self]
  rfl

theorem touch_step (piece : List UInt8) :
    step env (s.touch x) (x.append piece) = step env s (x.append piece) := by
  unfold touch
  split
  · rfl
  next hrunning =>
    split
    · rfl
    next hsize =>
      have hsize' : 4 ≤ x.data.length := Nat.not_lt.1 hsize
      have hlength : ¬ (x.append piece).data.length < 4 := by
        rw [Vif1Stream.append_data, List.length_append]
        omega
      split
      next hpending =>
        have hclear : (s.clearStat VGW).stalled = s.stalled := clearStat_stalled (by decide)
        unfold step
        rw [hclear, advanceDirect_clearStat]
        change (if (s.waitingForVu || s.stalled) = true then none
          else if s.pendingPath2DirectQwc ≠ 0 then _ else _) = _
        rw [if_pos hpending, if_pos hpending]
      next hpending =>
        obtain ⟨hwaiting, hqwc⟩ := @readCode_fields s (.ofBytes x.data)
        unfold step
        rw [hwaiting, readCode_stalled, hqwc, if_neg hpending, if_neg hpending, if_neg hlength,
          if_neg hlength, Vif1Stream.append_data, ofBytes_append hsize', readCode_readCode]

theorem touch_suspend (piece : List UInt8) :
    (s.touch x).suspend (x.append piece) = s.suspend (x.append piece) := by
  unfold touch
  split
  · rfl
  next hrunning =>
    split
    · rfl
    next hsize =>
      have hsize' : 4 ≤ x.data.length := Nat.not_lt.1 hsize
      have hlength : ¬ (x.append piece).data.length < 4 := by
        rw [Vif1Stream.append_data, List.length_append]
        omega
      split
      next hpending =>
        have hclear : (s.clearStat VGW).stalled = s.stalled := clearStat_stalled (by decide)
        unfold suspend touch disposition
        rw [hclear]
        change finish (if (s.waitingForVu || s.stalled) = true then _
          else if (x.append piece).data.length < 4 then _
          else if s.pendingPath2DirectQwc ≠ 0 then _ else _) _ = _
        rw [if_neg hrunning, if_neg hlength, if_pos hpending, if_neg hrunning, if_neg hlength,
          if_pos hpending, clearStat_self]
        rfl
      next hpending =>
        obtain ⟨hwaiting, hqwc⟩ := @readCode_fields s (.ofBytes x.data)
        unfold suspend touch disposition
        rw [hwaiting, readCode_stalled, hqwc, if_neg hrunning, if_neg hlength, if_neg hpending,
          if_neg hrunning, if_neg hlength, if_neg hpending, Vif1Stream.append_data,
          ofBytes_append hsize', readCode_readCode, if_neg hrunning]

/-- **A call may end anywhere between two steps.** -/
def suspension (env : Vif1Environment) : (machine env).Suspension Vif1State where
  suspend := suspend
  resume := id
  step_resume {s x} piece _ := by
    change step env (s.suspend x).idle (x.append piece) = step env s.idle (x.append piece)
    unfold suspend
    rw [finish_idle, step_idle, step_idle, touch_step]
  suspend_resume {s x} piece _ := by
    change (s.suspend x).suspend (x.append piece) = s.suspend (x.append piece)
    rw [suspend.eq_def s x, suspend_finish, touch_suspend]

end Vif1State

end Ps2Recomp
