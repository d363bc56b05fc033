import Ps2Recomp.Vif.Machine

/-!
# VIF1: chunk independence

The loop of `processVif1Stream` does what the machine does (`processLoop_stopped`): it takes all the
quadwords of a DIRECT that are there at once, and raises the interrupt of a command with the next
pass, where the machine takes one quadword and raises it at once. With that, a stream may be cut
anywhere (`processVIF1Data_chunks`).
-/

namespace Ps2Recomp

open StreamMachine

variable {env : Vif1Environment} {x : Vif1Stream} {s s' t : Vif1State} {code : VifCode} {n : Nat}

namespace Vif1State

/-! ## What a run of the machine leaves -/

/-- The registers and the rest of the stream after a run. -/
def stopped (env : Vif1Environment) (s : Vif1State) (x : Vif1Stream) : Vif1State × Vif1Stream :=
  (((machine env).run s x).1.suspend ((machine env).run s x).2, ((machine env).run s x).2)

theorem machine_step : (machine env).step s x = (step env s x).map (Prod.map id idle) := step_idle

theorem stopped_of_none (h : step env s x = none) : stopped env s x = (s.suspend x, x) := by
  have hstep : (machine env).step s x = none := by
    rw [machine_step, h]
    rfl
  unfold stopped
  rw [Machine.run_of_none hstep]

theorem stopped_idle : stopped env s.idle x = stopped env s x := by
  have hidle : (machine env).step s.idle x = (machine env).step s x := by
    change step env s.idle.idle x = step env s.idle x
    rw [idle_idle]
  unfold stopped
  cases hstep : (machine env).step s x with
  | none =>
    rw [Machine.run_of_none hstep, Machine.run_of_none (hidle.trans hstep), suspend_idle]
  | some r => rw [Machine.run_of_some hstep, Machine.run_of_some (hidle.trans hstep)]

theorem stopped_of_some (h : step env s x = some (n, s')) :
    stopped env s x = stopped env s' (x.drop n) := by
  have hstep : (machine env).step s x = some (n, s'.idle) := by
    rw [machine_step, h]
    rfl
  have hrun : stopped env s x = stopped env s'.idle (x.drop n) := by
    unfold stopped
    rw [Machine.run_of_some hstep]
    rfl
  rw [hrun, stopped_idle]

theorem stopped_of_stalled (h : s.stalled = true) :
    stopped env s x = (s.finish .VifInterrupt, x) := by
  have hstep : step env s x = none := by
    unfold step
    rw [h, Bool.or_true, if_pos rfl]
  rw [stopped_of_none hstep]
  unfold suspend touch disposition
  rw [h, Bool.or_true, if_pos rfl, if_pos rfl]

/-! ## Running states -/

/-- The state is neither waiting for VU1 nor stopped by an interrupt. -/
structure Running (s : Vif1State) : Prop where
  waiting : s.waitingForVu = false
  stalled : s.stalled = false

/-- Without a pending DIRECT its flags are clear. -/
def Wf (s : Vif1State) : Prop :=
  s.pendingPath2DirectQwc = 0 → s.pendingPath2DirectHl = false ∧ s.pendingIrqAfterCommand = false

theorem Running.running (h : s.Running) : ¬ (s.waitingForVu || s.stalled) = true := by
  rw [h.waiting, h.stalled]
  exact Bool.false_ne_true

theorem interrupt_stalled : (s.setStat VIS).stalled = true := by
  have habsorb : ∀ stat bits : BitVec 32, (stat ||| bits) &&& bits = bits := by
    intro stat bits
    ext i hi
    rw [BitVec.getElem_and, BitVec.getElem_or]
    cases stat[i] <;> cases bits[i] <;> rfl
  unfold stalled
  change decide ((s.regs.stat ||| VIS) &&& VIS ≠ 0) = true
  rw [habsorb]
  rfl

/-- The states agree on what decides how the stream is cut into commands. -/
structure SameFlow (s s' : Vif1State) : Prop where
  waiting : s'.waitingForVu = s.waitingForVu
  qwc : s'.pendingPath2DirectQwc = s.pendingPath2DirectQwc
  hl : s'.pendingPath2DirectHl = s.pendingPath2DirectHl
  irq : s'.pendingIrqAfterCommand = s.pendingIrqAfterCommand
  stalled : s'.stalled = s.stalled

theorem SameFlow.trans (h : s.SameFlow s') (h' : s'.SameFlow t) : s.SameFlow t where
  waiting := h'.waiting.trans h.waiting
  qwc := h'.qwc.trans h.qwc
  hl := h'.hl.trans h.hl
  irq := h'.irq.trans h.irq
  stalled := h'.stalled.trans h.stalled

theorem SameFlow.running (h : s.SameFlow s') (hs : s.Running) : s'.Running :=
  ⟨h.waiting.trans hs.waiting, h.stalled.trans hs.stalled⟩

theorem SameFlow.wf (h : s.SameFlow s') (hs : s.Wf) : s'.Wf := by
  unfold Wf
  rw [h.qwc, h.hl, h.irq]
  exact hs

theorem sameFlow_setRegs {regs : VIFRegisters} (h : regs.stat &&& VIS = s.regs.stat &&& VIS) :
    s.SameFlow (s.setRegs regs) where
  waiting := rfl
  qwc := rfl
  hl := rfl
  irq := rfl
  stalled := by
    unfold Vif1State.stalled
    change decide (regs.stat &&& VIS ≠ 0) = _
    rw [h]

theorem sameFlow_submitVu1OwnerCommand (command : Vu1Command) :
    s.SameFlow (s.submitVu1OwnerCommand env command).2 := by
  unfold submitVu1OwnerCommand
  cases env.vu1Owner with
  | none => exact ⟨rfl, rfl, rfl, rfl, rfl⟩
  | some owner =>
    dsimp only
    split <;> exact ⟨rfl, rfl, rfl, rfl, rfl⟩

theorem sameFlow_submitVu1VifStateUpdate : s.SameFlow (s.submitVu1VifStateUpdate env) :=
  sameFlow_submitVu1OwnerCommand _

theorem sameFlow_readCode : s.SameFlow (s.readCode code) := by
  have hfields : (s.readCode code).pendingPath2DirectHl = s.pendingPath2DirectHl ∧
      (s.readCode code).pendingIrqAfterCommand = s.pendingIrqAfterCommand := by
    unfold readCode
    dsimp only
    split <;> exact ⟨rfl, rfl⟩
  exact ⟨readCode_fields.1, readCode_fields.2, hfields.1, hfields.2, readCode_stalled⟩

theorem sameFlow_startProgram : s.SameFlow (s.startProgram env) := by
  have hdbf : ∀ stat : BitVec 32, (stat ^^^ DBF) &&& VIS = stat &&& VIS := by
    intro stat
    ext i hi
    have hzero : DBF &&& VIS = 0#32 := by decide
    have hbit : (DBF[i] && VIS[i]) = false := by
      rw [← BitVec.getElem_and, hzero]
      exact BitVec.getElem_zero hi
    rw [BitVec.getElem_and, BitVec.getElem_and, BitVec.getElem_xor]
    revert hbit
    cases stat[i] <;> cases DBF[i] <;> cases VIS[i] <;> decide
  unfold startProgram
  exact (sameFlow_setRegs (hdbf _)).trans sameFlow_submitVu1VifStateUpdate

theorem sameFlow_unpackCommand (imm : Nat) (unpack : Unpack) :
    s.SameFlow (s.unpackCommand env imm unpack) := by
  have howner := @sameFlow_submitVu1OwnerCommand env s
    (.decodedUnpack (decodedUnpackCommand imm unpack))
  unfold unpackCommand
  revert howner
  cases s.submitVu1OwnerCommand env (.decodedUnpack (decodedUnpackCommand imm unpack)) with
  | mk submitted t =>
    intro howner
    cases submitted with
    | true => exact howner
    | false => exact howner.trans ⟨rfl, rfl, rfl, rfl, rfl⟩

theorem sameFlow_mpg (destAddr : Nat) (payload : List UInt8) :
    s.SameFlow (s.mpg env destAddr payload) := by
  have howner := @sameFlow_submitVu1OwnerCommand env s (.microMemoryWrite destAddr payload)
  unfold mpg
  revert howner
  cases s.submitVu1OwnerCommand env (.microMemoryWrite destAddr payload) with
  | mk submitted t =>
    intro howner
    cases submitted <;> exact howner.trans ⟨rfl, rfl, rfl, rfl, rfl⟩

theorem sameFlow_mskpath3 (masked : Bool) : s.SameFlow (s.mskpath3 masked) := by
  unfold mskpath3
  dsimp only
  split <;> exact ⟨rfl, rfl, rfl, rfl, rfl⟩

theorem sameFlow_callVu1 (callback : Vu1Callback) : s.SameFlow (s.callVu1 env callback) :=
  ⟨rfl, rfl, rfl, rfl, rfl⟩

/-- **A command with an immediate payload does not change how the stream is cut.** -/
theorem sameFlow_execute (payload : List UInt8) (sourceByteOffset : Nat) :
    s.SameFlow (s.execute env code payload sourceByteOffset) := by
  have hupdate : ∀ regs : VIFRegisters, regs.stat = s.regs.stat →
      s.SameFlow ((s.setRegs regs).submitVu1VifStateUpdate env) := fun regs h =>
    (sameFlow_setRegs (by rw [h])).trans sameFlow_submitVu1VifStateUpdate
  have hstart : ∀ callback, s.SameFlow ((s.startProgram env).callVu1 env callback) :=
    fun callback => sameFlow_startProgram.trans (sameFlow_callVu1 callback)
  unfold execute
  cases code.cmd with
  | STCYCL => exact hupdate _ rfl
  | OFFSET =>
    refine SameFlow.trans ?_ sameFlow_submitVu1VifStateUpdate
    exact ⟨rfl, rfl, rfl, rfl, clearStat_stalled (by decide)⟩
  | BASE => exact sameFlow_setRegs rfl
  | ITOP => exact sameFlow_setRegs rfl
  | STMOD => exact hupdate _ rfl
  | MSKPATH3 => exact sameFlow_mskpath3 _
  | MARK => exact ⟨rfl, rfl, rfl, rfl, setStat_stalled (by decide)⟩
  | MSCAL => exact hstart _
  | MSCALF => exact hstart _
  | MSCNT => exact hstart _
  | STMASK => exact hupdate _ rfl
  | STROW => exact hupdate _ rfl
  | STCOL => exact hupdate _ rfl
  | MPG => exact sameFlow_mpg _ _
  | UNPACK => exact sameFlow_unpackCommand _ _
  | _ => exact ⟨rfl, rfl, rfl, rfl, rfl⟩

/-! ## Quadwords of a DIRECT

A pass takes as many as there are, the machine one at a time. -/

theorem finishDirect_of_pending (h : s.pendingPath2DirectQwc ≠ 0) : s.finishDirect = s := by
  unfold finishDirect
  rw [if_neg h]

/-- Quadwords of a pending DIRECT before it is looked at whether they were the last. -/
def sendDirect (s : Vif1State) (bytes : List UInt8) (qwc : Nat) : Vif1State :=
  { s.clearStat VGW with
    gif := s.gif ++ bytes.map (.path2 · s.pendingPath2DirectHl)
    pendingPath2DirectQwc := s.pendingPath2DirectQwc - qwc }

theorem advanceDirect_eq (bytes : List UInt8) (qwc : Nat) :
    s.advanceDirect bytes qwc = (s.sendDirect bytes qwc).finishDirect := rfl

theorem sendDirect_sendDirect (bytes bytes' : List UInt8) (qwc qwc' : Nat) :
    (s.sendDirect bytes qwc).sendDirect bytes' qwc' =
      s.sendDirect (bytes ++ bytes') (qwc + qwc') := by
  have hstat : (s.regs.stat &&& ~~~VGW) &&& ~~~VGW = s.regs.stat &&& ~~~VGW := by
    rw [BitVec.and_assoc, BitVec.and_self]
  have hqwc : s.pendingPath2DirectQwc - qwc - qwc' = s.pendingPath2DirectQwc - (qwc + qwc') :=
    Nat.sub_sub _ _ _
  unfold sendDirect clearStat setRegs
  dsimp only
  rw [hstat, hqwc, List.map_append, List.append_assoc]

/-- Quadwords that do not finish the DIRECT. -/
theorem advanceDirect_of_lt {qwc : Nat} (h : qwc < s.pendingPath2DirectQwc) (bytes : List UInt8) :
    s.advanceDirect bytes qwc = s.sendDirect bytes qwc :=
  finishDirect_of_pending (Nat.sub_ne_zero_of_lt h)

theorem advanceDirect_advanceDirect {qwc : Nat} (h : qwc < s.pendingPath2DirectQwc)
    (bytes bytes' : List UInt8) (qwc' : Nat) :
    (s.advanceDirect bytes qwc).advanceDirect bytes' qwc' =
      s.advanceDirect (bytes ++ bytes') (qwc + qwc') := by
  rw [advanceDirect_of_lt h, advanceDirect_eq, advanceDirect_eq, sendDirect_sendDirect]

theorem sendDirect_running {qwc : Nat} {bytes : List UInt8} (h : s.Running) :
    (s.sendDirect bytes qwc).Running :=
  ⟨h.waiting, (clearStat_stalled (by decide)).trans h.stalled⟩

theorem step_pending (hrunning : s.Running) (hpending : s.pendingPath2DirectQwc ≠ 0)
    (hsize : 16 ≤ x.data.length) : step env s x = some (16, s.advanceDirect (x.data.take 16) 1) := by
  unfold step
  rw [if_neg hrunning.running, if_pos hpending, if_pos hsize]

/-- **The machine gets through the quadwords that a pass takes.** -/
theorem stopped_advanceDirect {qwc : Nat} (hrunning : s.Running) (hpos : 0 < qwc)
    (hqwc : qwc ≤ s.pendingPath2DirectQwc) (hsize : qwc * 16 ≤ x.data.length) :
    stopped env s x =
      stopped env (s.advanceDirect (x.data.take (qwc * 16)) qwc) (x.drop (qwc * 16)) := by
  induction qwc, hpos using Nat.le_induction generalizing s x with
  | base => exact stopped_of_some (step_pending hrunning (by omega) hsize)
  | succ qwc hpos ih =>
    have hfirst : s.advanceDirect (x.data.take 16) 1 = s.sendDirect (x.data.take 16) 1 :=
      advanceDirect_of_lt (by omega) _
    have hrest : (x.drop 16).data.length = x.data.length - 16 := List.length_drop
    have hbytes : x.data.take 16 ++ (x.drop 16).data.take (qwc * 16) =
        x.data.take ((qwc + 1) * 16) := by
      rw [Vif1Stream.drop_data, Nat.succ_mul, Nat.add_comm, List.take_add]
    have hdrop : 16 + qwc * 16 = (qwc + 1) * 16 := by omega
    calc stopped env s x
        = stopped env (s.sendDirect (x.data.take 16) 1) (x.drop 16) := by
          rw [← hfirst]
          exact stopped_of_some (step_pending hrunning (by omega) (by omega))
      _ = _ := by
          refine ih (sendDirect_running hrunning) ?_ (by omega)
          exact Nat.le_sub_of_add_le hqwc
      _ = _ := by
          rw [← hfirst, advanceDirect_advanceDirect (by omega), hbytes, Vif1Stream.drop_drop,
            hdrop, Nat.add_comm 1 qwc]

/-! ## A pass through the loop -/

/-- What a call leaves whose loop ends so. -/
def ended (x : Vif1Stream) : Nat × Vif1ParserDisposition × Vif1State → Vif1State × Vif1Stream
  | (pos, disposition, s) => (s.finish disposition, x.drop pos)

/-- What a call leaves after a pass, if the machine does the rest. -/
def leaves (env : Vif1Environment) (x : Vif1Stream) (sizeBytes : Nat) :
    Iteration → Vif1State × Vif1Stream
  | .next pos false s => stopped env s (x.drop pos)
  | .next pos true s => ended x (pos, .VifInterrupt, s.setStat VIS)
  | .stop pos s => ended x (afterLoop sizeBytes pos false s)
  | .finish pos disposition s => ended x (pos, disposition, s)

/-- The loop can go on after a pass. -/
def Continues (sizeBytes : Nat) : Iteration → Prop
  | .next pos false s => pos ≤ sizeBytes ∧ s.Running ∧ s.Wf
  | .next pos true _ => pos ≤ sizeBytes
  | .stop _ _ => True
  | .finish _ _ _ => True

variable {sizeBytes pos : Nat}

/-- A command is done: its interrupt stops the machine as it stops the loop. -/
theorem stopped_interruptAfter (irq : Bool) :
    stopped env (s.interruptAfter irq) (x.drop pos) = leaves env x sizeBytes (.next pos irq s) := by
  cases irq with
  | true => exact stopped_of_stalled interrupt_stalled
  | false => rfl

theorem afterLoop_needMoreData (h : pos < sizeBytes ∨ s.pendingPath2DirectQwc ≠ 0) :
    afterLoop sizeBytes pos false s = (pos, .NeedMoreData, s) := by
  unfold afterLoop
  rw [if_neg Bool.false_ne_true, if_neg (by omega)]

theorem stopped_of_stop (hstop : stopped env s (x.drop pos) = (t.finish .NeedMoreData, x.drop n))
    (h : n < sizeBytes ∨ t.pendingPath2DirectQwc ≠ 0) :
    stopped env s (x.drop pos) = leaves env x sizeBytes (.stop n t) := by
  unfold leaves
  dsimp only
  rw [hstop, afterLoop_needMoreData h]
  rfl

/-- A pending DIRECT without a whole quadword. The path to the GIF is made ready. -/
theorem stopped_short (hrunning : s.Running) (hpending : s.pendingPath2DirectQwc ≠ 0)
    (hsize : x.data.length < 16) (hready : x.data.length < 4 → s.clearStat VGW = s) :
    stopped env s x = ((s.clearStat VGW).finish .NeedMoreData, x) := by
  have hstep : step env s x = none := by
    unfold step
    rw [if_neg hrunning.running, if_pos hpending, if_neg (Nat.not_le.2 hsize)]
  have htouch : s.touch x = s.clearStat VGW := by
    unfold touch
    rw [if_neg hrunning.running, if_pos hpending]
    split
    next hlt => exact (hready hlt).symm
    next => rfl
  rw [stopped_of_none hstep]
  unfold suspend disposition
  rw [htouch, if_neg hrunning.running, if_neg fun h => hpending h.2]

/-! What the last quadword leaves. -/

theorem finishDirect_qwc : s.finishDirect.pendingPath2DirectQwc = s.pendingPath2DirectQwc := by
  unfold finishDirect
  dsimp only
  split
  · split <;> rfl
  · rfl

theorem finishDirect_irq (h : s.pendingPath2DirectQwc = 0) (hirq : s.pendingIrqAfterCommand = true) :
    s.finishDirect =
      { s with pendingPath2DirectHl := false, pendingIrqAfterCommand := false }.setStat VIS := by
  unfold finishDirect
  dsimp only
  rw [if_pos h, if_pos hirq]

theorem finishDirect_noIrq (h : s.pendingPath2DirectQwc = 0)
    (hirq : s.pendingIrqAfterCommand = false) :
    s.finishDirect = { s with pendingPath2DirectHl := false } := by
  unfold finishDirect
  dsimp only
  rw [if_pos h, hirq, if_neg Bool.false_ne_true]

theorem finishDirect_wf : s.finishDirect.Wf := by
  intro hzero
  rw [finishDirect_qwc] at hzero
  cases hirq : s.pendingIrqAfterCommand with
  | true =>
    rw [finishDirect_irq hzero hirq]
    exact ⟨rfl, rfl⟩
  | false =>
    rw [finishDirect_noIrq hzero hirq]
    exact ⟨rfl, hirq⟩

theorem finishDirect_stalled (h : s.pendingPath2DirectQwc = 0)
    (hirq : s.pendingIrqAfterCommand = true) : s.finishDirect.stalled = true := by
  rw [finishDirect_irq h hirq]
  exact interrupt_stalled

theorem finishDirect_running (hrunning : s.Running)
    (h : s.pendingPath2DirectQwc = 0 → s.pendingIrqAfterCommand = false) :
    s.finishDirect.Running := by
  by_cases hzero : s.pendingPath2DirectQwc = 0
  · rw [finishDirect_noIrq hzero (h hzero)]
    exact ⟨hrunning.waiting, hrunning.stalled⟩
  · rwa [finishDirect_of_pending hzero]

theorem pendingDirect_leaves (havailable : ∀ s directHl, env.gifPathAvailable s directHl = true)
    (hrunning : s.Running) (hpending : s.pendingPath2DirectQwc ≠ 0)
    (hsize : x.data.length = sizeBytes) (hpos : pos + 4 ≤ sizeBytes) :
    stopped env s (x.drop pos) =
        leaves env x sizeBytes (pendingDirect env x.data sizeBytes pos s) ∧
      Continues sizeBytes (pendingDirect env x.data sizeBytes pos s) := by
  have hlength : (x.drop pos).data.length = sizeBytes - pos := by
    rw [Vif1Stream.drop_data, List.length_drop, hsize]
  unfold pendingDirect
  dsimp only
  rw [havailable, if_neg (by decide)]
  split
  next hnone =>
    refine ⟨stopped_of_stop (stopped_short hrunning hpending (by omega) (by omega)) ?_, trivial⟩
    exact .inl (by omega)
  next hsome =>
    have hstopped := @stopped_advanceDirect env (x.drop pos) s
      (min s.pendingPath2DirectQwc ((sizeBytes - pos) / 16)) hrunning (by omega) (by omega)
      (by omega)
    rw [Vif1Stream.drop_data, Vif1Stream.drop_drop] at hstopped
    rw [advanceDirect_eq, finishDirect_qwc] at *
    split
    next hirq =>
      obtain ⟨hzero, hirq⟩ := (Bool.and_eq_true _ _).mp hirq
      have hstalled := finishDirect_stalled (of_decide_eq_true hzero) hirq
      exact ⟨hstopped.trans (stopped_of_stalled hstalled), trivial⟩
    next hirq =>
      refine ⟨hstopped, by omega, finishDirect_running (sendDirect_running hrunning) ?_,
        finishDirect_wf⟩
      intro hzero
      cases hflag : s.pendingIrqAfterCommand with
      | false => exact hflag
      | true => exact absurd (by rw [hzero, hflag]; rfl) hirq

/-! DIRECT and DIRECTHL. -/

theorem beginDirect_ready : (s.beginDirect code).clearStat VGW = s.beginDirect code := by
  have hstat : (s.regs.stat &&& ~~~VGW) &&& ~~~VGW = s.regs.stat &&& ~~~VGW := by
    rw [BitVec.and_assoc, BitVec.and_self]
  unfold beginDirect clearStat setRegs
  dsimp only
  rw [hstat]

theorem beginDirect_running (h : s.Running) : (s.beginDirect code).Running :=
  ⟨h.waiting, (clearStat_stalled (by decide)).trans h.stalled⟩

theorem beginDirect_sendDirect (bytes : List UInt8) (qwc : Nat) :
    (s.beginDirect code).sendDirect bytes qwc =
      { (s.clearStat VGW).submitPath2 bytes (code.cmd = .DIRECTHL) with
        pendingPath2DirectQwc := code.requestedQw - qwc
        pendingPath2DirectHl := code.cmd = .DIRECTHL
        pendingIrqAfterCommand := code.irq } := by
  unfold sendDirect
  rw [beginDirect_ready]
  rfl

theorem sendDirect_ready {qwc : Nat} {bytes : List UInt8} :
    (s.sendDirect bytes qwc).clearStat VGW = s.sendDirect bytes qwc := by
  have hstat : (s.regs.stat &&& ~~~VGW) &&& ~~~VGW = s.regs.stat &&& ~~~VGW := by
    rw [BitVec.and_assoc, BitVec.and_self]
  unfold sendDirect clearStat setRegs
  dsimp only
  rw [hstat]

theorem stopped_quadwords {qwc : Nat} (hrunning : s.Running) (hready : s.clearStat VGW = s)
    (hqwc : qwc < s.pendingPath2DirectQwc) (havailable : qwc = x.data.length / 16) :
    stopped env s x = ((s.sendDirect (x.data.take (qwc * 16)) qwc).finish .NeedMoreData,
      x.drop (qwc * 16)) := by
  have hsent : stopped env s x =
      stopped env (s.sendDirect (x.data.take (qwc * 16)) qwc) (x.drop (qwc * 16)) := by
    cases qwc with
    | zero =>
      have hnone : s.sendDirect [] 0 = s.clearStat VGW := by
        unfold sendDirect
        rw [List.map_nil, List.append_nil]
        rfl
      rw [Nat.zero_mul, List.take_zero, hnone, hready]
      exact congrArg (stopped env s) (StreamMachine.Buffer.drop_zero x).symm
    | succ qwc =>
      rw [← advanceDirect_of_lt hqwc]
      exact stopped_advanceDirect hrunning qwc.succ_pos (Nat.le_of_lt hqwc) (by omega)
  have hlength : (x.drop (qwc * 16)).data.length < 16 := by
    rw [Vif1Stream.drop_data, List.length_drop]
    omega
  rw [hsent, stopped_short (sendDirect_running hrunning) (Nat.sub_ne_zero_of_lt hqwc) hlength
    fun _ => sendDirect_ready, sendDirect_ready]

theorem flags_clear (hzero : s.pendingPath2DirectQwc = 0) (hhl : s.pendingPath2DirectHl = false)
    (hirq : s.pendingIrqAfterCommand = false) :
    { s with
      pendingPath2DirectQwc := 0
      pendingPath2DirectHl := false
      pendingIrqAfterCommand := false } = s := by
  cases s
  cases hzero
  cases hhl
  cases hirq
  rfl

/-- All quadwords at once, where the flags of a pending DIRECT are clear. -/
theorem beginDirect_advanceDirect (hzero : s.pendingPath2DirectQwc = 0) (hwf : s.Wf)
    (bytes : List UInt8) :
    (s.beginDirect code).advanceDirect bytes code.requestedQw =
      ((s.clearStat VGW).submitPath2 bytes (code.cmd = .DIRECTHL)).interruptAfter code.irq := by
  obtain ⟨hhl, hirq⟩ := hwf hzero
  have hclear := @flags_clear ((s.clearStat VGW).submitPath2 bytes (code.cmd = .DIRECTHL)) hzero
    hhl hirq
  have hqwc : code.requestedQw - code.requestedQw = 0 := Nat.sub_self _
  rw [advanceDirect_eq, beginDirect_sendDirect]
  cases hcode : code.irq with
  | true =>
    rw [finishDirect_irq hqwc rfl, hqwc]
    exact congrArg (·.setStat VIS) hclear
  | false =>
    rw [finishDirect_noIrq hqwc rfl, hqwc]
    exact hclear

theorem requestedQw_pos : 0 < code.requestedQw := by
  unfold VifCode.requestedQw
  split <;> omega

/-- **DIRECT**: what is there goes out, and the rest is pending. -/
theorem direct_leaves (havailable : ∀ s directHl, env.gifPathAvailable s directHl = true)
    (hrunning : s.Running) (hzero : s.pendingPath2DirectQwc = 0) (hwf : s.Wf)
    (hsize : x.data.length = sizeBytes) (hpos : pos ≤ sizeBytes) :
    stopped env (s.beginDirect code) (x.drop pos) =
        leaves env x sizeBytes (direct env x.data sizeBytes pos code s) ∧
      Continues sizeBytes (direct env x.data sizeBytes pos code s) := by
  have hlength : (x.drop pos).data.length = sizeBytes - pos := by
    rw [Vif1Stream.drop_data, List.length_drop, hsize]
  have hbegin : (s.beginDirect code).Running := beginDirect_running hrunning
  have hqwc : (s.beginDirect code).pendingPath2DirectQwc = code.requestedQw := rfl
  have hrequested := @requestedQw_pos code
  unfold direct
  dsimp only
  rw [havailable, if_neg (by decide)]
  split
  next hpartial =>
    rw [Nat.min_eq_right (Nat.le_of_lt hpartial), ← beginDirect_sendDirect]
    have hpending : (s.beginDirect code).pendingPath2DirectQwc - (sizeBytes - pos) / 16 ≠ 0 :=
      Nat.sub_ne_zero_of_lt hpartial
    have hstopped := @stopped_quadwords env (x.drop pos) (s.beginDirect code)
      ((sizeBytes - pos) / 16) hbegin beginDirect_ready hpartial (by rw [hlength])
    rw [Vif1Stream.drop_data, Vif1Stream.drop_drop] at hstopped
    exact ⟨stopped_of_stop hstopped (.inr hpending), trivial⟩
  next hwhole =>
    have hle : code.requestedQw ≤ (sizeBytes - pos) / 16 := Nat.not_lt.1 hwhole
    have hstopped := @stopped_advanceDirect env (x.drop pos) (s.beginDirect code)
      code.requestedQw hbegin hrequested (Nat.le_refl _) (by omega)
    rw [beginDirect_advanceDirect hzero hwf, Vif1Stream.drop_data, Vif1Stream.drop_drop] at hstopped
    rw [Nat.min_eq_left hle]
    refine ⟨hstopped.trans (stopped_interruptAfter code.irq), ?_⟩
    cases code.irq with
    | true =>
      change pos + code.requestedQw * 16 ≤ sizeBytes
      omega
    | false =>
      refine ⟨by omega, ⟨hrunning.waiting, ?_⟩, hwf⟩
      exact (clearStat_stalled (by decide)).trans hrunning.stalled

/-! Commands. -/

theorem step_command (hrunning : s.Running) (hzero : s.pendingPath2DirectQwc = 0)
    (hsize : 4 ≤ x.data.length) :
    step env s x = commandStep env (s.readCode (.ofBytes x.data)) (.ofBytes x.data) x := by
  unfold step
  rw [if_neg hrunning.running, if_neg (not_not_intro hzero), if_neg (Nat.not_lt.2 hsize)]

/-- A command whose payload has not all arrived: only its code is read. -/
theorem suspend_command (hrunning : s.Running) (hzero : s.pendingPath2DirectQwc = 0)
    (hsize : 4 ≤ x.data.length) :
    s.suspend x = (s.readCode (.ofBytes x.data)).finish .NeedMoreData := by
  have hsome : ¬ (x.data = [] ∧ s.pendingPath2DirectQwc = 0) := by
    intro h
    rw [h.1] at hsize
    exact Nat.not_succ_le_zero 3 hsize
  unfold suspend touch disposition
  rw [if_neg hrunning.running, if_neg (Nat.not_lt.2 hsize), if_neg (not_not_intro hzero),
    if_neg hrunning.running, if_neg hsome]

/-- **A pass does what the machine does.** -/
theorem iterate_leaves (hbusy : ∀ s, env.vu1Busy s = false)
    (havailable : ∀ s directHl, env.gifPathAvailable s directHl = true)
    (hrunning : s.Running) (hwf : s.Wf) (hsize : x.data.length = sizeBytes)
    (hpos : pos + 4 ≤ sizeBytes) :
    stopped env s (x.drop pos) = leaves env x sizeBytes (iterate env x sizeBytes pos s) ∧
      Continues sizeBytes (iterate env x sizeBytes pos s) := by
  unfold iterate
  split
  next hpending => exact pendingDirect_leaves havailable hrunning hpending hsize hpos
  next hzero =>
    replace hzero : s.pendingPath2DirectQwc = 0 := not_not.1 hzero
    have hlength : (x.drop pos).data.length = sizeBytes - pos := by
      rw [Vif1Stream.drop_data, List.length_drop, hsize]
    have hstep := @step_command env (x.drop pos) s hrunning hzero (by omega)
    have hsuspend := @suspend_command (x.drop pos) s hrunning hzero (by omega)
    rw [Vif1Stream.drop_data] at hstep hsuspend
    generalize VifCode.ofBytes (x.data.drop pos) = code at hstep hsuspend ⊢
    have hread : s.SameFlow (s.readCode code) := sameFlow_readCode
    have hrunning' := hread.running hrunning
    have hwf' := hread.wf hwf
    have hzero' : (s.readCode code).pendingPath2DirectQwc = 0 := hread.qwc.trans hzero
    dsimp only
    rw [hbusy, Bool.and_false, if_neg Bool.false_ne_true]
    unfold commandStep at hstep
    split
    next hdirect =>
      rw [if_pos hdirect] at hstep
      rw [stopped_of_some hstep, Vif1Stream.drop_drop]
      exact direct_leaves havailable hrunning' hzero' hwf' hsize hpos
    next hdirect =>
      rw [if_neg hdirect] at hstep
      dsimp only at hstep
      rw [hlength, Vif1Stream.drop_data, List.drop_drop, Vif1Stream.byteOffset_drop] at hstep
      split
      next hshort =>
        rw [if_neg (by omega)] at hstep
        refine ⟨stopped_of_stop ?_ (.inl (by omega)), trivial⟩
        rw [stopped_of_none hstep, hsuspend]
      next hfits =>
        rw [if_pos (by omega)] at hstep
        have hexecute := @sameFlow_execute env (s.readCode code) code
          ((x.data.drop (pos + 4)).take ((s.readCode code).payloadBytes code))
          (x.byteOffset (pos + 4))
        rw [stopped_of_some hstep, Vif1Stream.drop_drop, ← Nat.add_assoc]
        refine ⟨stopped_interruptAfter code.irq, ?_⟩
        cases code.irq with
        | true => exact Nat.not_lt.1 hfits
        | false => exact ⟨Nat.not_lt.1 hfits, hexecute.running hrunning', hexecute.wf hwf'⟩

/-! ## The loop -/

theorem processLoop_of_lt (h : sizeBytes < pos + 4) (stall : Bool) :
    processLoop env x sizeBytes pos stall s = afterLoop sizeBytes pos stall s := by
  rw [processLoop, dif_neg (Nat.not_le.2 h)]

theorem processLoop_of_stall :
    processLoop env x sizeBytes pos true s = (pos, .VifInterrupt, s.setStat VIS) := by
  rw [processLoop]
  split
  · rfl
  · rfl

/-- One pass, and the rest of the loop. -/
theorem processLoop_of_le (h : pos + 4 ≤ sizeBytes) :
    processLoop env x sizeBytes pos false s =
      match iterate env x sizeBytes pos s with
      | .next pos' stall s' => processLoop env x sizeBytes pos' stall s'
      | .stop pos' s' => afterLoop sizeBytes pos' false s'
      | .finish pos' disposition s' => (pos', disposition, s') := by
  rw [processLoop, dif_pos h, if_neg Bool.false_ne_true]
  split <;> rename_i heq <;> rw [heq]

/-- Less than a code is left. -/
theorem stopped_end (hrunning : s.Running) (hsize : x.data.length = sizeBytes)
    (hpos : pos ≤ sizeBytes) (hend : sizeBytes < pos + 4) :
    stopped env s (x.drop pos) = ended x (afterLoop sizeBytes pos false s) := by
  have hlength : (x.drop pos).data.length = sizeBytes - pos := by
    rw [Vif1Stream.drop_data, List.length_drop, hsize]
  have hnil : (x.drop pos).data = [] ↔ pos = sizeBytes := by
    rw [← List.length_eq_zero_iff]
    omega
  have hstep : step env s (x.drop pos) = none := by
    unfold step
    rw [if_neg hrunning.running, if_neg (by omega : ¬ 16 ≤ (x.drop pos).data.length),
      if_pos (by omega : (x.drop pos).data.length < 4), ite_self]
  rw [stopped_of_none hstep]
  unfold suspend touch disposition afterLoop
  simp only [hnil]
  rw [if_neg hrunning.running, if_neg hrunning.running, if_pos (by omega),
    if_neg Bool.false_ne_true]
  split <;> rfl

/-- **The loop does what the machine does.** -/
theorem processLoop_stopped (hbusy : ∀ s, env.vu1Busy s = false)
    (havailable : ∀ s directHl, env.gifPathAvailable s directHl = true)
    (hsize : x.data.length = sizeBytes) (stall : Bool)
    (hcontinues : Continues sizeBytes (.next pos stall s)) :
    leaves env x sizeBytes (.next pos stall s) =
      ended x (processLoop env x sizeBytes pos stall s) := by
  induction pos, stall, s using processLoop.induct env x sizeBytes with
  | case1 pos s hpos =>
    rw [processLoop_of_stall]
    rfl
  | case2 pos stall s hpos hstall pos' stall' s' hnext ih =>
    obtain rfl : stall = false := Bool.eq_false_iff.2 hstall
    obtain ⟨hle, hrunning, hwf⟩ := hcontinues
    obtain ⟨hpass, hcontinues⟩ := iterate_leaves hbusy havailable hrunning hwf hsize hpos
    rw [hnext] at hpass hcontinues
    rw [processLoop_of_le hpos, hnext]
    exact hpass.trans (ih hcontinues)
  | case3 pos stall s hpos hstall pos' s' hstop =>
    obtain rfl : stall = false := Bool.eq_false_iff.2 hstall
    obtain ⟨hle, hrunning, hwf⟩ := hcontinues
    obtain ⟨hpass, _⟩ := iterate_leaves hbusy havailable hrunning hwf hsize hpos
    rw [hstop] at hpass
    rw [processLoop_of_le hpos, hstop]
    exact hpass
  | case4 pos stall s hpos hstall pos' disposition s' hfinish =>
    obtain rfl : stall = false := Bool.eq_false_iff.2 hstall
    obtain ⟨hle, hrunning, hwf⟩ := hcontinues
    obtain ⟨hpass, _⟩ := iterate_leaves hbusy havailable hrunning hwf hsize hpos
    rw [hfinish] at hpass
    rw [processLoop_of_le hpos, hfinish]
    exact hpass
  | case5 pos stall s hpos =>
    have hend : sizeBytes < pos + 4 := Nat.not_le.1 hpos
    rw [processLoop_of_lt hend]
    cases stall with
    | true => rfl
    | false =>
      obtain ⟨hle, hrunning, _⟩ := hcontinues
      exact stopped_end hrunning hsize hle hend

/-! ## The flags of a DIRECT

They are clear without a pending DIRECT, whatever the environment does. -/

/-- The state after a pass. -/
def passed : Iteration → Vif1State
  | .next _ _ s => s
  | .stop _ s => s
  | .finish _ _ s => s

theorem pendingDirect_wf (hwf : s.Wf) {data : List UInt8} :
    (passed (pendingDirect env data sizeBytes pos s)).Wf := by
  unfold pendingDirect
  dsimp only
  split
  · exact hwf
  · split
    · exact hwf
    · split <;> exact finishDirect_wf

theorem direct_wf (hwf : s.Wf) {data : List UInt8} :
    (passed (direct env data sizeBytes pos code s)).Wf := by
  unfold direct
  dsimp only
  split
  · exact hwf
  · split
    next hpartial =>
      intro hzero
      change code.requestedQw - min code.requestedQw ((sizeBytes - pos) / 16) = 0 at hzero
      omega
    next => exact hwf

theorem iterate_wf (hwf : s.Wf) : (passed (iterate env x sizeBytes pos s)).Wf := by
  have hread : (s.readCode (.ofBytes (x.data.drop pos))).Wf := sameFlow_readCode.wf hwf
  unfold iterate
  split
  · exact pendingDirect_wf hwf
  · dsimp only
    split
    · exact hread
    · split
      · exact direct_wf hread
      · split
        · exact hread
        · exact (sameFlow_execute _ _).wf hread

theorem afterLoop_wf (hwf : s.Wf) (stall : Bool) : (afterLoop sizeBytes pos stall s).2.2.Wf := by
  unfold afterLoop
  split
  · exact hwf
  · split <;> exact hwf

theorem processLoop_wf (hwf : s.Wf) (stall : Bool) :
    (processLoop env x sizeBytes pos stall s).2.2.Wf := by
  induction pos, stall, s using processLoop.induct env x sizeBytes with
  | case1 pos s hpos =>
    rw [processLoop_of_stall]
    exact hwf
  | case2 pos stall s hpos hstall pos' stall' s' hnext ih =>
    obtain rfl : stall = false := Bool.eq_false_iff.2 hstall
    have hpass := @iterate_wf env x s sizeBytes pos hwf
    rw [hnext] at hpass
    rw [processLoop_of_le hpos, hnext]
    exact ih hpass
  | case3 pos stall s hpos hstall pos' s' hstop =>
    obtain rfl : stall = false := Bool.eq_false_iff.2 hstall
    have hpass := @iterate_wf env x s sizeBytes pos hwf
    rw [hstop] at hpass
    rw [processLoop_of_le hpos, hstop]
    exact afterLoop_wf hpass false
  | case4 pos stall s hpos hstall pos' disposition s' hfinish =>
    obtain rfl : stall = false := Bool.eq_false_iff.2 hstall
    have hpass := @iterate_wf env x s sizeBytes pos hwf
    rw [hfinish] at hpass
    rw [processLoop_of_le hpos, hfinish]
    exact hpass
  | case5 pos stall s hpos =>
    rw [processLoop_of_lt (Nat.not_le.1 hpos)]
    exact afterLoop_wf hwf stall

theorem finish_wf (hwf : s.Wf) (disposition : Vif1ParserDisposition) :
    (s.finish disposition).Wf := by
  unfold finish
  dsimp only
  split <;> exact hwf

/-! ## Calls -/

/-- Where a call may begin: after an interrupt, or while VU1 is waited for, VPS is clear. -/
structure Rest (s : Vif1State) : Prop where
  wf : s.Wf
  idle : (s.waitingForVu || s.stalled) = true → s.idle = s

theorem finish_stalled (disposition : Vif1ParserDisposition) :
    (s.finish disposition).stalled = s.stalled := by
  unfold finish
  dsimp only
  split
  · exact (setStat_stalled (by decide)).trans (clearStat_stalled (by decide))
  · exact clearStat_stalled (by decide)

theorem finish_waiting (disposition : Vif1ParserDisposition) :
    (s.finish disposition).waitingForVu = s.waitingForVu := by
  unfold finish
  dsimp only
  split <;> rfl

theorem touch_flow : (s.touch x).waitingForVu = s.waitingForVu ∧ (s.touch x).stalled = s.stalled := by
  unfold touch
  split
  · exact ⟨rfl, rfl⟩
  · split
    · exact ⟨rfl, rfl⟩
    · split
      · exact ⟨rfl, clearStat_stalled (by decide)⟩
      · exact ⟨readCode_fields.1, readCode_stalled⟩

/-- A suspended state that cannot go on has VPS clear. -/
theorem suspend_rests (h : ((s.suspend x).waitingForVu || (s.suspend x).stalled) = true) :
    (s.suspend x).idle = s.suspend x := by
  have hstop : (s.waitingForVu || s.stalled) = true := by
    rwa [suspend, finish_waiting, finish_stalled, touch_flow.1, touch_flow.2] at h
  unfold suspend disposition
  rw [if_pos hstop]
  exact idle_idle

end Vif1State

namespace Vif1

open Vif1State

variable {m : Vif1} {data : List UInt8}

/-- VIF1 with the given state and stream. -/
def ofPair (outside : Vif1State × Vif1Stream) : Vif1 := ⟨outside.1, outside.2⟩

/-- **VIF1 keeps the flags of a DIRECT as they should be.** -/
theorem processVIF1Data_wf (hwf : m.state.Wf) : (processVIF1Data env m data).state.Wf := by
  unfold processVIF1Data processVif1Stream
  dsimp only
  split
  · exact hwf
  · split
    · exact hwf
    · split
      · exact hwf
      · split
        · exact hwf
        · exact finish_wf (processLoop_wf hwf false) _

/-- A call on a state that is stopped only keeps the data. -/
theorem processVIF1Data_stopped (h : (m.state.waitingForVu || m.state.stalled) = true) :
    processVIF1Data env m data = { m with stream := m.stream.append data } := by
  unfold processVIF1Data processVif1Stream
  dsimp only
  split
  next hnil => rw [hnil, Vif1Stream.append_nil]
  next =>
    split
    next => rfl
    next hwaiting =>
      have hstalled : m.state.stalled = true := by
        rwa [Bool.eq_false_iff.2 hwaiting, Bool.false_or] at h
      rw [if_pos hstalled]

theorem stopped_of_stop_flags (h : (s.waitingForVu || s.stalled) = true) (hidle : s.idle = s) :
    stopped env s x = (s, x) := by
  have hstep : step env s x = none := by
    unfold step
    rw [if_pos h]
  rw [stopped_of_none hstep]
  unfold suspend touch disposition
  rw [if_pos h, if_pos h]
  exact congrArg (·, x) hidle

/-- The call on a state that can go on. -/
theorem processVIF1Data_running (hrunning : m.state.Running) (hdata : data ≠ [])
    (hsize : m.stream.data.length + data.length ≤ UINT32_MAX) :
    processVIF1Data env m data =
      ofPair (ended (m.stream.append data) (processLoop env (m.stream.append data)
        (m.stream.append data).data.length 0 false m.state)) := by
  have hmin : min (m.stream.append data).data.length UINT32_MAX =
      (m.stream.append data).data.length := by
    rw [Vif1Stream.append_data, List.length_append]
    exact Nat.min_eq_left hsize
  have hsome : (m.stream.append data).data ≠ [] := by
    rw [Vif1Stream.append_data]
    exact List.append_ne_nil_of_right_ne_nil _ hdata
  unfold processVIF1Data processVif1Stream
  dsimp only
  rw [if_neg hdata, hrunning.waiting, if_neg Bool.false_ne_true, if_neg Bool.false_ne_true,
    hrunning.stalled, if_neg Bool.false_ne_true, if_neg hsome, hmin]
  rfl

/-- **A call is a run of the machine.** -/
theorem processVIF1Data_feed (hbusy : ∀ s, env.vu1Busy s = false)
    (havailable : ∀ s directHl, env.gifPathAvailable s directHl = true) (hrest : m.state.Rest)
    (hdata : data ≠ []) (hsize : m.stream.data.length + data.length ≤ UINT32_MAX) :
    processVIF1Data env m data = ofPair ((suspension env).feed (m.state, m.stream) data) := by
  change _ = ofPair (stopped env m.state (m.stream.append data))
  by_cases hstop : (m.state.waitingForVu || m.state.stalled) = true
  · rw [processVIF1Data_stopped hstop, stopped_of_stop_flags hstop (hrest.idle hstop)]
    rfl
  · obtain ⟨hwaiting, hstalled⟩ := Bool.or_eq_false_iff.1 (Bool.eq_false_iff.2 hstop)
    have hrunning : m.state.Running := ⟨hwaiting, hstalled⟩
    have hloop := processLoop_stopped hbusy havailable rfl false
      (show Continues (m.stream.append data).data.length (.next 0 false m.state) from
        ⟨Nat.zero_le _, hrunning, hrest.wf⟩)
    rw [processVIF1Data_running hrunning hdata hsize, ← hloop]
    exact congrArg (ofPair ∘ stopped env m.state)
      (StreamMachine.Buffer.drop_zero (m.stream.append data))

theorem processVIF1Data_rest (hbusy : ∀ s, env.vu1Busy s = false)
    (havailable : ∀ s directHl, env.gifPathAvailable s directHl = true) (hrest : m.state.Rest)
    (hdata : data ≠ []) (hsize : m.stream.data.length + data.length ≤ UINT32_MAX) :
    (processVIF1Data env m data).state.Rest where
  wf := processVIF1Data_wf hrest.wf
  idle := by
    rw [processVIF1Data_feed hbusy havailable hrest hdata hsize]
    exact suspend_rests

theorem processVIF1Data_length (hbusy : ∀ s, env.vu1Busy s = false)
    (havailable : ∀ s directHl, env.gifPathAvailable s directHl = true) (hrest : m.state.Rest)
    (hdata : data ≠ []) (hsize : m.stream.data.length + data.length ≤ UINT32_MAX) :
    (processVIF1Data env m data).stream.data.length ≤ m.stream.data.length + data.length := by
  rw [processVIF1Data_feed hbusy havailable hrest hdata hsize, ← List.length_append,
    ← Vif1Stream.append_data]
  exact (machine env).size_run

/-- **Two calls are as good as one.** -/
theorem processVIF1Data_append (hbusy : ∀ s, env.vu1Busy s = false)
    (havailable : ∀ s directHl, env.gifPathAvailable s directHl = true) (hrest : m.state.Rest)
    (data data' : List UInt8)
    (hsize : m.stream.data.length + (data ++ data').length ≤ UINT32_MAX) :
    processVIF1Data env (processVIF1Data env m data) data' =
      processVIF1Data env m (data ++ data') := by
  have hnil : ∀ m, processVIF1Data env m [] = m := fun m => if_pos rfl
  by_cases hdata : data = []
  · rw [hdata, hnil, List.nil_append]
  by_cases hdata' : data' = []
  · rw [hdata', hnil, List.append_nil]
  have hdata'' : data ++ data' ≠ [] := List.append_ne_nil_of_right_ne_nil _ hdata'
  have hwhole := processVIF1Data_feed hbusy havailable hrest hdata'' hsize
  rw [List.length_append] at hsize
  have hsize' : m.stream.data.length + data.length ≤ UINT32_MAX := by omega
  have hlength := processVIF1Data_length hbusy havailable hrest hdata hsize'
  rw [processVIF1Data_feed hbusy havailable
    (processVIF1Data_rest hbusy havailable hrest hdata hsize') hdata' (by omega),
    processVIF1Data_feed hbusy havailable hrest hdata hsize', hwhole]
  exact congrArg ofPair ((suspension env).feed_feed (m.state, m.stream) data data')

theorem foldl_rest (hbusy : ∀ s, env.vu1Busy s = false)
    (havailable : ∀ s directHl, env.gifPathAvailable s directHl = true) (pieces : List (List UInt8))
    (hrest : m.state.Rest)
    (hsize : m.stream.data.length + pieces.flatten.length ≤ UINT32_MAX) :
    pieces.foldl (processVIF1Data env) m = processVIF1Data env m pieces.flatten := by
  induction pieces generalizing m with
  | nil => exact (if_pos rfl).symm
  | cons data pieces ih =>
    rw [List.flatten_cons] at hsize ⊢
    rw [List.foldl_cons, ← processVIF1Data_append hbusy havailable hrest _ _ hsize]
    by_cases hdata : data = []
    · have hnil : processVIF1Data env m data = m := if_pos hdata
      rw [hdata, List.nil_append] at hsize
      rw [hnil]
      exact ih hrest hsize
    · rw [List.length_append] at hsize
      have hsize' : m.stream.data.length + data.length ≤ UINT32_MAX := by omega
      have hlength := processVIF1Data_length hbusy havailable hrest hdata hsize'
      exact ih (processVIF1Data_rest hbusy havailable hrest hdata hsize') (by omega)

theorem foldl_stopped (pieces : List (List UInt8))
    (h : (m.state.waitingForVu || m.state.stalled) = true) :
    pieces.foldl (processVIF1Data env) m =
      { m with stream := m.stream.append pieces.flatten } := by
  induction pieces generalizing m with
  | nil => rw [List.flatten_nil, Vif1Stream.append_nil, List.foldl_nil]
  | cons data pieces ih =>
    rw [List.foldl_cons, processVIF1Data_stopped h, List.flatten_cons, ← Vif1Stream.append_append]
    exact ih h

/-- **The pieces that the stream comes in do not matter.** The registers, the memories, the bytes
for the GIF, the callbacks and what has not been consumed are those of one call.

The positions in the stream are `uint32_t`, and 4096 bytes are the largest payload. -/
theorem processVIF1Data_chunks (env : Vif1Environment) (hbusy : ∀ s, env.vu1Busy s = false)
    (havailable : ∀ s directHl, env.gifPathAvailable s directHl = true) (m : Vif1)
    (hwf : m.state.Wf) (pieces : List (List UInt8))
    (hsize : m.stream.data.length + pieces.flatten.length + 4096 < 2 ^ 32) :
    pieces.foldl (processVIF1Data env) m = processVIF1Data env m pieces.flatten := by
  have hsize' : m.stream.data.length + pieces.flatten.length ≤ UINT32_MAX := by
    unfold UINT32_MAX
    omega
  by_cases hstop : (m.state.waitingForVu || m.state.stalled) = true
  · rw [foldl_stopped pieces hstop, processVIF1Data_stopped hstop]
  · exact foldl_rest hbusy havailable pieces ⟨hwf, fun h => absurd h hstop⟩ hsize'

/-- A DIRECT that is cut in its code and in its quadword, and an STCYCL after it. -/
theorem processVIF1Data_chunks_direct :
    let env : Vif1Environment :=
      { vu1Busy := fun _ => false
        gifPathAvailable := fun _ _ => true
        vu1Program := fun _ _ data => data
        vu1Owner := none }
    [[1, 0], [0, 0x50, 9, 9, 9], [], [9, 9, 9, 9, 9, 9, 9, 9, 9, 9, 9, 9, 9, 4, 4], [0, 1]].foldl
        (processVIF1Data env) {} =
      processVIF1Data env {}
        [1, 0, 0, 0x50, 9, 9, 9, 9, 9, 9, 9, 9, 9, 9, 9, 9, 9, 9, 9, 9, 4, 4, 0, 1] :=
  processVIF1Data_chunks _ (fun _ => rfl) (fun _ _ => rfl) {} (fun _ => ⟨rfl, rfl⟩)
    [[1, 0], [0, 0x50, 9, 9, 9], [], [9, 9, 9, 9, 9, 9, 9, 9, 9, 9, 9, 9, 9, 4, 4], [0, 1]] (by decide)

end Vif1

end Ps2Recomp
