import Ps2Recomp.Vu.PairOrder

/-!
# What a lower instruction reads and writes

A lower instruction on a state with other VF registers, accumulator and pipelines
(`execLower_disturbed`): where the lanes that it reads are the same, so is what it writes, and what
it does not write stays as it was.
-/

namespace Ps2Recomp.VuInterpreterBackend

variable {ξ : Type}

/-! ## Disturbed states -/

namespace VuState

variable (state : VuState ξ) (vf : Fin 32 → Lanes) (regs : UpperRegisters) (pipeline : VuPipelineState ξ)

@[simp]
theorem viOf_disturbed (reg : ℕ) : (state.disturbed vf regs pipeline).viOf reg = state.viOf reg := rfl

@[simp]
theorem viOf_writeVf (reg r : ℕ) (result : Lanes) (dest : ℕ) :
    (state.writeVf r result dest).viOf reg = state.viOf reg := rfl

@[simp]
theorem readViForBranch_disturbed (reg : ℕ) :
    (state.disturbed vf regs pipeline).readViForBranch reg = state.readViForBranch reg := rfl

@[simp]
theorem writeVf_disturbed (reg : ℕ) (result : Lanes) (dest : ℕ) :
    (state.disturbed vf regs pipeline).writeVf reg result dest =
      state.disturbed (Function.update vf (Fin.ofNat 32 reg)
        (applyDest (vf (Fin.ofNat 32 reg)) result dest)) regs pipeline := rfl

@[simp]
theorem disturbed_writeVf (reg : ℕ) (result : Lanes) (dest : ℕ) :
    (state.writeVf reg result dest).disturbed vf regs pipeline = state.disturbed vf regs pipeline := rfl

@[simp]
theorem setVi_disturbed (reg : ℕ) (value : BitVec 32) :
    (state.disturbed vf regs pipeline).setVi reg value =
      (state.setVi reg value).disturbed vf regs pipeline := rfl

@[simp]
theorem writeVi_disturbed (reg : ℕ) (value : BitVec 32) :
    (state.disturbed vf regs pipeline).writeVi reg value =
      (state.writeVi reg value).disturbed vf regs pipeline := by
  unfold writeVi
  split <;> rfl

@[simp]
theorem writeVi_writeVf (reg r : ℕ) (value : BitVec 32) (result : Lanes) (dest : ℕ) :
    (state.writeVf r result dest).writeVi reg value =
      (state.writeVi reg value).writeVf r result dest := by
  unfold writeVi
  split <;> rfl

@[simp]
theorem writeVi_vf (reg : ℕ) (value : BitVec 32) : (state.writeVi reg value).vf = state.vf := by
  unfold writeVi
  split <;> rfl

@[simp]
theorem backupVi_disturbed (reg : ℕ) :
    (state.disturbed vf regs pipeline).backupVi reg =
      (state.backupVi reg).disturbed vf regs pipeline := by
  unfold backupVi
  by_cases hzero : reg = 0
  · rw [if_pos hzero, if_pos hzero]
  · rw [if_neg hzero, if_neg hzero]
    by_cases hheld : state.rest.viBackupCycles ≠ 0 ∧ state.rest.viBackupRegister = reg
    · rw [if_pos hheld]
      exact if_pos hheld
    · rw [if_neg hheld]
      exact if_neg hheld

@[simp]
theorem backupVi_vf (reg : ℕ) : (state.backupVi reg).vf = state.vf := by
  unfold backupVi
  split
  · rfl
  · split <;> rfl

theorem writeVf_behind (reg r : ℕ) (value : BitVec 32) (result : Lanes) (dest : ℕ) :
    (((state.backupVi reg).writeVi reg value).writeVf r result dest).vf =
      (state.writeVf r result dest).vf := by
  unfold writeVf vfOf
  rw [writeVi_vf, backupVi_vf]

variable (data : VuData)

@[simp]
theorem loadVi_disturbed (reg addr dest : ℕ) :
    (state.disturbed vf regs pipeline).loadVi data reg addr dest =
      (state.loadVi data reg addr dest).disturbed vf regs pipeline := by
  unfold loadVi
  split
  · rw [writeVi_disturbed]
  · rfl

@[simp]
theorem storeVi_disturbed (reg addr dest : ℕ) :
    (state.disturbed vf regs pipeline).storeVi data reg addr dest =
      state.storeVi data reg addr dest := rfl

@[simp]
theorem branchIf_disturbed (condition : Bool) (codeAddressMask : BitVec 32) (instr : VuWord) :
    (state.disturbed vf regs pipeline).branchIf condition codeAddressMask instr =
      (state.branchIf condition codeAddressMask instr).disturbed vf regs pipeline := by
  unfold branchIf
  split <;> rfl

theorem storeVf_disturbed {reg : ℕ} {dest : ℕ}
    (h : ∀ c, selects dest c = true → vf (Fin.ofNat 32 reg) c = state.vf (Fin.ofNat 32 reg) c)
    (addr : ℕ) :
    (state.disturbed vf regs pipeline).storeVf data reg addr dest =
      state.storeVf data reg addr dest := by
  unfold storeVf
  split
  · exact congrArg _ (applyDest_congr h)
  · rfl

end VuState

/-! ## One instruction on two states -/

/-- What an instruction does on a disturbed state, where it does `after` on the state itself. -/
def Follows (instr : VuWord) (vf : Fin 32 → Lanes) (regs : UpperRegisters)
    (after' after : VuState ξ × VuData) : Prop :=
  ∃ vf' pipeline, after' = (after.1.disturbed vf' regs pipeline, after.2) ∧
    (∀ r c, LowerWrites instr r c → r ≠ 0 → vf' r c = after.1.vf r c) ∧
    ∀ r c, ¬LowerWrites instr r c → vf' r c = vf r c

variable {instr : VuWord} {vf : Fin 32 → Lanes} {regs : UpperRegisters} {pipeline : VuPipelineState ξ}
  {after' after : VuState ξ × VuData}

theorem Follows.keep (pipeline : VuPipelineState ξ)
    (hnone : ∀ reg source, lowerVf instr ≠ .write reg source)
    (h : after' = (after.1.disturbed vf regs pipeline, after.2)) :
    Follows instr vf regs after' after := by
  refine ⟨vf, pipeline, h, fun r c hwrites => absurd hwrites ?_, fun _ _ _ => rfl⟩
  unfold LowerWrites
  split
  next reg source hwrite => exact absurd hwrite (hnone reg source)
  next => exact id

theorem Follows.write {reg : Fin 32} {source : LowerVfSource} {result' result dst : Lanes}
    (hwrite : lowerVf instr = .write reg source)
    (h : after' = (after.1.disturbed
      (Function.update vf reg (applyDest (vf reg) result' instr.DEST)) regs pipeline, after.2))
    (hplain : after.1.vf reg = applyDest dst result instr.DEST)
    (hsame : reg ≠ 0 → ∀ c, selects instr.DEST c = true → result' c = result c) :
    Follows instr vf regs after' after := by
  refine ⟨_, pipeline, h, ?_, ?_⟩
  · intro r c hwrites hr
    simp only [LowerWrites, hwrite] at hwrites
    obtain ⟨rfl, hc⟩ := hwrites
    rw [Function.update_self, hplain, applyDest, applyDest, if_pos hc, if_pos hc, hsame hr c hc]
  · intro r c hwrites
    simp only [LowerWrites, hwrite] at hwrites
    by_cases hr : r = reg
    · subst hr
      rw [Function.update_self, applyDest, if_neg fun hc => hwrites ⟨rfl, hc⟩]
    · rw [Function.update_of_ne hr]

section Lower

variable (fl : HostFloat) (unit : XgkickUnit ξ) (codeAddressMask : BitVec 32) (state : VuState ξ)
  (data : VuData)

theorem lowerSpecial_disturbed (hlower : lowerVf instr = lowerVfSpecial instr)
    (hreads : ∀ r c, LowerReads instr r c → vf r c = state.vf r c) :
    Follows instr vf regs (lowerSpecial fl unit instr (state.disturbed vf regs pipeline) data)
      (lowerSpecial fl unit instr state data) := by
  unfold lowerVfSpecial at hlower
  unfold lowerSpecial
  dsimp only at hlower ⊢
  split
  case h_1 hop =>
    simp only [hop] at hlower
    simp only [LowerReads, hlower] at hreads
    exact .write hlower rfl (state.writeVf_self ..) fun hr c hc => hreads _ c ⟨hr, rfl, hc⟩
  case h_2 hop =>
    simp only [hop] at hlower
    simp only [LowerReads, hlower] at hreads
    refine .write hlower rfl (state.writeVf_self ..) fun hr c hc => hreads _ (c + 1) ⟨hr, rfl, ?_⟩
    rw [add_sub_cancel_right]
    exact hc
  case h_3 hop =>
    simp only [hop] at hlower
    simp only [VuState.loadVf_quadAddress, VuState.backupVi_disturbed, VuState.viOf_disturbed,
      VuState.viOf_writeVf, VuState.writeVf_disturbed, VuState.writeVi_disturbed,
      VuState.writeVi_writeVf]
    exact .write hlower rfl (VuState.writeVf_self ..) fun _ _ _ => rfl
  case h_4 hop =>
    simp only [hop] at hlower
    simp only [LowerReads, hlower] at hreads
    refine .keep pipeline (by simp [hlower]) ?_
    simp only [VuState.backupVi_disturbed, VuState.viOf_disturbed, VuState.writeVi_disturbed]
    rw [VuState.storeVf_disturbed _ _ _ _ _ fun c hc => ?_]
    rw [VuState.backupVi_vf]
    exact hreads _ c ⟨rfl, hc⟩
  case h_5 hop =>
    simp only [hop] at hlower
    simp only [VuState.loadVf_quadAddress, VuState.backupVi_disturbed, VuState.viOf_disturbed,
      VuState.writeVf_disturbed, VuState.writeVi_disturbed]
    exact .write hlower rfl (VuState.writeVf_self ..) fun _ _ _ => rfl
  case h_6 hop =>
    simp only [hop] at hlower
    simp only [LowerReads, hlower] at hreads
    refine .keep pipeline (by simp [hlower]) ?_
    simp only [VuState.backupVi_disturbed, VuState.viOf_disturbed, VuState.writeVi_disturbed]
    rw [VuState.storeVf_disturbed _ _ _ _ _ fun c hc => ?_]
    rw [VuState.writeVi_vf, VuState.backupVi_vf]
    exact hreads _ c ⟨rfl, hc⟩
  case h_10 hop =>
    simp only [hop] at hlower
    simp only [LowerReads, hlower] at hreads
    refine .keep pipeline (by simp [hlower]) ?_
    split
    next hreg =>
      have hlane : broadcast ((state.disturbed vf regs pipeline).vfOf instr.FS) (fsf instr) =
          broadcast (state.vfOf instr.FS) (fsf instr) := hreads _ _ ⟨hreg, rfl, rfl⟩
      rw [hlane, VuState.backupVi_disturbed, VuState.setVi_disturbed]
    next => rfl
  case h_11 hop =>
    simp only [hop] at hlower
    exact .write hlower rfl (state.writeVf_self ..) fun _ _ _ => rfl
  case h_14 hop =>
    simp only [hop] at hlower
    exact .write hlower rfl (state.writeVf_self ..) fun _ _ _ => rfl
  case h_21 hmove hrotate hload hstore hloadDown hstoreDown _ _ _ hinteger hfromInteger _ _ hfromP _ _
      _ _ _ _ =>
    refine .keep pipeline ?_ rfl
    split at hlower
    all_goals first
      | contradiction
      | (intro reg source hwrite; rw [hlower] at hwrite; cases hwrite)
  -- the rest neither reads nor writes VF registers
  all_goals
    rename_i hop
    simp only [hop] at hlower
    first
      | exact .keep _ (by simp [hlower]) rfl
      | exact .keep pipeline (by simp [hlower])
          (congrArg (Prod.mk · data) (state.writeVi_disturbed vf regs pipeline _ _))
      | exact .keep pipeline (by simp [hlower])
          (congrArg (Prod.mk · data) (state.loadVi_disturbed vf regs pipeline data _ _ _))

/-- An instruction that writes an integer register only. -/
theorem Follows.integer (hnone : lowerVf instr = .nothing) (reg : ℕ) (value : BitVec 32) :
    Follows instr vf regs ((state.disturbed vf regs pipeline).writeVi reg value, data)
      (state.writeVi reg value, data) :=
  .keep pipeline (fun reg source hwrite => by rw [hnone] at hwrite; cases hwrite)
    (congrArg (Prod.mk · data) (state.writeVi_disturbed vf regs pipeline reg value))

theorem Follows.nothing (hnone : lowerVf instr = .nothing) :
    Follows instr vf regs (state.disturbed vf regs pipeline, data) (state, data) :=
  .keep pipeline (fun reg source hwrite => by rw [hnone] at hwrite; cases hwrite) rfl

theorem lowerFunction_disturbed
    (hlower : lowerVf instr =
      match (instr &&& 0x3F#32).toNat with
      | 0x3C | 0x3D | 0x3E | 0x3F => lowerVfSpecial instr
      | _ => .nothing)
    (hreads : ∀ r c, LowerReads instr r c → vf r c = state.vf r c) :
    Follows instr vf regs (lowerFunction fl unit instr (state.disturbed vf regs pipeline) data)
      (lowerFunction fl unit instr state data) := by
  unfold lowerFunction
  dsimp only
  split
  case h_6 hfunction =>
    simp only [hfunction] at hlower
    exact lowerSpecial_disturbed fl unit state data hlower hreads
  case h_7 hfunction =>
    simp only [hfunction] at hlower
    exact lowerSpecial_disturbed fl unit state data hlower hreads
  case h_8 hfunction =>
    simp only [hfunction] at hlower
    exact lowerSpecial_disturbed fl unit state data hlower hreads
  case h_9 hfunction =>
    simp only [hfunction] at hlower
    exact lowerSpecial_disturbed fl unit state data hlower hreads
  case h_10 =>
    refine .nothing state data ?_
    rw [hlower]
    split
    all_goals first
      | contradiction
      | rfl
  all_goals
    rename_i hfunction
    simp only [hfunction] at hlower
    exact .integer state data hlower _ _

/-- **A lower instruction on a disturbed state.** -/
theorem execLower_disturbed (hreads : ∀ r c, LowerReads instr r c → vf r c = state.vf r c) :
    Follows instr vf regs
      (execLower fl unit codeAddressMask instr (state.disturbed vf regs pipeline) data)
      (execLower fl unit codeAddressMask instr state data) := by
  have hlower := lowerVf.eq_def instr
  unfold execLower
  dsimp only
  by_cases hnop : instr = 0 ∨ instr = 0x8000033C#32
  · rw [if_pos hnop] at hlower
    rw [if_pos hnop, if_pos hnop]
    exact .nothing state data hlower
  rw [if_neg hnop] at hlower
  rw [if_neg hnop, if_neg hnop]
  split
  case h_1 hop =>
    simp only [hop] at hlower
    simp only [VuState.loadVf_quadAddress]
    exact .write hlower rfl (state.writeVf_self ..) fun _ _ _ => rfl
  case h_2 hop =>
    simp only [hop] at hlower
    simp only [LowerReads, hlower] at hreads
    refine .keep pipeline (by simp [hlower]) ?_
    rw [VuState.storeVf_disturbed _ _ _ _ _ fun c hc => hreads _ c ⟨rfl, hc⟩]
    rfl
  case h_29 hop =>
    simp only [hop] at hlower
    exact lowerFunction_disturbed fl unit state data hlower hreads
  case h_30 =>
    split at hlower
    all_goals first
      | contradiction
      | exact .nothing state data hlower
  all_goals
    rename_i hop
    simp only [hop] at hlower
    first
      | exact .integer state data hlower _ _
      | exact .keep _ (by simp [hlower]) rfl
      | exact .keep pipeline (by simp [hlower])
          (congrArg (Prod.mk · data) (state.loadVi_disturbed vf regs pipeline data _ _ _))
      | exact .keep pipeline (by simp [hlower])
          (congrArg (Prod.mk · data) (state.branchIf_disturbed vf regs pipeline _ _ _))
      | exact .keep pipeline (by simp [hlower])
          (congrArg (fun linked : VuState ξ => (linked.branchTo _, data))
            (state.writeVi_disturbed vf regs pipeline _ _))

/-- **What a lower instruction does not write stays.** -/
theorem execLower_frame :
    (execLower fl unit codeAddressMask instr state data).1.acc = state.acc ∧
    (execLower fl unit codeAddressMask instr state data).1.q = state.q ∧
    (execLower fl unit codeAddressMask instr state data).1.i = state.i ∧
    ∀ r c, ¬LowerWrites instr r c →
      (execLower fl unit codeAddressMask instr state data).1.vf r c = state.vf r c := by
  -- the state is itself, disturbed by what it has
  have hself : Follows instr state.vf ⟨state.acc, state.q, state.i⟩
      (execLower fl unit codeAddressMask instr
        (state.disturbed state.vf ⟨state.acc, state.q, state.i⟩ state.rest.pipeline) data)
      (execLower fl unit codeAddressMask instr state data) :=
    execLower_disturbed fl unit codeAddressMask state data fun _ _ _ => rfl
  obtain ⟨vf', pipeline', hafter, -, hkept⟩ := hself
  have hfirst := congrArg Prod.fst hafter
  change (execLower fl unit codeAddressMask instr state data).1 = _ at hfirst
  refine ⟨congrArg (·.acc) hfirst, congrArg (·.q) hfirst, congrArg (·.i) hfirst, ?_⟩
  intro r c hwrites
  exact (congrFun (congrFun (congrArg (·.vf) hfirst) r) c).trans (hkept r c hwrites)

/-- What is written, by where it comes from; of the data memory, the integer registers and P, what
they are all equal to. -/
def LowerVfSource.Gives (result : Lanes) : LowerVfSource → Prop
  | .vf source => result = state.vf source
  | .rotated source => result = fun c => state.vf source (c + 1)
  | .other => ∀ b, (∀ addr, data.word addr = b) → (∀ r, toInt16 (state.viOf r) = b) → state.p = b →
      result = fun _ => b

/-- The instructions of the third `switch`. -/
theorem execLower_special {action : LowerVf} (hnop : ¬(instr = 0 ∨ instr = 0x8000033C#32))
    (hop : instr.lowerPrimary = 0x40) (hlower : lowerVf instr = action) (hne : action ≠ .nothing) :
    lowerVfSpecial instr = action ∧
      execLower fl unit codeAddressMask instr state data = lowerSpecial fl unit instr state data := by
  unfold lowerVf at hlower
  rw [if_neg hnop] at hlower
  simp only [hop] at hlower
  unfold execLower
  dsimp only
  rw [if_neg hnop]
  simp only [hop]
  unfold lowerFunction
  dsimp only
  split at hlower
  case h_5 => exact absurd hlower.symm hne
  all_goals
    rename_i hfunction
    simp only [hfunction]
    exact ⟨hlower, trivial⟩

theorem execLower_write {reg : Fin 32} {source : LowerVfSource}
    (hwrite : lowerVf instr = .write reg source) :
    ∃ result, source.Gives state data result ∧
      (execLower fl unit codeAddressMask instr state data).1.vf =
        Function.update state.vf reg (applyDest (state.vf reg) result instr.DEST) := by
  have hlower := hwrite
  unfold lowerVf at hlower
  split_ifs at hlower with hnop
  split at hlower
  case h_1 hop =>
    cases hlower
    unfold execLower
    dsimp only
    rw [if_neg hnop]
    simp only [hop, VuState.loadVf_quadAddress]
    exact ⟨_, fun b hword _ _ => funext fun c => hword _, rfl⟩
  case h_2 => cases hlower
  case h_4 => cases hlower
  case h_3 hop =>
    obtain ⟨hlower, hexec⟩ :=
      execLower_special fl unit codeAddressMask state data hnop hop hwrite (by simp)
    rw [hexec]
    unfold lowerVfSpecial at hlower
    unfold lowerSpecial
    dsimp only at hlower ⊢
    split at hlower
    case h_1 hop =>
      cases hlower
      simp only [hop]
      exact ⟨_, rfl, rfl⟩
    case h_2 hop =>
      cases hlower
      simp only [hop]
      exact ⟨_, rfl, rfl⟩
    case h_3 hop =>
      cases hlower
      simp only [hop, VuState.loadVf_quadAddress, VuState.writeVi_writeVf]
      exact ⟨_, fun b hword _ _ => funext fun c => hword _, state.writeVf_behind ..⟩
    case h_4 hop =>
      cases hlower
      simp only [hop, VuState.loadVf_quadAddress]
      exact ⟨_, fun b hword _ _ => funext fun c => hword _, state.writeVf_behind ..⟩
    case h_5 hop =>
      cases hlower
      simp only [hop]
      exact ⟨_, fun b _ hvi _ => funext fun c => hvi _, rfl⟩
    case h_6 hop =>
      cases hlower
      simp only [hop]
      exact ⟨_, fun b _ _ hp => funext fun c => hp, rfl⟩
    all_goals cases hlower

/-- A store of VF lanes, from any registers. -/
theorem execLower_store {source : Fin 32} (hstore : lowerVf instr = .store source) :
    ∃ addr, ∀ vf regs pipeline,
      (execLower fl unit codeAddressMask instr (state.disturbed vf regs pipeline) data).2 =
        data.storeQuadword addr (applyDest (data.quadword addr) (vf source) instr.DEST) := by
  have hlower := hstore
  unfold lowerVf at hlower
  split_ifs at hlower with hnop
  split at hlower
  case h_1 => cases hlower
  case h_4 => cases hlower
  case h_2 hop =>
    cases hlower
    refine ⟨data.quadAddress (state.viOf instr.VIT + instr.IMM11.signExtend 32),
      fun vf regs pipeline => ?_⟩
    unfold execLower
    dsimp only
    rw [if_neg hnop]
    simp only [hop, VuState.storeVf_quadAddress, VuState.viOf_disturbed]
    rfl
  case h_3 hop =>
    obtain ⟨hspecial, -⟩ :=
      execLower_special fl unit codeAddressMask state data hnop hop hstore (by simp)
    unfold lowerVfSpecial at hspecial
    dsimp only at hspecial
    split at hspecial
    case h_7 hcase =>
      cases hspecial
      refine ⟨data.quadAddress (toUInt16 ((state.backupVi instr.VIT).viOf instr.VIT)),
        fun vf regs pipeline => ?_⟩
      rw [(execLower_special fl unit codeAddressMask _ data hnop hop hstore (by simp)).2]
      unfold lowerSpecial
      simp only [hcase, VuState.storeVf_quadAddress, VuState.backupVi_disturbed,
        VuState.viOf_disturbed]
      rfl
    case h_8 hcase =>
      cases hspecial
      let decremented := (state.backupVi instr.VIT).writeVi instr.VIT
        (toInt16 ((state.backupVi instr.VIT).viOf instr.VIT - 1))
      refine ⟨data.quadAddress (toUInt16 (decremented.viOf instr.VIT)),
        fun vf regs pipeline => ?_⟩
      rw [(execLower_special fl unit codeAddressMask _ data hnop hop hstore (by simp)).2]
      unfold lowerSpecial
      simp only [hcase, VuState.storeVf_quadAddress, VuState.backupVi_disturbed,
        VuState.viOf_disturbed, VuState.writeVi_disturbed]
      rfl
    all_goals cases hspecial

/-- `MTIR`. -/
theorem execLower_toInteger {reg : ℕ} {source : Fin 32} {lane : Fin 4}
    (hinteger : lowerVf instr = .toInteger reg source lane) (hreg : reg ≠ 0) :
    reg < 16 ∧ (execLower fl unit codeAddressMask instr state data).1.vi (Fin.ofNat 16 reg) =
      toInt16 (state.vf source lane) := by
  have hlower := hinteger
  unfold lowerVf at hlower
  split_ifs at hlower with hnop
  split at hlower
  case h_1 => cases hlower
  case h_2 => cases hlower
  case h_4 => cases hlower
  case h_3 hop =>
    obtain ⟨hspecial, hexec⟩ :=
      execLower_special fl unit codeAddressMask state data hnop hop hinteger (by simp)
    rw [hexec]
    unfold lowerVfSpecial at hspecial
    dsimp only at hspecial
    split at hspecial
    case h_9 hcase =>
      cases hspecial
      refine ⟨?_, ?_⟩
      · unfold VuWord.VIT
        rw [BitVec.toNat_and]
        exact Nat.lt_of_le_of_lt Nat.and_le_right (by decide)
      · unfold lowerSpecial
        simp only [hcase, if_pos hreg]
        exact Function.update_self ..
    all_goals cases hspecial

theorem execLower_of_not_changes {r : Fin 32} {c : Fin 4} (h : ¬LowerChanges instr r c) :
    (execLower fl unit codeAddressMask instr state data).1.vf r c = state.vf r c := by
  by_cases hwrites : LowerWrites instr r c
  · -- a register is moved to itself
    unfold LowerWrites at hwrites
    unfold LowerChanges at h
    split at hwrites
    next reg source hwrite =>
      simp only [hwrite] at h
      obtain ⟨rfl, hc⟩ := hwrites
      have hself : source = .vf reg := not_not.1 fun hsource => h ⟨rfl, hc, hsource⟩
      obtain ⟨result, hgives, hvf⟩ := execLower_write fl unit codeAddressMask state data hwrite
      subst hself
      rw [hvf, Function.update_self, applyDest, if_pos hc, hgives]
    next => exact absurd hwrites id
  · exact (execLower_frame fl unit codeAddressMask state data).2.2.2 r c hwrites

end Lower

end Ps2Recomp.VuInterpreterBackend
