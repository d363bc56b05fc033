import Ps2Recomp.Vu.ExecLower
import Ps2Recomp.Vu.ExecUpper

/-!
# The order of a pair (`VuInterpreterBackend::run`)

`executePair` is the part of the loop that executes a pair. On the VU both instructions of a pair
read the VF registers as they were before it (`simultaneous`); the interpreter runs one after the
other, in the order of `vuLowerShouldRunBeforeUpper`, which honours one direction of a dependence.

`Conflict` says of two instructions that the one that runs first changes a lane that the other one
reads. A lane that it reads for nothing that is compared here does not count, and neither does a
lane that it writes as it was.
-/

namespace Ps2Recomp.VuInterpreterBackend

variable {ξ : Type}

/-! ## Execution -/

structure DecodedInstructionPair where
  lower : VuWord
  upper : VuWord
  iBit : Bool
  eBit : Bool
  lowerBeforeUpper : Bool
  deriving DecidableEq, Repr

/-- `decodeInstructionPair`, from the two words. -/
def decodeInstructionPair (lower upper : VuWord) : DecodedInstructionPair :=
  let iBit := upper >>> 31 &&& 1#32 ≠ 0
  { lower, upper, iBit
    eBit := upper >>> 30 &&& 1#32 ≠ 0
    lowerBeforeUpper := !iBit && vuLowerShouldRunBeforeUpper upper lower }

theorem decodeInstructionPair_order {lower upper : VuWord}
    (h : (decodeInstructionPair lower upper).iBit = false) :
    (decodeInstructionPair lower upper).lowerBeforeUpper =
      vuLowerShouldRunBeforeUpper upper lower := by
  change (!(decodeInstructionPair lower upper).iBit && _) = _
  rw [h]
  rfl

/-- VF0 and VI0 are constants. -/
def VuState.enforceConstants (state : VuState ξ) : VuState ξ :=
  { state with
    vf := Function.update state.vf 0 fun c => if c = 3 then 0x3F800000#32 else 0
    vi := Function.update state.vi 0 0 }

section Execution

variable (fl : HostFloat) (unit : XgkickUnit ξ) (codeAddressMask : BitVec 32)

def executePair (decoded : DecodedInstructionPair) (state : VuState ξ) (data : VuData) :
    VuState ξ × VuData :=
  let (state, data) :=
    if decoded.iBit then ({ execUpper fl decoded.upper state with i := decoded.lower }, data)
    else if decoded.lowerBeforeUpper then
      let (state, data) := execLower fl unit codeAddressMask decoded.lower state data
      (execUpper fl decoded.upper state, data)
    else
      let state := execUpper fl decoded.upper state
      if decoded.lower ≠ 0 ∧ decoded.lower ≠ 0x8000033C#32 then
        execLower fl unit codeAddressMask decoded.lower state data
      else (state, data)
  (state.enforceConstants, data)

/-! ## Both at once -/

/-- What is compared: the registers of both kinds, the accumulator and the data memory. -/
structure PairResult where
  vf : Fin 32 → Lanes
  vi : Fin 16 → BitVec 32
  acc : Lanes
  data : VuData

def pairResult (after : VuState ξ × VuData) : PairResult :=
  ⟨after.1.vf, after.1.vi, after.1.acc, after.2⟩

def UpperWrites (instr : VuWord) (r : Fin 32) (c : Fin 4) : Prop :=
  match upperAction instr with
  | .vf reg _ => Fin.ofNat 32 reg = r ∧ selects instr.DEST c = true
  | _ => False

instance (instr : VuWord) (r : Fin 32) (c : Fin 4) : Decidable (UpperWrites instr r c) := by
  unfold UpperWrites
  split <;> infer_instance

/-- Both instructions on the state before the pair; where both write a lane, the upper one does. -/
def simultaneous (decoded : DecodedInstructionPair) (state : VuState ξ) (data : VuData) :
    PairResult :=
  let upper := execUpper fl decoded.upper state
  let (lower, data) :=
    if decoded.iBit then (state, data)
    else execLower fl unit codeAddressMask decoded.lower state data
  pairResult (VuState.enforceConstants
    { state with
      vf := fun r c => if UpperWrites decoded.upper r c then upper.vf r c else lower.vf r c
      vi := lower.vi
      acc := upper.acc }, data)

end Execution

/-! ## Lanes that are read and written -/

/-- The lanes of VF registers that a lane of a result is made of. -/
def UpperOp.Reads (instr : VuWord) (c : Fin 4) (op : UpperOp) (r : Fin 32) (lane : Fin 4) : Prop :=
  let fs := Fin.ofNat 32 instr.FS = r
  let ft := Fin.ofNat 32 instr.FT = r
  match op with
  | .fmac _ .vector => (fs ∨ ft) ∧ lane = c
  | .fmac _ .bc => fs ∧ lane = c ∨ ft ∧ lane = Fin.ofNat 4 instr.BC
  | .fmac _ _ => fs ∧ lane = c
  | .opmsub | .opmula =>
    c ≠ 3 ∧ (fs ∧ lane = (UpperOp.result.opLanes c).1 ∨ ft ∧ lane = (UpperOp.result.opLanes c).2)
  | .itof _ | .ftoi _ | .abs => fs ∧ lane = c

/-- Where a lower instruction has the lanes from that it writes. -/
inductive LowerVfSource where
  | vf (source : Fin 32)
  | rotated (source : Fin 32)
  | other
  deriving DecidableEq, Repr

/-- What a lower instruction does with VF registers that is seen in what is compared. -/
inductive LowerVf where
  | nothing
  | write (reg : Fin 32) (source : LowerVfSource)
  | store (source : Fin 32)
  | toInteger (reg : ℕ) (source : Fin 32) (lane : Fin 4)
  deriving DecidableEq, Repr

def lowerVfSpecial (instr : VuWord) : LowerVf :=
  let ft := Fin.ofNat 32 instr.FT
  let fs := Fin.ofNat 32 instr.FS
  match instr.specialOp with
  | 0x30 => .write ft (.vf fs)
  | 0x31 => .write ft (.rotated fs)
  | 0x34 | 0x36 | 0x3D | 0x64 => .write ft .other
  | 0x35 | 0x37 => .store fs
  | 0x3C => .toInteger instr.VIT fs (Fin.ofNat 4 (fsf instr))
  | _ => .nothing

def lowerVf (instr : VuWord) : LowerVf :=
  if instr = 0 ∨ instr = 0x8000033C#32 then .nothing
  else
    match instr.lowerPrimary with
    | 0x00 => .write (Fin.ofNat 32 instr.FT) .other
    | 0x01 => .store (Fin.ofNat 32 instr.FS)
    | 0x40 =>
      match (instr &&& 0x3F#32).toNat with
      | 0x3C | 0x3D | 0x3E | 0x3F => lowerVfSpecial instr
      | _ => .nothing
    | _ => .nothing

def LowerWrites (instr : VuWord) (r : Fin 32) (c : Fin 4) : Prop :=
  match lowerVf instr with
  | .write reg _ => reg = r ∧ selects instr.DEST c = true
  | _ => False

/-- The lanes that it writes, but not with what is in them: `MOVE` of a register to itself. -/
def LowerChanges (instr : VuWord) (r : Fin 32) (c : Fin 4) : Prop :=
  match lowerVf instr with
  | .write reg source => reg = r ∧ selects instr.DEST c = true ∧ source ≠ .vf reg
  | _ => False

/-- The lanes that are seen in what a lower instruction writes. -/
def LowerReads (instr : VuWord) (r : Fin 32) (c : Fin 4) : Prop :=
  match lowerVf instr with
  | .write reg (.vf source) => reg ≠ 0 ∧ source = r ∧ selects instr.DEST c = true
  | .write reg (.rotated source) => reg ≠ 0 ∧ source = r ∧ selects instr.DEST (c - 1) = true
  | .store source => source = r ∧ selects instr.DEST c = true
  | .toInteger reg source lane => reg ≠ 0 ∧ source = r ∧ lane = c
  | _ => False

/-- A maximum or a minimum of a lane of VF0 and the same lane. -/
def UpperOp.KeepsZero (instr : VuWord) (c : Fin 4) : UpperOp → Prop
  | .fmac .max operand | .fmac .mini operand =>
    Fin.ofNat 32 instr.FS = 0 ∧ Fin.ofNat 32 instr.FT = 0 ∧
      (operand = .vector ∨ operand = .bc ∧ Fin.ofNat 4 instr.BC = c)
  | _ => False

/-- The lanes of VF0 that an upper instruction changes until the end of the pair. -/
def UpperDisturbsZero (instr : VuWord) (c : Fin 4) : Prop :=
  match upperAction instr with
  | .vf reg op => Fin.ofNat 32 reg = 0 ∧ selects instr.DEST c = true ∧ ¬op.KeepsZero instr c
  | _ => False

/-- The lanes that are read for what an upper instruction writes to a VF register. -/
def UpperReads (instr : VuWord) (r : Fin 32) (lane : Fin 4) : Prop :=
  match upperAction instr with
  | .vf _ op => ∃ c, selects instr.DEST c = true ∧ op.Reads instr c r lane
  | _ => False

/-- The instruction that runs first changes a lane that the other one reads. -/
def Conflict (lower upper : VuWord) : Prop :=
  let decoded := decodeInstructionPair lower upper
  decoded.iBit = false ∧
    if decoded.lowerBeforeUpper then ∃ r c, LowerChanges lower r c ∧ UpperReads upper r c
    else ∃ c, UpperDisturbsZero upper c ∧ LowerReads lower 0 c

/-! ## Upper instructions -/

theorem applyDest_congr {dst result result' : Lanes} {dest : ℕ}
    (h : ∀ c, selects dest c = true → result c = result' c) :
    applyDest dst result dest = applyDest dst result' dest := by
  funext c
  unfold applyDest
  split
  next hc => exact h c hc
  next => rfl

/-- The registers besides VF that only upper instructions read. -/
structure UpperRegisters where
  acc : Lanes
  q : BitVec 32
  i : BitVec 32

/-- A state with other VF registers, accumulator, Q, I and pipelines. -/
def VuState.disturbed (state : VuState ξ) (vf : Fin 32 → Lanes) (regs : UpperRegisters)
    (pipeline : VuPipelineState ξ) : VuState ξ :=
  { state with
    vf, acc := regs.acc, q := regs.q, i := regs.i, rest := { state.rest with pipeline } }

section Upper

variable (fl : HostFloat) (instr : VuWord) (state : VuState ξ)

/-- The VF registers after an upper instruction. -/
def upperVf : Fin 32 → Lanes :=
  match upperAction instr with
  | .vf reg op =>
    (state.writeVf reg (fun c => op.result fl state instr c) instr.DEST).vf
  | _ => state.vf

def upperAcc : Lanes :=
  match upperAction instr with
  | .acc op => applyDest state.acc (fun c => op.result fl state instr c) instr.DEST
  | _ => state.acc

theorem scheduleMac_disturbed (result : Lanes) :
    ∃ pipeline, scheduleMac instr result state =
      state.disturbed state.vf ⟨state.acc, state.q, state.i⟩ pipeline := by
  unfold scheduleMac
  split
  · exact ⟨_, rfl⟩
  · exact ⟨state.rest.pipeline, rfl⟩

/-- **An upper instruction changes VF registers, the accumulator and the flag pipeline only.** -/
theorem execUpper_disturbed :
    ∃ pipeline, execUpper fl instr state =
      state.disturbed (upperVf fl instr state) ⟨upperAcc fl instr state, state.q, state.i⟩
        pipeline := by
  unfold execUpper upperVf upperAcc
  cases upperAction instr with
  | vf reg op =>
    obtain ⟨pipeline, hpipeline⟩ := scheduleMac_disturbed instr
      (state.writeVf reg (fun c => op.result fl state instr c) instr.DEST)
      fun c => op.result fl state instr c
    exact ⟨pipeline, hpipeline⟩
  | acc op =>
    obtain ⟨pipeline, hpipeline⟩ := scheduleMac_disturbed instr
      (state.applyDestAcc (fun c => op.result fl state instr c) instr.DEST)
      fun c => op.result fl state instr c
    exact ⟨pipeline, hpipeline⟩
  | clip => exact ⟨_, rfl⟩
  | nop => exact ⟨state.rest.pipeline, rfl⟩

theorem upperVf_of_not_writes {r : Fin 32} {c : Fin 4} (h : ¬UpperWrites instr r c) :
    upperVf fl instr state r c = state.vf r c := by
  unfold UpperWrites at h
  unfold upperVf
  cases haction : upperAction instr with
  | vf reg op =>
    simp only [haction] at h
    by_cases hr : r = Fin.ofNat 32 reg
    · subst hr
      simp only [VuState.writeVf_self]
      rw [applyDest, if_neg fun hc => h ⟨rfl, hc⟩]
      rfl
    · simp only [state.writeVf_of_ne hr]
  | acc op => rfl
  | clip => rfl
  | nop => rfl

theorem upperVf_of_writes {reg : ℕ} {op : UpperOp} (haction : upperAction instr = .vf reg op)
    {c : Fin 4} (hc : selects instr.DEST c = true) :
    upperVf fl instr state (Fin.ofNat 32 reg) c = op.result fl state instr c := by
  unfold upperVf
  simp only [haction, VuState.writeVf_self]
  rw [applyDest, if_pos hc]

variable {state} {state' : VuState ξ} {c : Fin 4} {op : UpperOp}

/-- **A result is made of the lanes that the operation reads, the accumulator, Q and I.** -/
theorem result_congr (hacc : state'.acc = state.acc) (hq : state'.q = state.q)
    (hi : state'.i = state.i) (hvf : ∀ r lane, op.Reads instr c r lane →
      state'.vf r lane = state.vf r lane) :
    op.result fl state' instr c = op.result fl state instr c := by
  cases op with
  | fmac function operand =>
    have hs : state'.vfOf instr.FS c = state.vfOf instr.FS c := by
      refine hvf _ _ ?_
      cases operand with
      | vector => exact ⟨Or.inl rfl, rfl⟩
      | bc => exact Or.inl ⟨rfl, rfl⟩
      | q => exact ⟨rfl, rfl⟩
      | i => exact ⟨rfl, rfl⟩
    have hoperand : operand.value state' instr c = operand.value state instr c := by
      cases operand with
      | vector => exact hvf _ _ ⟨Or.inr rfl, rfl⟩
      | bc => exact hvf _ _ (Or.inr ⟨rfl, rfl⟩)
      | q => exact hq
      | i => exact hi
    simp only [UpperOp.result, hs, hoperand, hacc]
  | opmsub =>
    simp only [UpperOp.result]
    split
    · rfl
    next hc =>
      have hs : state'.vfOf instr.FS _ = state.vfOf instr.FS _ := hvf _ _ ⟨hc, Or.inl ⟨rfl, rfl⟩⟩
      have ht : state'.vfOf instr.FT _ = state.vfOf instr.FT _ := hvf _ _ ⟨hc, Or.inr ⟨rfl, rfl⟩⟩
      rw [hs, ht, hacc]
  | opmula =>
    simp only [UpperOp.result]
    split
    · rfl
    next hc =>
      have hs : state'.vfOf instr.FS _ = state.vfOf instr.FS _ := hvf _ _ ⟨hc, Or.inl ⟨rfl, rfl⟩⟩
      have ht : state'.vfOf instr.FT _ = state.vfOf instr.FT _ := hvf _ _ ⟨hc, Or.inr ⟨rfl, rfl⟩⟩
      rw [hs, ht]
  | itof scale =>
    have hs : state'.vfOf instr.FS c = state.vfOf instr.FS c := hvf _ _ ⟨rfl, rfl⟩
    simp only [UpperOp.result, hs]
  | ftoi scale =>
    have hs : state'.vfOf instr.FS c = state.vfOf instr.FS c := hvf _ _ ⟨rfl, rfl⟩
    simp only [UpperOp.result, hs]
  | abs =>
    have hs : state'.vfOf instr.FS c = state.vfOf instr.FS c := hvf _ _ ⟨rfl, rfl⟩
    simp only [UpperOp.result, hs]

end Upper

end Ps2Recomp.VuInterpreterBackend
