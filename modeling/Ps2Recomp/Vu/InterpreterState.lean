import Ps2Recomp.Vu.CommandProcessor
import Ps2Recomp.Vu.Encoding
import Ps2Recomp.Vu.Xgkick

/-!
# The state of the VU interpreter (`ps2_vu1.h`, `ps2_vu1_core.cpp`)

The registers are those of `VuExecutionState`; here is what else it holds, with the results that
are still in a pipeline, and the functions of `VuInterpreterBackend` that move them on: the Q and P
results with their remaining cycles, the flags in a ring of four stages, and the value of an integer
register from before its last write.

Floats are their bits, and the arithmetic of the host is a parameter (`HostFloat`). So is the XGKICK
unit (`XgkickUnit`).
-/

namespace Ps2Recomp.VuInterpreterBackend

open Vu1CommandStream (VuExecutionState)

/-- The float operations of the host, on bits. -/
structure HostFloat where
  add : BitVec 32 → BitVec 32 → BitVec 32
  sub : BitVec 32 → BitVec 32 → BitVec 32
  mul : BitVec 32 → BitVec 32 → BitVec 32
  div : BitVec 32 → BitVec 32 → BitVec 32
  fma : BitVec 32 → BitVec 32 → BitVec 32 → BitVec 32
  sqrt : BitVec 32 → BitVec 32
  fabs : BitVec 32 → BitVec 32
  lt : BitVec 32 → BitVec 32 → Bool
  le : BitVec 32 → BitVec 32 → Bool
  /-- `static_cast<float>` of an `int32_t`. -/
  ofInt : BitVec 32 → BitVec 32
  /-- `static_cast<int32_t>` of a float that is in range. -/
  toInt : BitVec 32 → BitVec 32

/-- The XGKICK unit, with the packets that it gave away. -/
structure XgkickUnit (ξ : Type) where
  isActive : ξ → Bool
  beginXgkick : VuData → (sourceQword : BitVec 32) → ξ → ξ
  advanceXgkick : VuData → (cycles : ℕ) → (flush : Bool) → ξ → ξ

/-- `VuPipelineState::DelayedQ` and `DelayedP`. -/
structure DelayedResult where
  active : Bool := false
  result : BitVec 32 := 0
  cyclesRemaining : ℕ := 0
  deriving DecidableEq, Repr

/-- `VuPipelineState::FmacFlags`. -/
structure FmacFlags where
  active : Bool := false
  fmacActive : Bool := false
  clipActive : Bool := false
  mac : BitVec 32 := 0
  status : BitVec 32 := 0
  clip : BitVec 32 := 0
  deriving DecidableEq, Repr

/-- `VuPipelineState`; the index of a stage is below `kFmacFlagStages`. -/
structure VuPipelineState (ξ : Type) where
  xgkick : ξ
  delayedQ : DelayedResult := {}
  delayedP : DelayedResult := {}
  fmacFlags : Fin 4 → FmacFlags := fun _ => {}
  fmacFlagIndex : Fin 4 := 0
  workingMac : BitVec 32 := 0
  workingClip : BitVec 32 := 0

/-- The fields of `VuExecutionState` that are not registers. -/
structure VuDelayedState (ξ : Type) where
  ebit : Bool := false
  branchPending : Bool := false
  branchTarget : BitVec 32 := 0
  branchDelay : ℕ := 0
  viBackupCycles : ℕ := 0
  viBackupRegister : ℕ := 0
  viBackupValue : BitVec 32 := 0
  active : Bool := false
  issuedCycles : ℕ := 0
  pipeline : VuPipelineState ξ

abbrev VuState (ξ : Type) := VuExecutionState (VuDelayedState ξ)

/-! ## Integers and lanes -/

/-- `(int16_t)`, back in an `int32_t`. -/
def toInt16 (value : BitVec 32) : BitVec 32 := (value.setWidth 16).signExtend 32

/-- `(uint16_t)`, back in an `int32_t`. -/
def toUInt16 (value : BitVec 32) : BitVec 32 := value &&& 0xFFFF#32

/-- The sign bit of a float is flipped. -/
def negate (value : BitVec 32) : BitVec 32 := value ^^^ 0x80000000#32

/-- A destination mask has the lanes from its top bit down. -/
def selects (dest : ℕ) (lane : Fin 4) : Bool := dest.testBit (3 - lane.val)

def applyDest (dst result : Lanes) (dest : ℕ) : Lanes := fun lane =>
  if selects dest lane then result lane else dst lane

def broadcast (vf : Lanes) (bc : ℕ) : BitVec 32 := vf (Fin.ofNat 4 bc)

namespace VuState

variable {ξ : Type} (state : VuState ξ)

def vfOf (reg : ℕ) : Lanes := state.vf (Fin.ofNat 32 reg)

def viOf (reg : ℕ) : BitVec 32 := state.vi (Fin.ofNat 16 reg)

/-- `applyDest(state.vf[reg], result, dest)`. -/
def writeVf (reg : ℕ) (result : Lanes) (dest : ℕ) : VuState ξ :=
  { state with
    vf := Function.update state.vf (Fin.ofNat 32 reg) (applyDest (state.vfOf reg) result dest) }

@[simp]
theorem writeVf_self (reg : ℕ) (result : Lanes) (dest : ℕ) :
    (state.writeVf reg result dest).vf (Fin.ofNat 32 reg) =
      applyDest (state.vfOf reg) result dest :=
  Function.update_self ..

theorem writeVf_of_ne {reg : ℕ} {r : Fin 32} (h : r ≠ Fin.ofNat 32 reg) (result : Lanes)
    (dest : ℕ) : (state.writeVf reg result dest).vf r = state.vf r :=
  Function.update_of_ne h ..

def applyDestAcc (result : Lanes) (dest : ℕ) : VuState ξ :=
  { state with acc := applyDest state.acc result dest }

/-- `state.vi[reg] = value`. -/
def setVi (reg : ℕ) (value : BitVec 32) : VuState ξ :=
  { state with vi := Function.update state.vi (Fin.ofNat 16 reg) value }

/-- `if (reg != 0) state.vi[reg] = value`. -/
def writeVi (reg : ℕ) (value : BitVec 32) : VuState ξ :=
  if reg ≠ 0 then state.setVi reg value else state

def withPipeline (pipeline : VuPipelineState ξ) : VuState ξ :=
  { state with rest := { state.rest with pipeline } }

/-! ## Q and P -/

def scheduleQ (result : BitVec 32) (latency : ℕ) : VuState ξ :=
  state.withPipeline { state.rest.pipeline with
    delayedQ := { active := true, result, cyclesRemaining := latency } }

def scheduleP (result : BitVec 32) (latency : ℕ) : VuState ξ :=
  state.withPipeline { state.rest.pipeline with
    delayedP := { active := true, result, cyclesRemaining := latency } }

/-! ## Flags -/

/-- `state.pipeline.fmacFlags[state.pipeline.fmacFlagIndex]` is changed. -/
def modifyStage (change : FmacFlags → FmacFlags) : VuState ξ :=
  let pipeline := state.rest.pipeline
  state.withPipeline { pipeline with
    fmacFlags := Function.update pipeline.fmacFlags pipeline.fmacFlagIndex
      (change (pipeline.fmacFlags pipeline.fmacFlagIndex)) }

end VuState

/-- The flags of one lane of a result, in its bits of MAC. -/
def laneFlags (bits : BitVec 32) (shift : ℕ) (mac : BitVec 32) : BitVec 32 :=
  let mac := mac &&& ~~~(0x1111#32 <<< shift)
  let mac := if bits &&& 0x80000000#32 ≠ 0 then mac ||| 0x0010#32 <<< shift else mac
  let exponent := bits >>> 23 &&& 0xFF#32
  if bits &&& 0x7FFFFFFF#32 = 0 then mac ||| 0x0001#32 <<< shift
  else if exponent = 0 then mac ||| 0x0101#32 <<< shift
  else if exponent = 0xFF#32 then mac ||| 0x1000#32 <<< shift
  else mac

/-- MAC after a result. -/
def macFlags (result : Lanes) (dest : ℕ) (mac : BitVec 32) : BitVec 32 :=
  (List.finRange 4).foldl
    (fun mac lane => if selects dest lane then laneFlags (result lane) (3 - lane.val) mac else mac)
    mac

/-- The low bits of STATUS that MAC gives. -/
def statusFlags (mac : BitVec 32) : BitVec 32 :=
  (if mac &&& 0x000F#32 ≠ 0 then 0x1#32 else 0) ||| (if mac &&& 0x00F0#32 ≠ 0 then 0x2#32 else 0) |||
    (if mac &&& 0x0F00#32 ≠ 0 then 0x4#32 else 0) ||| (if mac &&& 0xF000#32 ≠ 0 then 0x8#32 else 0)

namespace VuState

variable {ξ : Type} (state : VuState ξ)

def scheduleFmacFlags (result : Lanes) (dest : ℕ) (preserveUnselected : Bool) : VuState ξ :=
  let mac := macFlags result dest
    (if preserveUnselected then state.rest.pipeline.workingMac else 0)
  (state.withPipeline { state.rest.pipeline with workingMac := mac }).modifyStage fun pending =>
    { pending with active := true, fmacActive := true, mac, status := statusFlags mac }

def scheduleClipFlags (clip : BitVec 32) : VuState ξ :=
  let workingClip := clip &&& 0x00FFFFFF#32
  (state.withPipeline { state.rest.pipeline with workingClip }).modifyStage fun pending =>
    { pending with active := true, clipActive := true, clip := workingClip }

/-! ## Integer registers before their last write -/

def backupVi (reg : ℕ) : VuState ξ :=
  if reg = 0 then state
  else if state.rest.viBackupCycles ≠ 0 ∧ state.rest.viBackupRegister = reg then
    -- consecutive increments keep the value from before the first
    { state with rest := { state.rest with viBackupCycles := 2 } }
  else
    { state with rest := { state.rest with
      viBackupCycles := 2, viBackupRegister := reg, viBackupValue := toInt16 (state.viOf reg) } }

def readViForBranch (reg : ℕ) : BitVec 32 :=
  if state.rest.viBackupCycles ≠ 0 ∧ state.rest.viBackupRegister = reg then
    toInt16 state.rest.viBackupValue
  else toInt16 (state.viOf reg)

end VuState

end Ps2Recomp.VuInterpreterBackend
