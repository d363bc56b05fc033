import Mathlib.Data.Nat.Notation
import Mathlib.Logic.Function.Basic
import Ps2Recomp.Lib.FiniteIndices

/-!
# General registers

The registers are 128 bits wide. The translations of ordinary instructions read and write them through
the macros `GPR_U32`, `GPR_U64`, `SET_GPR_S32` and `SET_GPR_U64`, which see the low word or doubleword
and keep the upper doubleword.
-/

namespace Ps2Recomp.Recompiler

/-- `R5900Context::r`. -/
abbrev Gprs := Fin 32 → BitVec 128

namespace Gprs

variable (r : Gprs) (reg other : Fin 32)

/-- `GPR_U64`. -/
def u64 : BitVec 64 := if reg = 0 then 0 else (r reg).setWidth 64

/-- `GPR_U32`. -/
def u32 : BitVec 32 := if reg = 0 then 0 else (r reg).setWidth 32

/-- `SET_GPR_U64`: the upper doubleword stays. -/
def setU64 (value : BitVec 64) : Gprs :=
  if reg = 0 then r else Function.update r reg ((r reg).extractLsb' 64 64 ++ value)

/-- `SET_GPR_S32`: the word is sign-extended to the low doubleword. -/
def setS32 (value : BitVec 32) : Gprs := r.setU64 reg (value.signExtend 64)

theorem u32_setU64 (value : BitVec 64) :
    (r.setU64 reg value).u32 other =
      if other = reg ∧ reg ≠ 0 then value.setWidth 32 else r.u32 other := by
  unfold setU64
  by_cases hzero : reg = 0
  · simp [hzero]
  by_cases heq : other = reg
  · subst heq
    have hlow : ((r other).extractLsb' 64 64 ++ value).setWidth 32 = value.setWidth 32 := by
      rw [BitVec.setWidth_append, dif_pos (by decide)]
    simp [u32, hzero, hlow]
  · simp [u32, hzero, heq]

theorem u32_setS32 (value : BitVec 32) :
    (r.setS32 reg value).u32 other = if other = reg ∧ reg ≠ 0 then value else r.u32 other := by
  have hlow : (value.signExtend 64).setWidth 32 = value := by
    ext i hi
    rw [BitVec.getElem_setWidth, BitVec.getLsbD_signExtend]
    simp [hi, show i < 64 by omega]
  unfold setS32
  rw [u32_setU64, hlow]

end Gprs

end Ps2Recomp.Recompiler
