import Mathlib.Logic.Basic
import Ps2Recomp.Lib.FiniteIndices

/-!
# Fields of VU instructions, and the order of a pair (`ps2_vu1_detail.h`)

A pair has an upper and a lower word. `vuLowerShouldRunBeforeUpper` says which of the two the
interpreter, and the IR decoder, take first: the lower one if it reads or writes the VF register
that the upper one writes. The fields are natural numbers, the register masks words.
-/

namespace Ps2Recomp

/-- An upper or lower instruction. -/
abbrev VuWord := BitVec 32

/-! ## Fields -/

namespace VuWord

variable (i : VuWord)

def DEST : ℕ := (i >>> 21 &&& 0xF).toNat
def FT : ℕ := (i >>> 16 &&& 0x1F).toNat
def FS : ℕ := (i >>> 11 &&& 0x1F).toNat
def FD : ℕ := (i >>> 6 &&& 0x1F).toNat
def BC : ℕ := (i &&& 0x3).toNat

def LIT : ℕ := (i >>> 16 &&& 0x1F).toNat
def LIS : ℕ := (i >>> 11 &&& 0x1F).toNat
def VIT : ℕ := (i >>> 16 &&& 0xF).toNat
def VIS : ℕ := (i >>> 11 &&& 0xF).toNat
def VID : ℕ := (i >>> 6 &&& 0xF).toNat

/-- `IMM11`: eleven bits with their sign. -/
def IMM11 : BitVec 16 := (i.setWidth 11).signExtend 16

/-- `IMM15`: fifteen bits with their sign, from two places. -/
def IMM15 : BitVec 16 := ((i >>> 21).setWidth 4 ++ i.setWidth 11 : BitVec 15).signExtend 16

def upperPrimary : ℕ := (i &&& 0x3F).toNat

/-- The opcode of a special instruction, upper or lower. -/
def specialOp : ℕ := ((i &&& 0x3) ||| (i >>> 4 &&& 0x7C)).toNat

def lowerPrimary : ℕ := (i >>> 25 &&& 0x7F).toNat

end VuWord

/-! ## The order of a pair -/

/-- `vuUpperVfWriteReg`; 0 is none. -/
def vuUpperVfWriteReg (upper : VuWord) : ℕ :=
  let op := upper.upperPrimary
  if upper.DEST = 0 then 0
  else if op ≤ 0x2F then upper.FD
  else if op ≥ 0x3C then
    -- the special operations that write a VF register have it in FT
    match upper.specialOp with
    | 0x10 | 0x11 | 0x12 | 0x13 | 0x14 | 0x15 | 0x16 | 0x17 | 0x1D => upper.FT
    | _ => 0
  else 0

/-- `vuSetRegBit`. -/
def vuSetRegBit (mask : BitVec 32) (reg : ℕ) : BitVec 32 :=
  if reg ≠ 0 ∧ reg < 32 then mask ||| 1#32 <<< reg else mask

theorem getLsbD_vuSetRegBit (mask : BitVec 32) (reg : ℕ) (r : Fin 32) :
    (vuSetRegBit mask reg).getLsbD r.val =
      (mask.getLsbD r.val || decide (reg = r.val ∧ r ≠ 0)) := by
  unfold vuSetRegBit
  split
  next h =>
    rw [BitVec.getLsbD_or, BitVec.getLsbD_shiftLeft]
    by_cases hr : reg = r.val
    · have hne : r ≠ 0 := fun hzero => h.1 (hr.trans (congrArg Fin.val hzero))
      simp [hr, hne, r.isLt]
    · have hbit : (1#32).getLsbD (r.val - reg) = decide (r.val - reg = 0) := by
        rw [BitVec.getLsbD_one]
        simp
      have hlt := r.isLt
      simp only [hbit, hr, false_and, decide_false, Bool.or_false]
      by_cases hle : r.val < reg
      · simp [hle]
      · simp [show r.val - reg ≠ 0 by omega]
  next h =>
    have hnot : ¬(reg = r.val ∧ r ≠ 0) := by
      rintro ⟨hr, hne⟩
      exact h ⟨fun hzero => hne (Fin.ext (hr.symm.trans hzero)), hr ▸ r.isLt⟩
    simp [hnot]

/-- `vuLowerVfReadWriteMasks`: what is read and what is written. -/
def vuLowerVfReadWriteMasks (lower : VuWord) : BitVec 32 × BitVec 32 :=
  let it := lower.LIT
  let is := lower.LIS
  let regs (regs : List ℕ) : BitVec 32 := regs.foldl vuSetRegBit 0
  if lower = 0 ∨ lower = 0x8000033C#32 then (0, 0)
  else if lower &&& 0x80000000#32 ≠ 0 then
    if (lower &&& 0x3F#32).toNat ≥ 0x3C then
      match lower.specialOp with
      | 0x30 | 0x31 => (regs [is], regs [it])
      | 0x34 | 0x36 => (0, regs [it])
      | 0x35 | 0x37 => (regs [is], 0)
      | 0x38 | 0x3A => (regs [is, it], 0)
      | 0x39 => (regs [it], 0)
      | 0x3C => (regs [is], 0)
      | 0x3E => (0, 0)
      | 0x3D | 0x64 => (0, regs [it])
      | 0x40 | 0x41 => (0, regs [it])
      | 0x42 | 0x43 | 0x70 | 0x71 | 0x72 | 0x73 | 0x74 | 0x75 | 0x76 | 0x78 | 0x79 | 0x7A | 0x7C
      | 0x7D | 0x7E => (regs [is], 0)
      | _ => (0, 0)
    else (0, 0)
  else
    match lower.lowerPrimary with
    | 0x00 => (0, regs [it])
    | 0x01 => (regs [is], 0)
    | _ => (0, 0)

def vuLowerShouldRunBeforeUpper (upper lower : VuWord) : Bool :=
  let upperWrite := vuUpperVfWriteReg upper
  if upperWrite = 0 then false
  else
    let (lowerReads, lowerWrites) := vuLowerVfReadWriteMasks lower
    (lowerReads ||| lowerWrites) &&& 1#32 <<< upperWrite ≠ 0

/-- The lower instruction runs first where its masks have the register that the upper one writes. -/
theorem vuLowerShouldRunBeforeUpper_of_bit {upper lower : VuWord} {r : Fin 32} (hr : r ≠ 0)
    (hupper : vuUpperVfWriteReg upper = r.val)
    (hbit : ((vuLowerVfReadWriteMasks lower).1 ||| (vuLowerVfReadWriteMasks lower).2).getLsbD r.val =
      true) : vuLowerShouldRunBeforeUpper upper lower = true := by
  have hone : (1#32 <<< r.val).getLsbD r.val = true := by
    rw [BitVec.getLsbD_shiftLeft]
    simp [r.isLt]
  have hne : r.val ≠ 0 := fun hzero => hr (Fin.ext hzero)
  unfold vuLowerShouldRunBeforeUpper
  dsimp only
  rw [hupper, if_neg hne, decide_eq_true_eq]
  intro hzero
  have htest : _ = (0#32).getLsbD r.val := congrArg (BitVec.getLsbD · r.val) hzero
  rw [BitVec.getLsbD_and, hbit, hone, BitVec.getLsbD_zero] at htest
  cases htest

end Ps2Recomp
