import Ps2Recomp.Vu.InterpreterState

/-!
# Upper instructions (`ps2_vu1_upper.cpp`, `ps2_vu_clip.h`)

`execUpper` is in two steps: which operation an instruction is and where its result goes
(`upperAction`, the `switch`), and what its result is (`UpperOp.result`).
-/

namespace Ps2Recomp.VuInterpreterBackend

/-! ## Operations -/

inductive FmacFunction where
  | add
  | sub
  | mul
  | madd
  | msub
  | max
  | mini
  deriving DecidableEq, Repr

/-- The second operand: `vt`, one lane of it, or a scalar register. -/
inductive FmacOperand where
  | vector
  | bc
  | q
  | i
  deriving DecidableEq, Repr

inductive UpperOp where
  | fmac (function : FmacFunction) (operand : FmacOperand)
  | opmsub
  | opmula
  | itof (scale : Option (BitVec 32))
  | ftoi (scale : BitVec 32)
  | abs
  deriving DecidableEq, Repr

inductive UpperAction where
  | vf (reg : ℕ) (op : UpperOp)
  | acc (op : UpperOp)
  | clip
  | nop
  deriving DecidableEq, Repr

/-- The second `switch` of `execUpper`. -/
def specialAction (instr : VuWord) : UpperAction :=
  match instr.specialOp with
  | 0x00 | 0x01 | 0x02 | 0x03 => .acc (.fmac .add .bc)
  | 0x04 | 0x05 | 0x06 | 0x07 => .acc (.fmac .sub .bc)
  | 0x08 | 0x09 | 0x0A | 0x0B => .acc (.fmac .madd .bc)
  | 0x0C | 0x0D | 0x0E | 0x0F => .acc (.fmac .msub .bc)
  | 0x10 => .vf instr.FT (.itof none)
  | 0x11 => .vf instr.FT (.itof (some 0x41800000#32))
  | 0x12 => .vf instr.FT (.itof (some 0x45800000#32))
  | 0x13 => .vf instr.FT (.itof (some 0x47000000#32))
  | 0x14 => .vf instr.FT (.ftoi 0x3F800000#32)
  | 0x15 => .vf instr.FT (.ftoi 0x41800000#32)
  | 0x16 => .vf instr.FT (.ftoi 0x45800000#32)
  | 0x17 => .vf instr.FT (.ftoi 0x47000000#32)
  | 0x18 | 0x19 | 0x1A | 0x1B => .acc (.fmac .mul .bc)
  | 0x1C => .acc (.fmac .mul .q)
  | 0x1D => .vf instr.FT .abs
  | 0x1E => .acc (.fmac .mul .i)
  | 0x1F => .clip
  | 0x20 => .acc (.fmac .add .q)
  | 0x21 => .acc (.fmac .madd .q)
  | 0x22 => .acc (.fmac .add .i)
  | 0x23 => .acc (.fmac .madd .i)
  | 0x24 => .acc (.fmac .sub .q)
  | 0x25 => .acc (.fmac .msub .q)
  | 0x26 => .acc (.fmac .sub .i)
  | 0x27 => .acc (.fmac .msub .i)
  | 0x28 => .acc (.fmac .add .vector)
  | 0x29 => .acc (.fmac .madd .vector)
  | 0x2A => .acc (.fmac .mul .vector)
  | 0x2C => .acc (.fmac .sub .vector)
  | 0x2D => .acc (.fmac .msub .vector)
  | 0x2E => .acc .opmula
  | _ => .nop

/-- The `switch` of `execUpper`. -/
def upperAction (instr : VuWord) : UpperAction :=
  match instr.upperPrimary with
  | 0x00 | 0x01 | 0x02 | 0x03 => .vf instr.FD (.fmac .add .bc)
  | 0x04 | 0x05 | 0x06 | 0x07 => .vf instr.FD (.fmac .sub .bc)
  | 0x08 | 0x09 | 0x0A | 0x0B => .vf instr.FD (.fmac .madd .bc)
  | 0x0C | 0x0D | 0x0E | 0x0F => .vf instr.FD (.fmac .msub .bc)
  | 0x10 | 0x11 | 0x12 | 0x13 => .vf instr.FD (.fmac .max .bc)
  | 0x14 | 0x15 | 0x16 | 0x17 => .vf instr.FD (.fmac .mini .bc)
  | 0x18 | 0x19 | 0x1A | 0x1B => .vf instr.FD (.fmac .mul .bc)
  | 0x1C => .vf instr.FD (.fmac .mul .q)
  | 0x1D => .vf instr.FD (.fmac .max .i)
  | 0x1E => .vf instr.FD (.fmac .mul .i)
  | 0x1F => .vf instr.FD (.fmac .mini .i)
  | 0x20 => .vf instr.FD (.fmac .add .q)
  | 0x21 => .vf instr.FD (.fmac .madd .q)
  | 0x22 => .vf instr.FD (.fmac .add .i)
  | 0x23 => .vf instr.FD (.fmac .madd .i)
  | 0x24 => .vf instr.FD (.fmac .sub .q)
  | 0x25 => .vf instr.FD (.fmac .msub .q)
  | 0x26 => .vf instr.FD (.fmac .sub .i)
  | 0x27 => .vf instr.FD (.fmac .msub .i)
  | 0x28 => .vf instr.FD (.fmac .add .vector)
  | 0x29 => .vf instr.FD (.fmac .madd .vector)
  | 0x2A => .vf instr.FD (.fmac .mul .vector)
  | 0x2B => .vf instr.FD (.fmac .max .vector)
  | 0x2C => .vf instr.FD (.fmac .sub .vector)
  | 0x2D => .vf instr.FD (.fmac .msub .vector)
  | 0x2E => .vf instr.FD .opmsub
  | 0x2F => .vf instr.FD (.fmac .mini .vector)
  | 0x3C | 0x3D | 0x3E | 0x3F => specialAction instr
  | _ => .nop

/-! ## Results -/

variable (fl : HostFloat)

def vuMadd (accumulator multiplicand multiplier : BitVec 32) : BitVec 32 :=
  fl.fma multiplicand multiplier accumulator

def vuMsub (accumulator multiplicand multiplier : BitVec 32) : BitVec 32 :=
  fl.fma (negate multiplicand) multiplier accumulator

def isNan (value : BitVec 32) : Bool :=
  value &&& 0x7F800000#32 = 0x7F800000#32 && value &&& 0x007FFFFF#32 ≠ 0

def vuFtoi (value scale : BitVec 32) : BitVec 32 :=
  let scaled := fl.mul value scale
  if isNan scaled then 0x80000000#32
  else if fl.lt 0x4EFFFFFF#32 scaled then 0x7FFFFFFF#32
  else if fl.le scaled 0xCF000000#32 then 0x80000000#32
  else fl.toInt scaled

def FmacFunction.apply (acc vs operand : BitVec 32) : FmacFunction → BitVec 32
  | .add => fl.add vs operand
  | .sub => fl.sub vs operand
  | .mul => fl.mul vs operand
  | .madd => vuMadd fl acc vs operand
  | .msub => vuMsub fl acc vs operand
  | .max => if fl.lt operand vs then vs else operand
  | .mini => if fl.lt vs operand then vs else operand

variable {ξ : Type}

def FmacOperand.value (state : VuState ξ) (instr : VuWord) (c : Fin 4) : FmacOperand → BitVec 32
  | .vector => state.vfOf instr.FT c
  | .bc => broadcast (state.vfOf instr.FT) instr.BC
  | .q => state.q
  | .i => state.i

/-- Lane `c` of `result`. -/
def UpperOp.result (state : VuState ξ) (instr : VuWord) (c : Fin 4) : UpperOp → BitVec 32
  | .fmac function operand =>
    function.apply fl (state.acc c) (state.vfOf instr.FS c) (operand.value state instr c)
  | .opmsub =>
    if c = 3 then 0
    else
      fl.sub (state.acc c)
        (fl.mul (state.vfOf instr.FS (opLanes c).1) (state.vfOf instr.FT (opLanes c).2))
  | .opmula =>
    if c = 3 then 0
    else fl.mul (state.vfOf instr.FS (opLanes c).1) (state.vfOf instr.FT (opLanes c).2)
  | .itof scale =>
    let converted := fl.ofInt (state.vfOf instr.FS c)
    scale.elim converted (fl.div converted)
  | .ftoi scale => vuFtoi fl (state.vfOf instr.FS c) scale
  | .abs => fl.fabs (state.vfOf instr.FS c)
where
  /-- The lanes of `vs` and `vt` in an outer product. -/
  opLanes : Fin 4 → Fin 4 × Fin 4
    | 0 => (1, 2)
    | 1 => (2, 0)
    | _ => (0, 1)

/-! ## Flags -/

/-- Which operations write MAC, by the primary or the special opcode. -/
def macOp (op : ℕ) : Bool :=
  op ≤ 0x0F || (op ≥ 0x18 && op ≤ 0x1C) || op = 0x1E || (op ≥ 0x20 && op ≤ 0x2A) ||
    (op ≥ 0x2C && op ≤ 0x2E)

def writesMacFlags (instr : VuWord) : Bool :=
  macOp instr.upperPrimary || (instr.upperPrimary ≥ 0x3C && macOp instr.specialOp)

def preserveUnselectedFlags (instr : VuWord) : Bool :=
  instr.upperPrimary = 0x2E || (instr.upperPrimary ≥ 0x3C && instr.specialOp = 0x2E)

/-- `Ps2VuUpdateClipFlags`. -/
def Ps2VuUpdateClipFlags (previous xBits yBits zBits wBits : BitVec 32) : BitVec 32 :=
  let magnitude := if wBits &&& 0x7F800000#32 ≠ 0 then wBits &&& 0x7FFFFFFF#32 else 0x007FFFFF#32
  let outsidePositive (bits : BitVec 32) : Bool := magnitude.slt bits
  let outsideNegative (bits : BitVec 32) : Bool := magnitude.slt (bits ^^^ 0x80000000#32)
  let flag (condition : Bool) (bit : BitVec 32) : BitVec 32 := if condition then bit else 0
  let flags :=
    flag (outsidePositive xBits) 0x01#32 ||| flag (outsideNegative xBits) 0x02#32 |||
      flag (outsidePositive yBits) 0x04#32 ||| flag (outsideNegative yBits) 0x08#32 |||
      flag (outsidePositive zBits) 0x10#32 ||| flag (outsideNegative zBits) 0x20#32
  (previous <<< 6 ||| flags) &&& 0x00FFFFFF#32

/-- The flags of a result, where the instruction has them. -/
def scheduleMac (instr : VuWord) (result : Lanes) (state : VuState ξ) : VuState ξ :=
  if writesMacFlags instr then
    state.scheduleFmacFlags result instr.DEST (preserveUnselectedFlags instr)
  else state

def execUpper (instr : VuWord) (state : VuState ξ) : VuState ξ :=
  match upperAction instr with
  | .vf reg op =>
    let result c := op.result fl state instr c
    scheduleMac instr result (state.writeVf reg result instr.DEST)
  | .acc op =>
    let result c := op.result fl state instr c
    scheduleMac instr result (state.applyDestAcc result instr.DEST)
  | .clip =>
    let vs := state.vfOf instr.FS
    state.scheduleClipFlags (Ps2VuUpdateClipFlags state.rest.pipeline.workingClip (vs 0) (vs 1) (vs 2)
      (state.vfOf instr.FT 3))
  | .nop => state

end Ps2Recomp.VuInterpreterBackend
