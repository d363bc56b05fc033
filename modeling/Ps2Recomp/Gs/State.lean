import Mathlib.Data.Nat.Size
import Mathlib.Data.Rat.Defs
import Mathlib.Logic.Function.Basic
import Ps2Recomp.Gs.ImageUpload

/-!
# GS: registers and state

The state of `GS` (`ps2_gs_gpu.h`, `ps2_gs_types.h`): the registers, the vertex queue, the transfer
and the local memory.

* Fields of registers are numbers, of the width that a write gives them. The records of the same
  names outside `GS` hold the fields that a transfer or a footprint takes.
* The floats `q`, `s` and `t` are the 32 bits of the packet. The positions of a vertex are exact as
  floats; `z` is a double and holds a whole number.
* The rasterizer is a parameter (`GsRasterizer`). A draw is executed where it is issued: that the
  rasterizer gathers draws in batches and flushes them before a transfer changes no memory that is
  looked at, and is left out. `draws` is not in the source: the draws that were issued, in order.
* `m_vram` is never moved; `hasVram` says whether it is there. The statistics, the traces, the
  debug history and the presentation are left out.
-/

namespace Ps2Recomp.GS

open BitMemory (Memory)

inductive GSPrimType
  | POINT | LINE | LINESTRIP | TRIANGLE | TRISTRIP | TRIFAN | SPRITE | reserved
  deriving DecidableEq

/-- The three bits of PRIM. -/
def GSPrimType.ofBits : Nat → GSPrimType
  | 0 => .POINT
  | 1 => .LINE
  | 2 => .LINESTRIP
  | 3 => .TRIANGLE
  | 4 => .TRISTRIP
  | 5 => .TRIFAN
  | 6 => .SPRITE
  | _ => .reserved

structure GSPrimReg where
  type : GSPrimType := .POINT
  iip : Bool := false
  tme : Bool := false
  fge : Bool := false
  abe : Bool := false
  aa1 : Bool := false
  fst : Bool := false
  ctxt : Bool := false
  fix : Bool := false
  deriving DecidableEq

structure GSVertex where
  x : Rat := 0
  y : Rat := 0
  z : Nat := 0
  r : Nat := 0
  g : Nat := 0
  b : Nat := 0
  a : Nat := 0
  q : BitVec 32 := 0
  s : BitVec 32 := 0
  t : BitVec 32 := 0
  u : Nat := 0
  v : Nat := 0
  fog : Nat := 0
  x12_4 : Nat := 0
  y12_4 : Nat := 0
  zInteger : Nat := 0
  deriving DecidableEq

structure GSFrameReg where
  fbp : Nat := 0
  fbw : Nat := 0
  psm : Nat := 0
  fbmsk : Nat := 0

structure GSZbufReg where
  zbp : Nat := 0
  psm : Nat := 0
  zmask : Bool := false

structure GSScissorReg where
  x0 : Nat := 0
  x1 : Nat := 0
  y0 : Nat := 0
  y1 : Nat := 0

structure GSTex0Reg where
  tbp0 : Nat := 0
  tbw : Nat := 0
  psm : Nat := 0
  tw : Nat := 0
  th : Nat := 0
  tcc : Nat := 0
  tfx : Nat := 0
  cbp : Nat := 0
  cpsm : Nat := 0
  csm : Nat := 0
  csa : Nat := 0
  cld : Nat := 0

structure GSXYOffsetReg where
  ofx : Nat := 0
  ofy : Nat := 0

structure GSTexaReg where
  ta0 : Nat := 0
  aem : Bool := false
  ta1 : Nat := 0

structure GSTexClutReg where
  cbw : Nat := 0
  cou : Nat := 0
  cov : Nat := 0

structure GSContext where
  frame : GSFrameReg := { fbw := 10 }
  scissor : GSScissorReg := { x1 := 639, y1 := 447 }
  tex0 : GSTex0Reg := {}
  xyoffset : GSXYOffsetReg := {}
  zbuf : GSZbufReg := {}
  tex1 : BitVec 64 := 0
  miptbp1 : BitVec 64 := 0
  miptbp2 : BitVec 64 := 0
  clamp : BitVec 64 := 0
  alpha : BitVec 64 := 0
  test : BitVec 64 := 0
  fba : BitVec 64 := 0

structure GSBitBltBuf where
  sbp : Nat := 0
  sbw : Nat := 0
  spsm : Nat := 0
  dbp : Nat := 0
  dbw : Nat := 0
  dpsm : Nat := 0

structure GSTrxPos where
  ssax : Nat := 0
  ssay : Nat := 0
  dsax : Nat := 0
  dsay : Nat := 0
  dir : Nat := 0

/-- The registers that a draw takes besides PRIM and its context. -/
structure GsDrawGlobalState where
  texa : GSTexaReg := {}
  texclut : GSTexClutReg := {}
  fogColor : Nat := 0
  dimx : BitVec 64 := 0
  scanMask : Nat := 0
  prmodecont : Bool := true
  pabe : Bool := false
  dither : Bool := false
  colorClamp : Bool := false

/-- The attributes of the next vertex. -/
structure GsAttributes where
  r : Nat := 0x80
  g : Nat := 0x80
  b : Nat := 0x80
  a : Nat := 0x80
  q : BitVec 32 := 0x3F800000
  s : BitVec 32 := 0
  t : BitVec 32 := 0
  u : Nat := 0
  v : Nat := 0
  fog : Nat := 0

/-- A draw that is handed to the rasterizer. -/
structure GsDraw where
  sequence : Nat
  primitive : GSPrimReg
  context : GSContext
  vertices : List GSVertex
  globalState : GsDrawGlobalState

inductive GsPrivilegedSideEffect
  | signal (id mask : BitVec 32)
  | finish
  | label (id mask : BitVec 32)

structure GSRegisters where
  siglblid : BitVec 64
  csr : BitVec 64

abbrev kMaxVerts : Nat := 6

def UINT64_MAX : Nat := 2 ^ 64 - 1

variable {ρ : Type*}

/-- The rasterizer, with a state of its own. -/
structure GsRasterizer (ρ : Type*) where
  /-- What a draw does to the local memory. -/
  draw : GsDraw → Memory → ρ → Memory × ρ
  updateClutCache : GSTex0Reg → GSTexClutReg → Memory → ρ → ρ
  /-- The host memory behind the eight bytes of a write to HWREG. -/
  behindHwreg : Memory

structure GsState (ρ : Type*) where
  prim : GSPrimReg := {}
  /-- `m_ctx`: the second context is `true`. -/
  ctx : Bool → GSContext := fun _ => {}
  global : GsDrawGlobalState := {}
  cur : GsAttributes := {}
  bitbltbuf : GSBitBltBuf := {}
  trxpos : GSTrxPos := {}
  trxreg : GSTrxReg := ⟨0, 0⟩
  trxdir : Nat := 3
  transferState : GSTransferState := {}
  localToHostBuffer : List UInt8 := []
  localToHostReadPos : Nat := 0
  vtxQueue : Fin kMaxVerts → GSVertex := fun _ => {}
  vtxCount : Nat := 0
  vtxIndex : Nat := 0
  nextDrawSequence : Nat := 1
  drawCommandLimit : Nat := UINT64_MAX
  drawCommandLimitReached : Bool := false
  privRegs : Option GSRegisters := none
  privilegedSideEffectSink : Option (List GsPrivilegedSideEffect) := none
  hasVram : Bool := true
  vram : Memory
  rasterizer : ρ
  draws : List GsDraw := []

/-! ## Fields of a value -/

/-- `(value >> shift) & (2 ^ width - 1)`. -/
def bits (value : BitVec 64) (shift width : Nat) : Nat := (value.extractLsb' shift width).toNat

theorem bits_lt (value : BitVec 64) (shift width : Nat) : bits value shift width < 2 ^ width :=
  BitVec.isLt _

def floatBits (value : BitVec 64) (shift : Nat) : BitVec 32 := value.extractLsb' shift 32

/-- `1.0f`. -/
def one : BitVec 32 := 0x3F800000

/-- Q is never zero, of either sign. -/
def nonzeroQ (q : BitVec 32) : BitVec 32 := if q &&& 0x7FFFFFFF = 0 then one else q

/-- The value of `static_cast<float>` of an unsigned number: 24 significant bits, with ties to
even. -/
def floatOfNat (n : Nat) : Nat :=
  let unit := 2 ^ (n.size - 24)
  let rest := n % unit
  if rest * 2 < unit ∨ (rest * 2 = unit ∧ n / unit % 2 = 0) then n / unit * unit
  else (n / unit + 1) * unit

/-- Numbers of 24 bits are floats. -/
theorem floatOfNat_of_lt {n : Nat} (h : n < 2 ^ 24) : floatOfNat n = n := by
  have hsize : n.size - 24 = 0 := Nat.sub_eq_zero_of_le (Nat.size_le.2 h)
  have hrest : n % 1 * 2 < 1 := by
    rw [Nat.mod_one]
    decide
  unfold floatOfNat
  rw [hsize]
  dsimp only
  rw [Nat.pow_zero, if_pos (.inl hrest), Nat.div_one, Nat.mul_one]

end Ps2Recomp.GS
