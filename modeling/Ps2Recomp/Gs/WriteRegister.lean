import Ps2Recomp.Gs.State

/-!
# GS: register writes

`vertexKick`, `writeRegister` and `writeRegisterPacked` of `ps2_gs_gpu.cpp`, with the transfers that
a write to TRXDIR starts. Eight decoders write a vertex, each from its own bits, before the kick
that they share.

A `psm` that is no format reads zero and writes nothing.
-/

namespace Ps2Recomp.GS

open BitMemory (Memory)
open GSMem (PixelStorageMode)

inductive GSRegId
  | PRIM | RGBAQ | ST | UV | XYZF2 | XYZ2 | TEX0 (ci : Bool) | CLAMP (ci : Bool) | FOG | XYZF3 | XYZ3
  | TEX1 (ci : Bool) | TEX2 (ci : Bool) | XYOFFSET (ci : Bool) | PRMODECONT | PRMODE | TEXCLUT
  | SCANMSK | MIPTBP1 (ci : Bool) | MIPTBP2 (ci : Bool) | TEXA | FOGCOL | TEXFLUSH
  | SCISSOR (ci : Bool) | ALPHA (ci : Bool) | DIMX | DTHE | COLCLAMP | TEST (ci : Bool) | PABE
  | FBA (ci : Bool) | FRAME (ci : Bool) | ZBUF (ci : Bool) | BITBLTBUF | TRXPOS | TRXREG | TRXDIR
  | HWREG | SIGNAL | FINISH | LABEL | unknown

/-- The register at an address. The second register of a pair is for the second context. -/
def GSRegId.ofAddress : Nat → GSRegId
  | 0x00 => .PRIM
  | 0x01 => .RGBAQ
  | 0x02 => .ST
  | 0x03 => .UV
  | 0x04 => .XYZF2
  | 0x05 => .XYZ2
  | 0x06 => .TEX0 false
  | 0x07 => .TEX0 true
  | 0x08 => .CLAMP false
  | 0x09 => .CLAMP true
  | 0x0A => .FOG
  | 0x0C => .XYZF3
  | 0x0D => .XYZ3
  | 0x14 => .TEX1 false
  | 0x15 => .TEX1 true
  | 0x16 => .TEX2 false
  | 0x17 => .TEX2 true
  | 0x18 => .XYOFFSET false
  | 0x19 => .XYOFFSET true
  | 0x1A => .PRMODECONT
  | 0x1B => .PRMODE
  | 0x1C => .TEXCLUT
  | 0x22 => .SCANMSK
  | 0x34 => .MIPTBP1 false
  | 0x35 => .MIPTBP1 true
  | 0x36 => .MIPTBP2 false
  | 0x37 => .MIPTBP2 true
  | 0x3B => .TEXA
  | 0x3D => .FOGCOL
  | 0x3F => .TEXFLUSH
  | 0x40 => .SCISSOR false
  | 0x41 => .SCISSOR true
  | 0x42 => .ALPHA false
  | 0x43 => .ALPHA true
  | 0x44 => .DIMX
  | 0x45 => .DTHE
  | 0x46 => .COLCLAMP
  | 0x47 => .TEST false
  | 0x48 => .TEST true
  | 0x49 => .PABE
  | 0x4A => .FBA false
  | 0x4B => .FBA true
  | 0x4C => .FRAME false
  | 0x4D => .FRAME true
  | 0x4E => .ZBUF false
  | 0x4F => .ZBUF true
  | 0x50 => .BITBLTBUF
  | 0x51 => .TRXPOS
  | 0x52 => .TRXREG
  | 0x53 => .TRXDIR
  | 0x54 => .HWREG
  | 0x60 => .SIGNAL
  | 0x61 => .FINISH
  | 0x62 => .LABEL
  | _ => .unknown

/-- The format of a `psm` field. -/
def GSPsm.ofBits : Nat → Option PixelStorageMode
  | 0 => some .C32
  | 1 => some .C24
  | 2 => some .C16
  | 10 => some .C16S
  | 19 => some .P8
  | 20 => some .P4
  | 27 => some .P8H
  | 36 => some .P4HL
  | 44 => some .P4HH
  | 48 => some .Z32
  | 49 => some .Z24
  | 50 => some .Z16
  | 58 => some .Z16S
  | _ => none

def ReadVram (psm : Nat) (vram : Memory) (base bw x y : Nat) : Nat :=
  match GSPsm.ofBits psm with
  | some psm => psm.read vram base bw x y
  | none => 0

def WriteVram (psm : Nat) (vram : Memory) (base bw x y value : Nat) : Memory :=
  match GSPsm.ofBits psm with
  | some psm => psm.write vram base bw x y value
  | none => vram

/-- `BitsPerPixel`, with 32 for what is no format. -/
def bitsPerPixel (psm : Nat) : Nat :=
  match GSPsm.ofBits psm with
  | some psm => psm.BitsPerPixel
  | none => 32

variable {ρ : Type*}

namespace GsState

/-! ## Draws -/

/-- The vertices of a primitive, none for the reserved type. -/
def expectedVertexCount : GSPrimType → Nat
  | .POINT => 1
  | .LINE | .LINESTRIP | .SPRITE => 2
  | .TRIANGLE | .TRISTRIP | .TRIFAN => 3
  | .reserved => 0

def activeContext (s : GsState ρ) : GSContext := s.ctx s.prim.ctxt

/-- `buildGsDrawCommand` of `drawPrimitive`. -/
def buildGsDrawCommand (s : GsState ρ) : GsDraw where
  sequence := s.nextDrawSequence
  primitive := s.prim
  context := s.activeContext
  vertices := (List.ofFn s.vtxQueue).take (expectedVertexCount s.prim.type)
  globalState := s.global

def drawPrimitive (env : GsRasterizer ρ) (s : GsState ρ) : GsState ρ :=
  let command := s.buildGsDrawCommand
  let (vram, rasterizer) := env.draw command s.vram s.rasterizer
  { s with
    nextDrawSequence := s.nextDrawSequence + 1
    draws := s.draws ++ [command]
    vram, rasterizer }

/-- A completed primitive is taken off the queue, or leaves what the next one of a strip or fan
shares with it. -/
def rollQueue (s : GsState ρ) : GsState ρ :=
  match s.prim.type with
  | .LINE | .TRIANGLE | .SPRITE | .POINT | .reserved => { s with vtxCount := 0 }
  | .LINESTRIP =>
      { s with vtxQueue := Function.update s.vtxQueue 0 (s.vtxQueue 1), vtxCount := 1 }
  | .TRISTRIP =>
      { s with
        vtxQueue :=
          Function.update (Function.update s.vtxQueue 0 (s.vtxQueue 1)) 1 (s.vtxQueue 2)
        vtxCount := 2 }
  | .TRIFAN =>
      { s with vtxQueue := Function.update s.vtxQueue 1 (s.vtxQueue 2), vtxCount := 2 }

/-- The draw of `vertexKick`, and whether it was the last one allowed. -/
def kickDraw (env : GsRasterizer ρ) (s : GsState ρ) : GsState ρ :=
  let s := s.drawPrimitive env
  if s.drawCommandLimit ≠ UINT64_MAX ∧ s.nextDrawSequence - 1 ≥ s.drawCommandLimit then
    { s with drawCommandLimitReached := true }
  else s

def vertexKick (env : GsRasterizer ρ) (s : GsState ρ) (drawing : Bool) : GsState ρ :=
  let s := { s with vtxCount := s.vtxCount + 1, vtxIndex := s.vtxIndex + 1 }
  if s.prim.type = .reserved then s
  else if s.vtxCount < expectedVertexCount s.prim.type then s
  else
    (if drawing && !s.drawCommandLimitReached then s.kickDraw env else s).rollQueue

/-- The slot of the next vertex. -/
def slot (s : GsState ρ) : Fin kMaxVerts := ⟨s.vtxCount % kMaxVerts, Nat.mod_lt _ (by decide)⟩

/-- A vertex with the current attributes. -/
def vertex (s : GsState ρ) (x y zInteger z fog : Nat) : GSVertex where
  x := x / 16
  y := y / 16
  z := z
  r := s.cur.r
  g := s.cur.g
  b := s.cur.b
  a := s.cur.a
  q := s.cur.q
  s := s.cur.s
  t := s.cur.t
  u := s.cur.u
  v := s.cur.v
  fog := fog
  x12_4 := x
  y12_4 := y
  zInteger := zInteger

/-- Write a vertex into its slot, and kick. -/
def submitVertex (env : GsRasterizer ρ) (s : GsState ρ) (vertex : GSVertex) (drawing : Bool) :
    GsState ρ :=
  { s with vtxQueue := Function.update s.vtxQueue s.slot vertex }.vertexKick env drawing

/-! ## Transfers -/

/-- The pixel of the given number, between buffers. DIR tells the order of the pixels. -/
def copyPixel (s : GsState ρ) (vram : Memory) (pixel_count : Nat) : Memory :=
  let column := pixel_count % s.trxreg.rrw
  let row := pixel_count / s.trxreg.rrw
  let x := if s.trxpos.dir = 2 ∨ s.trxpos.dir = 3 then s.trxreg.rrw - column - 1 else column
  let y := if s.trxpos.dir = 1 ∨ s.trxpos.dir = 3 then s.trxreg.rrh - row - 1 else row
  WriteVram s.bitbltbuf.dpsm vram s.bitbltbuf.dbp s.bitbltbuf.dbw (x + s.trxpos.dsax)
    (y + s.trxpos.dsay)
    (ReadVram s.bitbltbuf.spsm vram s.bitbltbuf.sbp s.bitbltbuf.sbw (x + s.trxpos.ssax)
      (y + s.trxpos.ssay))

def performLocalToLocalTransfer (s : GsState ρ) : GsState ρ :=
  if !s.hasVram then s
  else
    let total_pixels := s.trxreg.rrw * s.trxreg.rrh
    { s with vram := (List.range total_pixels).foldl s.copyPixel s.vram, trxdir := 3 }

/-- The bytes of a pixel, or of two for four bits. -/
def readPixel (s : GsState ρ) (pixel_count : Nat) : List UInt8 :=
  let sbw := max s.bitbltbuf.sbw 1
  let x := pixel_count % s.trxreg.rrw + s.trxpos.ssax
  let y := pixel_count / s.trxreg.rrw + s.trxpos.ssay
  let v := ReadVram s.bitbltbuf.spsm s.vram s.bitbltbuf.sbp sbw x y
  match bitsPerPixel s.bitbltbuf.spsm with
  | 32 => [.ofNat v, .ofNat (v >>> 8), .ofNat (v >>> 16), .ofNat (v >>> 24)]
  | 24 => [.ofNat v, .ofNat (v >>> 8), .ofNat (v >>> 16)]
  | 16 => [.ofNat v, .ofNat (v >>> 8)]
  | 8 => [.ofNat v]
  | 4 =>
      let v2 := ReadVram s.bitbltbuf.spsm s.vram s.bitbltbuf.sbp sbw (x + 1) y
      [.ofNat (v ||| ((v2 &&& 0xF) <<< 4))]
  | _ => []

def readbackLoop (s : GsState ρ) (pixel_total pixel_count : Nat) : List UInt8 :=
  if pixel_count < pixel_total then
    let next := if bitsPerPixel s.bitbltbuf.spsm = 4 then pixel_count + 2 else pixel_count + 1
    s.readPixel pixel_count ++ s.readbackLoop pixel_total next
  else []
termination_by pixel_total - pixel_count
decreasing_by
  split <;> omega

def performLocalToHostToBuffer (s : GsState ρ) : GsState ρ :=
  { s with
    localToHostBuffer :=
      if s.hasVram then s.readbackLoop (s.trxreg.rrw * s.trxreg.rrh) 0 else []
    localToHostReadPos := 0 }

/-- What an upload sees of the state. -/
def transfer (s : GsState ρ) (dpsm : PixelStorageMode) : GsTransfer where
  bitbltbuf := ⟨s.bitbltbuf.dbp, s.bitbltbuf.dbw, dpsm⟩
  trxpos := ⟨s.trxpos.dsax, s.trxpos.dsay⟩
  trxreg := s.trxreg
  trxdir := s.trxdir
  transferState := s.transferState
  vram := s.vram

def processImageData (s : GsState ρ) (data : Memory) (sizeBytes : Nat) : GsState ρ :=
  if !s.hasVram then s
  else
    match GSPsm.ofBits s.bitbltbuf.dpsm with
    | none => s
    | some dpsm =>
        let transfer := (s.transfer dpsm).processImageData data sizeBytes
        { s with
          trxdir := transfer.trxdir
          transferState := transfer.transferState
          vram := transfer.vram }

/-! ## Registers -/

def modifyContext (s : GsState ρ) (ci : Bool) (f : GSContext → GSContext) : GsState ρ :=
  { s with ctx := Function.update s.ctx ci (f (s.ctx ci)) }

def modifyGlobal (s : GsState ρ) (f : GsDrawGlobalState → GsDrawGlobalState) : GsState ρ :=
  { s with global := f s.global }

def updateClutCache (env : GsRasterizer ρ) (s : GsState ρ) (ci : Bool) : GsState ρ :=
  if !s.hasVram then s
  else
    { s with
      rasterizer :=
        env.updateClutCache (s.ctx ci).tex0 s.global.texclut s.vram s.rasterizer }

def primAttributes (prim : GSPrimReg) (value : BitVec 64) : GSPrimReg where
  type := prim.type
  iip := value.getLsbD 3
  tme := value.getLsbD 4
  fge := value.getLsbD 5
  abe := value.getLsbD 6
  aa1 := value.getLsbD 7
  fst := value.getLsbD 8
  ctxt := value.getLsbD 9
  fix := value.getLsbD 10

def primOf (value : BitVec 64) : GSPrimReg :=
  primAttributes { type := .ofBits (bits value 0 3) } value

def writePrim (s : GsState ρ) (value : BitVec 64) : GsState ρ :=
  { s with prim := primOf value, vtxCount := 0, vtxIndex := 0 }

def tex0Of (value : BitVec 64) : GSTex0Reg where
  tbp0 := bits value 0 14
  tbw := bits value 14 6
  psm := bits value 20 6
  tw := bits value 26 4
  th := bits value 30 4
  tcc := bits value 34 1
  tfx := bits value 35 2
  cbp := bits value 37 14
  cpsm := bits value 51 4
  csm := bits value 55 1
  csa := bits value 56 5
  cld := bits value 61 3

/-- TEX2 replaces a part of TEX0. -/
def writeTex2 (tex0 : GSTex0Reg) (value : BitVec 64) : GSTex0Reg :=
  { tex0 with
    psm := bits value 20 6
    cbp := bits value 37 14
    cpsm := bits value 51 4
    csm := bits value 55 1
    csa := bits value 56 5
    cld := bits value 61 3 }

def writeTrxdir (s : GsState ρ) (value : BitVec 64) : GsState ρ :=
  let s :=
    { s with
      trxdir := bits value 0 2
      transferState :=
        { x := s.trxpos.dsax
          y := s.trxpos.dsay
          total_pixels := s.trxreg.rrw * s.trxreg.rrh
          copied_pixels := 0 } }
  if s.trxdir = 2 ∧ s.hasVram then s.performLocalToLocalTransfer
  else if s.trxdir = 1 ∧ s.hasVram then s.performLocalToHostToBuffer
  else s

/-- SIGNAL and LABEL replace the bits of a half of SIGLBLID that are in the mask. -/
def masked (old id mask : BitVec 32) : BitVec 32 := (old &&& ~~~mask) ||| (id &&& mask)

/-- A write to the privileged registers: to the sink, if there is one. -/
def privileged (s : GsState ρ) (effect : GsPrivilegedSideEffect)
    (write : GSRegisters → GSRegisters) : GsState ρ :=
  match s.privilegedSideEffectSink with
  | some sink => { s with privilegedSideEffectSink := some (sink ++ [effect]) }
  | none => { s with privRegs := s.privRegs.map write }

def writeSignal (s : GsState ρ) (id mask : BitVec 32) : GsState ρ :=
  s.privileged (.signal id mask) fun regs =>
    { siglblid :=
        (regs.siglblid &&& 0xFFFFFFFF00000000) |||
          (masked (regs.siglblid.setWidth 32) id mask).setWidth 64
      csr := regs.csr ||| 0x1 }

def writeLabel (s : GsState ρ) (id mask : BitVec 32) : GsState ρ :=
  s.privileged (.label id mask) fun regs =>
    { regs with
      siglblid :=
        ((masked (regs.siglblid.extractLsb' 32 32) id mask).setWidth 64 <<< 32) |||
          (regs.siglblid &&& 0xFFFFFFFF) }

def writeRegister (env : GsRasterizer ρ) (s : GsState ρ) (reg : GSRegId) (value : BitVec 64) :
    GsState ρ :=
  match reg with
  | .PRIM => s.writePrim value
  | .RGBAQ =>
      { s with
        cur :=
          { s.cur with
            r := bits value 0 8
            g := bits value 8 8
            b := bits value 16 8
            a := bits value 24 8
            q := nonzeroQ (floatBits value 32) } }
  | .ST => { s with cur := { s.cur with s := floatBits value 0, t := floatBits value 32 } }
  | .UV => { s with cur := { s.cur with u := bits value 0 14, v := bits value 16 14 } }
  | .XYZF2 =>
      s.submitVertex env
        (s.vertex (bits value 0 16) (bits value 16 16) (bits value 32 24) (bits value 32 24)
          (bits value 56 8)) true
  | .XYZF3 =>
      s.submitVertex env
        (s.vertex (bits value 0 16) (bits value 16 16) (bits value 32 24) (bits value 32 24)
          (bits value 56 8)) false
  | .XYZ2 =>
      s.submitVertex env
        (s.vertex (bits value 0 16) (bits value 16 16) (bits value 32 32) (bits value 32 32)
          s.cur.fog) true
  | .XYZ3 =>
      s.submitVertex env
        (s.vertex (bits value 0 16) (bits value 16 16) (bits value 32 32) (bits value 32 32)
          s.cur.fog) false
  | .TEX0 ci =>
      (s.modifyContext ci fun ctx => { ctx with tex0 := tex0Of value }).updateClutCache env ci
  | .CLAMP ci => s.modifyContext ci fun ctx => { ctx with clamp := value }
  | .FOG => { s with cur := { s.cur with fog := bits value 56 8 } }
  | .TEX1 ci => s.modifyContext ci fun ctx => { ctx with tex1 := value }
  | .MIPTBP1 ci => s.modifyContext ci fun ctx => { ctx with miptbp1 := value }
  | .MIPTBP2 ci => s.modifyContext ci fun ctx => { ctx with miptbp2 := value }
  | .TEX2 ci =>
      (s.modifyContext ci fun ctx => { ctx with tex0 := writeTex2 ctx.tex0 value }).updateClutCache
        env ci
  | .XYOFFSET ci =>
      s.modifyContext ci fun ctx =>
        { ctx with xyoffset := { ofx := bits value 0 16, ofy := bits value 32 16 } }
  | .PRMODECONT => s.modifyGlobal fun global => { global with prmodecont := value.getLsbD 0 }
  | .PRMODE => if s.global.prmodecont then s else { s with prim := primAttributes s.prim value }
  | .TEXCLUT =>
      s.modifyGlobal fun global =>
        { global with
          texclut := { cbw := bits value 0 6, cou := bits value 6 6, cov := bits value 12 10 } }
  | .SCISSOR ci =>
      s.modifyContext ci fun ctx =>
        { ctx with
          scissor :=
            { x0 := bits value 0 11
              x1 := bits value 16 11
              y0 := bits value 32 11
              y1 := bits value 48 11 } }
  | .ALPHA ci => s.modifyContext ci fun ctx => { ctx with alpha := value }
  | .TEST ci => s.modifyContext ci fun ctx => { ctx with test := value }
  | .FRAME ci =>
      s.modifyContext ci fun ctx =>
        { ctx with
          frame :=
            { fbp := bits value 0 9
              fbw := bits value 16 6
              psm := bits value 24 6
              fbmsk := bits value 32 32 } }
  | .ZBUF ci =>
      s.modifyContext ci fun ctx =>
        { ctx with
          zbuf :=
            { zbp := bits value 0 9
              psm := bits value 24 4 ||| 0x30
              zmask := value.getLsbD 32 } }
  | .FBA ci => s.modifyContext ci fun ctx => { ctx with fba := value }
  | .BITBLTBUF =>
      { s with
        bitbltbuf :=
          { sbp := bits value 0 14
            sbw := bits value 16 6
            spsm := bits value 24 6
            dbp := bits value 32 14
            dbw := bits value 48 6
            dpsm := bits value 56 6 } }
  | .TRXPOS =>
      { s with
        trxpos :=
          { ssax := bits value 0 11
            ssay := bits value 16 11
            dsax := bits value 32 11
            dsay := bits value 48 11
            dir := bits value 59 2 } }
  | .TRXREG => { s with trxreg := { rrw := bits value 0 12, rrh := bits value 32 12 } }
  | .TRXDIR => s.writeTrxdir value
  | .HWREG =>
      s.processImageData
        (GsTransfer.hostMemory (UploadCall.hwreg ⟨value⟩).payload env.behindHwreg) 8
  | .PABE => s.modifyGlobal fun global => { global with pabe := value.getLsbD 0 }
  | .FOGCOL => s.modifyGlobal fun global => { global with fogColor := bits value 0 24 }
  | .SCANMSK => s.modifyGlobal fun global => { global with scanMask := bits value 0 2 }
  | .DIMX => s.modifyGlobal fun global => { global with dimx := value }
  | .DTHE => s.modifyGlobal fun global => { global with dither := value.getLsbD 0 }
  | .COLCLAMP => s.modifyGlobal fun global => { global with colorClamp := value.getLsbD 0 }
  | .TEXA =>
      s.modifyGlobal fun global =>
        { global with
          texa := { ta0 := bits value 0 8, aem := value.getLsbD 15, ta1 := bits value 32 8 } }
  | .SIGNAL => s.writeSignal (value.extractLsb' 0 32) (value.extractLsb' 32 32)
  | .FINISH => s.privileged .finish fun regs => { regs with csr := regs.csr ||| 0x2 }
  | .LABEL => s.writeLabel (value.extractLsb' 0 32) (value.extractLsb' 32 32)
  | .TEXFLUSH | .unknown => s

/-! ## Descriptors of a PACKED tag -/

/-- ST and Q. -/
def packedSt (s : GsState ρ) (lo hi : BitVec 64) : GsState ρ :=
  { s with
    cur :=
      { s.cur with
        s := floatBits lo 0
        t := floatBits lo 32
        q := nonzeroQ (floatBits hi 0) } }

def packedRgba (s : GsState ρ) (lo hi : BitVec 64) : GsState ρ :=
  { s with
    cur :=
      { s.cur with
        r := bits lo 0 8
        g := bits lo 32 8
        b := bits hi 0 8
        a := bits hi 32 8 } }

/-- XYZF, whose depth goes through a float. -/
def packedXyzf (env : GsRasterizer ρ) (s : GsState ρ) (lo hi : BitVec 64) (drawing : Bool) :
    GsState ρ :=
  s.submitVertex env
    (s.vertex (bits lo 0 16) (bits lo 32 16) (bits hi 4 24) (floatOfNat (bits hi 4 24))
      (bits hi 36 8)) drawing

def packedXyz (env : GsRasterizer ρ) (s : GsState ρ) (lo hi : BitVec 64) (drawing : Bool) :
    GsState ρ :=
  s.submitVertex env
    (s.vertex (bits lo 0 16) (bits lo 32 16) (bits hi 0 32) (floatOfNat (bits hi 0 32))
      s.cur.fog) drawing

def writeRegisterPacked (env : GsRasterizer ρ) (s : GsState ρ) (regDesc : Nat)
    (lo hi : BitVec 64) : GsState ρ :=
  match regDesc with
  | 0x00 => s.writeRegister env .PRIM (lo &&& 0x7FF)
  | 0x01 => s.packedRgba lo hi
  | 0x02 => s.packedSt lo hi
  | 0x03 => { s with cur := { s.cur with u := bits lo 0 14, v := bits lo 32 14 } }
  | 0x04 => s.packedXyzf env lo hi !(hi.getLsbD 47)
  | 0x05 => s.packedXyz env lo hi !(hi.getLsbD 47)
  | 0x0A => { s with cur := { s.cur with fog := bits hi 36 8 } }
  | 0x0C => s.packedXyzf env lo hi false
  | 0x0D => s.packedXyz env lo hi false
  | 0x0E => s.writeRegister env (.ofAddress (bits hi 0 8)) lo
  | 0x0F => s
  | regDesc => s.writeRegister env (.ofAddress regDesc) lo

end GsState

end Ps2Recomp.GS
