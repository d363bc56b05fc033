import Ps2Recomp.Lib.RecordCodec

/-!
# The replay state of the GS and its bytes

Model of `encodeGsReplayState` and `decodeGsReplayState` (`ps2_gs_replay.cpp`) on the records of
`ps2_gs_types.h` and `ps2_gs_replay.h`, field by field with the widths they have there. Unlike the
registers of `GS`, whose fields a write has already cut, these may hold anything.

* Floats are their bit patterns. An enumeration is a number of its underlying type.
* `GsReplayState` is put together from parts, one for each group of fields that `decode` reports
  one error for; so is the rasterizer's state.
* The error text is `none` where the caller passes no string.
-/

namespace Ps2Recomp

namespace GsReplay

open ByteCodec

/-! ## Registers and vertices -/

abbrev FloatBits := UInt32
abbrev DoubleBits := UInt64

abbrev GSPrimType := UInt8

def GS_PRIM_SPRITE : GSPrimType := 6

@[ext] structure GSVertex where
  x : FloatBits
  y : FloatBits
  z : DoubleBits
  r : UInt8
  g : UInt8
  b : UInt8
  a : UInt8
  q : FloatBits
  s : FloatBits
  t : FloatBits
  u : UInt16
  v : UInt16
  fog : UInt8
  x12_4 : UInt16
  y12_4 : UInt16
  zInteger : UInt32

@[ext] structure GSFrameReg where
  fbp : UInt32
  fbw : UInt32
  psm : UInt8
  fbmsk : UInt32

@[ext] structure GSZbufReg where
  zbp : UInt32
  psm : UInt8
  zmask : Bool

@[ext] structure GSScissorReg where
  x0 : UInt16
  x1 : UInt16
  y0 : UInt16
  y1 : UInt16

@[ext] structure GSTex0Reg where
  tbp0 : UInt32
  tbw : UInt8
  psm : UInt8
  tw : UInt8
  th : UInt8
  tcc : UInt8
  tfx : UInt8
  cbp : UInt32
  cpsm : UInt8
  csm : UInt8
  csa : UInt8
  cld : UInt8

@[ext] structure GSXYOffsetReg where
  ofx : UInt16
  ofy : UInt16

@[ext] structure GSTexaReg where
  ta0 : UInt8
  aem : Bool
  ta1 : UInt8

@[ext] structure GSTexClutReg where
  cbw : UInt8
  cou : UInt8
  cov : UInt16

@[ext] structure GSContext where
  frame : GSFrameReg
  scissor : GSScissorReg
  tex0 : GSTex0Reg
  xyoffset : GSXYOffsetReg
  zbuf : GSZbufReg
  tex1 : UInt64
  miptbp1 : UInt64
  miptbp2 : UInt64
  clamp : UInt64
  alpha : UInt64
  test : UInt64
  fba : UInt64

@[ext] structure GSPrimReg where
  type : GSPrimType
  iip : Bool
  tme : Bool
  fge : Bool
  abe : Bool
  aa1 : Bool
  fst : Bool
  ctxt : Bool
  fix : Bool

@[ext] structure GSBitBltBuf where
  sbp : UInt32
  sbw : UInt8
  spsm : UInt8
  dbp : UInt32
  dbw : UInt8
  dpsm : UInt8

@[ext] structure GSTrxPos where
  ssax : UInt16
  ssay : UInt16
  dsax : UInt16
  dsay : UInt16
  dir : UInt8

@[ext] structure GSTrxReg where
  rrw : UInt16
  rrh : UInt16

/-! ## The replay state -/

def GS_REPLAY_STATE_VERSION : UInt32 := 1

abbrev GS_REPLAY_VERTEX_QUEUE_CAPACITY : ℕ := 6

abbrev GS_REPLAY_CLUT_ENTRY_COUNT : ℕ := 256

def GS_REPLAY_VRAM_SIZE : ℕ := 4 * 1024 * 1024

@[ext] structure GsReplayTransferState where
  x : UInt32
  y : UInt32
  totalPixels : UInt32
  copiedPixels : UInt32

@[ext] structure GsReplayFeedback where
  feedbackTextureBase : UInt32
  feedbackFrameBase : UInt32
  feedbackTexturePsm : UInt8
  feedbackFramePsm : UInt8
  feedbackTextureWidth : UInt8
  feedbackFrameWidth : UInt8
  feedbackSnapshotValid : Bool

@[ext] structure GsReplayDecodedClut where
  decodedClutGeneration : UInt64
  decodedClutTexa : UInt16
  decodedClutSourcePsm : UInt8
  decodedClutCsm : UInt8
  decodedClutCsa : UInt8
  decodedClutActive : Bool

@[ext] structure GsReplayRasterizerState extends GsReplayFeedback, GsReplayDecodedClut where
  feedbackVram : Bytes
  decodedClut : List.Vector UInt32 GS_REPLAY_CLUT_ENTRY_COUNT

@[ext] structure GsReplayFrontend where
  prim : GSPrimReg
  currentR : UInt8
  currentG : UInt8
  currentB : UInt8
  currentA : UInt8
  currentQ : FloatBits
  currentS : FloatBits
  currentT : FloatBits
  currentU : UInt16
  currentV : UInt16
  currentFog : UInt8
  fogColor : UInt32
  prmodecont : Bool
  pabe : Bool
  scanMask : UInt8
  dimx : UInt64
  dither : Bool
  colorClamp : Bool
  texa : GSTexaReg
  texclut : GSTexClutReg

@[ext] structure GsReplayTransfer where
  clutCacheGeneration : UInt64
  bitbltbuf : GSBitBltBuf
  trxpos : GSTrxPos
  trxreg : GSTrxReg
  trxdir : UInt32
  transfer : GsReplayTransferState
  vertexCount : Int32

@[ext] structure GsReplayState extends GsReplayFrontend, GsReplayTransfer where
  ctx : List.Vector GSContext 2
  clutCache : List.Vector UInt32 GS_REPLAY_CLUT_ENTRY_COUNT
  clutCacheFormat : List.Vector UInt8 GS_REPLAY_CLUT_ENTRY_COUNT
  clutCacheValid : List.Vector UInt8 GS_REPLAY_CLUT_ENTRY_COUNT
  clutCbp : List.Vector UInt32 2
  vertexQueue : List.Vector GSVertex GS_REPLAY_VERTEX_QUEUE_CAPACITY
  rasterizer : GsReplayRasterizerState

deriving instance Inhabited for GSVertex, GSFrameReg, GSZbufReg, GSScissorReg, GSTex0Reg,
  GSXYOffsetReg, GSTexaReg, GSTexClutReg, GSContext, GSPrimReg, GSBitBltBuf, GSTrxPos, GSTrxReg,
  GsReplayTransferState, GsReplayFeedback, GsReplayDecodedClut, GsReplayRasterizerState,
  GsReplayFrontend, GsReplayTransfer, GsReplayState

def validateReplayState (state : GsReplayState) : Except String Unit :=
  if state.prim.type > GS_PRIM_SPRITE then
    .error "invalid GS replay primitive type"
  else if state.scanMask > 3 then
    .error "invalid GS replay scan mask"
  else if state.trxdir > 3 then
    .error "invalid GS replay transfer direction"
  else if state.vertexCount < 0 ∨ state.vertexCount > 6 then
    .error "invalid GS replay vertex count"
  else if state.rasterizer.feedbackSnapshotValid ∧
      state.rasterizer.feedbackVram.length ≠ GS_REPLAY_VRAM_SIZE then
    .error "valid GS feedback snapshot is not exactly 4 MiB"
  else if ¬ state.rasterizer.feedbackSnapshotValid ∧ state.rasterizer.feedbackVram ≠ [] then
    .error "invalid GS feedback snapshot contains VRAM bytes"
  else if ∃ valid ∈ state.clutCacheValid.toList, valid > 1 then
    .error "invalid GS CLUT cache-valid flag"
  else .ok ()

/-! ## `StateWriter` -/

namespace StateWriter

def u8 (value : UInt8) : Bytes := writeU8 value
def boolean (value : Bool) : Bytes := writeBool value
def u16 (value : UInt16) : Bytes := writeU16 value
def u32 (value : UInt32) : Bytes := writeU32 value
def i32 (value : Int32) : Bytes := u32 value.toUInt32
def u64 (value : UInt64) : Bytes := writeU64 value
def f32 (value : FloatBits) : Bytes := u32 value
def f64 (value : DoubleBits) : Bytes := u64 value

end StateWriter

open StateWriter in
def writeFrame (frame : GSFrameReg) : Bytes :=
  [u32 frame.fbp, u32 frame.fbw, u8 frame.psm, u32 frame.fbmsk].flatten

open StateWriter in
def writeContext (context : GSContext) : Bytes :=
  [writeFrame context.frame,
    u16 context.scissor.x0,
    u16 context.scissor.x1,
    u16 context.scissor.y0,
    u16 context.scissor.y1,
    u32 context.tex0.tbp0,
    u8 context.tex0.tbw,
    u8 context.tex0.psm,
    u8 context.tex0.tw,
    u8 context.tex0.th,
    u8 context.tex0.tcc,
    u8 context.tex0.tfx,
    u32 context.tex0.cbp,
    u8 context.tex0.cpsm,
    u8 context.tex0.csm,
    u8 context.tex0.csa,
    u8 context.tex0.cld,
    u16 context.xyoffset.ofx,
    u16 context.xyoffset.ofy,
    u32 context.zbuf.zbp,
    u8 context.zbuf.psm,
    boolean context.zbuf.zmask,
    u64 context.tex1,
    u64 context.miptbp1,
    u64 context.miptbp2,
    u64 context.clamp,
    u64 context.alpha,
    u64 context.test,
    u64 context.fba].flatten

open StateWriter in
def writePrimitive (primitive : GSPrimReg) : Bytes :=
  [u8 primitive.type,
    boolean primitive.iip,
    boolean primitive.tme,
    boolean primitive.fge,
    boolean primitive.abe,
    boolean primitive.aa1,
    boolean primitive.fst,
    boolean primitive.ctxt,
    boolean primitive.fix].flatten

open StateWriter in
def writeVertex (vertex : GSVertex) : Bytes :=
  [f32 vertex.x,
    f32 vertex.y,
    f64 vertex.z,
    u8 vertex.r,
    u8 vertex.g,
    u8 vertex.b,
    u8 vertex.a,
    f32 vertex.q,
    f32 vertex.s,
    f32 vertex.t,
    u16 vertex.u,
    u16 vertex.v,
    u8 vertex.fog,
    u16 vertex.x12_4,
    u16 vertex.y12_4,
    u32 vertex.zInteger].flatten

/-! ## `StateReader` -/

namespace StateReader

def u8 : ByteReader UInt8 := readU8
def boolean : ByteReader Bool := readBool
def u16 : ByteReader UInt16 := readU16
def u32 : ByteReader UInt32 := readU32
def i32 : ByteReader Int32 := do
  let encoded ← u32
  return encoded.toInt32
def u64 : ByteReader UInt64 := readU64
def f32 : ByteReader FloatBits := u32
def f64 : ByteReader DoubleBits := u64

end StateReader

open StateReader in
def readFrame : ByteReader GSFrameReg := do
  let fbp ← u32
  let fbw ← u32
  let psm ← u8
  let fbmsk ← u32
  return { fbp, fbw, psm, fbmsk }

open StateReader in
def readContext : ByteReader GSContext := do
  let frame ← readFrame
  let x0 ← u16
  let x1 ← u16
  let y0 ← u16
  let y1 ← u16
  let tbp0 ← u32
  let tbw ← u8
  let psm ← u8
  let tw ← u8
  let th ← u8
  let tcc ← u8
  let tfx ← u8
  let cbp ← u32
  let cpsm ← u8
  let csm ← u8
  let csa ← u8
  let cld ← u8
  let ofx ← u16
  let ofy ← u16
  let zbp ← u32
  let zpsm ← u8
  let zmask ← boolean
  let tex1 ← u64
  let miptbp1 ← u64
  let miptbp2 ← u64
  let clamp ← u64
  let alpha ← u64
  let test ← u64
  let fba ← u64
  return {
    frame
    scissor := { x0, x1, y0, y1 }
    tex0 := { tbp0, tbw, psm, tw, th, tcc, tfx, cbp, cpsm, csm, csa, cld }
    xyoffset := { ofx, ofy }
    zbuf := { zbp, psm := zpsm, zmask }
    tex1, miptbp1, miptbp2, clamp, alpha, test, fba }

open StateReader in
def readPrimitive : ByteReader GSPrimReg := do
  let type ← u8
  if type ≤ GS_PRIM_SPRITE then
    let iip ← boolean
    let tme ← boolean
    let fge ← boolean
    let abe ← boolean
    let aa1 ← boolean
    let fst ← boolean
    let ctxt ← boolean
    let fix ← boolean
    return { type, iip, tme, fge, abe, aa1, fst, ctxt, fix }
  else failure

open StateReader in
def readVertex : ByteReader GSVertex := do
  let x ← f32
  let y ← f32
  let z ← f64
  let r ← u8
  let g ← u8
  let b ← u8
  let a ← u8
  let q ← f32
  let s ← f32
  let t ← f32
  let u ← u16
  let v ← u16
  let fog ← u8
  let x12_4 ← u16
  let y12_4 ← u16
  let zInteger ← u32
  return { x, y, z, r, g, b, a, q, s, t, u, v, fog, x12_4, y12_4, zInteger }

/-! ## Encoding -/

/-- `'P', 'S', '2', 'G', 'S', 'R', 'P', 'L'`. -/
def kReplayStateMagic : List.Vector UInt8 8 :=
  ⟨[0x50, 0x53, 0x32, 0x47, 0x53, 0x52, 0x50, 0x4C], rfl⟩

open StateWriter in
def writeFrontend (state : GsReplayFrontend) : Bytes :=
  [writePrimitive state.prim,
    u8 state.currentR,
    u8 state.currentG,
    u8 state.currentB,
    u8 state.currentA,
    f32 state.currentQ,
    f32 state.currentS,
    f32 state.currentT,
    u16 state.currentU,
    u16 state.currentV,
    u8 state.currentFog,
    u32 state.fogColor,
    boolean state.prmodecont,
    boolean state.pabe,
    u8 state.scanMask,
    u64 state.dimx,
    boolean state.dither,
    boolean state.colorClamp,
    u8 state.texa.ta0,
    boolean state.texa.aem,
    u8 state.texa.ta1,
    u8 state.texclut.cbw,
    u8 state.texclut.cou,
    u16 state.texclut.cov].flatten

open StateWriter in
def writeTransfer (state : GsReplayTransfer) : Bytes :=
  [u64 state.clutCacheGeneration,
    u32 state.bitbltbuf.sbp,
    u8 state.bitbltbuf.sbw,
    u8 state.bitbltbuf.spsm,
    u32 state.bitbltbuf.dbp,
    u8 state.bitbltbuf.dbw,
    u8 state.bitbltbuf.dpsm,
    u16 state.trxpos.ssax,
    u16 state.trxpos.ssay,
    u16 state.trxpos.dsax,
    u16 state.trxpos.dsay,
    u8 state.trxpos.dir,
    u16 state.trxreg.rrw,
    u16 state.trxreg.rrh,
    u32 state.trxdir,
    u32 state.transfer.x,
    u32 state.transfer.y,
    u32 state.transfer.totalPixels,
    u32 state.transfer.copiedPixels,
    i32 state.vertexCount].flatten

open StateWriter in
def writeFeedback (rasterizer : GsReplayFeedback) (feedbackBytes : UInt32) : Bytes :=
  [u32 rasterizer.feedbackTextureBase,
    u32 rasterizer.feedbackFrameBase,
    u8 rasterizer.feedbackTexturePsm,
    u8 rasterizer.feedbackFramePsm,
    u8 rasterizer.feedbackTextureWidth,
    u8 rasterizer.feedbackFrameWidth,
    boolean rasterizer.feedbackSnapshotValid,
    u32 feedbackBytes].flatten

open StateWriter in
def writeDecodedClut (rasterizer : GsReplayDecodedClut) : Bytes :=
  [u64 rasterizer.decodedClutGeneration,
    u16 rasterizer.decodedClutTexa,
    u8 rasterizer.decodedClutSourcePsm,
    u8 rasterizer.decodedClutCsm,
    u8 rasterizer.decodedClutCsa,
    boolean rasterizer.decodedClutActive].flatten

open StateWriter in
/-- What `encodeGsReplayState` writes. -/
def writeState (state : GsReplayState) : Bytes :=
  [kReplayStateMagic.toList,
    u32 GS_REPLAY_STATE_VERSION,
    writeVector writeContext state.ctx,
    writeFrontend state.toGsReplayFrontend,
    writeVector u32 state.clutCache,
    state.clutCacheFormat.toList,
    state.clutCacheValid.toList,
    writeVector u32 state.clutCbp,
    writeTransfer state.toGsReplayTransfer,
    writeVector writeVertex state.vertexQueue,
    writeFeedback state.rasterizer.toGsReplayFeedback
      (UInt32.ofNat state.rasterizer.feedbackVram.length),
    state.rasterizer.feedbackVram,
    writeVector u32 state.rasterizer.decodedClut,
    writeDecodedClut state.rasterizer.toGsReplayDecodedClut].flatten

/-- What a call returns, and its output parameters after it. -/
structure GsReplayCall (α : Type) where
  accepted : Bool
  output : α
  error : Option String

/-- The output and the error text are cleared first. -/
def encodeGsReplayState (state : GsReplayState) (error : Option String) : GsReplayCall Bytes :=
  match validateReplayState state with
  | .ok () => ⟨true, writeState state, error.map fun _ => ""⟩
  | .error message => ⟨false, [], error.map fun _ => message⟩

/-! ## Decoding -/

open StateReader in
def readFrontend : ByteReader GsReplayFrontend := do
  let prim ← readPrimitive
  let currentR ← u8
  let currentG ← u8
  let currentB ← u8
  let currentA ← u8
  let currentQ ← f32
  let currentS ← f32
  let currentT ← f32
  let currentU ← u16
  let currentV ← u16
  let currentFog ← u8
  let fogColor ← u32
  let prmodecont ← boolean
  let pabe ← boolean
  let scanMask ← u8
  let dimx ← u64
  let dither ← boolean
  let colorClamp ← boolean
  let ta0 ← u8
  let aem ← boolean
  let ta1 ← u8
  let cbw ← u8
  let cou ← u8
  let cov ← u16
  return {
    prim, currentR, currentG, currentB, currentA, currentQ, currentS, currentT, currentU, currentV
    currentFog, fogColor, prmodecont, pabe, scanMask, dimx, dither, colorClamp
    texa := { ta0, aem, ta1 }
    texclut := { cbw, cou, cov } }

open StateReader in
def readTransfer : ByteReader GsReplayTransfer := do
  let clutCacheGeneration ← u64
  let sbp ← u32
  let sbw ← u8
  let spsm ← u8
  let dbp ← u32
  let dbw ← u8
  let dpsm ← u8
  let ssax ← u16
  let ssay ← u16
  let dsax ← u16
  let dsay ← u16
  let dir ← u8
  let rrw ← u16
  let rrh ← u16
  let trxdir ← u32
  let x ← u32
  let y ← u32
  let totalPixels ← u32
  let copiedPixels ← u32
  let vertexCount ← i32
  return {
    clutCacheGeneration
    bitbltbuf := { sbp, sbw, spsm, dbp, dbw, dpsm }
    trxpos := { ssax, ssay, dsax, dsay, dir }
    trxreg := { rrw, rrh }
    trxdir
    transfer := { x, y, totalPixels, copiedPixels }
    vertexCount }

open StateReader in
/-- The fields before the snapshot, and its size. -/
def readFeedback : ByteReader (GsReplayFeedback × UInt32) := do
  let feedbackTextureBase ← u32
  let feedbackFrameBase ← u32
  let feedbackTexturePsm ← u8
  let feedbackFramePsm ← u8
  let feedbackTextureWidth ← u8
  let feedbackFrameWidth ← u8
  let feedbackSnapshotValid ← boolean
  let feedbackBytes ← u32
  if feedbackBytes.toNat ≤ GS_REPLAY_VRAM_SIZE then
    return ({
      feedbackTextureBase, feedbackFrameBase, feedbackTexturePsm, feedbackFramePsm
      feedbackTextureWidth, feedbackFrameWidth, feedbackSnapshotValid }, feedbackBytes)
  else failure

open StateReader in
def readDecodedClut : ByteReader GsReplayDecodedClut := do
  let decodedClutGeneration ← u64
  let decodedClutTexa ← u16
  let decodedClutSourcePsm ← u8
  let decodedClutCsm ← u8
  let decodedClutCsa ← u8
  let decodedClutActive ← boolean
  return {
    decodedClutGeneration, decodedClutTexa, decodedClutSourcePsm, decodedClutCsm, decodedClutCsa
    decodedClutActive }

open StateReader in
/-- What `decodeGsReplayState` reads, up to the check that it is all there is. -/
def readState : FieldReader String GsReplayState := do
  let magic ← (readBytes 8).orError "invalid GS replay state magic"
  if magic = kReplayStateMagic then
    let version ← u32.orError "unsupported GS replay state version"
    if version = GS_REPLAY_STATE_VERSION then
      let ctx ← (readVector readContext 2).orError "truncated GS replay context state"
      let frontend ← readFrontend.orError "truncated or invalid GS replay frontend state"
      let clutCache ← (readVector u32 _).orError "truncated GS replay CLUT cache"
      let clutCacheFormat ← (readBytes _).orError "truncated GS replay CLUT metadata"
      let clutCacheValid ← (readBytes _).orError "truncated GS replay CLUT metadata"
      if clutCacheValid.toList.all (· ≤ 1) then
        let clutCbp ← (readVector u32 2).orError "truncated GS replay CLUT base state"
        let transfer ← readTransfer.orError "truncated GS replay transfer or vertex state"
        let vertexQueue ← (readVector readVertex _).orError "truncated GS replay vertex queue"
        let feedback ← readFeedback.orError "invalid GS replay feedback state"
        if feedback.1.feedbackSnapshotValid → feedback.2.toNat = GS_REPLAY_VRAM_SIZE then
          let feedbackVram ← ByteReader.orError (readRaw feedback.2.toNat)
            "truncated GS replay feedback snapshot"
          let decodedClut ← (readVector u32 _).orError "truncated GS replay decoded CLUT"
          let clut ←
            readDecodedClut.orError "trailing or truncated GS replay rasterizer state"
          return { frontend, transfer with
            ctx, clutCache, clutCacheFormat, clutCacheValid, clutCbp, vertexQueue
            rasterizer := { feedback.1, clut with feedbackVram, decodedClut } }
        else throw "valid GS feedback snapshot is not exactly 4 MiB"
      else throw "invalid GS replay CLUT cache-valid flag"
    else throw "unsupported GS replay state version"
  else throw "invalid GS replay state magic"

def decodeState (input : Bytes) : Except String GsReplayState := do
  let decoded ← readState input
  if decoded.2 ≠ [] then .error "trailing or truncated GS replay rasterizer state"
  else (validateReplayState decoded.1).map fun _ => decoded.1

/-- The error text is cleared on success only. -/
def decodeGsReplayState (input : Bytes) (state : GsReplayState) (error : Option String) :
    GsReplayCall GsReplayState :=
  match decodeState input with
  | .ok decoded => ⟨true, decoded, error.map fun _ => ""⟩
  | .error message => ⟨false, state, error.map fun _ => message⟩

end GsReplay

end Ps2Recomp
