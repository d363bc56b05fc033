import Ps2Recomp.Gs.PixelAddress
import Ps2Recomp.Lib.ByteCodec
import Ps2Recomp.Lib.Machine

/-!
# Image uploads

Model of `GS::processImageData` (`ps2_gs_gpu.cpp`) and of its callers: an IMAGE payload of
`processGIFPacket`, a write to HWREG, and the write to TRXDIR that starts a transfer.

* The thirteen loops of `processImageData` differ in the bytes an iteration reads and advances by,
  and in the pixels it writes: `uploadFormat`. Another `dpsm` has no loop.
* `data` is the host memory from the payload on, so that an iteration can read past its end.
* `writes` and `outside` are not in the source: the pixels written so far, in order, and whether a
  byte outside a payload was read.
* Coordinates and counts do not wrap around: the registers have at most 12 bits.

The page masks are in `Gs/TransferPages.lean`. The trace and the transfers of other directions are
left out; `m_vram` is there.
-/

namespace Ps2Recomp

open GSMem BitMemory ByteCodec

structure GSBitBltBuf where
  dbp : Nat
  dbw : Nat
  dpsm : PixelStorageMode

structure GSTrxPos where
  dsax : Nat
  dsay : Nat

structure GSTrxReg where
  rrw : Nat
  rrh : Nat

structure GSTransferState where
  x : Nat := 0
  y : Nat := 0
  total_pixels : Nat := 0
  copied_pixels : Nat := 0

structure PixelWrite where
  x : Nat
  y : Nat
  value : Nat
  deriving DecidableEq, Repr

/-- The fields of `GS` that a transfer uses. -/
structure GsTransfer where
  bitbltbuf : GSBitBltBuf
  trxpos : GSTrxPos
  trxreg : GSTrxReg
  trxdir : Nat := 3
  transferState : GSTransferState := {}
  vram : Memory
  writes : List PixelWrite := []
  outside : Bool := false

/-! ## The loops -/

/-- One case of the switch over `dpsm`. -/
structure UploadFormat where
  /-- The bytes that an iteration reads. -/
  size : Nat
  /-- What it adds to `data_offset`. -/
  step : Nat
  pixels : Nat → List Nat
  write : Memory → Nat → Nat → Nat → Nat → Nat → Memory

def onePixel (c : Nat) : List Nat := [c]

def twoPixels (c : Nat) : List Nat := [c &&& 0xF, (c >>> 4) &&& 0xF]

def uploadFormat : PixelStorageMode → UploadFormat
  | .C32 => ⟨4, 4, onePixel, WriteCT32⟩
  | .Z32 => ⟨4, 4, onePixel, WriteZ32⟩
  | .C24 => ⟨4, 3, onePixel, WriteCT24⟩
  | .Z24 => ⟨4, 3, onePixel, WriteZ24⟩
  | .C16 => ⟨2, 2, onePixel, WriteCT16⟩
  | .Z16 => ⟨2, 2, onePixel, WriteZ16⟩
  | .C16S => ⟨2, 2, onePixel, WriteCT16S⟩
  | .Z16S => ⟨2, 2, onePixel, WriteZ16S⟩
  | .P8 => ⟨1, 1, onePixel, WriteP8⟩
  | .P8H => ⟨1, 1, onePixel, WriteP8H⟩
  | .P4 => ⟨1, 1, twoPixels, WriteP4⟩
  | .P4HL => ⟨1, 1, twoPixels, WriteP4HL⟩
  | .P4HH => ⟨1, 1, twoPixels, WriteP4HH⟩

theorem uploadFormat_step_pos (psm : PixelStorageMode) : 0 < (uploadFormat psm).step := by
  cases psm <;> decide

theorem uploadFormat_write (psm : PixelStorageMode) : (uploadFormat psm).write = psm.write := by
  cases psm <;> rfl

namespace GsTransfer

/-- Write a pixel in the row of the transfer. -/
def putPixel (s : GsTransfer) (x c : Nat) : GsTransfer :=
  { s with
    vram :=
      (uploadFormat s.bitbltbuf.dpsm).write s.vram s.bitbltbuf.dbp (max s.bitbltbuf.dbw 1) x
        s.transferState.y c
    writes := s.writes ++ [⟨x, s.transferState.y, c % 2 ^ s.bitbltbuf.dpsm.BitsPerPixel⟩] }

/-- Write pixels side by side, from `x` on. -/
def putPixels (s : GsTransfer) (x : Nat) : List Nat → GsTransfer
  | [] => s
  | c :: rest => (s.putPixel x c).putPixels (x + 1) rest

/-- One iteration: the pixels at `data_offset`. -/
def uploadItem (s : GsTransfer) (data : Memory) (sizeBytes data_offset : Nat) : GsTransfer :=
  let format := uploadFormat s.bitbltbuf.dpsm
  let pixels := format.pixels (load data data_offset format.size)
  let copied_pixels := s.transferState.copied_pixels + pixels.length
  let rowEnds := copied_pixels % s.trxreg.rrw = 0
  let last := copied_pixels ≥ s.transferState.total_pixels
  { s.putPixels s.transferState.x pixels with
    transferState :=
      { x := if rowEnds then s.trxpos.dsax else s.transferState.x + pixels.length
        y := if rowEnds then s.transferState.y + 1 else s.transferState.y
        total_pixels := if last then 0 else s.transferState.total_pixels
        copied_pixels := copied_pixels }
    trxdir := if last then 3 else s.trxdir
    outside := s.outside || decide (data_offset + format.size > sizeBytes) }

def uploadLoop (s : GsTransfer) (data : Memory) (sizeBytes data_offset : Nat) : GsTransfer :=
  if data_offset < sizeBytes then
    let next := s.uploadItem data sizeBytes data_offset
    if next.transferState.copied_pixels ≥ s.transferState.total_pixels then next
    else next.uploadLoop data sizeBytes (data_offset + (uploadFormat s.bitbltbuf.dpsm).step)
  else s
termination_by sizeBytes - data_offset
decreasing_by
  have := uploadFormat_step_pos s.bitbltbuf.dpsm
  omega

def processImageData (s : GsTransfer) (data : Memory) (sizeBytes : Nat) : GsTransfer :=
  if s.trxdir ≠ 0 then s
  else if s.trxreg.rrw = 0 ∨ s.trxreg.rrh = 0 then s
  else s.uploadLoop data sizeBytes 0

/-! ## Callers -/

/-- The host memory from the payload on; `beyond` is what follows it. -/
def hostMemory (payload : Bytes) (beyond : Memory) : Memory := fun a =>
  payload.getD a (beyond (a - payload.length))

/-- The write of 0 to TRXDIR. -/
def writeTrxdir (s : GsTransfer) : GsTransfer :=
  { s with
    trxdir := 0
    transferState :=
      { x := s.trxpos.dsax
        y := s.trxpos.dsay
        total_pixels := s.trxreg.rrw * s.trxreg.rrh
        copied_pixels := 0 } }

end GsTransfer

/-- A piece of a transfer: an IMAGE payload, of whole quadwords, or a write to HWREG. -/
inductive UploadCall where
  | image (payload : Bytes) (quadwords : 16 ∣ payload.length)
  | hwreg (value : UInt64)

def UploadCall.payload : UploadCall → Bytes
  | .image payload _ => payload
  | .hwreg value => littleEndian 8 value.toNat

/-- What a call does; `beyond` is the host memory behind its payload. -/
def GsTransfer.upload (s : GsTransfer) (call : UploadCall × Memory) : GsTransfer :=
  s.processImageData (hostMemory call.1.payload call.2) call.1.payload.length

end Ps2Recomp
