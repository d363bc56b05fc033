import Ps2Recomp.Gif.Arbiter

/-!
# XGKICK (`ps2_vu1_core.cpp`)

`beginXgkick` and `advanceXgkick` of `VuInterpreterBackend`. The VU data memory is a ring of a power
of two of bytes (`VuData`), and the GIF packet of a kick is the tags, with their data, from the kick
address through the first tag with EOP (`Chain`).

The `while` loop has a number of iterations (`iterations`) and gives `none` when they do not
suffice, which is proved not to happen. The bytes that `prepareAppend` makes room for, null pointers
and the trace of the observer are left out.
-/

namespace Ps2Recomp

open ByteCodec (Bytes ofBytes)

/-! ## The data memory -/

/-- The data memory of a unit. Bytes from `size` on are not there. -/
structure VuData where
  size : ℕ
  byte : ℕ → UInt8
  size_pow : ∃ k, 4 ≤ k ∧ k < 32 ∧ size = 2 ^ k

namespace VuData

variable (data : VuData)

/-- The bytes from an address on, around the ring. -/
def ring (address byteCount : ℕ) : Bytes :=
  (List.range byteCount).map fun i => data.byte ((address + i) % data.size)

/-- `copyVuRingBytes`, with `vuRingSpans`. -/
def copyVuRingBytes (address byteCount : ℕ) : Bytes :=
  let firstBytes := min byteCount (data.size - address)
  let secondBytes := byteCount - firstBytes
  (List.range firstBytes).map (fun i => data.byte (address + i)) ++
    (List.range secondBytes).map data.byte

def advanceVuRingAddress (address byteCount : ℕ) : ℕ :=
  let bytesToEnd := data.size - address
  if byteCount ≥ bytesToEnd then byteCount - bytesToEnd else address + byteCount

/-- `read64Wrap`. -/
def read64Wrap (address : ℕ) : ℕ := ofBytes (data.copyVuRingBytes address 8)

end VuData

/-! ## The unit -/

/-- `VuPipelineState::Xgkick`. -/
structure Xgkick where
  active : Bool := false
  address : ℕ := 0
  tagBytesRemaining : ℕ := 0
  cycleCredit : ℕ := 0
  tagEop : Bool := false
  packet : Bytes := []
  deriving DecidableEq, Repr

/-- The unit, and the packets that `submitPath1Packet` was given. -/
structure XgkickWorld where
  xgkick : Xgkick := {}
  submitted : List Bytes := []
  deriving DecidableEq, Repr

namespace XgkickWorld

def cancelXgkick (w : XgkickWorld) : XgkickWorld := { w with xgkick := {} }

end XgkickWorld

/-- The variables of `advanceXgkick` that its loop changes. -/
structure AdvanceLocals where
  transferQwords : ℕ
  flushScanBytes : ℕ := 0
  validateFlushChain : Bool
  deriving DecidableEq, Repr

def kUint32Max : ℕ := 0xFFFFFFFF

def kMaxPath1PacketBytes : ℕ := 64 * 1024 * 1024

namespace Xgkick

variable (data : VuData) (flush : Bool)

/-- The lambda `loadTag`; `none` is `false`. -/
def loadTag (xgkick : Xgkick) (l : AdvanceLocals) : Option (Xgkick × AdvanceLocals) :=
  let tagLo := data.read64Wrap xgkick.address
  let nloop := tagLo &&& 0x7FFF
  let flg := (tagLo >>> 58) &&& 0x3
  let nreg := if (tagLo >>> 60) &&& 0xF = 0 then 16 else (tagLo >>> 60) &&& 0xF
  -- `& ~15` is rounding down to a multiple of 16
  let payloadBytes :=
    if flg = 0 then nloop * nreg * 16
    else if flg = 1 then (nloop * nreg * 8 + 15) / 16 * 16
    else nloop * 16
  let tagBytes := 16 + payloadBytes
  let loaded := { xgkick with
    tagBytesRemaining := tagBytes, tagEop := decide ((tagLo >>> 15) &&& 1 ≠ 0) }
  if tagBytes ≥ data.size ∨ tagBytes > kUint32Max then none
  else if l.validateFlushChain then
    if l.flushScanBytes + tagBytes ≥ data.size then none
    else some (loaded, { l with flushScanBytes := l.flushScanBytes + tagBytes })
  else some (loaded, l)

/-- How an iteration of the loop ends. -/
inductive Iteration where
  | leave (w : XgkickWorld)
  | again (w : XgkickWorld) (l : AdvanceLocals)
  deriving DecidableEq, Repr

/-- `qwords`. -/
def qwordsOf (xgkick : Xgkick) (l : AdvanceLocals) : ℕ :=
  let remainingQwords := xgkick.tagBytesRemaining / 16
  if flush then remainingQwords else min remainingQwords l.transferQwords

/-- Quadwords of the tag go to the packet. -/
def move (xgkick : Xgkick) (qwords : ℕ) : Xgkick :=
  let bytes := qwords * 16
  { xgkick with
    packet := xgkick.packet ++ data.copyVuRingBytes xgkick.address bytes
    address := data.advanceVuRingAddress xgkick.address bytes
    tagBytesRemaining := xgkick.tagBytesRemaining - bytes
    cycleCredit := if flush then xgkick.cycleCredit else xgkick.cycleCredit - qwords * 2 }

/-- The part of the body behind `loadTag`. -/
def transfer (w : XgkickWorld) (l : AdvanceLocals) : Iteration :=
  let qwords := qwordsOf flush w.xgkick l
  let bytes := qwords * 16
  if bytes = 0 ∨ w.xgkick.packet.length + bytes > kMaxPath1PacketBytes then .leave w.cancelXgkick
  else
    let xgkick := move data flush w.xgkick qwords
    let l := { l with
      transferQwords := if flush then l.transferQwords else l.transferQwords - qwords }
    if xgkick.tagBytesRemaining ≠ 0 then .again { w with xgkick } l
    else if xgkick.tagEop then
      .leave { xgkick := {}, submitted := w.submitted ++ [xgkick.packet] }
    else
      .again { w with xgkick } { l with validateFlushChain := flush || l.validateFlushChain }

/-- The body of the loop. -/
def iterate (w : XgkickWorld) (l : AdvanceLocals) : Iteration :=
  match if w.xgkick.tagBytesRemaining = 0 then loadTag data w.xgkick l else some (w.xgkick, l) with
  | none => .leave w.cancelXgkick
  | some (xgkick, l) =>
    let w := { w with xgkick }
    if !flush && l.transferQwords = 0 then .leave w else transfer data flush w l

def loop : ℕ → XgkickWorld → AdvanceLocals → Option XgkickWorld
  | 0, _, _ => none
  | fuel + 1, w, l =>
    match iterate data flush w l with
    | .leave w => some w
    | .again w l => loop fuel w l

/-- How many iterations are enough. -/
def iterations (l : AdvanceLocals) : ℕ := if flush then data.size + 3 else l.transferQwords + 1

def advanceXgkick (cycles : UInt32) (w : XgkickWorld) : Option XgkickWorld :=
  if !w.xgkick.active then some w
  else
    let cycleCredit :=
      if cycles.toNat > kUint32Max - w.xgkick.cycleCredit then kUint32Max
      else w.xgkick.cycleCredit + cycles.toNat
    let l : AdvanceLocals :=
      { transferQwords := if flush then kUint32Max else cycleCredit / 2
        validateFlushChain := flush && w.xgkick.tagBytesRemaining = 0 }
    loop data flush (iterations data flush l) { w with xgkick := { w.xgkick with cycleCredit } } l

/-- Where a kick starts. -/
def kickAddress (sourceQword : UInt32) : ℕ := (sourceQword.toNat &&& 0x3FF) * 16 % data.size

def beginXgkick (sourceQword : UInt32) (w : XgkickWorld) : Option XgkickWorld :=
  -- a second XGKICK drains the transfer before it
  (if w.xgkick.active then advanceXgkick data true 0 w else some w).map fun w =>
    { w with xgkick := { active := true, address := kickAddress data sourceQword } }

/-- Calls without flush. -/
def advances : List UInt32 → XgkickWorld → Option XgkickWorld
  | [], w => some w
  | cycles :: rest, w => advanceXgkick data false cycles w >>= advances rest

/-! ## The packet -/

/-- The low half of the GIFtag at an address, around the ring. -/
def tagAt (address : ℕ) : ℕ := ofBytes (data.ring address 8)

def tagEopAt (address : ℕ) : Bool := decide ((tagAt data address >>> 15) &&& 1 ≠ 0)

def tagBytesAt (address : ℕ) : ℕ := 16 + gifPayloadBytes (tagAt data address)

/-- The tags from an address through the first with EOP are this many bytes. -/
inductive Chain : ℕ → ℕ → Prop
  | eop {address : ℕ} : tagEopAt data address = true → Chain address (tagBytesAt data address)
  | more {address byteCount : ℕ} : tagEopAt data address = false →
      Chain (address + tagBytesAt data address) byteCount →
      Chain address (tagBytesAt data address + byteCount)

end Xgkick

end Ps2Recomp
