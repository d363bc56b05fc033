import Ps2Recomp.Gs.WriteRegister

/-!
# GIF packets

`processGIFPacket` of `ps2_gs_gpu.cpp` with its two shortcuts, the native image upload and the
packed tuples of ST, RGBAQ and XYZF2, and `processNativePackedGIFPacket`. `decodeGIFPacket` is not
in the source: the decoder without the shortcuts, which handles every tag descriptor by descriptor.

`data` is the host memory from the packet on. Offsets are `uint32_t`; they are numbers here, which
is the same for packets that are 16 bytes shorter than 4 GiB.
-/

namespace Ps2Recomp.GS

open BitMemory (Memory)

inductive GSGifFormat
  | PACKED | REGLIST | IMAGE | IMAGE2
  deriving DecidableEq

def GSGifFormat.ofBits : Nat → GSGifFormat
  | 0 => .PACKED
  | 1 => .REGLIST
  | 2 => .IMAGE
  | _ => .IMAGE2

@[irreducible] def loadLE64 (data : Memory) (offset : Nat) : BitVec 64 :=
  BitVec.ofNat 64 (BitMemory.load data offset 8)

structure GifTag where
  lo : BitVec 64
  hi : BitVec 64

namespace GifTag

def load (data : Memory) (offset : Nat) : GifTag :=
  ⟨loadLE64 data offset, loadLE64 data (offset + 8)⟩

variable (tag : GifTag)

def nloop : Nat := bits tag.lo 0 15

def flg : GSGifFormat := .ofBits (bits tag.lo 58 2)

def nreg : Nat := if bits tag.lo 60 4 = 0 then 16 else bits tag.lo 60 4

def pre : Bool := tag.lo.getLsbD 46

def prim : BitVec 64 := tag.lo >>> 47 &&& 0x7FF

def regs : List Nat := (List.range tag.nreg).map fun i => bits tag.hi (4 * i) 4

/-- The descriptors of the payload: the registers, once for each loop. -/
def descriptors : List Nat := (List.replicate tag.nloop tag.regs).flatten

end GifTag

variable {ρ : Type*}

/-- How a tag ends: with the next tag at an offset, or with the packet. -/
inductive GifStep (σ : Type*)
  | continue (offset : Nat) (s : σ)
  | return (s : σ)

/-- The next tag is behind this one. -/
def Advances {σ : Type*} (decode : Nat → σ → GifStep σ) : Prop :=
  ∀ offset s offset' s', decode offset s = .continue offset' s' → offset < offset'

def tagLoop {σ : Type*} (decode : Nat → σ → GifStep σ) (advances : Advances decode)
    (sizeBytes offset : Nat) (s : σ) : σ :=
  if offset + 16 ≤ sizeBytes then
    match _h : decode offset s with
    | .return s => s
    | .continue offset' s => tagLoop decode advances sizeBytes offset' s
  else s
termination_by sizeBytes - offset
decreasing_by
  have hoffset := advances _ _ _ _ _h
  omega

namespace GsState

/-! ## Tags -/

/-- Q and PRIM at a tag. -/
def beginTag (env : GsRasterizer ρ) (s : GsState ρ) (tag : GifTag) : GsState ρ :=
  let s := { s with cur := { s.cur with q := one } }
  if tag.pre then s.writeRegister env .PRIM tag.prim else s

/-- The loops over descriptors, of `size` bytes each. `write` gets the descriptor and its offset. -/
def writeDescriptors (size : Nat) (write : GsState ρ → Nat → Nat → GsState ρ) (sizeBytes : Nat) :
    List Nat → Nat → GsState ρ → GifStep (GsState ρ)
  | [], offset, s => .continue offset s
  | reg :: rest, offset, s =>
      if offset + size > sizeBytes then .return s
      else
        let s := write s reg offset
        if s.drawCommandLimitReached then .return s
        else writeDescriptors size write sizeBytes rest (offset + size) s

/-- A descriptor of a PACKED tag. -/
def writePacked (env : GsRasterizer ρ) (data : Memory) (s : GsState ρ) (reg offset : Nat) :
    GsState ρ :=
  s.writeRegisterPacked env reg (loadLE64 data offset) (loadLE64 data (offset + 8))

/-- A descriptor of a REGLIST tag. -/
def writeReglist (env : GsRasterizer ρ) (data : Memory) (s : GsState ρ) (reg offset : Nat) :
    GsState ρ :=
  s.writeRegister env (.ofAddress reg) (loadLE64 data offset)

/-- The tuple of ST, RGBAQ and XYZF2 at an offset. -/
def packedTuple (env : GsRasterizer ρ) (data : Memory) (s : GsState ρ) (offset : Nat) : GsState ρ :=
  let stLo := loadLE64 data offset
  let stHi := loadLE64 data (offset + 8)
  let rgbaLo := loadLE64 data (offset + 16)
  let rgbaHi := loadLE64 data (offset + 24)
  let xyzfLo := loadLE64 data (offset + 32)
  let xyzfHi := loadLE64 data (offset + 40)
  let s :=
    { s with
      cur :=
        { s.cur with
          s := floatBits stLo 0
          t := floatBits stLo 32
          q := nonzeroQ (floatBits stHi 0)
          r := bits rgbaLo 0 8
          g := bits rgbaLo 32 8
          b := bits rgbaHi 0 8
          a := bits rgbaHi 32 8 } }
  s.submitVertex env
    (s.vertex (bits xyzfLo 0 16) (bits xyzfLo 32 16) (bits xyzfHi 4 24) (bits xyzfHi 4 24)
      (bits xyzfHi 36 8)) !(xyzfHi.getLsbD 47)

def processPackedStRgbaXyzf2 (env : GsRasterizer ρ) (data : Memory) :
    Nat → Nat → GsState ρ → Bool × GsState ρ
  | 0, _, s => (true, s)
  | vertexCount + 1, offset, s =>
      let s := s.packedTuple env data offset
      if s.drawCommandLimitReached then (false, s)
      else processPackedStRgbaXyzf2 env data vertexCount (offset + 48) s

/-- A PACKED payload, descriptor by descriptor. -/
def packedPayload (env : GsRasterizer ρ) (data : Memory) (sizeBytes : Nat) (tag : GifTag)
    (offset : Nat) (s : GsState ρ) : GifStep (GsState ρ) :=
  writeDescriptors 16 (writePacked env data) sizeBytes tag.descriptors offset s

/-- Whole tuples of ST, RGBAQ and XYZF2 are decoded directly. -/
def packedPayloadFast (env : GsRasterizer ρ) (data : Memory) (sizeBytes : Nat) (tag : GifTag)
    (offset : Nat) (s : GsState ρ) : GifStep (GsState ρ) :=
  if tag.nreg = 3 ∧ bits tag.hi 0 12 = 0x412 ∧ tag.nloop * 48 ≤ sizeBytes - offset then
    let (complete, s) := processPackedStRgbaXyzf2 env data tag.nloop offset s
    if complete then .continue (offset + tag.nloop * 48) s else .return s
  else packedPayload env data sizeBytes tag offset s

/-- An odd number of registers is padded to a quadword. -/
def reglistPayload (env : GsRasterizer ρ) (data : Memory) (sizeBytes : Nat) (tag : GifTag)
    (offset : Nat) (s : GsState ρ) : GifStep (GsState ρ) :=
  match writeDescriptors 8 (writeReglist env data) sizeBytes tag.descriptors offset s with
  | .return s => .return s
  | .continue offset s =>
      .continue (if tag.nloop * tag.nreg % 2 = 1 then offset + 8 else offset) s

def imagePayload (data : Memory) (sizeBytes : Nat) (tag : GifTag) (offset : Nat) (s : GsState ρ) :
    GifStep (GsState ρ) :=
  let imageBytes :=
    if offset + tag.nloop * 16 > sizeBytes then sizeBytes - offset else tag.nloop * 16
  .continue (offset + imageBytes) (s.processImageData (fun a => data (offset + a)) imageBytes)

/-- The payload of a tag, with or without the shortcut for tuples. -/
def payload (fast : Bool) (env : GsRasterizer ρ) (data : Memory) (sizeBytes : Nat) (tag : GifTag)
    (offset : Nat) (s : GsState ρ) : GifStep (GsState ρ) :=
  match tag.flg with
  | .PACKED =>
      if fast then packedPayloadFast env data sizeBytes tag offset s
      else packedPayload env data sizeBytes tag offset s
  | .REGLIST => reglistPayload env data sizeBytes tag offset s
  | .IMAGE | .IMAGE2 => imagePayload data sizeBytes tag offset s

theorem writeDescriptors_offset {size sizeBytes : Nat} {write : GsState ρ → Nat → Nat → GsState ρ}
    {descriptors : List Nat} {offset offset' : Nat} {s s' : GsState ρ}
    (h : writeDescriptors size write sizeBytes descriptors offset s = .continue offset' s') :
    offset' = offset + descriptors.length * size := by
  induction descriptors generalizing offset s with
  | nil =>
    cases h
    rw [List.length_nil, Nat.zero_mul, Nat.add_zero]
  | cons reg rest ih =>
    rw [writeDescriptors] at h
    split at h
    · cases h
    · dsimp only at h
      split at h
      · cases h
      · rw [ih h, List.length_cons, Nat.succ_mul]
        omega

theorem payload_offset {fast : Bool} {env : GsRasterizer ρ} {data : Memory} {sizeBytes : Nat}
    {tag : GifTag} {offset offset' : Nat} {s s' : GsState ρ}
    (h : payload fast env data sizeBytes tag offset s = .continue offset' s') :
    offset ≤ offset' := by
  have hpacked : packedPayload env data sizeBytes tag offset s = .continue offset' s' →
      offset ≤ offset' := fun h => (writeDescriptors_offset h).symm ▸ Nat.le_add_right _ _
  unfold payload at h
  split at h
  next =>
    split at h
    next =>
      unfold packedPayloadFast at h
      split at h
      next =>
        dsimp only at h
        split at h
        · cases h
          exact Nat.le_add_right _ _
        · cases h
      next => exact hpacked h
    next => exact hpacked h
  next =>
    unfold reglistPayload at h
    split at h
    · cases h
    next hwrite =>
      have hoffset := writeDescriptors_offset hwrite
      cases h
      split <;> omega
  all_goals
    cases h
    exact Nat.le_add_right _ _

/-- The tag at an offset, with its payload. -/
def decodeTag (fast : Bool) (env : GsRasterizer ρ) (data : Memory) (sizeBytes offset : Nat)
    (s : GsState ρ) : GifStep (GsState ρ) :=
  let tag := GifTag.load data offset
  payload fast env data sizeBytes tag (offset + 16) (s.beginTag env tag)

theorem decodeTag_advances {fast : Bool} {env : GsRasterizer ρ} {data : Memory}
    {sizeBytes : Nat} : Advances (decodeTag fast env data sizeBytes) := by
  intro offset s offset' s' h
  have hoffset := payload_offset h
  omega

def decodeTags (fast : Bool) (env : GsRasterizer ρ) (data : Memory) (sizeBytes offset : Nat)
    (s : GsState ρ) : GsState ρ :=
  tagLoop (decodeTag fast env data sizeBytes) decodeTag_advances sizeBytes offset s

/-! ## The image upload -/

def uploadImageNative (env : GsRasterizer ρ) (s : GsState ρ)
    (bitbltbuf trxpos trxreg trxdir : BitVec 64) (data : Memory) (sizeBytes : Nat) : GsState ρ :=
  let s := s.writeRegister env .BITBLTBUF bitbltbuf
  let s := s.writeRegister env .TRXPOS trxpos
  let s := s.writeRegister env .TRXREG trxreg
  let s := s.writeRegister env .TRXDIR trxdir
  s.processImageData data sizeBytes

/-- The packets that `tryProcessNativeImageUploadPacket` takes: four A+D writes that set up an
upload, and an IMAGE tag with the rest of the packet. -/
structure NativeImageUpload (data : Memory) (sizeBytes : Nat) : Prop where
  size : 16 + 4 * 16 + 16 ≤ sizeBytes
  setupNloop : (GifTag.load data 0).nloop = 4
  setupFlg : (GifTag.load data 0).flg = .PACKED
  setupNreg : (GifTag.load data 0).nreg = 1
  setupReg : bits (GifTag.load data 0).hi 0 4 = 0x0E
  bitbltbuf : bits (loadLE64 data 24) 0 8 = 0x50
  trxpos : bits (loadLE64 data 40) 0 8 = 0x51
  trxreg : bits (loadLE64 data 56) 0 8 = 0x52
  trxdir : bits (loadLE64 data 72) 0 8 = 0x53
  mode : bits (loadLE64 data 64) 0 2 = 0
  width : bits (loadLE64 data 48) 0 12 ≠ 0
  height : bits (loadLE64 data 48) 32 12 ≠ 0
  imageFlg : (GifTag.load data 80).flg = .IMAGE ∨ (GifTag.load data 80).flg = .IMAGE2
  imageNloop : (GifTag.load data 80).nloop ≠ 0
  imageBytes : 96 + (GifTag.load data 80).nloop * 16 = sizeBytes

instance (data : Memory) (sizeBytes : Nat) : Decidable (NativeImageUpload data sizeBytes) :=
  decidable_of_iff
    (16 + 4 * 16 + 16 ≤ sizeBytes ∧ (GifTag.load data 0).nloop = 4 ∧
      (GifTag.load data 0).flg = .PACKED ∧ (GifTag.load data 0).nreg = 1 ∧
      bits (GifTag.load data 0).hi 0 4 = 0x0E ∧ bits (loadLE64 data 24) 0 8 = 0x50 ∧
      bits (loadLE64 data 40) 0 8 = 0x51 ∧ bits (loadLE64 data 56) 0 8 = 0x52 ∧
      bits (loadLE64 data 72) 0 8 = 0x53 ∧ bits (loadLE64 data 64) 0 2 = 0 ∧
      bits (loadLE64 data 48) 0 12 ≠ 0 ∧ bits (loadLE64 data 48) 32 12 ≠ 0 ∧
      ((GifTag.load data 80).flg = .IMAGE ∨ (GifTag.load data 80).flg = .IMAGE2) ∧
      (GifTag.load data 80).nloop ≠ 0 ∧ 96 + (GifTag.load data 80).nloop * 16 = sizeBytes)
    ⟨fun ⟨h₀, h₁, h₂, h₃, h₄, h₅, h₆, h₇, h₈, h₉, h₁₀, h₁₁, h₁₂, h₁₃, h₁₄⟩ =>
      ⟨h₀, h₁, h₂, h₃, h₄, h₅, h₆, h₇, h₈, h₉, h₁₀, h₁₁, h₁₂, h₁₃, h₁₄⟩,
     fun ⟨h₀, h₁, h₂, h₃, h₄, h₅, h₆, h₇, h₈, h₉, h₁₀, h₁₁, h₁₂, h₁₃, h₁₄⟩ =>
      ⟨h₀, h₁, h₂, h₃, h₄, h₅, h₆, h₇, h₈, h₉, h₁₀, h₁₁, h₁₂, h₁₃, h₁₄⟩⟩

/-- `tryProcessNativeImageUploadPacket`, `none` where it returns `false`. -/
def tryProcessNativeImageUploadPacket (env : GsRasterizer ρ) (s : GsState ρ) (data : Memory)
    (sizeBytes : Nat) : Option (GsState ρ) :=
  if NativeImageUpload data sizeBytes then
    some (s.uploadImageNative env (loadLE64 data 16) (loadLE64 data 32) (loadLE64 data 48)
      (loadLE64 data 64) (fun a => data (96 + a)) ((GifTag.load data 80).nloop * 16))
  else none

/-! ## Packets -/

/-- The packets that are not looked at. -/
def ignores (s : GsState ρ) (sizeBytes : Nat) : Bool :=
  sizeBytes < 16 || !s.hasVram || s.drawCommandLimitReached

def processGIFPacket (env : GsRasterizer ρ) (s : GsState ρ) (data : Memory) (sizeBytes : Nat) :
    GsState ρ :=
  if s.ignores sizeBytes then s
  else
    match s.tryProcessNativeImageUploadPacket env data sizeBytes with
    | some s => s
    | none => decodeTags true env data sizeBytes 0 s

/-- The decoder that handles every tag descriptor by descriptor. -/
def decodeGIFPacket (env : GsRasterizer ρ) (s : GsState ρ) (data : Memory) (sizeBytes : Nat) :
    GsState ρ :=
  if s.ignores sizeBytes then s else decodeTags false env data sizeBytes 0 s

/-! ## Packets of PACKED tags only -/

/-- `visitPackedGifPacket`: whether all tags were visited, and what the visitor did. -/
def visitPackedGifPacket {σ : Type*} (visitor : GifTag → Nat → σ → Bool × σ) (data : Memory)
    (sizeBytes offset : Nat) (s : σ) : Bool × σ :=
  if offset + 16 ≤ sizeBytes then
    let tag := GifTag.load data offset
    let payloadBytes := tag.nloop * tag.nreg * 16
    if tag.flg ≠ .PACKED then (false, s)
    else if payloadBytes > 0xFFFFFFFF ∨ payloadBytes > sizeBytes - (offset + 16) then (false, s)
    else
      let (more, s) := visitor tag (offset + 16) s
      if more then
        visitPackedGifPacket visitor data sizeBytes (offset + 16 + payloadBytes) s
      else (false, s)
  else (offset = sizeBytes, s)
termination_by sizeBytes - offset

def validatePackedGifPacket (data : Memory) (sizeBytes : Nat) : Bool :=
  (visitPackedGifPacket (fun _ _ _ => (true, ())) data sizeBytes 0 ()).1

/-- The descriptors of a payload that is known to be complete. -/
def writeNative (env : GsRasterizer ρ) (data : Memory) :
    List Nat → Nat → GsState ρ → Bool × GsState ρ
  | [], _, s => (true, s)
  | reg :: rest, offset, s =>
      let s := s.writePacked env data reg offset
      if s.drawCommandLimitReached then (false, s)
      else writeNative env data rest (offset + 16) s

/-- The visitor of `processNativePackedGIFPacket`. -/
def visitNative (env : GsRasterizer ρ) (data : Memory) (tag : GifTag) (payloadOffset : Nat)
    (s : GsState ρ) : Bool × GsState ρ :=
  writeNative env data tag.descriptors payloadOffset (s.beginTag env tag)

def processNativePackedGIFPacket (env : GsRasterizer ρ) (s : GsState ρ) (data : Memory)
    (sizeBytes : Nat) : Bool × GsState ρ :=
  if sizeBytes < 16 || !s.hasVram then (false, s)
  else if !validatePackedGifPacket data sizeBytes then (false, s)
  else if s.drawCommandLimitReached then (true, s)
  else
    let (processed, s) := visitPackedGifPacket (visitNative env data) data sizeBytes 0 s
    (processed || s.drawCommandLimitReached, s)

end GsState

end Ps2Recomp.GS
