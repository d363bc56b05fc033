import Ps2Recomp.Gs.GifPacket

/-!
# GIF packets: the shortcuts

The shortcut for tuples of ST, RGBAQ and XYZF2 changes nothing (`decodeTags_fast`), and neither does
`processNativePackedGIFPacket` (`processNativePackedGIFPacket_eq`). The native image upload leaves
out what a tag does to Q and PRIM (`processGIFPacket_upload`): it is the same as the decoder only
where that would change nothing (`shortcuts_change_nothing_iff`).
-/

namespace Ps2Recomp.GS

open BitMemory (Memory)

variable {ρ : Type*} {env : GsRasterizer ρ} {data : Memory} {sizeBytes offset n : Nat}
  {s : GsState ρ} {tag : GifTag}

theorem bits_eq (value : BitVec 64) (shift width : Nat) :
    bits value shift width = value.toNat / 2 ^ shift % 2 ^ width := by
  rw [bits, BitVec.extractLsb'_toNat, Nat.shiftRight_eq_div_pow]

namespace GifTag

/-- The registers of ST, RGBAQ and XYZF2. -/
theorem regs_tuple (hnreg : tag.nreg = 3) (hregs : bits tag.hi 0 12 = 0x412) :
    tag.regs = [2, 1, 4] := by
  rw [bits_eq] at hregs
  have hst : bits tag.hi 0 4 = 2 := by
    rw [bits_eq]
    omega
  have hrgba : bits tag.hi 4 4 = 1 := by
    rw [bits_eq]
    omega
  have hxyzf : bits tag.hi 8 4 = 4 := by
    rw [bits_eq]
    omega
  unfold regs
  rw [hnreg]
  change [bits tag.hi 0 4, bits tag.hi 4 4, bits tag.hi 8 4] = _
  rw [hst, hrgba, hxyzf]

theorem length_descriptors : tag.descriptors.length = tag.nloop * tag.nreg := by
  unfold descriptors regs
  rw [List.length_flatten, List.map_replicate, List.sum_replicate_nat, List.length_map,
    List.length_range]

end GifTag

namespace GsState

/-! ## The draw limit

Without it being reached a tag begins, and it is not reached by reading Q, PRIM or an image. -/

theorem beginTag_limit :
    (s.beginTag env tag).drawCommandLimitReached = s.drawCommandLimitReached := by
  unfold beginTag
  dsimp only
  split <;> rfl

theorem processImageData_limit (payload : Memory) :
    (s.processImageData payload n).drawCommandLimitReached = s.drawCommandLimitReached := by
  unfold processImageData
  split
  · rfl
  · split <;> rfl

theorem writeDescriptors_limit {size : Nat} {write : GsState ρ → Nat → Nat → GsState ρ}
    {descriptors : List Nat} {offset' : Nat} {s' : GsState ρ}
    (hlimit : s.drawCommandLimitReached = false)
    (h : writeDescriptors size write sizeBytes descriptors offset s = .continue offset' s') :
    s'.drawCommandLimitReached = false := by
  induction descriptors generalizing offset s with
  | nil =>
    cases h
    exact hlimit
  | cons reg rest ih =>
    rw [writeDescriptors] at h
    split at h
    · cases h
    · dsimp only at h
      split at h
      · cases h
      next hnext => exact ih (Bool.eq_false_iff.2 hnext) h

/-! ## Tuples of ST, RGBAQ and XYZF2 -/

/-- The depth of XYZF2 is exact as a float. -/
theorem packedTuple_eq : s.packedTuple env data offset =
    ((s.writePacked env data 2 offset).writePacked env data 1 (offset + 16)).writePacked env data 4
      (offset + 32) := by
  have hdepth := floatOfNat_of_lt (bits_lt (loadLE64 data (offset + 32 + 8)) 4 24)
  change _ = packedXyzf env _ _ _ _
  unfold packedXyzf
  rw [hdepth]
  rfl

theorem writeDescriptors_tuple (hlimit : s.drawCommandLimitReached = false)
    (hsize : offset + 48 ≤ sizeBytes) (rest : List Nat) :
    writeDescriptors 16 (writePacked env data) sizeBytes (2 :: 1 :: 4 :: rest) offset s =
      if (s.packedTuple env data offset).drawCommandLimitReached then
        .return (s.packedTuple env data offset)
      else
        writeDescriptors 16 (writePacked env data) sizeBytes rest (offset + 48)
          (s.packedTuple env data offset) := by
  have hst : (s.writePacked env data 2 offset).drawCommandLimitReached = false := hlimit
  have hrgba : ((s.writePacked env data 2 offset).writePacked env data 1
      (offset + 16)).drawCommandLimitReached = false := hlimit
  rw [writeDescriptors, if_neg (by omega)]
  dsimp only
  rw [hst, if_neg Bool.false_ne_true, writeDescriptors, if_neg (by omega)]
  dsimp only
  rw [hrgba, if_neg Bool.false_ne_true, writeDescriptors, if_neg (by omega), packedTuple_eq]

/-- **Whole tuples may be decoded directly.** -/
theorem writeDescriptors_tuples (hlimit : s.drawCommandLimitReached = false)
    (hsize : offset + n * 48 ≤ sizeBytes) :
    writeDescriptors 16 (writePacked env data) sizeBytes (List.replicate n [2, 1, 4]).flatten
        offset s =
      if (processPackedStRgbaXyzf2 env data n offset s).1 then
        .continue (offset + n * 48) (processPackedStRgbaXyzf2 env data n offset s).2
      else .return (processPackedStRgbaXyzf2 env data n offset s).2 := by
  induction n generalizing offset s with
  | zero => rw [processPackedStRgbaXyzf2, if_pos rfl, Nat.zero_mul]; rfl
  | succ n ih =>
    rw [List.replicate_succ, List.flatten_cons]
    change writeDescriptors 16 _ _ (2 :: 1 :: 4 :: (List.replicate n [2, 1, 4]).flatten) _ _ = _
    rw [writeDescriptors_tuple hlimit (by omega), processPackedStRgbaXyzf2]
    cases hnext : (s.packedTuple env data offset).drawCommandLimitReached with
    | true => rfl
    | false =>
      have hoffset : offset + 48 + n * 48 = offset + (n + 1) * 48 := by omega
      rw [if_neg Bool.false_ne_true, if_neg Bool.false_ne_true, ih hnext (by omega), hoffset]

theorem packedPayloadFast_eq (hlimit : s.drawCommandLimitReached = false)
    (hoffset : offset ≤ sizeBytes) :
    packedPayloadFast env data sizeBytes tag offset s =
      packedPayload env data sizeBytes tag offset s := by
  unfold packedPayloadFast
  split
  next h =>
    obtain ⟨hnreg, hregs, hsize⟩ := h
    unfold packedPayload GifTag.descriptors
    rw [GifTag.regs_tuple hnreg hregs, writeDescriptors_tuples hlimit (by omega)]
  next => rfl

/-! ## The loop over tags -/

theorem tagLoop_of_lt {σ : Type*} {decode : Nat → σ → GifStep σ}
    {advances : Advances decode} {s : σ} (h : sizeBytes < offset + 16) : tagLoop decode advances sizeBytes offset s = s := by
  rw [tagLoop, if_neg (Nat.not_le.2 h)]

theorem tagLoop_of_le {σ : Type*} {decode : Nat → σ → GifStep σ}
    {advances : Advances decode} {s : σ} (h : offset + 16 ≤ sizeBytes) :
    tagLoop decode advances sizeBytes offset s =
      match decode offset s with
      | .return s => s
      | .continue offset' s => tagLoop decode advances sizeBytes offset' s := by
  rw [tagLoop, if_pos h]
  split <;> rename_i heq <;> rw [heq]

/-- Two decoders that agree where an invariant holds. -/
theorem tagLoop_congr {σ : Type*} {decode decode' : Nat → σ → GifStep σ}
    {advances : Advances decode} {advances' : Advances decode'} {Inv : σ → Prop}
    (hagree : ∀ {offset s}, offset + 16 ≤ sizeBytes → Inv s → decode offset s = decode' offset s)
    (hkeep : ∀ {offset s offset' s'}, Inv s → decode offset s = .continue offset' s' → Inv s')
    {s : σ} (hs : Inv s) :
    tagLoop decode advances sizeBytes offset s = tagLoop decode' advances' sizeBytes offset s := by
  induction offset, s using tagLoop.induct decode advances sizeBytes with
  | case1 offset s hsize s' hstep =>
    have hstep' := (hagree hsize hs).symm.trans hstep
    rw [tagLoop_of_le hsize, tagLoop_of_le hsize, hstep, hstep']
  | case2 offset s hsize offset' s' hstep ih =>
    have hstep' := (hagree hsize hs).symm.trans hstep
    rw [tagLoop_of_le hsize, tagLoop_of_le hsize, hstep, hstep']
    exact ih (hkeep hs hstep)
  | case3 offset s hsize =>
    have hlt : sizeBytes < offset + 16 := Nat.not_le.1 hsize
    rw [tagLoop_of_lt hlt, tagLoop_of_lt hlt]

theorem payload_limit {offset' : Nat} {s' : GsState ρ} (hlimit : s.drawCommandLimitReached = false)
    (h : payload false env data sizeBytes tag offset s = .continue offset' s') :
    s'.drawCommandLimitReached = false := by
  unfold payload at h
  split at h
  · exact writeDescriptors_limit hlimit h
  · unfold reglistPayload at h
    split at h
    · cases h
    next hwrite =>
      cases h
      exact writeDescriptors_limit hlimit hwrite
  all_goals
    cases h
    exact (processImageData_limit _).trans hlimit

theorem payload_fast (hlimit : s.drawCommandLimitReached = false) (hoffset : offset ≤ sizeBytes) :
    payload true env data sizeBytes tag offset s = payload false env data sizeBytes tag offset s := by
  unfold payload
  split
  · exact packedPayloadFast_eq hlimit hoffset
  all_goals rfl

/-- **The shortcut for tuples changes nothing.** -/
theorem decodeTags_fast (hlimit : s.drawCommandLimitReached = false) :
    decodeTags true env data sizeBytes offset s = decodeTags false env data sizeBytes offset s := by
  have hbegin : ∀ {s : GsState ρ} {tag}, s.drawCommandLimitReached = false →
      (s.beginTag env tag).drawCommandLimitReached = false := fun h => beginTag_limit.trans h
  have hcongr := @tagLoop_congr sizeBytes offset (GsState ρ) (decodeTag false env data sizeBytes)
    (decodeTag true env data sizeBytes) decodeTag_advances decodeTag_advances
    (fun s => s.drawCommandLimitReached = false)
    (fun hsize hs => (payload_fast (hbegin hs) hsize).symm)
    (fun hs hstep => payload_limit (hbegin hs) hstep) s hlimit
  exact hcongr.symm

/-! ## Packets of PACKED tags only -/

/-- The rest of the packet is PACKED tags with whole payloads. -/
def Packed (data : Memory) (sizeBytes offset : Nat) : Prop :=
  (visitPackedGifPacket (fun _ _ _ => (true, ())) data sizeBytes offset ()).1 = true

def payloadBytes (tag : GifTag) : Nat := tag.nloop * tag.nreg * 16

theorem packed_step (h : Packed data sizeBytes offset) (hsize : offset + 16 ≤ sizeBytes) :
    (GifTag.load data offset).flg = .PACKED ∧
      offset + 16 + payloadBytes (GifTag.load data offset) ≤ sizeBytes ∧
      Packed data sizeBytes (offset + 16 + payloadBytes (GifTag.load data offset)) := by
  unfold Packed at h
  rw [visitPackedGifPacket, if_pos hsize] at h
  dsimp only at h
  split at h
  · cases h
  next hflg =>
    split at h
    · cases h
    next hfits =>
      have hbytes : payloadBytes (GifTag.load data offset) =
        (GifTag.load data offset).nloop * (GifTag.load data offset).nreg * 16 := rfl
      refine ⟨not_not.1 hflg, by omega, h⟩

/-- A payload that is there needs no test of its size. -/
theorem writeDescriptors_native {descriptors : List Nat}
    (hsize : offset + descriptors.length * 16 ≤ sizeBytes) :
    writeDescriptors 16 (writePacked env data) sizeBytes descriptors offset s =
      if (writeNative env data descriptors offset s).1 then
        .continue (offset + descriptors.length * 16) (writeNative env data descriptors offset s).2
      else .return (writeNative env data descriptors offset s).2 := by
  induction descriptors generalizing offset s with
  | nil => rfl
  | cons reg rest ih =>
    rw [List.length_cons] at hsize ⊢
    rw [writeDescriptors, if_neg (by omega), writeNative]
    dsimp only
    cases hnext : (s.writePacked env data reg offset).drawCommandLimitReached with
    | true => rfl
    | false =>
      have hoffset : offset + 16 + rest.length * 16 = offset + (rest.length + 1) * 16 := by omega
      rw [if_neg Bool.false_ne_true, if_neg Bool.false_ne_true, ih (by omega), hoffset]

/-- Only the draw limit stops it. -/
theorem writeNative_limit {descriptors : List Nat}
    (h : (writeNative env data descriptors offset s).1 = false) :
    (writeNative env data descriptors offset s).2.drawCommandLimitReached = true := by
  induction descriptors generalizing offset s with
  | nil => cases h
  | cons reg rest ih =>
    rw [writeNative] at h ⊢
    cases hnext : (s.writePacked env data reg offset).drawCommandLimitReached with
    | true => exact hnext
    | false =>
      rw [hnext, if_neg Bool.false_ne_true] at h
      rw [if_neg Bool.false_ne_true]
      exact ih h

/-- A tag of a PACKED packet. -/
theorem payload_native (hflg : tag.flg = .PACKED) (hfits : offset + payloadBytes tag ≤ sizeBytes) :
    payload false env data sizeBytes tag offset (s.beginTag env tag) =
      if (visitNative env data tag offset s).1 then
        .continue (offset + payloadBytes tag) (visitNative env data tag offset s).2
      else .return (visitNative env data tag offset s).2 := by
  have hlength : tag.descriptors.length * 16 = payloadBytes tag := by
    rw [GifTag.length_descriptors]
    rfl
  have hplain : payload false env data sizeBytes tag offset (s.beginTag env tag) =
      packedPayload env data sizeBytes tag offset (s.beginTag env tag) := by
    unfold payload
    rw [hflg]
    rfl
  unfold visitNative
  rw [hplain, packedPayload, writeDescriptors_native (by rwa [hlength]), hlength]

theorem payloadBytes_le (tag : GifTag) : payloadBytes tag ≤ 0xFFFFFFFF := by
  have hnloop : tag.nloop < 2 ^ 15 := bits_lt _ _ _
  have hnreg : tag.nreg ≤ 16 := by
    have hbits := bits_lt tag.lo 60 4
    unfold GifTag.nreg
    split <;> omega
  have hproduct := Nat.mul_le_mul (Nat.le_of_lt hnloop) hnreg
  unfold payloadBytes
  omega

theorem visit_of_lt {σ : Type*} {visitor : GifTag → Nat → σ → Bool × σ} {s : σ}
    (h : sizeBytes < offset + 16) :
    visitPackedGifPacket visitor data sizeBytes offset s =
      (decide (offset = sizeBytes), s) := by
  rw [visitPackedGifPacket, if_neg (Nat.not_le.2 h)]

/-- One tag, and the rest of the packet. -/
theorem visit_of_le {σ : Type*} {visitor : GifTag → Nat → σ → Bool × σ} {s : σ}
    (hsize : offset + 16 ≤ sizeBytes) (hflg : (GifTag.load data offset).flg = .PACKED)
    (hfits : offset + 16 + payloadBytes (GifTag.load data offset) ≤ sizeBytes) :
    visitPackedGifPacket visitor data sizeBytes offset s =
      if (visitor (GifTag.load data offset) (offset + 16) s).1 then
        visitPackedGifPacket visitor data sizeBytes
          (offset + 16 + payloadBytes (GifTag.load data offset))
          (visitor (GifTag.load data offset) (offset + 16) s).2
      else (false, (visitor (GifTag.load data offset) (offset + 16) s).2) := by
  have hmax := payloadBytes_le (GifTag.load data offset)
  rw [visitPackedGifPacket, if_pos hsize]
  generalize GifTag.load data offset = tag at hflg hfits hmax ⊢
  have hbytes : payloadBytes tag = tag.nloop * tag.nreg * 16 := rfl
  dsimp only
  rw [if_neg (not_not_intro hflg), if_neg (by omega)]
  rfl

theorem decodeTags_of_lt {fast : Bool} (h : sizeBytes < offset + 16) :
    decodeTags fast env data sizeBytes offset s = s := tagLoop_of_lt h

theorem decodeTags_of_le {fast : Bool} (h : offset + 16 ≤ sizeBytes) :
    decodeTags fast env data sizeBytes offset s =
      match payload fast env data sizeBytes (GifTag.load data offset) (offset + 16)
          (s.beginTag env (GifTag.load data offset)) with
      | .return s => s
      | .continue offset' s => decodeTags fast env data sizeBytes offset' s := by
  unfold decodeTags
  rw [tagLoop_of_le h, decodeTag]
  cases payload fast env data sizeBytes (GifTag.load data offset) (offset + 16)
    (s.beginTag env (GifTag.load data offset)) <;> rfl

/-- **The visitor does what the decoder does**, and is stopped by the draw limit only. -/
theorem visitNative_decodeTags (hpacked : Packed data sizeBytes offset) :
    (visitPackedGifPacket (visitNative env data) data sizeBytes offset s).2 =
        decodeTags false env data sizeBytes offset s ∧
      ((visitPackedGifPacket (visitNative env data) data sizeBytes offset s).1 ||
        (visitPackedGifPacket (visitNative env data) data sizeBytes offset
          s).2.drawCommandLimitReached) = true := by
  induction hrest : sizeBytes - offset using Nat.strong_induction_on generalizing offset s with
  | _ rest ih =>
    by_cases hsize : offset + 16 ≤ sizeBytes
    · obtain ⟨hflg, hfits, hnext⟩ := packed_step hpacked hsize
      rw [visit_of_le hsize hflg hfits, decodeTags_of_le hsize, payload_native hflg hfits]
      cases hvisit : (visitNative env data (GifTag.load data offset) (offset + 16) s).1 with
      | true =>
        rw [if_pos rfl, if_pos rfl]
        exact ih _ (by omega) hnext rfl
      | false =>
        rw [if_neg Bool.false_ne_true, if_neg Bool.false_ne_true]
        exact ⟨rfl, writeNative_limit hvisit⟩
    · have hlt : sizeBytes < offset + 16 := Nat.not_le.1 hsize
      unfold Packed at hpacked
      rw [visit_of_lt hlt] at hpacked
      rw [visit_of_lt hlt, decodeTags_of_lt hlt]
      exact ⟨rfl, by rw [hpacked, Bool.true_or]⟩

/-! ## The image upload -/

theorem not_upload_of_packed (hpacked : Packed data sizeBytes 0) :
    ¬ NativeImageUpload data sizeBytes := by
  intro h
  have hbytes : payloadBytes (GifTag.load data 0) = 64 := by
    unfold payloadBytes
    rw [h.setupNloop, h.setupNreg]
  have hsize := h.size
  obtain ⟨_, _, hnext⟩ := packed_step hpacked (by omega)
  rw [hbytes] at hnext
  obtain ⟨hflg, _, _⟩ := packed_step hnext (by omega)
  rcases h.imageFlg with himage | himage <;> rw [himage] at hflg <;> cases hflg

theorem processGIFPacket_of_not_upload (h : ¬ NativeImageUpload data sizeBytes) :
    s.processGIFPacket env data sizeBytes = s.decodeGIFPacket env data sizeBytes := by
  unfold processGIFPacket decodeGIFPacket tryProcessNativeImageUploadPacket
  rw [if_neg h]
  split
  · rfl
  next hignores =>
    refine decodeTags_fast ?_
    unfold ignores at hignores
    rw [Bool.or_eq_true, not_or] at hignores
    exact Bool.eq_false_iff.2 hignores.2

/-- **`processNativePackedGIFPacket` does what `processGIFPacket` does.** -/
theorem processNativePackedGIFPacket_eq
    (h : (s.processNativePackedGIFPacket env data sizeBytes).1 = true) :
    (s.processNativePackedGIFPacket env data sizeBytes).2 =
      s.processGIFPacket env data sizeBytes := by
  unfold processNativePackedGIFPacket at h ⊢
  split at h
  · cases h
  next hpresent =>
    rw [if_neg hpresent]
    rw [Bool.or_eq_true, not_or] at hpresent
    split at h
    · cases h
    next hvalid =>
      have hpacked : Packed data sizeBytes 0 := by
        unfold Packed
        rwa [Bool.not_eq_true', Bool.not_eq_false] at hvalid
      rw [if_neg hvalid, processGIFPacket_of_not_upload (not_upload_of_packed hpacked)]
      unfold decodeGIFPacket ignores
      rw [Bool.eq_false_iff.2 hpresent.1, Bool.eq_false_iff.2 hpresent.2]
      cases hlimit : s.drawCommandLimitReached with
      | true => rfl
      | false => exact (visitNative_decodeTags hpacked).1

/-! ## What the image upload leaves out -/

/-- The PRIM that the tags of an upload leave, if one of them writes it. -/
def uploadPrim (data : Memory) : Option (BitVec 64) :=
  if (GifTag.load data 80).pre then some (GifTag.load data 80).prim
  else if (GifTag.load data 0).pre then some (GifTag.load data 0).prim
  else none

/-- Q and PRIM after the tags of a packet, with the last PRIM that they write. -/
def afterTags (s : GsState ρ) (prim : Option (BitVec 64)) : GsState ρ :=
  let s := { s with cur := { s.cur with q := one } }
  match prim with
  | some value => s.writePrim value
  | none => s

theorem beginTag_beginTag :
    (s.beginTag env (GifTag.load data 0)).beginTag env (GifTag.load data 80) =
      s.afterTags (uploadPrim data) := by
  unfold beginTag uploadPrim
  cases (GifTag.load data 0).pre <;> cases (GifTag.load data 80).pre <;> rfl

/-- What has to hold for the tags of a packet to change nothing. -/
structure TagsUnseen (s : GsState ρ) (prim : Option (BitVec 64)) : Prop where
  q : s.cur.q = one
  prim : ∀ value, prim = some value → s.prim = primOf value ∧ s.vtxCount = 0 ∧ s.vtxIndex = 0

theorem afterTags_eq_iff (prim : Option (BitVec 64)) :
    s.afterTags prim = s ↔ s.TagsUnseen prim := by
  constructor
  · intro h
    refine ⟨?_, ?_⟩
    · rw [← h]
      cases prim <;> rfl
    · rintro value rfl
      rw [← h]
      exact ⟨rfl, rfl, rfl⟩
  · rintro ⟨hq, hprim⟩
    have hcur : { s.cur with q := one } = s.cur := by rw [← hq]
    cases s
    dsimp only at hcur hprim
    cases prim with
    | none =>
      unfold afterTags
      dsimp only
      rw [hcur]
    | some value =>
      obtain ⟨rfl, rfl, rfl⟩ := hprim value rfl
      unfold afterTags writePrim
      dsimp only
      rw [hcur]

theorem processImageData_noVram {payload : Memory} (h : s.hasVram = false) :
    s.processImageData payload n = s := by
  unfold processImageData
  rw [h]
  rfl

theorem processImageData_none {payload : Memory} (h : GSPsm.ofBits s.bitbltbuf.dpsm = none) :
    s.processImageData payload n = s := by
  unfold processImageData
  rw [h]
  exact ite_self _

theorem processImageData_some {payload : Memory} {dpsm : GSMem.PixelStorageMode}
    (hvram : s.hasVram = true) (h : GSPsm.ofBits s.bitbltbuf.dpsm = some dpsm) :
    s.processImageData payload n =
      { s with
        trxdir := ((s.transfer dpsm).processImageData payload n).trxdir
        transferState := ((s.transfer dpsm).processImageData payload n).transferState
        vram := ((s.transfer dpsm).processImageData payload n).vram } := by
  unfold processImageData
  rw [hvram, h]
  rfl

/-- What a tag leaves alone. -/
theorem beginTag_fields :
    (s.beginTag env tag).hasVram = s.hasVram ∧ (s.beginTag env tag).bitbltbuf = s.bitbltbuf := by
  unfold beginTag
  cases tag.pre <;> exact ⟨rfl, rfl⟩

theorem processImageData_beginTag (payload : Memory) :
    (s.beginTag env tag).processImageData payload n =
      (s.processImageData payload n).beginTag env tag := by
  obtain ⟨hvram, hbuffer⟩ := @beginTag_fields _ env s tag
  cases hpresent : s.hasVram with
  | false => rw [processImageData_noVram hpresent, processImageData_noVram (hvram.trans hpresent)]
  | true =>
    cases hpsm : GSPsm.ofBits s.bitbltbuf.dpsm with
    | none =>
      rw [processImageData_none hpsm, processImageData_none (by rwa [hbuffer])]
    | some dpsm =>
      rw [processImageData_some hpresent hpsm,
        processImageData_some (hvram.trans hpresent) (by rwa [hbuffer])]
      unfold beginTag
      cases tag.pre <;> rfl

def setUpUpload (env : GsRasterizer ρ) (s : GsState ρ) (data : Memory) : GsState ρ :=
  (((s.writeRegister env .BITBLTBUF (loadLE64 data 16)).writeRegister env .TRXPOS
    (loadLE64 data 32)).writeRegister env .TRXREG (loadLE64 data 48)).writeRegister env .TRXDIR
      (loadLE64 data 64)

theorem writeTrxdir_upload {value : BitVec 64} (h : bits value 0 2 = 0) :
    s.writeTrxdir value =
      { s with
        trxdir := 0
        transferState :=
          { x := s.trxpos.dsax
            y := s.trxpos.dsay
            total_pixels := s.trxreg.rrw * s.trxreg.rrh
            copied_pixels := 0 } } := by
  unfold writeTrxdir
  rw [h]
  rfl

theorem setUpUpload_beginTag (h : bits (loadLE64 data 64) 0 2 = 0) :
    (s.beginTag env tag).setUpUpload env data = (s.setUpUpload env data).beginTag env tag := by
  have hsetup : ∀ s : GsState ρ, s.setUpUpload env data =
      (((s.writeRegister env .BITBLTBUF (loadLE64 data 16)).writeRegister env .TRXPOS
        (loadLE64 data 32)).writeRegister env .TRXREG (loadLE64 data 48)).writeTrxdir
          (loadLE64 data 64) := fun _ => rfl
  rw [hsetup, hsetup, writeTrxdir_upload h, writeTrxdir_upload h]
  unfold beginTag
  cases tag.pre <;> rfl

theorem setUpUpload_limit (h : bits (loadLE64 data 64) 0 2 = 0) :
    (s.setUpUpload env data).drawCommandLimitReached = s.drawCommandLimitReached := by
  change (GsState.writeTrxdir _ _).drawCommandLimitReached = _
  rw [writeTrxdir_upload h]
  rfl

theorem writeDescriptors_ad {reg : GSRegId} (hsize : offset + 16 ≤ sizeBytes)
    (hreg : GSRegId.ofAddress (bits (loadLE64 data (offset + 8)) 0 8) = reg)
    (hlimit : (s.writeRegister env reg (loadLE64 data offset)).drawCommandLimitReached = false)
    (rest : List Nat) :
    writeDescriptors 16 (writePacked env data) sizeBytes (0x0E :: rest) offset s =
      writeDescriptors 16 (writePacked env data) sizeBytes rest (offset + 16)
        (s.writeRegister env reg (loadLE64 data offset)) := by
  have hwrite : s.writePacked env data 0x0E offset =
      s.writeRegister env reg (loadLE64 data offset) := by
    rw [← hreg]
    rfl
  rw [writeDescriptors, if_neg (by omega)]
  dsimp only
  rw [hwrite, hlimit, if_neg Bool.false_ne_true]

/-- The decoder on the first tag of an upload. -/
theorem payload_setup (h : NativeImageUpload data sizeBytes)
    (hlimit : s.drawCommandLimitReached = false) :
    payload false env data sizeBytes (GifTag.load data 0) 16 s =
      .continue 80 (s.setUpUpload env data) := by
  have hsize := h.size
  have hregs : (GifTag.load data 0).descriptors = [0x0E, 0x0E, 0x0E, 0x0E] := by
    unfold GifTag.descriptors GifTag.regs
    rw [h.setupNloop, h.setupNreg]
    change (List.replicate 4 [bits (GifTag.load data 0).hi 0 4]).flatten = _
    rw [h.setupReg]
    rfl
  have hplain : payload false env data sizeBytes (GifTag.load data 0) 16 s =
      packedPayload env data sizeBytes (GifTag.load data 0) 16 s := by
    unfold payload
    rw [h.setupFlg]
    rfl
  have hbitbltbuf : GSRegId.ofAddress (bits (loadLE64 data (16 + 8)) 0 8) = .BITBLTBUF :=
    congrArg GSRegId.ofAddress h.bitbltbuf
  have htrxpos : GSRegId.ofAddress (bits (loadLE64 data (32 + 8)) 0 8) = .TRXPOS :=
    congrArg GSRegId.ofAddress h.trxpos
  have htrxreg : GSRegId.ofAddress (bits (loadLE64 data (48 + 8)) 0 8) = .TRXREG :=
    congrArg GSRegId.ofAddress h.trxreg
  have htrxdir : GSRegId.ofAddress (bits (loadLE64 data (64 + 8)) 0 8) = .TRXDIR :=
    congrArg GSRegId.ofAddress h.trxdir
  have hend : (s.setUpUpload env data).drawCommandLimitReached = false :=
    (setUpUpload_limit h.mode).trans hlimit
  have hfirst := @writeDescriptors_ad _ env data sizeBytes 16 s .BITBLTBUF (by omega) hbitbltbuf
    hlimit [0x0E, 0x0E, 0x0E]
  have hsecond := @writeDescriptors_ad _ env data sizeBytes 32
    (s.writeRegister env .BITBLTBUF (loadLE64 data 16)) .TRXPOS (by omega) htrxpos hlimit
    [0x0E, 0x0E]
  have hthird := @writeDescriptors_ad _ env data sizeBytes 48
    ((s.writeRegister env .BITBLTBUF (loadLE64 data 16)).writeRegister env .TRXPOS
      (loadLE64 data 32)) .TRXREG (by omega) htrxreg hlimit [0x0E]
  have hfourth := @writeDescriptors_ad _ env data sizeBytes 64 _ .TRXDIR (by omega) htrxdir hend []
  rw [hplain, packedPayload, hregs]
  exact hfirst.trans (hsecond.trans (hthird.trans hfourth))

/-- The decoder on the second one. -/
theorem payload_image (h : NativeImageUpload data sizeBytes) :
    payload false env data sizeBytes (GifTag.load data 80) 96 s =
      .continue sizeBytes (s.processImageData (fun a => data (96 + a))
        ((GifTag.load data 80).nloop * 16)) := by
  have hbytes := h.imageBytes
  have hplain : payload false env data sizeBytes (GifTag.load data 80) 96 s =
      imagePayload data sizeBytes (GifTag.load data 80) 96 s := by
    unfold payload
    rcases h.imageFlg with himage | himage <;> rw [himage]
  rw [hplain, imagePayload, if_neg (by omega), hbytes]

def uploaded (env : GsRasterizer ρ) (s : GsState ρ) (data : Memory) : GsState ρ :=
  (s.setUpUpload env data).processImageData (fun a => data (96 + a))
    ((GifTag.load data 80).nloop * 16)

/-- **The decoder does what the image upload does, and what the tags do to Q and PRIM.** -/
theorem decodeGIFPacket_upload (h : NativeImageUpload data sizeBytes)
    (hignores : s.ignores sizeBytes = false) :
    s.decodeGIFPacket env data sizeBytes =
      (s.uploaded env data).afterTags (uploadPrim data) := by
  have hsize := h.size
  have hlimit : s.drawCommandLimitReached = false := by
    unfold ignores at hignores
    exact (Bool.or_eq_false_iff.1 hignores).2
  have hbegin : (s.beginTag env (GifTag.load data 0)).drawCommandLimitReached = false :=
    beginTag_limit.trans hlimit
  unfold decodeGIFPacket uploaded
  rw [hignores, if_neg Bool.false_ne_true, decodeTags_of_le (by omega), payload_setup h hbegin]
  dsimp only
  rw [decodeTags_of_le (by omega), payload_image h]
  dsimp only
  rw [decodeTags_of_lt (by omega), setUpUpload_beginTag h.mode, processImageData_beginTag,
    processImageData_beginTag, beginTag_beginTag]

theorem processGIFPacket_upload (h : NativeImageUpload data sizeBytes)
    (hignores : s.ignores sizeBytes = false) :
    s.processGIFPacket env data sizeBytes = s.uploaded env data := by
  unfold processGIFPacket tryProcessNativeImageUploadPacket
  rw [hignores, if_neg Bool.false_ne_true, if_pos h]
  rfl

theorem processImageData_unseen {payload : Memory} :
    (s.processImageData payload n).cur = s.cur ∧ (s.processImageData payload n).prim = s.prim ∧
      (s.processImageData payload n).vtxCount = s.vtxCount ∧
      (s.processImageData payload n).vtxIndex = s.vtxIndex := by
  unfold processImageData
  split
  · exact ⟨rfl, rfl, rfl, rfl⟩
  · split <;> exact ⟨rfl, rfl, rfl, rfl⟩

theorem setUpUpload_unseen (h : bits (loadLE64 data 64) 0 2 = 0) :
    (s.setUpUpload env data).cur = s.cur ∧ (s.setUpUpload env data).prim = s.prim ∧
      (s.setUpUpload env data).vtxCount = s.vtxCount ∧
      (s.setUpUpload env data).vtxIndex = s.vtxIndex := by
  have hsetup : s.setUpUpload env data =
      (((s.writeRegister env .BITBLTBUF (loadLE64 data 16)).writeRegister env .TRXPOS
        (loadLE64 data 32)).writeRegister env .TRXREG (loadLE64 data 48)).writeTrxdir
          (loadLE64 data 64) := rfl
  rw [hsetup, writeTrxdir_upload h]
  exact ⟨rfl, rfl, rfl, rfl⟩

/-- The upload itself leaves Q, PRIM and the vertex queue alone. -/
theorem uploaded_unseen (h : NativeImageUpload data sizeBytes) (prim : Option (BitVec 64)) :
    (s.uploaded env data).TagsUnseen prim ↔ s.TagsUnseen prim := by
  obtain ⟨hcur, hprim, hcount, hindex⟩ := @setUpUpload_unseen _ env data s h.mode
  obtain ⟨hcur', hprim', hcount', hindex'⟩ := @processImageData_unseen _
    ((GifTag.load data 80).nloop * 16) (s.setUpUpload env data) fun a => data (96 + a)
  rw [hcur] at hcur'
  rw [hprim] at hprim'
  rw [hcount] at hcount'
  rw [hindex] at hindex'
  constructor
  · rintro ⟨hq, hall⟩
    refine ⟨hcur' ▸ hq, fun value hvalue => ?_⟩
    obtain ⟨h₁, h₂, h₃⟩ := hall value hvalue
    exact ⟨hprim' ▸ h₁, hcount' ▸ h₂, hindex' ▸ h₃⟩
  · rintro ⟨hq, hall⟩
    refine ⟨(congrArg GsAttributes.q hcur').trans hq, fun value hvalue => ?_⟩
    obtain ⟨h₁, h₂, h₃⟩ := hall value hvalue
    exact ⟨hprim'.trans h₁, hcount'.trans h₂, hindex'.trans h₃⟩

/-- An image upload does what the decoder does where its tags change nothing. -/
theorem processGIFPacket_upload_iff (h : NativeImageUpload data sizeBytes)
    (hignores : s.ignores sizeBytes = false) :
    s.processGIFPacket env data sizeBytes = s.decodeGIFPacket env data sizeBytes ↔
      s.TagsUnseen (uploadPrim data) := by
  rw [processGIFPacket_upload h hignores, decodeGIFPacket_upload h hignores, eq_comm,
    afterTags_eq_iff, uploaded_unseen h]

/-- The packet leaves the state that the decoder leaves, whichever way it is taken. -/
def ShortcutsChangeNothing (env : GsRasterizer ρ) (s : GsState ρ) (data : Memory)
    (sizeBytes : Nat) : Prop :=
  s.processGIFPacket env data sizeBytes = s.decodeGIFPacket env data sizeBytes ∧
    ((s.processNativePackedGIFPacket env data sizeBytes).1 = true →
      (s.processNativePackedGIFPacket env data sizeBytes).2 =
        s.processGIFPacket env data sizeBytes)

/-- **The shortcuts change nothing, but for Q and PRIM after a native image upload.** A tag resets Q
to 1.0, and writes PRIM and empties the vertex queue if its PRE bit is set. The upload does neither
for its two tags. -/
theorem shortcutsChangeNothing_iff (env : GsRasterizer ρ) (s : GsState ρ) (data : Memory)
    (sizeBytes : Nat) :
    ShortcutsChangeNothing env s data sizeBytes ↔
      (NativeImageUpload data sizeBytes → s.ignores sizeBytes = false →
        s.TagsUnseen (uploadPrim data)) := by
  constructor
  · intro ⟨hsame, _⟩ hupload hignores
    exact (processGIFPacket_upload_iff hupload hignores).1 hsame
  · intro h
    refine ⟨?_, processNativePackedGIFPacket_eq⟩
    by_cases hupload : NativeImageUpload data sizeBytes
    · cases hignores : s.ignores sizeBytes with
      | true =>
        unfold processGIFPacket decodeGIFPacket
        rw [hignores, if_pos rfl, if_pos rfl]
      | false => exact (processGIFPacket_upload_iff hupload hignores).2 (h hupload hignores)
    · exact processGIFPacket_of_not_upload hupload

def packetOfWords (words : List Nat) : Memory := fun a =>
  UInt8.ofNat (words.getD (a / 8) 0 >>> (8 * (a % 8)))

/-- An upload of four pixels where Q is 2.0. -/
theorem upload_keeps_q :
    ¬ ShortcutsChangeNothing ⟨fun _ vram rasterizer => (vram, rasterizer), fun _ _ _ r => r,
        fun _ => 0⟩
      { cur := { q := 0x40000000 }, vram := fun _ => 0, rasterizer := () }
      (packetOfWords [0x1000000000000004, 0x0E, 0x0001000000000000, 0x50, 0, 0x51, 0x100000004, 0x52,
        0, 0x53, 0x0800000000000001, 0, 0, 0]) 112 := by
  intro ⟨hsame, _⟩
  have hunseen := (processGIFPacket_upload_iff (by decide +kernel) rfl).1 hsame
  exact absurd hunseen.q (by decide)

end GsState

end Ps2Recomp.GS
