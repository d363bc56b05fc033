import Ps2Recomp.Gs.Footprint
import Ps2Recomp.Gs.Readback
import Ps2Recomp.Gs.UploadChunking
import Ps2Recomp.Gs.WriteRegister

/-!
# The pages of a transfer

Before a transfer touches the memory it tells the rasterizer which pages it will read and write.
Uploads and copies change nothing outside these pages (`uploads_in_writePages`, `copy_in_pages`), and
what readbacks and copies make depends on nothing else (`readback_of_hostPages`, `copy_in_pages`).
-/

namespace Ps2Recomp

open GSMem BitMemory

variable {psm : PixelStorageMode} {mask : GsVramPageMask} {bp bw x y width height a b i : Nat}

/-! ## One memory on the pages of a mask -/

/-- One memory on the pages of the mask, the other one elsewhere. -/
def GsVramPageMask.over (mask : GsVramPageMask) (vram rest : Memory) : Memory := fun addr =>
  if mask.test (addr / 8192) then vram addr else rest addr

theorem GsVramPageMask.over_self (vram : Memory) : mask.over vram vram = vram :=
  funext fun _ => ite_self _

theorem bit_over (vram rest : Memory) : bit (mask.over vram rest) i =
    if mask.test (i / 2 ^ 16) = true then bit vram i else bit rest i := by
  have hpage : i / 8 / 8192 = i / 2 ^ 16 := by omega
  simp only [bit, GsVramPageMask.over, hpage]
  split <;> rfl

namespace GSMem.PixelStorageMode

theorem page_of_bit (h : psm.position bp bw a b ≤ i ∧
    i < psm.position bp bw a b + psm.BitsPerPixel) : i / 2 ^ 16 = psm.pageOf bp bw a b := by
  have hle := psm.bit_shift_le bp bw a b
  rw [psm.position_eq] at h
  rw [pageOf]
  rw [ResolvePixelAddress_bits] at *
  dsimp only at *
  omega

theorem read_over (h : mask.test (psm.pageOf bp bw a b) = true) (vram rest : Memory) :
    psm.read (mask.over vram rest) bp bw a b = psm.read vram bp bw a b := by
  apply Nat.eq_of_testBit_eq
  intro j
  rw [testBit_read, testBit_read]
  by_cases hj : j < psm.BitsPerPixel
  · rw [bit_over, page_of_bit ⟨Nat.le_add_right _ j, Nat.add_lt_add_left hj _⟩, if_pos h]
  · simp [hj]

theorem write_over (h : mask.test (psm.pageOf bp bw a b) = true) (vram rest : Memory)
    (value : Nat) : psm.write (mask.over vram rest) bp bw a b value =
      mask.over (psm.write vram bp bw a b value) rest := by
  apply ext_bit
  intro i
  rw [bit_over, bit_write, bit_write, bit_over]
  split
  next hi => rw [page_of_bit hi, if_pos h]
  next => rfl

theorem test_surfaceRect (hx : x ≤ a ∧ a < x + width) (hy : y ≤ b ∧ b < y + height) :
    (gsVramPagesForSurfaceRect bp bw psm.value x y width height).test (psm.pageOf bp bw a b) =
      true := by
  by_cases hfits : a < 2 ^ 32 ∧ b < 2 ^ 32
  · have hmem := @pageOf_mem_surfaceRect psm bp bw x y width height (a - x) (b - y) (by omega)
      (by omega)
    rwa [Nat.add_sub_cancel' hx.1, Nat.add_sub_cancel' hy.1, Nat.mod_eq_of_lt hfits.1,
      Nat.mod_eq_of_lt hfits.2] at hmem
  · rw [gsVramPagesForSurfaceRect, if_neg (by omega), psm.pageGeometry_value]
    dsimp only
    rw [if_pos (by omega)]
    exact GsVramPageMask.test_setAll.2 (psm.pageOf_lt bp bw a b)

end GSMem.PixelStorageMode

open PixelStorageMode

def isPackedFourBitPsm (psm : Nat) : Bool :=
  psm = P4.value || psm = P4HL.value || psm = P4HH.value

/-- The pages of a transfer to or from the host: all, if rows of 4-bit pixels run over. -/
def transferPages (psm bp bw x y : Nat) (trxreg : GSTrxReg) : GsVramPageMask :=
  if isPackedFourBitPsm psm && trxreg.rrw % 2 ≠ 0 then .setAll
  else gsVramPagesForSurfaceRect bp (max bw 1) psm x y trxreg.rrw trxreg.rrh

theorem test_transferPages {trxreg : GSTrxReg} (h : psm.pixelsPerItem ∣ trxreg.rrw →
    (x ≤ a ∧ a < x + trxreg.rrw) ∧ y ≤ b ∧ b < y + trxreg.rrh) :
    (transferPages psm.value bp bw x y trxreg).test (psm.pageOf bp (max bw 1) a b) = true := by
  unfold transferPages
  split
  · exact GsVramPageMask.test_setAll.2 (psm.pageOf_lt _ _ _ _)
  next hrow =>
    have hwhole : psm.pixelsPerItem ∣ trxreg.rrw := by
      cases psm
      case P4 | P4HL | P4HH =>
        exact Nat.dvd_of_mod_eq_zero (Nat.mod_two_ne_one.1 (by simpa [isPackedFourBitPsm] using hrow))
      all_goals exact one_dvd _
    exact test_surfaceRect (h hwhole).1 (h hwhole).2

/-! ## Uploads -/

namespace GsTransfer

/-- The pages that `processImageData` announces. -/
def writePages (s : GsTransfer) : GsVramPageMask :=
  transferPages s.bitbltbuf.dpsm.value s.bitbltbuf.dbp s.bitbltbuf.dbw s.trxpos.dsax s.trxpos.dsay
    s.trxreg

/-- The transfer started in `start` has changed nothing outside its pages, and is at a pixel of its
rectangle unless its rows run over. -/
structure Confined (start s : GsTransfer) : Prop where
  bitbltbuf_eq : s.bitbltbuf = start.bitbltbuf
  trxreg_eq : s.trxreg = start.trxreg
  atPixel : 0 < start.totalPixels → start.bitbltbuf.dpsm.pixelsPerItem ∣ start.trxreg.rrw →
    s.trxdir = 0 →
      ∃ n < start.totalPixels, start.bitbltbuf.dpsm.pixelsPerItem ∣ n ∧ AtPixel start n s
  unchanged : ∀ i, bit s.vram i = bit start.vram i ∨ start.writePages.test (i / 2 ^ 16) = true

variable {start s : GsTransfer} {data : Memory} {sizeBytes offset : Nat}

theorem mem_rowWrites {w : PixelWrite} {x : Nat} {cs : List Nat} (h : w ∈ s.rowWrites x cs) :
    ∃ k < cs.length, w.x = x + k ∧ w.y = s.transferState.y := by
  obtain ⟨k, hk, rfl⟩ := List.mem_mapIdx.1 h
  exact ⟨k, by simpa using hk, rfl, rfl⟩

theorem Confined.item (h : Confined start s) (hpos : 0 < start.totalPixels) (hdir : s.trxdir = 0) :
    Confined start (s.uploadItem data sizeBytes offset) := by
  have hw : 0 < start.trxreg.rrw := Nat.pos_of_mul_pos_right hpos
  have hitem := uploadItem_eq s data sizeBytes offset
  dsimp only at hitem
  refine ⟨hitem ▸ h.bitbltbuf_eq, hitem ▸ h.trxreg_eq, fun _ hrows hdir' => ?_, fun i => ?_⟩
  · obtain ⟨n, hn, hwhole, hat⟩ := h.atPixel hpos hrows hdir
    have hmore : n + start.bitbltbuf.dpsm.pixelsPerItem < start.totalPixels := by
      by_contra hlast
      rw [hitem, h.bitbltbuf_eq, hat.state_eq] at hdir'
      simp [Nat.not_lt.1 hlast] at hdir'
    exact ⟨_, hmore, Nat.dvd_add hwhole (Nat.dvd_refl _),
      hat.next (GsReadback.row_of_dvd hrows hwhole hw) hmore⟩
  · by_cases hcovered : ∃ w ∈ s.rowWrites s.transferState.x
        ((uploadFormat s.bitbltbuf.dpsm).pixels
          (load data offset (uploadFormat s.bitbltbuf.dpsm).size)), Covers s.bitbltbuf w i
    · obtain ⟨w, hmem, hcovers⟩ := hcovered
      obtain ⟨k, hk, hx, hy⟩ := mem_rowWrites hmem
      rw [PixelStorageMode.length_pixels, h.bitbltbuf_eq] at hk
      rw [Covers, h.bitbltbuf_eq] at hcovers
      rw [page_of_bit hcovers]
      refine .inr (test_transferPages fun hrows => ?_)
      obtain ⟨n, hn, hwhole, hat⟩ := h.atPixel hpos hrows hdir
      have hrow := GsReadback.row_of_dvd hrows hwhole hw
      have hcolumn : n / start.trxreg.rrw < start.trxreg.rrh := Nat.div_lt_of_lt_mul hn
      rw [hat.state_eq] at hx hy
      dsimp only at hx hy
      generalize n / start.trxreg.rrw = row at hcolumn hy
      omega
    · rw [hitem]
      dsimp only
      rw [bit_writes_of_not_covers (by simpa using hcovered)]
      exact h.unchanged i

theorem Confined.loop (h : Confined start s) (hpos : 0 < start.totalPixels) (hdir : s.trxdir = 0) :
    Confined start (s.uploadLoop data sizeBytes offset) := by
  induction hleft : sizeBytes - offset using Nat.strong_induction_on generalizing s offset with
  | _ left ih =>
  rw [uploadLoop]
  split
  · dsimp only
    split
    · exact h.item hpos hdir
    next hmore =>
      have hstep := uploadFormat_step_pos s.bitbltbuf.dpsm
      refine ih _ (by omega) (h.item hpos hdir) ?_ rfl
      rw [uploadItem_eq] at hmore ⊢
      exact (if_neg hmore).trans hdir
  · exact h

/-- **Uploads stay in the pages they announce**, whatever the payloads are. -/
theorem uploads_in_writePages (start : GsTransfer) (calls : List (UploadCall × Memory)) (i : Nat) :
    bit (Machine.run upload start.writeTrxdir calls).vram i = bit start.vram i ∨
      start.writePages.test (i / 2 ^ 16) = true := by
  have hstart : Confined start start.writeTrxdir :=
    ⟨rfl, rfl, fun hpos _ _ => ⟨0, hpos, Nat.dvd_zero _, rfl, rfl, rfl, by
      simp [writeTrxdir, totalPixels]⟩, fun _ => .inl rfl⟩
  refine (Machine.invariant (I := Confined start) (fun s call hs _ => ?_) hstart
    (Machine.along_of_forall fun _ _ _ => trivial)).unchanged i
  unfold upload processImageData
  split
  · exact hs
  next hdir =>
    split
    · exact hs
    next hextent =>
      rw [hs.trxreg_eq] at hextent
      exact hs.loop (Nat.mul_pos (by omega) (by omega)) (not_not.1 hdir)

end GsTransfer

namespace GS

theorem GSPsm.value_eq {n : Nat} (h : GSPsm.ofBits n = some psm) : psm.value = n := by
  unfold GSPsm.ofBits at h
  split at h <;> cases h <;> rfl

/-- The page of the pixel is in the mask; what is no format has no pixels. -/
def Announced (mask : GsVramPageMask) (n bp bw a b : Nat) : Prop :=
  ∀ psm, GSPsm.ofBits n = some psm → mask.test (psm.pageOf bp bw a b) = true

variable {n : Nat}

theorem ReadVram_over (h : Announced mask n bp bw a b) (vram rest : Memory) :
    ReadVram n (mask.over vram rest) bp bw a b = ReadVram n vram bp bw a b := by
  unfold ReadVram
  cases hpsm : GSPsm.ofBits n with
  | none => rfl
  | some psm => exact read_over (h psm hpsm) vram rest

theorem WriteVram_over (h : Announced mask n bp bw a b) (vram rest : Memory) (value : Nat) :
    WriteVram n (mask.over vram rest) bp bw a b value =
      mask.over (WriteVram n vram bp bw a b value) rest := by
  unfold WriteVram
  cases hpsm : GSPsm.ofBits n with
  | none => rfl
  | some psm => exact write_over (h psm hpsm) vram rest value

theorem announced_surfaceRect (hx : x ≤ a ∧ a < x + width) (hy : y ≤ b ∧ b < y + height) :
    Announced (gsVramPagesForSurfaceRect bp bw n x y width height) n bp bw a b := fun _ hpsm =>
  GSPsm.value_eq hpsm ▸ test_surfaceRect hx hy

namespace GsState

variable {ρ : Type*} (s : GsState ρ)

/-! ## Readbacks -/

/-- The pages that `performLocalToHostToBuffer` announces. -/
def hostPages : GsVramPageMask :=
  transferPages s.bitbltbuf.spsm s.bitbltbuf.sbp s.bitbltbuf.sbw s.trxpos.ssax s.trxpos.ssay s.trxreg

/-- The pixels are read in whole groups. -/
def Grouped (n : Nat) : Prop :=
  ∀ psm, GSPsm.ofBits s.bitbltbuf.spsm = some psm → psm.pixelsPerItem ∣ n

variable {s} {k : Nat}

theorem announced_hostPages (hn : n < s.trxreg.rrw * s.trxreg.rrh) (hgroup : s.Grouped n)
    (hk : ∀ psm, GSPsm.ofBits s.bitbltbuf.spsm = some psm → k < psm.pixelsPerItem) :
    Announced s.hostPages s.bitbltbuf.spsm s.bitbltbuf.sbp (max s.bitbltbuf.sbw 1)
      (n % s.trxreg.rrw + s.trxpos.ssax + k) (n / s.trxreg.rrw + s.trxpos.ssay) := by
  intro psm hpsm
  rw [hostPages, ← GSPsm.value_eq hpsm]
  refine test_transferPages fun hrows => ?_
  have hrow := GsReadback.row_of_dvd hrows (hgroup psm hpsm)
    (Nat.pos_of_mul_pos_right (Nat.zero_lt_of_lt hn))
  have hcolumn : n / s.trxreg.rrw < s.trxreg.rrh := Nat.div_lt_of_lt_mul hn
  have hk := hk psm hpsm
  generalize n / s.trxreg.rrw = row at hcolumn ⊢
  omega

theorem readPixel_over (rest : Memory) (hn : n < s.trxreg.rrw * s.trxreg.rrh)
    (hgroup : s.Grouped n) :
    { s with vram := s.hostPages.over s.vram rest }.readPixel n = s.readPixel n := by
  have hfirst := announced_hostPages hn hgroup fun psm _ => psm.pixelsPerItem_pos
  rw [Nat.add_zero] at hfirst
  unfold readPixel
  dsimp only
  rw [ReadVram_over hfirst]
  split
  case h_5 hfour =>
    rw [ReadVram_over (announced_hostPages hn hgroup fun psm hpsm => by
      rw [bitsPerPixel, hpsm] at hfour
      simp [pixelsPerItem, hfour])]
  all_goals rfl

theorem readbackLoop_over (rest : Memory) (hgroup : s.Grouped n) :
    { s with vram := s.hostPages.over s.vram rest }.readbackLoop (s.trxreg.rrw * s.trxreg.rrh) n =
      s.readbackLoop (s.trxreg.rrw * s.trxreg.rrh) n := by
  induction hleft : s.trxreg.rrw * s.trxreg.rrh - n using Nat.strong_induction_on generalizing n with
  | _ left ih =>
  rw [readbackLoop, readbackLoop.eq_def s]
  split
  next hlt =>
    rw [readPixel_over rest hlt hgroup]
    refine congrArg _ (ih _ (by split <;> omega) (fun psm hpsm => ?_) rfl)
    have hdvd := hgroup psm hpsm
    rw [pixelsPerItem] at hdvd ⊢
    rw [bitsPerPixel, hpsm]
    split <;> simp_all
  · rfl

variable (s) in
/-- The pages that `performLocalToLocalTransfer` announces to be read. -/
def readPages : GsVramPageMask :=
  gsVramPagesForSurfaceRect s.bitbltbuf.sbp s.bitbltbuf.sbw s.bitbltbuf.spsm s.trxpos.ssax
    s.trxpos.ssay s.trxreg.rrw s.trxreg.rrh

variable (s) in
/-- The pages that it announces to be written. -/
def writePages : GsVramPageMask :=
  gsVramPagesForSurfaceRect s.bitbltbuf.dbp s.bitbltbuf.dbw s.bitbltbuf.dpsm s.trxpos.dsax
    s.trxpos.dsay s.trxreg.rrw s.trxreg.rrh

theorem place_lt {p : Prop} [Decidable p] {column width : Nat} (h : column < width) :
    (if p then width - column - 1 else column) < width := by
  split <;> omega

/-- An iteration copies from the pages read to those written. -/
theorem copyPixel_eq (hk : k < s.trxreg.rrw * s.trxreg.rrh) : ∃ sx sy dx dy,
    (∀ vram, s.copyPixel vram k = WriteVram s.bitbltbuf.dpsm vram s.bitbltbuf.dbp s.bitbltbuf.dbw
      dx dy (ReadVram s.bitbltbuf.spsm vram s.bitbltbuf.sbp s.bitbltbuf.sbw sx sy)) ∧
    Announced s.readPages s.bitbltbuf.spsm s.bitbltbuf.sbp s.bitbltbuf.sbw sx sy ∧
    Announced s.writePages s.bitbltbuf.dpsm s.bitbltbuf.dbp s.bitbltbuf.dbw dx dy := by
  have hx (p : Prop) [Decidable p] := place_lt (p := p)
    (Nat.mod_lt k (Nat.pos_of_mul_pos_right (Nat.zero_lt_of_lt hk)))
  have hy (p : Prop) [Decidable p] := place_lt (p := p) (Nat.div_lt_of_lt_mul hk)
  exact ⟨_, _, _, _, fun _ => rfl,
    announced_surfaceRect ⟨Nat.le_add_left _ _, Nat.add_comm _ _ ▸ Nat.add_lt_add_left (hx _) _⟩
      ⟨Nat.le_add_left _ _, Nat.add_comm _ _ ▸ Nat.add_lt_add_left (hy _) _⟩,
    announced_surfaceRect ⟨Nat.le_add_left _ _, Nat.add_comm _ _ ▸ Nat.add_lt_add_left (hx _) _⟩
      ⟨Nat.le_add_left _ _, Nat.add_comm _ _ ▸ Nat.add_lt_add_left (hy _) _⟩⟩

theorem copy_over (hn : n ≤ s.trxreg.rrw * s.trxreg.rrh) (vram rest : Memory) :
    (List.range n).foldl s.copyPixel vram =
        s.writePages.over ((List.range n).foldl s.copyPixel vram) vram ∧
      (List.range n).foldl s.copyPixel ((s.readPages.unionWith s.writePages).over vram rest) =
        (s.readPages.unionWith s.writePages).over ((List.range n).foldl s.copyPixel vram) rest := by
  induction n with
  | zero => exact ⟨(GsVramPageMask.over_self vram).symm, rfl⟩
  | succ n ih =>
    obtain ⟨hkept, hover⟩ := ih (Nat.le_of_succ_le hn)
    obtain ⟨sx, sy, dx, dy, hcopy, hread, hwrite⟩ := copyPixel_eq hn
    simp only [List.range_succ, List.foldl_append, List.foldl_cons, List.foldl_nil, hcopy, hover]
    constructor
    · rw [← WriteVram_over hwrite, ← hkept]
    · rw [ReadVram_over fun psm h => GsVramPageMask.test_unionWith.2 (.inl (hread psm h)),
        WriteVram_over fun psm h => GsVramPageMask.test_unionWith.2 (.inr (hwrite psm h))]

end GsState

end GS

end Ps2Recomp
