import Ps2Recomp.Gs.UploadExact

/-!
# Image uploads cut into payloads

`UploadExact` is what a transfer should do with the payloads it has been given so far;
`uploads_exact_iff` says when it does.

It does for the formats of 32, 16 and 8 bits, whatever the payloads are. The loops of the other
formats do not keep what they need across iterations:

* A pixel of 24 bits is read as a word of 32, and what is left of a payload is dropped. The transfer
  is exact only if the first payload holds all of it and one byte more.
* Two pixels of 4 bits are written side by side before the row is ended, so a row of odd width runs
  over. The transfer is exact only as long as it stays in its first row.
-/

namespace Ps2Recomp

open GSMem BitMemory ByteCodec

namespace GsTransfer

variable {start s : GsTransfer} {stream : Bytes} {n : Nat} {data : Memory}
  {sizeBytes offset : Nat}

/-! ## Pixels in memory -/

/-- The bit of the memory belongs to the pixel. -/
def Covers (buffer : GSBitBltBuf) (w : PixelWrite) (i : Nat) : Prop :=
  buffer.dpsm.position buffer.dbp (max buffer.dbw 1) w.x w.y ≤ i ∧
    i < buffer.dpsm.position buffer.dbp (max buffer.dbw 1) w.x w.y + buffer.dpsm.BitsPerPixel

theorem bit_applyWrite_of_not_covers {buffer : GSBitBltBuf} {vram : Memory} {w : PixelWrite}
    {i : Nat} (h : ¬ Covers buffer w i) : bit (applyWrite buffer vram w) i = bit vram i := by
  rw [applyWrite, PixelStorageMode.bit_write]
  exact if_neg h

theorem bit_writes_of_not_covers {buffer : GSBitBltBuf} {vram : Memory} {ws : List PixelWrite}
    {i : Nat} (h : ∀ w ∈ ws, ¬ Covers buffer w i) :
    bit (ws.foldl (applyWrite buffer) vram) i = bit vram i := by
  induction ws generalizing vram with
  | nil => rfl
  | cons w ws ih =>
    rw [List.foldl_cons, ih fun w' hw' => h w' (List.mem_cons_of_mem _ hw')]
    exact bit_applyWrite_of_not_covers (h w List.mem_cons_self)

/-- A pixel that no later one overlaps is read back. -/
theorem read_writes {buffer : GSBitBltBuf} {vram : Memory} {before after : List PixelWrite}
    {w : PixelWrite} (hafter : ∀ w' ∈ after, ∀ i, Covers buffer w i → ¬ Covers buffer w' i) :
    buffer.dpsm.read ((before ++ w :: after).foldl (applyWrite buffer) vram) buffer.dbp
        (max buffer.dbw 1) w.x w.y =
      w.value % 2 ^ buffer.dpsm.BitsPerPixel := by
  rw [List.foldl_append, List.foldl_cons]
  generalize before.foldl (applyWrite buffer) vram = vram
  rw [← PixelStorageMode.read_write buffer.dpsm vram]
  apply Nat.eq_of_testBit_eq
  intro j
  rw [PixelStorageMode.testBit_read, PixelStorageMode.testBit_read]
  by_cases hj : j < buffer.dpsm.BitsPerPixel
  · rw [bit_writes_of_not_covers fun w' hw' => hafter w' hw' _ ⟨by omega, by omega⟩]
    rfl
  · simp [hj]

/-! ## Exact uploads -/

/-- The transfer has done with the payloads of the calls what it should. -/
structure UploadExact (start : GsTransfer) (calls : List (UploadCall × Memory)) : Prop where
  /-- Pixel `i` is written at its place, in the order of the stream. -/
  writes_eq : (Machine.run upload start.writeTrxdir calls).writes =
    (List.range (min start.totalPixels
      (8 * (streamOf calls).length / start.bitbltbuf.dpsm.BitsPerPixel))).map
        (start.pixelWrite (streamOf calls))
  /-- A bit that belongs to none of these pixels does not change. -/
  unchanged : ∀ i,
    (∀ w ∈ (Machine.run upload start.writeTrxdir calls).writes, ¬ Covers start.bitbltbuf w i) →
      bit (Machine.run upload start.writeTrxdir calls).vram i = bit start.vram i
  /-- A pixel that no later one overlaps is in memory. -/
  stored : ∀ before w after,
    (Machine.run upload start.writeTrxdir calls).writes = before ++ w :: after →
    (∀ w' ∈ after, ∀ i, Covers start.bitbltbuf w i → ¬ Covers start.bitbltbuf w' i) →
      start.bitbltbuf.dpsm.read (Machine.run upload start.writeTrxdir calls).vram
        start.bitbltbuf.dbp (max start.bitbltbuf.dbw 1) w.x w.y = w.value
  outside_eq : (Machine.run upload start.writeTrxdir calls).outside = false
  /-- The transfer is inactive exactly from its last pixel on. -/
  trxdir_eq : (Machine.run upload start.writeTrxdir calls).trxdir =
    if start.totalPixels ≤
      8 * (streamOf calls).length / start.bitbltbuf.dpsm.BitsPerPixel then 3 else 0
  ignored : (Machine.run upload start.writeTrxdir calls).trxdir = 3 →
    ∀ call, (Machine.run upload start.writeTrxdir calls).upload call =
      Machine.run upload start.writeTrxdir calls

theorem streamPixel_lt (psm : PixelStorageMode) (stream : Bytes) (i : Nat) :
    psm.streamPixel stream i < 2 ^ psm.BitsPerPixel := Nat.mod_lt _ (Nat.two_pow_pos _)

theorem Received.exact {calls : List (UploadCall × Memory)} {n : Nat}
    (h : Received start (streamOf calls) n (Machine.run upload start.writeTrxdir calls))
    (hn : n = min start.totalPixels
      (8 * (streamOf calls).length / start.bitbltbuf.dpsm.BitsPerPixel)) :
    UploadExact start calls where
  writes_eq := hn ▸ h.writes_eq
  unchanged i hi := by
    rw [h.vram_eq]
    exact bit_writes_of_not_covers hi
  stored before w after hwrites hafter := by
    have hw : w ∈ (List.range n).map (start.pixelWrite (streamOf calls)) := by
      rw [← h.writes_eq, hwrites]
      exact List.mem_append_right _ List.mem_cons_self
    obtain ⟨k, -, rfl⟩ := List.mem_map.1 hw
    rw [h.vram_eq, hwrites, read_writes hafter]
    exact Nat.mod_eq_of_lt (streamPixel_lt _ _ _)
  outside_eq := h.outside_eq
  trxdir_eq := by
    split
    next hall => exact h.inactive (by omega)
    next hmore => exact (h.active (by omega)).1
  ignored hdir call := by
    rw [upload, processImageData, if_pos (by rw [hdir]; decide)]

/-! ## When payloads fit -/

/-- The condition under which an upload is exact. -/
def UploadFits (start : GsTransfer) (sizes : List Nat) : Prop :=
  if start.bitbltbuf.dpsm.BitsPerPixel = 24 then
    ∀ size, sizes.find? (· ≠ 0) = some size → 3 * start.totalPixels < size
  else if start.bitbltbuf.dpsm.BitsPerPixel = 4 then
    start.trxreg.rrw % 2 = 0 ∨ 2 * sizes.sum < start.trxreg.rrw
  else True

theorem bits_cases (psm : PixelStorageMode) :
    (psm.BitsPerPixel = 24 ∧ (uploadFormat psm).size = 4 ∧ (uploadFormat psm).step = 3 ∧
        psm.pixelsPerItem = 1) ∨
      (psm.BitsPerPixel = 4 ∧ (uploadFormat psm).size = 1 ∧ (uploadFormat psm).step = 1 ∧
        psm.pixelsPerItem = 2) ∨
      (psm.BitsPerPixel = 8 * (uploadFormat psm).size ∧ (uploadFormat psm).size ∣ 8 ∧
        psm.pixelsPerItem = 1) := by
  cases psm <;> decide

/-- Payloads of whole pixels fit everywhere. -/
theorem itemsFit_aligned {before size : Nat} (hw : 0 < start.trxreg.rrw)
    (hbits : start.bitbltbuf.dpsm.BitsPerPixel = 8 * (uploadFormat start.bitbltbuf.dpsm).size)
    (hitem : start.bitbltbuf.dpsm.pixelsPerItem = 1)
    (hdvd : (uploadFormat start.bitbltbuf.dpsm).size ∣ before + size) :
    ItemsFit start before size := by
  intro o m ho hm hpos
  rw [hbits] at hpos
  obtain ⟨k, hk⟩ := hdvd
  generalize (uploadFormat start.bitbltbuf.dpsm).size = width at hpos hk ⊢
  have hm' : before + o = width * m := by
    have hmul : 8 * (width * m) = 8 * (before + o) := by rw [← hpos]; ring
    omega
  have hmk : m < k := Nat.lt_of_mul_lt_mul_left (a := width) (by omega)
  have hnext : width * (m + 1) ≤ width * k := Nat.mul_le_mul_left _ hmk
  rw [Nat.mul_add, Nat.mul_one] at hnext
  have hrow := Nat.mod_lt m hw
  exact ⟨by omega, by omega⟩

/-- Payloads of whole pairs of pixels fit in rows of even width and in the first row. -/
theorem itemsFit_pairs {before size : Nat} (hw : 0 < start.trxreg.rrw)
    (hbits : start.bitbltbuf.dpsm.BitsPerPixel = 4)
    (hsize : (uploadFormat start.bitbltbuf.dpsm).size = 1)
    (hitem : start.bitbltbuf.dpsm.pixelsPerItem = 2)
    (hrow : start.trxreg.rrw % 2 = 0 ∨ 2 * (before + size) < start.trxreg.rrw) :
    ItemsFit start before size := by
  intro o m ho hm hpos
  rw [hbits] at hpos
  rw [hsize, hitem]
  refine ⟨ho, ?_⟩
  rcases hrow with heven | hfirst
  · have hlt := Nat.mod_lt m hw
    have hmod : m % start.trxreg.rrw % 2 = m % 2 :=
      Nat.mod_mod_of_dvd _ (Nat.dvd_of_mod_eq_zero heven)
    omega
  · rw [Nat.mod_eq_of_lt (by omega)]
    omega

/-- A payload behind the last pixel of 24 bits has no iteration. -/
theorem itemsFit_behind {before size : Nat}
    (hbits : start.bitbltbuf.dpsm.BitsPerPixel = 24)
    (hbefore : 3 * start.totalPixels < before) : ItemsFit start before size := by
  intro o m ho hm hpos
  rw [hbits] at hpos
  omega

theorem allFit_aligned {before : Nat} {sizes : List Nat} (hw : 0 < start.trxreg.rrw)
    (hbits : start.bitbltbuf.dpsm.BitsPerPixel = 8 * (uploadFormat start.bitbltbuf.dpsm).size)
    (hitem : start.bitbltbuf.dpsm.pixelsPerItem = 1)
    (hwidth : (uploadFormat start.bitbltbuf.dpsm).size ∣ 8) (hbefore : 8 ∣ before)
    (hsizes : ∀ size ∈ sizes, 8 ∣ size) : AllFit start before sizes := by
  induction sizes generalizing before with
  | nil => trivial
  | cons size sizes ih =>
    have hsum := Nat.dvd_add hbefore (hsizes size List.mem_cons_self)
    exact ⟨itemsFit_aligned hw hbits hitem (hwidth.trans hsum),
      ih hsum fun size' h => hsizes size' (List.mem_cons_of_mem _ h)⟩

theorem allFit_pairs {before : Nat} {sizes : List Nat} (hw : 0 < start.trxreg.rrw)
    (hbits : start.bitbltbuf.dpsm.BitsPerPixel = 4)
    (hsize : (uploadFormat start.bitbltbuf.dpsm).size = 1)
    (hitem : start.bitbltbuf.dpsm.pixelsPerItem = 2)
    (hrow : start.trxreg.rrw % 2 = 0 ∨ 2 * (before + sizes.sum) < start.trxreg.rrw) :
    AllFit start before sizes := by
  induction sizes generalizing before with
  | nil => trivial
  | cons size sizes ih =>
    rw [List.sum_cons] at hrow
    exact ⟨itemsFit_pairs hw hbits hsize hitem (by omega), ih (by omega)⟩

theorem allFit_behind {before : Nat} {sizes : List Nat}
    (hbits : start.bitbltbuf.dpsm.BitsPerPixel = 24)
    (hbefore : 3 * start.totalPixels < before) : AllFit start before sizes := by
  induction sizes generalizing before with
  | nil => trivial
  | cons size sizes ih => exact ⟨itemsFit_behind hbits hbefore, ih (by omega)⟩

/-- The first payload that is not empty holds the whole transfer and one byte more. -/
theorem allFit_first {sizes : List Nat} (hw : 0 < start.trxreg.rrw)
    (hbits : start.bitbltbuf.dpsm.BitsPerPixel = 24)
    (hsize : (uploadFormat start.bitbltbuf.dpsm).size = 4)
    (hitem : start.bitbltbuf.dpsm.pixelsPerItem = 1)
    (hfirst : ∀ size, sizes.find? (· ≠ 0) = some size → 3 * start.totalPixels < size) :
    AllFit start 0 sizes := by
  induction sizes with
  | nil => trivial
  | cons size sizes ih =>
    by_cases hzero : size = 0
    · subst hzero
      exact ⟨fun o m ho => absurd ho (Nat.not_lt_zero _), ih (by simpa using hfirst)⟩
    · have hall : 3 * start.totalPixels < size := hfirst size (by simp [hzero])
      refine ⟨fun o m ho hm hpos => ?_, allFit_behind hbits (by omega)⟩
      rw [hbits] at hpos
      rw [hsize, hitem]
      have hrow := Nat.mod_lt m hw
      exact ⟨by omega, by omega⟩

/-- **The condition makes every payload fit.** -/
theorem UploadFits.allFit {sizes : List Nat} (hw : 0 < start.trxreg.rrw)
    (hsizes : ∀ size ∈ sizes, 8 ∣ size) (h : UploadFits start sizes) : AllFit start 0 sizes := by
  unfold UploadFits at h
  obtain ⟨hbits, hsize, -, hitem⟩ | ⟨hbits, hsize, -, hitem⟩ | ⟨hbits, hwidth, hitem⟩ :=
    bits_cases start.bitbltbuf.dpsm
  · rw [if_pos hbits] at h
    exact allFit_first hw hbits hsize hitem h
  · rw [if_neg (by omega), if_pos hbits] at h
    exact allFit_pairs hw hbits hsize hitem (by simpa using h)
  · exact allFit_aligned hw hbits hitem hwidth (Nat.dvd_zero _) hsizes

theorem eight_dvd_payload (call : UploadCall) : 8 ∣ call.payload.length := by
  cases call with
  | image payload hquad => exact (by decide : 8 ∣ 16).trans hquad
  | hwreg value => rw [UploadCall.payload, length_littleEndian]

/-- The condition is enough. -/
theorem UploadFits.exact {calls : List (UploadCall × Memory)} (hw : 0 < start.trxreg.rrw)
    (hh : 0 < start.trxreg.rrh) (hwrites : start.writes = []) (houtside : start.outside = false)
    (h : UploadFits start (sizesOf calls)) : UploadExact start calls := by
  have hfit := h.allFit hw fun size hsize => by
    obtain ⟨call, -, rfl⟩ := List.mem_map.1 hsize
    exact eight_dvd_payload call.1
  have hzero : Received start ([] ++ streamOf calls) 0 start.writeTrxdir :=
    received_writeTrxdir start (Nat.mul_pos hw hh) hwrites houtside
  obtain ⟨n, hreceived, hle, hpos⟩ := hzero.calls hfit (by simp) (by simp)
  rw [List.nil_append] at hreceived hle hpos
  refine hreceived.exact ?_
  have hbits : 0 < start.bitbltbuf.dpsm.BitsPerPixel := by
    cases start.bitbltbuf.dpsm <;> decide
  have hdiv : n ≤ 8 * (streamOf calls).length / start.bitbltbuf.dpsm.BitsPerPixel :=
    (Nat.le_div_iff_mul_le hbits).2 hle
  rcases hpos with hall | hmore
  · omega
  · rw [← hmore, Nat.mul_div_cancel _ hbits]
    exact (Nat.min_eq_right hreceived.le).symm

/-! ## What goes wrong otherwise -/

theorem outside_item (h : s.outside = true) :
    (s.uploadItem data sizeBytes offset).outside = true := by
  rw [uploadItem_eq]
  simp [h]

theorem outside_loop (h : s.outside = true) :
    (s.uploadLoop data sizeBytes offset).outside = true := by
  induction hleft : sizeBytes - offset using Nat.strong_induction_on generalizing s offset with
  | _ left ih =>
  rw [uploadLoop]
  split
  · dsimp only
    split
    · exact outside_item h
    · have hstep := uploadFormat_step_pos s.bitbltbuf.dpsm
      exact ih _ (by omega) (outside_item h) rfl
  · exact h

/-- Once a byte outside a payload was read, that stays so. -/
theorem outside_run {calls : List (UploadCall × Memory)} (h : s.outside = true) :
    (Machine.run upload s calls).outside = true := by
  have hrun : Machine.Along upload (fun _ _ => True) s calls :=
    Machine.along_of_forall fun _ _ _ => trivial
  refine Machine.invariant (I := fun s : GsTransfer => s.outside = true) (fun s call hs _ => ?_) h
    hrun
  unfold upload processImageData
  split
  · exact hs
  · split
    · exact hs
    · exact outside_loop hs

/-- The last pixel of 24 bits that a payload starts is read past its end. -/
theorem loop_reads_outside (hbits : s.bitbltbuf.dpsm.BitsPerPixel = 24) (hlt : offset < sizeBytes)
    (hle : sizeBytes ≤
      offset + 3 * (s.transferState.total_pixels - s.transferState.copied_pixels)) :
    (s.uploadLoop data sizeBytes offset).outside = true := by
  induction hleft : sizeBytes - offset using Nat.strong_induction_on generalizing s offset with
  | _ left ih =>
  obtain ⟨-, hsize, hstep, hitem⟩ | ⟨hother, -⟩ | ⟨hother, hdvd, -⟩ := bits_cases s.bitbltbuf.dpsm
  · rw [uploadLoop, if_pos hlt]
    dsimp only
    by_cases hpast : offset + 4 > sizeBytes
    · have hout : (s.uploadItem data sizeBytes offset).outside = true := by
        rw [uploadItem_eq, hsize]
        simp [hpast]
      split
      · exact hout
      · exact outside_loop hout
    · -- A byte of the payload is left behind the pixel, so this is not the last pixel.
      have hmore : ¬ s.transferState.copied_pixels + 1 ≥ s.transferState.total_pixels := by omega
      have hcopied : (s.uploadItem data sizeBytes offset).transferState.copied_pixels =
          s.transferState.copied_pixels + 1 := by
        rw [uploadItem_eq, hitem]
      have htotal : (s.uploadItem data sizeBytes offset).transferState.total_pixels =
          s.transferState.total_pixels := by
        rw [uploadItem_eq, hitem]
        exact if_neg hmore
      rw [hcopied, if_neg hmore, hstep]
      refine ih _ (by omega) ?_ (by omega) ?_ rfl
      · rw [uploadItem_eq]
        exact hbits
      · rw [hcopied, htotal]
        omega
  · omega
  · rw [hbits] at hother
    rw [show (uploadFormat s.bitbltbuf.dpsm).size = 3 by omega] at hdvd
    exact absurd hdvd (by decide)

theorem upload_of_empty {call : UploadCall × Memory} (h : call.1.payload.length = 0) :
    s.upload call = s := by
  have hloop : s.uploadLoop (hostMemory call.1.payload call.2) 0 0 = s := by
    rw [uploadLoop, if_neg (Nat.lt_irrefl 0)]
  unfold upload processImageData
  rw [h, hloop]
  simp

theorem run_reads_outside {calls : List (UploadCall × Memory)} {size : Nat}
    (hbits : s.bitbltbuf.dpsm.BitsPerPixel = 24) (hdir : s.trxdir = 0)
    (hw : 0 < s.trxreg.rrw) (hh : 0 < s.trxreg.rrh) (hcopied : s.transferState.copied_pixels = 0)
    (hfirst : (sizesOf calls).find? (· ≠ 0) = some size)
    (hle : size ≤ 3 * s.transferState.total_pixels) :
    (Machine.run upload s calls).outside = true := by
  induction calls with
  | nil => cases hfirst
  | cons call calls ih =>
    rw [Machine.run_cons]
    by_cases hempty : call.1.payload.length = 0
    · rw [upload_of_empty hempty]
      refine ih ?_
      rwa [sizesOf, List.map_cons, List.find?_cons_of_neg (by simpa using hempty)] at hfirst
    · rw [sizesOf, List.map_cons, List.find?_cons_of_pos (by simpa using hempty),
        Option.some.injEq] at hfirst
      subst hfirst
      refine outside_run ?_
      rw [upload, processImageData, if_neg (not_not.2 hdir), if_neg (by omega)]
      exact loop_reads_outside hbits (by omega) (by omega)

/-- The pixel after a first row of odd width stands beside the row. -/
def RunsOver (start s : GsTransfer) : Prop :=
  ∃ w, s.writes[start.trxreg.rrw]? = some w ∧ w.x = start.trxpos.dsax + start.trxreg.rrw

theorem writes_item : s.writes <+: (s.uploadItem data sizeBytes offset).writes := by
  rw [uploadItem_eq]
  exact List.prefix_append _ _

theorem writes_loop : s.writes <+: (s.uploadLoop data sizeBytes offset).writes := by
  induction hleft : sizeBytes - offset using Nat.strong_induction_on generalizing s offset with
  | _ left ih =>
  rw [uploadLoop]
  split
  · dsimp only
    split
    · exact writes_item
    · have hstep := uploadFormat_step_pos s.bitbltbuf.dpsm
      exact writes_item.trans (ih _ (by omega) rfl)
  · exact List.prefix_rfl

theorem RunsOver.mono {s' : GsTransfer} (h : RunsOver start s) (hle : s.writes <+: s'.writes) :
    RunsOver start s' := by
  obtain ⟨w, hw, hx⟩ := h
  obtain ⟨more, hmore⟩ := hle
  obtain ⟨hlt, -⟩ := List.getElem?_eq_some_iff.1 hw
  exact ⟨w, by rw [← hmore, List.getElem?_append_left hlt, hw], hx⟩

theorem RunsOver.run {calls : List (UploadCall × Memory)} (h : RunsOver start s) :
    RunsOver start (Machine.run upload s calls) := by
  have hrun : Machine.Along upload (fun _ _ => True) s calls :=
    Machine.along_of_forall fun _ _ _ => trivial
  refine Machine.invariant (I := RunsOver start) (fun s call hs _ => hs.mono ?_) h hrun
  unfold upload processImageData
  split
  · exact List.prefix_rfl
  · split
    · exact List.prefix_rfl
    · exact writes_loop

/-- A payload that goes past a first row of odd width runs over. -/
theorem loop_runs_over {before payload after : Bytes} {beyond : Memory}
    (hbits : start.bitbltbuf.dpsm.BitsPerPixel = 4) (hodd : start.trxreg.rrw % 2 = 1)
    (hh : 0 < start.trxreg.rrh) (h : Received start (before ++ payload ++ after) n s)
    (hn : n < start.trxreg.rrw)
    (hpos : n * start.bitbltbuf.dpsm.BitsPerPixel = 8 * (before.length + offset))
    (hpast : start.trxreg.rrw ≤ 2 * (before.length + payload.length)) :
    RunsOver start (s.uploadLoop (hostMemory payload beyond) payload.length offset) := by
  induction hleft : payload.length - offset using Nat.strong_induction_on
    generalizing s n offset with
  | _ left ih =>
  obtain ⟨hother, -⟩ | ⟨-, hsize, hstep, hitem⟩ | ⟨hother, -⟩ :=
    bits_cases start.bitbltbuf.dpsm
  · omega
  · have hpos4 := hpos
    rw [hbits] at hpos4
    have hlt : offset < payload.length := by omega
    have htotal : start.trxreg.rrw ≤ start.totalPixels := Nat.le_mul_of_pos_right _ hh
    have hinside : offset + (uploadFormat start.bitbltbuf.dpsm).size ≤ payload.length := by omega
    have hpixels := @pixels_of_payload _ before payload after beyond _ _ (by omega) hpos
    rw [uploadLoop, if_pos hlt]
    dsimp only
    rcases Nat.lt_or_ge (n + 2) start.trxreg.rrw with hrow | hend
    · -- The two pixels are still in the row.
      have hmod : n % start.trxreg.rrw + start.bitbltbuf.dpsm.pixelsPerItem ≤
          start.trxreg.rrw := by
        rw [Nat.mod_eq_of_lt hn, hitem]
        omega
      obtain ⟨hnext, hcopied⟩ := h.item (by omega) hinside hmod hpixels
      have hpos' : (n + start.bitbltbuf.dpsm.pixelsPerItem) *
          start.bitbltbuf.dpsm.BitsPerPixel =
          8 * (before.length + (offset + (uploadFormat start.bitbltbuf.dpsm).step)) := by
        rw [hbits, hitem, hstep]
        omega
      have hall : s.transferState.total_pixels = start.totalPixels := by
        rw [(h.active (by omega)).2]
      rw [hcopied, hall, if_neg (by omega), h.bitbltbuf_eq]
      exact ih _ (by omega) hnext (by omega) hpos' rfl
    · -- The second pixel is the one after the row.
      have hover : RunsOver start
          (s.uploadItem (hostMemory payload beyond) payload.length offset) := by
        have hlast : start.trxreg.rrw = n + 1 := by omega
        refine ⟨⟨s.transferState.x + 1, s.transferState.y,
          start.bitbltbuf.dpsm.streamPixel (before ++ payload ++ after) (n + 1)⟩, ?_, ?_⟩
        · rw [uploadItem_eq]
          dsimp only
          rw [rowWrites, h.bitbltbuf_eq, hpixels, hitem, hlast,
            List.getElem?_append_right (by simp [h.writes_eq])]
          simp [h.writes_eq]
        · rw [(h.active (by omega)).2, Nat.mod_eq_of_lt hn, hlast, Nat.add_assoc]
      split
      · exact hover
      · exact hover.mono writes_loop
  · rw [hbits] at hother
    omega

theorem run_runs_over {calls : List (UploadCall × Memory)} {before : Bytes}
    (hbits : start.bitbltbuf.dpsm.BitsPerPixel = 4) (hodd : start.trxreg.rrw % 2 = 1)
    (hh : 0 < start.trxreg.rrh) (h : Received start (before ++ streamOf calls) n s)
    (hn : n < start.trxreg.rrw)
    (hpos : n * start.bitbltbuf.dpsm.BitsPerPixel = 8 * before.length)
    (hpast : start.trxreg.rrw ≤ 2 * (before ++ streamOf calls).length) :
    RunsOver start (Machine.run upload s calls) := by
  have htotal : start.trxreg.rrw ≤ start.totalPixels := Nat.le_mul_of_pos_right _ hh
  induction calls generalizing s n before with
  | nil =>
    rw [hbits] at hpos
    simp only [streamOf, List.flatMap_nil, List.append_nil] at hpast
    omega
  | cons call calls ih =>
    have hstream : before ++ streamOf (call :: calls) =
        before ++ call.1.payload ++ streamOf calls := by
      rw [streamOf, List.flatMap_cons, ← List.append_assoc]
      rfl
    rw [hstream] at h hpast
    rw [Machine.run_cons]
    rcases Nat.lt_or_ge (2 * (before ++ call.1.payload).length) start.trxreg.rrw with hrow | hover
    · obtain ⟨hother, -⟩ | ⟨-, hsize, -, hitem⟩ | ⟨hother, -⟩ :=
        bits_cases start.bitbltbuf.dpsm
      · omega
      · have hfit : ItemsFit start before.length call.1.payload.length :=
          itemsFit_pairs (by omega) hbits hsize hitem
            (.inr (by rwa [List.length_append] at hrow))
        obtain ⟨n', h', hle, hend⟩ := h.call hfit (fun _ => hpos) hpos.le
        rw [← List.length_append, hbits] at hle hend
        refine ih h' (by omega) ?_ hpast
        rw [hbits]
        omega
      · rw [hbits] at hother
        omega
    · refine RunsOver.run ?_
      obtain ⟨hdir, -⟩ := h.active (by omega)
      have hextent : ¬ (s.trxreg.rrw = 0 ∨ s.trxreg.rrh = 0) := by
        rw [h.trxreg_eq]
        omega
      rw [upload, processImageData, if_neg (not_not.2 hdir), if_neg hextent]
      rw [List.length_append] at hover
      exact loop_runs_over hbits hodd hh h hn hpos hover

/-- The condition is necessary. -/
theorem UploadExact.fits {calls : List (UploadCall × Memory)} (hw : 0 < start.trxreg.rrw)
    (hh : 0 < start.trxreg.rrh) (hwrites : start.writes = []) (houtside : start.outside = false)
    (h : UploadExact start calls) : UploadFits start (sizesOf calls) := by
  unfold UploadFits
  split
  next hbits =>
    intro size hfirst
    by_contra hle
    have hread := run_reads_outside (s := start.writeTrxdir) hbits rfl hw hh rfl hfirst
      (Nat.le_of_not_lt hle)
    rw [h.outside_eq] at hread
    cases hread
  next =>
    split
    next hbits =>
      by_contra hno
      have hlength : (sizesOf calls).sum = (streamOf calls).length := by
        rw [sizesOf, streamOf, List.length_flatMap]
      have hzero : Received start ([] ++ streamOf calls) 0 start.writeTrxdir :=
        received_writeTrxdir start (Nat.mul_pos hw hh) hwrites houtside
      obtain ⟨w, hat, hx⟩ := run_runs_over hbits (by omega) hh hzero hw (by simp)
        (by rw [List.nil_append]; omega)
      rw [h.writes_eq, List.getElem?_map] at hat
      obtain ⟨k, hk, rfl⟩ := Option.map_eq_some_iff.1 hat
      obtain ⟨hlt, hk⟩ := List.getElem?_eq_some_iff.1 hk
      rw [List.getElem_range] at hk
      simp only [pixelWrite, ← hk, Nat.mod_self] at hx
      omega
    next => trivial

theorem UploadFits.take {calls : List (UploadCall × Memory)}
    (h : UploadFits start (sizesOf calls)) (k : Nat) :
    UploadFits start (sizesOf (calls.take k)) := by
  have hsplit : sizesOf calls = sizesOf (calls.take k) ++ sizesOf (calls.drop k) := by
    rw [sizesOf, sizesOf, sizesOf, ← List.map_append, List.take_append_drop]
  rw [hsplit] at h
  unfold UploadFits at h ⊢
  split
  next hbits =>
    intro size hsize
    rw [if_pos hbits] at h
    exact h size (by rw [List.find?_append, hsize, Option.some_or])
  next hbits =>
    rw [if_neg hbits] at h
    split
    next hpairs =>
      rw [if_pos hpairs, List.sum_append] at h
      omega
    next => trivial

/-- **When uploads are exact.** After one write of 0 to TRXDIR, the transfer has done what it should
after each of its payloads exactly if the payloads fit. -/
theorem uploads_exact_iff (bitbltbuf : GSBitBltBuf) (trxpos : GSTrxPos) (trxreg : GSTrxReg)
    (vram : Memory) (calls : List (UploadCall × Memory)) (hw : trxreg.rrw ≠ 0)
    (hh : trxreg.rrh ≠ 0) :
    let start : GsTransfer :=
      { bitbltbuf := bitbltbuf, trxpos := trxpos, trxreg := trxreg, vram := vram }
    (∀ k, UploadExact start (calls.take k)) ↔ UploadFits start (sizesOf calls) := by
  intro start
  have hw : 0 < start.trxreg.rrw := Nat.pos_of_ne_zero hw
  have hh : 0 < start.trxreg.rrh := Nat.pos_of_ne_zero hh
  constructor
  · intro h
    have hall := h calls.length
    rw [List.take_length] at hall
    exact hall.fits hw hh rfl rfl
  · intro h k
    exact (h.take k).exact hw hh rfl rfl

/-- Two writes to HWREG and an IMAGE payload, for 32 bits. -/
def sampleCalls : List (UploadCall × Memory) :=
  [(.hwreg 1, fun _ => 0), (.image (List.replicate 16 7) (by decide), fun _ => 0),
    (.hwreg 2, fun _ => 0)]

theorem uploads_exact_words :
    (⟨3, 2⟩ : GSTrxReg).rrw ≠ 0 ∧ (⟨3, 2⟩ : GSTrxReg).rrh ≠ 0 ∧
      ∀ k, UploadExact
        { bitbltbuf := ⟨0, 1, .C32⟩, trxpos := ⟨3, 4⟩, trxreg := ⟨3, 2⟩, vram := fun _ => 0 }
        (sampleCalls.take k) :=
  ⟨by decide, by decide,
    (uploads_exact_iff ⟨0, 1, .C32⟩ ⟨3, 4⟩ ⟨3, 2⟩ (fun _ => 0) sampleCalls (by decide)
      (by decide)).2 (by unfold UploadFits; decide)⟩

/-- Six pixels of 24 bits in two quadwords, and three of 4 bits in rows of one pixel: neither
transfer is exact. -/
theorem uploads_not_exact :
    ¬ UploadExact
        { bitbltbuf := ⟨0, 1, .C24⟩, trxpos := ⟨0, 0⟩, trxreg := ⟨6, 1⟩, vram := fun _ => 0 }
        [(.image (List.replicate 16 1) (by decide), fun _ => 0),
          (.image (List.replicate 16 2) (by decide), fun _ => 0)] ∧
      ¬ UploadExact
        { bitbltbuf := ⟨0, 1, .P4⟩, trxpos := ⟨0, 0⟩, trxreg := ⟨1, 3⟩, vram := fun _ => 0 }
        [(.hwreg 0x321, fun _ => 0)] := by
  constructor
  · intro h
    have hfits := h.fits (by decide) (by decide) rfl rfl
    unfold UploadFits at hfits
    rw [if_pos (by decide)] at hfits
    exact absurd (hfits 16 (by decide)) (by decide)
  · intro h
    have hfits := h.fits (by decide) (by decide) rfl rfl
    unfold UploadFits at hfits
    rw [if_neg (by decide), if_pos (by decide)] at hfits
    exact absurd hfits (by decide)

end GsTransfer

end Ps2Recomp
