import Ps2Recomp.Gs.ImageUpload

/-!
# Exact image uploads

`Received` says that a transfer has taken the first pixels of its stream, each written where it
belongs. An iteration keeps it if it does not read past the payload and its pixels lie in one row
(`Received.item`), so a payload does if all its iterations are like that (`Received.loop`).
-/

namespace Ps2Recomp

open GSMem BitMemory ByteCodec

/-! ## Streams of pixels -/

namespace GSMem.PixelStorageMode

variable (psm : PixelStorageMode)

/-- The pixels that an iteration writes. -/
def pixelsPerItem : Nat := if psm.BitsPerPixel = 4 then 2 else 1

/-- Pixel `i` of a stream: pixels are packed at the width of the format, low bits first. -/
def streamPixel (stream : Bytes) (i : Nat) : Nat :=
  ofBytes stream >>> (i * psm.BitsPerPixel) % 2 ^ psm.BitsPerPixel

theorem pixelsPerItem_pos : 0 < psm.pixelsPerItem := by cases psm <;> decide

theorem step_bits : psm.pixelsPerItem * psm.BitsPerPixel = 8 * (uploadFormat psm).step := by
  cases psm <;> rfl

theorem step_le_size : (uploadFormat psm).step ≤ (uploadFormat psm).size := by
  cases psm <;> decide

theorem length_pixels (c : Nat) : ((uploadFormat psm).pixels c).length = psm.pixelsPerItem := by
  cases psm <;> rfl

/-- The pixels of an iteration, by the bits they have. -/
theorem pixels_mod (c : Nat) :
    ((uploadFormat psm).pixels c).map (· % 2 ^ psm.BitsPerPixel) =
      (List.range psm.pixelsPerItem).map fun k =>
        c >>> (k * psm.BitsPerPixel) % 2 ^ psm.BitsPerPixel := by
  have hnibble : ∀ n, (n &&& 0xF) % 2 ^ 4 = n % 2 ^ 4 := fun n => by
    rw [show 0xF = 2 ^ 4 - 1 from rfl, Nat.and_two_pow_sub_one_eq_mod, Nat.mod_mod]
  cases psm
  case P4 | P4HL | P4HH =>
    simp only [uploadFormat, twoPixels, List.map_cons, List.map_nil, BitsPerPixel, hnibble,
      pixelsPerItem]
    rfl
  all_goals rfl

theorem write_mod (data : Memory) (bp bw x y c : Nat) :
    psm.write data bp bw x y (c % 2 ^ psm.BitsPerPixel) = psm.write data bp bw x y c := by
  apply ext_bit
  intro i
  rw [bit_write, bit_write]
  split
  next h =>
    rw [Nat.testBit_mod_two_pow]
    simp only [show i - psm.position bp bw x y < psm.BitsPerPixel by omega, decide_true,
      Bool.true_and]
  next => rfl

end GSMem.PixelStorageMode

theorem testBit_ofBytes (bytes : Bytes) (i : Nat) :
    (ofBytes bytes).testBit i = (bytes.getD (i / 8) 0).toNat.testBit (i % 8) := by
  induction bytes generalizing i with
  | nil => simp [ofBytes]
  | cons byte rest ih =>
    rw [ofBytes, Nat.add_comm, show 256 = 2 ^ 8 from rfl,
      Nat.testBit_two_pow_mul_add _ (UInt8.toNat_lt _)]
    split
    next hi => simp [Nat.div_eq_of_lt hi, Nat.mod_eq_of_lt hi]
    next hi =>
      rw [ih, show i / 8 = (i - 8) / 8 + 1 by omega, show (i - 8) % 8 = i % 8 by omega]
      rfl

/-- A bit that an iteration reads inside its payload is one of the stream. -/
theorem testBit_load_payload {before payload after : Bytes} {beyond : Memory}
    {offset size j : Nat} (hj : j < 8 * size) (hinside : 8 * offset + j < 8 * payload.length) :
    (load (GsTransfer.hostMemory payload beyond) offset size).testBit j =
      (ofBytes (before ++ payload ++ after)).testBit (8 * (before.length + offset) + j) := by
  have hlt : (8 * offset + j) / 8 < payload.length := by omega
  have hindex : (8 * (before.length + offset) + j) / 8 = before.length + (8 * offset + j) / 8 := by
    omega
  have hmod : (8 * (before.length + offset) + j) % 8 = (8 * offset + j) % 8 := by omega
  have hbyte : (before ++ payload ++ after).getD (before.length + (8 * offset + j) / 8) 0 =
      payload.getD ((8 * offset + j) / 8)
        (beyond ((8 * offset + j) / 8 - payload.length)) := by
    simp [List.getD_eq_getElem?_getD, List.getElem?_append, hlt]
  rw [testBit_load, decide_eq_true hj, Bool.true_and, testBit_ofBytes, hindex, hmod, hbyte]
  rfl

/-- The pixels of an iteration are the next pixels of the stream. What it reads past its pixels
need not be in the payload. -/
theorem pixels_of_payload (psm : PixelStorageMode) {before payload after : Bytes}
    {beyond : Memory} {offset n : Nat}
    (hstep : offset + (uploadFormat psm).step ≤ payload.length)
    (hn : n * psm.BitsPerPixel = 8 * (before.length + offset)) :
    ((uploadFormat psm).pixels
        (load (GsTransfer.hostMemory payload beyond) offset (uploadFormat psm).size)).map
          (· % 2 ^ psm.BitsPerPixel) =
      (List.range psm.pixelsPerItem).map fun k =>
        psm.streamPixel (before ++ payload ++ after) (n + k) := by
  rw [psm.pixels_mod]
  refine List.map_congr_left fun k hk => ?_
  have hfits : (k + 1) * psm.BitsPerPixel ≤ 8 * (uploadFormat psm).step :=
    (Nat.mul_le_mul_right _ (List.mem_range.1 hk)).trans psm.step_bits.le
  have hsize := psm.step_le_size
  rw [Nat.add_mul, one_mul] at hfits
  apply Nat.eq_of_testBit_eq
  intro j
  rw [PixelStorageMode.streamPixel, Nat.testBit_mod_two_pow, Nat.testBit_mod_two_pow,
    Nat.testBit_shiftRight, Nat.testBit_shiftRight, Nat.add_mul, hn]
  by_cases hj : j < psm.BitsPerPixel
  · rw [testBit_load_payload (by omega) (by omega), ← Nat.add_assoc]
  · simp [hj]

/-! ## Pixels received -/

namespace GsTransfer

/-- What a written pixel does to the memory. -/
def applyWrite (buffer : GSBitBltBuf) (vram : Memory) (w : PixelWrite) : Memory :=
  buffer.dpsm.write vram buffer.dbp (max buffer.dbw 1) w.x w.y w.value

/-- The writes of `putPixels`. -/
def rowWrites (s : GsTransfer) (x : Nat) (cs : List Nat) : List PixelWrite :=
  (cs.map (· % 2 ^ s.bitbltbuf.dpsm.BitsPerPixel)).mapIdx fun k value =>
    ⟨x + k, s.transferState.y, value⟩

theorem rowWrites_cons (s : GsTransfer) (x c : Nat) (cs : List Nat) :
    s.rowWrites x (c :: cs) =
      ⟨x, s.transferState.y, c % 2 ^ s.bitbltbuf.dpsm.BitsPerPixel⟩ :: s.rowWrites (x + 1) cs := by
  have hshift : (fun k value => (⟨x + (k + 1), s.transferState.y, value⟩ : PixelWrite)) =
      fun k value => ⟨x + 1 + k, s.transferState.y, value⟩ := by
    funext k value
    rw [Nat.add_comm k 1, Nat.add_assoc]
  rw [rowWrites, List.map_cons, List.mapIdx_cons, hshift, Nat.add_zero]
  rfl

theorem putPixels_eq (s : GsTransfer) (x : Nat) (cs : List Nat) :
    s.putPixels x cs =
      { s with
        vram := (s.rowWrites x cs).foldl (applyWrite s.bitbltbuf) s.vram
        writes := s.writes ++ s.rowWrites x cs } := by
  induction cs generalizing s x with
  | nil => simp [putPixels, rowWrites]
  | cons c cs ih =>
    have hwrite : applyWrite s.bitbltbuf s.vram
        ⟨x, s.transferState.y, c % 2 ^ s.bitbltbuf.dpsm.BitsPerPixel⟩ = (s.putPixel x c).vram := by
      rw [applyWrite, PixelStorageMode.write_mod, putPixel, uploadFormat_write]
    rw [putPixels, ih, rowWrites_cons, List.foldl_cons, hwrite]
    simp only [putPixel, List.append_assoc, List.singleton_append]
    rfl

/-- An iteration, with the pixels it writes. -/
theorem uploadItem_eq (s : GsTransfer) (data : Memory) (sizeBytes offset : Nat) :
    s.uploadItem data sizeBytes offset =
      let cs := (uploadFormat s.bitbltbuf.dpsm).pixels
        (load data offset (uploadFormat s.bitbltbuf.dpsm).size)
      let copied := s.transferState.copied_pixels + s.bitbltbuf.dpsm.pixelsPerItem
      { s with
        vram := (s.rowWrites s.transferState.x cs).foldl (applyWrite s.bitbltbuf) s.vram
        writes := s.writes ++ s.rowWrites s.transferState.x cs
        transferState :=
          { x := if copied % s.trxreg.rrw = 0 then s.trxpos.dsax
              else s.transferState.x + s.bitbltbuf.dpsm.pixelsPerItem
            y := if copied % s.trxreg.rrw = 0 then s.transferState.y + 1 else s.transferState.y
            total_pixels :=
              if copied ≥ s.transferState.total_pixels then 0 else s.transferState.total_pixels
            copied_pixels := copied }
        trxdir := if copied ≥ s.transferState.total_pixels then 3 else s.trxdir
        outside := s.outside ||
          decide (offset + (uploadFormat s.bitbltbuf.dpsm).size > sizeBytes) } := by
  unfold uploadItem
  dsimp only
  rw [putPixels_eq, PixelStorageMode.length_pixels]

/-- The number of pixels of the rectangle. -/
def totalPixels (s : GsTransfer) : Nat := s.trxreg.rrw * s.trxreg.rrh

/-- Pixel `i` of the stream, where it belongs. -/
def pixelWrite (s : GsTransfer) (stream : Bytes) (i : Nat) : PixelWrite where
  x := s.trxpos.dsax + i % s.trxreg.rrw
  y := s.trxpos.dsay + i / s.trxreg.rrw
  value := s.bitbltbuf.dpsm.streamPixel stream i

/-- The transfer started in `start` has taken the first `n` pixels of the stream. -/
structure Received (start : GsTransfer) (stream : Bytes) (n : Nat) (s : GsTransfer) : Prop where
  bitbltbuf_eq : s.bitbltbuf = start.bitbltbuf
  trxpos_eq : s.trxpos = start.trxpos
  trxreg_eq : s.trxreg = start.trxreg
  le : n ≤ start.totalPixels
  writes_eq : s.writes = (List.range n).map (start.pixelWrite stream)
  vram_eq : s.vram = s.writes.foldl (applyWrite start.bitbltbuf) start.vram
  outside_eq : s.outside = false
  active : n < start.totalPixels → s.trxdir = 0 ∧
    s.transferState =
      { x := start.trxpos.dsax + n % start.trxreg.rrw
        y := start.trxpos.dsay + n / start.trxreg.rrw
        total_pixels := start.totalPixels
        copied_pixels := n }
  inactive : n = start.totalPixels → s.trxdir = 3

variable {start s : GsTransfer} {stream : Bytes} {n : Nat} {data : Memory}
  {sizeBytes offset : Nat}

theorem received_writeTrxdir (start : GsTransfer) (hpos : 0 < start.totalPixels)
    (hwrites : start.writes = []) (houtside : start.outside = false) :
    Received start stream 0 start.writeTrxdir where
  bitbltbuf_eq := rfl
  trxpos_eq := rfl
  trxreg_eq := rfl
  le := Nat.zero_le _
  writes_eq := hwrites
  vram_eq := by simp [writeTrxdir, hwrites]
  outside_eq := houtside
  active _ := ⟨rfl, by simp [writeTrxdir, totalPixels]⟩
  inactive h := absurd h hpos.ne

/-- Pixels in one row after pixel `n` are next to each other. -/
theorem row_arith {w p k : Nat} (hrow : n % w + p ≤ w) (hk : k < p) :
    (n + k) % w = n % w + k ∧ (n + k) / w = n / w := by
  have hdiv := Nat.div_add_mod n w
  have hlt : n % w + k < w := by omega
  have hsum : n + k = n % w + k + w * (n / w) := by omega
  rw [hsum, Nat.add_mul_mod_self_left, Nat.mod_eq_of_lt hlt, Nat.add_mul_div_left _ _ (by omega),
    Nat.div_eq_of_lt hlt, Nat.zero_add]
  exact ⟨rfl, rfl⟩

/-- The position after the pixels of an iteration. -/
theorem next_arith {w p : Nat} (hw : 0 < w) (hp : 0 < p) (hrow : n % w + p ≤ w) :
    ((n + p) % w = 0 → (n + p) / w = n / w + 1) ∧
      ((n + p) % w ≠ 0 → (n + p) % w = n % w + p ∧ (n + p) / w = n / w) := by
  have hdiv := Nat.div_add_mod n w
  rcases Nat.lt_or_ge (n % w + p) w with hlt | hge
  · have hsum : n + p = n % w + p + w * (n / w) := by omega
    rw [hsum, Nat.add_mul_mod_self_left, Nat.mod_eq_of_lt hlt, Nat.add_mul_div_left _ _ hw,
      Nat.div_eq_of_lt hlt]
    refine ⟨fun h => absurd h (by omega), fun _ => ⟨rfl, Nat.zero_add _⟩⟩
  · have hsum : n + p = w * (n / w + 1) := by
      rw [Nat.mul_add, Nat.mul_one]
      omega
    rw [hsum, Nat.mul_mod_right, Nat.mul_div_cancel_left _ hw]
    exact ⟨fun _ => rfl, fun h => absurd rfl h⟩

/-- An iteration in one row does not go past the rectangle. -/
theorem row_le_total {w h p : Nat} (hrow : n % w + p ≤ w) (hn : n < w * h) : n + p ≤ w * h := by
  have hdiv := Nat.div_add_mod n w
  have hlt : n / w < h := Nat.div_lt_of_lt_mul hn
  have hmul : w * (n / w + 1) ≤ w * h := Nat.mul_le_mul_left _ hlt
  rw [Nat.mul_add, Nat.mul_one] at hmul
  omega

/-- The transfer started in `start` is at pixel `n` of its rectangle. -/
structure AtPixel (start : GsTransfer) (n : Nat) (s : GsTransfer) : Prop where
  bitbltbuf_eq : s.bitbltbuf = start.bitbltbuf
  trxpos_eq : s.trxpos = start.trxpos
  trxreg_eq : s.trxreg = start.trxreg
  state_eq : s.transferState =
    { x := start.trxpos.dsax + n % start.trxreg.rrw
      y := start.trxpos.dsay + n / start.trxreg.rrw
      total_pixels := start.totalPixels
      copied_pixels := n }

theorem Received.atPixel (h : Received start stream n s) (hn : n < start.totalPixels) :
    AtPixel start n s :=
  ⟨h.bitbltbuf_eq, h.trxpos_eq, h.trxreg_eq, (h.active hn).2⟩

/-- The pixels that an iteration writes in one row are the next ones of the stream. -/
theorem AtPixel.rowWrites (h : AtPixel start n s)
    (hrow : n % start.trxreg.rrw + start.bitbltbuf.dpsm.pixelsPerItem ≤ start.trxreg.rrw)
    (hpixels : ((uploadFormat start.bitbltbuf.dpsm).pixels
        (load data offset (uploadFormat start.bitbltbuf.dpsm).size)).map
          (· % 2 ^ start.bitbltbuf.dpsm.BitsPerPixel) =
      (List.range start.bitbltbuf.dpsm.pixelsPerItem).map fun k =>
        start.bitbltbuf.dpsm.streamPixel stream (n + k)) :
    s.rowWrites s.transferState.x
        ((uploadFormat s.bitbltbuf.dpsm).pixels
          (load data offset (uploadFormat s.bitbltbuf.dpsm).size)) =
      (List.range start.bitbltbuf.dpsm.pixelsPerItem).map fun k =>
        start.pixelWrite stream (n + k) := by
  rw [GsTransfer.rowWrites, h.bitbltbuf_eq, hpixels, h.state_eq]
  refine List.ext_getElem (by simp) fun k hk _ => ?_
  have hk : k < start.bitbltbuf.dpsm.pixelsPerItem := by simpa using hk
  obtain ⟨hmod, hdiv⟩ := row_arith hrow hk
  simp [pixelWrite, hmod, hdiv, Nat.add_assoc]

/-- The pixel after an iteration in one row. -/
theorem AtPixel.next (h : AtPixel start n s)
    (hrow : n % start.trxreg.rrw + start.bitbltbuf.dpsm.pixelsPerItem ≤ start.trxreg.rrw)
    (hmore : n + start.bitbltbuf.dpsm.pixelsPerItem < start.totalPixels) :
    AtPixel start (n + start.bitbltbuf.dpsm.pixelsPerItem) (s.uploadItem data sizeBytes offset) := by
  have hw : 0 < start.trxreg.rrw := Nat.pos_of_ne_zero fun h0 => by
    simp [totalPixels, h0] at hmore
  obtain ⟨hwrap, hstay⟩ := next_arith hw start.bitbltbuf.dpsm.pixelsPerItem_pos hrow
  rw [uploadItem_eq]
  dsimp only
  rw [h.state_eq, h.bitbltbuf_eq, h.trxreg_eq, h.trxpos_eq]
  refine ⟨rfl, rfl, rfl, ?_⟩
  dsimp only
  rw [if_neg (Nat.not_le.2 hmore)]
  by_cases hend : (n + start.bitbltbuf.dpsm.pixelsPerItem) % start.trxreg.rrw = 0
  · simp only [hend, if_true, hwrap hend, Nat.add_assoc, Nat.add_zero]
  · obtain ⟨hmod, hdiv⟩ := hstay hend
    rw [if_neg hend, if_neg hend, hmod, hdiv, Nat.add_assoc]

/-- **One iteration.** -/
theorem Received.item (h : Received start stream n s) (hn : n < start.totalPixels)
    (hinside : offset + (uploadFormat start.bitbltbuf.dpsm).size ≤ sizeBytes)
    (hrow : n % start.trxreg.rrw + start.bitbltbuf.dpsm.pixelsPerItem ≤ start.trxreg.rrw)
    (hpixels : ((uploadFormat start.bitbltbuf.dpsm).pixels
        (load data offset (uploadFormat start.bitbltbuf.dpsm).size)).map
          (· % 2 ^ start.bitbltbuf.dpsm.BitsPerPixel) =
      (List.range start.bitbltbuf.dpsm.pixelsPerItem).map fun k =>
        start.bitbltbuf.dpsm.streamPixel stream (n + k)) :
    Received start stream (n + start.bitbltbuf.dpsm.pixelsPerItem)
        (s.uploadItem data sizeBytes offset) ∧
      (s.uploadItem data sizeBytes offset).transferState.copied_pixels =
        n + start.bitbltbuf.dpsm.pixelsPerItem := by
  have hat := h.atPixel hn
  have hdir := (h.active hn).1
  have hnew := hat.rowWrites hrow hpixels
  have hle := row_le_total hrow hn
  have hnext (hmore) := (@AtPixel.next start s n data sizeBytes offset hat hrow hmore).state_eq
  rw [uploadItem_eq] at hnext ⊢
  dsimp only at hnext ⊢
  rw [hnew, hat.state_eq, h.bitbltbuf_eq] at *
  refine ⟨⟨rfl, h.trxpos_eq, h.trxreg_eq, hle, ?_, ?_, ?_, fun hmore => ⟨?_, ?_⟩,
    fun hlast => ?_⟩, rfl⟩
  · rw [h.writes_eq, List.range_add, List.map_append, List.map_map]
    rfl
  · dsimp only
    rw [List.foldl_append, ← h.vram_eq]
  · simp [h.outside_eq, hinside]
  · dsimp only
    rw [if_neg (Nat.not_le.2 hmore)]
    exact hdir
  · exact hnext hmore
  · exact if_pos hlast.ge

/-! ## Payloads -/

/-- The iterations over a payload of `size` bytes that follows `before` bytes of the stream read
inside it, and the pixels of each lie in one row. -/
def ItemsFit (start : GsTransfer) (before size : Nat) : Prop :=
  ∀ o m, o < size → m < start.totalPixels →
    m * start.bitbltbuf.dpsm.BitsPerPixel = 8 * (before + o) →
    o + (uploadFormat start.bitbltbuf.dpsm).size ≤ size ∧
      m % start.trxreg.rrw + start.bitbltbuf.dpsm.pixelsPerItem ≤ start.trxreg.rrw

/-- **The loop over a payload** takes its pixels, or those that are left of the rectangle. -/
theorem Received.loop {before payload after : Bytes} {beyond : Memory}
    (hfit : ItemsFit start before.length payload.length)
    (h : Received start (before ++ payload ++ after) n s) (hn : n < start.totalPixels)
    (hoffset : offset ≤ payload.length)
    (hpos : n * start.bitbltbuf.dpsm.BitsPerPixel = 8 * (before.length + offset)) :
    ∃ n', Received start (before ++ payload ++ after) n'
        (s.uploadLoop (hostMemory payload beyond) payload.length offset) ∧
      n' * start.bitbltbuf.dpsm.BitsPerPixel ≤ 8 * (before.length + payload.length) ∧
      (n' = start.totalPixels ∨
        n' * start.bitbltbuf.dpsm.BitsPerPixel = 8 * (before.length + payload.length)) := by
  induction hleft : payload.length - offset using Nat.strong_induction_on
    generalizing s n offset with
  | _ left ih =>
  rw [uploadLoop]
  split
  next hlt =>
    obtain ⟨hinside, hrow⟩ := hfit offset n hlt hn hpos
    have hle := start.bitbltbuf.dpsm.step_le_size
    obtain ⟨hnext, hcopied⟩ := h.item hn hinside hrow (pixels_of_payload _ (by omega) hpos)
    have hstep := uploadFormat_step_pos start.bitbltbuf.dpsm
    have hpos' : (n + start.bitbltbuf.dpsm.pixelsPerItem) * start.bitbltbuf.dpsm.BitsPerPixel =
        8 * (before.length + (offset + (uploadFormat start.bitbltbuf.dpsm).step)) := by
      rw [Nat.add_mul, hpos, PixelStorageMode.step_bits]
      omega
    have htotal : s.transferState.total_pixels = start.totalPixels := by rw [(h.active hn).2]
    dsimp only
    rw [hcopied, htotal, h.bitbltbuf_eq]
    split
    next hdone =>
      have heq := Nat.le_antisymm hnext.le hdone
      exact ⟨_, hnext, by omega, .inl heq⟩
    next hmore =>
      exact ih _ (by omega) hnext (by omega) (by omega) hpos' rfl
  next hge =>
    obtain rfl : offset = payload.length := by omega
    exact ⟨n, h, hpos.le, .inr hpos⟩

/-- A call, as long as the iterations over its payload fit. -/
theorem Received.call {call : UploadCall × Memory} {before after : Bytes}
    (hfit : ItemsFit start before.length call.1.payload.length)
    (h : Received start (before ++ call.1.payload ++ after) n s)
    (hpos : n < start.totalPixels →
      n * start.bitbltbuf.dpsm.BitsPerPixel = 8 * before.length)
    (hle : n * start.bitbltbuf.dpsm.BitsPerPixel ≤ 8 * before.length) :
    ∃ n', Received start (before ++ call.1.payload ++ after) n' (s.upload call) ∧
      n' * start.bitbltbuf.dpsm.BitsPerPixel ≤ 8 * (before.length + call.1.payload.length) ∧
      (n' = start.totalPixels ∨
        n' * start.bitbltbuf.dpsm.BitsPerPixel =
          8 * (before.length + call.1.payload.length)) := by
  rw [upload, processImageData]
  rcases Nat.lt_or_eq_of_le h.le with hn | hn
  · obtain ⟨hdir, -⟩ := h.active hn
    have hextent : ¬ (s.trxreg.rrw = 0 ∨ s.trxreg.rrh = 0) := by
      rw [h.trxreg_eq]
      rintro (h0 | h0) <;> simp [totalPixels, h0] at hn
    rw [if_neg (not_not.2 hdir), if_neg hextent]
    exact h.loop hfit hn (Nat.zero_le _) (hpos hn)
  · rw [if_pos (by rw [h.inactive hn]; decide)]
    exact ⟨n, h, by omega, .inl hn⟩

/-- Every payload of a list fits where it stands. -/
def AllFit (start : GsTransfer) : Nat → List Nat → Prop
  | _, [] => True
  | before, size :: rest => ItemsFit start before size ∧ AllFit start (before + size) rest

/-- The bytes of the calls. -/
def streamOf (calls : List (UploadCall × Memory)) : Bytes := calls.flatMap fun call => call.1.payload

/-- The lengths of the payloads. -/
def sizesOf (calls : List (UploadCall × Memory)) : List Nat :=
  calls.map fun call => call.1.payload.length

theorem Received.calls {calls : List (UploadCall × Memory)} {before : Bytes}
    (hfit : AllFit start before.length (sizesOf calls))
    (h : Received start (before ++ streamOf calls) n s)
    (hpos : n < start.totalPixels →
      n * start.bitbltbuf.dpsm.BitsPerPixel = 8 * before.length)
    (hle : n * start.bitbltbuf.dpsm.BitsPerPixel ≤ 8 * before.length) :
    ∃ n', Received start (before ++ streamOf calls) n' (Machine.run upload s calls) ∧
      n' * start.bitbltbuf.dpsm.BitsPerPixel ≤ 8 * (before ++ streamOf calls).length ∧
      (n' = start.totalPixels ∨
        n' * start.bitbltbuf.dpsm.BitsPerPixel = 8 * (before ++ streamOf calls).length) := by
  induction calls generalizing s n before with
  | nil =>
    refine ⟨n, h, by simpa [streamOf] using hle, ?_⟩
    rcases Nat.lt_or_eq_of_le h.le with hn | hn
    · exact .inr (by simpa [streamOf] using hpos hn)
    · exact .inl hn
  | cons call calls ih =>
    have hstream : before ++ streamOf (call :: calls) =
        before ++ call.1.payload ++ streamOf calls := by
      rw [streamOf, List.flatMap_cons, ← List.append_assoc]
      rfl
    rw [hstream] at h ⊢
    obtain ⟨n₁, h₁, hle₁, hpos₁⟩ := h.call hfit.1 hpos hle
    rw [← List.length_append] at hle₁ hpos₁
    refine ih (by rw [List.length_append]; exact hfit.2) h₁ (fun hn => ?_) hle₁
    exact hpos₁.resolve_left hn.ne

end GsTransfer

end Ps2Recomp
