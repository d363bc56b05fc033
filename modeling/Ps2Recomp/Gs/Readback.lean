import Ps2Recomp.Gs.UploadExact

/-!
# Image readbacks

Model of `GS::performLocalToHostToBuffer` and `GS::consumeLocalToHostBytes` (`ps2_gs_gpu.cpp`). The
first fills a buffer with the pixels of a rectangle, two at a time if they have 4 bits; the second
hands the buffer out.

`localToHost_sampled` says what the buffer holds: pixel `i` of it is `sampled i`, the pixel that the
loop reads for it. It is the pixel of the rectangle (`sampled_eq_pixelAt`) unless a pair of 4-bit
pixels crosses the end of a row.

As for uploads, coordinates and counts do not wrap around. The flush of the rasterizer is left out,
and there is always a memory.
-/

namespace Ps2Recomp

open GSMem BitMemory ByteCodec

/-- The fields of BITBLTBUF that name the source. -/
structure GSSourceBuf where
  sbp : Nat
  sbw : Nat
  spsm : PixelStorageMode

/-- The fields of TRXPOS that name the source. -/
structure GSSourcePos where
  ssax : Nat
  ssay : Nat

/-- The fields of `GS` that a readback uses. -/
structure GsReadback where
  bitbltbuf : GSSourceBuf
  trxpos : GSSourcePos
  trxreg : GSTrxReg
  vram : Memory
  localToHostBuffer : Bytes := []
  localToHostReadPos : Nat := 0

namespace GsReadback

/-! ## Filling the buffer -/

/-- `ReadVram` of the source, at a place in the rectangle. -/
def ReadVram (s : GsReadback) (x y : Nat) : Nat :=
  s.bitbltbuf.spsm.read s.vram s.bitbltbuf.sbp (max s.bitbltbuf.sbw 1) (x + s.trxpos.ssax)
    (y + s.trxpos.ssay)

/-- The bytes pushed for a pixel `v`; `v2` is the pixel to its right. -/
def pixelBytes (bpp v v2 : Nat) : Bytes :=
  match bpp with
  | 32 => [UInt8.ofNat (v &&& 0xFF), UInt8.ofNat ((v >>> 8) &&& 0xFF),
      UInt8.ofNat ((v >>> 16) &&& 0xFF), UInt8.ofNat ((v >>> 24) &&& 0xFF)]
  | 24 => [UInt8.ofNat (v &&& 0xFF), UInt8.ofNat ((v >>> 8) &&& 0xFF),
      UInt8.ofNat ((v >>> 16) &&& 0xFF)]
  | 16 => [UInt8.ofNat (v &&& 0xFF), UInt8.ofNat ((v >>> 8) &&& 0xFF)]
  | 8 => [UInt8.ofNat v]
  | 4 => [UInt8.ofNat (v ||| ((v2 &&& 0xF) <<< 4))]
  | _ => []

def pixel_total (s : GsReadback) : Nat := s.trxreg.rrw * s.trxreg.rrh

def readbackLoop (s : GsReadback) (pixel_count : Nat) : GsReadback :=
  if pixel_count < s.pixel_total then
    let x := pixel_count % s.trxreg.rrw
    let y := pixel_count / s.trxreg.rrw
    let bpp := s.bitbltbuf.spsm.BitsPerPixel
    let next := { s with
      localToHostBuffer :=
        s.localToHostBuffer ++ pixelBytes bpp (s.ReadVram x y) (s.ReadVram (x + 1) y) }
    next.readbackLoop (if bpp = 4 then pixel_count + 1 + 1 else pixel_count + 1)
  else s
termination_by s.pixel_total - pixel_count
decreasing_by
  simp only [pixel_total] at *
  split <;> omega

def performLocalToHostToBuffer (s : GsReadback) : GsReadback :=
  { s with localToHostBuffer := [], localToHostReadPos := 0 }.readbackLoop 0

/-! ## Handing it out -/

/-- The bytes copied; `dst` is whether there is a destination. -/
def consumeLocalToHostBytes (s : GsReadback) (dst : Bool) (maxBytes : Nat) : Bytes × GsReadback :=
  if !dst || maxBytes = 0 then ([], s)
  else
    let avail := s.localToHostBuffer.length - s.localToHostReadPos
    if avail = 0 then ([], s)
    else
      let toCopy := if avail < maxBytes then avail else maxBytes
      ((s.localToHostBuffer.drop s.localToHostReadPos).take toCopy,
        { s with localToHostReadPos := s.localToHostReadPos + toCopy })

def asks (call : Bool × Nat) : Nat := if call.1 then call.2 else 0

/-- The bytes that are left. -/
def unread (s : GsReadback) : Bytes := s.localToHostBuffer.drop s.localToHostReadPos

theorem consumeLocalToHostBytes_eq (s : GsReadback) (dst : Bool) (maxBytes : Nat) :
    s.consumeLocalToHostBytes dst maxBytes =
      (s.unread.take (asks (dst, maxBytes)),
        { s with
          localToHostReadPos :=
            s.localToHostReadPos + min (asks (dst, maxBytes)) s.unread.length }) := by
  have hlength : s.unread.length = s.localToHostBuffer.length - s.localToHostReadPos :=
    List.length_drop
  unfold consumeLocalToHostBytes
  rw [← hlength]
  change (if !dst || maxBytes = 0 then ([], s) else
    if s.unread.length = 0 then ([], s) else
      (s.unread.take (if s.unread.length < maxBytes then s.unread.length else maxBytes), _)) = _
  split
  next hnone =>
    have hzero : asks (dst, maxBytes) = 0 := by
      cases dst
      · rfl
      · simpa [asks] using hnone
    rw [hzero, List.take_zero, Nat.zero_min]
    rfl
  next hsome =>
    have hasks : asks (dst, maxBytes) = maxBytes := by
      cases dst
      · exact absurd rfl hsome
      · rfl
    rw [hasks]
    split
    next hempty =>
      rw [List.eq_nil_of_length_eq_zero hempty, List.take_nil, List.length_nil, Nat.min_zero]
      rfl
    next havail =>
      split
      next hall =>
        rw [Nat.min_eq_right hall.le, List.take_length, List.take_of_length_le hall.le]
      next hpart =>
        rw [Nat.min_eq_left (Nat.not_lt.1 hpart)]

/-- The results of calls in a row, put together. -/
def consumed (s : GsReadback) : List (Bool × Nat) → Bytes
  | [] => []
  | call :: calls =>
    (s.consumeLocalToHostBytes call.1 call.2).1 ++
      (s.consumeLocalToHostBytes call.1 call.2).2.consumed calls

/-- **The calls hand out the bytes that are left in order**, as many as they ask for. -/
theorem consumed_eq (s : GsReadback) (calls : List (Bool × Nat)) :
    s.consumed calls = s.unread.take (calls.map asks).sum := by
  induction calls generalizing s with
  | nil => rfl
  | cons call calls ih =>
    rw [consumed, ih, consumeLocalToHostBytes_eq, List.map_cons, List.sum_cons]
    dsimp only
    have hleft : s.localToHostBuffer.drop
        (s.localToHostReadPos + min (asks call) s.unread.length) = s.unread.drop (asks call) := by
      rw [← List.drop_drop]
      change s.unread.drop _ = _
      rcases Nat.le_total (asks call) s.unread.length with hle | hle
      · rw [Nat.min_eq_left hle]
      · rw [Nat.min_eq_right hle, List.drop_length, List.drop_eq_nil_of_le hle]
    rw [List.take_add, ← hleft]
    rfl

end GsReadback

/-! ## Pixels in bytes -/

namespace GSMem.PixelStorageMode

variable (psm : PixelStorageMode)

theorem testBit_streamPixel (stream : Bytes) (i j : Nat) :
    (psm.streamPixel stream i).testBit j =
      (decide (j < psm.BitsPerPixel) &&
        (stream.getD ((i * psm.BitsPerPixel + j) / 8) 0).toNat.testBit
          ((i * psm.BitsPerPixel + j) % 8)) := by
  rw [streamPixel, Nat.testBit_mod_two_pow, Nat.testBit_shiftRight, testBit_ofBytes]

/-- A pixel stays when bytes are added behind it. -/
theorem streamPixel_append_left {front back : Bytes} {i : Nat}
    (h : (i + 1) * psm.BitsPerPixel ≤ 8 * front.length) :
    psm.streamPixel (front ++ back) i = psm.streamPixel front i := by
  rw [Nat.add_one_mul] at h
  apply Nat.eq_of_testBit_eq
  intro j
  rw [testBit_streamPixel, testBit_streamPixel]
  by_cases hj : j < psm.BitsPerPixel
  · have hlt : (i * psm.BitsPerPixel + j) / 8 < front.length := by omega
    simp only [List.getD_eq_getElem?_getD, List.getElem?_append_left hlt]
  · simp [hj]

/-- The pixels of added bytes come after those of the bytes before them. -/
theorem streamPixel_append_right {front back : Bytes} {n : Nat}
    (h : n * psm.BitsPerPixel = 8 * front.length) (k : Nat) :
    psm.streamPixel (front ++ back) (n + k) = psm.streamPixel back k := by
  apply Nat.eq_of_testBit_eq
  intro j
  have hindex : ((n + k) * psm.BitsPerPixel + j) / 8 =
      front.length + (k * psm.BitsPerPixel + j) / 8 := by
    rw [Nat.add_mul]
    omega
  have hmod : ((n + k) * psm.BitsPerPixel + j) % 8 = (k * psm.BitsPerPixel + j) % 8 := by
    rw [Nat.add_mul]
    omega
  rw [testBit_streamPixel, testBit_streamPixel, hindex, hmod, List.getD_eq_getElem?_getD,
    List.getD_eq_getElem?_getD, List.getElem?_append_right (Nat.le_add_right _ _),
    Nat.add_sub_cancel_left]

theorem read_lt (data : Memory) (bp bw x y : Nat) :
    psm.read data bp bw x y < 2 ^ psm.BitsPerPixel := by
  refine Nat.lt_pow_two_of_testBit _ fun j hj => ?_
  rw [testBit_read, decide_eq_false (Nat.not_lt.2 hj), Bool.false_and]

/-- Writing a pixel back changes nothing. -/
theorem write_read (data : Memory) (bp bw x y : Nat) :
    psm.write data bp bw x y (psm.read data bp bw x y) = data := by
  apply ext_bit
  intro i
  rw [bit_write, testBit_read]
  split
  next h =>
    rw [decide_eq_true (show i - psm.position bp bw x y < psm.BitsPerPixel by omega),
      Bool.true_and, show psm.position bp bw x y + (i - psm.position bp bw x y) = i by omega]
  next => rfl

end GSMem.PixelStorageMode

namespace GsReadback

variable (psm : PixelStorageMode)

theorem ofNat_and (n : Nat) : UInt8.ofNat (n &&& 0xFF) = UInt8.ofNat n := by
  apply UInt8.toNat_inj.1
  rw [UInt8.toNat_ofNat', UInt8.toNat_ofNat', show 0xFF = 2 ^ 8 - 1 from rfl,
    Nat.and_two_pow_sub_one_eq_mod, Nat.mod_mod]

/-- A pixel of whole bytes is pushed in little-endian order. -/
theorem pixelBytes_of_one (h : psm.pixelsPerItem = 1) (v v2 : Nat) :
    pixelBytes psm.BitsPerPixel v v2 = littleEndian (uploadFormat psm).step v := by
  cases psm
  case P4 | P4HL | P4HH => exact absurd h (by decide)
  all_goals
    simp only [PixelStorageMode.BitsPerPixel, pixelBytes, uploadFormat, littleEndian, ofNat_and,
      ← Nat.shiftRight_add]

theorem length_pixelBytes (v v2 : Nat) :
    (pixelBytes psm.BitsPerPixel v v2).length = (uploadFormat psm).step := by
  cases psm <;> rfl

theorem streamPixel_pixelBytes {v v2 k : Nat} (hv : v < 2 ^ psm.BitsPerPixel)
    (hv2 : v2 < 2 ^ psm.BitsPerPixel) (hk : k < psm.pixelsPerItem) :
    psm.streamPixel (pixelBytes psm.BitsPerPixel v v2) k = if k = 0 then v else v2 := by
  by_cases hone : psm.pixelsPerItem = 1
  · obtain rfl : k = 0 := by omega
    have hbits := psm.step_bits
    rw [hone, Nat.one_mul] at hbits
    rw [PixelStorageMode.streamPixel, pixelBytes_of_one psm hone, ofBytes_littleEndian,
      Nat.zero_mul, Nat.shiftRight_zero, show 256 = 2 ^ 8 from rfl, ← Nat.pow_mul, ← hbits,
      Nat.mod_mod, Nat.mod_eq_of_lt hv, if_pos rfl]
  · cases psm
    case P4 | P4HL | P4HH =>
      simp only [PixelStorageMode.BitsPerPixel] at hv hv2
      have hbyte : ofBytes (pixelBytes 4 v v2) = v + 2 ^ 4 * v2 := by
        have hor : v ||| ((v2 &&& 0xF) <<< 4) = v + 2 ^ 4 * v2 := by
          rw [show 0xF = 2 ^ 4 - 1 from rfl, Nat.and_two_pow_sub_one_eq_mod, Nat.mod_eq_of_lt hv2,
            Nat.shiftLeft_eq, Nat.mul_comm, Nat.lor_comm, ← Nat.two_pow_add_eq_or_of_lt hv,
            Nat.add_comm]
        simp only [pixelBytes, ofBytes, UInt8.toNat_ofNat', hor]
        omega
      have hcases : k = 0 ∨ k = 1 := by
        change k < 2 at hk
        omega
      simp only [PixelStorageMode.streamPixel, PixelStorageMode.BitsPerPixel, hbyte]
      obtain rfl | rfl := hcases
      · rw [if_pos rfl]
        omega
      · rw [if_neg Nat.one_ne_zero, Nat.one_mul, Nat.shiftRight_eq_div_pow]
        omega
    all_goals exact absurd rfl hone

/-! ## What the buffer holds -/

variable (s : GsReadback)

theorem ReadVram_lt (x y : Nat) : s.ReadVram x y < 2 ^ s.bitbltbuf.spsm.BitsPerPixel :=
  PixelStorageMode.read_lt ..

/-- The pixel that the loop reads for pixel `i` of the buffer. -/
def sampled (i : Nat) : Nat :=
  let n := i / s.bitbltbuf.spsm.pixelsPerItem * s.bitbltbuf.spsm.pixelsPerItem
  s.ReadVram (n % s.trxreg.rrw + i % s.bitbltbuf.spsm.pixelsPerItem) (n / s.trxreg.rrw)

/-- The buffer holds the first `n` pixels. -/
structure Filled (n : Nat) (buffer : Bytes) : Prop where
  length_eq : 8 * buffer.length = n * s.bitbltbuf.spsm.BitsPerPixel
  whole : s.bitbltbuf.spsm.pixelsPerItem ∣ n
  pixel : ∀ i < n, s.bitbltbuf.spsm.streamPixel buffer i = s.sampled i

variable {s} {n : Nat}

/-- **One iteration.** -/
theorem Filled.item {buffer : Bytes} (h : s.Filled n buffer) :
    s.Filled (n + s.bitbltbuf.spsm.pixelsPerItem)
      (buffer ++ pixelBytes s.bitbltbuf.spsm.BitsPerPixel
        (s.ReadVram (n % s.trxreg.rrw) (n / s.trxreg.rrw))
        (s.ReadVram (n % s.trxreg.rrw + 1) (n / s.trxreg.rrw))) where
  length_eq := by
    rw [List.length_append, length_pixelBytes, Nat.mul_add, h.length_eq, Nat.add_mul,
      PixelStorageMode.step_bits]
  whole := Nat.dvd_add h.whole (Nat.dvd_refl _)
  pixel i hi := by
    rcases Nat.lt_or_ge i n with hlt | hge
    · rw [PixelStorageMode.streamPixel_append_left, h.pixel i hlt]
      rw [h.length_eq]
      exact Nat.mul_le_mul_right _ hlt
    · obtain ⟨k, rfl⟩ := Nat.exists_eq_add_of_le hge
      have hk : k < s.bitbltbuf.spsm.pixelsPerItem := by omega
      have hpos := s.bitbltbuf.spsm.pixelsPerItem_pos
      obtain ⟨m, rfl⟩ := h.whole
      have hdiv : (s.bitbltbuf.spsm.pixelsPerItem * m + k) / s.bitbltbuf.spsm.pixelsPerItem *
          s.bitbltbuf.spsm.pixelsPerItem = s.bitbltbuf.spsm.pixelsPerItem * m := by
        rw [Nat.mul_add_div hpos, Nat.div_eq_of_lt hk, Nat.add_zero, Nat.mul_comm]
      have hmod : (s.bitbltbuf.spsm.pixelsPerItem * m + k) % s.bitbltbuf.spsm.pixelsPerItem = k := by
        rw [Nat.mul_add_mod, Nat.mod_eq_of_lt hk]
      rw [PixelStorageMode.streamPixel_append_right _ h.length_eq.symm,
        streamPixel_pixelBytes _ (s.ReadVram_lt ..) (s.ReadVram_lt ..) hk,
        sampled]
      rw [hdiv, hmod]
      have htwo : k = 0 ∨ k = 1 := by
        have : s.bitbltbuf.spsm.pixelsPerItem ≤ 2 := by
          cases s.bitbltbuf.spsm <;> decide
        omega
      obtain rfl | rfl := htwo <;> rfl

/-- The loop fills the buffer up to the end of the rectangle, and changes nothing else. -/
theorem readbackLoop_filled (h : s.Filled n s.localToHostBuffer)
    (hn : n < s.pixel_total + s.bitbltbuf.spsm.pixelsPerItem) :
    ∃ m buffer, s.readbackLoop n = { s with localToHostBuffer := buffer } ∧
      s.Filled m buffer ∧ s.pixel_total ≤ m ∧
      m < s.pixel_total + s.bitbltbuf.spsm.pixelsPerItem := by
  induction hleft : s.pixel_total - n using Nat.strong_induction_on generalizing s n with
  | _ left ih =>
  rw [readbackLoop]
  split
  next hlt =>
    have hstep : (if s.bitbltbuf.spsm.BitsPerPixel = 4 then n + 1 + 1 else n + 1) =
        n + s.bitbltbuf.spsm.pixelsPerItem := by
      rw [PixelStorageMode.pixelsPerItem]
      split <;> rfl
    dsimp only
    rw [hstep]
    have hpos := s.bitbltbuf.spsm.pixelsPerItem_pos
    generalize hnext : { s with
      localToHostBuffer := s.localToHostBuffer ++ pixelBytes s.bitbltbuf.spsm.BitsPerPixel
        (s.ReadVram (n % s.trxreg.rrw) (n / s.trxreg.rrw))
        (s.ReadVram (n % s.trxreg.rrw + 1) (n / s.trxreg.rrw)) } = next
    have hfilled : next.Filled (n + s.bitbltbuf.spsm.pixelsPerItem) next.localToHostBuffer := by
      subst hnext
      obtain ⟨hlength, hwhole, hpixel⟩ := h.item
      exact ⟨hlength, hwhole, hpixel⟩
    have htotal : next.pixel_total = s.pixel_total := by
      subst hnext
      rfl
    have hitem : next.bitbltbuf.spsm = s.bitbltbuf.spsm := by
      subst hnext
      rfl
    obtain ⟨m, buffer, hloop, hbuffer, hm⟩ :=
      ih (next.pixel_total - (n + s.bitbltbuf.spsm.pixelsPerItem)) (by omega) hfilled
        (by rw [htotal, hitem]; omega) rfl
    subst hnext
    obtain ⟨hlength, hwhole, hpixel⟩ := hbuffer
    exact ⟨m, buffer, hloop, ⟨hlength, hwhole, hpixel⟩, hm⟩
  next hge =>
    exact ⟨n, s.localToHostBuffer, rfl, h, Nat.not_lt.1 hge, hn⟩

/-- **The buffer after a readback.** -/
theorem localToHost_sampled (s : GsReadback) :
    ∃ m buffer, s.performLocalToHostToBuffer =
        { s with localToHostBuffer := buffer, localToHostReadPos := 0 } ∧
      s.Filled m buffer ∧ s.pixel_total ≤ m ∧
      m < s.pixel_total + s.bitbltbuf.spsm.pixelsPerItem := by
  have hempty : { s with localToHostBuffer := [], localToHostReadPos := 0 }.Filled 0 [] :=
    ⟨by simp, Nat.dvd_zero _, fun i hi => absurd hi (Nat.not_lt_zero i)⟩
  obtain ⟨m, buffer, hloop, ⟨hlength, hwhole, hpixel⟩, hm⟩ :=
    readbackLoop_filled hempty (Nat.add_pos_right _ s.bitbltbuf.spsm.pixelsPerItem_pos)
  exact ⟨m, buffer, hloop, ⟨hlength, hwhole, hpixel⟩, hm⟩

/-- Pixel `i` of the rectangle, row by row. -/
def pixelAt (s : GsReadback) (i : Nat) : Nat := s.ReadVram (i % s.trxreg.rrw) (i / s.trxreg.rrw)

/-- A group of pixels starting at a multiple of its size lies in one row if the width is one. -/
theorem row_of_dvd {p w n : Nat} (hw : p ∣ w) (hn : p ∣ n) (hpos : 0 < w) : n % w + p ≤ w := by
  obtain ⟨v, rfl⟩ := hw
  obtain ⟨k, rfl⟩ := hn
  rw [Nat.mul_mod_mul_left, ← Nat.mul_add_one]
  exact Nat.mul_le_mul_left _ (Nat.mod_lt _ (Nat.pos_of_mul_pos_left hpos))

/-- Pixels that are read alone or in pairs of one row are those of the rectangle. -/
theorem sampled_eq_pixelAt (hw : s.bitbltbuf.spsm.pixelsPerItem ∣ s.trxreg.rrw)
    (hpos : 0 < s.trxreg.rrw) (i : Nat) : s.sampled i = s.pixelAt i := by
  have hk := Nat.mod_lt i s.bitbltbuf.spsm.pixelsPerItem_pos
  obtain ⟨hmod, hdiv⟩ := GsTransfer.row_arith (row_of_dvd hw (Nat.dvd_mul_left _
    (i / s.bitbltbuf.spsm.pixelsPerItem)) hpos) hk
  rw [Nat.mul_comm (i / _), Nat.div_add_mod] at hmod hdiv
  rw [sampled, pixelAt, hmod, hdiv, Nat.mul_comm (i / _)]

end GsReadback

end Ps2Recomp
