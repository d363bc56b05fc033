import Ps2Recomp.Gs.PixelInjective
import Ps2Recomp.Gs.Readback

/-!
# Readbacks undo uploads

`ReadsBack` is what a readback should do: the buffer holds the pixels of the rectangle and nothing
else, the calls that consume it hand it out in order, and uploading it to the place it came from
leaves the memory as it is. `readback_undoes_upload_iff` says for which formats and rectangles it
does so whatever the memory holds: all of them but the 4-bit formats with rows of odd width.

There the loop reads pixels in pairs side by side, so the last pair of a row has a pixel beyond the
rectangle, and the first pixel of the next row is not read.
-/

namespace Ps2Recomp

open GSMem BitMemory ByteCodec

/-! ## Pixels written back -/

namespace GsTransfer

variable {start s : GsTransfer} {stream : Bytes} {n offset : Nat}

/-- Writing pixels that the memory already holds changes nothing. -/
theorem foldl_applyWrite_same {buffer : GSBitBltBuf} {vram : Memory} {ws : List PixelWrite}
    (h : ∀ w ∈ ws,
      w.value = buffer.dpsm.read vram buffer.dbp (max buffer.dbw 1) w.x w.y) :
    ws.foldl (applyWrite buffer) vram = vram := by
  induction ws with
  | nil => rfl
  | cons w ws ih =>
    have hwrite : applyWrite buffer vram w = vram := by
      rw [applyWrite, h w List.mem_cons_self, PixelStorageMode.write_read]
    rw [List.foldl_cons, hwrite]
    exact ih fun w' hw' => h w' (List.mem_cons_of_mem _ hw')

/-- **The loop over the pixels of the memory** leaves it as it is. -/
theorem uploadLoop_same (beyond : Memory)
    (hlength : 8 * stream.length = start.totalPixels * start.bitbltbuf.dpsm.BitsPerPixel)
    (hwhole : start.bitbltbuf.dpsm.pixelsPerItem ∣ start.trxreg.rrw)
    (hvalue : ∀ i < start.totalPixels, (start.pixelWrite stream i).value =
      start.bitbltbuf.dpsm.read start.vram start.bitbltbuf.dbp (max start.bitbltbuf.dbw 1)
        (start.pixelWrite stream i).x (start.pixelWrite stream i).y)
    (hat : AtPixel start n s) (hvram : s.vram = start.vram) (hn : n < start.totalPixels)
    (hdvd : start.bitbltbuf.dpsm.pixelsPerItem ∣ n)
    (hpos : n * start.bitbltbuf.dpsm.BitsPerPixel = 8 * offset) :
    (s.uploadLoop (hostMemory stream beyond) stream.length offset).vram = start.vram := by
  induction hleft : stream.length - offset using Nat.strong_induction_on
    generalizing s n offset with
  | _ left ih =>
  have hstep := uploadFormat_step_pos start.bitbltbuf.dpsm
  have hitem := start.bitbltbuf.dpsm.pixelsPerItem_pos
  have hbits := start.bitbltbuf.dpsm.step_bits
  have hwidth : 0 < start.trxreg.rrw := Nat.pos_of_ne_zero fun h0 => by
    simp [totalPixels, h0] at hn
  have hrow := GsReadback.row_of_dvd hwhole hdvd hwidth
  have hle : n + start.bitbltbuf.dpsm.pixelsPerItem ≤ start.totalPixels := row_le_total hrow hn
  have hinside : offset + (uploadFormat start.bitbltbuf.dpsm).step ≤ stream.length := by
    have hmul := Nat.mul_le_mul_right start.bitbltbuf.dpsm.BitsPerPixel hle
    rw [Nat.add_mul] at hmul
    omega
  have hpixels := @pixels_of_payload start.bitbltbuf.dpsm [] stream [] beyond offset n hinside
    (by simpa using hpos)
  rw [List.nil_append, List.append_nil] at hpixels
  have hwrites := hat.rowWrites hrow hpixels
  have hnext : (s.uploadItem (hostMemory stream beyond) stream.length offset).vram =
      start.vram := by
    rw [uploadItem_eq]
    dsimp only
    rw [hwrites, hvram, hat.bitbltbuf_eq]
    refine foldl_applyWrite_same fun w hw => ?_
    obtain ⟨k, hk, rfl⟩ := List.mem_map.1 hw
    have hk := List.mem_range.1 hk
    exact hvalue _ (by omega)
  have hcopied : (s.uploadItem (hostMemory stream beyond) stream.length
      offset).transferState.copied_pixels = n + start.bitbltbuf.dpsm.pixelsPerItem := by
    rw [uploadItem_eq]
    dsimp only
    rw [hat.state_eq, hat.bitbltbuf_eq]
  rw [uploadLoop, if_pos (by omega)]
  dsimp only
  rw [hcopied, hat.state_eq, hat.bitbltbuf_eq]
  split
  next => exact hnext
  next hmore =>
    have hmore := Nat.not_le.1 hmore
    refine ih _ (by omega) (hat.next hrow hmore) hnext hmore (Nat.dvd_add hdvd (Nat.dvd_refl _)) ?_
      rfl
    rw [Nat.add_mul, hpos, hbits]
    omega

end GsTransfer

namespace GsReadback

/-! ## The round trip -/

/-- A transfer to the place that a readback reads. -/
def samePlace (s : GsReadback) : GsTransfer where
  bitbltbuf := ⟨s.bitbltbuf.sbp, s.bitbltbuf.sbw, s.bitbltbuf.spsm⟩
  trxpos := ⟨s.trxpos.ssax, s.trxpos.ssay⟩
  trxreg := s.trxreg
  vram := s.vram

/-- What a readback should do. -/
structure ReadsBack (s : GsReadback) : Prop where
  /-- The buffer is as long as the pixels of the rectangle. -/
  length_eq : s.performLocalToHostToBuffer.localToHostBuffer.length =
    (s.trxreg.rrw * s.trxreg.rrh * s.bitbltbuf.spsm.BitsPerPixel + 7) / 8
  /-- It holds them row by row, -/
  pixel : ∀ i < s.trxreg.rrw * s.trxreg.rrh,
    s.bitbltbuf.spsm.streamPixel s.performLocalToHostToBuffer.localToHostBuffer i = s.pixelAt i
  /-- and nothing behind them. -/
  nothing_else : ofBytes s.performLocalToHostToBuffer.localToHostBuffer <
    2 ^ (s.trxreg.rrw * s.trxreg.rrh * s.bitbltbuf.spsm.BitsPerPixel)
  /-- It is handed out in order, as much of it as is asked for. -/
  consumed_eq : ∀ calls, s.performLocalToHostToBuffer.consumed calls =
    s.performLocalToHostToBuffer.localToHostBuffer.take (calls.map asks).sum
  /-- Uploading it to the same place changes nothing. -/
  uploaded : ∀ beyond,
    (s.performLocalToHostToBuffer.samePlace.writeTrxdir.processImageData
      (GsTransfer.hostMemory s.performLocalToHostToBuffer.localToHostBuffer beyond)
      s.performLocalToHostToBuffer.localToHostBuffer.length).vram = s.vram

/-- **A readback of whole groups of pixels does what it should.** -/
theorem readsBack_of_dvd {s : GsReadback} (hw : s.trxreg.rrw ≠ 0) (hh : s.trxreg.rrh ≠ 0)
    (hwhole : s.bitbltbuf.spsm.pixelsPerItem ∣ s.trxreg.rrw) : s.ReadsBack := by
  obtain ⟨m, buffer, hrun, ⟨hlength, hm, hpixel⟩, hge, hlt⟩ := s.localToHost_sampled
  have hpos := Nat.pos_of_ne_zero hw
  -- The last group ends with the rectangle.
  obtain rfl : m = s.pixel_total := by
    obtain ⟨k, rfl⟩ := hm
    obtain ⟨t, ht⟩ : s.bitbltbuf.spsm.pixelsPerItem ∣ s.pixel_total :=
      Nat.dvd_trans hwhole (Nat.dvd_mul_right _ _)
    rw [ht] at hge hlt ⊢
    rw [← Nat.mul_add_one] at hlt
    have hp := s.bitbltbuf.spsm.pixelsPerItem_pos
    have hle : t ≤ k := Nat.le_of_mul_le_mul_left hge hp
    have hlt : k < t + 1 := Nat.lt_of_mul_lt_mul_left hlt
    rw [show k = t by omega]
  have hpixels : ∀ i < s.pixel_total, s.bitbltbuf.spsm.streamPixel buffer i = s.pixelAt i :=
    fun i hi => (hpixel i hi).trans (sampled_eq_pixelAt hwhole hpos i)
  have htotal : s.pixel_total = s.trxreg.rrw * s.trxreg.rrh := rfl
  rw [htotal] at hlength hpixels
  refine ⟨?_, ?_, ?_, fun calls => ?_, fun beyond => ?_⟩
  all_goals rw [hrun]; dsimp only
  · omega
  · exact hpixels
  · rw [← hlength, Nat.pow_mul]
    exact ofBytes_lt buffer
  · exact consumed_eq _ calls
  · have hdir : ¬ s.samePlace.writeTrxdir.trxdir ≠ 0 := not_not.2 rfl
    have hne : ¬ (s.samePlace.writeTrxdir.trxreg.rrw = 0 ∨
        s.samePlace.writeTrxdir.trxreg.rrh = 0) := not_or.2 ⟨hw, hh⟩
    have hstart : GsTransfer.AtPixel s.samePlace 0 s.samePlace.writeTrxdir :=
      ⟨rfl, rfl, rfl, by
        rw [Nat.zero_mod, Nat.zero_div]
        rfl⟩
    change (GsTransfer.processImageData s.samePlace.writeTrxdir _ _).vram = _
    rw [GsTransfer.processImageData, if_neg hdir, if_neg hne]
    refine GsTransfer.uploadLoop_same beyond hlength hwhole (fun i hi => ?_) hstart rfl
      (Nat.mul_pos hpos (Nat.pos_of_ne_zero hh)) (Nat.dvd_zero _) (Nat.zero_mul _)
    have hread := hpixels i hi
    rw [pixelAt, ReadVram, Nat.add_comm _ s.trxpos.ssax, Nat.add_comm _ s.trxpos.ssay] at hread
    exact hread

/-! ## Odd rows of 4-bit pixels -/

/-- The memory with one pixel set, the one to the right of the first row. -/
def beyondRow (bitbltbuf : GSSourceBuf) (trxpos : GSSourcePos) (trxreg : GSTrxReg) : Memory :=
  bitbltbuf.spsm.write (fun _ => 0) bitbltbuf.sbp (max bitbltbuf.sbw 1) (trxreg.rrw + trxpos.ssax)
    (0 + trxpos.ssay) 1

/-- The pixel to the right of the first row is read where the second row should start. -/
theorem sampled_rrw {s : GsReadback} (hitem : s.bitbltbuf.spsm.pixelsPerItem = 2)
    (hodd : s.trxreg.rrw % 2 = 1) : s.sampled s.trxreg.rrw = s.ReadVram s.trxreg.rrw 0 := by
  have hlast : s.trxreg.rrw / 2 * 2 < s.trxreg.rrw := by omega
  rw [sampled, hitem, Nat.mod_eq_of_lt hlast, Nat.div_eq_of_lt hlast,
    Nat.div_add_mod']

/-- **With 4-bit pixels and rows of odd width it does not**, if that pixel is the only one. -/
theorem not_readsBack_of_odd {bitbltbuf : GSSourceBuf} {trxpos : GSSourcePos} {trxreg : GSTrxReg}
    (hh : trxreg.rrh ≠ 0) (hbits : bitbltbuf.spsm.BitsPerPixel = 4) (hodd : trxreg.rrw % 2 = 1) :
    ¬ ReadsBack { bitbltbuf, trxpos, trxreg, vram := beyondRow bitbltbuf trxpos trxreg } := by
  intro h
  generalize hs : ({ bitbltbuf, trxpos, trxreg, vram := beyondRow bitbltbuf trxpos trxreg } :
    GsReadback) = s at h
  have hitem : s.bitbltbuf.spsm.pixelsPerItem = 2 := by
    subst hs
    exact if_pos hbits
  have hpixel : s.ReadVram s.trxreg.rrw 0 = 1 := by
    subst hs
    rw [ReadVram]
    dsimp only
    rw [beyondRow, PixelStorageMode.read_write, hbits]
    rfl
  obtain ⟨m, buffer, hrun, hfilled, hge, -⟩ := s.localToHost_sampled
  have hbuffer := congrArg localToHostBuffer hrun
  have hpixels := h.pixel
  have hnothing := h.nothing_else
  rw [hbuffer] at hpixels hnothing
  dsimp only at hpixels hnothing
  subst hs
  have hm : trxreg.rrw < m := by
    obtain ⟨k, rfl⟩ := hfilled.whole
    have hle : trxreg.rrw * 1 ≤ trxreg.rrw * trxreg.rrh :=
      Nat.mul_le_mul_left _ (Nat.pos_of_ne_zero hh)
    rw [pixel_total, hitem] at hge
    dsimp only at hge
    rw [hitem]
    omega
  have hsample := hfilled.pixel _ hm
  rw [sampled_rrw hitem hodd, hpixel] at hsample
  rcases Nat.lt_or_ge trxreg.rrw (trxreg.rrw * trxreg.rrh) with hmore | hlast
  · -- The second row starts with a pixel that is not set.
    have hfirst := hpixels _ hmore
    have hpos : 0 < trxreg.rrw := by omega
    rw [hsample, pixelAt, ReadVram] at hfirst
    dsimp only at hfirst
    rw [Nat.mod_self, Nat.div_self hpos, beyondRow, PixelStorageMode.read_write_apart] at hfirst
    · have hzero : bitbltbuf.spsm.read (fun _ => 0) bitbltbuf.sbp (max bitbltbuf.sbw 1)
          (0 + trxpos.ssax) (1 + trxpos.ssay) = 0 := by
        apply Nat.eq_of_testBit_eq
        intro j
        rw [PixelStorageMode.testBit_read, bit]
        simp
      rw [hzero] at hfirst
      exact absurd hfirst Nat.one_ne_zero
    · intro hposition
      have hrow := PixelStorageMode.row_of_position_eq _ _ _ hposition
      have hheight : 1 < bitbltbuf.spsm.PageExtent.y := by
        cases bitbltbuf.spsm <;> decide
      generalize bitbltbuf.spsm.PageExtent.y = height at hrow hheight
      have hsub : (1 + trxpos.ssay - (0 + trxpos.ssay)) % height = 0 :=
        Nat.sub_mod_eq_zero_of_mod_eq hrow.symm
      rw [show 1 + trxpos.ssay - (0 + trxpos.ssay) = 1 by omega, Nat.mod_eq_of_lt hheight] at hsub
      exact absurd hsub Nat.one_ne_zero
  · -- There is no other row, so the buffer should end with the pixel before.
    have hsmall : ofBytes buffer < 2 ^ (trxreg.rrw * bitbltbuf.spsm.BitsPerPixel) :=
      hnothing.trans_le (Nat.pow_le_pow_right (by decide) (Nat.mul_le_mul_right _ hlast))
    have hzero : bitbltbuf.spsm.streamPixel buffer trxreg.rrw = 0 := by
      rw [PixelStorageMode.streamPixel, Nat.shiftRight_eq_div_pow, Nat.div_eq_of_lt hsmall,
        Nat.zero_mod]
    rw [hzero] at hsample
    exact absurd hsample Nat.zero_ne_one

/-- Two rows of three 4-bit pixels in a row of a buffer of width 64. -/
theorem not_readsBack_three : ¬ ReadsBack
    { bitbltbuf := ⟨0, 1, .P4⟩, trxpos := ⟨0, 0⟩, trxreg := ⟨3, 2⟩
      vram := PixelStorageMode.P4.write (fun _ => 0) 0 1 3 0 1 } :=
  @not_readsBack_of_odd ⟨0, 1, .P4⟩ ⟨0, 0⟩ ⟨3, 2⟩ (by decide) rfl rfl

/-- **When a readback undoes an upload.** For every source and every rectangle that is not empty, it
does for all contents of the memory, unless pixels have 4 bits and rows have odd width. -/
theorem readback_undoes_upload_iff (bitbltbuf : GSSourceBuf) (trxpos : GSSourcePos)
    (trxreg : GSTrxReg) (hw : trxreg.rrw ≠ 0) (hh : trxreg.rrh ≠ 0) :
    (∀ vram localToHostBuffer localToHostReadPos,
      ReadsBack { bitbltbuf, trxpos, trxreg, vram, localToHostBuffer, localToHostReadPos }) ↔
      ¬ (bitbltbuf.spsm.BitsPerPixel = 4 ∧ trxreg.rrw % 2 = 1) := by
  constructor
  · rintro h ⟨hbits, hodd⟩
    exact not_readsBack_of_odd hh hbits hodd (h _ [] 0)
  · intro hcond vram localToHostBuffer localToHostReadPos
    refine readsBack_of_dvd hw hh ?_
    change bitbltbuf.spsm.pixelsPerItem ∣ trxreg.rrw
    rw [PixelStorageMode.pixelsPerItem]
    split
    next hbits => exact Nat.dvd_of_mod_eq_zero (by omega)
    next => exact Nat.one_dvd _

theorem readback_undoes_upload_iff_even :
    (∀ vram localToHostBuffer localToHostReadPos,
      ReadsBack { bitbltbuf := ⟨0, 1, .P4⟩, trxpos := ⟨0, 0⟩, trxreg := ⟨4, 2⟩, vram,
                  localToHostBuffer, localToHostReadPos }) ↔
      ¬ (PixelStorageMode.P4.BitsPerPixel = 4 ∧ 4 % 2 = 1) :=
  readback_undoes_upload_iff ⟨0, 1, .P4⟩ ⟨0, 0⟩ ⟨4, 2⟩ (by decide) (by decide)

end GsReadback

end Ps2Recomp
