import Ps2Recomp.Vu.Xgkick

/-!
# The packet of a kick

While a transfer is under way the packet so far is what lies in the ring from the kick address on,
and the tag under way or the next one begins the rest of the chain (`Progress`). Every iteration of
the loop keeps that or ends the transfer (`iterate_spec`), so calls in any number submit the packet
once, whole, and a flush leaves nothing under way (`xgkick_delivers_packet`). The one exception is a
packet of more than 64 MiB, which is dropped.
-/

namespace Ps2Recomp

open ByteCodec (Bytes ofBytes)

/-! ## The ring -/

namespace VuData

variable (data : VuData)

theorem size_lt : data.size < 2 ^ 32 := by
  obtain ⟨k, -, hk, hsize⟩ := data.size_pow
  rw [hsize]
  exact Nat.pow_lt_pow_right (by omega) hk

theorem le_size : 16 ≤ data.size := by
  obtain ⟨k, hk, -, hsize⟩ := data.size_pow
  calc 16 = 2 ^ 4 := rfl
    _ ≤ 2 ^ k := Nat.pow_le_pow_right (by omega) hk
    _ = data.size := hsize.symm

@[simp] theorem length_ring (address byteCount : ℕ) :
    (data.ring address byteCount).length = byteCount := by
  simp [ring]

theorem ring_add (address m n : ℕ) :
    data.ring address (m + n) = data.ring address m ++ data.ring (address + m) n := by
  unfold ring
  rw [List.range_add, List.map_append, List.map_map]
  simp [Function.comp_def, Nat.add_assoc]

theorem ring_mod (address byteCount : ℕ) :
    data.ring (address % data.size) byteCount = data.ring address byteCount := by
  simp [ring]

/-- What is copied in two spans is what lies in the ring. -/
theorem copyVuRingBytes_eq {address byteCount : ℕ} (haddress : address < data.size)
    (hcount : byteCount ≤ data.size) :
    data.copyVuRingBytes address byteCount = data.ring address byteCount := by
  unfold copyVuRingBytes
  dsimp only
  obtain ⟨first, hfirst⟩ : ∃ first, min byteCount (data.size - address) = first := ⟨_, rfl⟩
  obtain ⟨second, hsecond⟩ : ∃ second, byteCount - first = second := ⟨_, rfl⟩
  have hsum : byteCount = first + second := by omega
  rw [hfirst, hsecond, hsum, ring_add]
  congr 1
  · refine List.map_congr_left fun i hi => ?_
    rw [Nat.mod_eq_of_lt]
    have := List.mem_range.1 hi
    omega
  · refine List.map_congr_left fun i hi => ?_
    have hi := List.mem_range.1 hi
    -- there is a second span only if the first one reaches the end
    have hend : address + first = data.size := by omega
    rw [hend, Nat.add_mod_left, Nat.mod_eq_of_lt (by omega)]

theorem advanceVuRingAddress_eq {address byteCount : ℕ} (haddress : address < data.size)
    (hcount : byteCount ≤ data.size) :
    data.advanceVuRingAddress address byteCount = (address + byteCount) % data.size := by
  unfold advanceVuRingAddress
  dsimp only
  split
  · have hsub : address + byteCount = data.size + (byteCount - (data.size - address)) := by omega
    rw [hsub, Nat.add_mod_left]
    rcases Nat.lt_or_ge (byteCount - (data.size - address)) data.size with hlt | hge
    · rw [Nat.mod_eq_of_lt hlt]
    · omega
  · rw [Nat.mod_eq_of_lt (by omega)]

end VuData

namespace Xgkick

variable {data : VuData} {flush : Bool}

/-! ## Tags -/

theorem read64Wrap_eq (address : ℕ) :
    data.read64Wrap (address % data.size) = tagAt data address := by
  have hsize := data.le_size
  unfold VuData.read64Wrap tagAt
  rw [data.copyVuRingBytes_eq (Nat.mod_lt _ (by omega)) (by omega), data.ring_mod]

theorem gifPayloadBytes_dvd (tagLo : ℕ) : 16 ∣ gifPayloadBytes tagLo := by
  unfold gifPayloadBytes
  dsimp only
  split_ifs <;> omega

theorem tagBytesAt_dvd (address : ℕ) : 16 ∣ tagBytesAt data address :=
  (Nat.dvd_add_right (dvd_refl 16)).2 (gifPayloadBytes_dvd _)

theorem le_tagBytesAt (address : ℕ) : 16 ≤ tagBytesAt data address := Nat.le_add_right _ _

theorem Chain.le {address byteCount : ℕ} (h : Chain data address byteCount) :
    tagBytesAt data address ≤ byteCount := by
  cases h with
  | eop => exact le_rfl
  | more => exact Nat.le_add_right _ _

/-- The unit with a tag loaded. -/
def withTag (xgkick : Xgkick) (tagLo : ℕ) : Xgkick :=
  { xgkick with
    tagBytesRemaining := 16 + gifPayloadBytes tagLo
    tagEop := decide ((tagLo >>> 15) &&& 1 ≠ 0) }

/-- The size of a tag is the one that the GIF arbiter finds. -/
theorem loadTag_def (xgkick : Xgkick) (l : AdvanceLocals) :
    loadTag data xgkick l =
      let tagLo := data.read64Wrap xgkick.address
      let tagBytes := 16 + gifPayloadBytes tagLo
      if tagBytes ≥ data.size ∨ tagBytes > kUint32Max then none
      else if l.validateFlushChain then
        if l.flushScanBytes + tagBytes ≥ data.size then none
        else some (withTag xgkick tagLo, { l with flushScanBytes := l.flushScanBytes + tagBytes })
      else some (withTag xgkick tagLo, l) := rfl

/-- `loadTag` where a tag lies, with the check of the budget. -/
theorem loadTag_eq {xgkick : Xgkick} {l : AdvanceLocals} {address : ℕ}
    (haddress : xgkick.address = address % data.size) (hsize : tagBytesAt data address < data.size)
    (hscan : l.flushScanBytes + tagBytesAt data address < data.size) :
    ∃ scanned, scanned ≤ l.flushScanBytes + tagBytesAt data address ∧
      loadTag data xgkick l = some
        (withTag xgkick (tagAt data address), { l with flushScanBytes := scanned }) := by
  have hlimit := data.size_lt
  have hbytes : ¬(tagBytesAt data address ≥ data.size ∨ tagBytesAt data address > kUint32Max) := by
    unfold kUint32Max
    omega
  rw [loadTag_def, haddress, read64Wrap_eq]
  dsimp only
  rw [show 16 + gifPayloadBytes (tagAt data address) = tagBytesAt data address from rfl,
    if_neg hbytes]
  split
  · rw [if_neg (by omega)]
    exact ⟨_, le_rfl, rfl⟩
  · exact ⟨_, Nat.le_add_right _ _, rfl⟩

theorem loadTag_some {xgkick xgkick' : Xgkick} {l l' : AdvanceLocals}
    (h : loadTag data xgkick l = some (xgkick', l')) :
    16 ≤ xgkick'.tagBytesRemaining ∧ 16 ∣ xgkick'.tagBytesRemaining ∧
      l'.transferQwords = l.transferQwords ∧ l.flushScanBytes ≤ l'.flushScanBytes ∧
      (l.validateFlushChain = true →
        l.flushScanBytes < l'.flushScanBytes ∧ l'.flushScanBytes < data.size) := by
  rw [loadTag_def] at h
  dsimp only at h
  have hdvd := gifPayloadBytes_dvd (data.read64Wrap xgkick.address)
  have hsize : 16 ≤ 16 + gifPayloadBytes (data.read64Wrap xgkick.address) := Nat.le_add_right _ _
  split at h
  · cases h
  split at h
  · split at h
    · cases h
    · rename_i hbudget
      cases h
      refine ⟨hsize, (Nat.dvd_add_right (dvd_refl 16)).2 hdvd, rfl, Nat.le_add_right _ _, ?_⟩
      exact fun _ => ⟨by dsimp only; omega, Nat.lt_of_not_le hbudget⟩
  · rename_i hskip
    cases h
    exact ⟨hsize, (Nat.dvd_add_right (dvd_refl 16)).2 hdvd, rfl, le_rfl,
      fun hvalidate => absurd hvalidate hskip⟩

/-! ## A transfer under way -/

variable {start total spent : ℕ} {submitted : List Bytes} {w w' : XgkickWorld}
  {l l' : AdvanceLocals}

/-- What is left of the chain: it begins with the next tag, or with the rest of one. -/
inductive Rest (data : VuData) (start total : ℕ) (xgkick : Xgkick) : Prop
  | next (left : ℕ) (fresh : xgkick.tagBytesRemaining = 0)
      (chain : Chain data (start + xgkick.packet.length) left)
      (sum : xgkick.packet.length + left = total)
  | last (within : xgkick.tagBytesRemaining ≠ 0) (eop : xgkick.tagEop = true)
      (sum : xgkick.packet.length + xgkick.tagBytesRemaining = total)
  | inside (left : ℕ) (within : xgkick.tagBytesRemaining ≠ 0) (more : xgkick.tagEop = false)
      (chain : Chain data (start + xgkick.packet.length + xgkick.tagBytesRemaining) left)
      (sum : xgkick.packet.length + xgkick.tagBytesRemaining + left = total)

/-- The packet so far lies in the ring from the start on, and the rest behind it. -/
structure Progress (data : VuData) (start total : ℕ) (xgkick : Xgkick) : Prop where
  active : xgkick.active = true
  packet : xgkick.packet = data.ring start xgkick.packet.length
  address : xgkick.address = (start + xgkick.packet.length) % data.size
  aligned : 16 ∣ xgkick.packet.length ∧ 16 ∣ xgkick.tagBytesRemaining
  rest : Rest data start total xgkick

theorem Progress.le_total {xgkick : Xgkick} (h : Progress data start total xgkick) :
    xgkick.packet.length + xgkick.tagBytesRemaining ≤ total := by
  cases h.rest with
  | next left fresh chain sum => omega
  | last within eop sum => omega
  | inside left within more chain sum => omega

theorem Progress.credited {xgkick : Xgkick} (h : Progress data start total xgkick)
    (cycleCredit : ℕ) : Progress data start total { xgkick with cycleCredit } := by
  refine ⟨h.active, h.packet, h.address, h.aligned, ?_⟩
  cases h.rest with
  | next left fresh chain sum => exact .next left fresh chain sum
  | last within eop sum => exact .last within eop sum
  | inside left within more chain sum => exact .inside left within more chain sum

theorem Progress.loaded {xgkick : Xgkick} (h : Progress data start total xgkick)
    (htotal : total < data.size) (hnone : xgkick.tagBytesRemaining = 0)
    (hscan : l.flushScanBytes ≤ xgkick.packet.length) :
    ∃ xgkick' scanned, loadTag data xgkick l = some (xgkick', { l with flushScanBytes := scanned }) ∧
      Progress data start total xgkick' ∧ xgkick'.tagBytesRemaining ≠ 0 ∧
      xgkick'.packet = xgkick.packet ∧ xgkick'.cycleCredit = xgkick.cycleCredit ∧
      scanned ≤ xgkick.packet.length + xgkick'.tagBytesRemaining := by
  obtain ⟨address, haddress⟩ : ∃ address, start + xgkick.packet.length = address := ⟨_, rfl⟩
  cases h.rest with
  | last within => exact absurd hnone within
  | inside left within => exact absurd hnone within
  | next left fresh chain sum =>
    rw [haddress] at chain
    have hle := chain.le
    have hpos := @le_tagBytesAt data address
    have hlies : xgkick.address = address % data.size := by rw [h.address, haddress]
    obtain ⟨scanned, hscanned, hload⟩ := loadTag_eq (l := l) hlies (by omega) (by omega)
    have hbytes : (withTag xgkick (tagAt data address)).tagBytesRemaining =
        tagBytesAt data address := rfl
    have hpacket : (withTag xgkick (tagAt data address)).packet = xgkick.packet := rfl
    refine ⟨_, scanned, hload, ?_, by omega, rfl, rfl, by omega⟩
    refine ⟨h.active, h.packet, h.address, ⟨h.aligned.1, tagBytesAt_dvd address⟩, ?_⟩
    cases chain with
    | eop heop => exact .last (by omega) heop sum
    | more hmore hrest =>
      rename_i left
      refine .inside left (by omega) hmore ?_ (by rw [hpacket]; omega)
      rw [hpacket, haddress]
      exact hrest

/-- How a transfer stands after a call. A cycle pays for eight bytes, unless it is flushed. -/
inductive Stands (data : VuData) (start total spent : ℕ) (submitted : List Bytes) (flush : Bool)
    (w : XgkickWorld) : Prop
  | underWay (unflushed : flush = false) (progress : Progress data start total w.xgkick)
      (sent : w.submitted = submitted)
      (paid : w.xgkick.packet.length + 8 * w.xgkick.cycleCredit ≤ 8 * spent)
  | delivered (idle : w.xgkick = {}) (fits : total ≤ kMaxPath1PacketBytes)
      (sent : w.submitted = submitted ++ [data.ring start total])
      (paid : flush = false → total ≤ 8 * spent)
  | dropped (idle : w.xgkick = {}) (large : kMaxPath1PacketBytes < total)
      (sent : w.submitted = submitted)

/-- What holds before every iteration of the loop. -/
structure Head (data : VuData) (start total spent : ℕ) (submitted : List Bytes) (flush : Bool)
    (w : XgkickWorld) (l : AdvanceLocals) : Prop where
  progress : Progress data start total w.xgkick
  sent : w.submitted = submitted
  scan : l.flushScanBytes ≤ w.xgkick.packet.length + w.xgkick.tagBytesRemaining
  paid : flush = false →
    w.xgkick.packet.length + 8 * w.xgkick.cycleCredit ≤ 8 * spent ∧
      2 * l.transferQwords ≤ w.xgkick.cycleCredit

/-- One or the other, as the iteration ends. -/
def Iteration.Meets (leaving : XgkickWorld → Prop)
    (again : XgkickWorld → AdvanceLocals → Prop) : Iteration → Prop
  | .leave w => leaving w
  | .again w l => again w l

/-- The packet and the rest of the chain after some quadwords of a tag. -/
theorem Progress.move (flush : Bool) {xgkick : Xgkick} {qwords : ℕ} (h : Progress data start total xgkick)
    (htotal : total < data.size) (hfits : qwords * 16 ≤ xgkick.tagBytesRemaining) :
    (move data flush xgkick qwords).packet = data.ring start (xgkick.packet.length + qwords * 16) ∧
      ((move data flush xgkick qwords).tagBytesRemaining ≠ 0 ∨ xgkick.tagEop = false →
        Progress data start total (move data flush xgkick qwords)) := by
  have hle := h.le_total
  have hlies : xgkick.address < data.size := by
    rw [h.address]
    exact Nat.mod_lt _ (by omega)
  obtain ⟨moved, hmoved⟩ : ∃ moved, Xgkick.move data flush xgkick qwords = moved := ⟨_, rfl⟩
  have hremaining : moved.tagBytesRemaining = xgkick.tagBytesRemaining - qwords * 16 :=
    hmoved ▸ rfl
  have heop : moved.tagEop = xgkick.tagEop := hmoved ▸ rfl
  have hring : moved.packet = data.ring start (xgkick.packet.length + qwords * 16) := by
    rw [← hmoved, data.ring_add, ← h.packet, ← data.ring_mod (start + _), ← h.address,
      ← data.copyVuRingBytes_eq hlies (by omega)]
    rfl
  have hlength : moved.packet.length = xgkick.packet.length + qwords * 16 := by
    rw [hring, data.length_ring]
  rw [hmoved]
  refine ⟨hring, fun hmore => ⟨hmoved ▸ h.active, hlength ▸ hring, ?_, ?_, ?_⟩⟩
  · have haddress : moved.address = data.advanceVuRingAddress xgkick.address (qwords * 16) :=
      hmoved ▸ rfl
    rw [haddress, data.advanceVuRingAddress_eq hlies (by omega), h.address, hlength,
      Nat.mod_add_mod, Nat.add_assoc]
  · have := h.aligned
    omega
  · cases h.rest with
    | next left fresh chain sum =>
      refine .next left (by omega) ?_ (by omega)
      rw [show moved.packet.length = xgkick.packet.length by omega]
      exact chain
    | last within eop sum =>
      refine .last ?_ (heop.trans eop) (by omega)
      exact hmore.resolve_right (by rw [eop]; decide)
    | inside left within more chain sum =>
      have hbehind : start + moved.packet.length + moved.tagBytesRemaining =
          start + xgkick.packet.length + xgkick.tagBytesRemaining := by omega
      by_cases hzero : moved.tagBytesRemaining = 0
      · refine .next left hzero ?_ (by omega)
        rw [← Nat.add_zero (start + _), ← hzero, hbehind]
        exact chain
      · exact .inside left hzero (heop.trans more) (hbehind ▸ chain) (by omega)

/-- At least one quadword is transferred, and none that is not there or not paid for. -/
theorem qwordsOf_spec {xgkick : Xgkick} (haligned : 16 ∣ xgkick.tagBytesRemaining)
    (hwithin : xgkick.tagBytesRemaining ≠ 0) (hmay : flush = true ∨ l.transferQwords ≠ 0) :
    0 < qwordsOf flush xgkick l ∧ qwordsOf flush xgkick l * 16 ≤ xgkick.tagBytesRemaining ∧
      (flush = false → qwordsOf flush xgkick l ≤ l.transferQwords) := by
  unfold qwordsOf
  cases flush with
  | true =>
    simp only [if_true]
    exact ⟨by omega, by omega, by rintro ⟨⟩⟩
  | false =>
    have htransfer : l.transferQwords ≠ 0 := hmay.resolve_left Bool.false_ne_true
    simp only [Bool.false_eq_true, if_false]
    exact ⟨by omega, by omega, fun _ => by omega⟩

theorem Head.transfer (h : Head data start total spent submitted flush w l)
    (htotal : total < data.size) (hwithin : w.xgkick.tagBytesRemaining ≠ 0)
    (hmay : flush = true ∨ l.transferQwords ≠ 0) :
    (transfer data flush w l).Meets (Stands data start total spent submitted flush)
      (Head data start total spent submitted flush) := by
  have haligned := h.progress.aligned.2
  have hle := h.progress.le_total
  have hscan := h.scan
  obtain ⟨hpos, hfits, hpays⟩ := qwordsOf_spec haligned hwithin hmay
  unfold Xgkick.transfer
  dsimp only
  obtain ⟨qwords, hqwords⟩ : ∃ qwords, qwordsOf flush w.xgkick l = qwords := ⟨_, rfl⟩
  rw [hqwords] at hpos hfits hpays ⊢
  split
  · rename_i hdrop
    exact .dropped rfl (by omega) h.sent
  rename_i hkeep
  obtain ⟨hring, hprogress⟩ := h.progress.move flush htotal hfits
  obtain ⟨moved, hmoved⟩ : ∃ moved, move data flush w.xgkick qwords = moved := ⟨_, rfl⟩
  have hremaining : moved.tagBytesRemaining = w.xgkick.tagBytesRemaining - qwords * 16 :=
    hmoved ▸ rfl
  have heop : moved.tagEop = w.xgkick.tagEop := hmoved ▸ rfl
  rw [hmoved] at hring hprogress ⊢
  have hlength : moved.packet.length = w.xgkick.packet.length + qwords * 16 := by
    rw [hring, data.length_ring]
  have hpaid : flush = false →
      moved.packet.length + 8 * moved.cycleCredit ≤ 8 * spent ∧
        2 * (if flush then l.transferQwords else l.transferQwords - qwords) ≤
          moved.cycleCredit := by
    intro hflush
    have hpaid := h.paid hflush
    have hpays := hpays hflush
    have hcredit : moved.cycleCredit = w.xgkick.cycleCredit - qwords * 2 := by
      rw [← hmoved, hflush]
      rfl
    rw [if_neg (by rw [hflush]; decide)]
    omega
  split
  · rename_i hmore
    exact ⟨hprogress (.inl hmore), h.sent, by dsimp only; omega, hpaid⟩
  rename_i hdone
  rw [not_not] at hdone
  split
  · rename_i hlast
    have hsum : w.xgkick.packet.length + qwords * 16 = total := by
      cases h.progress.rest with
      | next left fresh => exact absurd fresh hwithin
      | last within eop sum => omega
      | inside left within more =>
        rw [heop, more] at hlast
        cases hlast
    refine .delivered rfl (by omega) ?_ fun hflush => ?_
    · rw [h.sent, hring, hsum]
    · have := hpaid hflush
      omega
  · rename_i hmore
    rw [Bool.not_eq_true, heop] at hmore
    exact ⟨hprogress (.inr hmore), h.sent, by dsimp only; omega, hpaid⟩

/-- **What one iteration keeps.** -/
theorem Head.iterate (h : Head data start total spent submitted flush w l)
    (htotal : total < data.size) :
    (iterate data flush w l).Meets (Stands data start total spent submitted flush)
      (Head data start total spent submitted flush) := by
  have htag : ∃ xgkick l', (if w.xgkick.tagBytesRemaining = 0 then loadTag data w.xgkick l
        else some (w.xgkick, l)) = some (xgkick, l') ∧ l'.transferQwords = l.transferQwords ∧
      Head data start total spent submitted flush { w with xgkick } l' ∧
      xgkick.tagBytesRemaining ≠ 0 := by
    have hscan := h.scan
    split
    · rename_i hnone
      obtain ⟨xgkick, scanned, hload, hprogress, hwithin, hpacket, hcredit, hscanned⟩ :=
        h.progress.loaded (l := l) htotal hnone (by omega)
      refine ⟨xgkick, _, hload, rfl, ⟨hprogress, h.sent, ?_, ?_⟩, hwithin⟩
      · rw [hpacket]
        exact hscanned
      · rw [hpacket, hcredit]
        exact h.paid
    · rename_i hwithin
      exact ⟨w.xgkick, l, rfl, rfl, h, hwithin⟩
  obtain ⟨xgkick, l', hload, hquota, hhead, hwithin⟩ := htag
  unfold Xgkick.iterate
  rw [hload]
  dsimp only
  split
  · rename_i hbreak
    rw [Bool.and_eq_true, Bool.not_eq_true', decide_eq_true_eq] at hbreak
    exact .underWay hbreak.1 hhead.progress h.sent (hhead.paid hbreak.1).1
  · rename_i hgo
    refine hhead.transfer htotal hwithin ?_
    cases flush with
    | true => exact .inl rfl
    | false => exact .inr (by simpa using hgo)

theorem Head.loop {fuel : ℕ} (h : Head data start total spent submitted flush w l)
    (htotal : total < data.size) (hloop : loop data flush fuel w l = some w') :
    Stands data start total spent submitted flush w' := by
  induction fuel generalizing w l with
  | zero => cases hloop
  | succ fuel ih =>
    have hiterate := h.iterate htotal
    unfold Xgkick.loop at hloop
    cases hnext : Xgkick.iterate data flush w l with
    | leave left =>
      rw [hnext] at hloop hiterate
      cases hloop
      exact hiterate
    | again next l' =>
      rw [hnext] at hloop hiterate
      exact ih hiterate hloop

/-! ## The loop ends -/

/-- It falls from one iteration to the next. A flush has the budget of the chain left; before the
check of the chain begins there is the tag under way. -/
def rank (data : VuData) (flush : Bool) (w : XgkickWorld) (l : AdvanceLocals) : ℕ :=
  if flush then
    data.size - l.flushScanBytes +
      if w.xgkick.tagBytesRemaining = 0 ∧ l.validateFlushChain = true then 0
      else if w.xgkick.tagBytesRemaining < 16 then 1 else 2
  else l.transferQwords

theorem transfer_again (h : Xgkick.transfer data flush w l = .again w' l') :
    0 < qwordsOf flush w.xgkick l ∧
      w'.xgkick.tagBytesRemaining =
        w.xgkick.tagBytesRemaining - qwordsOf flush w.xgkick l * 16 ∧
      l'.transferQwords =
        (if flush then l.transferQwords else l.transferQwords - qwordsOf flush w.xgkick l) ∧
      l'.flushScanBytes = l.flushScanBytes ∧
      (w'.xgkick.tagBytesRemaining = 0 → flush = true → l'.validateFlushChain = true) := by
  unfold Xgkick.transfer at h
  dsimp only at h
  split at h
  · cases h
  rename_i hkeep
  split at h
  · rename_i hmore
    cases h
    exact ⟨by omega, rfl, rfl, rfl, fun hdone => absurd hdone hmore⟩
  split at h
  · cases h
  · cases h
    refine ⟨by omega, rfl, rfl, rfl, fun _ hflush => ?_⟩
    rw [hflush, Bool.true_or]

/-- **Every iteration brings the end of the loop nearer**, whatever lies in the memory. -/
theorem iterate_rank (h : Xgkick.iterate data flush w l = .again w' l') :
    rank data flush w' l' < rank data flush w l := by
  unfold Xgkick.iterate at h
  split at h
  · cases h
  rename_i xgkick l₁ hload
  dsimp only at h
  split at h
  · cases h
  obtain ⟨hpos, hremaining, hquota, hscan, hvalidate⟩ := transfer_again h
  dsimp only at hpos hremaining hquota
  unfold rank
  cases flush with
  | false =>
    have hsame : l₁.transferQwords = l.transferQwords := by
      split at hload
      · exact (loadTag_some hload).2.2.1
      · cases hload
        rfl
    have hle : qwordsOf false xgkick l₁ ≤ l₁.transferQwords := Nat.min_le_right _ _
    simp only [Bool.false_eq_true, if_false] at hquota ⊢
    omega
  | true =>
    have hqwords : qwordsOf true xgkick l₁ = xgkick.tagBytesRemaining / 16 := rfl
    simp only [if_true]
    split at hload
    · rename_i hnone
      -- a new tag: the whole of it is transferred
      obtain ⟨hle, hdvd, -, hmore, hbudget⟩ := loadTag_some hload
      have hdone : w'.xgkick.tagBytesRemaining = 0 := by omega
      rw [if_pos ⟨hdone, hvalidate hdone rfl⟩, hscan]
      split
      · rename_i hboth
        have := hbudget hboth.2
        omega
      · split <;> omega
    · rename_i hwithin
      cases hload
      have hbefore : (if w.xgkick.tagBytesRemaining = 0 ∧ l.validateFlushChain = true then 0
          else if w.xgkick.tagBytesRemaining < 16 then 1 else 2) = 2 := by
        rw [if_neg fun hboth => hwithin hboth.1, if_neg (by omega)]
      rw [hbefore, hscan]
      split
      · omega
      · rw [if_pos (by omega)]
        omega

theorem loop_isSome {fuel : ℕ} (h : rank data flush w l < fuel) :
    (Xgkick.loop data flush fuel w l).isSome := by
  induction fuel generalizing w l with
  | zero => omega
  | succ fuel ih =>
    unfold Xgkick.loop
    cases hnext : Xgkick.iterate data flush w l with
    | leave left => rfl
    | again next l' =>
      have := iterate_rank hnext
      exact ih (by omega)

/-- **No call runs out of iterations**, whatever lies in the memory. -/
theorem advanceXgkick_isSome (cycles : UInt32) (w : XgkickWorld) :
    (advanceXgkick data flush cycles w).isSome := by
  unfold advanceXgkick
  split
  · rfl
  · refine loop_isSome ?_
    unfold rank iterations
    split
    · dsimp only
      split_ifs <;> omega
    · exact Nat.lt_succ_self _

/-! ## Calls -/

theorem Stands.advance {cycles : UInt32} (h : Stands data start total spent submitted false w)
    (htotal : total < data.size) (hcall : advanceXgkick data flush cycles w = some w') :
    Stands data start total (spent + cycles.toNat) submitted flush w' := by
  unfold advanceXgkick at hcall
  cases h with
  | underWay unflushed progress sent paid =>
    have hactive : (!w.xgkick.active) = false := by rw [progress.active]; rfl
    rw [hactive, if_neg Bool.false_ne_true] at hcall
    refine Head.loop ?_ htotal hcall
    refine ⟨progress.credited _, sent, Nat.zero_le _, fun hflush => ?_⟩
    simp only [hflush, Bool.false_eq_true, if_false]
    split <;> omega
  | delivered idle fits sent paid =>
    rw [idle] at hcall
    cases hcall
    exact .delivered idle fits sent fun _ => (paid rfl).trans (by omega)
  | dropped idle large sent =>
    rw [idle] at hcall
    cases hcall
    exact .dropped idle large sent

/-- The cycles of some calls. -/
def totalCycles (calls : List UInt32) : ℕ := (calls.map UInt32.toNat).sum

/-- **What calls keep.** -/
theorem Stands.advances (h : Stands data start total spent submitted false w)
    (htotal : total < data.size) (calls : List UInt32) :
    ∃ w', advances data calls w = some w' ∧
      Stands data start total (spent + totalCycles calls) submitted false w' := by
  induction calls generalizing w spent with
  | nil => exact ⟨w, rfl, h⟩
  | cons cycles rest ih =>
    obtain ⟨w₁, hcall⟩ := Option.isSome_iff_exists.1 (@advanceXgkick_isSome data false cycles w)
    obtain ⟨w', hrest, hstands⟩ := ih (h.advance htotal hcall)
    refine ⟨w', ?_, ?_⟩
    · unfold Xgkick.advances
      rw [hcall]
      exact hrest
    · rw [totalCycles, List.map_cons, List.sum_cons, ← Nat.add_assoc]
      exact hstands

theorem Stands.flushed (h : Stands data start total spent submitted false w)
    (htotal : total < data.size) (cycles : UInt32) :
    ∃ w', advanceXgkick data true cycles w = some w' ∧ w'.xgkick = {} ∧
      w'.submitted = submitted ++
        if total ≤ kMaxPath1PacketBytes then [data.ring start total] else [] := by
  obtain ⟨w', hcall⟩ := Option.isSome_iff_exists.1 (@advanceXgkick_isSome data true cycles w)
  refine ⟨w', hcall, ?_⟩
  cases h.advance htotal hcall with
  | underWay unflushed => cases unflushed
  | delivered idle fits sent paid => exact ⟨idle, by rw [if_pos fits, sent]⟩
  | dropped idle large sent => exact ⟨idle, by rw [if_neg (by omega), sent, List.append_nil]⟩

/-- A kick. -/
theorem stands_beginXgkick {sourceQword : UInt32} (hidle : w.xgkick.active = false)
    (hchain : Chain data (kickAddress data sourceQword) total) :
    ∃ w', beginXgkick data sourceQword w = some w' ∧
      Stands data (kickAddress data sourceQword) total 0 w.submitted false w' := by
  have hsize := data.le_size
  refine ⟨{ w with xgkick := { active := true, address := kickAddress data sourceQword } }, ?_,
    .underWay rfl ?_ rfl (Nat.le_refl 0)⟩
  · unfold beginXgkick
    rw [hidle, if_neg Bool.false_ne_true]
    rfl
  refine ⟨rfl, rfl, ?_, ⟨dvd_zero 16, dvd_zero 16⟩, .next total rfl hchain (Nat.zero_add _)⟩
  exact (Nat.mod_eq_of_lt (Nat.mod_lt _ (by omega))).symm

/-- **A kick submits its packet once, whole**, however its cycles are split and whenever it is
flushed, and before the flush it has read no more than the cycles pay for. Every call returns. -/
theorem xgkick_delivers_packet (data : VuData) :
    (∀ flush cycles w, (advanceXgkick data flush cycles w).isSome) ∧
      ∀ (sourceQword : UInt32) (w₀ : XgkickWorld) (total : ℕ) (calls : List UInt32)
        (cycles : UInt32), w₀.xgkick.active = false →
        Chain data (kickAddress data sourceQword) total → total < data.size →
        total ≤ kMaxPath1PacketBytes →
        ∃ w w', beginXgkick data sourceQword w₀ >>= advances data calls = some w ∧
          advanceXgkick data true cycles w = some w' ∧ w'.xgkick = {} ∧
          w'.submitted =
            w₀.submitted ++ [data.ring (kickAddress data sourceQword) total] ∧
          (w.xgkick.active = true ∧ w.submitted = w₀.submitted ∧
              w.xgkick.packet.length / 16 ≤ totalCycles calls / 2 ∨
            w.xgkick = {} ∧ w.submitted = w'.submitted ∧ total / 16 ≤ totalCycles calls / 2) := by
  refine ⟨fun _ cycles w => advanceXgkick_isSome cycles w, ?_⟩
  intro sourceQword w₀ total calls cycles hidle hchain htotal hfits
  obtain ⟨w₁, hbegin, hstands⟩ := stands_beginXgkick hidle hchain
  obtain ⟨w, hcalls, hstands⟩ := hstands.advances htotal calls
  obtain ⟨w', hflush, hend, hsent⟩ := hstands.flushed htotal cycles
  rw [if_pos hfits] at hsent
  refine ⟨w, w', by rw [hbegin]; exact hcalls, hflush, hend, hsent, ?_⟩
  rw [Nat.zero_add] at hstands
  cases hstands with
  | underWay unflushed progress sent paid =>
    exact .inl ⟨progress.active, sent, by omega⟩
  | delivered idle fits sent paid =>
    exact .inr ⟨idle, sent.trans hsent.symm, by have := paid rfl; omega⟩
  | dropped idle large => omega

/-- A packet of two quadwords that wraps around the end of the memory. -/
def wrappedPacket : VuData where
  size := 64
  byte i := if i = 48 then 1 else if i = 49 then 0x80 else if i = 55 then 0x10 else UInt8.ofNat i
  size_pow := ⟨6, by decide⟩

theorem xgkick_delivers_packet_wrapped :
    ∃ w w', beginXgkick wrappedPacket 3 {} >>= advances wrappedPacket [1, 1] = some w ∧
      advanceXgkick wrappedPacket true 0 w = some w' ∧ w'.xgkick = {} ∧
      w'.submitted = [wrappedPacket.ring 48 32] := by
  have hchain : Chain wrappedPacket 48 32 :=
    (show tagBytesAt wrappedPacket 48 = 32 by decide) ▸ Chain.eop (by decide)
  obtain ⟨w, w', hcalls, hflush, hidle, hsent, -⟩ :=
    (xgkick_delivers_packet wrappedPacket).2 3 {} 32 [1, 1] 0 rfl hchain (by decide) (by decide)
  exact ⟨w, w', hcalls, hflush, hidle, hsent⟩

/-- Nine tags of 32767 loops of 16 quadwords in 128 MiB of memory, EOP in the last. -/
def largePacket : VuData where
  size := 2 ^ 27
  byte i :=
    if i % 8388368 = 0 then 0xFF
    else if i % 8388368 = 1 then if i / 8388368 < 8 then 0x7F else 0xFF
    else 0
  size_pow := ⟨27, by decide⟩

theorem chain_largePacket : Chain largePacket 0 75495312 := by
  have hbytes : ∀ k < 9, tagBytesAt largePacket (k * 8388368) = 8388368 := by decide
  have hmore : ∀ k < 8, tagEopAt largePacket (k * 8388368) = false := by decide
  have hlast : Chain largePacket (8 * 8388368) 8388368 :=
    hbytes 8 (by decide) ▸ Chain.eop (by decide)
  have hchain : ∀ k ≤ 8, Chain largePacket ((8 - k) * 8388368) ((k + 1) * 8388368) := by
    intro k
    induction k with
    | zero => exact fun _ => hlast
    | succ k ih =>
      intro hk
      have hnext := ih (by omega)
      have hstep := Chain.more (hmore (8 - (k + 1)) (by omega))
        (show Chain largePacket _ ((k + 1) * 8388368) by
          rw [hbytes _ (by omega), show (8 - (k + 1)) * 8388368 + 8388368 = (8 - k) * 8388368 by
            omega]
          exact hnext)
      rw [hbytes _ (by omega)] at hstep
      rw [show (k + 1 + 1) * 8388368 = 8388368 + (k + 1) * 8388368 by omega]
      exact hstep
  exact hchain 8 le_rfl

/-- A packet of more than 64 MiB is dropped. -/
theorem large_packet_dropped :
    ¬∀ (data : VuData) (sourceQword : UInt32) (total : ℕ),
      Chain data (kickAddress data sourceQword) total → total < data.size →
      ∃ w', beginXgkick data sourceQword {} >>= advanceXgkick data true 0 = some w' ∧
        w'.submitted = [data.ring (kickAddress data sourceQword) total] := by
  intro h
  have htotal : 75495312 < largePacket.size := by decide
  obtain ⟨w', hcalls, hsent⟩ := h largePacket 0 75495312 chain_largePacket htotal
  obtain ⟨w₁, hbegin, hstands⟩ := stands_beginXgkick (w := {}) rfl
    (show Chain largePacket (kickAddress largePacket 0) 75495312 from chain_largePacket)
  obtain ⟨w₂, hflush, -, hdropped⟩ := hstands.flushed htotal 0
  rw [hbegin] at hcalls
  cases hflush.symm.trans hcalls
  rw [if_neg (by decide), List.append_nil] at hdropped
  rw [hdropped] at hsent
  cases hsent

end Xgkick

end Ps2Recomp
