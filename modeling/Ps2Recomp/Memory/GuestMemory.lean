import Ps2Recomp.Lib.BitMemory
import Mathlib.Data.Nat.Notation

/-!
# Scalar accesses of the EE to its memory (`PS2Memory::read64`, `writeMasked64`)

The translation of a guest address keeps its low twelve bits, so a guest page has one page of host
bytes behind it (RDRAM, the scratchpad and the VU memories), or none. An aligned access stays in one
page. A masked store goes the inline way (`Ps2FastWriteMasked64`), which tests the enables byte by
byte, or through `PS2Memory`, which writes one span; `writeMasked_eq_writeSpan` says that the two
write the same bytes.
-/

namespace Ps2Recomp

open BitMemory

/-- The bytes behind guest pages. -/
structure GuestMemory where
  /-- The host page behind a guest page, where it is mapped. -/
  frame : BitVec 20 → Option ℕ
  writable : BitVec 20 → Bool
  /-- The pages that `Ps2ResolveFastGuestRdramAccessFixed` finds. -/
  direct : BitVec 20 → Bool
  bytes : BitMemory.Memory

/-- The first enabled byte and the number of bytes from it to the last one. -/
structure Ps2ByteEnableSpan where
  offset : ℕ
  size : ℕ
  deriving DecidableEq, Repr

/-- `Ps2DecodeByteEnableSpan`: `none` where the span is not valid. -/
def Ps2DecodeByteEnableSpan (byteEnable : BitVec 8) (widthBytes : ℕ) : Option Ps2ByteEnableSpan :=
  if widthBytes = 0 ∨ widthBytes > 8 then none
  else if byteEnable.toNat ≥ 1 <<< widthBytes then none
  else if byteEnable = 0 then some ⟨0, 0⟩
  else
    let first := ((List.range widthBytes).find? byteEnable.getLsbD).getD 0
    let last := ((List.range widthBytes).reverse.find? byteEnable.getLsbD).getD 0
    if byteEnable.toNat ≠ (1 <<< (last - first + 1) - 1) <<< first then none
    else some ⟨first, last - first + 1⟩

/-- `Ps2FastWriteMasked32` and `Ps2FastWriteMasked64`: the enabled bytes, one by one. -/
def writeMasked (m : BitMemory.Memory) (offset widthBytes value : ℕ) (byteEnable : BitVec 8) :
    BitMemory.Memory := fun a =>
  if offset ≤ a ∧ a < offset + widthBytes ∧ byteEnable.getLsbD (a - offset) then
    byteOf value (a - offset)
  else m a

/-- `writeBytes` of `PS2Memory::writeMasked64`. -/
def writeSpan (m : BitMemory.Memory) (offset value : ℕ) (span : Ps2ByteEnableSpan) :
    BitMemory.Memory := fun a =>
  if offset + span.offset ≤ a ∧ a < offset + span.offset + span.size then byteOf value (a - offset)
  else m a

/-- A valid span holds exactly the enabled bytes. -/
theorem getLsbD_of_span {byteEnable : BitVec 8} {widthBytes : ℕ} {span : Ps2ByteEnableSpan}
    (h : Ps2DecodeByteEnableSpan byteEnable widthBytes = some span) (i : ℕ) :
    byteEnable.getLsbD i = decide (span.offset ≤ i ∧ i < span.offset + span.size) := by
  unfold Ps2DecodeByteEnableSpan at h
  dsimp only at h
  split at h
  · cases h
  split at h
  · cases h
  split at h
  · rename_i hzero
    cases h
    rw [hzero]
    simp
  split at h
  · cases h
  · rename_i hcontiguous
    rw [ne_eq, not_not] at hcontiguous
    cases h
    rw [BitVec.getLsbD, hcontiguous, Nat.testBit_shiftLeft, Nat.one_shiftLeft,
      Nat.testBit_two_pow_sub_one, ← Bool.decide_and]
    dsimp only
    exact decide_eq_decide.mpr (by omega)

theorem span_le {byteEnable : BitVec 8} {widthBytes : ℕ} {span : Ps2ByteEnableSpan}
    (h : Ps2DecodeByteEnableSpan byteEnable widthBytes = some span) (hsize : span.size ≠ 0) :
    span.offset + span.size ≤ widthBytes := by
  -- the last byte of the span is enabled, and no byte from the width on is
  have hlast : byteEnable.toNat.testBit (span.offset + span.size - 1) = true := by
    have hbit := getLsbD_of_span h (span.offset + span.size - 1)
    rw [BitVec.getLsbD] at hbit
    rw [hbit]
    exact decide_eq_true (by omega)
  have hlt : byteEnable.toNat < 2 ^ widthBytes := by
    unfold Ps2DecodeByteEnableSpan at h
    split at h
    · cases h
    split at h
    · cases h
    · rename_i hlt
      rw [Nat.one_shiftLeft] at hlt
      omega
  have hpow := Nat.lt_of_le_of_lt (Nat.ge_two_pow_of_testBit hlast) hlt
  have := (Nat.pow_lt_pow_iff_right (by decide : 1 < 2)).mp hpow
  omega

theorem writeMasked_eq_writeSpan {byteEnable : BitVec 8} {widthBytes : ℕ}
    {span : Ps2ByteEnableSpan} (h : Ps2DecodeByteEnableSpan byteEnable widthBytes = some span)
    (m : BitMemory.Memory) (offset value : ℕ) :
    writeMasked m offset widthBytes value byteEnable = writeSpan m offset value span := by
  funext a
  have hbits := getLsbD_of_span h (a - offset)
  by_cases hsize : span.size = 0
  · have hnone : byteEnable.getLsbD (a - offset) = false := by
      rw [hbits]
      exact decide_eq_false (by omega)
    rw [writeMasked, writeSpan, if_neg (by rw [hnone]; simp), if_neg (by omega)]
  have hle := span_le h hsize
  have hiff : (offset ≤ a ∧ a < offset + widthBytes ∧ byteEnable.getLsbD (a - offset) = true) ↔
      offset + span.offset ≤ a ∧ a < offset + span.offset + span.size := by
    rw [hbits, decide_eq_true_eq]
    omega
  rw [writeMasked, writeSpan]
  simp only [hiff]

namespace GuestMemory

variable (m : GuestMemory)

/-- The host byte behind a guest address. -/
def place (address : BitVec 32) : Option ℕ :=
  (m.frame (address.extractLsb' 12 20)).map (4096 * · + address.toNat % 4096)

def byte (address : BitVec 32) : Option UInt8 := (m.place address).map m.bytes

/-- `Load32` and `Load64`: an aligned access of a mapped page, or an exception. -/
def load (count : ℕ) (address : BitVec 32) : Option ℕ :=
  if address.toNat % count ≠ 0 then none
  else (m.place address).map fun p => BitMemory.load m.bytes p count

/-- `WRITE_MASKED32` and `WRITE_MASKED64`. -/
def storeMasked (widthBytes : ℕ) (address : BitVec 32) (value : ℕ) (byteEnable : BitVec 8) :
    Option GuestMemory :=
  if address.toNat % widthBytes ≠ 0 then none
  else
    (Ps2DecodeByteEnableSpan byteEnable widthBytes).bind fun span =>
      if span.size = 0 then some m
      else if m.writable (address.extractLsb' 12 20) = false then none
      else (m.place address).map fun p =>
        { m with bytes :=
            if m.direct (address.extractLsb' 12 20) then
              writeMasked m.bytes p widthBytes value byteEnable
            else writeSpan m.bytes p value span }

/-- The number's bytes stand in memory from the address on. -/
def Spells (a : BitVec 32) (count value : ℕ) : Prop :=
  ∀ i < count, m.byte (a + BitVec.ofNat 32 i) = some (byteOf value i)

/-- The bytes from the address on may be written. -/
def Writable (a : BitVec 32) (count : ℕ) : Prop :=
  ∀ i < count, (m.place (a + BitVec.ofNat 32 i)).isSome ∧
    m.writable ((a + BitVec.ofNat 32 i).extractLsb' 12 20) = true

/-- `m'` has bytes `low`, …, `high - 1` of the number behind the address, and `m` elsewhere. -/
structure Wrote (m m' : GuestMemory) (a : BitVec 32) (low high value : ℕ) : Prop where
  frame : m'.frame = m.frame
  writable : m'.writable = m.writable
  spells : ∀ i, low ≤ i → i < high → m'.byte (a + BitVec.ofNat 32 i) = some (byteOf value i)
  others : ∀ l, (∀ i, low ≤ i → i < high → m.place (a + BitVec.ofNat 32 i) ≠ some l) →
    m'.bytes l = m.bytes l

/-! ## Addresses in a page -/

section Places

variable {m} {base : BitVec 32} {i : ℕ}

/-- Behind an address that stays in the page of the base, the host bytes go on. -/
theorem toNat_page_add (h : base.toNat % 4096 + i < 4096) :
    (base + BitVec.ofNat 32 i).extractLsb' 12 20 = base.extractLsb' 12 20 ∧
      (base + BitVec.ofNat 32 i).toNat % 4096 = base.toNat % 4096 + i := by
  have hbase := base.isLt
  have hsum : (base + BitVec.ofNat 32 i).toNat = base.toNat + i := by
    rw [BitVec.toNat_add, BitVec.toNat_ofNat]
    omega
  refine ⟨?_, by rw [hsum]; omega⟩
  apply BitVec.eq_of_toNat_eq
  rw [BitVec.extractLsb'_toNat, BitVec.extractLsb'_toNat, hsum, Nat.shiftRight_eq_div_pow,
    Nat.shiftRight_eq_div_pow]
  omega

theorem place_add (h : base.toNat % 4096 + i < 4096) :
    m.place (base + BitVec.ofNat 32 i) = (m.place base).map (· + i) := by
  obtain ⟨hpage, hoffset⟩ := toNat_page_add h
  rw [place, place, hpage, hoffset, Option.map_map]
  congr 1
  funext p
  exact (Nat.add_assoc _ _ _).symm

theorem byte_add (h : base.toNat % 4096 + i < 4096) {p : ℕ} (hp : m.place base = some p) :
    m.byte (base + BitVec.ofNat 32 i) = some (m.bytes (p + i)) := by
  rw [byte, place_add h, hp]
  rfl

/-- Addresses less than a page apart have different host bytes. -/
theorem place_injective {a : BitVec 32} {j l : ℕ} (hi : i < 4096) (hj : j < 4096)
    (hli : m.place (a + BitVec.ofNat 32 i) = some l)
    (hlj : m.place (a + BitVec.ofNat 32 j) = some l) : i = j := by
  have hoffset : ∀ k, m.place (a + BitVec.ofNat 32 k) = some l →
      l % 4096 = (a.toNat + k) % 4096 := by
    intro k hk
    obtain ⟨f, -, hf⟩ := Option.map_eq_some_iff.mp hk
    rw [BitVec.toNat_add, BitVec.toNat_ofNat] at hf
    omega
  have h1 := hoffset i hli
  have h2 := hoffset j hlj
  omega

end Places

/-! ## Stores of parts -/

variable {m} {m₁ m₂ : GuestMemory} {a : BitVec 32} {count value : ℕ}

theorem place_congr (h : m₁.frame = m.frame) (x : BitVec 32) : m₁.place x = m.place x := by
  rw [place, place, h]

/-- Two stores of parts of a number that cover it are a store of the number. -/
theorem Wrote.trans {low₁ high₁ low₂ high₂ : ℕ} (h₁ : Wrote m m₁ a low₁ high₁ value)
    (h₂ : Wrote m₁ m₂ a low₂ high₂ value) (hhigh₁ : high₁ ≤ count) (hhigh₂ : high₂ ≤ count)
    (hcount : count ≤ 4096)
    (hcover : ∀ i < count, (low₁ ≤ i ∧ i < high₁) ∨ (low₂ ≤ i ∧ i < high₂)) :
    Wrote m m₂ a 0 count value where
  frame := h₂.frame.trans h₁.frame
  writable := h₂.writable.trans h₁.writable
  spells := by
    intro i _ hi
    by_cases hsecond : low₂ ≤ i ∧ i < high₂
    · exact h₂.spells i hsecond.1 hsecond.2
    · -- the second store leaves the byte of the first alone
      obtain ⟨hlow, hhigh⟩ := (hcover i hi).resolve_right hsecond
      have hfirst := h₁.spells i hlow hhigh
      obtain ⟨l, hl, hbyte⟩ := Option.map_eq_some_iff.mp hfirst
      have hother := h₂.others l fun j hj hj' hplace => by
        have := place_injective (by omega) (by omega) hl hplace
        omega
      rw [byte, place_congr h₂.frame, hl, Option.map_some, hother, hbyte]
  others := by
    intro l hl
    rw [h₂.others l, h₁.others l]
    · exact fun i _ hi => hl i (Nat.zero_le i) (by omega)
    · intro i _ hi
      rw [place_congr h₁.frame]
      exact hl i (Nat.zero_le i) (by omega)

/-- The same store counted from another address: `a + t = base + s`. -/
theorem Wrote.rebase {base : BitVec 32} {low high value' s t low' high' : ℕ}
    (h : Wrote m m₁ base low high value') (hs : s ≤ 8) (ht : t ≤ 8) (hhigh : high ≤ 8)
    (hhigh' : high' ≤ 8) (hbase : a + BitVec.ofNat 32 t = base + BitVec.ofNat 32 s)
    (hlow : low' + s = low + t) (hhighs : high' + s = high + t)
    (hbytes : ∀ i j, low ≤ j → j < high → i + s = j + t → byteOf value i = byteOf value' j) :
    Wrote m m₁ a low' high' value := by
  have haddress : ∀ i j, i ≤ 8 → j ≤ 8 → i + s = j + t →
      a + BitVec.ofNat 32 i = base + BitVec.ofNat 32 j := by
    intro i j hi hj hij
    apply BitVec.eq_of_toNat_eq
    have hnat := congrArg BitVec.toNat hbase
    simp only [BitVec.toNat_add, BitVec.toNat_ofNat] at hnat ⊢
    omega
  refine ⟨h.frame, h.writable, ?_, ?_⟩
  · intro i hlowi hhighi
    obtain ⟨j, hj⟩ : ∃ j, i + s = j + t := ⟨i + s - t, by omega⟩
    rw [haddress i j (by omega) (by omega) hj, hbytes i j (by omega) (by omega) hj]
    exact h.spells j (by omega) (by omega)
  · intro l hl
    refine h.others l fun j hlowj hhighj => ?_
    obtain ⟨i, hi⟩ : ∃ i, i + s = j + t := ⟨j + t - s, by omega⟩
    rw [← haddress i j (by omega) (by omega) hi]
    exact hl i (by omega) (by omega)

/-- An aligned word or doubleword stays in its page. -/
theorem offset_lt_of_aligned {widthBytes : ℕ} (hwidth : widthBytes = 4 ∨ widthBytes = 8)
    (haligned : a.toNat % widthBytes = 0) {i : ℕ} (hi : i < widthBytes) :
    a.toNat % 4096 + i < 4096 := by
  rcases hwidth with rfl | rfl <;> omega

/-- A masked store writes the enabled bytes and nothing else. -/
theorem wrote_storeMasked {widthBytes : ℕ} {byteEnable : BitVec 8} {span : Ps2ByteEnableSpan}
    (hwidth : widthBytes = 4 ∨ widthBytes = 8) (haligned : a.toNat % widthBytes = 0)
    (hspan : Ps2DecodeByteEnableSpan byteEnable widthBytes = some span) (hsize : span.size ≠ 0)
    (hplace : (m.place a).isSome) (hwritable : m.writable (a.extractLsb' 12 20) = true) :
    ∃ m', m.storeMasked widthBytes a value byteEnable = some m' ∧
      Wrote m m' a span.offset (span.offset + span.size) value := by
  obtain ⟨p, hp⟩ := Option.isSome_iff_exists.mp hplace
  have hle := span_le hspan hsize
  have hpage : ∀ i < widthBytes, a.toNat % 4096 + i < 4096 := fun i hi =>
    offset_lt_of_aligned hwidth haligned hi
  refine ⟨{ m with bytes := writeSpan m.bytes p value span }, ?_, rfl, rfl, ?_, ?_⟩
  · rw [storeMasked, if_neg (by rw [haligned]; simp), hspan, Option.bind_some, if_neg hsize,
      if_neg (by rw [hwritable]; simp), hp, Option.map_some, writeMasked_eq_writeSpan hspan,
      ite_self]
  · intro i hlow hhigh
    have hbyte : GuestMemory.byte { m with bytes := writeSpan m.bytes p value span }
        (a + BitVec.ofNat 32 i) = some (writeSpan m.bytes p value span (p + i)) :=
      byte_add (hpage i (by omega)) hp
    rw [hbyte, writeSpan, if_pos (by omega), Nat.add_sub_cancel_left]
  · intro l hl
    refine if_neg fun hin => ?_
    refine hl (l - p) (by omega) (by omega) ?_
    rw [place_add (hpage (l - p) (by omega)), hp, Option.map_some, Nat.add_sub_cancel' (by omega)]

theorem spells_load {widthBytes : ℕ} (hwidth : widthBytes = 4 ∨ widthBytes = 8)
    (haligned : a.toNat % widthBytes = 0) (hplace : (m.place a).isSome) :
    ∃ mem, m.load widthBytes a = some mem ∧ mem < 2 ^ (8 * widthBytes) ∧
      m.Spells a widthBytes mem := by
  obtain ⟨p, hp⟩ := Option.isSome_iff_exists.mp hplace
  refine ⟨BitMemory.load m.bytes p widthBytes, ?_, ?_, ?_⟩
  · rw [load, if_neg (by rw [haligned]; simp), hp, Option.map_some]
  · exact BitMemory.load_lt m.bytes p widthBytes
  · intro i hi
    rw [byte_add (offset_lt_of_aligned hwidth haligned hi) hp, byteOf_load hi]

end GuestMemory

end Ps2Recomp
