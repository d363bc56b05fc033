import Ps2Recomp.Gs.Memory
import Mathlib.Tactic.Ring

/-!
# The two address computations agree

`PixelStorageMode.bitAddress` is the position of a pixel as both implementations of `GSMem` compute
it: the page of the pixel, a run of blocks of 2048 bits from the base block on, and the field in its
block (`bitAddress_eq`). `bit_write` and `testBit_read` say what a write and a read do to the single
bits of the memory; `ResolvePixelAddress_describes` collects this.
-/

namespace Ps2Recomp.GSMem

open BitMemory

namespace PixelStorageMode

variable (psm : PixelStorageMode) (data : Memory) (bp bw x y : Nat)

/-! ## Tables of a mode -/

/-- The block table that `ResolvePixelAddress` takes. -/
def blockTable : PixelStorageMode → LookupTable
  | .C32 | .C24 | .P8H | .P4HL | .P4HH => BlockTableC32
  | .C16 => BlockTableC16
  | .C16S => BlockTableC16S
  | .P8 => BlockTableP8
  | .P4 => BlockTableP4
  | .Z32 | .Z24 => BlockTableZ32
  | .Z16 => BlockTableZ16
  | .Z16S => BlockTableZ16S

/-- The column table that `ResolvePixelAddress` takes. -/
def columnTable : PixelStorageMode → LookupTable
  | .C32 | .C24 | .P8H | .P4HL | .P4HH | .Z32 | .Z24 => ColumnTable32
  | .C16 | .C16S | .Z16 | .Z16S => ColumnTable16
  | .P8 => ColumnTable8
  | .P4 => ColumnTable4

/-- The page table that the read and write functions take. -/
def pageTable (psm : PixelStorageMode) : PageLookupTable :=
  psm.InitPageLookupTable psm.blockTable psm.columnTable

theorem ResolvePixelAddress_eq : psm.ResolvePixelAddress bp bw x y =
    psm.ResolvePixelAddressImpl psm.blockTable psm.columnTable bp bw x y := by
  cases psm <;> rfl

theorem write_eq (value : Nat) :
    psm.write data bp bw x y value = psm.Write psm.pageTable data bp bw x y value := by
  cases psm <;> rfl

theorem read_eq : psm.read data bp bw x y = psm.Read psm.pageTable data bp bw x y := by
  cases psm <;> rfl

/-! ## Sizes -/

theorem blocksPerPage_eq : psm.BlocksPerPage = 32 := by cases psm <;> rfl

theorem bits_per_page : psm.PixelsPerPage * psm.UnpackedBitWidth = 2 ^ 16 := by cases psm <;> rfl

theorem bits_per_block : psm.PixelsPerBlock * psm.UnpackedBitWidth = 2 ^ 11 := by
  cases psm <;> rfl

theorem pageExtent_x : psm.PageExtent.x = psm.ColumnExtent.x * psm.BlockExtent.x := by
  cases psm <;> rfl

theorem pageExtent_y : psm.PageExtent.y = psm.ColumnExtent.y * psm.BlockExtent.y := by
  cases psm <;> rfl

theorem blockId_lt : psm.BlockId psm.blockTable x y < 32 := by
  have htable : ∀ psm : PixelStorageMode, ∀ j < psm.BlockExtent.y, ∀ i < psm.BlockExtent.x,
      psm.blockTable.entry j i < 32 := by
    intro psm
    cases psm <;> decide
  refine htable psm _ (Nat.mod_lt _ ?_) _ (Nat.mod_lt _ ?_) <;> cases psm <;> decide

theorem columnId_lt : psm.ColumnId psm.columnTable x y < psm.PixelsPerBlock := by
  have htable : ∀ psm : PixelStorageMode, ∀ j < psm.ColumnExtent.y, ∀ i < psm.ColumnExtent.x,
      psm.columnTable.entry j i < psm.PixelsPerBlock := by
    intro psm
    cases psm <;> decide +kernel
  refine htable psm _ (Nat.mod_lt _ ?_) _ (Nat.mod_lt _ ?_) <;> cases psm <;> decide

/-! ## The position -/

/-- The position of the pixel in bits, before it is wrapped to the 4 MiB. -/
def bitAddress : Nat :=
  (psm.PageId bp bw x y * 2 ^ 16 +
    (bp % 32 + psm.BlockId psm.blockTable x y) * 2 ^ 11 +
    psm.ColumnId psm.columnTable x y * psm.UnpackedBitWidth + psm.BitOffset) % 2 ^ 32

/-- A pixel number in bits; `u32` arithmetic wraps around in between. -/
theorem bits_of_pixel (page block column : Nat) :
    ((page % 2 ^ 32 * psm.PixelsPerPage + block * psm.PixelsPerBlock + column) % 2 ^ 32 *
        psm.UnpackedBitWidth + psm.BitOffset) % 2 ^ 32 =
      (page * 2 ^ 16 + block * 2 ^ 11 + column * psm.UnpackedBitWidth + psm.BitOffset) %
        2 ^ 32 := by
  have hexpand : (page % 2 ^ 32 * psm.PixelsPerPage + block * psm.PixelsPerBlock + column) *
      psm.UnpackedBitWidth =
      page % 2 ^ 32 * 2 ^ 16 + block * 2 ^ 11 + column * psm.UnpackedBitWidth := by
    rw [← psm.bits_per_page, ← psm.bits_per_block]
    ring
  rw [Nat.add_mod, Nat.mod_mul_mod, ← Nat.add_mod, hexpand]
  omega

/-- An entry of a page table is the sum that `ResolvePixelAddress` computes. -/
theorem entry_pageTable (block : Nat) :
    LookupTable.entry (psm.pageTable.getD (block % psm.BlocksPerPage) []) (y % psm.PageExtent.y)
        (x % psm.PageExtent.x) =
      (block % psm.BlocksPerPage + psm.BlockId psm.blockTable x y) * psm.PixelsPerBlock +
        psm.ColumnId psm.columnTable x y := by
  have hx : 0 < psm.PageExtent.x := by cases psm <;> decide
  have hy : 0 < psm.PageExtent.y := by cases psm <;> decide
  have hb : 0 < psm.BlocksPerPage := by cases psm <;> decide
  -- Reducing a coordinate modulo the page does not change its block and column.
  have hcolumn : psm.ColumnId psm.columnTable (x % psm.PageExtent.x) (y % psm.PageExtent.y) =
      psm.ColumnId psm.columnTable x y := by
    rw [pageExtent_x, pageExtent_y, ColumnId, ColumnId, Nat.mod_mul_right_mod,
      Nat.mod_mul_right_mod]
  have hblock : psm.BlockId psm.blockTable (x % psm.PageExtent.x) (y % psm.PageExtent.y) =
      psm.BlockId psm.blockTable x y := by
    rw [pageExtent_x, pageExtent_y, BlockId, BlockId, Nat.mod_mul_right_div_self,
      Nat.mod_mul_right_div_self, Nat.mod_mod, Nat.mod_mod]
  have hlt : (block % psm.BlocksPerPage + psm.BlockId psm.blockTable x y) * psm.PixelsPerBlock +
      psm.ColumnId psm.columnTable x y < 2 ^ 16 := by
    have hphase : block % psm.BlocksPerPage < 32 := by
      rw [blocksPerPage_eq]
      exact Nat.mod_lt _ (by decide)
    have hid := psm.blockId_lt x y
    have hcol := psm.columnId_lt x y
    have hsize : psm.PixelsPerBlock ≤ 512 := by cases psm <;> decide
    have hmul : (block % psm.BlocksPerPage + psm.BlockId psm.blockTable x y) *
        psm.PixelsPerBlock ≤ 62 * 512 := Nat.mul_le_mul (by omega) hsize
    omega
  simpa [pageTable, InitPageLookupTable, LookupTable.entry, Nat.mod_lt _ hx, Nat.mod_lt _ hy,
    Nat.mod_lt _ hb, hcolumn, hblock] using hlt

/-- **The table-driven functions use the same position.** -/
theorem tableBits_eq : psm.tableBits psm.pageTable bp bw x y = psm.bitAddress bp bw x y := by
  rw [tableBits, Address, entry_pageTable, ← Nat.add_assoc, bits_of_pixel, blocksPerPage_eq,
    bitAddress]

theorem ResolvePixelAddress_bits : psm.ResolvePixelAddress bp bw x y =
    { word_index := psm.bitAddress bp bw x y / 32 % 2 ^ 20
      bit_shift := psm.bitAddress bp bw x y % 32
      packed_bit_width := psm.BitsPerPixel } := by
  rw [ResolvePixelAddress_eq, ResolvePixelAddressImpl, bits_of_pixel, blocksPerPage_eq, ← bitAddress,
    show MEMORY_SIZE / 4 - 1 = 2 ^ 20 - 1 from rfl, Nat.and_two_pow_sub_one_eq_mod]

/-- The position of a pixel is that of a slot of the unpacked width, plus the offset. -/
theorem bitAddress_mod : psm.bitAddress bp bw x y % psm.UnpackedBitWidth = psm.BitOffset := by
  unfold bitAddress
  cases psm <;> simp only [UnpackedBitWidth, BitOffset] <;> omega

/-- The position in the 4 MiB of memory, in bits. -/
def position : Nat := psm.bitAddress bp bw x y % 2 ^ 25

theorem position_eq :
    psm.position bp bw x y =
      32 * (psm.ResolvePixelAddress bp bw x y).word_index +
        (psm.ResolvePixelAddress bp bw x y).bit_shift := by
  rw [ResolvePixelAddress_bits, position]
  dsimp only
  omega

theorem word_index_lt : (psm.ResolvePixelAddress bp bw x y).word_index < MEMORY_SIZE / 4 := by
  rw [ResolvePixelAddress_bits]
  exact Nat.mod_lt _ (by decide)

/-- The field of a pixel lies in one word. -/
theorem bit_shift_le : (psm.ResolvePixelAddress bp bw x y).bit_shift +
    (psm.ResolvePixelAddress bp bw x y).packed_bit_width ≤ 32 := by
  have hmod := psm.bitAddress_mod bp bw x y
  rw [ResolvePixelAddress_bits]
  cases psm <;> simp only [UnpackedBitWidth, BitOffset, BitsPerPixel] at hmod ⊢ <;> omega

/-! ## Bytes -/

/-- Masking with a run of ones clears the bits below it and above it. -/
theorem and_run (n k m : Nat) (hk : k ≤ m) : n &&& (2 ^ m - 2 ^ k) = n % 2 ^ m / 2 ^ k * 2 ^ k := by
  have hrun : 2 ^ m - 2 ^ k = (2 ^ (m - k) - 1) <<< k := by
    rw [Nat.shiftLeft_eq, Nat.sub_mul, one_mul, ← pow_add, Nat.sub_add_cancel hk]
  rw [hrun, ← Nat.shiftRight_eq_div_pow, ← Nat.shiftLeft_eq]
  apply Nat.eq_of_testBit_eq
  intro i
  simp only [Nat.testBit_and, Nat.testBit_shiftLeft, Nat.testBit_shiftRight,
    Nat.testBit_two_pow_sub_one, Nat.testBit_mod_two_pow]
  by_cases hi : k ≤ i
  · have hiff : i - k < m - k ↔ i < m := by omega
    simp [hi, hiff, Bool.and_comm]
  · simp [hi]

/-- **The accesses start at the byte of the field** and stay inside the memory. -/
theorem byteAddr_eq : 8 * psm.byteAddr (psm.bitAddress bp bw x y) +
    psm.bitAddress bp bw x y % 8 = psm.position bp bw x y := by
  have hmod := psm.bitAddress_mod bp bw x y
  rw [byteAddr, position]
  have hmask4 : ∀ n, n &&& (MEMORY_SIZE - 4) = n % 2 ^ 22 / 4 * 4 :=
    fun n => and_run n 2 22 (by decide)
  have hmask2 : ∀ n, n &&& (MEMORY_SIZE - 2) = n % 2 ^ 22 / 2 * 2 :=
    fun n => and_run n 1 22 (by decide)
  have hmask1 : ∀ n, n &&& (MEMORY_SIZE - 1) = n % 2 ^ 22 / 1 * 1 :=
    fun n => and_run n 0 22 (by decide)
  cases psm
  all_goals simp only [UnpackedBitWidth, BitOffset, PackedSize, BitsPerPixel] at hmod ⊢
  case C32 | C24 | Z32 | Z24 =>
    rw [hmask4]
    omega
  case C16 | C16S | Z16 | Z16S =>
    rw [hmask2]
    omega
  case P8 | P4 | P8H | P4HL | P4HH =>
    rw [hmask1]
    omega

/-! ## Bits -/

theorem testBit_low_24 (j : Nat) : Nat.testBit 0x00FFFFFF j = decide (j < 24) :=
  Nat.testBit_two_pow_sub_one 24 j

theorem testBit_high_8 (j : Nat) : Nat.testBit 0xFF000000 j = decide (24 ≤ j ∧ j < 32) := by
  rw [show 0xFF000000 = (2 ^ 8 - 1) <<< 24 by decide, Nat.testBit_shiftLeft,
    Nat.testBit_two_pow_sub_one, ← Bool.decide_and]
  exact decide_eq_decide.2 (by omega)

theorem testBit_low_4 (j : Nat) : Nat.testBit 0x0F j = decide (j < 4) :=
  Nat.testBit_two_pow_sub_one 4 j

/-- The complement of a nibble, as an `int`. -/
theorem testBit_not_nibble {shift : Nat} (hshift : shift ≤ 4) (j : Nat) :
    Nat.testBit (2 ^ 32 - (0x0F <<< shift + 1)) j =
      decide (j < 32 ∧ ¬ (shift ≤ j ∧ j < shift + 4)) := by
  have hlt : 0x0F <<< shift < 2 ^ 32 := by
    rw [Nat.shiftLeft_eq]
    have : 2 ^ shift ≤ 2 ^ 4 := Nat.pow_le_pow_right (by decide) hshift
    omega
  rw [Nat.testBit_two_pow_sub_succ hlt, Nat.testBit_shiftLeft, testBit_low_4, ← Bool.decide_and,
    ← decide_not, ← Bool.decide_and]
  exact decide_eq_decide.2 (by omega)

/-- A read-modify-write of the low three bytes of a word. -/
theorem bit_store_24 (addr value i : Nat) :
    bit (store data addr 4
        ((load data addr 4 &&& 0xFF000000) ||| (value &&& 0x00FFFFFF))) i =
      if 8 * addr ≤ i ∧ i < 8 * addr + 24 then value.testBit (i - 8 * addr) else bit data i := by
  rw [bit_store]
  by_cases hword : 8 * addr ≤ i ∧ i < 8 * addr + 8 * 4
  · obtain ⟨j, rfl⟩ := Nat.exists_eq_add_of_le hword.1
    rw [if_pos hword, Nat.testBit_or, Nat.testBit_and, Nat.testBit_and, testBit_low_24,
      testBit_high_8, testBit_load, Nat.add_sub_cancel_left]
    by_cases hj : j < 24
    · simp [hj, show ¬ 24 ≤ j by omega]
    · simp [hj, show 24 ≤ j by omega, show j < 32 by omega]
  · rw [if_neg hword, if_neg (by omega)]

/-- A read-modify-write of one nibble of a byte. -/
theorem bit_store_nibble {shift : Nat} (hshift : shift ≤ 4) (addr value i : Nat) :
    bit (store data addr 1
        ((load data addr 1 &&& (2 ^ 32 - (0x0F <<< shift + 1))) |||
          ((value &&& 0x0F) <<< shift))) i =
      if 8 * addr + shift ≤ i ∧ i < 8 * addr + shift + 4 then
        value.testBit (i - (8 * addr + shift))
      else bit data i := by
  rw [bit_store]
  by_cases hbyte : 8 * addr ≤ i ∧ i < 8 * addr + 8 * 1
  · obtain ⟨j, rfl⟩ := Nat.exists_eq_add_of_le hbyte.1
    rw [if_pos hbyte, Nat.testBit_or, Nat.testBit_and, Nat.testBit_shiftLeft, Nat.testBit_and,
      testBit_low_4, testBit_not_nibble hshift, testBit_load, Nat.add_sub_cancel_left,
      show 8 * addr + j - (8 * addr + shift) = j - shift by omega]
    by_cases hj : shift ≤ j ∧ j < shift + 4
    · rw [if_pos (by omega)]
      simp [hj, show j - shift < 4 by omega]
    · rw [if_neg (by omega)]
      have hlow : (decide (j ≥ shift) && decide (j - shift < 4)) = false := by
        rw [← Bool.decide_and]
        exact decide_eq_false (by omega)
      rw [Bool.and_comm (value.testBit _), ← Bool.and_assoc, hlow]
      simp [hj, show j < 8 by omega, show j < 32 by omega]
  · rw [if_neg hbyte, if_neg (by omega)]

/-- **What a write does to the bits of the memory.** -/
theorem bit_write (value i : Nat) :
    bit (psm.write data bp bw x y value) i =
      if psm.position bp bw x y ≤ i ∧ i < psm.position bp bw x y + psm.BitsPerPixel then
        value.testBit (i - psm.position bp bw x y)
      else bit data i := by
  have hmod := psm.bitAddress_mod bp bw x y
  have hbyte := psm.byteAddr_eq bp bw x y
  rw [write_eq, Write.eq_def, tableBits_eq]
  dsimp only
  generalize psm.bitAddress bp bw x y = bits at hmod hbyte ⊢
  generalize psm.position bp bw x y = pos at hbyte ⊢
  generalize psm.byteAddr bits = addr at hbyte ⊢
  cases psm
  all_goals simp only [UnpackedBitWidth, BitOffset, PackedSize, BitsPerPixel] at hmod ⊢
  case C32 | Z32 | C16 | C16S | Z16 | Z16S | P8 | P8H =>
    obtain rfl : 8 * addr = pos := by omega
    exact bit_store data addr _ value i
  case C24 | Z24 =>
    obtain rfl : 8 * addr = pos := by omega
    exact bit_store_24 data addr value i
  case P4 | P4HL | P4HH =>
    obtain rfl : 8 * addr + bits % 8 = pos := hbyte
    exact bit_store_nibble data (by omega) addr value i

/-- **What a read returns, bit by bit.** -/
theorem testBit_read (j : Nat) :
    (psm.read data bp bw x y).testBit j =
      (decide (j < psm.BitsPerPixel) && bit data (psm.position bp bw x y + j)) := by
  have hmod := psm.bitAddress_mod bp bw x y
  have hbyte := psm.byteAddr_eq bp bw x y
  rw [read_eq, Read.eq_def, tableBits_eq]
  dsimp only
  generalize psm.bitAddress bp bw x y = bits at hmod hbyte ⊢
  generalize psm.position bp bw x y = pos at hbyte ⊢
  generalize psm.byteAddr bits = addr at hbyte ⊢
  cases psm
  all_goals simp only [UnpackedBitWidth, BitOffset, PackedSize, BitsPerPixel] at hmod ⊢
  case C32 | Z32 | C16 | C16S | Z16 | Z16S | P8 | P8H =>
    obtain rfl : 8 * addr = pos := by omega
    exact testBit_load data addr _ j
  case C24 | Z24 =>
    obtain rfl : 8 * addr = pos := by omega
    rw [Nat.testBit_and, testBit_low_24, testBit_load]
    grind
  case P4 | P4HL | P4HH =>
    obtain rfl : 8 * addr + bits % 8 = pos := hbyte
    rw [Nat.testBit_and, testBit_low_4, Nat.testBit_shiftRight, testBit_load]
    grind

/-- A read after a write to the same pixel. -/
theorem read_write (value : Nat) :
    psm.read (psm.write data bp bw x y value) bp bw x y = value % 2 ^ psm.BitsPerPixel := by
  apply Nat.eq_of_testBit_eq
  intro j
  rw [testBit_read, bit_write, Nat.testBit_mod_two_pow]
  by_cases hj : j < psm.BitsPerPixel
  · simp [hj]
  · simp [hj]

theorem read_eq_field :
    psm.read data bp bw x y =
      load data (4 * (psm.ResolvePixelAddress bp bw x y).word_index) 4 >>>
          (psm.ResolvePixelAddress bp bw x y).bit_shift %
        2 ^ (psm.ResolvePixelAddress bp bw x y).packed_bit_width := by
  have hpos := psm.position_eq bp bw x y
  have hle := psm.bit_shift_le bp bw x y
  have hwidth : (psm.ResolvePixelAddress bp bw x y).packed_bit_width = psm.BitsPerPixel := by
    rw [ResolvePixelAddress_bits]
  apply Nat.eq_of_testBit_eq
  intro j
  rw [testBit_read, Nat.testBit_mod_two_pow, Nat.testBit_shiftRight, testBit_load, hwidth]
  rw [hwidth] at hle
  generalize psm.ResolvePixelAddress bp bw x y = a at hpos hle ⊢
  by_cases hj : j < psm.BitsPerPixel
  · rw [hpos, show 8 * (4 * a.word_index) + (a.bit_shift + j) =
      32 * a.word_index + a.bit_shift + j by omega]
    simp [hj, show a.bit_shift + j < 8 * 4 by omega]
  · simp [hj]

end PixelStorageMode

/-- **`ResolvePixelAddress` describes the field that the table-driven functions access.** The field
lies in one word of the 4 MiB; a read returns it; a write changes it to the value and changes no
other bit of the host memory. -/
theorem ResolvePixelAddress_describes (psm : PixelStorageMode) (data : Memory)
    (bp bw x y : Nat) :
    let address := psm.ResolvePixelAddress bp bw x y
    address.word_index < MEMORY_SIZE / 4 ∧
      address.bit_shift + address.packed_bit_width ≤ 32 ∧
      psm.read data bp bw x y =
        load data (4 * address.word_index) 4 >>> address.bit_shift %
          2 ^ address.packed_bit_width ∧
      ∀ value,
        psm.read (psm.write data bp bw x y value) bp bw x y =
            value % 2 ^ address.packed_bit_width ∧
          ∀ i, ¬ (32 * address.word_index + address.bit_shift ≤ i ∧
              i < 32 * address.word_index + address.bit_shift + address.packed_bit_width) →
            bit (psm.write data bp bw x y value) i = bit data i := by
  intro address
  have hwidth : address.packed_bit_width = psm.BitsPerPixel := by
    rw [show address = psm.ResolvePixelAddress bp bw x y from rfl,
      PixelStorageMode.ResolvePixelAddress_bits]
  refine ⟨psm.word_index_lt bp bw x y, psm.bit_shift_le bp bw x y,
    psm.read_eq_field data bp bw x y, fun value => ⟨?_, fun i hi => ?_⟩⟩
  · rw [hwidth]
    exact psm.read_write data bp bw x y value
  · rw [PixelStorageMode.bit_write, psm.position_eq]
    rw [hwidth] at hi
    exact if_neg hi

end Ps2Recomp.GSMem
