import Mathlib.Data.List.Nodup
import Ps2Recomp.Gs.PixelAddress

/-!
# No two pixels of a buffer alias

`pageRow` is the number of pages in a row of a buffer as `PageId` computes it, in 32 bits. A pixel
left of the end of its page row lies `offset` bits behind the base of its buffer: its page in the
buffer, its block in the page and its field in the block, each below the size of the next. Block and
column tables hold every number once (`entry_inj`), so the offset determines the pixel
(`offset_inj`), and within the 4 MiB that the ring of pages holds so does the address
(`fields_disjoint`).
-/

namespace Ps2Recomp.GSMem

/-- The bits of the memory that a resolved address names. -/
def PixelAddress.Names (address : PixelAddress) (bit : Nat) : Prop :=
  32 * address.word_index + address.bit_shift ≤ bit ∧
    bit < 32 * address.word_index + address.bit_shift + address.packed_bit_width

/-! ## Tables -/

namespace LookupTable

/-- The table has rows of one length and holds every number once. -/
structure Distinct (table : LookupTable) (extent : Extent2D) : Prop where
  height : table.length = extent.y
  width : ∀ row ∈ table, row.length = extent.x
  rows : ∀ row ∈ table, row.Nodup
  apart : table.Pairwise List.Disjoint

/-- The numbers are distinct and none is in `seen`, a set kept as the bits of a number. -/
def fresh (seen : Nat) : List Nat → Bool
  | [] => true
  | v :: rest => !seen.testBit v && fresh (seen ||| 1 <<< v) rest

theorem nodup_of_fresh {seen : Nat} {numbers : List Nat} (h : fresh seen numbers = true) :
    numbers.Nodup ∧ ∀ v ∈ numbers, seen.testBit v = false := by
  induction numbers generalizing seen with
  | nil => exact ⟨List.nodup_nil, fun v hv => absurd hv List.not_mem_nil⟩
  | cons v rest ih =>
    rw [fresh, Bool.and_eq_true, Bool.not_eq_true'] at h
    obtain ⟨hnodup, hseen⟩ := ih h.2
    have hbit : ∀ u, (seen ||| 1 <<< v).testBit u = (seen.testBit u || decide (u = v)) := by
      intro u
      rw [Nat.testBit_or, Nat.one_shiftLeft, Nat.testBit_two_pow]
      simp only [eq_comm]
    refine ⟨List.nodup_cons.mpr ⟨fun hv => ?_, hnodup⟩, fun u hu => ?_⟩
    · have := hseen v hv
      rw [hbit] at this
      simp at this
    · rcases List.mem_cons.mp hu with rfl | hu
      · exact h.1
      · have := hseen u hu
        rw [hbit, Bool.or_eq_false_iff] at this
        exact this.1

/-- What decides that a table is distinct. -/
def check (table : LookupTable) (extent : Extent2D) : Bool :=
  table.length = extent.y && (table.all fun row => row.length = extent.x) && fresh 0 table.flatten

theorem distinct_of_check {table : LookupTable} {extent : Extent2D}
    (h : table.check extent = true) : Distinct table extent := by
  rw [check, Bool.and_eq_true, Bool.and_eq_true, decide_eq_true_eq, List.all_eq_true] at h
  obtain ⟨⟨hheight, hwidth⟩, hfresh⟩ := h
  obtain ⟨hrows, hapart⟩ := List.nodup_flatten.mp (nodup_of_fresh hfresh).1
  exact ⟨hheight, fun row hrow => of_decide_eq_true (hwidth row hrow), hrows, hapart⟩

variable {table : LookupTable} {extent : Extent2D} {x y x' y' : Nat}

/-- **An entry determines its place.** -/
theorem entry_inj (h : Distinct table extent) (hy : y < extent.y) (hx : x < extent.x)
    (hy' : y' < extent.y) (hx' : x' < extent.x) (he : table.entry y x = table.entry y' x') :
    y = y' ∧ x = x' := by
  have hrow : ∀ {j i : Nat} (hj : j < table.length), i < extent.x →
      ∃ hi : i < table[j].length, table.entry j i = table[j][i] := by
    intro j i hj hi
    have hi' : i < table[j].length := by
      rw [h.width _ (List.getElem_mem hj)]
      exact hi
    exact ⟨hi', by rw [entry, List.getD_eq_getElem _ _ hj, List.getD_eq_getElem _ _ hi']⟩
  have hj : y < table.length := h.height ▸ hy
  have hj' : y' < table.length := h.height ▸ hy'
  obtain ⟨hi, hleft⟩ := hrow hj hx
  obtain ⟨hi', hright⟩ := hrow hj' hx'
  rw [hleft, hright] at he
  have hyy : y = y' := by
    by_contra hne
    have hapart : ∀ {j j' : Nat} (hj : j < table.length) (hj' : j' < table.length), j < j' →
        List.Disjoint table[j] table[j'] :=
      fun hj hj' hlt => List.pairwise_iff_getElem.mp h.apart _ _ hj hj' hlt
    rcases Nat.lt_or_gt_of_ne hne with hlt | hlt
    · exact hapart hj hj' hlt (List.getElem_mem hi) (he ▸ List.getElem_mem hi')
    · exact hapart hj' hj hlt (List.getElem_mem hi') (he ▸ List.getElem_mem hi)
  subst hyy
  exact ⟨rfl, (List.Nodup.getElem_inj_iff (h.rows _ (List.getElem_mem hj))).mp he⟩

end LookupTable

open LookupTable

namespace PixelStorageMode

variable (psm : PixelStorageMode) (bp bw : Nat) {x y x' y' : Nat}

theorem distinct_blockTable : Distinct psm.blockTable psm.BlockExtent := by
  cases psm <;> exact distinct_of_check (by decide +kernel)

theorem distinct_columnTable : Distinct psm.columnTable psm.ColumnExtent := by
  cases psm <;> exact distinct_of_check (by decide +kernel)

/-! ## The offset of a pixel -/

def pageRow : Nat := bw * 64 % 2 ^ 32 / psm.PageExtent.x

/-- The bits between the base of the buffer and the field of the pixel. -/
def offset (x y : Nat) : Nat :=
  (y / psm.PageExtent.y * psm.pageRow bw + x / psm.PageExtent.x) * 2 ^ 16 +
    psm.BlockId psm.blockTable x y * 2 ^ 11 +
    (psm.ColumnId psm.columnTable x y * psm.UnpackedBitWidth + psm.BitOffset)

theorem column_lt (x y : Nat) :
    psm.ColumnId psm.columnTable x y * psm.UnpackedBitWidth + psm.BitOffset < 2 ^ 11 := by
  have hcolumn := psm.columnId_lt x y
  have hoffset : psm.BitOffset < psm.UnpackedBitWidth := by cases psm <;> decide
  calc psm.ColumnId psm.columnTable x y * psm.UnpackedBitWidth + psm.BitOffset
      < (psm.ColumnId psm.columnTable x y + 1) * psm.UnpackedBitWidth := by
        rw [Nat.add_one_mul]
        exact Nat.add_lt_add_left hoffset _
    _ ≤ psm.PixelsPerBlock * psm.UnpackedBitWidth := Nat.mul_le_mul_right _ hcolumn
    _ = 2 ^ 11 := psm.bits_per_block

/-- The position of a pixel, taken from the base of its buffer. -/
theorem position_offset (x y : Nat) :
    psm.position bp bw x y = (bp * 2 ^ 11 + psm.offset bw x y) % 2 ^ 25 := by
  unfold position bitAddress offset pageRow PageId
  rw [psm.blocksPerPage_eq]
  have hwrap : ∀ n : Nat, n % 2 ^ 32 * 2 ^ 16 % 2 ^ 25 = n * 2 ^ 16 % 2 ^ 25 := by
    intro n
    omega
  generalize y / psm.PageExtent.y * (bw * 64 % 2 ^ 32 / psm.PageExtent.x) = row
  have := hwrap row
  generalize x / psm.PageExtent.x = col
  generalize psm.BlockId psm.blockTable x y = block
  generalize psm.ColumnId psm.columnTable x y * psm.UnpackedBitWidth = column
  simp only
  omega

theorem blockId_inj (h : psm.BlockId psm.blockTable x y = psm.BlockId psm.blockTable x' y') :
    y / psm.ColumnExtent.y % psm.BlockExtent.y = y' / psm.ColumnExtent.y % psm.BlockExtent.y ∧
      x / psm.ColumnExtent.x % psm.BlockExtent.x = x' / psm.ColumnExtent.x % psm.BlockExtent.x := by
  have hy : 0 < psm.BlockExtent.y := by cases psm <;> decide
  have hx : 0 < psm.BlockExtent.x := by cases psm <;> decide
  exact entry_inj psm.distinct_blockTable (Nat.mod_lt _ hy) (Nat.mod_lt _ hx) (Nat.mod_lt _ hy)
    (Nat.mod_lt _ hx) h

/-- A column number determines the place in its block. -/
theorem columnId_inj
    (h : psm.ColumnId psm.columnTable x y = psm.ColumnId psm.columnTable x' y') :
    y % psm.ColumnExtent.y = y' % psm.ColumnExtent.y ∧
      x % psm.ColumnExtent.x = x' % psm.ColumnExtent.x := by
  have hy : 0 < psm.ColumnExtent.y := by cases psm <;> decide
  have hx : 0 < psm.ColumnExtent.x := by cases psm <;> decide
  exact entry_inj psm.distinct_columnTable (Nat.mod_lt _ hy) (Nat.mod_lt _ hx) (Nat.mod_lt _ hy)
    (Nat.mod_lt _ hx) h

/-- A coordinate from its page, block and place in the block. -/
theorem coordinate_eq {n n' column block : Nat}
    (hpage : n / (column * block) = n' / (column * block))
    (hblock : n / column % block = n' / column % block) (hplace : n % column = n' % column) :
    n = n' := by
  have hquotient : n / column = n' / column := by
    rw [← Nat.div_add_mod (n / column) block, ← Nat.div_add_mod (n' / column) block, hblock,
      Nat.div_div_eq_div_mul, Nat.div_div_eq_div_mul, hpage]
  rw [← Nat.div_add_mod n column, ← Nat.div_add_mod n' column, hquotient, hplace]

/-- **The offset determines the pixel.** -/
theorem offset_inj (hx : x < psm.pageRow bw * psm.PageExtent.x)
    (hx' : x' < psm.pageRow bw * psm.PageExtent.x) (h : psm.offset bw x y = psm.offset bw x' y') :
    x = x' ∧ y = y' := by
  have hbits : 0 < psm.UnpackedBitWidth := by cases psm <;> decide
  have hcol : x / psm.PageExtent.x < psm.pageRow bw := Nat.div_lt_of_lt_mul (Nat.mul_comm _ _ ▸ hx)
  have hcol' : x' / psm.PageExtent.x < psm.pageRow bw :=
    Nat.div_lt_of_lt_mul (Nat.mul_comm _ _ ▸ hx')
  have hblock := psm.blockId_lt x y
  have hblock' := psm.blockId_lt x' y'
  have hcolumn := psm.column_lt x y
  have hcolumn' := psm.column_lt x' y'
  unfold offset at h
  -- page, block and place are digits of the offset
  obtain ⟨hpage, hid, hplace⟩ :
      y / psm.PageExtent.y * psm.pageRow bw + x / psm.PageExtent.x =
          y' / psm.PageExtent.y * psm.pageRow bw + x' / psm.PageExtent.x ∧
        psm.BlockId psm.blockTable x y = psm.BlockId psm.blockTable x' y' ∧
        psm.ColumnId psm.columnTable x y * psm.UnpackedBitWidth =
          psm.ColumnId psm.columnTable x' y' * psm.UnpackedBitWidth := by
    generalize y / psm.PageExtent.y * psm.pageRow bw = row at h ⊢
    generalize y' / psm.PageExtent.y * psm.pageRow bw = row' at h ⊢
    omega
  have hrow : y / psm.PageExtent.y = y' / psm.PageExtent.y := by
    have hdiv := congrArg (· / psm.pageRow bw) hpage
    have hpos : 0 < psm.pageRow bw := Nat.zero_lt_of_lt hcol
    simp only [Nat.mul_comm _ (psm.pageRow bw), Nat.mul_add_div hpos, Nat.div_eq_of_lt hcol,
      Nat.div_eq_of_lt hcol', Nat.add_zero] at hdiv
    exact hdiv
  have hcolumns : x / psm.PageExtent.x = x' / psm.PageExtent.x := by
    rw [hrow] at hpage
    exact Nat.add_left_cancel hpage
  obtain ⟨hby, hbx⟩ := psm.blockId_inj hid
  obtain ⟨hcy, hcx⟩ := psm.columnId_inj (Nat.eq_of_mul_eq_mul_right hbits hplace)
  rw [psm.pageExtent_x] at hcolumns
  rw [psm.pageExtent_y] at hrow
  exact ⟨coordinate_eq hcolumns hbx hcx, coordinate_eq hrow hby hcy⟩

theorem row_of_position_eq (h : psm.position bp bw x y = psm.position bp bw x' y') :
    y % psm.PageExtent.y = y' % psm.PageExtent.y := by
  have hbits : 0 < psm.UnpackedBitWidth := by cases psm <;> decide
  have hblock := psm.blockId_lt x y
  have hblock' := psm.blockId_lt x' y'
  have hcolumn := psm.column_lt x y
  have hcolumn' := psm.column_lt x' y'
  unfold position bitAddress at h
  obtain ⟨hid, hplace⟩ :
      psm.BlockId psm.blockTable x y = psm.BlockId psm.blockTable x' y' ∧
        psm.ColumnId psm.columnTable x y * psm.UnpackedBitWidth =
          psm.ColumnId psm.columnTable x' y' * psm.UnpackedBitWidth := by
    generalize psm.PageId bp bw x y = page at h
    generalize psm.PageId bp bw x' y' = page' at h
    omega
  have hby := (psm.blockId_inj hid).1
  have hcy := (psm.columnId_inj (Nat.eq_of_mul_eq_mul_right hbits hplace)).1
  rw [pageExtent_y, Nat.mod_mul, Nat.mod_mul, hby, hcy]

/-- A write to another position does not change a pixel. -/
theorem read_write_apart {data : BitMemory.Memory} {value : Nat}
    (h : psm.position bp bw x y ≠ psm.position bp bw x' y') :
    psm.read (psm.write data bp bw x y value) bp bw x' y' = psm.read data bp bw x' y' := by
  have hslot := psm.bitAddress_mod bp bw x y
  have hslot' := psm.bitAddress_mod bp bw x' y'
  apply Nat.eq_of_testBit_eq
  intro j
  rw [testBit_read, testBit_read, bit_write]
  by_cases hj : j < psm.BitsPerPixel
  · rw [if_neg]
    unfold position at h ⊢
    generalize psm.bitAddress bp bw x y = address at h hslot ⊢
    generalize psm.bitAddress bp bw x' y' = address' at h hslot' ⊢
    cases psm <;> simp only [UnpackedBitWidth, BitOffset, BitsPerPixel] at * <;> omega
  · simp [hj]

/-- **Two pixels of a buffer have no bit in common**, if they lie left of the end of the page row
and within 4 MiB of the base. -/
theorem fields_disjoint (hx : x < psm.pageRow bw * psm.PageExtent.x)
    (hx' : x' < psm.pageRow bw * psm.PageExtent.x) (hin : psm.offset bw x y < 8 * MEMORY_SIZE)
    (hin' : psm.offset bw x' y' < 8 * MEMORY_SIZE) (hne : (x, y) ≠ (x', y')) (bit : Nat) :
    ¬ ((psm.ResolvePixelAddress bp bw x y).Names bit ∧
      (psm.ResolvePixelAddress bp bw x' y').Names bit) := by
  rintro ⟨hnames, hnames'⟩
  have hlimit : 8 * MEMORY_SIZE = 2 ^ 25 := rfl
  rw [hlimit] at hin hin'
  have hposition : psm.position bp bw x y ≠ psm.position bp bw x' y' := by
    intro heq
    rw [position_offset, position_offset] at heq
    have hsame : psm.offset bw x y = psm.offset bw x' y' := by omega
    obtain ⟨rfl, rfl⟩ := psm.offset_inj bw hx hx' hsame
    exact hne rfl
  -- both fields start at the same place of a slot, so they lie in different slots
  have hslot := psm.bitAddress_mod bp bw x y
  have hslot' := psm.bitAddress_mod bp bw x' y'
  unfold PixelAddress.Names at hnames hnames'
  rw [← position_eq] at hnames hnames'
  rw [ResolvePixelAddress_bits] at hnames hnames'
  unfold position at hposition hnames hnames'
  simp only at hnames hnames'
  generalize psm.bitAddress bp bw x y = address at hposition hslot hnames
  generalize psm.bitAddress bp bw x' y' = address' at hposition hslot' hnames'
  cases psm <;>
    simp only [UnpackedBitWidth, BitOffset, BitsPerPixel] at hslot hslot' hnames hnames' <;> omega

/-- Two neighbours in a buffer whose base is not on a page: the bit is one of the first. -/
theorem fields_disjoint_neighbours :
    ¬ ((P4.ResolvePixelAddress 5 4 3 7).Names 10980 ∧
      (P4.ResolvePixelAddress 5 4 4 7).Names 10980) :=
  P4.fields_disjoint 5 4 (by decide) (by decide) (by decide +kernel) (by decide +kernel) (by decide)
    10980

end PixelStorageMode

end Ps2Recomp.GSMem
