import Ps2Recomp.Gs.PixelAddress

/-!
# The stand-alone swizzle helpers

Model of `ps2_gs_psmct32.h`, `ps2_gs_psmct16.h`, `ps2_gs_psmt8.h` and `ps2_gs_psmt4.h` . Each header
has its own block and column tables and computes the address of a pixel in bytes, in nibbles for
`PSMT4`. As in `Gs/Memory.lean`, `u32` values are natural numbers and `% 2 ^ 32` stands where a sum
or a product wraps around.

`Swizzle.Agrees` compares an address with `ResolvePixelAddress`. The tables are those of `GSMem`;
what differs is the number of pages in a row of a buffer. A width below one page counts as one page
here and as none in `GSMem` (`Swizzle.address_agrees_iff`).
-/

namespace Ps2Recomp

open GSMem

/-! ## 32 bits -/

namespace GSPSMCT32

def blockTable32 : LookupTable :=
  [[0, 1, 4, 5, 16, 17, 20, 21],
    [2, 3, 6, 7, 18, 19, 22, 23],
    [8, 9, 12, 13, 24, 25, 28, 29],
    [10, 11, 14, 15, 26, 27, 30, 31]]

def columnTable32 : LookupTable :=
  [[0, 1, 4, 5, 8, 9, 12, 13],
    [2, 3, 6, 7, 10, 11, 14, 15],
    [16, 17, 20, 21, 24, 25, 28, 29],
    [18, 19, 22, 23, 26, 27, 30, 31],
    [32, 33, 36, 37, 40, 41, 44, 45],
    [34, 35, 38, 39, 42, 43, 46, 47],
    [48, 49, 52, 53, 56, 57, 60, 61],
    [50, 51, 54, 55, 58, 59, 62, 63]]

def addrPSMCT32 (block width x y : Nat) : Nat :=
  let pagesPerRow := if width ≠ 0 then width else 1
  let page := (block / 32 + y / 32 * pagesPerRow + x / 64) % 2 ^ 32
  let blockId := block % 32 + blockTable32.entry (y / 8 % 4) (x / 8 % 8)
  let pageOffset := blockId / 32 * 2 ^ 13
  let localBlock := blockId % 32
  (page * 2 ^ 13 + pageOffset + localBlock * 256 + columnTable32.entry (y % 8) (x % 8) * 4) % 2 ^ 32

end GSPSMCT32

/-! ## 16 bits -/

namespace GSPSMCT16

def blockTable16 : LookupTable :=
  [[0, 2, 8, 10],
    [1, 3, 9, 11],
    [4, 6, 12, 14],
    [5, 7, 13, 15],
    [16, 18, 24, 26],
    [17, 19, 25, 27],
    [20, 22, 28, 30],
    [21, 23, 29, 31]]

def blockTable16S : LookupTable :=
  [[0, 2, 16, 18],
    [1, 3, 17, 19],
    [8, 10, 24, 26],
    [9, 11, 25, 27],
    [4, 6, 20, 22],
    [5, 7, 21, 23],
    [12, 14, 28, 30],
    [13, 15, 29, 31]]

def blockTableZ16 : LookupTable :=
  [[24, 26, 16, 18],
    [25, 27, 17, 19],
    [28, 30, 20, 22],
    [29, 31, 21, 23],
    [8, 10, 0, 2],
    [9, 11, 1, 3],
    [12, 14, 4, 6],
    [13, 15, 5, 7]]

def blockTableZ16S : LookupTable :=
  [[24, 26, 8, 10],
    [25, 27, 9, 11],
    [16, 18, 0, 2],
    [17, 19, 1, 3],
    [28, 30, 12, 14],
    [29, 31, 13, 15],
    [20, 22, 4, 6],
    [21, 23, 5, 7]]

/-- The columns of the first two rows; the rows below repeat them. -/
def columnTable16 : LookupTable :=
  [[0, 2, 8, 10, 16, 18, 24, 26, 1, 3, 9, 11, 17, 19, 25, 27],
    [4, 6, 12, 14, 20, 22, 28, 30, 5, 7, 13, 15, 21, 23, 29, 31]]

def addrPSMCT16Like (block width x y : Nat) (blockTable : LookupTable) : Nat :=
  let pagesPerRow := if width ≠ 0 then width else 1
  let page := (block / 32 + y / 64 * pagesPerRow + x / 64) % 2 ^ 32
  let blockId := block % 32 + blockTable.entry (y / 8 % 8) (x / 16 % 4)
  let pageOffset := blockId / 32 * 2 ^ 13
  let localBlock := blockId % 32
  let columnOffset := y / 2 % 4 * 64
  (page * 2 ^ 13 + pageOffset + localBlock * 256 + columnOffset +
    columnTable16.entry (y % 2) (x % 16) * 2) % 2 ^ 32

def addrPSMCT16 (block width x y : Nat) : Nat :=
  addrPSMCT16Like block width x y blockTable16

def addrPSMCT16S (block width x y : Nat) : Nat :=
  addrPSMCT16Like block width x y blockTable16S

def addrPSMZ16 (block width x y : Nat) : Nat :=
  addrPSMCT16Like block width x y blockTableZ16

def addrPSMZ16S (block width x y : Nat) : Nat :=
  addrPSMCT16Like block width x y blockTableZ16S

end GSPSMCT16

/-! ## 8 bits -/

namespace GSPSMT8

def blockTable8 : LookupTable :=
  [[0, 1, 4, 5, 16, 17, 20, 21],
    [2, 3, 6, 7, 18, 19, 22, 23],
    [8, 9, 12, 13, 24, 25, 28, 29],
    [10, 11, 14, 15, 26, 27, 30, 31]]

def columnTable8 : LookupTable :=
  [[0, 4, 16, 20, 32, 36, 48, 52, 2, 6, 18, 22, 34, 38, 50, 54],
    [8, 12, 24, 28, 40, 44, 56, 60, 10, 14, 26, 30, 42, 46, 58, 62],
    [33, 37, 49, 53, 1, 5, 17, 21, 35, 39, 51, 55, 3, 7, 19, 23],
    [41, 45, 57, 61, 9, 13, 25, 29, 43, 47, 59, 63, 11, 15, 27, 31],
    [96, 100, 112, 116, 64, 68, 80, 84, 98, 102, 114, 118, 66, 70, 82, 86],
    [104, 108, 120, 124, 72, 76, 88, 92, 106, 110, 122, 126, 74, 78, 90, 94],
    [65, 69, 81, 85, 97, 101, 113, 117, 67, 71, 83, 87, 99, 103, 115, 119],
    [73, 77, 89, 93, 105, 109, 121, 125, 75, 79, 91, 95, 107, 111, 123, 127],
    [128, 132, 144, 148, 160, 164, 176, 180, 130, 134, 146, 150, 162, 166, 178, 182],
    [136, 140, 152, 156, 168, 172, 184, 188, 138, 142, 154, 158, 170, 174, 186, 190],
    [161, 165, 177, 181, 129, 133, 145, 149, 163, 167, 179, 183, 131, 135, 147, 151],
    [169, 173, 185, 189, 137, 141, 153, 157, 171, 175, 187, 191, 139, 143, 155, 159],
    [224, 228, 240, 244, 192, 196, 208, 212, 226, 230, 242, 246, 194, 198, 210, 214],
    [232, 236, 248, 252, 200, 204, 216, 220, 234, 238, 250, 254, 202, 206, 218, 222],
    [193, 197, 209, 213, 225, 229, 241, 245, 195, 199, 211, 215, 227, 231, 243, 247],
    [201, 205, 217, 221, 233, 237, 249, 253, 203, 207, 219, 223, 235, 239, 251, 255]]

def addrPSMT8 (block width x y : Nat) : Nat :=
  let pagesPerRow := if width / 2 ≠ 0 then width / 2 else 1
  let page := (block / 32 + y / 64 * pagesPerRow + x / 128) % 2 ^ 32
  let blockId := block % 32 + blockTable8.entry (y / 16 % 4) (x / 16 % 8)
  let pageOffset := blockId / 32 * 2 ^ 13
  let localBlock := blockId % 32
  (page * 2 ^ 13 + pageOffset + localBlock * 256 + columnTable8.entry (y % 16) (x % 16)) % 2 ^ 32

end GSPSMT8

/-! ## 4 bits -/

namespace GSPSMT4

def blockTable4 : LookupTable :=
  [[0, 2, 8, 10],
    [1, 3, 9, 11],
    [4, 6, 12, 14],
    [5, 7, 13, 15],
    [16, 18, 24, 26],
    [17, 19, 25, 27],
    [20, 22, 28, 30],
    [21, 23, 29, 31]]

def columnTable4 : LookupTable :=
  [[0, 8, 32, 40, 64, 72, 96, 104, 2, 10, 34, 42, 66, 74, 98, 106, 4, 12, 36, 44, 68, 76, 100, 108,
      6, 14, 38, 46, 70, 78, 102, 110],
    [16, 24, 48, 56, 80, 88, 112, 120, 18, 26, 50, 58, 82, 90, 114, 122, 20, 28, 52, 60, 84, 92,
      116, 124, 22, 30, 54, 62, 86, 94, 118, 126],
    [65, 73, 97, 105, 1, 9, 33, 41, 67, 75, 99, 107, 3, 11, 35, 43, 69, 77, 101, 109, 5, 13, 37,
      45, 71, 79, 103, 111, 7, 15, 39, 47],
    [81, 89, 113, 121, 17, 25, 49, 57, 83, 91, 115, 123, 19, 27, 51, 59, 85, 93, 117, 125, 21, 29,
      53, 61, 87, 95, 119, 127, 23, 31, 55, 63],
    [192, 200, 224, 232, 128, 136, 160, 168, 194, 202, 226, 234, 130, 138, 162, 170, 196, 204, 228,
      236, 132, 140, 164, 172, 198, 206, 230, 238, 134, 142, 166, 174],
    [208, 216, 240, 248, 144, 152, 176, 184, 210, 218, 242, 250, 146, 154, 178, 186, 212, 220, 244,
      252, 148, 156, 180, 188, 214, 222, 246, 254, 150, 158, 182, 190],
    [129, 137, 161, 169, 193, 201, 225, 233, 131, 139, 163, 171, 195, 203, 227, 235, 133, 141, 165,
      173, 197, 205, 229, 237, 135, 143, 167, 175, 199, 207, 231, 239],
    [145, 153, 177, 185, 209, 217, 241, 249, 147, 155, 179, 187, 211, 219, 243, 251, 149, 157, 181,
      189, 213, 221, 245, 253, 151, 159, 183, 191, 215, 223, 247, 255],
    [256, 264, 288, 296, 320, 328, 352, 360, 258, 266, 290, 298, 322, 330, 354, 362, 260, 268, 292,
      300, 324, 332, 356, 364, 262, 270, 294, 302, 326, 334, 358, 366],
    [272, 280, 304, 312, 336, 344, 368, 376, 274, 282, 306, 314, 338, 346, 370, 378, 276, 284, 308,
      316, 340, 348, 372, 380, 278, 286, 310, 318, 342, 350, 374, 382],
    [321, 329, 353, 361, 257, 265, 289, 297, 323, 331, 355, 363, 259, 267, 291, 299, 325, 333, 357,
      365, 261, 269, 293, 301, 327, 335, 359, 367, 263, 271, 295, 303],
    [337, 345, 369, 377, 273, 281, 305, 313, 339, 347, 371, 379, 275, 283, 307, 315, 341, 349, 373,
      381, 277, 285, 309, 317, 343, 351, 375, 383, 279, 287, 311, 319],
    [448, 456, 480, 488, 384, 392, 416, 424, 450, 458, 482, 490, 386, 394, 418, 426, 452, 460, 484,
      492, 388, 396, 420, 428, 454, 462, 486, 494, 390, 398, 422, 430],
    [464, 472, 496, 504, 400, 408, 432, 440, 466, 474, 498, 506, 402, 410, 434, 442, 468, 476, 500,
      508, 404, 412, 436, 444, 470, 478, 502, 510, 406, 414, 438, 446],
    [385, 393, 417, 425, 449, 457, 481, 489, 387, 395, 419, 427, 451, 459, 483, 491, 389, 397, 421,
      429, 453, 461, 485, 493, 391, 399, 423, 431, 455, 463, 487, 495],
    [401, 409, 433, 441, 465, 473, 497, 505, 403, 411, 435, 443, 467, 475, 499, 507, 405, 413, 437,
      445, 469, 477, 501, 509, 407, 415, 439, 447, 471, 479, 503, 511]]

def addrPSMT4 (block width x y : Nat) : Nat :=
  let pagesPerRow := if width / 2 ≠ 0 then width / 2 else 1
  let page := (block / 32 + y / 128 * pagesPerRow + x / 128) % 2 ^ 32
  let blockId := block % 32 + blockTable4.entry (y / 16 % 8) (x / 32 % 4)
  let pageOffset := blockId / 32 * 2 ^ 14
  let localBlock := blockId % 32
  (page * 2 ^ 14 + pageOffset + localBlock * 512 + columnTable4.entry (y % 16) (x % 32)) % 2 ^ 32

end GSPSMT4

/-! ## The seven helpers -/

/-- The helpers, by the format they are named after. -/
inductive Swizzle where
  | PSMCT32
  | PSMCT16
  | PSMCT16S
  | PSMZ16
  | PSMZ16S
  | PSMT8
  | PSMT4
  deriving DecidableEq, Repr

namespace Swizzle

def address : Swizzle → Nat → Nat → Nat → Nat → Nat
  | .PSMCT32 => GSPSMCT32.addrPSMCT32
  | .PSMCT16 => GSPSMCT16.addrPSMCT16
  | .PSMCT16S => GSPSMCT16.addrPSMCT16S
  | .PSMZ16 => GSPSMCT16.addrPSMZ16
  | .PSMZ16S => GSPSMCT16.addrPSMZ16S
  | .PSMT8 => GSPSMT8.addrPSMT8
  | .PSMT4 => GSPSMT4.addrPSMT4

/-- The storage mode of the format. -/
def mode : Swizzle → PixelStorageMode
  | .PSMCT32 => .C32
  | .PSMCT16 => .C16
  | .PSMCT16S => .C16S
  | .PSMZ16 => .Z16
  | .PSMZ16S => .Z16S
  | .PSMT8 => .P8
  | .PSMT4 => .P4

/-- The unit of the address, in bits. -/
def unitBits : Swizzle → Nat
  | .PSMT4 => 4
  | _ => 8

variable (helper : Swizzle) (block width x y : Nat)

/-- The address is, modulo 4 MiB, the field that `ResolvePixelAddress` gives. -/
def Agrees : Prop :=
  helper.unitBits * helper.address block width x y % (8 * MEMORY_SIZE) =
    32 * (helper.mode.ResolvePixelAddress block width x y).word_index +
      (helper.mode.ResolvePixelAddress block width x y).bit_shift

instance : Decidable (helper.Agrees block width x y) :=
  inferInstanceAs (Decidable (_ = _))

/-- The pages in a row of a buffer, as the page extent of the mode and the width give them. -/
def wholePages : Nat := width / (helper.mode.PageExtent.x / 64)

/-- The position in bits that an address of the given page stands for. -/
def bitsAt (page : Nat) : Nat :=
  page * 2 ^ 16 + (block % 32 + helper.mode.BlockId helper.mode.blockTable x y) * 2 ^ 11 +
    helper.mode.ColumnId helper.mode.columnTable x y * helper.mode.UnpackedBitWidth

/-! ## The tables -/

/-- The column table of the 16-bit formats is that of `GSMem`, folded to its first two rows. -/
theorem columnTable16_entry : y / 2 % 4 * 32 + GSPSMCT16.columnTable16.entry (y % 2) (x % 16) =
    ColumnTable16.entry (y % 8) (x % 16) := by
  have hrows : ∀ j < 8, ∀ i < 16,
      j / 2 % 4 * 32 + GSPSMCT16.columnTable16.entry (j % 2) i = ColumnTable16.entry j i := by
    decide
  have hrow := hrows (y % 8) (Nat.mod_lt _ (by decide)) (x % 16) (Nat.mod_lt _ (by decide))
  rwa [show y % 8 / 2 % 4 = y / 2 % 4 by omega, show y % 8 % 2 = y % 2 by omega] at hrow

/-! ## Addresses in bits -/

/-- A page of 64 pixels is the unit of a width. -/
theorem wholePages_of_extent {helper : Swizzle} (hextent : helper.mode.PageExtent.x = 64) :
    helper.wholePages width = width := by
  rw [wholePages, hextent, Nat.div_self (by decide), Nat.div_one]

/-- A 16-bit address with the block table of `GSMem`. The columns of a block are 32 pixels apart. -/
theorem addrPSMCT16Like_bits (table : LookupTable) :
    8 * GSPSMCT16.addrPSMCT16Like block width x y table % 2 ^ 25 =
      ((block / 32 + y / 64 * (if width ≠ 0 then width else 1) + x / 64) * 2 ^ 16 +
        (block % 32 + table.entry (y / 8 % 8) (x / 16 % 4)) * 2 ^ 11 +
        ColumnTable16.entry (y % 8) (x % 16) * 16) % 2 ^ 25 := by
  rw [← columnTable16_entry, GSPSMCT16.addrPSMCT16Like]
  generalize y / 64 * (if width ≠ 0 then width else 1) = row
  omega

/-- **A helper addresses the field of the pixel**, in a page of its own count. -/
theorem unitBits_address : helper.unitBits * helper.address block width x y % 2 ^ 25 =
    helper.bitsAt block x y
        (block / 32 +
          y / helper.mode.PageExtent.y *
            (if helper.wholePages width ≠ 0 then helper.wholePages width else 1) +
          x / helper.mode.PageExtent.x) % 2 ^ 25 := by
  unfold bitsAt
  cases helper with
  | PSMCT32 =>
    rw [wholePages_of_extent width rfl]
    change 8 * GSPSMCT32.addrPSMCT32 block width x y % 2 ^ 25 =
      ((block / 32 + y / 32 * (if width ≠ 0 then width else 1) + x / 64) * 2 ^ 16 +
        (block % 32 + GSPSMCT32.blockTable32.entry (y / 8 % 4) (x / 8 % 8)) * 2 ^ 11 +
        GSPSMCT32.columnTable32.entry (y % 8) (x % 8) * 32) % 2 ^ 25
    rw [GSPSMCT32.addrPSMCT32]
    generalize y / 32 * (if width ≠ 0 then width else 1) = row
    omega
  | PSMCT16 | PSMCT16S | PSMZ16 | PSMZ16S =>
    rw [wholePages_of_extent width rfl]
    exact addrPSMCT16Like_bits block width x y _
  | PSMT8 =>
    change 8 * GSPSMT8.addrPSMT8 block width x y % 2 ^ 25 =
      ((block / 32 + y / 64 * (if width / 2 ≠ 0 then width / 2 else 1) + x / 128) * 2 ^ 16 +
        (block % 32 + GSPSMT8.blockTable8.entry (y / 16 % 4) (x / 16 % 8)) * 2 ^ 11 +
        GSPSMT8.columnTable8.entry (y % 16) (x % 16) * 8) % 2 ^ 25
    rw [GSPSMT8.addrPSMT8]
    generalize y / 64 * (if width / 2 ≠ 0 then width / 2 else 1) = row
    omega
  | PSMT4 =>
    change 4 * GSPSMT4.addrPSMT4 block width x y % 2 ^ 25 =
      ((block / 32 + y / 128 * (if width / 2 ≠ 0 then width / 2 else 1) + x / 128) * 2 ^ 16 +
        (block % 32 + GSPSMT4.blockTable4.entry (y / 16 % 8) (x / 32 % 4)) * 2 ^ 11 +
        GSPSMT4.columnTable4.entry (y % 16) (x % 32) * 4) % 2 ^ 25
    rw [GSPSMT4.addrPSMT4]
    generalize y / 128 * (if width / 2 ≠ 0 then width / 2 else 1) = row
    omega

/-- `GSMem` counts the whole pages of a row, modulo the 512 pages of the memory. -/
theorem position_page : helper.mode.position block width x y =
    helper.bitsAt block x y
        (block / 32 + y / helper.mode.PageExtent.y * helper.wholePages width +
          x / helper.mode.PageExtent.x) % 2 ^ 25 := by
  have hoffset : helper.mode.BitOffset = 0 := by cases helper <;> rfl
  have hrow : y / helper.mode.PageExtent.y *
      (width * 64 % 2 ^ 32 / helper.mode.PageExtent.x) % 512 =
      y / helper.mode.PageExtent.y * helper.wholePages width % 512 := by
    have hpages : width * 64 % 2 ^ 32 / helper.mode.PageExtent.x % 512 =
        helper.wholePages width % 512 := by
      unfold wholePages
      cases helper
      all_goals simp only [mode, PixelStorageMode.PageExtent]; omega
    rw [Nat.mul_mod, hpages, ← Nat.mul_mod]
  rw [PixelStorageMode.position, PixelStorageMode.bitAddress, hoffset, PixelStorageMode.PageId,
    PixelStorageMode.blocksPerPage_eq, bitsAt]
  generalize y / helper.mode.PageExtent.y * (width * 64 % 2 ^ 32 / helper.mode.PageExtent.x) = row
    at hrow ⊢
  generalize y / helper.mode.PageExtent.y * helper.wholePages width = row' at hrow ⊢
  omega

/-- Two pages hold the same field when they are the same page of the memory. -/
theorem bitsAt_eq_iff (page page' : Nat) :
    helper.bitsAt block x y page % 2 ^ 25 = helper.bitsAt block x y page' % 2 ^ 25 ↔
      page % 512 = page' % 512 := by
  unfold bitsAt
  omega

/-- **A helper agrees with the memory model exactly where the two page counts do**: on every buffer
of at least one page a row, and otherwise on the rows of pages that wrap to the first. -/
theorem address_agrees_iff : helper.Agrees block width x y ↔
    helper.wholePages width ≠ 0 ∨ y / helper.mode.PageExtent.y % 512 = 0 := by
  rw [Agrees, ← PixelStorageMode.position_eq, show 8 * MEMORY_SIZE = 2 ^ 25 by rfl,
    unitBits_address, position_page, bitsAt_eq_iff]
  by_cases hwhole : helper.wholePages width = 0
  · rw [hwhole, if_neg (by simp)]
    omega
  · rw [if_pos hwhole]
    simp [hwhole]

/-- A buffer of width 0 on its second row of pages. -/
theorem addrPSMCT32_width_zero_differs : ¬ Swizzle.PSMCT32.Agrees 0 0 0 32 := by
  decide

end Swizzle

end Ps2Recomp
