import Ps2Recomp.Lib.BitMemory

/-!
# GS local memory

Model of `GSMem` (`ps2_gs_memory.h`, `ps2_gs_memory.cpp`): where the pixels of a buffer lie in the 4
MiB of GS memory. There are two implementations, `ResolvePixelAddress`, which computes the position,
and `PixelStorageTraits::Read` and `Write`, which go through the tables of `InitLookupTables`.

* `u32` and `usz` values are natural numbers; `% 2 ^ 32` stands where a `u32` wraps around.
* `data` is a `BitMemory.Memory`, the host memory from the pointer on: that no access leaves the
  4 MiB is part of what is proved.
* The traits of a mode are functions of the mode. `PixelStorageMode.Max` is no mode.
-/

namespace Ps2Recomp.GSMem

open BitMemory

def MEMORY_SIZE : Nat := 4 * 1024 * 1024

inductive PixelStorageMode where
  | C32
  | C24
  | C16
  | C16S
  | P8
  | P4
  | P8H
  | P4HL
  | P4HH
  | Z32
  | Z24
  | Z16
  | Z16S
  deriving DecidableEq, Repr

structure Extent2D where
  x : Nat
  y : Nat
  deriving DecidableEq, Repr

structure PixelAddress where
  word_index : Nat
  bit_shift : Nat
  packed_bit_width : Nat
  deriving DecidableEq, Repr

/-- `LookupTable`: rows of entries. -/
abbrev LookupTable := List (List Nat)

/-- `table[y][x]`. -/
def LookupTable.entry (table : LookupTable) (y x : Nat) : Nat := (table.getD y []).getD x 0

/-! ## Tables -/

def BlockTableC32 : LookupTable :=
  [[0, 1, 4, 5, 16, 17, 20, 21],
    [2, 3, 6, 7, 18, 19, 22, 23],
    [8, 9, 12, 13, 24, 25, 28, 29],
    [10, 11, 14, 15, 26, 27, 30, 31]]

def BlockTableZ32 : LookupTable :=
  [[24, 25, 28, 29, 8, 9, 12, 13],
    [26, 27, 30, 31, 10, 11, 14, 15],
    [16, 17, 20, 21, 0, 1, 4, 5],
    [18, 19, 22, 23, 2, 3, 6, 7]]

def BlockTableC16 : LookupTable :=
  [[0, 2, 8, 10],
    [1, 3, 9, 11],
    [4, 6, 12, 14],
    [5, 7, 13, 15],
    [16, 18, 24, 26],
    [17, 19, 25, 27],
    [20, 22, 28, 30],
    [21, 23, 29, 31]]

def BlockTableC16S : LookupTable :=
  [[0, 2, 16, 18],
    [1, 3, 17, 19],
    [8, 10, 24, 26],
    [9, 11, 25, 27],
    [4, 6, 20, 22],
    [5, 7, 21, 23],
    [12, 14, 28, 30],
    [13, 15, 29, 31]]

def BlockTableZ16 : LookupTable :=
  [[24, 26, 16, 18],
    [25, 27, 17, 19],
    [28, 30, 20, 22],
    [29, 31, 21, 23],
    [8, 10, 0, 2],
    [9, 11, 1, 3],
    [12, 14, 4, 6],
    [13, 15, 5, 7]]

def BlockTableZ16S : LookupTable :=
  [[24, 26, 8, 10],
    [25, 27, 9, 11],
    [16, 18, 0, 2],
    [17, 19, 1, 3],
    [28, 30, 12, 14],
    [29, 31, 13, 15],
    [20, 22, 4, 6],
    [21, 23, 5, 7]]

def BlockTableP8 : LookupTable :=
  [[0, 1, 4, 5, 16, 17, 20, 21],
    [2, 3, 6, 7, 18, 19, 22, 23],
    [8, 9, 12, 13, 24, 25, 28, 29],
    [10, 11, 14, 15, 26, 27, 30, 31]]

def BlockTableP4 : LookupTable :=
  [[0, 2, 8, 10],
    [1, 3, 9, 11],
    [4, 6, 12, 14],
    [5, 7, 13, 15],
    [16, 18, 24, 26],
    [17, 19, 25, 27],
    [20, 22, 28, 30],
    [21, 23, 29, 31]]

def ColumnTable32 : LookupTable :=
  [[0, 1, 4, 5, 8, 9, 12, 13],
    [2, 3, 6, 7, 10, 11, 14, 15],
    [16, 17, 20, 21, 24, 25, 28, 29],
    [18, 19, 22, 23, 26, 27, 30, 31],
    [32, 33, 36, 37, 40, 41, 44, 45],
    [34, 35, 38, 39, 42, 43, 46, 47],
    [48, 49, 52, 53, 56, 57, 60, 61],
    [50, 51, 54, 55, 58, 59, 62, 63]]

def ColumnTable16 : LookupTable :=
  [[0, 2, 8, 10, 16, 18, 24, 26, 1, 3, 9, 11, 17, 19, 25, 27],
    [4, 6, 12, 14, 20, 22, 28, 30, 5, 7, 13, 15, 21, 23, 29, 31],
    [32, 34, 40, 42, 48, 50, 56, 58, 33, 35, 41, 43, 49, 51, 57, 59],
    [36, 38, 44, 46, 52, 54, 60, 62, 37, 39, 45, 47, 53, 55, 61, 63],
    [64, 66, 72, 74, 80, 82, 88, 90, 65, 67, 73, 75, 81, 83, 89, 91],
    [68, 70, 76, 78, 84, 86, 92, 94, 69, 71, 77, 79, 85, 87, 93, 95],
    [96, 98, 104, 106, 112, 114, 120, 122, 97, 99, 105, 107, 113, 115, 121, 123],
    [100, 102, 108, 110, 116, 118, 124, 126, 101, 103, 109, 111, 117, 119, 125, 127]]

def ColumnTable8 : LookupTable :=
  [[0, 4, 16, 20, 32, 36, 48, 52, 2, 6, 18, 22, 34, 38, 50, 54],
    [8, 12, 24, 28, 40, 44, 56, 60, 10, 14, 26, 30, 42, 46, 58, 62],
    [33, 37, 49, 53, 1, 5, 17, 21, 35, 39, 51, 55, 3, 7, 19, 23],
    [41, 45, 57, 61, 9, 13, 25, 29, 43, 47, 59, 63, 11, 15, 27, 31],
    [96, 100, 112, 116, 64, 68, 80, 84, 98, 102, 114, 118, 66, 70, 82, 86],
    [104, 108, 120, 124, 72, 76, 88, 92, 106, 110, 122, 126, 74, 78, 90, 94],
    [65, 69, 81, 85, 97, 101, 113, 117, 67, 71, 83, 87, 99, 103, 115, 119],
    [73, 77, 89, 93, 105, 109, 121, 125, 75, 79, 91, 95, 107, 111, 123, 127],
    [128, 132, 144, 148, 160, 164, 176, 180, 130, 134, 146, 150, 162, 166, 178, 182],
    [136, 140, 152, 156, 168, 172, 184, 188, 138, 142, 154, 158, 170, 174, 186, 190],
    [161, 165, 177, 181, 129, 133, 145, 149, 163, 167, 179, 183, 131, 135, 147, 151],
    [169, 173, 185, 189, 137, 141, 153, 157, 171, 175, 187, 191, 139, 143, 155, 159],
    [224, 228, 240, 244, 192, 196, 208, 212, 226, 230, 242, 246, 194, 198, 210, 214],
    [232, 236, 248, 252, 200, 204, 216, 220, 234, 238, 250, 254, 202, 206, 218, 222],
    [193, 197, 209, 213, 225, 229, 241, 245, 195, 199, 211, 215, 227, 231, 243, 247],
    [201, 205, 217, 221, 233, 237, 249, 253, 203, 207, 219, 223, 235, 239, 251, 255]]

def ColumnTable4 : LookupTable :=
  [[0, 8, 32, 40, 64, 72, 96, 104, 2, 10, 34, 42, 66, 74, 98, 106, 4, 12, 36, 44, 68, 76, 100,
      108, 6, 14, 38, 46, 70, 78, 102, 110],
    [16, 24, 48, 56, 80, 88, 112, 120, 18, 26, 50, 58, 82, 90, 114, 122, 20, 28, 52, 60, 84, 92,
      116, 124, 22, 30, 54, 62, 86, 94, 118, 126],
    [65, 73, 97, 105, 1, 9, 33, 41, 67, 75, 99, 107, 3, 11, 35, 43, 69, 77, 101, 109, 5, 13, 37,
      45, 71, 79, 103, 111, 7, 15, 39, 47],
    [81, 89, 113, 121, 17, 25, 49, 57, 83, 91, 115, 123, 19, 27, 51, 59, 85, 93, 117, 125, 21, 29,
      53, 61, 87, 95, 119, 127, 23, 31, 55, 63],
    [192, 200, 224, 232, 128, 136, 160, 168, 194, 202, 226, 234, 130, 138, 162, 170, 196, 204,
      228, 236, 132, 140, 164, 172, 198, 206, 230, 238, 134, 142, 166, 174],
    [208, 216, 240, 248, 144, 152, 176, 184, 210, 218, 242, 250, 146, 154, 178, 186, 212, 220,
      244, 252, 148, 156, 180, 188, 214, 222, 246, 254, 150, 158, 182, 190],
    [129, 137, 161, 169, 193, 201, 225, 233, 131, 139, 163, 171, 195, 203, 227, 235, 133, 141,
      165, 173, 197, 205, 229, 237, 135, 143, 167, 175, 199, 207, 231, 239],
    [145, 153, 177, 185, 209, 217, 241, 249, 147, 155, 179, 187, 211, 219, 243, 251, 149, 157,
      181, 189, 213, 221, 245, 253, 151, 159, 183, 191, 215, 223, 247, 255],
    [256, 264, 288, 296, 320, 328, 352, 360, 258, 266, 290, 298, 322, 330, 354, 362, 260, 268,
      292, 300, 324, 332, 356, 364, 262, 270, 294, 302, 326, 334, 358, 366],
    [272, 280, 304, 312, 336, 344, 368, 376, 274, 282, 306, 314, 338, 346, 370, 378, 276, 284,
      308, 316, 340, 348, 372, 380, 278, 286, 310, 318, 342, 350, 374, 382],
    [321, 329, 353, 361, 257, 265, 289, 297, 323, 331, 355, 363, 259, 267, 291, 299, 325, 333,
      357, 365, 261, 269, 293, 301, 327, 335, 359, 367, 263, 271, 295, 303],
    [337, 345, 369, 377, 273, 281, 305, 313, 339, 347, 371, 379, 275, 283, 307, 315, 341, 349,
      373, 381, 277, 285, 309, 317, 343, 351, 375, 383, 279, 287, 311, 319],
    [448, 456, 480, 488, 384, 392, 416, 424, 450, 458, 482, 490, 386, 394, 418, 426, 452, 460,
      484, 492, 388, 396, 420, 428, 454, 462, 486, 494, 390, 398, 422, 430],
    [464, 472, 496, 504, 400, 408, 432, 440, 466, 474, 498, 506, 402, 410, 434, 442, 468, 476,
      500, 508, 404, 412, 436, 444, 470, 478, 502, 510, 406, 414, 438, 446],
    [385, 393, 417, 425, 449, 457, 481, 489, 387, 395, 419, 427, 451, 459, 483, 491, 389, 397,
      421, 429, 453, 461, 485, 493, 391, 399, 423, 431, 455, 463, 487, 495],
    [401, 409, 433, 441, 465, 473, 497, 505, 403, 411, 435, 443, 467, 475, 499, 507, 405, 413,
      437, 445, 469, 477, 501, 509, 407, 415, 439, 447, 471, 479, 503, 511]]

/-! ## Traits of a mode -/

namespace PixelStorageMode

def UnpackedBitWidth : PixelStorageMode → Nat
  | .C32 | .Z32 | .C24 | .Z24 | .P8H | .P4HH | .P4HL => 32
  | .C16 | .C16S | .Z16 | .Z16S => 16
  | .P8 => 8
  | .P4 => 4

def BitsPerPixel : PixelStorageMode → Nat
  | .C32 | .Z32 => 32
  | .C24 | .Z24 => 24
  | .C16 | .C16S | .Z16 | .Z16S => 16
  | .P8 | .P8H => 8
  | .P4 | .P4HH | .P4HL => 4

/-- `sizeof(PackedT)`, from `BitStorageHelper`. -/
def PackedSize (psm : PixelStorageMode) : Nat :=
  match psm.BitsPerPixel with
  | 4 | 8 => 1
  | 16 => 2
  | _ => 4

def PageExtent : PixelStorageMode → Extent2D
  | .C32 | .Z32 | .C24 | .Z24 | .P8H | .P4HL | .P4HH => ⟨64, 32⟩
  | .C16 | .C16S | .Z16 | .Z16S => ⟨64, 64⟩
  | .P8 => ⟨128, 64⟩
  | .P4 => ⟨128, 128⟩

def BlockExtent : PixelStorageMode → Extent2D
  | .C32 | .C24 | .P8H | .P4HL | .P4HH | .Z32 | .Z24 | .P8 => ⟨8, 4⟩
  | .C16 | .C16S | .Z16 | .Z16S | .P4 => ⟨4, 8⟩

def ColumnExtent : PixelStorageMode → Extent2D
  | .C32 | .Z32 | .C24 | .Z24 | .P8H | .P4HL | .P4HH => ⟨8, 8⟩
  | .C16 | .C16S | .Z16 | .Z16S => ⟨16, 8⟩
  | .P8 => ⟨16, 16⟩
  | .P4 => ⟨32, 16⟩

def BlocksPerPage (psm : PixelStorageMode) : Nat := psm.BlockExtent.x * psm.BlockExtent.y

def PixelsPerBlock (psm : PixelStorageMode) : Nat := psm.ColumnExtent.x * psm.ColumnExtent.y

def PixelsPerPage (psm : PixelStorageMode) : Nat := psm.PageExtent.x * psm.PageExtent.y

/-- The offset of the field in a word of 32 bits. -/
def BitOffset : PixelStorageMode → Nat
  | .P8H | .P4HL => 24
  | .P4HH => 28
  | _ => 0

def ColumnId (psm : PixelStorageMode) (table : LookupTable) (x y : Nat) : Nat :=
  table.entry (y % psm.ColumnExtent.y) (x % psm.ColumnExtent.x)

def BlockId (psm : PixelStorageMode) (table : LookupTable) (x y : Nat) : Nat :=
  table.entry ((y / psm.ColumnExtent.y) % psm.BlockExtent.y)
    ((x / psm.ColumnExtent.x) % psm.BlockExtent.x)

def PageId (psm : PixelStorageMode) (base bw x y : Nat) : Nat :=
  let base_page := base / psm.BlocksPerPage
  let row := y / psm.PageExtent.y * ((bw * 64) % 2 ^ 32 / psm.PageExtent.x) % 2 ^ 32
  let col := x / psm.PageExtent.x
  base_page + row + col

/-! ## The computed position -/

def ResolvePixelAddressImpl (psm : PixelStorageMode) (blockTable columnTable : LookupTable)
    (bp bw x y : Nat) : PixelAddress :=
  let page := psm.PageId bp bw x y % 2 ^ 32
  let pixel :=
    (page * psm.PixelsPerPage +
      (bp % psm.BlocksPerPage + psm.BlockId blockTable x y) * psm.PixelsPerBlock +
      psm.ColumnId columnTable x y) % 2 ^ 32
  let bitAddress := (pixel * psm.UnpackedBitWidth + psm.BitOffset) % 2 ^ 32
  { word_index := (bitAddress / 32) &&& (MEMORY_SIZE / 4 - 1)
    bit_shift := bitAddress % 32
    packed_bit_width := psm.BitsPerPixel }

/-- `ResolvePixelAddress`, of a mode it knows. -/
def ResolvePixelAddress (psm : PixelStorageMode) (bp bw x y : Nat) : PixelAddress :=
  match psm with
  | .C32 => C32.ResolvePixelAddressImpl BlockTableC32 ColumnTable32 bp bw x y
  | .C24 => C24.ResolvePixelAddressImpl BlockTableC32 ColumnTable32 bp bw x y
  | .C16 => C16.ResolvePixelAddressImpl BlockTableC16 ColumnTable16 bp bw x y
  | .C16S => C16S.ResolvePixelAddressImpl BlockTableC16S ColumnTable16 bp bw x y
  | .P8 => P8.ResolvePixelAddressImpl BlockTableP8 ColumnTable8 bp bw x y
  | .P4 => P4.ResolvePixelAddressImpl BlockTableP4 ColumnTable4 bp bw x y
  | .P8H => P8H.ResolvePixelAddressImpl BlockTableC32 ColumnTable32 bp bw x y
  | .P4HL => P4HL.ResolvePixelAddressImpl BlockTableC32 ColumnTable32 bp bw x y
  | .P4HH => P4HH.ResolvePixelAddressImpl BlockTableC32 ColumnTable32 bp bw x y
  | .Z32 => Z32.ResolvePixelAddressImpl BlockTableZ32 ColumnTable32 bp bw x y
  | .Z24 => Z24.ResolvePixelAddressImpl BlockTableZ32 ColumnTable32 bp bw x y
  | .Z16 => Z16.ResolvePixelAddressImpl BlockTableZ16 ColumnTable16 bp bw x y
  | .Z16S => Z16S.ResolvePixelAddressImpl BlockTableZ16S ColumnTable16 bp bw x y

/-! ## Page tables -/

/-- `PageLookupTableT`: for each block phase, a table of `u16`. -/
abbrev PageLookupTable := List LookupTable

/-- The table that the loops of `InitPageLookupTable` fill. -/
def InitPageLookupTable (psm : PixelStorageMode) (block_table column_table : LookupTable) :
    PageLookupTable :=
  (List.range psm.BlocksPerPage).map fun block =>
    (List.range psm.PageExtent.y).map fun y =>
      (List.range psm.PageExtent.x).map fun x =>
        ((block + psm.BlockId block_table x y) * psm.PixelsPerBlock +
          psm.ColumnId column_table x y) % 2 ^ 16

def Address (psm : PixelStorageMode) (table : PageLookupTable) (block bw x y : Nat) : Nat :=
  let page := psm.PageId block bw x y % 2 ^ 32
  (page * psm.PixelsPerPage +
    LookupTable.entry (table.getD (block % psm.BlocksPerPage) []) (y % psm.PageExtent.y)
      (x % psm.PageExtent.x)) % 2 ^ 32

/-- `bits` of `Read` and `Write`. -/
def tableBits (psm : PixelStorageMode) (table : PageLookupTable) (block bw x y : Nat) : Nat :=
  (psm.Address table block bw x y * psm.UnpackedBitWidth + psm.BitOffset) % 2 ^ 32

/-- `byte_addr` of `Read` and `Write`. -/
def byteAddr (psm : PixelStorageMode) (bits : Nat) : Nat :=
  (bits / 8) &&& (MEMORY_SIZE - psm.PackedSize)

def Write (psm : PixelStorageMode) (table : PageLookupTable) (data : Memory)
    (block bw x y value : Nat) : Memory :=
  let bits := psm.tableBits table block bw x y
  let byte_addr := psm.byteAddr bits
  let shift := bits % 8
  let old := load data byte_addr psm.PackedSize
  match psm with
  | .C32 | .Z32 | .C16 | .C16S | .Z16 | .Z16S | .P8 | .P8H =>
    store data byte_addr psm.PackedSize value
  | .C24 | .Z24 =>
    store data byte_addr psm.PackedSize ((old &&& 0xFF000000) ||| (value &&& 0x00FFFFFF))
  | .P4 | .P4HL | .P4HH =>
    -- `~(0x0F << shift)` is the complement of an `int`.
    store data byte_addr psm.PackedSize
      ((old &&& (2 ^ 32 - (0x0F <<< shift + 1))) ||| ((value &&& 0x0F) <<< shift))

def Read (psm : PixelStorageMode) (table : PageLookupTable) (data : Memory) (block bw x y : Nat) :
    Nat :=
  let bits := psm.tableBits table block bw x y
  let byte_addr := psm.byteAddr bits
  let shift := bits % 8
  let v := load data byte_addr psm.PackedSize
  match psm with
  | .C32 | .Z32 | .C16 | .C16S | .Z16 | .Z16S | .P8 | .P8H => v
  | .C24 | .Z24 => v &&& 0x00FFFFFF
  | .P4 | .P4HL | .P4HH => (v >>> shift) &&& 0x0F

end PixelStorageMode

/-! ## The tables of `InitLookupTables` -/

open PixelStorageMode

def PageTableC32 : PageLookupTable := C32.InitPageLookupTable BlockTableC32 ColumnTable32
def PageTableZ32 : PageLookupTable := Z32.InitPageLookupTable BlockTableZ32 ColumnTable32
def PageTableC16 : PageLookupTable := C16.InitPageLookupTable BlockTableC16 ColumnTable16
def PageTableC16S : PageLookupTable := C16S.InitPageLookupTable BlockTableC16S ColumnTable16
def PageTableZ16 : PageLookupTable := Z16.InitPageLookupTable BlockTableZ16 ColumnTable16
def PageTableZ16S : PageLookupTable := Z16S.InitPageLookupTable BlockTableZ16S ColumnTable16
def PageTableP8 : PageLookupTable := P8.InitPageLookupTable BlockTableP8 ColumnTable8
def PageTableP4 : PageLookupTable := P4.InitPageLookupTable BlockTableP4 ColumnTable4

/-! ## Read and write functions

The `u32` argument of a write is converted to `PackedT`: `store` takes the low bytes.
-/

def WriteCT32 (data : Memory) (bp bw x y value : Nat) : Memory :=
  C32.Write PageTableC32 data bp bw x y value
def WriteCT24 (data : Memory) (bp bw x y value : Nat) : Memory :=
  C24.Write PageTableC32 data bp bw x y value
def WriteZ32 (data : Memory) (bp bw x y value : Nat) : Memory :=
  Z32.Write PageTableZ32 data bp bw x y value
def WriteZ24 (data : Memory) (bp bw x y value : Nat) : Memory :=
  Z24.Write PageTableZ32 data bp bw x y value
def WriteCT16 (data : Memory) (bp bw x y value : Nat) : Memory :=
  C16.Write PageTableC16 data bp bw x y value
def WriteCT16S (data : Memory) (bp bw x y value : Nat) : Memory :=
  C16S.Write PageTableC16S data bp bw x y value
def WriteZ16 (data : Memory) (bp bw x y value : Nat) : Memory :=
  Z16.Write PageTableZ16 data bp bw x y value
def WriteZ16S (data : Memory) (bp bw x y value : Nat) : Memory :=
  Z16S.Write PageTableZ16S data bp bw x y value
def WriteP8 (data : Memory) (bp bw x y value : Nat) : Memory :=
  P8.Write PageTableP8 data bp bw x y value
def WriteP8H (data : Memory) (bp bw x y value : Nat) : Memory :=
  P8H.Write PageTableC32 data bp bw x y value
def WriteP4 (data : Memory) (bp bw x y value : Nat) : Memory :=
  P4.Write PageTableP4 data bp bw x y value
def WriteP4HL (data : Memory) (bp bw x y value : Nat) : Memory :=
  P4HL.Write PageTableC32 data bp bw x y value
def WriteP4HH (data : Memory) (bp bw x y value : Nat) : Memory :=
  P4HH.Write PageTableC32 data bp bw x y value

def ReadCT32 (data : Memory) (bp bw x y : Nat) : Nat := C32.Read PageTableC32 data bp bw x y
def ReadZ32 (data : Memory) (bp bw x y : Nat) : Nat := Z32.Read PageTableZ32 data bp bw x y
def ReadCT24 (data : Memory) (bp bw x y : Nat) : Nat := C24.Read PageTableC32 data bp bw x y
def ReadZ24 (data : Memory) (bp bw x y : Nat) : Nat := Z24.Read PageTableZ32 data bp bw x y
def ReadCT16 (data : Memory) (bp bw x y : Nat) : Nat := C16.Read PageTableC16 data bp bw x y
def ReadCT16S (data : Memory) (bp bw x y : Nat) : Nat := C16S.Read PageTableC16S data bp bw x y
def ReadZ16 (data : Memory) (bp bw x y : Nat) : Nat := Z16.Read PageTableZ16 data bp bw x y
def ReadZ16S (data : Memory) (bp bw x y : Nat) : Nat := Z16S.Read PageTableZ16S data bp bw x y
def ReadP8 (data : Memory) (bp bw x y : Nat) : Nat := P8.Read PageTableP8 data bp bw x y
def ReadP8H (data : Memory) (bp bw x y : Nat) : Nat := P8H.Read PageTableC32 data bp bw x y
def ReadP4 (data : Memory) (bp bw x y : Nat) : Nat := P4.Read PageTableP4 data bp bw x y
def ReadP4HL (data : Memory) (bp bw x y : Nat) : Nat := P4HL.Read PageTableC32 data bp bw x y
def ReadP4HH (data : Memory) (bp bw x y : Nat) : Nat := P4HH.Read PageTableC32 data bp bw x y

def PixelStorageMode.write (psm : PixelStorageMode) :
    Memory → Nat → Nat → Nat → Nat → Nat → Memory :=
  match psm with
  | .C32 => WriteCT32
  | .C24 => WriteCT24
  | .C16 => WriteCT16
  | .C16S => WriteCT16S
  | .P8 => WriteP8
  | .P4 => WriteP4
  | .P8H => WriteP8H
  | .P4HL => WriteP4HL
  | .P4HH => WriteP4HH
  | .Z32 => WriteZ32
  | .Z24 => WriteZ24
  | .Z16 => WriteZ16
  | .Z16S => WriteZ16S

def PixelStorageMode.read (psm : PixelStorageMode) : Memory → Nat → Nat → Nat → Nat → Nat :=
  match psm with
  | .C32 => ReadCT32
  | .C24 => ReadCT24
  | .C16 => ReadCT16
  | .C16S => ReadCT16S
  | .P8 => ReadP8
  | .P4 => ReadP4
  | .P8H => ReadP8H
  | .P4HL => ReadP4HL
  | .P4HH => ReadP4HH
  | .Z32 => ReadZ32
  | .Z24 => ReadZ24
  | .Z16 => ReadZ16
  | .Z16S => ReadZ16S

end Ps2Recomp.GSMem
