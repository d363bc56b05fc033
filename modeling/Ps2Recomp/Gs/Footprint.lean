import Ps2Recomp.Gs.PageMask
import Ps2Recomp.Gs.PixelAddress

/-!
# Which pages a surface touches

Model of the page footprints of `ps2_gs_backend.cpp`: `gsVramPagesForSurfaceRect` for the rectangles
of transfers, and `addSurfaceRange` for the surfaces of a draw, which `describeResources` collects.

A page of 8 KiB is 2048 words. `page_cases` gives the page of a pixel up to the carry of a base block
inside a page; both footprints hold every page it can be.

The texture, mipmap and CLUT pages of `describeResources`, from `describeTextureResources` or a
cache, are parameters. The flags of `GsDrawResources` that compare the masks are left out.
-/

namespace Ps2Recomp

open GSMem

namespace GSMem.PixelStorageMode

/-- The number of the mode, `GSPsm`. -/
def value : PixelStorageMode → Nat
  | .C32 => 0
  | .C24 => 1
  | .C16 => 2
  | .C16S => 10
  | .P8 => 19
  | .P4 => 20
  | .P8H => 27
  | .P4HL => 36
  | .P4HH => 44
  | .Z32 => 48
  | .Z24 => 49
  | .Z16 => 50
  | .Z16S => 58

end GSMem.PixelStorageMode

/-! ## Footprints -/

structure PageGeometry where
  width : Nat
  height : Nat

def pageGeometry (psm : Nat) : Option PageGeometry :=
  match psm with
  | 0 | 1 | 48 | 49 | 27 | 36 | 44 => some ⟨64, 32⟩
  | 2 | 10 | 50 | 58 => some ⟨64, 64⟩
  | 19 => some ⟨128, 64⟩
  | 20 => some ⟨128, 128⟩
  | _ => none

def kGsBlockCount : Nat := GS_VRAM_PAGE_COUNT * 32

def addBlockRange (mask : GsVramPageMask) (startBlock blockCount : Nat) : GsVramPageMask :=
  if blockCount = 0 then mask
  else if blockCount ≥ kGsBlockCount then .setAll
  else
    let startBlock := startBlock % kGsBlockCount
    let firstPage := startBlock / 32
    let lastBlock := startBlock + blockCount - 1
    let pageCount := lastBlock / 32 - firstPage + 1
    mask.setRange firstPage pageCount

/-- `addSurfaceRange`: the mask, and whether the layout is known. -/
def addSurfaceRange (mask : GsVramPageMask) (baseBlock widthUnits psm maximumX maximumY : Nat) :
    GsVramPageMask × Bool :=
  match pageGeometry psm with
  | none => (.setAll, false)
  | some geometry =>
    let bufferWidth := max widthUnits 1 * 64
    let pagesPerRow := max ((bufferWidth + geometry.width - 1) / geometry.width) 1
    let maximumPage := maximumY / geometry.height * pagesPerRow + maximumX / geometry.width
    let blockCount := min ((maximumPage + 1) * 32) kGsBlockCount
    (addBlockRange mask baseBlock blockCount, true)

/-- The body of the inner loop of `gsVramPagesForSurfaceRect`. -/
def addPage (basePage baseBlockPhase rowStridePages pageY : Nat) (pages : GsVramPageMask)
    (pageX : Nat) : GsVramPageMask :=
  let physicalPage :=
    (basePage +
      pageY % GS_VRAM_PAGE_COUNT * (rowStridePages % GS_VRAM_PAGE_COUNT) + pageX) %
      GS_VRAM_PAGE_COUNT
  let pages := pages.set physicalPage
  if baseBlockPhase ≠ 0 then pages.set ((physicalPage + 1) % GS_VRAM_PAGE_COUNT) else pages

def gsVramPagesForSurfaceRect (bp bw psm x y width height : Nat) : GsVramPageMask :=
  if width = 0 ∨ height = 0 then {}
  else
    match pageGeometry psm with
    | none => .setAll
    | some geometry =>
      let lastX := x + width - 1
      let lastY := y + height - 1
      if lastX > 2 ^ 32 - 1 ∨ lastY > 2 ^ 32 - 1 then .setAll
      else
        let firstPageX := x / geometry.width
        let lastPageX := lastX / geometry.width
        let firstPageY := y / geometry.height
        let lastPageY := lastY / geometry.height
        let pageColumns := lastPageX - firstPageX + 1
        let pageRows := lastPageY - firstPageY + 1
        if pageColumns > GS_VRAM_PAGE_COUNT ∨ pageRows > GS_VRAM_PAGE_COUNT ∨
            pageColumns * pageRows > GS_VRAM_PAGE_COUNT then .setAll
        else
          let bp := bp % kGsBlockCount
          let basePage := bp / 32
          let baseBlockPhase := bp % 32
          let rowStridePages := bw * 64 / geometry.width
          (List.range' firstPageY pageRows).foldl (fun pages pageY =>
            (List.range' firstPageX pageColumns).foldl
              (addPage basePage baseBlockPhase rowStridePages pageY) pages) {}

/-! ## The page of a pixel -/

namespace GSMem.PixelStorageMode

variable (psm : PixelStorageMode) (bp bw x y : Nat)

theorem pageGeometry_value :
    pageGeometry psm.value = some ⟨psm.PageExtent.x, psm.PageExtent.y⟩ := by
  cases psm <;> rfl

/-- The page that the coordinates select, before it is wrapped to the memory. -/
def surfacePage : Nat :=
  bp / 32 + y / psm.PageExtent.y * (bw * 64 / psm.PageExtent.x) + x / psm.PageExtent.x

/-- The page of a pixel, from its address. -/
def pageOf : Nat := (psm.ResolvePixelAddress bp bw x y).word_index / 2048

/-- The width of a buffer in pages, modulo the memory, does not see the wrap of `bw * 64`. -/
theorem stride_mod : bw * 64 % 2 ^ 32 / psm.PageExtent.x % 512 =
    bw * 64 / psm.PageExtent.x % 512 := by
  cases psm <;> simp only [PageExtent] <;> omega

theorem PageId_mod : psm.PageId bp bw x y % 512 = psm.surfacePage bp bw x y % 512 := by
  have hrow : y / psm.PageExtent.y * (bw * 64 % 2 ^ 32 / psm.PageExtent.x) % 2 ^ 32 % 512 =
      y / psm.PageExtent.y * (bw * 64 / psm.PageExtent.x) % 512 := by
    rw [Nat.mod_mod_of_dvd _ (by decide), Nat.mul_mod, stride_mod, ← Nat.mul_mod]
  rw [PageId, surfacePage, blocksPerPage_eq]
  omega

/-- **The page of a pixel**, with the carry of the blocks from the base block on. -/
theorem pageOf_eq : psm.pageOf bp bw x y =
    (psm.surfacePage bp bw x y + (bp % 32 + psm.BlockId psm.blockTable x y) / 32) % 512 := by
  have hcolumn := psm.columnId_lt x y
  have hfield : psm.ColumnId psm.columnTable x y * psm.UnpackedBitWidth + psm.BitOffset <
      2 ^ 11 := by
    calc psm.ColumnId psm.columnTable x y * psm.UnpackedBitWidth + psm.BitOffset
        < psm.ColumnId psm.columnTable x y * psm.UnpackedBitWidth + psm.UnpackedBitWidth := by
          have hoffset : psm.BitOffset < psm.UnpackedBitWidth := by cases psm <;> decide
          omega
      _ = (psm.ColumnId psm.columnTable x y + 1) * psm.UnpackedBitWidth := by ring
      _ ≤ psm.PixelsPerBlock * psm.UnpackedBitWidth := Nat.mul_le_mul_right _ hcolumn
      _ = 2 ^ 11 := psm.bits_per_block
  have hpage := psm.PageId_mod bp bw x y
  rw [pageOf, ResolvePixelAddress_bits, bitAddress]
  dsimp only
  omega

/-- A pixel lies in the page its coordinates select or, if the base is not the start of a page, in
the next one. -/
theorem page_cases : psm.pageOf bp bw x y = psm.surfacePage bp bw x y % 512 ∨
    bp % 32 ≠ 0 ∧ psm.pageOf bp bw x y = (psm.surfacePage bp bw x y + 1) % 512 := by
  have hblock := psm.blockId_lt x y
  rw [pageOf_eq]
  omega

theorem pageOf_lt : psm.pageOf bp bw x y < GS_VRAM_PAGE_COUNT := by
  rw [pageOf_eq]
  exact Nat.mod_lt _ (by decide)

/-- The page of 8 KiB contains a bit of the pixel. -/
def Touches (page : Nat) : Prop :=
  ∃ i < (psm.ResolvePixelAddress bp bw x y).packed_bit_width,
    (32 * (psm.ResolvePixelAddress bp bw x y).word_index +
      (psm.ResolvePixelAddress bp bw x y).bit_shift + i) / (8 * 8192) = page

variable {psm bp bw x y} in
theorem Touches.eq {page : Nat} (h : psm.Touches bp bw x y page) : page = psm.pageOf bp bw x y := by
  obtain ⟨i, hi, rfl⟩ := h
  have hfield := psm.bit_shift_le bp bw x y
  rw [pageOf]
  omega

end GSMem.PixelStorageMode

/-! ## The rectangle of a transfer -/

theorem test_addPage {basePage phase stride pageY pageX q : Nat} {pages : GsVramPageMask} :
    (addPage basePage phase stride pageY pages pageX).test q = true ↔
      pages.test q = true ∨
        q = (basePage + pageY * stride + pageX) % 512 ∨
        phase ≠ 0 ∧ q = (basePage + pageY * stride + pageX + 1) % 512 := by
  have hpage : (basePage + pageY % GS_VRAM_PAGE_COUNT * (stride % GS_VRAM_PAGE_COUNT) + pageX) %
      GS_VRAM_PAGE_COUNT = (basePage + pageY * stride + pageX) % 512 := by
    have hmul := Nat.mul_mod pageY stride GS_VRAM_PAGE_COUNT
    unfold GS_VRAM_PAGE_COUNT at hmul ⊢
    omega
  have hlt : (basePage + pageY * stride + pageX) % 512 < GS_VRAM_PAGE_COUNT :=
    Nat.mod_lt _ (by decide)
  rw [addPage, hpage]
  split
  next hphase =>
    have hnext : ((basePage + pageY * stride + pageX) % 512 + 1) % GS_VRAM_PAGE_COUNT =
        (basePage + pageY * stride + pageX + 1) % 512 := by
      unfold GS_VRAM_PAGE_COUNT
      omega
    rw [GsVramPageMask.test_set, GsVramPageMask.test_set, hnext]
    simp only [Nat.mod_lt _ (show 0 < 512 by decide), hphase, GS_VRAM_PAGE_COUNT, and_true,
      ne_eq, not_false_eq_true, true_and, or_assoc]
  next hphase =>
    rw [GsVramPageMask.test_set]
    simp only [hlt, hphase, and_true, false_and, or_false]

/-- What one step of the inner loop adds. -/
def Adds (basePage phase stride q pageY pageX : Nat) : Prop :=
  q = (basePage + pageY * stride + pageX) % 512 ∨
    phase ≠ 0 ∧ q = (basePage + pageY * stride + pageX + 1) % 512

/-- The loops over a rectangle of pages add what their steps add. -/
theorem test_addPages {basePage phase stride q : Nat} (rows columns : List Nat) :
    (rows.foldl (fun pages pageY => columns.foldl (addPage basePage phase stride pageY) pages)
        {}).test q = true ↔
      ∃ pageY ∈ rows, ∃ pageX ∈ columns, Adds basePage phase stride q pageY pageX := by
  have hcolumns : ∀ (pages : GsVramPageMask) (pageY : Nat),
      (columns.foldl (addPage basePage phase stride pageY) pages).test q = true ↔
        pages.test q = true ∨ ∃ pageX ∈ columns, Adds basePage phase stride q pageY pageX :=
    fun pages pageY =>
      GsVramPageMask.test_foldl (Adds basePage phase stride q pageY) (fun _ _ => test_addPage)
        columns pages
  rw [GsVramPageMask.test_foldl _ hcolumns rows, GsVramPageMask.test_empty]
  exact or_iff_right Bool.false_ne_true

/-- **The footprint of a rectangle holds the page of each of its pixels.** -/
theorem pageOf_mem_surfaceRect (psm : PixelStorageMode) {bp bw x y width height i j : Nat}
    (hi : i < width) (hj : j < height) :
    (gsVramPagesForSurfaceRect bp bw psm.value x y width height).test
      (psm.pageOf bp bw ((x + i) % 2 ^ 32) ((y + j) % 2 ^ 32)) = true := by
  have hlt := psm.pageOf_lt bp bw ((x + i) % 2 ^ 32) ((y + j) % 2 ^ 32)
  unfold gsVramPagesForSurfaceRect
  rw [if_neg (by omega), psm.pageGeometry_value]
  dsimp only
  split
  · exact GsVramPageMask.test_setAll.2 hlt
  next hfits =>
    split
    · exact GsVramPageMask.test_setAll.2 hlt
    · have hxi : (x + i) % 2 ^ 32 = x + i := Nat.mod_eq_of_lt (by omega)
      have hyj : (y + j) % 2 ^ 32 = y + j := Nat.mod_eq_of_lt (by omega)
      rw [test_addPages, hxi, hyj]
      have hx : x / psm.PageExtent.x ≤ (x + i) / psm.PageExtent.x ∧
          (x + i) / psm.PageExtent.x ≤ (x + width - 1) / psm.PageExtent.x :=
        ⟨Nat.div_le_div_right (by omega), Nat.div_le_div_right (by omega)⟩
      have hy : y / psm.PageExtent.y ≤ (y + j) / psm.PageExtent.y ∧
          (y + j) / psm.PageExtent.y ≤ (y + height - 1) / psm.PageExtent.y :=
        ⟨Nat.div_le_div_right (by omega), Nat.div_le_div_right (by omega)⟩
      refine ⟨(y + j) / psm.PageExtent.y, List.mem_range'_1.2 (by omega),
        (x + i) / psm.PageExtent.x, List.mem_range'_1.2 (by omega), ?_⟩
      have hphase : bp % kGsBlockCount % 32 = bp % 32 := Nat.mod_mod_of_dvd _ (by decide)
      have hbase : bp % kGsBlockCount / 32 % 512 = bp / 32 % 512 := by
        unfold kGsBlockCount GS_VRAM_PAGE_COUNT
        omega
      have hpage := psm.page_cases bp bw (x + i) (y + j)
      rw [Adds, hphase]
      unfold PixelStorageMode.surfacePage at hpage
      omega

/-! ## The surface of a draw -/

theorem test_addBlockRange {mask : GsVramPageMask} {startBlock blockCount k : Nat}
    (hk : 32 * k < startBlock % 32 + blockCount) (hcount : 0 < blockCount) :
    (addBlockRange mask startBlock blockCount).test ((startBlock / 32 + k) % 512) = true := by
  unfold addBlockRange
  rw [if_neg hcount.ne']
  split
  · exact GsVramPageMask.test_setAll.2 (Nat.mod_lt _ (by decide))
  next hfew =>
    rw [GsVramPageMask.test_setRange]
    unfold kGsBlockCount GS_VRAM_PAGE_COUNT at hfew ⊢
    exact .inr ⟨k, by omega, by omega⟩

/-- The blocks of the pages up to `maximumPage` hold each of these pages and, if the base block is
inside a page, the one after it. -/
theorem test_pages_up_to {mask : GsVramPageMask} {baseBlock maximumPage page : Nat}
    (hpage : page ≤ maximumPage) :
    (addBlockRange mask baseBlock (min ((maximumPage + 1) * 32) kGsBlockCount)).test
        ((baseBlock / 32 + page) % 512) = true ∧
      (baseBlock % 32 ≠ 0 →
        (addBlockRange mask baseBlock (min ((maximumPage + 1) * 32) kGsBlockCount)).test
          ((baseBlock / 32 + page + 1) % 512) = true) := by
  have hblocks : kGsBlockCount = 16384 := rfl
  have hpos : 0 < min ((maximumPage + 1) * 32) kGsBlockCount := by omega
  -- If the range is cut off at the whole memory, a page is counted modulo the memory.
  constructor
  · have hk : 32 * (page % 512) < baseBlock % 32 + min ((maximumPage + 1) * 32) kGsBlockCount := by
      omega
    have htest := @test_addBlockRange mask _ _ _ hk hpos
    rwa [Nat.add_mod_mod] at htest
  · intro hphase
    have hk : 32 * ((page + 1) % 512) <
        baseBlock % 32 + min ((maximumPage + 1) * 32) kGsBlockCount := by omega
    have htest := @test_addBlockRange mask _ _ _ hk hpos
    rwa [Nat.add_mod_mod, ← Nat.add_assoc] at htest

/-- **The range of a surface holds the page of each pixel up to the maximum coordinates.** -/
theorem pageOf_mem_surfaceRange (psm : PixelStorageMode) {mask : GsVramPageMask}
    {baseBlock widthUnits maximumX maximumY x y : Nat} (hx : x ≤ maximumX) (hy : y ≤ maximumY) :
    (addSurfaceRange mask baseBlock widthUnits psm.value maximumX maximumY).1.test
      (psm.pageOf baseBlock widthUnits x y) = true := by
  -- The rows of the range are at least as wide as those of the buffer.
  have hstride : widthUnits * 64 / psm.PageExtent.x ≤
      max ((max widthUnits 1 * 64 + psm.PageExtent.x - 1) / psm.PageExtent.x) 1 := by
    have hextent : 0 < psm.PageExtent.x := by cases psm <;> decide
    exact le_max_of_le_left (Nat.div_le_div_right (by omega))
  have hpage : y / psm.PageExtent.y * (widthUnits * 64 / psm.PageExtent.x) +
      x / psm.PageExtent.x ≤
      maximumY / psm.PageExtent.y *
          max ((max widthUnits 1 * 64 + psm.PageExtent.x - 1) / psm.PageExtent.x) 1 +
        maximumX / psm.PageExtent.x :=
    Nat.add_le_add (Nat.mul_le_mul (Nat.div_le_div_right hy) hstride) (Nat.div_le_div_right hx)
  rw [addSurfaceRange, psm.pageGeometry_value]
  obtain ⟨hhere, hnext⟩ := @test_pages_up_to mask baseBlock _ _ hpage
  rcases psm.page_cases baseBlock widthUnits x y with hcase | ⟨hphase, hcase⟩
  · rw [hcase, PixelStorageMode.surfacePage, Nat.add_assoc]
    exact hhere
  · rw [hcase, PixelStorageMode.surfacePage, Nat.add_assoc (baseBlock / 32)]
    exact hnext hphase

/-! ## Draw commands -/

structure GSFrameReg where
  fbp : Nat
  fbw : Nat
  psm : Nat
  fbmsk : Nat

structure GSZbufReg where
  zbp : Nat
  psm : Nat
  zmask : Bool

/-- The fields of `GSContext` that `describeResources` reads. -/
structure GSContext where
  frame : GSFrameReg
  zbuf : GSZbufReg
  alpha : BitVec 64
  test : BitVec 64

/-- The fields of `GSPrimReg` that `describeResources` reads. -/
structure GSPrimReg where
  abe : Bool
  aa1 : Bool

/-- `GsDrawBounds`: the coordinates are `int32_t`. -/
structure GsDrawBounds where
  x0 : Int
  y0 : Int
  x1 : Int
  y1 : Int
  fits : x1 < 2 ^ 31 ∧ y1 < 2 ^ 31

def GsDrawBounds.empty (bounds : GsDrawBounds) : Bool :=
  bounds.x0 ≥ bounds.x1 || bounds.y0 ≥ bounds.y1

structure GsDrawResources where
  framebufferReadPages : GsVramPageMask := {}
  framebufferWritePages : GsVramPageMask := {}
  depthReadPages : GsVramPageMask := {}
  depthWritePages : GsVramPageMask := {}
  texturePages : GsVramPageMask := {}
  mipPages : GsVramPageMask := {}
  clutPages : GsVramPageMask := {}
  readPages : GsVramPageMask := {}
  writePages : GsVramPageMask := {}
  unknownMemoryLayout : Bool := false

def isSourceCopyAlphaBlend (primitive : GSPrimReg) (context : GSContext) : Bool :=
  if !primitive.abe then false
  else
    let a := context.alpha &&& 0x3
    let b := (context.alpha >>> 2) &&& 0x3
    let d := (context.alpha >>> 6) &&& 0x3
    a ≤ 2 && a = b && d = 0

/-- `framebufferReadModifyWrite`. -/
def framebufferReadModifyWrite (primitive : GSPrimReg) (context : GSContext) : Bool :=
  let alphaTestEnabled := context.test &&& 1 ≠ 0
  let preserveDestinationAlpha := alphaTestEnabled && (context.test >>> 12) &&& 0x3 = 3
  let destinationAlphaTest :=
    (context.test >>> 14) &&& 1 ≠ 0 && context.frame.psm ≠ PixelStorageMode.C24.value
  let alphaBlendReadsDestination := primitive.abe && !isSourceCopyAlphaBlend primitive context
  context.frame.psm = PixelStorageMode.C24.value || context.frame.fbmsk ≠ 0 ||
    alphaBlendReadsDestination || primitive.aa1 || destinationAlphaTest ||
    preserveDestinationAlpha

def depthRead (context : GSContext) : Bool :=
  let depthTestEnabled := (context.test >>> 16) &&& 1 ≠ 0
  let depthTestMethod := (context.test >>> 17) &&& 0x3
  depthTestEnabled && depthTestMethod ≥ 2

def depthWrite (context : GSContext) : Bool :=
  let depthTestEnabled := (context.test >>> 16) &&& 1 ≠ 0
  depthTestEnabled && !context.zbuf.zmask

/-- `describeResources`. `texture`, `mip` and `clut` are the masks of the texture, with whether
their layout is unknown. -/
def describeResources (primitive : GSPrimReg) (context : GSContext) (bounds : GsDrawBounds)
    (texture mip clut : GsVramPageMask) (unknownTextureLayout : Bool) : GsDrawResources :=
  if bounds.empty then {}
  else
    let maximumX := ((bounds.x1 - 1) % 2 ^ 32).toNat
    let maximumY := ((bounds.y1 - 1) % 2 ^ 32).toNat
    let framebufferBase := context.frame.fbp * 2 ^ 5 % 2 ^ 32
    let framebufferSurface :=
      addSurfaceRange {} framebufferBase context.frame.fbw context.frame.psm maximumX maximumY
    let depthSurface :=
      if depthRead context || depthWrite context then
        addSurfaceRange {} (context.zbuf.zbp * 2 ^ 5 % 2 ^ 32) context.frame.fbw context.zbuf.psm
          maximumX maximumY
      else ({}, true)
    let framebufferReadPages : GsVramPageMask :=
      if framebufferReadModifyWrite primitive context then framebufferSurface.1 else {}
    let depthReadPages : GsVramPageMask :=
      if depthRead context || (depthWrite context && context.zbuf.psm = PixelStorageMode.Z24.value)
      then depthSurface.1 else {}
    let depthWritePages : GsVramPageMask := if depthWrite context then depthSurface.1 else {}
    { framebufferReadPages := framebufferReadPages
      framebufferWritePages := framebufferSurface.1
      depthReadPages := depthReadPages
      depthWritePages := depthWritePages
      texturePages := texture
      mipPages := mip
      clutPages := clut
      readPages :=
        (((framebufferReadPages.unionWith depthReadPages).unionWith texture).unionWith mip).unionWith
          clut
      writePages := framebufferSurface.1.unionWith depthWritePages
      unknownMemoryLayout := !framebufferSurface.2 || !depthSurface.2 || unknownTextureLayout }

variable {primitive : GSPrimReg} {context : GSContext} {bounds : GsDrawBounds}
  {texture mip clut : GsVramPageMask} {unknownTextureLayout : Bool} {x y : Nat}

/-- A pixel inside the bounds. -/
def GsDrawBounds.Contains (bounds : GsDrawBounds) (x y : Nat) : Prop :=
  (bounds.x0 ≤ x ∧ x < bounds.x1) ∧ bounds.y0 ≤ y ∧ y < bounds.y1

theorem GsDrawBounds.Contains.le_maximum (h : bounds.Contains x y) :
    x ≤ ((bounds.x1 - 1) % 2 ^ 32).toNat ∧ y ≤ ((bounds.y1 - 1) % 2 ^ 32).toNat := by
  obtain ⟨hx, hy⟩ := bounds.fits
  obtain ⟨⟨-, hx1⟩, -, hy1⟩ := h
  omega

theorem GsDrawBounds.Contains.not_empty (h : bounds.Contains x y) : bounds.empty = false := by
  obtain ⟨⟨hx0, hx1⟩, hy0, hy1⟩ := h
  simp only [GsDrawBounds.empty, Bool.or_eq_false_iff, decide_eq_false_iff_not]
  omega

/-- The framebuffer masks hold the page of each pixel inside the bounds. -/
theorem framebuffer_mem_resources (psm : PixelStorageMode) (hpsm : context.frame.psm = psm.value)
    (h : bounds.Contains x y) :
    let resources :=
      describeResources primitive context bounds texture mip clut unknownTextureLayout
    let page := psm.pageOf (context.frame.fbp * 2 ^ 5 % 2 ^ 32) context.frame.fbw x y
    resources.framebufferWritePages.test page = true ∧ resources.writePages.test page = true ∧
      (framebufferReadModifyWrite primitive context = true →
        resources.framebufferReadPages.test page = true ∧
          resources.readPages.test page = true) := by
  have hmem := @pageOf_mem_surfaceRange psm {} (context.frame.fbp * 2 ^ 5 % 2 ^ 32)
    context.frame.fbw _ _ x y h.le_maximum.1 h.le_maximum.2
  rw [← hpsm] at hmem
  simp only [describeResources, h.not_empty, Bool.false_eq_true, if_false]
  refine ⟨hmem, GsVramPageMask.test_unionWith.2 (.inl hmem), fun hread => ?_⟩
  rw [if_pos hread]
  simp only [GsVramPageMask.test_unionWith, hmem, true_or, and_self]

/-- The depth masks hold the page of each pixel inside the bounds. -/
theorem depth_mem_resources (psm : PixelStorageMode) (hpsm : context.zbuf.psm = psm.value)
    (h : bounds.Contains x y) :
    let resources :=
      describeResources primitive context bounds texture mip clut unknownTextureLayout
    let page := psm.pageOf (context.zbuf.zbp * 2 ^ 5 % 2 ^ 32) context.frame.fbw x y
    (depthWrite context = true →
        resources.depthWritePages.test page = true ∧ resources.writePages.test page = true) ∧
      (depthRead context = true →
        resources.depthReadPages.test page = true ∧ resources.readPages.test page = true) := by
  have hmem := @pageOf_mem_surfaceRange psm {} (context.zbuf.zbp * 2 ^ 5 % 2 ^ 32)
    context.frame.fbw _ _ x y h.le_maximum.1 h.le_maximum.2
  rw [← hpsm] at hmem
  simp only [describeResources, h.not_empty, Bool.false_eq_true, if_false]
  refine ⟨fun hwrite => ?_, fun hread => ?_⟩
  · simp only [hwrite, Bool.or_true, if_true, GsVramPageMask.test_unionWith, hmem, or_true,
      and_self]
  · simp only [hread, Bool.true_or, if_true, GsVramPageMask.test_unionWith, hmem, or_true, true_or,
      and_self]

/-- **The footprints cover every access.** Every page that contains a bit of a pixel of a rectangle
is in the rectangle's mask; every page that contains a bit of a pixel up to the maximum coordinates
is in the surface's mask; so the masks of a draw hold the pages of all pixels inside its bounds that
it reads or writes. -/
theorem footprints_cover (psm : PixelStorageMode) (bp bw : Nat) :
    (∀ x y width height dx dy page, dx < width → dy < height →
        psm.Touches bp bw ((x + dx) % 2 ^ 32) ((y + dy) % 2 ^ 32) page →
        (gsVramPagesForSurfaceRect bp bw psm.value x y width height).test page = true) ∧
      (∀ mask maximumX maximumY x y page, x ≤ maximumX → y ≤ maximumY →
        psm.Touches bp bw x y page →
        (addSurfaceRange mask bp bw psm.value maximumX maximumY).1.test page = true) ∧
      ∀ (primitive : GSPrimReg) (context : GSContext) (bounds : GsDrawBounds)
        (texture mip clut : GsVramPageMask) (unknownTextureLayout : Bool) (x y page : Nat),
        bounds.Contains x y → psm.Touches bp bw x y page → context.frame.fbw = bw →
        let resources :=
          describeResources primitive context bounds texture mip clut unknownTextureLayout
        (context.frame.psm = psm.value → context.frame.fbp * 2 ^ 5 % 2 ^ 32 = bp →
          resources.framebufferWritePages.test page = true ∧
            resources.writePages.test page = true ∧
            (framebufferReadModifyWrite primitive context = true →
              resources.framebufferReadPages.test page = true ∧
                resources.readPages.test page = true)) ∧
        (context.zbuf.psm = psm.value → context.zbuf.zbp * 2 ^ 5 % 2 ^ 32 = bp →
          (depthWrite context = true →
            resources.depthWritePages.test page = true ∧
              resources.writePages.test page = true) ∧
          (depthRead context = true →
            resources.depthReadPages.test page = true ∧
              resources.readPages.test page = true)) := by
  refine ⟨?_, ?_, ?_⟩
  · intro x y width height dx dy page hdx hdy htouches
    rw [htouches.eq]
    exact pageOf_mem_surfaceRect psm hdx hdy
  · intro mask maximumX maximumY x y page hx hy htouches
    rw [htouches.eq]
    exact pageOf_mem_surfaceRange psm hx hy
  · intro primitive context bounds texture mip clut unknownTextureLayout x y page hcontains
      htouches hwidth
    refine ⟨fun hpsm hbase => ?_, fun hpsm hbase => ?_⟩
    · rw [htouches.eq, ← hbase, ← hwidth]
      exact framebuffer_mem_resources psm hpsm hcontains
    · rw [htouches.eq, ← hbase, ← hwidth]
      exact depth_mem_resources psm hpsm hcontains

/-- The last pixel of a 2 by 2 rectangle whose base block lies inside a page. -/
theorem footprints_cover_block :
    (gsVramPagesForSurfaceRect 5 1 PixelStorageMode.C32.value 62 30 2 2).test
      (PixelStorageMode.C32.pageOf 5 1 63 31) = true :=
  (footprints_cover .C32 5 1).1 62 30 2 2 1 1 _ (by decide) (by decide)
    ⟨0, by decide +kernel, by decide +kernel⟩

end Ps2Recomp
