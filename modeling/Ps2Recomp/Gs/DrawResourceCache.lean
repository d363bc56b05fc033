import Ps2Recomp.Gs.Footprint
import Ps2Recomp.Gs.State

/-!
# The draw-resource cache

Model of `GsDrawCommand::describeResources` and of `GsDrawResourceCache` (`ps2_gs_backend.cpp`). The
cache keeps the description of the last draw, under thirteen words packed from the state and the
extents of the two surfaces, and the texture masks of the last draw that computed them, under the
fields they depend on.

* A `GsDrawCommand` holds what a description reads; its sequence, vertices and fixed coordinates are
  left out. The fields of its registers have the widths of the source (`GsDrawCommand.Fits`), which
  is what makes the packing of a word injective (`or_shift_inj`).
* A surface mask depends on the bounds through the extent alone (`addSurfaceRange_eq`), so commands
  with one key have one description (`describe_eq_of_matches`).
* `Sound` says that what the cache holds belongs to its keys. Every call keeps it, so the cache
  returns the description of the very command after any calls at all (`describeView_of_run`).
-/

namespace Ps2Recomp.GsBackend

open GSMem (PixelStorageMode)
open Machine

/-- `GsDrawResources`, the flags included. -/
structure DrawResources extends GsDrawResources where
  readsDestination : Bool := false
  framebufferDepthAlias : Bool := false
  framebufferTextureAlias : Bool := false
  framebufferClutAlias : Bool := false

namespace GsDrawCommand

/-- The widths of the register fields in the source. -/
structure Fits (context : GS.GSContext) (texclut : GS.GSTexClutReg) : Prop where
  fbp : context.frame.fbp < 2 ^ 32
  fbw : context.frame.fbw < 2 ^ 32
  framePsm : context.frame.psm < 2 ^ 8
  fbmsk : context.frame.fbmsk < 2 ^ 32
  zbp : context.zbuf.zbp < 2 ^ 32
  zbufPsm : context.zbuf.psm < 2 ^ 8
  tbp0 : context.tex0.tbp0 < 2 ^ 32
  tbw : context.tex0.tbw < 2 ^ 8
  psm : context.tex0.psm < 2 ^ 8
  tw : context.tex0.tw < 2 ^ 8
  th : context.tex0.th < 2 ^ 8
  cbp : context.tex0.cbp < 2 ^ 32
  cpsm : context.tex0.cpsm < 2 ^ 8
  csm : context.tex0.csm < 2 ^ 8
  cbw : texclut.cbw < 2 ^ 8
  cou : texclut.cou < 2 ^ 8
  cov : texclut.cov < 2 ^ 16

end GsDrawCommand

/-- The members of `GsDrawCommand` that a description reads. -/
structure GsDrawCommand where
  primitive : GS.GSPrimReg
  context : GS.GSContext
  globalState : GS.GsDrawGlobalState
  bounds : GsDrawBounds
  fits : GsDrawCommand.Fits context globalState.texclut

/-! ## Textures -/

def maximumMipLevel (context : GS.GSContext) : Nat :=
  let minificationFilter := (context.tex1.toNat >>> 6) &&& 0x7
  if minificationFilter < 2 ∨ minificationFilter > 5 then 0
  else min ((context.tex1.toNat >>> 2) &&& 0x7) 6

/-- `mipSurface`: the base and the width. -/
def mipSurface (context : GS.GSContext) (level : Nat) : Nat × Nat :=
  if level = 0 then (context.tex0.tbp0, context.tex0.tbw)
  else
    let mipRegister := if level ≤ 3 then context.miptbp1.toNat else context.miptbp2.toNat
    let slot := (level - 1) % 3
    let shift := slot * 20
    ((mipRegister >>> shift) &&& 0x3FFF, (mipRegister >>> (shift + 14)) &&& 0x3F)

def maximumWrappedTextureCoordinate (textureSize mode regionMin regionMax : Nat) : Nat :=
  let size := if textureSize ≠ 0 then textureSize else 1
  let textureMask := size - 1
  match mode with
  | 2 => if regionMin > regionMax then regionMin else regionMax
  | 3 => regionMax ||| (regionMin &&& textureMask)
  | _ => textureMask

def isIndexedTexture (psm : Nat) : Bool :=
  psm = PixelStorageMode.P8.value || psm = PixelStorageMode.P4.value ||
    psm = PixelStorageMode.P8H.value || psm = PixelStorageMode.P4HL.value ||
    psm = PixelStorageMode.P4HH.value

/-- What `describeTextureResources` fills in. -/
structure TextureResources where
  texturePages : GsVramPageMask := {}
  mipPages : GsVramPageMask := {}
  clutPages : GsVramPageMask := {}
  unknownMemoryLayout : Bool := false

/-- The body of the loop of `describeTextureResources`. The register gives `tw` and `th` four bits,
so the shifts of `1u` stay below 32. -/
def addMipLevel (context : GS.GSContext) (resources : TextureResources) (level : Nat) :
    TextureResources :=
  let (base, width) := mipSurface context level
  let textureWidth := max 1 ((1 <<< context.tex0.tw) % 2 ^ 32 >>> level)
  let textureHeight := max 1 ((1 <<< context.tex0.th) % 2 ^ 32 >>> level)
  let clamp := context.clamp.toNat
  let maximumTextureX := maximumWrappedTextureCoordinate textureWidth (clamp &&& 0x3)
    (((clamp >>> 4) &&& 0x3FF) >>> level) (((clamp >>> 14) &&& 0x3FF) >>> level)
  let maximumTextureY := maximumWrappedTextureCoordinate textureHeight ((clamp >>> 2) &&& 0x3)
    (((clamp >>> 24) &&& 0x3FF) >>> level) (((clamp >>> 34) &&& 0x3FF) >>> level)
  let pages := if level = 0 then resources.texturePages else resources.mipPages
  let added := addSurfaceRange pages base width context.tex0.psm maximumTextureX maximumTextureY
  { resources with
    texturePages := if level = 0 then added.1 else resources.texturePages
    mipPages := if level = 0 then resources.mipPages else added.1
    unknownMemoryLayout := resources.unknownMemoryLayout || !added.2 }

/-- The end of `describeTextureResources`, for an indexed texture. -/
def addClut (context : GS.GSContext) (texclut : GS.GSTexClutReg) (resources : TextureResources) :
    TextureResources :=
  let fourBit := context.tex0.psm = PixelStorageMode.P4.value ∨
    context.tex0.psm = PixelStorageMode.P4HL.value ∨ context.tex0.psm = PixelStorageMode.P4HH.value
  let entryCount := if fourBit then 16 else 256
  let csm2 := context.tex0.csm ≠ 0
  let clutWidth := if csm2 ∧ texclut.cbw ≠ 0 then texclut.cbw else 1
  let maximumClutX := if csm2 then (texclut.cou <<< 4) + 15 else 15
  let maximumClutY := if csm2 then texclut.cov + ((entryCount - 1) >>> 4) else 15
  let added := addSurfaceRange resources.clutPages context.tex0.cbp clutWidth context.tex0.cpsm
    maximumClutX maximumClutY
  { resources with
    clutPages := added.1
    unknownMemoryLayout := resources.unknownMemoryLayout || !added.2 }

def describeTextureResources (primitive : GS.GSPrimReg) (context : GS.GSContext)
    (globalState : GS.GsDrawGlobalState) : TextureResources :=
  if !primitive.tme then {}
  else
    let resources := (List.range (maximumMipLevel context + 1)).foldl (addMipLevel context) {}
    if !isIndexedTexture context.tex0.psm then resources
    else addClut context globalState.texclut resources

/-! ## Draws -/

def withFlags (resources : GsDrawResources) : DrawResources where
  toGsDrawResources := resources
  readsDestination := resources.framebufferReadPages.intersects resources.framebufferWritePages
  framebufferDepthAlias :=
    resources.framebufferWritePages.intersects resources.depthReadPages ||
      resources.framebufferWritePages.intersects resources.depthWritePages
  framebufferTextureAlias :=
    resources.framebufferWritePages.intersects resources.texturePages ||
      resources.framebufferWritePages.intersects resources.mipPages
  framebufferClutAlias := resources.framebufferWritePages.intersects resources.clutPages

/-- The registers of a context that the surfaces of a draw take. -/
def surfaceContext (context : GS.GSContext) : GSContext where
  frame := ⟨context.frame.fbp, context.frame.fbw, context.frame.psm, context.frame.fbmsk⟩
  zbuf := ⟨context.zbuf.zbp, context.zbuf.psm, context.zbuf.zmask⟩
  alpha := context.alpha
  test := context.test

/-- `describeResources`, with the texture masks given. -/
def describeWith (primitive : GS.GSPrimReg) (context : GS.GSContext) (bounds : GsDrawBounds)
    (texture : TextureResources) : DrawResources :=
  if bounds.empty then {}
  else
    withFlags (describeResources ⟨primitive.abe, primitive.aa1⟩ (surfaceContext context) bounds
      texture.texturePages texture.mipPages texture.clutPages texture.unknownMemoryLayout)

namespace GsDrawCommand

variable (command : GsDrawCommand)

/-- The texture masks of the command. -/
def textureResources : TextureResources :=
  describeTextureResources command.primitive command.context command.globalState

/-- `GsDrawCommand::describeResources`. -/
def describeResources : DrawResources :=
  describeWith command.primitive command.context command.bounds command.textureResources

end GsDrawCommand

/-! ## Keys -/

def sameTextureResourceState (first second : GsDrawCommand) : Bool :=
  if first.primitive.tme ≠ second.primitive.tme then false
  else if !first.primitive.tme then true
  else
    let firstTex0 := first.context.tex0
    let secondTex0 := second.context.tex0
    let firstTexClut := first.globalState.texclut
    let secondTexClut := second.globalState.texclut
    firstTex0.tbp0 = secondTex0.tbp0 && firstTex0.tbw = secondTex0.tbw &&
      firstTex0.psm = secondTex0.psm && firstTex0.tw = secondTex0.tw &&
      firstTex0.th = secondTex0.th && firstTex0.cbp = secondTex0.cbp &&
      firstTex0.cpsm = secondTex0.cpsm && firstTex0.csm = secondTex0.csm &&
      first.context.tex1 = second.context.tex1 &&
      first.context.miptbp1 = second.context.miptbp1 &&
      first.context.miptbp2 = second.context.miptbp2 &&
      first.context.clamp = second.context.clamp &&
      firstTexClut.cbw = secondTexClut.cbw && firstTexClut.cou = secondTexClut.cou &&
      firstTexClut.cov = secondTexClut.cov

/-- The words that `resourceDescriptionState` packs and `matchesResourceDescriptionState` compares;
those from the seventh on only for a textured draw. -/
def descriptionWords (command : GsDrawCommand) : Fin 13 → Nat :=
  let primitive := command.primitive
  let context := command.context
  let tex0 := context.tex0
  let texclut := command.globalState.texclut
  ![primitive.tme.toNat ||| primitive.abe.toNat <<< 1 ||| primitive.aa1.toNat <<< 2,
    context.frame.fbp ||| context.frame.fbw <<< 32,
    context.frame.psm ||| context.frame.fbmsk <<< 8,
    context.zbuf.zbp ||| context.zbuf.psm <<< 32 ||| context.zbuf.zmask.toNat <<< 40,
    context.test.toNat,
    context.alpha.toNat,
    tex0.tbp0 ||| tex0.tbw <<< 32 ||| tex0.psm <<< 40 ||| tex0.tw <<< 48 ||| tex0.th <<< 56,
    tex0.cbp ||| tex0.cpsm <<< 32 ||| tex0.csm <<< 40,
    context.tex1.toNat,
    context.miptbp1.toNat,
    context.miptbp2.toNat,
    context.clamp.toNat,
    texclut.cbw ||| texclut.cou <<< 8 ||| texclut.cov <<< 16]

def resourceDescriptionState (command : GsDrawCommand) (i : Fin 13) : Nat :=
  if i < 6 ∨ command.primitive.tme then descriptionWords command i else 0

def matchesResourceDescriptionState (state : Fin 13 → Nat) (command : GsDrawCommand) : Bool :=
  if ∃ i < 6, state i ≠ descriptionWords command i then false
  else if !command.primitive.tme then true
  else ∀ i ≥ 6, state i = descriptionWords command i

def surfaceExtent (widthUnits psm maximumX maximumY : Nat) : Nat :=
  match pageGeometry psm with
  | none => kGsBlockCount
  | some geometry =>
    let bufferWidth := max widthUnits 1 * 64
    let pagesPerRow := max ((bufferWidth + geometry.width - 1) / geometry.width) 1
    let maximumPage := maximumY / geometry.height * pagesPerRow + maximumX / geometry.width
    min ((maximumPage + 1) * 32) kGsBlockCount

/-! ## The cache -/

structure GsDrawResourceCache where
  resourceState : Fin 13 → Nat := fun _ => 0
  resources : DrawResources := {}
  framebufferExtent : Nat := 0
  depthExtent : Nat := 0
  resourceStateValid : Bool := false
  textureState : Option GsDrawCommand := none
  texture : TextureResources := {}

namespace GsDrawCommand

variable (command : GsDrawCommand)

/-- `maximumX` of a description. -/
def maximumX : Nat := ((command.bounds.x1 - 1) % 2 ^ 32).toNat

/-- `maximumY` of a description. -/
def maximumY : Nat := ((command.bounds.y1 - 1) % 2 ^ 32).toNat

/-- `framebufferExtent` of `describeView`. -/
def framebufferExtent : Nat :=
  surfaceExtent command.context.frame.fbw command.context.frame.psm command.maximumX
    command.maximumY

/-- `depthExtent` of `describeView`. -/
def depthExtent : Nat :=
  surfaceExtent command.context.frame.fbw command.context.zbuf.psm command.maximumX
    command.maximumY

end GsDrawCommand

namespace GsDrawResourceCache

/-- The members that hold the texture masks, brought up to date with a command. -/
def refreshTexture (cache : GsDrawResourceCache) (command : GsDrawCommand) : GsDrawResourceCache :=
  if (cache.textureState.all fun state => !sameTextureResourceState state command) then
    { cache with texture := command.textureResources, textureState := some command }
  else cache

/-- `describeView`: the view it returns, as it is then, and the cache. -/
def describeView (cache : GsDrawResourceCache) (command : GsDrawCommand) :
    DrawResources × GsDrawResourceCache :=
  if command.bounds.empty then ({}, cache)
  else if cache.resourceStateValid && cache.framebufferExtent = command.framebufferExtent &&
      cache.depthExtent = command.depthExtent &&
      matchesResourceDescriptionState cache.resourceState command then (cache.resources, cache)
  else
    let refreshed := cache.refreshTexture command
    let resources :=
      describeWith command.primitive command.context command.bounds refreshed.texture
    (resources,
      { refreshed with
        resources := resources
        resourceState := resourceDescriptionState command
        framebufferExtent := command.framebufferExtent
        depthExtent := command.depthExtent
        resourceStateValid := true })

/-- `describe`. -/
def describe (cache : GsDrawResourceCache) (command : GsDrawCommand) :
    DrawResources × GsDrawResourceCache := cache.describeView command

/-- `reset`. -/
def reset (_ : GsDrawResourceCache) : GsDrawResourceCache := {}

/-- A call of a member of the cache. -/
inductive Call where
  | describeView (command : GsDrawCommand)
  | describe (command : GsDrawCommand)
  | reset

/-- The cache after a call. -/
def step (cache : GsDrawResourceCache) : Call → GsDrawResourceCache
  | .describeView command => (cache.describeView command).2
  | .describe command => (cache.describe command).2
  | .reset => cache.reset

end GsDrawResourceCache

/-! ## What the keys determine -/

theorem or_shift_eq {low high k : Nat} (h : low < 2 ^ k) :
    low ||| high <<< k = high * 2 ^ k + low := by
  rw [Nat.or_comm, ← Nat.shiftLeft_add_eq_or_of_lt h, Nat.shiftLeft_eq]

/-- **Packing is injective** if the lower field fits. -/
theorem or_shift_inj {low low' high high' k : Nat} (h : low < 2 ^ k) (h' : low' < 2 ^ k)
    (he : low ||| high <<< k = low' ||| high' <<< k) : low = low' ∧ high = high' := by
  rw [or_shift_eq h, or_shift_eq h'] at he
  have hlow := congrArg (· % 2 ^ k) he
  have hhigh := congrArg (· / 2 ^ k) he
  simp only [Nat.mul_add_mod_self_right, Nat.mod_eq_of_lt h, Nat.mod_eq_of_lt h'] at hlow
  have hpos : 0 < 2 ^ k := Nat.two_pow_pos k
  simp only [Nat.mul_comm _ (2 ^ k), Nat.mul_add_div hpos, Nat.div_eq_of_lt h,
    Nat.div_eq_of_lt h', Nat.add_zero] at hhigh
  exact ⟨hlow, hhigh⟩

theorem or_shift_lt {low high k w n : Nat} (h : low < 2 ^ k) (hw : high < 2 ^ w)
    (hn : k + w ≤ n) : low ||| high <<< k < 2 ^ n := by
  refine Nat.or_lt_two_pow (h.trans_le (Nat.pow_le_pow_right Nat.two_pos (by omega))) ?_
  rw [Nat.shiftLeft_eq]
  calc high * 2 ^ k < 2 ^ w * 2 ^ k := Nat.mul_lt_mul_of_pos_right hw (Nat.two_pow_pos k)
    _ = 2 ^ (k + w) := by rw [Nat.add_comm, Nat.pow_add]
    _ ≤ 2 ^ n := Nat.pow_le_pow_right Nat.two_pos hn

theorem toNat_inj {a b : Bool} (h : a.toNat = b.toNat) : a = b := by
  cases a <;> cases b <;> first | rfl | cases h

/-- A surface depends on the bounds through its extent. -/
theorem addSurfaceRange_eq (mask : GsVramPageMask) (base width psm x y : Nat) :
    addSurfaceRange mask base width psm x y =
      if (pageGeometry psm).isSome then
        (addBlockRange mask base (surfaceExtent width psm x y), true)
      else (.setAll, false) := by
  unfold addSurfaceRange surfaceExtent
  cases pageGeometry psm <;> rfl

/-- The commands agree on what their surfaces take. -/
structure SameSurfaces (a b : GsDrawCommand) : Prop where
  abe : a.primitive.abe = b.primitive.abe
  aa1 : a.primitive.aa1 = b.primitive.aa1
  context : surfaceContext a.context = surfaceContext b.context

/-- The commands agree on what their texture masks take. -/
structure SameTexture (a b : GsDrawCommand) : Prop where
  tbp0 : a.context.tex0.tbp0 = b.context.tex0.tbp0
  tbw : a.context.tex0.tbw = b.context.tex0.tbw
  psm : a.context.tex0.psm = b.context.tex0.psm
  tw : a.context.tex0.tw = b.context.tex0.tw
  th : a.context.tex0.th = b.context.tex0.th
  cbp : a.context.tex0.cbp = b.context.tex0.cbp
  cpsm : a.context.tex0.cpsm = b.context.tex0.cpsm
  csm : a.context.tex0.csm = b.context.tex0.csm
  tex1 : a.context.tex1 = b.context.tex1
  miptbp1 : a.context.miptbp1 = b.context.miptbp1
  miptbp2 : a.context.miptbp2 = b.context.miptbp2
  clamp : a.context.clamp = b.context.clamp
  cbw : a.globalState.texclut.cbw = b.globalState.texclut.cbw
  cou : a.globalState.texclut.cou = b.globalState.texclut.cou
  cov : a.globalState.texclut.cov = b.globalState.texclut.cov

variable {a b : GsDrawCommand}

theorem SameTexture.mipSurface (h : SameTexture a b) :
    mipSurface a.context = mipSurface b.context := by
  funext level
  simp only [GsBackend.mipSurface, h.tbp0, h.tbw, h.miptbp1, h.miptbp2]

theorem SameTexture.addMipLevel (h : SameTexture a b) :
    addMipLevel a.context = addMipLevel b.context := by
  funext resources level
  simp only [GsBackend.addMipLevel, h.mipSurface, h.psm, h.tw, h.th, h.clamp]

theorem SameTexture.addClut (h : SameTexture a b) (resources : TextureResources) :
    addClut a.context a.globalState.texclut resources =
      addClut b.context b.globalState.texclut resources := by
  simp only [GsBackend.addClut, h.psm, h.csm, h.cbw, h.cou, h.cov, h.cbp, h.cpsm]

/-- The texture masks of an untextured draw are empty; those of a textured one depend on its texture
fields. -/
theorem textureResources_eq (htme : a.primitive.tme = b.primitive.tme)
    (h : b.primitive.tme = true → SameTexture a b) : a.textureResources = b.textureResources := by
  unfold GsDrawCommand.textureResources describeTextureResources
  rw [htme]
  cases hb : b.primitive.tme with
  | false => rfl
  | true =>
    have hsame := h hb
    have hlevels : maximumMipLevel a.context = maximumMipLevel b.context := by
      simp only [maximumMipLevel, hsame.tex1]
    simp only [hlevels, hsame.addMipLevel, hsame.psm, hsame.addClut]

theorem textureResources_of_same (h : sameTextureResourceState a b = true) :
    a.textureResources = b.textureResources := by
  unfold sameTextureResourceState at h
  split at h
  · cases h
  rename_i htme
  rw [not_ne_iff] at htme
  refine textureResources_eq htme fun hb => ?_
  split at h
  · rename_i ha
    rw [htme, hb] at ha
    cases ha
  · simp only [Bool.and_eq_true, decide_eq_true_eq, and_assoc] at h
    obtain ⟨h1, h2, h3, h4, h5, h6, h7, h8, h9, h10, h11, h12, h13, h14, h15⟩ := h
    exact ⟨h1, h2, h3, h4, h5, h6, h7, h8, h9, h10, h11, h12, h13, h14, h15⟩

theorem same_of_words (h : ∀ i < 6, descriptionWords a i = descriptionWords b i) :
    a.primitive.tme = b.primitive.tme ∧ SameSurfaces a b := by
  have hbool : ∀ c : Bool, c.toNat < 2 ^ 1 := fun c => by cases c <;> decide
  have h0 : a.primitive.tme.toNat ||| a.primitive.abe.toNat <<< 1 ||| a.primitive.aa1.toNat <<< 2 =
      b.primitive.tme.toNat ||| b.primitive.abe.toNat <<< 1 ||| b.primitive.aa1.toNat <<< 2 :=
    h 0 (by decide)
  have h1 : a.context.frame.fbp ||| a.context.frame.fbw <<< 32 =
      b.context.frame.fbp ||| b.context.frame.fbw <<< 32 := h 1 (by decide)
  have h2 : a.context.frame.psm ||| a.context.frame.fbmsk <<< 8 =
      b.context.frame.psm ||| b.context.frame.fbmsk <<< 8 := h 2 (by decide)
  have h3 : a.context.zbuf.zbp ||| a.context.zbuf.psm <<< 32 ||| a.context.zbuf.zmask.toNat <<< 40 =
      b.context.zbuf.zbp ||| b.context.zbuf.psm <<< 32 ||| b.context.zbuf.zmask.toNat <<< 40 :=
    h 3 (by decide)
  have h4 : a.context.test.toNat = b.context.test.toNat := h 4 (by decide)
  have h5 : a.context.alpha.toNat = b.context.alpha.toNat := h 5 (by decide)
  obtain ⟨hflags, haa1⟩ := or_shift_inj (or_shift_lt (hbool _) (hbool _) le_rfl)
    (or_shift_lt (hbool _) (hbool _) le_rfl) h0
  obtain ⟨htme, habe⟩ := or_shift_inj (hbool _) (hbool _) hflags
  obtain ⟨hfbp, hfbw⟩ := or_shift_inj a.fits.fbp b.fits.fbp h1
  obtain ⟨hpsm, hfbmsk⟩ := or_shift_inj a.fits.framePsm b.fits.framePsm h2
  obtain ⟨hz, hzmask⟩ := or_shift_inj (or_shift_lt a.fits.zbp a.fits.zbufPsm le_rfl)
    (or_shift_lt b.fits.zbp b.fits.zbufPsm le_rfl) h3
  obtain ⟨hzbp, hzpsm⟩ := or_shift_inj a.fits.zbp b.fits.zbp hz
  refine ⟨toNat_inj htme, toNat_inj habe, toNat_inj haa1, ?_⟩
  simp only [surfaceContext, hfbp, hfbw, hpsm, hfbmsk, hzbp, hzpsm, toNat_inj hzmask,
    BitVec.eq_of_toNat_eq h4, BitVec.eq_of_toNat_eq h5]

theorem sameTexture_of_words (h : ∀ i ≥ 6, descriptionWords a i = descriptionWords b i) :
    SameTexture a b := by
  have h6 : a.context.tex0.tbp0 ||| a.context.tex0.tbw <<< 32 ||| a.context.tex0.psm <<< 40 |||
        a.context.tex0.tw <<< 48 ||| a.context.tex0.th <<< 56 =
      b.context.tex0.tbp0 ||| b.context.tex0.tbw <<< 32 ||| b.context.tex0.psm <<< 40 |||
        b.context.tex0.tw <<< 48 ||| b.context.tex0.th <<< 56 := h 6 (by decide)
  have h7 : a.context.tex0.cbp ||| a.context.tex0.cpsm <<< 32 ||| a.context.tex0.csm <<< 40 =
      b.context.tex0.cbp ||| b.context.tex0.cpsm <<< 32 ||| b.context.tex0.csm <<< 40 :=
    h 7 (by decide)
  have h12 : a.globalState.texclut.cbw ||| a.globalState.texclut.cou <<< 8 |||
        a.globalState.texclut.cov <<< 16 =
      b.globalState.texclut.cbw ||| b.globalState.texclut.cou <<< 8 |||
        b.globalState.texclut.cov <<< 16 := h 12 (by decide)
  have hbase : ∀ c : GsDrawCommand, c.context.tex0.tbp0 ||| c.context.tex0.tbw <<< 32 < 2 ^ 40 :=
    fun c => or_shift_lt c.fits.tbp0 c.fits.tbw le_rfl
  have hformat : ∀ c : GsDrawCommand, c.context.tex0.tbp0 ||| c.context.tex0.tbw <<< 32 |||
      c.context.tex0.psm <<< 40 < 2 ^ 48 := fun c => or_shift_lt (hbase c) c.fits.psm le_rfl
  have hwidth : ∀ c : GsDrawCommand, c.context.tex0.tbp0 ||| c.context.tex0.tbw <<< 32 |||
      c.context.tex0.psm <<< 40 ||| c.context.tex0.tw <<< 48 < 2 ^ 56 :=
    fun c => or_shift_lt (hformat c) c.fits.tw le_rfl
  obtain ⟨h6, hth⟩ := or_shift_inj (hwidth a) (hwidth b) h6
  obtain ⟨h6, htw⟩ := or_shift_inj (hformat a) (hformat b) h6
  obtain ⟨h6, hpsm⟩ := or_shift_inj (hbase a) (hbase b) h6
  obtain ⟨htbp0, htbw⟩ := or_shift_inj a.fits.tbp0 b.fits.tbp0 h6
  obtain ⟨h7, hcsm⟩ := or_shift_inj (or_shift_lt a.fits.cbp a.fits.cpsm le_rfl)
    (or_shift_lt b.fits.cbp b.fits.cpsm le_rfl) h7
  obtain ⟨hcbp, hcpsm⟩ := or_shift_inj a.fits.cbp b.fits.cbp h7
  obtain ⟨h12, hcov⟩ := or_shift_inj (or_shift_lt a.fits.cbw a.fits.cou le_rfl)
    (or_shift_lt b.fits.cbw b.fits.cou le_rfl) h12
  obtain ⟨hcbw, hcou⟩ := or_shift_inj a.fits.cbw b.fits.cbw h12
  have hword : ∀ {x y : BitVec 64}, x.toNat = y.toNat → x = y := BitVec.eq_of_toNat_eq
  exact ⟨htbp0, htbw, hpsm, htw, hth, hcbp, hcpsm, hcsm, hword (h 8 (by decide)),
    hword (h 9 (by decide)), hword (h 10 (by decide)), hword (h 11 (by decide)), hcbw, hcou, hcov⟩

/-- Descriptions of draws with the same surface state, extents and texture masks. -/
theorem describeWith_eq (h : SameSurfaces a b) (ha : a.bounds.empty = false)
    (hb : b.bounds.empty = false) (hframebuffer : a.framebufferExtent = b.framebufferExtent)
    (hdepth : a.depthExtent = b.depthExtent) (texture : TextureResources) :
    describeWith a.primitive a.context a.bounds texture =
      describeWith b.primitive b.context b.bounds texture := by
  have hframe : (surfaceContext a.context).frame = (surfaceContext b.context).frame :=
    congrArg GSContext.frame h.context
  have hzbuf : (surfaceContext a.context).zbuf = (surfaceContext b.context).zbuf :=
    congrArg GSContext.zbuf h.context
  have hfb : ∀ base, addSurfaceRange {} base (surfaceContext a.context).frame.fbw
        (surfaceContext a.context).frame.psm a.maximumX a.maximumY =
      addSurfaceRange {} base (surfaceContext b.context).frame.fbw
        (surfaceContext b.context).frame.psm b.maximumX b.maximumY := by
    intro base
    rw [addSurfaceRange_eq, addSurfaceRange_eq, ← hframe]
    have hextent : surfaceExtent (surfaceContext a.context).frame.fbw
          (surfaceContext a.context).frame.psm a.maximumX a.maximumY =
        surfaceExtent (surfaceContext a.context).frame.fbw (surfaceContext a.context).frame.psm
          b.maximumX b.maximumY := by
      conv_rhs => rw [hframe]
      exact hframebuffer
    rw [hextent]
  have hz : ∀ base, addSurfaceRange {} base (surfaceContext a.context).frame.fbw
        (surfaceContext a.context).zbuf.psm a.maximumX a.maximumY =
      addSurfaceRange {} base (surfaceContext b.context).frame.fbw
        (surfaceContext b.context).zbuf.psm b.maximumX b.maximumY := by
    intro base
    rw [addSurfaceRange_eq, addSurfaceRange_eq, ← hframe, ← hzbuf]
    have hextent : surfaceExtent (surfaceContext a.context).frame.fbw
          (surfaceContext a.context).zbuf.psm a.maximumX a.maximumY =
        surfaceExtent (surfaceContext a.context).frame.fbw (surfaceContext a.context).zbuf.psm
          b.maximumX b.maximumY := by
      conv_rhs => rw [hframe, hzbuf]
      exact hdepth
    rw [hextent]
  unfold describeWith describeResources
  unfold GsDrawCommand.maximumX GsDrawCommand.maximumY at hfb hz
  rw [ha, hb]
  simp only [Bool.false_eq_true, if_false]
  rw [hfb, hz, h.context, h.abe, h.aa1]

/-- **Draws with one key have one description.** -/
theorem describe_eq_of_matches (ha : a.bounds.empty = false) (hb : b.bounds.empty = false)
    (hframebuffer : a.framebufferExtent = b.framebufferExtent)
    (hdepth : a.depthExtent = b.depthExtent)
    (hmatches : matchesResourceDescriptionState (resourceDescriptionState a) b = true) :
    a.describeResources = b.describeResources := by
  unfold matchesResourceDescriptionState at hmatches
  split at hmatches
  · cases hmatches
  rename_i hwords
  have hfirst : ∀ i < 6, descriptionWords a i = descriptionWords b i := by
    intro i hi
    by_contra hne
    refine hwords ⟨i, hi, ?_⟩
    rwa [resourceDescriptionState, if_pos (.inl hi)]
  obtain ⟨htme, hsurfaces⟩ := same_of_words hfirst
  have htexture : a.textureResources = b.textureResources := by
    refine textureResources_eq htme fun htb => sameTexture_of_words fun i hi => ?_
    rw [htb] at hmatches
    have hall := hmatches
    simp only [Bool.not_true, Bool.false_eq_true, if_false, decide_eq_true_eq] at hall
    have hword := hall i hi
    rwa [resourceDescriptionState, if_pos (.inr (htme.trans htb))] at hword
  unfold GsDrawCommand.describeResources
  rw [htexture]
  exact describeWith_eq hsurfaces ha hb hframebuffer hdepth _

/-! ## The cache is transparent -/

namespace GsDrawResourceCache

/-- What the cache holds belongs to its keys. -/
structure Sound (cache : GsDrawResourceCache) : Prop where
  texture : ∀ command, cache.textureState = some command →
    cache.texture = command.textureResources
  resources : cache.resourceStateValid = true → ∃ command : GsDrawCommand,
    command.bounds.empty = false ∧ cache.resourceState = resourceDescriptionState command ∧
      cache.framebufferExtent = command.framebufferExtent ∧
      cache.depthExtent = command.depthExtent ∧ cache.resources = command.describeResources

theorem sound_empty : Sound {} where
  texture _ h := absurd h (Option.some_ne_none _).symm
  resources h := absurd h Bool.false_ne_true

variable {cache : GsDrawResourceCache}

theorem Sound.refreshTexture (h : Sound cache) (command : GsDrawCommand) :
    (cache.refreshTexture command).texture = command.textureResources ∧
      ∀ c, (cache.refreshTexture command).textureState = some c →
        (cache.refreshTexture command).texture = c.textureResources := by
  unfold GsDrawResourceCache.refreshTexture
  split
  · refine ⟨rfl, fun c hc => ?_⟩
    cases hc
    rfl
  · rename_i hsame
    refine ⟨?_, h.texture⟩
    cases hstate : cache.textureState with
    | none =>
      rw [hstate] at hsame
      exact absurd rfl hsame
    | some state =>
      rw [hstate] at hsame
      rw [h.texture state hstate]
      refine textureResources_of_same ?_
      simpa using hsame

/-- A call returns the description, and keeps the cache sound. -/
theorem Sound.describeView (h : Sound cache) (command : GsDrawCommand) :
    (cache.describeView command).1 = command.describeResources ∧
      Sound (cache.describeView command).2 := by
  unfold GsDrawResourceCache.describeView
  by_cases hempty : command.bounds.empty = true
  · rw [if_pos hempty]
    refine ⟨?_, h⟩
    unfold GsDrawCommand.describeResources describeWith
    rw [if_pos hempty]
  rw [if_neg hempty]
  rw [Bool.not_eq_true] at hempty
  split
  · rename_i hhit
    simp only [Bool.and_eq_true, decide_eq_true_eq] at hhit
    obtain ⟨⟨⟨hvalid, hframebuffer⟩, hdepth⟩, hmatches⟩ := hhit
    obtain ⟨last, hlast, hstate, hlastFb, hlastDepth, hresources⟩ := h.resources hvalid
    refine ⟨?_, h⟩
    rw [hstate] at hmatches
    rw [hresources]
    exact describe_eq_of_matches hlast hempty (hlastFb.symm.trans hframebuffer)
      (hlastDepth.symm.trans hdepth) hmatches
  · obtain ⟨htexture, hkept⟩ := h.refreshTexture command
    simp only
    rw [htexture]
    refine ⟨rfl, fun c hc => ?_, fun _ => ⟨command, hempty, rfl, rfl, rfl, rfl⟩⟩
    exact htexture ▸ hkept c hc

theorem sound_step (cache : GsDrawResourceCache) (call : Call) (h : Sound cache) :
    Sound (cache.step call) := by
  cases call with
  | describeView command | describe command => exact (h.describeView command).2
  | reset => exact sound_empty

/-- **After any calls the cache returns the description of the command it is given.** -/
theorem describeView_of_run (calls : List Call) (command : GsDrawCommand) :
    ((run step {} calls).describeView command).1 = command.describeResources ∧
      ((run step {} calls).describe command).1 = command.describeResources := by
  have halong : Along step (fun _ _ => True) {} calls := along_of_forall fun _ _ _ => trivial
  have hsound : Sound (run step {} calls) :=
    invariant (fun cache call h _ => sound_step cache call h) sound_empty halong
  exact ⟨(hsound.describeView command).1, (hsound.describeView command).1⟩

end GsDrawResourceCache

end Ps2Recomp.GsBackend
