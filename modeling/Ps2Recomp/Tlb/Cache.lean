import Ps2Recomp.Tlb.Translation
import Ps2Recomp.Timing
import Mathlib.Logic.Function.Basic
import Ps2Recomp.Lib.FiniteIndices

/-!
# The TLB caches (`ps2_memory.cpp`)

Two caches stand before the walk: the backing cache of 32 sets of 4 ways, and the fast cache of 512
lines, which the inline accessors consult through `tryResolveCachedTlbRdramOffset`. Their lines hold
4 KiB pages of RDRAM and carry the generation of the mapping they were filled in. The key of a fast
line packs page, ASID, mode and permission into one word, and its mask drops the bits that the line
does not depend on.

Statistics and the instruction-fetch page cache are left out; no translation reads them.
-/

namespace Ps2Recomp

structure EeTlbTranslationCacheEntry where
  generation : ℕ := 0
  virtualPageBase : BitVec 32 := 0
  physicalPageBase : BitVec 32 := 0
  tlbPageSize : BitVec 32 := 0
  asid : BitVec 8 := 0
  mode : EeAddressSpaceMode := .Kernel
  enforceOperatingMode : Bool := false
  errorLevel : Bool := false
  valid : Bool := false
  global : Bool := false
  writable : Bool := false
  scratchpad : Bool := false
  deriving DecidableEq, Repr

structure EeTlbFastCacheEntry where
  generation : ℕ := 0
  key : BitVec 64 := 0
  matchMask : BitVec 64 := 0
  physicalPageBase : BitVec 32 := 0
  deriving DecidableEq, Repr

/-- The part of `PS2Memory` that translations read and write. -/
structure TlbState where
  tlbEntries : List EeTlbEntry := []
  tlbMappingGeneration : ℕ := 1
  tlbTranslationCacheEnabled : Bool := true
  tlbTranslationCache : Fin 32 × Fin 4 → EeTlbTranslationCacheEntry := fun _ => {}
  tlbTranslationCacheNextWay : Fin 32 → Fin 4 := fun _ => 0
  tlbFastCache : Fin 512 → EeTlbFastCacheEntry := fun _ => {}

def pageOffset (virtualAddress : BitVec 32) : BitVec 32 := virtualAddress &&& 0xFFF#32

def pageBase (virtualAddress : BitVec 32) : BitVec 32 := virtualAddress &&& ~~~0xFFF#32

/-- `static_cast<uint64_t>(mode)`. -/
def EeAddressSpaceMode.bits : EeAddressSpaceMode → BitVec 64
  | .Kernel => 0
  | .Supervisor => 1
  | .User => 2
  | .Reserved => 3

def boolBit (b : Bool) : BitVec 64 := (BitVec.ofBool b).setWidth 64

def makeTlbFastCacheKey (virtualAddress : BitVec 32) (translation : EeAddressTranslationContext)
    (writeAccess : Bool) : BitVec 64 :=
  (pageBase virtualAddress).setWidth 64 |||
  translation.asid.setWidth 64 |||
  translation.mode.bits <<< 8 |||
  boolBit translation.enforceOperatingMode <<< 10 |||
  boolBit translation.errorLevel <<< 11 |||
  boolBit writeAccess <<< 32

/-- `virtualAddress >> 12 & (count - 1)`. -/
def fastSetIndex (virtualAddress : BitVec 32) : Fin 512 :=
  Fin.ofNat 512 (virtualAddress >>> 12).toNat

def backingSetIndex (virtualAddress : BitVec 32) : Fin 32 :=
  Fin.ofNat 32 (virtualAddress >>> 12).toNat

/-- The accesses the caches answer: a supported size, permitted, inside one page, aligned. -/
def cacheableAccess (virtualAddress : BitVec 32) (translation : EeAddressTranslationContext)
    (accessSize : BitVec 32) : Bool :=
  (accessSize ≠ 0#32 && accessSize ≤ 16#32 && accessSize &&& (accessSize - 1#32) == 0#32) &&
  translation.permits virtualAddress &&
  accessSize ≤ 0x1000#32 - pageOffset virtualAddress &&
  virtualAddress &&& (accessSize - 1#32) == 0#32

namespace EeTlbFastCacheEntry

def keyMatches (entry : EeTlbFastCacheEntry) (requestKey : BitVec 64) : Bool :=
  (requestKey ^^^ entry.key) &&& entry.matchMask == 0#64

end EeTlbFastCacheEntry

namespace TlbState

def tryResolveCachedTlbRdramOffset (s : TlbState) (virtualAddress : BitVec 32)
    (translation : EeAddressTranslationContext) (writeAccess : Bool) (accessSize : BitVec 32) :
    Option (BitVec 32) :=
  if !s.tlbTranslationCacheEnabled then none
  else if !cacheableAccess virtualAddress translation accessSize then none
  else
    let entry := s.tlbFastCache (fastSetIndex virtualAddress)
    let resolved := entry.physicalPageBase + pageOffset virtualAddress
    if entry.generation == s.tlbMappingGeneration &&
        entry.keyMatches (makeTlbFastCacheKey virtualAddress translation writeAccess) &&
        resolved ≤ ps2RamSize - accessSize then
      some resolved
    else none

/-! ## Filling -/

/-- The line `fillTlbFastCache` writes. -/
def fastLine (s : TlbState) (virtualPageBase physicalPageBase : BitVec 32)
    (translation : EeAddressTranslationContext) (global writable : Bool) : EeTlbFastCacheEntry where
  generation := s.tlbMappingGeneration
  key := makeTlbFastCacheKey virtualPageBase translation false
  matchMask :=
    (if global then ~~~0xff#64 else BitVec.allOnes 64) &&&
      (if writable then ~~~(1#64 <<< 32) else BitVec.allOnes 64)
  physicalPageBase := physicalPageBase

def fillTlbFastCache (s : TlbState) (virtualPageBase physicalPageBase : BitVec 32)
    (translation : EeAddressTranslationContext) (global writable : Bool) : TlbState :=
  let setIndex := fastSetIndex virtualPageBase
  let line := s.fastLine virtualPageBase physicalPageBase translation global writable
  if s.tlbFastCache setIndex = line then s
  else { s with tlbFastCache := Function.update s.tlbFastCache setIndex line }

end TlbState

namespace EeTlbTranslationCacheEntry

/-- The first test of the lookup loop. -/
def tagMatches (entry : EeTlbTranslationCacheEntry) (base : BitVec 32)
    (translation : EeAddressTranslationContext) : Bool :=
  entry.valid && !entry.scratchpad && entry.virtualPageBase == base &&
  entry.mode == translation.mode &&
  entry.enforceOperatingMode == translation.enforceOperatingMode &&
  entry.errorLevel == translation.errorLevel &&
  (entry.global || entry.asid == translation.asid)

/-- The tests of the lookup loop. -/
def hits (entry : EeTlbTranslationCacheEntry) (generation : ℕ) (virtualAddress : BitVec 32)
    (translation : EeAddressTranslationContext) (writeAccess : Bool) (accessSize : BitVec 32) :
    Bool :=
  entry.tagMatches (pageBase virtualAddress) translation &&
  entry.generation == generation &&
  (!writeAccess || entry.writable) &&
  entry.physicalPageBase + pageOffset virtualAddress ≤ ps2RamSize - accessSize

def sameAddressSpace (entry : EeTlbTranslationCacheEntry) (generation : ℕ) (base : BitVec 32)
    (translation : EeAddressTranslationContext) (global : Bool) : Bool :=
  entry.valid && entry.generation == generation && entry.virtualPageBase == base &&
  entry.mode == translation.mode &&
  entry.enforceOperatingMode == translation.enforceOperatingMode &&
  entry.errorLevel == translation.errorLevel &&
  entry.global == global &&
  (global || entry.asid == translation.asid)

end EeTlbTranslationCacheEntry

namespace TlbState

/-- The line of the backing cache that answers, if one does. -/
def lookupLine (s : TlbState) (virtualAddress : BitVec 32)
    (translation : EeAddressTranslationContext) (writeAccess : Bool) (accessSize : BitVec 32) :
    Option EeTlbTranslationCacheEntry :=
  if !s.tlbTranslationCacheEnabled then none
  else if !cacheableAccess virtualAddress translation accessSize then none
  else
    ((List.finRange 4).map fun way =>
        s.tlbTranslationCache (backingSetIndex virtualAddress, way)).find? fun entry =>
      entry.hits s.tlbMappingGeneration virtualAddress translation writeAccess accessSize

/-- A hit also fills the line of the fast cache. -/
def lookupTlbTranslationCache (s : TlbState) (virtualAddress : BitVec 32)
    (translation : EeAddressTranslationContext) (writeAccess : Bool) (accessSize : BitVec 32) :
    TlbState × Option EeTranslatedAddress :=
  match s.lookupLine virtualAddress translation writeAccess accessSize with
  | none => (s, none)
  | some entry =>
    (s.fillTlbFastCache entry.virtualPageBase entry.physicalPageBase translation entry.global
        entry.writable,
      some ⟨entry.physicalPageBase + pageOffset virtualAddress, false⟩)

/-- A line of the same address space, else one of another generation; `none` if every line of the
set is current and of another address space. -/
def selectWay (s : TlbState) (set : Fin 32) (base : BitVec 32)
    (translation : EeAddressTranslationContext) (global : Bool) : Option (Fin 4) :=
  match (List.finRange 4).find? fun way =>
      (s.tlbTranslationCache (set, way)).sameAddressSpace s.tlbMappingGeneration base translation
        global with
  | some way => some way
  | none =>
    (List.finRange 4).find? fun way =>
      (s.tlbTranslationCache (set, way)).generation != s.tlbMappingGeneration

def fillTlbTranslationCache (s : TlbState) (virtualAddress : BitVec 32)
    (translated : EeTranslatedAddress) (translation : EeAddressTranslationContext)
    (tlbPageSize : BitVec 32) (global writable : Bool) : TlbState :=
  if !s.tlbTranslationCacheEnabled then s
  -- The mapped fast path is RDRAM only.
  else if translated.scratchpad then s
  else if translated.physicalAddress &&& 0xFFF#32 ≠ pageOffset virtualAddress then s
  else
    let physicalPageBase := translated.physicalAddress - pageOffset virtualAddress
    if physicalPageBase > ps2RamSize - 0x1000#32 then s
    else
      let base := pageBase virtualAddress
      let set := backingSetIndex virtualAddress
      let selected := s.selectWay set base translation global
      let way := selected.getD (s.tlbTranslationCacheNextWay set)
      let nextWay :=
        if selected.isSome then s.tlbTranslationCacheNextWay
        else Function.update s.tlbTranslationCacheNextWay set (way + 1)
      let line : EeTlbTranslationCacheEntry :=
        { generation := s.tlbMappingGeneration
          virtualPageBase := base
          physicalPageBase
          tlbPageSize
          asid := translation.asid
          mode := translation.mode
          enforceOperatingMode := translation.enforceOperatingMode
          errorLevel := translation.errorLevel
          valid := true
          global
          writable
          scratchpad := translated.scratchpad }
      { s with
        tlbTranslationCache := Function.update s.tlbTranslationCache (set, way) line
        tlbTranslationCacheNextWay := nextWay }.fillTlbFastCache base physicalPageBase translation
          global writable

/-! ## Translation -/

/-- `translateAddressImpl` with `allowTlbCache` true. -/
def resolveAddress (s : TlbState) (virtualAddress : BitVec 32)
    (translation : EeAddressTranslationContext) (writeAccess : Bool) (accessSize : BitVec 32) :
    TlbState × Except EeTranslationFault EeTranslatedAddress :=
  if !translation.permits virtualAddress then (s, .error (.addressError virtualAddress))
  else
    match untranslatedAddress virtualAddress translation with
    | some translated => (s, .ok translated)
    | none =>
      match s.lookupTlbTranslationCache virtualAddress translation writeAccess accessSize with
      | (s, some cached) => (s, .ok cached)
      | (s, none) =>
        match walkTlb s.tlbEntries virtualAddress translation.asid writeAccess with
        | .error fault => (s, .error fault)
        | .ok entry =>
          let translated := entry.translated virtualAddress
          (s.fillTlbTranslationCache virtualAddress translated translation entry.cachedPageSize
              entry.global (entry.dirty virtualAddress),
            .ok translated)

/-! ## Changes of the mapping -/

def clearTlbTranslationCache (s : TlbState) : TlbState :=
  { s with
    tlbTranslationCache := fun _ => {}
    tlbTranslationCacheNextWay := fun _ => 0
    tlbFastCache := fun _ => {} }

def advanceTlbMappingGeneration (s : TlbState) : TlbState :=
  if s.tlbMappingGeneration = uint64Max.val then
    -- No stale entry may become current after generation wrap.
    { s.clearTlbTranslationCache with tlbMappingGeneration := 1 }
  else { s with tlbMappingGeneration := s.tlbMappingGeneration + 1 }

def tlbWrite (s : TlbState) (index : ℕ) (entry : EeTlbEntry) : TlbState × Bool :=
  if index ≥ s.tlbEntries.length then (s, false)
  else
    ({ s with tlbEntries := s.tlbEntries.set index entry.normalized }.advanceTlbMappingGeneration,
      true)

end TlbState

/-- The mappings the BIOS leaves behind. -/
def postBiosTlbEntries : List EeTlbEntry :=
  [⟨0x00000000, 0x70000000, 0x0000001f, 0x0000001f⟩,
   ⟨0x00006000, 0xffff8000, 0x00001e1f, 0x00001f1f⟩,
   ⟨0x00000000, 0x10000000, 0x00400017, 0x00400053⟩,
   ⟨0x00000000, 0x10002000, 0x00400097, 0x004000d7⟩,
   ⟨0x00000000, 0x10004000, 0x00400117, 0x00400157⟩,
   ⟨0x00000000, 0x10006000, 0x00400197, 0x004001d7⟩,
   ⟨0x00000000, 0x10008000, 0x00400217, 0x00400257⟩,
   ⟨0x00000000, 0x1000a000, 0x00400297, 0x004002d7⟩,
   ⟨0x00000000, 0x1000c000, 0x00400313, 0x00400357⟩,
   ⟨0x00000000, 0x1000e000, 0x00400397, 0x004003d7⟩,
   ⟨0x0001e000, 0x11000000, 0x00440017, 0x00440415⟩,
   ⟨0x0001e000, 0x12000000, 0x00480017, 0x00480415⟩,
   ⟨0x01ffe000, 0x1e000000, 0x00780017, 0x007c0017⟩,
   ⟨0x0007e000, 0x00080000, 0x0000201f, 0x0000301f⟩,
   ⟨0x0007e000, 0x00100000, 0x0000401f, 0x0000501f⟩,
   ⟨0x0007e000, 0x00180000, 0x0000601f, 0x0000701f⟩,
   ⟨0x001fe000, 0x00200000, 0x0000801f, 0x0000c01f⟩,
   ⟨0x001fe000, 0x00400000, 0x0001001f, 0x0001401f⟩,
   ⟨0x001fe000, 0x00600000, 0x0001801f, 0x0001c01f⟩,
   ⟨0x007fe000, 0x00800000, 0x0002001f, 0x0003001f⟩,
   ⟨0x007fe000, 0x01000000, 0x0004001f, 0x0005001f⟩,
   ⟨0x007fe000, 0x01800000, 0x0006001f, 0x0007001f⟩,
   ⟨0x0007e000, 0x20080000, 0x00002017, 0x00003017⟩,
   ⟨0x0007e000, 0x20100000, 0x00004017, 0x00005017⟩,
   ⟨0x0007e000, 0x20180000, 0x00006017, 0x00007017⟩,
   ⟨0x001fe000, 0x20200000, 0x00008017, 0x0000c017⟩,
   ⟨0x001fe000, 0x20400000, 0x00010017, 0x00014017⟩,
   ⟨0x001fe000, 0x20600000, 0x00018017, 0x0001c017⟩,
   ⟨0x007fe000, 0x20800000, 0x00020017, 0x00030017⟩,
   ⟨0x007fe000, 0x21000000, 0x00040017, 0x00050017⟩,
   ⟨0x007fe000, 0x21800000, 0x00060017, 0x00070017⟩,
   ⟨0x0007e000, 0x30100000, 0x0000403f, 0x0000503f⟩,
   ⟨0x0007e000, 0x30180000, 0x0000603f, 0x0000703f⟩,
   ⟨0x001fe000, 0x30200000, 0x0000803f, 0x0000c03f⟩,
   ⟨0x001fe000, 0x30400000, 0x0001003f, 0x0001403f⟩,
   ⟨0x001fe000, 0x30600000, 0x0001803f, 0x0001c03f⟩,
   ⟨0x007fe000, 0x30800000, 0x0002003f, 0x0003003f⟩,
   ⟨0x007fe000, 0x31000000, 0x0004003f, 0x0005003f⟩,
   ⟨0x007fe000, 0x31800000, 0x0006003f, 0x0007003f⟩,
   ⟨0x00000000, 0xe004c000, 0x00000010, 0x00000010⟩,
   ⟨0x00000000, 0xe004e000, 0x00000010, 0x00000010⟩,
   ⟨0x00000000, 0xe0050000, 0x00000010, 0x00000010⟩,
   ⟨0x00000000, 0xe0052000, 0x00000010, 0x00000010⟩,
   ⟨0x00000000, 0xe0054000, 0x00000010, 0x00000010⟩,
   ⟨0x00000000, 0xe0056000, 0x00000010, 0x00000010⟩,
   ⟨0x00000000, 0xe0058000, 0x00000010, 0x00000010⟩,
   ⟨0x00000000, 0xe005a000, 0x00000010, 0x00000010⟩,
   ⟨0x00000000, 0xe005c000, 0x00000010, 0x00000010⟩]

namespace TlbState

def installPostBiosTlbState (s : TlbState) : TlbState :=
  { s with tlbEntries := postBiosTlbEntries }.advanceTlbMappingGeneration

/-- `setTlbTranslationCacheEnabled`: the lines stay. -/
def setTlbTranslationCacheEnabled (s : TlbState) (enabled : Bool) : TlbState :=
  { s with tlbTranslationCacheEnabled := enabled }

/-- After `initialize` without a post-BIOS profile. -/
def initial : TlbState :=
  { tlbEntries := List.replicate 48 {} : TlbState }.advanceTlbMappingGeneration

end TlbState

end Ps2Recomp
