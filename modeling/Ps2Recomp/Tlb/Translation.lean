import Mathlib.Data.Nat.Notation

/-!
# Translation of EE addresses (`ps2_memory.h`, `ps2_memory.cpp`, `ps2_address.h`)

`translateAddressImpl` first sorts out the addresses that no TLB entry decides
(`untranslatedAddress`) and then walks the 48 entries: the first one that covers the address and is
global or of the caller's ASID decides (`walkTlb`). `resolveAddressUncached` is that function
without the caches.
-/

namespace Ps2Recomp

/-! ## Address spaces -/

inductive EeAddressSpaceMode where
  | Kernel
  | Supervisor
  | User
  | Reserved
  deriving DecidableEq, Repr

structure EeAddressTranslationContext where
  mode : EeAddressSpaceMode := .Kernel
  enforceOperatingMode : Bool := false
  errorLevel : Bool := false
  asid : BitVec 8 := 0
  deriving DecidableEq, Repr

namespace EeAddressTranslationContext

def permits (context : EeAddressTranslationContext) (virtualAddress : BitVec 32) : Bool :=
  if !context.enforceOperatingMode || context.mode == .Kernel then true
  else if virtualAddress < 0x80000000#32 then true
  else context.mode == .Supervisor && virtualAddress ≥ 0xC0000000#32 &&
    virtualAddress < 0xE0000000#32

def mapsKusegThroughTlb (context : EeAddressTranslationContext) (virtualAddress : BitVec 32) :
    Bool :=
  context.enforceOperatingMode && !context.errorLevel && virtualAddress < 0x80000000#32

end EeAddressTranslationContext

def ps2RamSize : BitVec 32 := 0x02000000#32

def ps2RamMask : BitVec 32 := 0x01FFFFFF#32

/-- `Ps2AddressInRange`: one subtraction that wraps, one comparison. -/
def addressInRange (value base size : BitVec 32) : Bool := value - base < size

def isUncachedRamMirrorAddress (address : BitVec 32) : Bool :=
  addressInRange address 0x20000000#32 ps2RamSize

def isAcceleratedRamMirrorAddress (address : BitVec 32) : Bool :=
  addressInRange address 0x30100000#32 (ps2RamSize - 0x00100000#32)

def isKseg01Address (address : BitVec 32) : Bool :=
  addressInRange address 0x80000000#32 0x40000000#32

def isKseg23Address (address : BitVec 32) : Bool := address ≥ 0xC0000000#32

def directMappedPhysicalAddress (address : BitVec 32) : BitVec 32 := address &&& 0x1FFFFFFF#32

/-- BIOS, scratchpad, I/O registers, GS registers, VU memories. -/
def isPhysicalSpecialAddress (physAddr : BitVec 32) : Bool :=
  addressInRange physAddr 0x1FC00000#32 0x00400000#32 ||
  addressInRange physAddr 0x70000000#32 0x4000#32 ||
  addressInRange physAddr 0x10000000#32 0x10000#32 ||
  addressInRange physAddr 0x12000000#32 0x2000#32 ||
  (physAddr ≥ 0x11004000#32 && physAddr < 0x1100C000#32)

/-- `ps2IsScratchpadAddress`. -/
def isScratchpad (address : BitVec 32) : Bool :=
  if address ≥ 0x70000000#32 && address < 0x70004000#32 then true
  else if address &&& 0x80000000#32 ≠ 0#32 then
    address &&& 0x7FFFFFFF#32 ≥ 0x70000000#32 && address &&& 0x7FFFFFFF#32 < 0x70004000#32
  else false

/-- `ps2ScratchpadOffset`. -/
def scratchpadOffset (address : BitVec 32) : BitVec 32 :=
  if address ≥ 0x70000000#32 && address < 0x70004000#32 then address - 0x70000000#32
  else (address &&& 0x7FFFFFFF#32) - 0x70000000#32

structure EeTranslatedAddress where
  physicalAddress : BitVec 32
  scratchpad : Bool
  deriving DecidableEq, Repr

/-- `PS2AddressErrorException` and the three TLB exceptions, with the address they carry. -/
inductive EeTranslationFault where
  | addressError (virtualAddress : BitVec 32)
  | tlbMiss (virtualAddress : BitVec 32)
  | tlbInvalid (virtualAddress : BitVec 32)
  | tlbModified (virtualAddress : BitVec 32)
  deriving DecidableEq, Repr

/-- The translations that no TLB entry decides, in the order of `translateAddressImpl`; `none` if
the address is mapped through the TLB. -/
def untranslatedAddress (virtualAddress : BitVec 32) (translation : EeAddressTranslationContext) :
    Option EeTranslatedAddress :=
  if isScratchpad virtualAddress then some ⟨scratchpadOffset virtualAddress, true⟩
  else if virtualAddress < 0x80000000#32 && isPhysicalSpecialAddress virtualAddress then
    some ⟨virtualAddress, false⟩
  else if isUncachedRamMirrorAddress virtualAddress then
    some ⟨virtualAddress &&& ps2RamMask, false⟩
  else if isAcceleratedRamMirrorAddress virtualAddress then
    some ⟨virtualAddress &&& ps2RamMask, false⟩
  else if translation.errorLevel && virtualAddress < 0x80000000#32 then
    some ⟨virtualAddress, false⟩
  else if isKseg01Address virtualAddress then
    some ⟨directMappedPhysicalAddress virtualAddress, false⟩
  else if translation.mapsKusegThroughTlb virtualAddress || isKseg23Address virtualAddress then
    none
  else some ⟨virtualAddress, false⟩

/-! ## The table -/

structure EeTlbEntry where
  pageMask : BitVec 32 := 0
  entryHi : BitVec 32 := 0
  entryLo0 : BitVec 32 := 0
  entryLo1 : BitVec 32 := 0
  deriving DecidableEq, Repr

namespace EeTlbEntry

def maskedPageMask (entry : EeTlbEntry) : BitVec 32 := entry.pageMask &&& 0x01ffe000#32

def scratchpad (entry : EeTlbEntry) : Bool := entry.entryLo0 &&& 0x80000000#32 ≠ 0#32

def pairOffsetMask (entry : EeTlbEntry) : BitVec 32 :=
  if entry.scratchpad then 0x00003fff#32 else entry.maskedPageMask ||| 0x00001fff#32

/-- The virtual page numbers agree under the entry's page mask. -/
def covers (entry : EeTlbEntry) (virtualAddress : BitVec 32) : Bool :=
  virtualAddress &&& ~~~entry.pairOffsetMask ==
    (entry.entryHi &&& 0xffffe000#32 &&& ~~~entry.pairOffsetMask)

def global (entry : EeTlbEntry) : Bool := entry.entryLo0 &&& 0x1#32 ≠ 0#32

/-- The walk stops at the entry. -/
def answers (entry : EeTlbEntry) (virtualAddress : BitVec 32) (asid : BitVec 8) : Bool :=
  entry.covers virtualAddress &&
    (entry.global || entry.entryHi &&& 0x000000ff#32 == asid.setWidth 32)

def pageSize (entry : EeTlbEntry) : BitVec 32 := (entry.maskedPageMask >>> 13 + 1#32) <<< 12

/-- The even or the odd page of the pair. -/
def entryLo (entry : EeTlbEntry) (virtualAddress : BitVec 32) : BitVec 32 :=
  if entry.scratchpad || virtualAddress &&& entry.pageSize == 0#32 then entry.entryLo0
  else entry.entryLo1

def valid (entry : EeTlbEntry) (virtualAddress : BitVec 32) : Bool :=
  entry.entryLo virtualAddress &&& 0x2#32 ≠ 0#32

def dirty (entry : EeTlbEntry) (virtualAddress : BitVec 32) : Bool :=
  entry.entryLo virtualAddress &&& 0x4#32 ≠ 0#32

def pfn (entry : EeTlbEntry) (virtualAddress : BitVec 32) : BitVec 32 :=
  (entry.entryLo virtualAddress &&& 0x03ffffc0#32) >>> 6 &&& ~~~(entry.maskedPageMask >>> 13)

def translated (entry : EeTlbEntry) (virtualAddress : BitVec 32) : EeTranslatedAddress :=
  if entry.scratchpad then ⟨virtualAddress &&& 0x00003fff#32, true⟩
  else ⟨entry.pfn virtualAddress <<< 12 ||| virtualAddress &&& (entry.pageSize - 1#32), false⟩

/-- The page size that a filled line records. -/
def cachedPageSize (entry : EeTlbEntry) : BitVec 32 :=
  if entry.scratchpad then 0x00004000#32 else entry.pageSize

/-- `tlbWrite` keeps the architectural bits: one global bit for the pair, no page mask and no cache
mode for a scratchpad pair. -/
def normalized (entry : EeTlbEntry) : EeTlbEntry :=
  let entryLo0 := entry.entryLo0 &&& 0x83ffffff#32
  let entryLo1 := entry.entryLo1 &&& 0x03ffffff#32
  let global : BitVec 32 := if entryLo0 &&& entryLo1 &&& 0x1#32 ≠ 0#32 then 0x1#32 else 0#32
  let entryLo0 := entryLo0 &&& ~~~0x1#32 ||| global
  let entryLo1 := entryLo1 &&& ~~~0x1#32 ||| global
  let scratchpad : Bool := entryLo0 &&& 0x80000000#32 ≠ 0#32
  let pageMask := if scratchpad then 0#32 else entry.pageMask &&& 0x01ffe000#32
  { pageMask
    entryHi := entry.entryHi &&& 0xffffe0ff#32 &&& ~~~pageMask
    entryLo0 := if scratchpad then entryLo0 &&& ~~~0x38#32 ||| 0x10#32 else entryLo0
    entryLo1 := if scratchpad then entryLo1 &&& ~~~0x38#32 ||| 0x10#32 else entryLo1 }

end EeTlbEntry

/-- What the walk finds: the entry that decides, or the exception. -/
def walkTlb (entries : List EeTlbEntry) (virtualAddress : BitVec 32) (asid : BitVec 8)
    (writeAccess : Bool) : Except EeTranslationFault EeTlbEntry :=
  match entries.find? fun entry => entry.answers virtualAddress asid with
  | none => .error (.tlbMiss virtualAddress)
  | some entry =>
    if !entry.valid virtualAddress then .error (.tlbInvalid virtualAddress)
    else if writeAccess && !entry.dirty virtualAddress then .error (.tlbModified virtualAddress)
    else .ok entry

/-- `translateAddressImpl` with `allowTlbCache` false. -/
def resolveAddressUncached (entries : List EeTlbEntry) (virtualAddress : BitVec 32)
    (translation : EeAddressTranslationContext) (writeAccess : Bool) :
    Except EeTranslationFault EeTranslatedAddress :=
  if !translation.permits virtualAddress then .error (.addressError virtualAddress)
  else
    match untranslatedAddress virtualAddress translation with
    | some translated => .ok translated
    | none =>
      match walkTlb entries virtualAddress translation.asid writeAccess with
      | .ok entry => .ok (entry.translated virtualAddress)
      | .error fault => .error fault

end Ps2Recomp
