import Ps2Recomp.Timing
import Mathlib.Logic.Function.Basic
import Mathlib.Data.List.Basic

/-!
# The cache of compiled VU programs (`ps2_vu_program_cache.h`, `ps2_vu_program_cache.cpp`)

Programs are kept in slots; `lookup` finds the slot of a key. The link states that generated code
reads are shared between a program and whoever pinned them: they live in `linkStates`, by address,
and a program holds the address. A handle carries the epoch of the cache.

`insert` is given a block and native code whose checks it reads: what `verifyVuIrBlock` says about
the block (`VuIrBlock.malformed`) and the state of the mapping (`VuExecutableMemory`). The counters
of `VuProgramCacheDiagnostics` are left out; the diagnostic texts are not.
-/

namespace Ps2Recomp

/-! ## Link states -/

abbrev LinkAddress := ℕ

structure VuNativeLinkSlot where
  codeGeneration : ℕ := 0
  targetEntry : ℕ := 0
  targetPc : ℕ := uint32Max
  deriving DecidableEq, Repr

/-- `kVuNativeDynamicLinkSlotCount`. -/
def dynamicLinkSlotCount : ℕ := 4

structure VuNativeLinkState where
  backendIdentity : ℕ := 0
  ownerCacheIdentity : ℕ := 0
  /-- `kUnboundProgramIndex` when no cache owns the state. -/
  ownerProgramIndex : ℕ := uint32Max
  sourceEntryPc : ℕ := 0
  nextDynamicSlot : ℕ := 0
  staticTargets : List VuNativeLinkSlot := []
  dynamicTargets : List VuNativeLinkSlot := List.replicate dynamicLinkSlotCount {}
  deriving DecidableEq, Repr

/-- The lambda of both `invalidate` functions. -/
def VuNativeLinkSlot.invalidate (dynamic : Bool) (slot : VuNativeLinkSlot) : VuNativeLinkSlot :=
  { slot with
    targetEntry := 0
    codeGeneration := 0
    targetPc := if dynamic then uint32Max else slot.targetPc }

namespace VuNativeLinkState

def invalidateTargets (l : VuNativeLinkState) : VuNativeLinkState :=
  { l with
    staticTargets := l.staticTargets.map (.invalidate false)
    dynamicTargets := l.dynamicTargets.map (.invalidate true)
    nextDynamicSlot := 0 }

def invalidateTarget (targetEntry : ℕ) (l : VuNativeLinkState) : VuNativeLinkState :=
  if targetEntry = 0 then l
  else
    { l with
      staticTargets := l.staticTargets.map fun slot =>
        if slot.targetEntry ≠ targetEntry then slot else slot.invalidate false
      dynamicTargets := l.dynamicTargets.map fun slot =>
        if slot.targetEntry ≠ targetEntry then slot else slot.invalidate true }

/-- Taken from its cache. -/
def unbind (l : VuNativeLinkState) : VuNativeLinkState :=
  { l with ownerCacheIdentity := 0, ownerProgramIndex := uint32Max }

/-- The targets of the static and of the dynamic slots. -/
def targets (l : VuNativeLinkState) : List ℕ :=
  (l.staticTargets ++ l.dynamicTargets).map (·.targetEntry)

end VuNativeLinkState

/-- `makeNativeLinkState` of the recompiler: one static slot for each target, not linked. -/
def makeNativeLinkState (backendIdentity sourceEntryPc : ℕ) (targets : List ℕ) :
    VuNativeLinkState :=
  { backendIdentity := backendIdentity
    sourceEntryPc := sourceEntryPc
    staticTargets := targets.map fun target => { targetPc := target } }

/-! ## Programs -/

inductive VuUnitId where
  | Vu0
  | Vu1
  deriving DecidableEq, Repr

inductive VuNativeBackendMode where
  | X86_64
  | AArch64
  deriving DecidableEq, Repr

inductive VuCompilationMode where
  | Normal
  | Instrumented
  deriving DecidableEq, Repr

inductive VuIrBlockForm where
  | Basic
  | LinearTrace
  deriving DecidableEq, Repr

structure VuProgramKey where
  unit : VuUnitId := .Vu1
  memoryIdentity : ℕ := 0
  codeIdentity : ℕ := 0
  codeSize : ℕ := 0
  addressMask : ℕ := 0
  entryPc : ℕ := 0
  codeGeneration : ℕ := 0
  codeContentIdentity : ℕ := 0
  backend : VuNativeBackendMode := .X86_64
  hostFeatures : ℕ := 0
  compilationMode : VuCompilationMode := .Normal
  blockForm : VuIrBlockForm := .LinearTrace
  blockLocalVfRegisters : Bool := false
  blockLocalVfRegistersAutomatic : Bool := false
  inlineXgkick : Bool := false
  deriving DecidableEq, Repr

namespace VuProgramKey

def sameProgramIdentity (left right : VuProgramKey) : Bool :=
  if left.unit ≠ right.unit ∨ left.memoryIdentity ≠ right.memoryIdentity ∨
      left.codeIdentity ≠ right.codeIdentity ∨ left.codeSize ≠ right.codeSize ∨
      left.addressMask ≠ right.addressMask ∨ left.entryPc ≠ right.entryPc ∨
      left.backend ≠ right.backend ∨ left.hostFeatures ≠ right.hostFeatures ∨
      left.compilationMode ≠ right.compilationMode ∨ left.blockForm ≠ right.blockForm ∨
      left.blockLocalVfRegisters ≠ right.blockLocalVfRegisters ∨
      left.blockLocalVfRegistersAutomatic ≠ right.blockLocalVfRegistersAutomatic ∨
      left.inlineXgkick ≠ right.inlineXgkick then
    false
  else if left.codeContentIdentity ≠ 0 ∨ right.codeContentIdentity ≠ 0 then
    left.codeContentIdentity ≠ 0 && left.codeContentIdentity == right.codeContentIdentity
  else
    left.codeGeneration == right.codeGeneration

def sameLinkIdentity (left right : VuProgramKey) : Bool :=
  { left with entryPc := 0 }.sameProgramIdentity { right with entryPc := 0 }

/-- The text of the first check that fails. -/
def validKey (key : VuProgramKey) : Except String Unit := do
  if key.memoryIdentity = 0 ∨ key.codeIdentity = 0 then
    throw "VU cache identity pointers must be nonzero"
  if key.codeSize < 8 ∨ key.codeSize &&& 7 ≠ 0 ∨ key.addressMask ≠ key.codeSize - 1 ∨
      key.codeSize &&& key.addressMask ≠ 0 then
    throw "VU cache code extent must be a pair-aligned power of two"
  if key.entryPc &&& 7 ≠ 0 ∨ key.codeSize - 8 < key.entryPc then
    throw "VU cache entry PC is outside its code extent"
  if key.blockLocalVfRegistersAutomatic ∧ ¬ key.blockLocalVfRegisters then
    throw "automatic VU register allocation requires register-resident code"

end VuProgramKey

structure VuIrVerificationError where
  pc : ℕ
  message : String
  deriving DecidableEq, Repr

/-- What the cache reads of a block: its entry and the answer of `verifyVuIrBlock`. -/
structure VuIrBlock where
  entryPc : ℕ
  malformed : Option VuIrVerificationError := none
  deriving DecidableEq, Repr

inductive VuExecutableMemoryState where
  | Empty
  | Writable
  | Executable
  deriving DecidableEq, Repr

structure VuExecutableMemory where
  mapping : ℕ := 0
  capacity : ℕ := 0
  usedSize : ℕ := 0
  state : VuExecutableMemoryState := .Empty
  deriving DecidableEq, Repr

/-- An address, or 0 for the null pointer. -/
def VuExecutableMemory.executableAddress (m : VuExecutableMemory) (offset : ℕ) : ℕ :=
  if m.state ≠ .Executable ∨ m.usedSize ≤ offset then 0 else m.mapping + offset

structure VuCompiledProgram where
  key : VuProgramKey
  block : VuIrBlock
  nativeCode : VuExecutableMemory
  entryOffset : ℕ := 0
  fastEntryOffset : ℕ := 0
  linkedEntryOffset : ℕ := 0
  outgoingLinks : Option LinkAddress := none
  deriving DecidableEq, Repr

namespace VuCompiledProgram

def nativeEntry (p : VuCompiledProgram) : ℕ := p.nativeCode.executableAddress p.entryOffset

def nativeFastEntry (p : VuCompiledProgram) : ℕ := p.nativeCode.executableAddress p.fastEntryOffset

def nativeLinkedEntry (p : VuCompiledProgram) : ℕ :=
  p.nativeCode.executableAddress p.linkedEntryOffset

end VuCompiledProgram

structure VuProgramHandle where
  epoch : ℕ := 0
  index : ℕ := uint32Max
  deriving DecidableEq, Repr

/-- `index` is not `kInvalidIndex`. -/
def VuProgramHandle.valid (h : VuProgramHandle) : Bool := h.epoch ≠ 0 && h.index ≠ uint32Max

structure VuProgramCacheLimits where
  maximumPrograms : ℕ := 6144
  maximumExecutableBytes : ℕ := 96 * 1024 * 1024
  deriving DecidableEq, Repr

inductive VuProgramLinkResult where
  | Linked
  | SourceUnavailable
  | TargetUnavailable
  | Incompatible
  deriving DecidableEq, Repr

/-! ## The cache -/

structure VuProgramScope where
  memoryIdentity : ℕ := 0
  codeIdentity : ℕ := 0
  codeSize : ℕ := 0
  addressMask : ℕ := 0
  deriving DecidableEq, Repr

structure VuProgramSlot where
  program : Option VuCompiledProgram := none
  lastUse : ℕ := 0
  deriving DecidableEq, Repr

structure VuProgramCache where
  /-- The address of the cache, which is not null. -/
  identity : ℕ
  unit : VuUnitId
  limits : VuProgramCacheLimits := {}
  scopeActive : Bool := false
  scope : VuProgramScope := {}
  codeGeneration : ℕ := 0
  epoch : ℕ := 1
  accessClock : ℕ := 0
  residentPrograms : ℕ := 0
  residentExecutableBytes : ℕ := 0
  programs : List VuProgramSlot := []
  /-- The index freed last is the first one. -/
  freeProgramIndices : List ℕ := []
  /-- The hash table, by `sameProgramIdentity`. -/
  lookupTable : List (VuProgramKey × ℕ) := []
  ownerThread : Option ℕ := none
  /-- The link states of all programs, by address. -/
  linkStates : LinkAddress → VuNativeLinkState := fun _ => {}

namespace VuProgramCache

def nextEpoch (epoch : ℕ) : ℕ :=
  let epoch := (epoch + 1) % 2 ^ 64
  if epoch = 0 then 1 else epoch

def programAt (c : VuProgramCache) (index : ℕ) : Option VuCompiledProgram :=
  c.programs[index]?.bind (·.program)

def find (c : VuProgramCache) (key : VuProgramKey) : Option ℕ :=
  (c.lookupTable.find? fun entry => entry.1.sameProgramIdentity key).map (·.2)

def touchProgram (c : VuProgramCache) (index : ℕ) : VuProgramCache :=
  let clock := nextEpoch c.accessClock
  { c with
    accessClock := clock
    programs := c.programs.modify index fun slot => { slot with lastUse := clock } }

/-- Apply `f` to the link states at the addresses. -/
def updateLinks (c : VuProgramCache) (f : VuNativeLinkState → VuNativeLinkState)
    (addresses : List LinkAddress) : VuProgramCache :=
  { c with
    linkStates :=
      addresses.foldl (fun states a => Function.update states a (f (states a))) c.linkStates }

/-- The link states of the programs, in the order of the slots. -/
def linkAddresses (c : VuProgramCache) : List LinkAddress :=
  c.programs.filterMap fun slot => slot.program.bind (·.outgoingLinks)

def invalidateAllLinks (c : VuProgramCache) : VuProgramCache :=
  c.updateLinks (fun l => l.invalidateTargets.unbind) c.linkAddresses

def discardPrograms (c : VuProgramCache) : VuProgramCache :=
  { c.invalidateAllLinks with
    lookupTable := []
    programs := []
    freeProgramIndices := []
    residentPrograms := 0
    residentExecutableBytes := 0
    epoch := nextEpoch c.epoch }

def retainProgramsForGeneration (c : VuProgramCache) : VuProgramCache :=
  { c with epoch := nextEpoch c.epoch }

def scopeOf (key : VuProgramKey) : VuProgramScope :=
  { memoryIdentity := key.memoryIdentity
    codeIdentity := key.codeIdentity
    codeSize := key.codeSize
    addressMask := key.addressMask }

/-- Make the scope of the key the active one; a text if the key is refused. -/
def activateScope (c : VuProgramCache) (key : VuProgramKey) : Except String VuProgramCache := do
  key.validKey
  if key.unit ≠ c.unit then
    throw "VU cache key belongs to a different unit"
  if ¬ c.scopeActive then
    return { c with
      scopeActive := true
      scope := scopeOf key
      codeGeneration := key.codeGeneration }
  else if c.scope ≠ scopeOf key then
    return { c.discardPrograms with scope := scopeOf key, codeGeneration := key.codeGeneration }
  else if c.codeGeneration ≠ key.codeGeneration then
    let c :=
      if key.codeContentIdentity ≠ 0 then c.retainProgramsForGeneration else c.discardPrograms
    return { c with codeGeneration := key.codeGeneration }
  else
    return c

/-! ## Eviction -/

/-- The slot used longest ago, with its `lastUse`. -/
def oldestProgram : List (VuProgramSlot × ℕ) → Option ℕ × ℕ :=
  List.foldl
    (fun (victim, oldestUse) (slot, index) =>
      if slot.program.isNone ∨ oldestUse < slot.lastUse ∨
          slot.lastUse = oldestUse ∧ victim.any (· ≤ index) then
        (victim, oldestUse)
      else
        (some index, slot.lastUse))
    (none, uint64Max)

/-- Remove the program of a slot: first every link to it, then its own links. -/
def evict (c : VuProgramCache) (index : ℕ) (victim : VuCompiledProgram) : VuProgramCache :=
  let targetEntry := if victim.outgoingLinks.isSome then victim.nativeLinkedEntry else 0
  let c := c.updateLinks (.invalidateTarget targetEntry)
    (if targetEntry ≠ 0 then c.linkAddresses else [])
  let c := c.updateLinks (fun l => l.invalidateTargets.unbind) victim.outgoingLinks.toList
  { c with
    lookupTable := c.lookupTable.filter fun entry => !entry.1.sameProgramIdentity victim.key
    programs := c.programs.set index {}
    freeProgramIndices := index :: c.freeProgramIndices
    residentPrograms := c.residentPrograms - 1
    residentExecutableBytes := c.residentExecutableBytes - victim.nativeCode.capacity
    epoch := nextEpoch c.epoch }

/-- The cache without its least recently used program, if it has one. -/
def evictLeastRecentlyUsed (c : VuProgramCache) : Option VuProgramCache := do
  let index ← (oldestProgram c.programs.zipIdx).1
  let victim ← c.programAt index
  return c.evict index victim

/-- The number of slots that hold a program. -/
def occupied (c : VuProgramCache) : ℕ := c.programs.countP (·.program.isSome)

theorem evictLeastRecentlyUsed_some {c c' : VuProgramCache}
    (h : c.evictLeastRecentlyUsed = some c') :
    ∃ index victim, c.programAt index = some victim ∧ c' = c.evict index victim := by
  unfold evictLeastRecentlyUsed at h
  rw [Option.bind_eq_bind, Option.bind_eq_some_iff] at h
  obtain ⟨index, -, h⟩ := h
  rw [Option.bind_eq_bind, Option.bind_eq_some_iff] at h
  obtain ⟨victim, hvictim, h⟩ := h
  exact ⟨index, victim, hvictim, (Option.some.inj h).symm⟩

theorem programAt_eq_some {c : VuProgramCache} {index : ℕ} {p : VuCompiledProgram} :
    c.programAt index = some p ↔ ∃ slot, c.programs[index]? = some slot ∧ slot.program = some p :=
  Option.bind_eq_some_iff

theorem countP_set_lt {slots : List VuProgramSlot} {index : ℕ} {slot : VuProgramSlot}
    (h : slots[index]? = some slot) (hslot : slot.program.isSome) :
    (slots.set index {}).countP (·.program.isSome) < slots.countP (·.program.isSome) := by
  induction slots generalizing index with
  | nil => simp at h
  | cons s slots ih =>
    cases index with
    | zero =>
      obtain rfl : s = slot := by simpa using h
      simp [hslot]
    | succ index =>
      have hlt := ih (by simpa using h)
      rw [List.set_cons_succ, List.countP_cons, List.countP_cons]
      omega

theorem occupied_evict_lt {c c' : VuProgramCache} (h : c.evictLeastRecentlyUsed = some c') :
    c'.occupied < c.occupied := by
  obtain ⟨index, victim, hvictim, rfl⟩ := evictLeastRecentlyUsed_some h
  obtain ⟨slot, hslot, hprogram⟩ := programAt_eq_some.1 hvictim
  show (c.programs.set index {}).countP (·.program.isSome) < _
  exact countP_set_lt hslot (by rw [hprogram]; rfl)

/-- Evict until a program of that size fits; false if nothing is left to evict. The subtraction
does not wrap: the bytes stay within the limit. -/
def makeRoom (residentBytes : ℕ) (c : VuProgramCache) : Bool × VuProgramCache :=
  if c.limits.maximumPrograms ≤ c.residentPrograms ∨
      c.limits.maximumExecutableBytes - c.residentExecutableBytes < residentBytes then
    match _h : c.evictLeastRecentlyUsed with
    | some c' => makeRoom residentBytes c'
    | none => (false, c)
  else (true, c)
termination_by c.occupied
decreasing_by exact occupied_evict_lt _h

/-! ## Operations -/

def lookup (c : VuProgramCache) (key : VuProgramKey) :
    Except String VuProgramHandle × VuProgramCache :=
  match c.activateScope key with
  | .error _ => (.ok {}, c)
  | .ok c =>
    match c.find key with
    | none => (.ok {}, c)
    | some index =>
      if (c.programAt index).isNone then
        (.error "VU program cache lookup references an empty slot", c)
      else
        (.ok { epoch := c.epoch, index := index }, c.touchProgram index)

/-- Put the program in a free slot or a new one. -/
def place (c : VuProgramCache) (program : VuCompiledProgram) :
    Except String VuProgramHandle × VuProgramCache :=
  if c.freeProgramIndices = [] ∧ uint32Max ≤ c.programs.length then
    (.error "VU program cache handle space is exhausted", c)
  else
    let index := c.freeProgramIndices.headD c.programs.length
    let c :=
      { c with
        programs := if c.freeProgramIndices = [] then c.programs ++ [({} : VuProgramSlot)]
          else c.programs
        freeProgramIndices := c.freeProgramIndices.tail }
    let c := c.updateLinks
      (fun l => { l with ownerCacheIdentity := c.identity, ownerProgramIndex := index })
      program.outgoingLinks.toList
    let c :=
      { c with
        programs := c.programs.modify index fun slot => { slot with program := some program }
        lookupTable :=
          if (c.find program.key).isSome then c.lookupTable
          else (program.key, index) :: c.lookupTable
        residentPrograms := c.residentPrograms + 1
        residentExecutableBytes := c.residentExecutableBytes + program.nativeCode.capacity }
    (.ok { epoch := c.epoch, index := index }, c.touchProgram index)

/-- The handle, or the text of the diagnostic. -/
def insert (c : VuProgramCache) (program : VuCompiledProgram) :
    Except String VuProgramHandle × VuProgramCache :=
  match c.activateScope program.key with
  | .error text => (.error text, c)
  | .ok c =>
    match program.block.malformed with
    | some e =>
      (.error ("refusing malformed VU IR block at PC " ++ toString e.pc ++ ": " ++ e.message), c)
    | none =>
      if program.block.entryPc ≠ program.key.entryPc then
        (.error "compiled block entry does not match its cache key", c)
      else if program.nativeCode.state ≠ .Executable ∨ program.nativeEntry = 0 ∨
          program.nativeFastEntry = 0 ∨
          program.outgoingLinks.isSome ∧ program.nativeLinkedEntry = 0 then
        (.error "compiled program has no executable entry points", c)
      else
        match c.find program.key with
        | some index => (.ok { epoch := c.epoch, index := index }, c.touchProgram index)
        | none =>
          if c.limits.maximumPrograms = 0 ∨ c.limits.maximumExecutableBytes = 0 ∨
              c.limits.maximumExecutableBytes < program.nativeCode.capacity then
            (.error "compiled program exceeds the cache limits", c)
          else
            match c.makeRoom program.nativeCode.capacity with
            | (false, c) => (.error "VU program cache could not reclaim a resident program", c)
            | (true, c) => c.place program

def resolve (c : VuProgramCache) (handle : VuProgramHandle) : Option VuCompiledProgram :=
  if ¬ handle.valid ∨ handle.epoch ≠ c.epoch then none else c.programAt handle.index

def resolveCurrent (c : VuProgramCache) (handle : VuProgramHandle) (expectedKey : VuProgramKey) :
    Option VuCompiledProgram × VuProgramCache :=
  if ¬ c.scopeActive ∨ c.scope ≠ scopeOf expectedKey ∨
      c.codeGeneration ≠ expectedKey.codeGeneration then
    (none, c)
  else
    match c.resolve handle with
    | none => (none, c)
    | some program =>
      if ¬ program.key.sameProgramIdentity expectedKey then (none, c)
      else (some program, c.touchProgram handle.index)

/-- The slot of the program whose links the source is, if this cache holds it. -/
def linkOwner (c : VuProgramCache) (source : Option LinkAddress) :
    Option (LinkAddress × ℕ × VuCompiledProgram) := do
  let address ← source
  let index := (c.linkStates address).ownerProgramIndex
  if (c.linkStates address).ownerCacheIdentity ≠ c.identity then
    none
  let program ← c.programAt index
  if program.outgoingLinks ≠ some address then
    none
  return (address, index, program)

def pinLinkSource (c : VuProgramCache) (source : Option LinkAddress) :
    Option LinkAddress × VuProgramCache :=
  match c.linkOwner source with
  | none => (none, c)
  | some (_, index, program) => (program.outgoingLinks, c.touchProgram index)

end VuProgramCache

/-- Link a slot to the entry: a static slot of that PC, a dynamic one, a free dynamic one, or the
next dynamic slot in turn. -/
def VuNativeLinkState.populate (l : VuNativeLinkState) (key : VuProgramKey) (entry : ℕ) :
    VuNativeLinkState :=
  let filled : VuNativeLinkSlot :=
    { codeGeneration := key.codeGeneration, targetPc := key.entryPc, targetEntry := entry }
  match l.staticTargets.findIdx? (·.targetPc == key.entryPc) with
  | some i => { l with staticTargets := l.staticTargets.set i filled }
  | none =>
    match (l.dynamicTargets.findIdx? (·.targetPc == key.entryPc)).or
        (l.dynamicTargets.findIdx? (·.targetEntry == 0)) with
    | some i => { l with dynamicTargets := l.dynamicTargets.set i filled }
    | none =>
      let index := l.nextDynamicSlot % l.dynamicTargets.length
      { l with
        nextDynamicSlot := (index + 1) % l.dynamicTargets.length
        dynamicTargets := l.dynamicTargets.set index filled }

namespace VuProgramCache

def populateLink (c : VuProgramCache) (source : Option LinkAddress) (targetHandle : VuProgramHandle)
    (currentTargetKey : VuProgramKey) : VuProgramLinkResult × VuProgramCache :=
  match c.linkOwner source with
  | none => (.SourceUnavailable, c)
  | some (address, sourceIndex, sourceProgram) =>
    if ¬ c.scopeActive ∨ c.codeGeneration ≠ currentTargetKey.codeGeneration then
      (.TargetUnavailable, c)
    else
      match c.resolve targetHandle with
      | none => (.TargetUnavailable, c)
      | some target =>
        match target.outgoingLinks with
        | none => (.TargetUnavailable, c)
        | some targetLinks =>
          if ¬ target.key.sameProgramIdentity currentTargetKey ∨ target.nativeLinkedEntry = 0 then
            (.TargetUnavailable, c)
          else if ¬ sourceProgram.key.sameLinkIdentity target.key ∨
              (c.linkStates address).backendIdentity = 0 ∨
              (c.linkStates address).backendIdentity ≠
                (c.linkStates targetLinks).backendIdentity then
            (.Incompatible, c)
          else
            let c := c.updateLinks
              (fun l => l.populate currentTargetKey target.nativeLinkedEntry) [address]
            (.Linked, (c.touchProgram sourceIndex).touchProgram targetHandle.index)

def flush (c : VuProgramCache) : VuProgramCache :=
  { c.discardPrograms with scopeActive := false, scope := {}, codeGeneration := 0 }

/-! ## Runs -/

inductive VuProgramCacheCall where
  | lookup (key : VuProgramKey)
  | insert (program : VuCompiledProgram)
  | resolve (handle : VuProgramHandle)
  | resolveCurrent (handle : VuProgramHandle) (expectedKey : VuProgramKey)
  | pinLinkSource (source : Option LinkAddress)
  | populateLink (source : Option LinkAddress) (targetHandle : VuProgramHandle)
      (currentTargetKey : VuProgramKey)
  | flush
  deriving DecidableEq

def VuProgramCacheCall.run (c : VuProgramCache) : VuProgramCacheCall → VuProgramCache
  | .lookup key => (c.lookup key).2
  | .insert program => (c.insert program).2
  | .resolve _ => c
  | .resolveCurrent handle expectedKey => (c.resolveCurrent handle expectedKey).2
  | .pinLinkSource source => (c.pinLinkSource source).2
  | .populateLink source targetHandle key => (c.populateLink source targetHandle key).2
  | .flush => c.flush

/-- What happens to a cache: a thread calls it, or a caller makes a link state somewhere. -/
inductive VuProgramCacheAct where
  | call (thread : ℕ) (call : VuProgramCacheCall)
  | makeLinks (address : LinkAddress) (backendIdentity sourceEntryPc : ℕ) (targets : List ℕ)
  deriving DecidableEq

/-- `requireOwnerThread` binds the cache to the thread of its first call and throws
"VU program cache accessed from a non-owner thread" for any other. -/
def step (c : VuProgramCache) : VuProgramCacheAct → VuProgramCache
  | .call thread call =>
    if c.ownerThread.any (· ≠ thread) then c
    else call.run { c with ownerThread := some thread }
  | .makeLinks address backendIdentity sourceEntryPc targets =>
    { c with
      linkStates := Function.update c.linkStates address
        (makeNativeLinkState backendIdentity sourceEntryPc targets) }

end VuProgramCache

end Ps2Recomp
