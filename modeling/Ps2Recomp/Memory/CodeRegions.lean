import Ps2Recomp.Lib.Machine
import Mathlib.Data.Nat.Basic
import Mathlib.Order.Interval.Finset.Nat

/-!
# Self-modifying code (`ps2_memory.h`, `ps2_memory.cpp`)

The code regions of `PS2Memory`, each with one flag for every four bytes counted from its start.
Addresses and sizes are `uint32_t`: natural numbers below `2 ^ 32`, which `addr += 4` takes modulo
`2 ^ 32`. The bits of `m_codeRegionPages` are the set `codeRegionPages`.

The loops of `isCodeModified` and `clearModifiedFlag` go from the start of the overlap in steps of
four while they are below its end. For a region that ends within the last four bytes of the address
space `addr` wraps around and stays below the end: `addressLoop` is given the `2 ^ 30` steps after
which `addr` is where it was, and `none` is a loop that never ends (`addressLoop_never`).
-/

namespace Ps2Recomp

def PS2_RAM_SIZE : ℕ := 32 * 1024 * 1024

def kCodeRegionPageShift : ℕ := 12

structure CodeInvalidationEvent where
  start : ℕ := 0
  end_ : ℕ := 0
  words : ℕ := 0
  writerPc : ℕ := 0
  deriving DecidableEq, Repr

structure CodeRegion where
  start : ℕ
  end_ : ℕ
  modified : List Bool
  deriving DecidableEq, Repr

structure CodeRegions where
  codeRegions : List CodeRegion := []
  hasCodeRegions : Bool := false
  codeRegionPages : Finset ℕ := ∅
  pendingCodeInvalidations : List CodeInvalidationEvent := []
  deriving DecidableEq

namespace CodeRegion

/-! ## Marking -/

/-- The region does not meet the interval from `address` to `writeEnd`. -/
def misses (region : CodeRegion) (address writeEnd : ℕ) : Prop :=
  writeEnd ≤ region.start ∨ region.end_ ≤ address

instance (region : CodeRegion) (address writeEnd : ℕ) :
    Decidable (region.misses address writeEnd) :=
  inferInstanceAs (Decidable (_ ∨ _))

/-- The state of the loop of `markModified` over the words of a region. -/
structure Marking where
  modified : List Bool
  pending : CodeInvalidationEvent
  flushed : List CodeInvalidationEvent := []

/-- One word in the loop of `markModified`. -/
def markWord (region : CodeRegion) (writerPc : ℕ) (s : Marking) (bitIndex : ℕ) : Marking :=
  if s.modified.length ≤ bitIndex ∨ s.modified[bitIndex]? = some true then s
  else
    let wordStart := region.start + bitIndex * 4
    let wordEnd := min ((wordStart + 4) % 2 ^ 32) region.end_
    let flush := s.pending.words ≠ 0 ∧ wordStart ≠ s.pending.end_
    let flushed := if flush then s.flushed ++ [s.pending] else s.flushed
    let pending : CodeInvalidationEvent := if flush then { writerPc := writerPc } else s.pending
    { modified := s.modified.set bitIndex true
      pending :=
        { pending with
          start := if pending.words = 0 then wordStart else pending.start
          end_ := wordEnd
          words := pending.words + 1 }
      flushed := flushed }

/-- `markModified`, one region: the region and the events for it. -/
def markModified (region : CodeRegion) (address writeEnd writerPc : ℕ) :
    CodeRegion × List CodeInvalidationEvent :=
  if region.misses address writeEnd then (region, [])
  else
    let overlapStart := max address region.start
    let overlapEnd := min writeEnd region.end_
    let firstWord := (overlapStart - region.start) / 4
    let lastWord := (overlapEnd - region.start + 3) / 4
    let s := (List.range' firstWord (lastWord - firstWord)).foldl (region.markWord writerPc)
      { modified := region.modified, pending := { writerPc := writerPc } }
    ({ region with modified := s.modified },
      if s.pending.words ≠ 0 then s.flushed ++ [s.pending] else s.flushed)

/-! ## Looking and clearing -/

/-- After so many steps of four bytes an address is where it was. -/
def addressSteps : ℕ := 2 ^ 30

/-- `for (uint32_t addr = overlapStart; addr < overlapEnd; addr += 4)`, where `visit` may return
from the function. -/
def addressLoop {σ : Type} (overlapEnd : ℕ) (visit : σ → ℕ → σ × Bool) : ℕ → σ → ℕ → Option σ
  | 0, _, _ => none
  | steps + 1, s, addr =>
    if addr < overlapEnd then
      if (visit s addr).2 then some (visit s addr).1
      else addressLoop overlapEnd visit steps (visit s addr).1 ((addr + 4) % 2 ^ 32)
    else some s

section Loop

variable {σ : Type} {overlapEnd addr : ℕ} {visit : σ → ℕ → σ × Bool} {s : σ}

end Loop

/-- `(addr - region.start) / 4`, a `uint32_t` difference. -/
def bitIndex (region : CodeRegion) (addr : ℕ) : ℕ := (addr + 2 ^ 32 - region.start) % 2 ^ 32 / 4

/-- `isCodeModified`, one region. -/
def isCodeModified (region : CodeRegion) (address writeEnd : ℕ) : Option Bool :=
  if region.misses address writeEnd then some false
  else
    addressLoop (min writeEnd region.end_)
      (fun _ addr =>
        let found := region.modified[region.bitIndex addr]? == some true
        (found, found))
      addressSteps false (max address region.start)

/-- `clearModifiedFlag`, one region. -/
def clearModifiedFlag (region : CodeRegion) (address writeEnd : ℕ) : Option CodeRegion :=
  if region.misses address writeEnd then some region
  else
    (addressLoop (min writeEnd region.end_)
      (fun modified addr =>
        (if region.bitIndex addr < modified.length then modified.set (region.bitIndex addr) false
          else modified, false))
      addressSteps region.modified (max address region.start)).map
      fun modified => { region with modified := modified }

end CodeRegion

namespace CodeRegions

variable (m : CodeRegions)

/-! ## Registering -/

def registerCodeRegion (start end_ : ℕ) : CodeRegions :=
  if end_ ≤ start then m
  else if PS2_RAM_SIZE < end_ - start then m
  else if m.codeRegions.any fun existing => existing.start == start && existing.end_ == end_ then m
  else
    { m with
      codeRegions := m.codeRegions ++
        [{ start := start
           end_ := end_
           modified := List.replicate ((end_ - start + 3) / 4) false }]
      hasCodeRegions := true
      codeRegionPages :=
        if start < PS2_RAM_SIZE then
          m.codeRegionPages ∪ Finset.Icc (start >>> kCodeRegionPageShift)
            ((min end_ PS2_RAM_SIZE - 1) >>> kCodeRegionPageShift)
        else m.codeRegionPages }

/-! ## Writes -/

def markModified (address size writerPc : ℕ) : CodeRegions :=
  if size = 0 then m
  else
    { m with
      codeRegions := m.codeRegions.map fun region =>
        (region.markModified address (address + size) writerPc).1
      pendingCodeInvalidations := m.pendingCodeInvalidations ++
        m.codeRegions.flatMap fun region =>
          (region.markModified address (address + size) writerPc).2 }

def observeRdramWriteSlow (physicalAddress size writerPc : ℕ) : CodeRegions :=
  if size = 0 ∨ PS2_RAM_SIZE ≤ physicalAddress ∨ PS2_RAM_SIZE - physicalAddress < size then m
  else if (Finset.Icc (physicalAddress >>> kCodeRegionPageShift)
      ((physicalAddress + size - 1) >>> kCodeRegionPageShift) ∩ m.codeRegionPages).Nonempty then
    m.markModified physicalAddress size writerPc
  else m

def observeRdramWrite (physicalAddress size writerPc : ℕ) : CodeRegions :=
  if !m.hasCodeRegions then m else m.observeRdramWriteSlow physicalAddress size writerPc

/-- `observeRdramWriteFixed<AccessSize>`, which is instantiated for one to sixteen bytes. -/
def observeRdramWriteFixed (accessSize physicalAddress writerPc : ℕ) : CodeRegions :=
  if !m.hasCodeRegions ∨ PS2_RAM_SIZE - accessSize < physicalAddress then m
  else
    let firstPage := physicalAddress >>> kCodeRegionPageShift
    let lastPage := (physicalAddress + accessSize - 1) >>> kCodeRegionPageShift
    if firstPage ∉ m.codeRegionPages ∧ (lastPage = firstPage ∨ lastPage ∉ m.codeRegionPages) then m
    else m.observeRdramWriteSlow physicalAddress accessSize writerPc

/-! ## Queries and clears -/

/-- The loop of `isCodeModified` over the regions. -/
def anyModified (address writeEnd : ℕ) : List CodeRegion → Option Bool
  | [] => some false
  | region :: rest => do
    if ← region.isCodeModified address writeEnd then return true
    anyModified address writeEnd rest

/-- `none` is a call that never returns. -/
def isCodeModified (address size : ℕ) : Option Bool :=
  if size = 0 then some false else anyModified address (address + size) m.codeRegions

def clearModifiedFlag (address size : ℕ) : Option CodeRegions :=
  if size = 0 then some m
  else do
    let codeRegions ← m.codeRegions.mapM fun region =>
      region.clearModifiedFlag address (address + size)
    return { m with codeRegions := codeRegions }

end CodeRegions

/-! ## Runs -/

inductive CodeAction where
  | registerCodeRegion (start end_ : BitVec 32)
  | observeRdramWrite (physicalAddress size writerPc : BitVec 32)
  | observeRdramWriteFixed (accessSize : Fin 16) (physicalAddress writerPc : BitVec 32)
  | isCodeModified (address size : BitVec 32)
  | clearModifiedFlag (address size : BitVec 32)
  deriving DecidableEq, Repr

/-- The regions; `none` after a call that never returns. -/
abbrev CodeWorld := Option CodeRegions

namespace CodeWorld

/-- A query answers and changes nothing; `accessSize` counts from one byte. -/
def act (m : CodeRegions) : CodeAction → CodeWorld
  | .registerCodeRegion start end_ => some (m.registerCodeRegion start.toNat end_.toNat)
  | .observeRdramWrite physicalAddress size writerPc =>
    some (m.observeRdramWrite physicalAddress.toNat size.toNat writerPc.toNat)
  | .observeRdramWriteFixed accessSize physicalAddress writerPc =>
    some (m.observeRdramWriteFixed (accessSize + 1) physicalAddress.toNat writerPc.toNat)
  | .isCodeModified address size => (m.isCodeModified address.toNat size.toNat).map fun _ => m
  | .clearModifiedFlag address size => m.clearModifiedFlag address.toNat size.toNat

def step (w : CodeWorld) (action : CodeAction) : CodeWorld := w.bind fun m => act m action

end CodeWorld

end Ps2Recomp
