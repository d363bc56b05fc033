import Ps2Recomp.Gs.PageMask
import Ps2Recomp.Lib.Machine
import Ps2Recomp.Lib.TwoCopies

/-!
# Which copy of a VRAM page is current

Model of `GsVramCoherency` (`ps2_gs_coherency.cpp`, `ps2_gs_coherency.h`): for each page of GS
memory, the generations of its CPU and its GPU copy. A call returns the map it leaves and what it
throws.

Generations are natural numbers: `allocateGeneration` throws before `m_nextGeneration` would leave
64 bits. The counters of the statistics wrap around.
-/

namespace Ps2Recomp

open TwoCopies

/-! ## The map -/

inductive GsVramPageOwnership where
  | Synchronized
  | CpuNewer
  | GpuNewer
  deriving DecidableEq, Repr

structure GsVramPageVersion where
  cpuGeneration : Nat := 0
  gpuGeneration : Nat := 0
  deriving DecidableEq, Repr

def GsVramPageVersion.ownership (version : GsVramPageVersion) : GsVramPageOwnership :=
  if version.cpuGeneration = version.gpuGeneration then .Synchronized
  else if version.cpuGeneration > version.gpuGeneration then .CpuNewer
  else .GpuNewer

structure GsVramCoherencyStatistics where
  cpuWriteOperations : UInt64 := 0
  cpuWritePages : UInt64 := 0
  gpuWriteOperations : UInt64 := 0
  gpuWritePages : UInt64 := 0
  cpuToGpuOperations : UInt64 := 0
  cpuToGpuPages : UInt64 := 0
  gpuToCpuOperations : UInt64 := 0
  gpuToCpuPages : UInt64 := 0
  rejectedTransitions : UInt64 := 0
  deriving DecidableEq, Repr

structure GsVramCoherency where
  pages : Fin GS_VRAM_PAGE_COUNT → GsVramPageVersion := fun _ => {}
  statistics : GsVramCoherencyStatistics := {}
  nextGeneration : Nat := 1

/-- What a call throws. -/
inductive GsVramCoherencyError where
  | logicError (message : String)
  | overflowError (message : String)
  | invalidArgument (message : String)
  deriving DecidableEq, Repr

namespace GsVramCoherency

def invariantHolds (s : GsVramCoherency) : Bool :=
  decide (s.nextGeneration ≠ 0 ∧
    ∀ page, (s.pages page).cpuGeneration < s.nextGeneration ∧
      (s.pages page).gpuGeneration < s.nextGeneration)

/-- What `reject` does. -/
def reject (s : GsVramCoherency) (message : String) : GsVramCoherency × Option GsVramCoherencyError :=
  ({ s with
      statistics :=
        { s.statistics with rejectedTransitions := s.statistics.rejectedTransitions + 1 } },
    some (.logicError message))

def allocateGeneration (s : GsVramCoherency) : Option (Nat × GsVramCoherency) :=
  if s.nextGeneration = 2 ^ 64 - 1 then none
  else some (s.nextGeneration, { s with nextGeneration := s.nextGeneration + 1 })

/-- Where `allocateGeneration` throws. -/
def exhausted : GsVramCoherencyError :=
  .overflowError "GS VRAM coherency generation exhausted"

/-- The test that opens every call: a page of the mask has the ownership. -/
def overlaps (s : GsVramCoherency) (pages : GsVramPageMask) (ownership : GsVramPageOwnership) :
    Bool :=
  decide (∃ page : Fin GS_VRAM_PAGE_COUNT,
    pages.test page = true ∧ (s.pages page).ownership = ownership)

def copiedPages (s : GsVramCoherency) (pages : GsVramPageMask) : Nat :=
  (List.finRange GS_VRAM_PAGE_COUNT).countP fun page : Fin GS_VRAM_PAGE_COUNT =>
    pages.test page && (s.pages page).cpuGeneration != (s.pages page).gpuGeneration

def noteCpuWrite (s : GsVramCoherency) (pages : GsVramPageMask) :
    GsVramCoherency × Option GsVramCoherencyError :=
  if s.overlaps pages .GpuNewer then
    s.reject "CPU write overlaps a GPU-newer GS VRAM page"
  else if !pages.any then (s, none)
  else
    match s.allocateGeneration with
    | none => (s, some exhausted)
    | some (generation, s) =>
      ({ s with
          pages := fun page =>
            if pages.test page then { s.pages page with cpuGeneration := generation }
            else s.pages page
          statistics :=
            { s.statistics with
              cpuWriteOperations := s.statistics.cpuWriteOperations + 1
              cpuWritePages := s.statistics.cpuWritePages + UInt64.ofNat pages.count } },
        none)

def noteGpuWriteBatch (s : GsVramCoherency) (pages : GsVramPageMask)
    (operationCount pageTouches : UInt64) : GsVramCoherency × Option GsVramCoherencyError :=
  let uniquePages := pages.count
  if uniquePages = 0 then (s, none)
  else if operationCount = 0 ∨ pageTouches.toNat < uniquePages then
    (s, some (.invalidArgument "GPU write batch diagnostics do not describe its page mask"))
  else if s.overlaps pages .CpuNewer then
    s.reject "GPU write overlaps a CPU-newer GS VRAM page"
  else
    match s.allocateGeneration with
    | none => (s, some exhausted)
    | some (generation, s) =>
      ({ s with
          pages := fun page =>
            if pages.test page then { s.pages page with gpuGeneration := generation }
            else s.pages page
          statistics :=
            { s.statistics with
              gpuWriteOperations := s.statistics.gpuWriteOperations + operationCount
              gpuWritePages := s.statistics.gpuWritePages + pageTouches } },
        none)

def noteGpuWrite (s : GsVramCoherency) (pages : GsVramPageMask) :
    GsVramCoherency × Option GsVramCoherencyError :=
  s.noteGpuWriteBatch pages 1 (UInt64.ofNat pages.count)

def completeCpuToGpu (s : GsVramCoherency) (pages : GsVramPageMask) :
    GsVramCoherency × Option GsVramCoherencyError :=
  if s.overlaps pages .GpuNewer then
    s.reject "CPU-to-GPU copy would overwrite a GPU-newer GS VRAM page"
  else if !pages.any then (s, none)
  else
    ({ s with
        pages := fun page =>
          if !pages.test page || (s.pages page).cpuGeneration == (s.pages page).gpuGeneration then
            s.pages page
          else { s.pages page with gpuGeneration := (s.pages page).cpuGeneration }
        statistics :=
          { s.statistics with
            cpuToGpuOperations := s.statistics.cpuToGpuOperations + 1
            cpuToGpuPages :=
              s.statistics.cpuToGpuPages + UInt64.ofNat (s.copiedPages pages) } },
      none)

def completeGpuToCpu (s : GsVramCoherency) (pages : GsVramPageMask) :
    GsVramCoherency × Option GsVramCoherencyError :=
  if s.overlaps pages .CpuNewer then
    s.reject "GPU-to-CPU copy would overwrite a CPU-newer GS VRAM page"
  else if !pages.any then (s, none)
  else
    ({ s with
        pages := fun page =>
          if !pages.test page || (s.pages page).cpuGeneration == (s.pages page).gpuGeneration then
            s.pages page
          else { s.pages page with cpuGeneration := (s.pages page).gpuGeneration }
        statistics :=
          { s.statistics with
            gpuToCpuOperations := s.statistics.gpuToCpuOperations + 1
            gpuToCpuPages :=
              s.statistics.gpuToCpuPages + UInt64.ofNat (s.copiedPages pages) } },
      none)

end GsVramCoherency

/-! ## Pages as cells with a mark -/

/-- The ownership as a mark; the left copy is the CPU's. -/
def GsVramPageOwnership.mark : GsVramPageOwnership → Mark
  | .Synchronized => .both
  | .CpuNewer => .only .left
  | .GpuNewer => .only .right

namespace GsVramPageVersion

def generation (version : GsVramPageVersion) : Side → Nat
  | .left => version.cpuGeneration
  | .right => version.gpuGeneration

/-- The version with another generation for one copy. -/
def withGeneration (version : GsVramPageVersion) (side : Side) (generation : Nat) :
    GsVramPageVersion :=
  match side with
  | .left => { version with cpuGeneration := generation }
  | .right => { version with gpuGeneration := generation }

theorem mark_eq_both (version : GsVramPageVersion) :
    version.ownership.mark = .both ↔ version.cpuGeneration = version.gpuGeneration := by
  unfold ownership
  split
  · simp_all [GsVramPageOwnership.mark]
  · split <;> simp_all [GsVramPageOwnership.mark]

theorem mark_eq_only (version : GsVramPageVersion) (side : Side) :
    version.ownership.mark = .only side ↔
      version.generation side.other < version.generation side := by
  unfold ownership
  cases side
  all_goals
    simp only [generation, Side.other]
    split
    · simp only [GsVramPageOwnership.mark, reduceCtorEq, false_iff]
      omega
    · split
      all_goals
        simp only [GsVramPageOwnership.mark, Mark.only.injEq, reduceCtorEq, true_iff, false_iff]
        omega

/-- Writing a newer generation makes the copy the only current one. -/
theorem mark_withGeneration {version : GsVramPageVersion} {side : Side} {generation : Nat}
    (h : version.generation side.other < generation) :
    (version.withGeneration side generation).ownership.mark = .only side := by
  rw [mark_eq_only]
  cases side <;> exact h

theorem generation_withGeneration (version : GsVramPageVersion) (side side' : Side) (g : Nat) :
    (version.withGeneration side g).generation side' =
      if side' = side then g else version.generation side' := by
  cases side <;> cases side' <;> rfl

/-- A transfer skips the synchronized pages of its mask: copying them would change nothing. -/
theorem copy_unless_synchronized (version : GsVramPageVersion) (side : Side) (masked : Bool) :
    (if !masked || version.cpuGeneration == version.gpuGeneration then version
      else version.withGeneration side.other (version.generation side)) =
      if masked then version.withGeneration side.other (version.generation side) else version := by
  obtain ⟨cpu, gpu⟩ := version
  cases masked
  · rfl
  · by_cases heq : cpu = gpu
    · cases side <;> simp [heq, withGeneration, generation, Side.other]
    · simp [heq]

end GsVramPageVersion

namespace GsVramCoherency

variable {s s' : GsVramCoherency} {pages : GsVramPageMask} {side : Side}

/-- A write to the mask went through. -/
structure WriteStep (s s' : GsVramCoherency) (pages : GsVramPageMask) (side : Side) : Prop where
  permitted : ∀ page : Fin GS_VRAM_PAGE_COUNT,
    pages.test page = true → (s.pages page).ownership.mark.Permits side
  pages_eq : ∀ page : Fin GS_VRAM_PAGE_COUNT, s'.pages page =
    if pages.test page then (s.pages page).withGeneration side s.nextGeneration else s.pages page
  next_le : s.nextGeneration ≤ s'.nextGeneration
  next_lt : pages.any = true → s.nextGeneration < s'.nextGeneration

/-- A transfer of the mask went through. -/
structure TransferStep (s s' : GsVramCoherency) (pages : GsVramPageMask) (side : Side) : Prop where
  permitted : ∀ page : Fin GS_VRAM_PAGE_COUNT,
    pages.test page = true → (s.pages page).ownership.mark.Permits side
  pages_eq : ∀ page : Fin GS_VRAM_PAGE_COUNT, s'.pages page =
    if pages.test page then (s.pages page).withGeneration side.other ((s.pages page).generation side)
    else s.pages page
  next_eq : s'.nextGeneration = s.nextGeneration

/-- The map is the same up to the rejection counter. -/
def SameButRejections (s s' : GsVramCoherency) : Prop :=
  s' = { s with
    statistics :=
      { s.statistics with rejectedTransitions := s'.statistics.rejectedTransitions } }

/-- The call threw, or it did a step of the kind. -/
def Throws (s : GsVramCoherency) (result : GsVramCoherency × Option GsVramCoherencyError) : Prop :=
  result.2 ≠ none ∧ SameButRejections s result.1

theorem throws_reject (message : String) : Throws s (s.reject message) :=
  ⟨Option.some_ne_none _, rfl⟩

theorem throws_self (error : GsVramCoherencyError) : Throws s (s, some error) :=
  ⟨Option.some_ne_none _, rfl⟩

/-- Passing the opening test means that the mask permits the copy. -/
theorem permits_of_not_overlaps {ownership : GsVramPageOwnership}
    (hmark : ownership.mark = .only side.other) (h : ¬ s.overlaps pages ownership = true)
    (page : Fin GS_VRAM_PAGE_COUNT) (hpage : pages.test page = true) :
    (s.pages page).ownership.mark.Permits side := by
  intro hstale
  refine h (decide_eq_true ⟨page, hpage, ?_⟩)
  have hinj : ∀ a b : GsVramPageOwnership, a.mark = b.mark → a = b := by
    intro a b
    cases a <;> cases b <;> simp [GsVramPageOwnership.mark]
  exact hinj _ _ (hstale.trans hmark.symm)

theorem test_eq_false_of_not_any (h : pages.any = false) (page : Nat) : pages.test page = false := by
  rw [Bool.eq_false_iff] at h ⊢
  exact fun hpage => h (GsVramPageMask.any_eq_true.2 ⟨page, hpage⟩)

theorem writeStep_of_not_any (h : pages.any = false) : WriteStep s s pages side where
  permitted page hpage := absurd hpage (by simp [test_eq_false_of_not_any h])
  pages_eq page := by simp [test_eq_false_of_not_any h]
  next_le := le_rfl
  next_lt hany := by simp [h] at hany

theorem transferStep_of_not_any (h : pages.any = false) : TransferStep s s pages side where
  permitted page hpage := absurd hpage (by simp [test_eq_false_of_not_any h])
  pages_eq page := by simp [test_eq_false_of_not_any h]
  next_eq := rfl

theorem allocateGeneration_some {r : Nat × GsVramCoherency} (h : s.allocateGeneration = some r) :
    r = (s.nextGeneration, { s with nextGeneration := s.nextGeneration + 1 }) := by
  unfold allocateGeneration at h
  split at h
  · cases h
  · exact (Option.some.inj h).symm

/-! ## What each call does -/

/-- A write for which there was a generation. -/
theorem writeStep_of_allocate {ownership : GsVramPageOwnership} {generation : Nat}
    {s₁ s' : GsVramCoherency} (hmark : ownership.mark = .only side.other)
    (hoverlap : ¬ s.overlaps pages ownership = true)
    (halloc : s.allocateGeneration = some (generation, s₁))
    (hpages : ∀ page : Fin GS_VRAM_PAGE_COUNT, s'.pages page =
      if pages.test page then (s₁.pages page).withGeneration side generation else s₁.pages page)
    (hnext : s'.nextGeneration = s₁.nextGeneration) : WriteStep s s' pages side := by
  obtain ⟨rfl, rfl⟩ := Prod.mk.inj (allocateGeneration_some halloc)
  exact
    { permitted := permits_of_not_overlaps hmark hoverlap
      pages_eq := hpages
      next_le := hnext ▸ Nat.le_succ _
      next_lt := fun _ => hnext ▸ Nat.lt_succ_self _ }

theorem noteCpuWrite_spec (s : GsVramCoherency) (pages : GsVramPageMask) :
    Throws s (s.noteCpuWrite pages) ∨
      (s.noteCpuWrite pages).2 = none ∧ WriteStep s (s.noteCpuWrite pages).1 pages .left := by
  unfold noteCpuWrite
  split
  · exact .inl (throws_reject _)
  next hoverlap =>
    split
    next hany => exact .inr ⟨rfl, writeStep_of_not_any (by simpa using hany)⟩
    next hany =>
      split
      · exact .inl (throws_self _)
      next generation s₁ halloc =>
        exact .inr ⟨rfl, writeStep_of_allocate rfl hoverlap halloc (fun _ => rfl) rfl⟩

theorem noteGpuWriteBatch_spec (s : GsVramCoherency) (pages : GsVramPageMask)
    (operationCount pageTouches : UInt64) :
    Throws s (s.noteGpuWriteBatch pages operationCount pageTouches) ∨
      (s.noteGpuWriteBatch pages operationCount pageTouches).2 = none ∧
        WriteStep s (s.noteGpuWriteBatch pages operationCount pageTouches).1 pages .right := by
  unfold noteGpuWriteBatch
  dsimp only
  split
  next hcount =>
    exact .inr ⟨rfl, writeStep_of_not_any (GsVramPageMask.count_eq_zero.1 hcount)⟩
  next hcount =>
    split
    · exact .inl (throws_self _)
    · split
      · exact .inl (throws_reject _)
      next hoverlap =>
        split
        · exact .inl (throws_self _)
        next generation s₁ halloc =>
          exact .inr ⟨rfl, writeStep_of_allocate rfl hoverlap halloc (fun _ => rfl) rfl⟩

theorem completeCpuToGpu_spec (s : GsVramCoherency) (pages : GsVramPageMask) :
    Throws s (s.completeCpuToGpu pages) ∨
      (s.completeCpuToGpu pages).2 = none ∧
        TransferStep s (s.completeCpuToGpu pages).1 pages .left := by
  unfold completeCpuToGpu
  split
  · exact .inl (throws_reject _)
  next hoverlap =>
    split
    next hany => exact .inr ⟨rfl, transferStep_of_not_any (by simpa using hany)⟩
    next hany =>
      refine .inr ⟨rfl,
        { permitted := permits_of_not_overlaps rfl hoverlap
          pages_eq := fun page => ?_
          next_eq := rfl }⟩
      exact (s.pages page).copy_unless_synchronized .left (pages.test page)

theorem completeGpuToCpu_spec (s : GsVramCoherency) (pages : GsVramPageMask) :
    Throws s (s.completeGpuToCpu pages) ∨
      (s.completeGpuToCpu pages).2 = none ∧
        TransferStep s (s.completeGpuToCpu pages).1 pages .right := by
  unfold completeGpuToCpu
  split
  · exact .inl (throws_reject _)
  next hoverlap =>
    split
    next hany => exact .inr ⟨rfl, transferStep_of_not_any (by simpa using hany)⟩
    next hany =>
      refine .inr ⟨rfl,
        { permitted := permits_of_not_overlaps rfl hoverlap
          pages_eq := fun page => ?_
          next_eq := rfl }⟩
      exact (s.pages page).copy_unless_synchronized .right (pages.test page)

end GsVramCoherency

end Ps2Recomp
