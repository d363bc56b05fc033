import Ps2Recomp.Gs.Coherency

/-!
# Runs of the coherency map

A run is a list of calls. Beside the map stand the copies it is about: each page is a
`TwoCopies.Cell` whose left copy is the CPU's. A write that the map accepts stamps the call's value
on one copy of every page of its mask; a transfer that it accepts copies one side over the other. A
call that throws does nothing to the copies.

`Fresh` asks that a call's value is new. Every call is allowed at any time, accepted or not, and a
run may exhaust the generations.
-/

namespace Ps2Recomp

open TwoCopies

inductive GsVramCoherencyCall where
  | noteCpuWrite (pages : GsVramPageMask)
  | noteGpuWrite (pages : GsVramPageMask)
  | noteGpuWriteBatch (pages : GsVramPageMask) (operationCount pageTouches : UInt64)
  | completeCpuToGpu (pages : GsVramPageMask)
  | completeGpuToCpu (pages : GsVramPageMask)

namespace GsVramCoherencyCall

def pages : GsVramCoherencyCall → GsVramPageMask
  | .noteCpuWrite pages | .noteGpuWrite pages | .noteGpuWriteBatch pages _ _
  | .completeCpuToGpu pages | .completeGpuToCpu pages => pages

def apply (call : GsVramCoherencyCall) (s : GsVramCoherency) :
    GsVramCoherency × Option GsVramCoherencyError :=
  match call with
  | .noteCpuWrite pages => s.noteCpuWrite pages
  | .noteGpuWrite pages => s.noteGpuWrite pages
  | .noteGpuWriteBatch pages operationCount pageTouches =>
    s.noteGpuWriteBatch pages operationCount pageTouches
  | .completeCpuToGpu pages => s.completeCpuToGpu pages
  | .completeGpuToCpu pages => s.completeGpuToCpu pages

/-- What the call does to the copies of a page of its mask; `v` is the value it writes. -/
def effect {V : Type*} (call : GsVramCoherencyCall) (v : V) (c : Cell V) : Cell V :=
  match call with
  | .noteCpuWrite _ => c.write .left v
  | .noteGpuWrite _ | .noteGpuWriteBatch _ _ _ => c.write .right v
  | .completeCpuToGpu _ => c.transfer .left
  | .completeGpuToCpu _ => c.transfer .right

/-- **What a call can do.** -/
theorem apply_cases {V : Type*} (call : GsVramCoherencyCall) (s : GsVramCoherency) :
    GsVramCoherency.Throws s (call.apply s) ∨
      (call.apply s).2 = none ∧ ∃ side,
        (GsVramCoherency.WriteStep s (call.apply s).1 call.pages side ∧
            ∀ (v : V) c, call.effect v c = c.write side v) ∨
          (GsVramCoherency.TransferStep s (call.apply s).1 call.pages side ∧
            ∀ (v : V) c, call.effect v c = c.transfer side) := by
  cases call with
  | noteCpuWrite pages =>
    exact (s.noteCpuWrite_spec pages).imp_right
      fun h => ⟨h.1, _, .inl ⟨h.2, fun _ _ => rfl⟩⟩
  | noteGpuWrite pages =>
    exact (s.noteGpuWriteBatch_spec pages _ _).imp_right
      fun h => ⟨h.1, _, .inl ⟨h.2, fun _ _ => rfl⟩⟩
  | noteGpuWriteBatch pages operationCount pageTouches =>
    exact (s.noteGpuWriteBatch_spec pages _ _).imp_right
      fun h => ⟨h.1, _, .inl ⟨h.2, fun _ _ => rfl⟩⟩
  | completeCpuToGpu pages =>
    exact (s.completeCpuToGpu_spec pages).imp_right
      fun h => ⟨h.1, _, .inr ⟨h.2, fun _ _ => rfl⟩⟩
  | completeGpuToCpu pages =>
    exact (s.completeGpuToCpu_spec pages).imp_right
      fun h => ⟨h.1, _, .inr ⟨h.2, fun _ _ => rfl⟩⟩

end GsVramCoherencyCall

/-! ## Runs -/

/-- The map with the copies of every page. -/
structure TrackedVram (V : Type*) where
  coherency : GsVramCoherency := {}
  cells : Fin GS_VRAM_PAGE_COUNT → Cell V := fun _ => {}

namespace TrackedVram

variable {V : Type*} {s : TrackedVram V} {a : GsVramCoherencyCall × V}

def step (s : TrackedVram V) (a : GsVramCoherencyCall × V) : TrackedVram V :=
  let result := a.1.apply s.coherency
  { coherency := result.1
    cells := fun page =>
      if result.2 = none ∧ a.1.pages.test page then a.1.effect a.2 (s.cells page)
      else s.cells page }

/-- The value of the call is new to every page. -/
def Fresh (s : TrackedVram V) (a : GsVramCoherencyCall × V) : Prop :=
  ∀ page, a.2 ∉ (s.cells page).written

instance [DecidableEq V] : Decidable (Fresh s a) :=
  inferInstanceAs (Decidable (∀ _, _))

/-- The map is right about the copies. -/
structure Right (s : TrackedVram V) : Prop where
  next_pos : 0 < s.coherency.nextGeneration
  generation_lt : ∀ page side,
    (s.coherency.pages page).generation side < s.coherency.nextGeneration
  marked : ∀ page, Marked (s.cells page) (s.coherency.pages page).ownership.mark

theorem right_reset : Right ({} : TrackedVram V) where
  next_pos := Nat.one_pos
  generation_lt _ side := by cases side <;> exact Nat.one_pos
  marked _ := marked_empty

theorem Right.invariantHolds (h : Right s) : s.coherency.invariantHolds = true :=
  decide_eq_true
    ⟨h.next_pos.ne', fun page => ⟨h.generation_lt page .left, h.generation_lt page .right⟩⟩

/-- A call that throws changes the rejection counter at most. -/
theorem step_of_throws (h : (a.1.apply s.coherency).2 ≠ none) :
    (step s a).cells = s.cells ∧
      GsVramCoherency.SameButRejections s.coherency (step s a).coherency := by
  refine ⟨funext fun page => if_neg fun hcond => h hcond.1, ?_⟩
  obtain hthrows | ⟨hnone, -⟩ := a.1.apply_cases (V := V) s.coherency
  · exact hthrows.2
  · exact absurd hnone h

theorem Right.of_same (h : Right s) (hsame : GsVramCoherency.SameButRejections s.coherency
    (step s a).coherency) (hcells : (step s a).cells = s.cells) : Right (step s a) := by
  have hpages : (step s a).coherency.pages = s.coherency.pages := by rw [hsame]
  have hnext : (step s a).coherency.nextGeneration = s.coherency.nextGeneration := by rw [hsame]
  refine ⟨?_, ?_, ?_⟩
  · rw [hnext]
    exact h.next_pos
  · rw [hpages, hnext]
    exact h.generation_lt
  · rw [hpages, hcells]
    exact h.marked

/-- The cells after a call that is accepted. -/
theorem step_cells (h : (a.1.apply s.coherency).2 = none) (page : Fin GS_VRAM_PAGE_COUNT) :
    (step s a).cells page =
      if a.1.pages.test page then a.1.effect a.2 (s.cells page) else s.cells page := by
  simp only [step, h, true_and]

theorem Right.write (h : Right s) (hfresh : Fresh s a) {side : Side}
    (hnone : (a.1.apply s.coherency).2 = none)
    (hstep : GsVramCoherency.WriteStep s.coherency (step s a).coherency a.1.pages side)
    (heffect : ∀ c, a.1.effect a.2 c = c.write side a.2) : Right (step s a) := by
  refine ⟨h.next_pos.trans_le hstep.next_le, fun page side' => ?_, fun page => ?_⟩
  · rw [hstep.pages_eq]
    have hold := (h.generation_lt page side').trans_le hstep.next_le
    split
    next hpage =>
      rw [GsVramPageVersion.generation_withGeneration]
      split
      · exact hstep.next_lt (GsVramPageMask.any_eq_true.2 ⟨page, hpage⟩)
      · exact hold
    next => exact hold
  · rw [hstep.pages_eq, step_cells hnone]
    split
    next hpage =>
      rw [heffect, GsVramPageVersion.mark_withGeneration (h.generation_lt page _)]
      exact (h.marked page).write (hstep.permitted page hpage) (hfresh page)
    next => exact h.marked page

theorem Right.transfer (h : Right s) {side : Side} (hnone : (a.1.apply s.coherency).2 = none)
    (hstep : GsVramCoherency.TransferStep s.coherency (step s a).coherency a.1.pages side)
    (heffect : ∀ c, a.1.effect a.2 c = c.transfer side) : Right (step s a) := by
  refine ⟨hstep.next_eq ▸ h.next_pos, fun page side' => ?_, fun page => ?_⟩
  · rw [hstep.pages_eq, hstep.next_eq]
    split
    · rw [GsVramPageVersion.generation_withGeneration]
      split <;> exact h.generation_lt page _
    · exact h.generation_lt page _
  · rw [hstep.pages_eq, step_cells hnone]
    split
    next hpage =>
      have hboth : ((s.coherency.pages page).withGeneration side.other
          ((s.coherency.pages page).generation side)).ownership.mark = .both := by
        rw [GsVramPageVersion.mark_eq_both]
        cases side <;> rfl
      rw [heffect, hboth]
      exact (h.marked page).transfer (hstep.permitted page hpage)
    next => exact h.marked page

/-- **A call keeps the map right.** -/
theorem Right.step (h : Right s) (hfresh : Fresh s a) : Right (step s a) := by
  obtain hthrows | ⟨hnone, side, ⟨hstep, heffect⟩ | ⟨hstep, heffect⟩⟩ :=
    a.1.apply_cases (V := V) s.coherency
  · exact h.of_same (step_of_throws hthrows.1).2 (step_of_throws hthrows.1).1
  · exact h.write hfresh hnone hstep (heffect a.2)
  · exact h.transfer hnone hstep (heffect a.2)

/-- A call takes nothing from a copy that alone holds the most recent write. -/
theorem Right.keeps_only (h : Right s) (page : Fin GS_VRAM_PAGE_COUNT) {side : Side}
    (honly : (s.cells page).Holds side ∧ ¬ (s.cells page).Holds side.other) :
    (s.cells page).copies side <:+ ((TrackedVram.step s a).cells page).copies side := by
  have hmark := (h.marked page).only_iff.2 honly
  obtain hthrows | ⟨hnone, side', ⟨hstep, heffect⟩ | ⟨hstep, heffect⟩⟩ :=
    a.1.apply_cases (V := V) s.coherency
  · rw [(step_of_throws hthrows.1).1]
  · rw [step_cells hnone]
    split
    · rw [heffect]
      exact Cell.suffix_write _ _ _ _
    · exact List.suffix_rfl
  · rw [step_cells hnone]
    split
    next hpage =>
      rw [heffect, Cell.transfer_only (hstep.permitted page hpage) hmark]
    · exact List.suffix_rfl

theorem right_run {calls : List (GsVramCoherencyCall × V)}
    (hfresh : Machine.Along TrackedVram.step Fresh {} calls) :
    Right (Machine.run TrackedVram.step {} calls) :=
  Machine.invariant (fun _ _ h hf => h.step hf) right_reset hfresh

end TrackedVram

/-- **No write is lost.** After every run the map's invariant holds, the ownership of a page says
which of its copies hold the most recent write, and some copy carries every write made to the page.
Whatever the next call is, it takes nothing from a copy that alone holds the most recent write; if
it throws, it changes the rejection counter at most. -/
theorem GsVramCoherency.never_loses_a_write {V : Type*} (calls : List (GsVramCoherencyCall × V))
    (hfresh : Machine.Along TrackedVram.step TrackedVram.Fresh {} calls) :
    let s := Machine.run TrackedVram.step {} calls
    s.coherency.invariantHolds = true ∧
      (∀ page,
        ((s.coherency.pages page).ownership = .Synchronized ↔
          (s.cells page).Holds .left ∧ (s.cells page).Holds .right) ∧
        ((s.coherency.pages page).ownership = .CpuNewer ↔
          (s.cells page).Holds .left ∧ ¬ (s.cells page).Holds .right) ∧
        ((s.coherency.pages page).ownership = .GpuNewer ↔
          (s.cells page).Holds .right ∧ ¬ (s.cells page).Holds .left) ∧
        ∃ side, (s.cells page).copies side = (s.cells page).written) ∧
      ∀ a : GsVramCoherencyCall × V,
        (∀ page side, (s.cells page).Holds side → ¬ (s.cells page).Holds side.other →
          (s.cells page).copies side <:+ ((TrackedVram.step s a).cells page).copies side) ∧
        ((a.1.apply s.coherency).2 ≠ none →
          (TrackedVram.step s a).cells = s.cells ∧
            SameButRejections s.coherency (TrackedVram.step s a).coherency) := by
  intro s
  have hright := TrackedVram.right_run hfresh
  refine ⟨hright.invariantHolds, fun page => ?_, fun a => ⟨?_, TrackedVram.step_of_throws⟩⟩
  · have hmarked := hright.marked page
    have hmark : ∀ o : GsVramPageOwnership,
        (s.coherency.pages page).ownership = o ↔
          (s.coherency.pages page).ownership.mark = o.mark := by
      intro o
      cases (s.coherency.pages page).ownership <;> cases o <;> simp [GsVramPageOwnership.mark]
    exact ⟨(hmark _).trans hmarked.both_iff, (hmark _).trans hmarked.only_iff,
      (hmark _).trans hmarked.only_iff, hmarked.exists_complete⟩
  · exact fun page side hholds hother => hright.keeps_only page ⟨hholds, hother⟩

/-- A run with a CPU write, a transfer and a GPU write to the same page. -/
theorem GsVramCoherency.never_loses_a_write_pages :
    (Machine.run TrackedVram.step {}
      [(.noteCpuWrite (({} : GsVramPageMask).set 3), 1),
        (.completeCpuToGpu (({} : GsVramPageMask).set 3), 2),
        (.noteGpuWrite (({} : GsVramPageMask).set 3), 3)]).coherency.invariantHolds = true :=
  (GsVramCoherency.never_loses_a_write (V := Nat) _ (by decide +kernel)).1

end Ps2Recomp
