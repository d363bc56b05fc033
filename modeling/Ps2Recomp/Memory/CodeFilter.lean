import Ps2Recomp.Memory.CodeModified

/-!
# The page filter in front of `markModified`

A write to RDRAM reaches `markModified` only if one of its pages is marked. No write is lost by
that (`observe_eq_markModified`): in every reachable state the marked pages are a superset of the
pages with a byte of a region (`Covered`), and a write whose pages are not marked meets no region,
so that `markModified` would change nothing.
-/

namespace Ps2Recomp

open Machine

variable {address size writerPc : ℕ}

namespace CodeRegion

variable {region : CodeRegion}

/-- Only flags change. -/
def SamePlace (region region' : CodeRegion) : Prop :=
  region'.start = region.start ∧ region'.end_ = region.end_

theorem samePlace_markModified (address writeEnd writerPc : ℕ) :
    region.SamePlace (region.markModified address writeEnd writerPc).1 := by
  unfold markModified
  split <;> exact ⟨rfl, rfl⟩

theorem samePlace_clearModifiedFlag {region' : CodeRegion} {writeEnd : ℕ}
    (h : region.clearModifiedFlag address writeEnd = some region') : region.SamePlace region' := by
  unfold clearModifiedFlag at h
  split at h
  · cases h
    exact ⟨rfl, rfl⟩
  · obtain ⟨modified, -, rfl⟩ := Option.map_eq_some_iff.1 h
    exact ⟨rfl, rfl⟩

end CodeRegion

/-- Where all of a list succeed, each result is that of a member. -/
theorem mem_of_mapM {α β : Type*} {f : α → Option β} {l : List α} {l' : List β}
    (h : l.mapM f = some l') {b : β} (hmem : b ∈ l') : ∃ a ∈ l, f a = some b := by
  induction l generalizing l' with
  | nil =>
    cases h
    exact absurd hmem List.not_mem_nil
  | cons a l ih =>
    rw [List.mapM_cons] at h
    obtain ⟨b', hb', hrest⟩ := Option.bind_eq_some_iff.1 h
    obtain ⟨rest, hl, heq⟩ := Option.bind_eq_some_iff.1 hrest
    cases heq
    rcases List.mem_cons.1 hmem with rfl | hmem
    · exact ⟨a, List.mem_cons_self, hb'⟩
    · obtain ⟨c, hc, hfc⟩ := ih hl hmem
      exact ⟨c, List.mem_cons_of_mem _ hc, hfc⟩

namespace CodeRegions

variable {m : CodeRegions}

/-- No page of RDRAM with a byte of a region is missing from the table. -/
structure Covered (m : CodeRegions) : Prop where
  lt : ∀ region ∈ m.codeRegions, region.start < region.end_
  hasCodeRegions : m.codeRegions ≠ [] → m.hasCodeRegions = true
  pages : ∀ region ∈ m.codeRegions, ∀ byte, region.start ≤ byte → byte < region.end_ →
    byte < PS2_RAM_SIZE → byte >>> kCodeRegionPageShift ∈ m.codeRegionPages

namespace Covered

theorem empty : Covered {} where
  lt _ hmem := absurd hmem List.not_mem_nil
  hasCodeRegions h := absurd rfl h
  pages _ hmem := absurd hmem List.not_mem_nil

/-- New flags and events do not matter. -/
theorem of_samePlace (h : m.Covered) {regions : List CodeRegion}
    (hregions : ∀ region' ∈ regions, ∃ region ∈ m.codeRegions, region.SamePlace region')
    (pending : List CodeInvalidationEvent) :
    Covered { m with codeRegions := regions, pendingCodeInvalidations := pending } where
  lt region' hmem := by
    obtain ⟨region, hregion, hstart, hend⟩ := hregions region' hmem
    rw [hstart, hend]
    exact h.lt region hregion
  hasCodeRegions hne := by
    obtain ⟨region', hmem⟩ := List.exists_mem_of_ne_nil _ hne
    obtain ⟨region, hregion, -⟩ := hregions region' hmem
    exact h.hasCodeRegions (List.ne_nil_of_mem hregion)
  pages region' hmem := by
    obtain ⟨region, hregion, hstart, hend⟩ := hregions region' hmem
    rw [hstart, hend]
    exact h.pages region hregion

/-! ## The operations -/

/-- The pages of the new region are marked, up to the end of RDRAM. -/
theorem registerCodeRegion (h : m.Covered) (start end_ : ℕ) :
    (m.registerCodeRegion start end_).Covered := by
  unfold CodeRegions.registerCodeRegion
  split
  · exact h
  split
  · exact h
  split
  · exact h
  rename_i hlt _ _
  constructor
  case lt =>
    intro region hmem
    rcases List.mem_append.1 hmem with hmem | hmem
    · exact h.lt region hmem
    · rw [List.mem_singleton.1 hmem]
      exact not_le.1 hlt
  case hasCodeRegions => exact fun _ => rfl
  case pages =>
    intro region hmem byte hlo hhi hram
    dsimp only
    rcases List.mem_append.1 hmem with hmem | hmem
    · have hpage := h.pages region hmem byte hlo hhi hram
      split
      · exact Finset.mem_union_left _ hpage
      · exact hpage
    · rw [List.mem_singleton.1 hmem] at hlo hhi
      dsimp only at hlo hhi
      rw [if_pos (by omega)]
      refine Finset.mem_union_right _ (Finset.mem_Icc.2 ⟨page_mono hlo, page_mono ?_⟩)
      omega

theorem markModified (h : m.Covered) (address size writerPc : ℕ) :
    (m.markModified address size writerPc).Covered := by
  unfold CodeRegions.markModified
  split
  · exact h
  · refine h.of_samePlace (fun region' hmem => ?_) _
    obtain ⟨region, hregion, rfl⟩ := List.mem_map.1 hmem
    exact ⟨region, hregion, CodeRegion.samePlace_markModified ..⟩

theorem observeRdramWriteSlow (h : m.Covered) (address size writerPc : ℕ) :
    (m.observeRdramWriteSlow address size writerPc).Covered := by
  unfold CodeRegions.observeRdramWriteSlow
  split
  · exact h
  split
  · exact h.markModified ..
  · exact h

theorem observeRdramWrite (h : m.Covered) (address size writerPc : ℕ) :
    (m.observeRdramWrite address size writerPc).Covered := by
  unfold CodeRegions.observeRdramWrite
  split
  · exact h
  · exact h.observeRdramWriteSlow ..

theorem clearModifiedFlag (h : m.Covered) {m' : CodeRegions}
    (hclear : m.clearModifiedFlag address size = some m') : m'.Covered := by
  unfold CodeRegions.clearModifiedFlag at hclear
  split at hclear
  · cases hclear
    exact h
  · obtain ⟨regions, hregions, heq⟩ := Option.bind_eq_some_iff.1 hclear
    cases heq
    refine h.of_samePlace (fun region' hmem => ?_) m.pendingCodeInvalidations
    obtain ⟨region, hregion, hcleared⟩ := mem_of_mapM hregions hmem
    exact ⟨region, hregion, CodeRegion.samePlace_clearModifiedFlag hcleared⟩

end Covered

/-! ## No write is lost -/

/-- A write that meets no region is not seen. -/
theorem markModified_of_misses
    (h : ∀ region ∈ m.codeRegions, region.misses address (address + size)) :
    m.markModified address size writerPc = m := by
  have hnone : ∀ region ∈ m.codeRegions,
      region.markModified address (address + size) writerPc = (region, []) := by
    intro region hmem
    unfold CodeRegion.markModified
    rw [if_pos (h region hmem)]
  have hregions : m.codeRegions.map (fun region =>
      (region.markModified address (address + size) writerPc).1) = m.codeRegions := by
    refine (List.map_congr_left fun region hmem => ?_).trans (List.map_id _)
    rw [hnone region hmem]
    rfl
  have hevents : m.codeRegions.flatMap (fun region =>
      (region.markModified address (address + size) writerPc).2) = [] := by
    refine List.flatMap_eq_nil_iff.2 fun region hmem => ?_
    rw [hnone region hmem]
  unfold markModified
  split
  · rfl
  · rw [hregions, hevents, List.append_nil]

/-- The pages of a write that meets a region are not all unmarked. -/
theorem Covered.page_of_meets (h : m.Covered) {region : CodeRegion} (hmem : region ∈ m.codeRegions)
    (hmeets : ¬region.misses address (address + size)) (hsize : size ≠ 0)
    (hram : address + size ≤ PS2_RAM_SIZE) :
    (Finset.Icc (address >>> kCodeRegionPageShift) ((address + size - 1) >>> kCodeRegionPageShift) ∩
      m.codeRegionPages).Nonempty := by
  have hlt := h.lt region hmem
  unfold CodeRegion.misses at hmeets
  -- the first byte of the overlap
  obtain ⟨byte, hbyte⟩ : ∃ byte, byte = max address region.start := ⟨_, rfl⟩
  have hpage := h.pages region hmem byte (by omega) (by omega) (by omega)
  refine ⟨byte >>> kCodeRegionPageShift, Finset.mem_inter.2 ⟨Finset.mem_Icc.2 ⟨?_, ?_⟩, hpage⟩⟩
  · exact page_mono (by omega)
  · exact page_mono (by omega)

/-- **The filter changes nothing** for a write inside RDRAM. -/
theorem Covered.observeRdramWrite_eq (h : m.Covered) (hram : address + size ≤ PS2_RAM_SIZE) :
    m.observeRdramWrite address size writerPc = m.markModified address size writerPc := by
  unfold CodeRegions.observeRdramWrite
  split
  · rename_i hnone
    refine (markModified_of_misses fun region hmem => ?_).symm
    rw [h.hasCodeRegions (List.ne_nil_of_mem hmem)] at hnone
    cases hnone
  unfold CodeRegions.observeRdramWriteSlow
  split
  · -- only a write of no bytes is rejected
    rename_i hout
    obtain rfl : size = 0 := by omega
    rfl
  rename_i hin
  split
  · rfl
  · rename_i hpages
    refine (markModified_of_misses fun region hmem => ?_).symm
    by_contra hmeets
    exact hpages (h.page_of_meets hmem hmeets (by omega) hram)

end CodeRegions

/-! ## Runs -/

namespace CodeWorld

theorem covered_act {m m' : CodeRegions} {action : CodeAction} (h : m.Covered)
    (hact : act m action = some m') : m'.Covered := by
  cases action with
  | registerCodeRegion start end_ =>
    cases hact
    exact h.registerCodeRegion ..
  | observeRdramWrite physicalAddress size writerPc =>
    cases hact
    exact h.observeRdramWrite ..
  | observeRdramWriteFixed accessSize physicalAddress writerPc =>
    cases hact
    rw [m.observeRdramWriteFixed_eq (Nat.succ_pos _) accessSize.isLt]
    exact h.observeRdramWrite ..
  | isCodeModified address size =>
    obtain ⟨_, -, rfl⟩ := Option.map_eq_some_iff.1 hact
    exact h
  | clearModifiedFlag address size => exact h.clearModifiedFlag hact

theorem covered_run {actions : List CodeAction} {m : CodeRegions}
    (hrun : run step (some {}) actions = some m) : m.Covered := by
  have hall : ∀ m ∈ run step (some {}) actions, m.Covered := by
    have hfree : Along step (fun _ _ => True) (some {}) actions :=
      along_of_forall fun _ _ _ => trivial
    refine invariant (I := fun w : CodeWorld => ∀ m ∈ w, m.Covered) ?_ ?_ hfree
    · intro w action hw _ m' hm'
      obtain ⟨m, hm, hact⟩ := Option.bind_eq_some_iff.1 hm'
      exact covered_act (hw m hm) hact
    · intro m hm
      cases hm
      exact CodeRegions.Covered.empty
  exact hall m hrun

/-- **The filter never hides a write.** In every reachable state each page of RDRAM with a byte of
a registered region is marked, and a write inside RDRAM, of any size and through either entry point,
leaves what `markModified` would leave. -/
theorem observe_eq_markModified {actions : List CodeAction} {m : CodeRegions}
    (hrun : run step (some {}) actions = some m) :
    (∀ region ∈ m.codeRegions, ∀ byte, region.start ≤ byte → byte < region.end_ →
        byte < PS2_RAM_SIZE → byte >>> kCodeRegionPageShift ∈ m.codeRegionPages) ∧
      ∀ physicalAddress writerPc : BitVec 32,
        (∀ size : BitVec 32, physicalAddress.toNat + size.toNat ≤ PS2_RAM_SIZE →
          m.observeRdramWrite physicalAddress.toNat size.toNat writerPc.toNat =
            m.markModified physicalAddress.toNat size.toNat writerPc.toNat) ∧
        ∀ accessSize : Fin 16, physicalAddress.toNat + (accessSize + 1) ≤ PS2_RAM_SIZE →
          m.observeRdramWriteFixed (accessSize + 1) physicalAddress.toNat writerPc.toNat =
            m.markModified physicalAddress.toNat (accessSize + 1) writerPc.toNat := by
  have hcovered := covered_run hrun
  refine ⟨hcovered.pages, fun physicalAddress writerPc => ⟨fun size hram => ?_, ?_⟩⟩
  · exact hcovered.observeRdramWrite_eq hram
  · intro accessSize hram
    rw [m.observeRdramWriteFixed_eq (Nat.succ_pos _) accessSize.isLt]
    exact hcovered.observeRdramWrite_eq hram

/-- A region from the last byte of one page on, and a write that straddles the two pages. -/
theorem observe_eq_markModified_straddle :
    (({} : CodeRegions).registerCodeRegion 0x1FFF 0x2003).observeRdramWriteFixed 8 0x1FFC 0 =
      (({} : CodeRegions).registerCodeRegion 0x1FFF 0x2003).markModified 0x1FFC 8 0 := by
  have hrun : run step (some {}) [.registerCodeRegion 0x1FFF 0x2003] =
      some (({} : CodeRegions).registerCodeRegion 0x1FFF 0x2003) := rfl
  exact ((observe_eq_markModified hrun).2 0x1FFC 0).2 7 (by decide)

end CodeWorld

end Ps2Recomp
