import Ps2Recomp.Lib.Machine
import Ps2Recomp.Lib.SlotTable
import Ps2Recomp.Vu.ProgramCache

/-!
# The program cache keeps its tables and its links right

The slots of the cache with its hash table are a `SlotTable`; `WellFormed` adds that the free
indices name empty slots, that the counts are the sums over the slots and within the limits, and
`LinksOk`: every link leads to the linked entry of a resident program, and a link state that no
resident program holds leads nowhere. `evict` is the operation that could break it: afterwards no
link of a resident program leads to the victim's entry.
-/

namespace Ps2Recomp

open SlotTable Machine

/-! ## Keys -/

namespace VuProgramKey

theorem sameProgramIdentity_iff {left right : VuProgramKey} :
    left.sameProgramIdentity right = true ↔
      { left with codeGeneration := 0, codeContentIdentity := 0 } =
          ({ right with codeGeneration := 0, codeContentIdentity := 0 } : VuProgramKey) ∧
        left.codeContentIdentity = right.codeContentIdentity ∧
        (left.codeContentIdentity = 0 → left.codeGeneration = right.codeGeneration) := by
  unfold sameProgramIdentity
  rw [VuProgramKey.mk.injEq]
  split
  next hne =>
    simp only [Bool.false_eq_true, false_iff]
    tauto
  next heq =>
    push Not at heq
    split
    next hcontent =>
      simp only [Bool.and_eq_true, decide_eq_true_eq, beq_iff_eq]
      constructor
      · rintro ⟨hne, hsame⟩
        exact ⟨by simp only [heq, and_self], hsame, fun h => absurd h hne⟩
      · rintro ⟨-, hsame, -⟩
        exact ⟨by rw [← hsame] at hcontent; tauto, hsame⟩
    next hcontent =>
      push Not at hcontent
      simp only [beq_iff_eq]
      constructor
      · intro hgeneration
        exact ⟨by simp only [heq, and_self], by rw [hcontent.1, hcontent.2], fun _ => hgeneration⟩
      · rintro ⟨-, -, h⟩
        exact h hcontent.1

theorem sameProgramIdentity_equivalence :
    Equivalence fun left right : VuProgramKey => left.sameProgramIdentity right = true where
  refl k := sameProgramIdentity_iff.2 ⟨rfl, rfl, fun _ => rfl⟩
  symm h := by
    rw [sameProgramIdentity_iff] at h ⊢
    exact ⟨h.1.symm, h.2.1.symm, fun h0 => (h.2.2 (h.2.1.trans h0)).symm⟩
  trans h h' := by
    rw [sameProgramIdentity_iff] at h h' ⊢
    exact ⟨h.1.trans h'.1, h.2.1.trans h'.2.1,
      fun h0 => (h.2.2 h0).trans (h'.2.2 (h.2.1.symm.trans h0))⟩

end VuProgramKey

/-! ## Link states -/

namespace VuNativeLinkState

variable {l : VuNativeLinkState} {t : ℕ}

theorem mem_targets :
    t ∈ l.targets ↔ ∃ slot, (slot ∈ l.staticTargets ∨ slot ∈ l.dynamicTargets) ∧
      slot.targetEntry = t := by
  simp only [targets, List.mem_map, List.mem_append]

theorem targets_default (h : t ∈ ({} : VuNativeLinkState).targets) : t = 0 := by
  obtain ⟨slot, hslot | hslot, rfl⟩ := mem_targets.1 h
  · cases hslot
  · obtain ⟨-, rfl⟩ := List.mem_replicate.1 hslot
    rfl

theorem targets_invalidateTargets (h : t ∈ l.invalidateTargets.targets) : t = 0 := by
  obtain ⟨slot, hslot, rfl⟩ := mem_targets.1 h
  simp only [invalidateTargets, List.mem_map] at hslot
  obtain ⟨s, -, rfl⟩ | ⟨s, -, rfl⟩ := hslot <;> rfl

/-- The target is cleared, the others stay. -/
theorem targets_invalidateTarget {entry : ℕ} (hentry : entry ≠ 0)
    (h : t ∈ (l.invalidateTarget entry).targets) : t = 0 ∨ t ∈ l.targets ∧ t ≠ entry := by
  obtain ⟨slot, hslot, rfl⟩ := mem_targets.1 h
  simp only [invalidateTarget, if_neg hentry, List.mem_map] at hslot
  rcases hslot with ⟨s, hs, rfl⟩ | ⟨s, hs, rfl⟩
  · by_cases hne : s.targetEntry ≠ entry
    · rw [if_pos hne]
      exact .inr ⟨mem_targets.2 ⟨s, .inl hs, rfl⟩, hne⟩
    · rw [if_neg hne]
      exact .inl rfl
  · by_cases hne : s.targetEntry ≠ entry
    · rw [if_pos hne]
      exact .inr ⟨mem_targets.2 ⟨s, .inr hs, rfl⟩, hne⟩
    · rw [if_neg hne]
      exact .inl rfl

/-- Only one slot is filled. -/
theorem targets_populate {key : VuProgramKey} {entry : ℕ} (h : t ∈ (l.populate key entry).targets) :
    t = entry ∨ t ∈ l.targets := by
  have hset : ∀ (slots : List VuNativeLinkSlot) (i : ℕ) (filled slot : VuNativeLinkSlot),
      slot ∈ slots.set i filled → slot = filled ∨ slot ∈ slots :=
    fun slots i filled slot hmem => (List.mem_or_eq_of_mem_set hmem).symm
  obtain ⟨slot, hslot, rfl⟩ := mem_targets.1 h
  unfold populate at hslot
  dsimp only at hslot
  split at hslot
  · rcases hslot with hslot | hslot
    · rcases hset _ _ _ _ hslot with rfl | hmem
      · exact .inl rfl
      · exact .inr (mem_targets.2 ⟨slot, .inl hmem, rfl⟩)
    · exact .inr (mem_targets.2 ⟨slot, .inr hslot, rfl⟩)
  · split at hslot
    all_goals
      rcases hslot with hslot | hslot
      · exact .inr (mem_targets.2 ⟨slot, .inl hslot, rfl⟩)
      · rcases hset _ _ _ _ hslot with rfl | hmem
        · exact .inl rfl
        · exact .inr (mem_targets.2 ⟨slot, .inr hmem, rfl⟩)

theorem targets_makeNativeLinkState {backend pc : ℕ} {pcs : List ℕ}
    (h : t ∈ (makeNativeLinkState backend pc pcs).targets) : t = 0 := by
  obtain ⟨slot, hslot, rfl⟩ := mem_targets.1 h
  rcases hslot with hslot | hslot
  · obtain ⟨target, -, rfl⟩ := List.mem_map.1 hslot
    rfl
  · obtain ⟨-, rfl⟩ := List.mem_replicate.1 hslot
    rfl

end VuNativeLinkState

namespace VuProgramCache

variable {c : VuProgramCache} {f : VuNativeLinkState → VuNativeLinkState}
  {addresses : List LinkAddress} {a : LinkAddress}

/-! ## The link states after an update -/

theorem linkStates_updateLinks_cons (c : VuProgramCache) (f) (b : LinkAddress)
    (addresses : List LinkAddress) :
    c.updateLinks f (b :: addresses) = (c.updateLinks f [b]).updateLinks f addresses := rfl

/-- What holds of a link state and is kept by `f` holds after the update. -/
theorem linkStates_updateLinks (Q : VuNativeLinkState → Prop) (hQ : ∀ l, Q l → Q (f l))
    (h : Q (c.linkStates a)) : Q ((c.updateLinks f addresses).linkStates a) := by
  induction addresses generalizing c with
  | nil => exact h
  | cons b addresses ih =>
    rw [linkStates_updateLinks_cons]
    refine ih ?_
    show Q (Function.update c.linkStates b (f (c.linkStates b)) a)
    rcases eq_or_ne a b with rfl | hne
    · rw [Function.update_self]
      exact hQ _ h
    · rw [Function.update_of_ne hne]
      exact h

/-- What `f` establishes and keeps holds of the link states it was applied to. -/
theorem linkStates_updateLinks_mem (Q : VuNativeLinkState → Prop) (hQ : ∀ l, Q (f l))
    (ha : a ∈ addresses) : Q ((c.updateLinks f addresses).linkStates a) := by
  induction addresses generalizing c with
  | nil => cases ha
  | cons b addresses ih =>
    rw [linkStates_updateLinks_cons]
    by_cases hmem : a ∈ addresses
    · exact ih hmem
    · obtain rfl := (List.mem_cons.1 ha).resolve_right hmem
      refine linkStates_updateLinks Q (fun l _ => hQ l) ?_
      show Q (Function.update c.linkStates a (f (c.linkStates a)) a)
      rw [Function.update_self]
      exact hQ _

/-- The others are left alone. -/
theorem linkStates_updateLinks_of_notMem (ha : a ∉ addresses) :
    (c.updateLinks f addresses).linkStates a = c.linkStates a := by
  induction addresses generalizing c with
  | nil => rfl
  | cons b addresses ih =>
    rw [List.mem_cons, not_or] at ha
    rw [linkStates_updateLinks_cons, ih ha.2]
    exact Function.update_of_ne ha.1 ..

/-! ## The slots -/

/-- The programs in the slots. -/
def contents (c : VuProgramCache) : List (Option VuCompiledProgram) := c.programs.map (·.program)

theorem programAt_eq_entryAt (c : VuProgramCache) (i : ℕ) :
    c.programAt i = entryAt c.contents i := by
  unfold programAt entryAt contents
  rw [List.getElem?_map]
  cases c.programs[i]? <;> rfl

theorem find_eq (c : VuProgramCache) (key : VuProgramKey) :
    c.find key = SlotTable.find VuProgramKey.sameProgramIdentity c.lookupTable key := rfl

@[simp] theorem contents_touchProgram (c : VuProgramCache) (i : ℕ) :
    (c.touchProgram i).contents = c.contents := by
  unfold contents touchProgram
  apply List.ext_getElem?
  intro j
  rw [List.getElem?_map, List.getElem?_map, List.getElem?_modify]
  cases c.programs[j]? with
  | none => rfl
  | some slot => split <;> rfl

theorem contents_evict (c : VuProgramCache) (i : ℕ) (victim : VuCompiledProgram) :
    (c.evict i victim).contents = c.contents.set i none := List.map_set

theorem mem_linkAddresses :
    a ∈ c.linkAddresses ↔ ∃ i p, entryAt c.contents i = some p ∧ p.outgoingLinks = some a := by
  unfold linkAddresses contents
  rw [List.mem_filterMap]
  constructor
  · rintro ⟨slot, hslot, ha⟩
    obtain ⟨p, hp, ha⟩ := Option.bind_eq_some_iff.1 ha
    obtain ⟨i, hi⟩ := List.getElem?_of_mem hslot
    exact ⟨i, p, entryAt_eq_some.2 (by rw [List.getElem?_map, hi, Option.map_some, hp]), ha⟩
  · rintro ⟨i, p, hp, ha⟩
    rw [entryAt_eq_some, List.getElem?_map, Option.map_eq_some_iff] at hp
    obtain ⟨slot, hslot, hp⟩ := hp
    exact ⟨slot, List.mem_of_getElem? hslot, by rw [hp]; exact ha⟩

/-! ## The invariant -/

/-- Every link leads to a resident program that has links itself, and a link state that no resident
program holds leads nowhere. -/
structure LinksOk (c : VuProgramCache) : Prop where
  resident : ∀ a, ∀ t ∈ (c.linkStates a).targets, t ≠ 0 →
    ∃ i p, entryAt c.contents i = some p ∧ p.outgoingLinks.isSome ∧ p.nativeLinkedEntry = t
  loose : ∀ a, a ∉ c.linkAddresses → ∀ t ∈ (c.linkStates a).targets, t = 0

structure WellFormed (limits : VuProgramCacheLimits) (c : VuProgramCache) : Prop where
  limits_eq : c.limits = limits
  indexed : Indexed VuCompiledProgram.key VuProgramKey.sameProgramIdentity c.contents c.lookupTable
  free : ∀ i ∈ c.freeProgramIndices, c.contents[i]? = some none
  free_nodup : c.freeProgramIndices.Nodup
  programs_eq : c.residentPrograms = total (fun _ => 1) c.contents
  bytes_eq : c.residentExecutableBytes = total (·.nativeCode.capacity) c.contents
  programs_le : c.residentPrograms ≤ limits.maximumPrograms
  bytes_le : c.residentExecutableBytes ≤ limits.maximumExecutableBytes
  linksOk : c.LinksOk

variable {limits : VuProgramCacheLimits}

open VuProgramKey (sameProgramIdentity_equivalence)

theorem wellFormed_initial (identity : ℕ) (unit : VuUnitId) (limits : VuProgramCacheLimits) :
    WellFormed limits { identity := identity, unit := unit, limits := limits } where
  limits_eq := rfl
  indexed := Indexed.nil
  free _ h := by cases h
  free_nodup := List.nodup_nil
  programs_eq := rfl
  bytes_eq := rfl
  programs_le := Nat.zero_le _
  bytes_le := Nat.zero_le _
  linksOk :=
    { resident := fun _ _ h hne => absurd (VuNativeLinkState.targets_default h) hne
      loose := fun _ _ _ h => VuNativeLinkState.targets_default h }

theorem linkAddresses_congr {c c' : VuProgramCache} (h : c'.contents = c.contents) :
    ∀ a, a ∈ c'.linkAddresses ↔ a ∈ c.linkAddresses := by
  intro a
  rw [mem_linkAddresses, mem_linkAddresses, h]

namespace WellFormed

/-- What the invariant reads: the programs in their slots, the tables and counts, and the link
states. -/
theorem congr {c c' : VuProgramCache} (h : WellFormed limits c) (hlimits : c'.limits = c.limits)
    (hcontents : c'.contents = c.contents) (htable : c'.lookupTable = c.lookupTable)
    (hfree : c'.freeProgramIndices = c.freeProgramIndices)
    (hprograms : c'.residentPrograms = c.residentPrograms)
    (hbytes : c'.residentExecutableBytes = c.residentExecutableBytes)
    (hlinks : c'.LinksOk) : WellFormed limits c' where
  limits_eq := hlimits.trans h.limits_eq
  indexed := by rw [hcontents, htable]; exact h.indexed
  free := by rw [hcontents, hfree]; exact h.free
  free_nodup := by rw [hfree]; exact h.free_nodup
  programs_eq := by rw [hprograms, hcontents]; exact h.programs_eq
  bytes_eq := by rw [hbytes, hcontents]; exact h.bytes_eq
  programs_le := by rw [hprograms]; exact h.programs_le
  bytes_le := by rw [hbytes]; exact h.bytes_le
  linksOk := hlinks

end WellFormed

theorem LinksOk.congr {c c' : VuProgramCache} (h : c.LinksOk) (hcontents : c'.contents = c.contents)
    (hstates : c'.linkStates = c.linkStates) : c'.LinksOk where
  resident := by rw [hcontents, hstates]; exact h.resident
  loose a ha := by
    rw [linkAddresses_congr hcontents] at ha
    rw [hstates]
    exact h.loose a ha

/-! ## Operations on programs -/

theorem WellFormed.touch (h : WellFormed limits c) (i : ℕ) : WellFormed limits (c.touchProgram i) :=
  h.congr rfl (contents_touchProgram c i) rfl rfl rfl rfl
    (h.linksOk.congr (contents_touchProgram c i) rfl)

/-- A flush clears the links of the programs it removes, and no other link leads anywhere. -/
theorem WellFormed.discard (h : WellFormed limits c) : WellFormed limits c.discardPrograms where
  limits_eq := h.limits_eq
  indexed := Indexed.nil
  free _ h := by cases h
  free_nodup := List.nodup_nil
  programs_eq := rfl
  bytes_eq := rfl
  programs_le := Nat.zero_le _
  bytes_le := Nat.zero_le _
  linksOk := by
    have hzero : ∀ a, ∀ t ∈ (c.invalidateAllLinks.linkStates a).targets, t = 0 := by
      intro a
      by_cases ha : a ∈ c.linkAddresses
      · exact linkStates_updateLinks_mem (fun l => ∀ t ∈ l.targets, t = 0)
          (fun l t ht => VuNativeLinkState.targets_invalidateTargets ht) ha
      · rw [invalidateAllLinks, linkStates_updateLinks_of_notMem ha]
        exact h.linksOk.loose a ha
    exact
      { resident := fun a t ht hne => absurd (hzero a t ht) hne
        loose := fun a _ => hzero a }

theorem WellFormed.activateScope (h : WellFormed limits c) {c' : VuProgramCache}
    {key : VuProgramKey} (hc : c.activateScope key = .ok c') : WellFormed limits c' := by
  unfold VuProgramCache.activateScope at hc
  cases hkey : key.validKey with
  | error text => rw [hkey] at hc; cases hc
  | ok _ =>
    rw [hkey] at hc
    simp only [bind, Except.bind, pure, Except.pure] at hc
    split at hc
    · cases hc
    · split at hc
      · cases hc
        exact h.congr rfl rfl rfl rfl rfl rfl (h.linksOk.congr rfl rfl)
      · split at hc
        · cases hc
          exact h.discard.congr rfl rfl rfl rfl rfl rfl (h.discard.linksOk.congr rfl rfl)
        · split at hc
          · cases hc
            split
            · exact h.congr rfl rfl rfl rfl rfl rfl (h.linksOk.congr rfl rfl)
            · exact h.discard.congr rfl rfl rfl rfl rfl rfl (h.discard.linksOk.congr rfl rfl)
          · cases hc
            exact h

/-! ## Eviction -/

theorem total_le_of_entryAt (f : VuCompiledProgram → ℕ) {slots : List (Option VuCompiledProgram)}
    {i : ℕ} {p : VuCompiledProgram} (h : entryAt slots i = some p) :
    total f (slots.set i none) + f p = total f slots := by
  have := total_set f (entryAt_eq_some.1 h) none
  simpa using this

/-- **Evicting a program leaves no link to it.** -/
theorem LinksOk.evict (h : c.LinksOk) {i : ℕ} {victim : VuCompiledProgram}
    (hvictim : entryAt c.contents i = some victim) : (c.evict i victim).LinksOk := by
  have hlt := lt_length_of_entryAt hvictim
  let entry := if victim.outgoingLinks.isSome then victim.nativeLinkedEntry else 0
  let addresses := if entry ≠ 0 then c.linkAddresses else []
  let c₁ := c.updateLinks (.invalidateTarget entry) addresses
  have hstates : (c.evict i victim).linkStates =
      (c₁.updateLinks (fun l => l.invalidateTargets.unbind)
        victim.outgoingLinks.toList).linkStates := rfl
  -- the incoming links first
  have hincoming : ∀ a, ∀ t ∈ (c₁.linkStates a).targets, t ≠ 0 →
      t ∈ (c.linkStates a).targets ∧ t ≠ entry := by
    intro a t ht hne
    by_cases ha : a ∈ addresses
    · have hentry : entry ≠ 0 := by
        intro h0
        simp [addresses, h0] at ha
      have hdead : ∀ t ∈ (c₁.linkStates a).targets, t = 0 ∨ t ≠ entry :=
        linkStates_updateLinks_mem (fun l => ∀ t ∈ l.targets, t = 0 ∨ t ≠ entry)
          (fun l t ht => (VuNativeLinkState.targets_invalidateTarget hentry ht).imp id And.right) ha
      have hold : ∀ t ∈ (c₁.linkStates a).targets, t = 0 ∨ t ∈ (c.linkStates a).targets := by
        refine linkStates_updateLinks
          (fun l => ∀ t ∈ l.targets, t = 0 ∨ t ∈ (c.linkStates a).targets) ?_ fun t ht => .inr ht
        intro l hl t ht
        rcases VuNativeLinkState.targets_invalidateTarget hentry ht with h0 | ⟨hmem, -⟩
        · exact .inl h0
        · exact hl t hmem
      exact ⟨(hold t ht).resolve_left hne, (hdead t ht).resolve_left hne⟩
    · have hsame : c₁.linkStates a = c.linkStates a := linkStates_updateLinks_of_notMem ha
      rw [hsame] at ht
      refine ⟨ht, fun heq => ?_⟩
      have hentry : entry ≠ 0 := heq ▸ hne
      refine hne (h.loose a ?_ t ht)
      simpa [addresses, hentry] using ha
  -- then the links of the victim
  have hafter : ∀ a, ∀ t ∈ ((c.evict i victim).linkStates a).targets, t ≠ 0 →
      victim.outgoingLinks ≠ some a ∧ t ∈ (c₁.linkStates a).targets := by
    intro a t ht hne
    rw [hstates] at ht
    by_cases ha : a ∈ victim.outgoingLinks.toList
    · refine absurd ?_ hne
      exact linkStates_updateLinks_mem (f := fun l => l.invalidateTargets.unbind)
        (fun l => ∀ t ∈ l.targets, t = 0)
        (fun l t ht => VuNativeLinkState.targets_invalidateTargets ht) ha t ht
    · rw [linkStates_updateLinks_of_notMem ha] at ht
      exact ⟨fun heq => ha (by simp [heq]), ht⟩
  constructor
  · intro a t ht hne
    obtain ⟨ht₁, hentry⟩ := hincoming a t (hafter a t ht hne).2 hne
    obtain ⟨j, q, hq, hlinks, rfl⟩ := h.resident a t ht₁ hne
    refine ⟨j, q, ?_, hlinks, rfl⟩
    rw [contents_evict, entryAt_set hlt, if_neg]
    · exact hq
    · rintro rfl
      obtain rfl := Option.some.inj (hq.symm.trans hvictim)
      exact hentry (if_pos hlinks).symm
  · intro a ha t ht
    by_contra hne
    obtain ⟨hother, ht₁⟩ := hafter a t ht hne
    have hmem : a ∈ c.linkAddresses := by
      by_contra hloose
      exact hne (h.loose a hloose t (hincoming a t ht₁ hne).1)
    obtain ⟨j, q, hq, hqa⟩ := mem_linkAddresses.1 hmem
    refine ha (mem_linkAddresses.2 ⟨j, q, ?_, hqa⟩)
    rw [contents_evict, entryAt_set hlt, if_neg]
    · exact hq
    · rintro rfl
      obtain rfl := Option.some.inj (hq.symm.trans hvictim)
      exact hother hqa

theorem WellFormed.evict (h : WellFormed limits c) {i : ℕ} {victim : VuCompiledProgram}
    (hvictim : entryAt c.contents i = some victim) : WellFormed limits (c.evict i victim) := by
  have hlt := lt_length_of_entryAt hvictim
  have hprograms := total_le_of_entryAt (fun _ => 1) hvictim
  have hbytes := total_le_of_entryAt (·.nativeCode.capacity) hvictim
  have hcount := h.programs_eq
  have hsize := h.bytes_eq
  have hprograms' : (c.evict i victim).residentPrograms = c.residentPrograms - 1 := rfl
  have hbytes' : (c.evict i victim).residentExecutableBytes =
      c.residentExecutableBytes - victim.nativeCode.capacity := rfl
  constructor
  · exact h.limits_eq
  · rw [contents_evict]
    exact h.indexed.remove sameProgramIdentity_equivalence hvictim
  · intro j hj
    rw [contents_evict]
    rcases List.mem_cons.1 hj with rfl | hj
    · exact List.getElem?_set_self hlt
    · rw [List.getElem?_set]
      split
      next hij => simp
      next => exact h.free j hj
  · refine List.nodup_cons.2 ⟨fun hmem => ?_, h.free_nodup⟩
    have hempty := h.free i hmem
    rw [entryAt_eq_some.1 hvictim] at hempty
    cases hempty
  · rw [contents_evict, hprograms']
    omega
  · rw [contents_evict, hbytes']
    omega
  · exact (Nat.sub_le _ _).trans h.programs_le
  · exact (Nat.sub_le _ _).trans h.bytes_le
  · exact h.linksOk.evict hvictim

theorem evict_frame (i : ℕ) (victim : VuCompiledProgram) :
    (c.evict i victim).limits = c.limits ∧
      ∀ key, c.find key = none → (c.evict i victim).find key = none := by
  refine ⟨rfl, fun key hfind => ?_⟩
  rw [find_eq, SlotTable.find, Option.map_eq_none_iff, List.find?_eq_none] at hfind ⊢
  intro e he
  exact hfind e (List.mem_of_mem_filter he)

/-- Making room keeps the invariant; if it succeeds, the program fits. -/
theorem WellFormed.makeRoom (h : WellFormed limits c) (residentBytes : ℕ) :
    WellFormed limits (c.makeRoom residentBytes).2 ∧
      (∀ key, c.find key = none → (c.makeRoom residentBytes).2.find key = none) ∧
      ((c.makeRoom residentBytes).1 = true →
        (c.makeRoom residentBytes).2.residentPrograms < limits.maximumPrograms ∧
          (c.makeRoom residentBytes).2.residentExecutableBytes + residentBytes ≤
            limits.maximumExecutableBytes) := by
  induction c using VuProgramCache.makeRoom.induct residentBytes with
  | case1 c hfull c' hevict ih =>
    obtain ⟨i, victim, hvictim, rfl⟩ := evictLeastRecentlyUsed_some hevict
    rw [programAt_eq_entryAt] at hvictim
    obtain ⟨hwell, hfind, hroom⟩ := ih (h.evict hvictim)
    unfold VuProgramCache.makeRoom
    rw [if_pos hfull]
    split
    next c' h' =>
      obtain rfl := Option.some.inj (hevict.symm.trans h')
      exact ⟨hwell, fun key hkey => hfind key ((evict_frame i victim).2 key hkey), hroom⟩
    next h' =>
      rw [hevict] at h'
      cases h'
  | case2 c hfull hevict =>
    unfold VuProgramCache.makeRoom
    rw [if_pos hfull]
    split
    next c' h' =>
      rw [hevict] at h'
      cases h'
    next => exact ⟨h, fun _ hkey => hkey, fun hfalse => by cases hfalse⟩
  | case3 c hfits =>
    unfold VuProgramCache.makeRoom
    rw [if_neg hfits]
    have hbytes := h.bytes_le
    rw [h.limits_eq, not_or] at hfits
    refine ⟨h, fun _ hkey => hkey, fun _ => ?_⟩
    dsimp only
    omega

/-! ## Insertion -/

/-- The slots with the one that the next program is put in, and its index. -/
def slotsForPlace (c : VuProgramCache) : List (Option VuCompiledProgram) :=
  if c.freeProgramIndices = [] then c.contents ++ [none] else c.contents

def indexForPlace (c : VuProgramCache) : ℕ := c.freeProgramIndices.headD c.contents.length

theorem entryAt_slotsForPlace (c : VuProgramCache) (i : ℕ) :
    entryAt c.slotsForPlace i = entryAt c.contents i := by
  unfold slotsForPlace
  split
  · exact entryAt_append_none _ _
  · rfl

theorem WellFormed.slotForPlace (h : WellFormed limits c) :
    c.slotsForPlace[c.indexForPlace]? = some none := by
  unfold slotsForPlace indexForPlace
  cases hfree : c.freeProgramIndices with
  | nil => simp
  | cons i rest =>
    rw [if_neg (List.cons_ne_nil i rest), List.headD_cons]
    exact h.free i (by rw [hfree]; exact List.mem_cons_self)

theorem map_modify_program (slots : List VuProgramSlot) (i : ℕ) (program : VuCompiledProgram) :
    (slots.modify i fun slot => { slot with program := some program }).map (·.program) =
      (slots.map (·.program)).set i (some program) := by
  apply List.ext_getElem?
  intro j
  rw [List.getElem?_map, List.getElem?_modify, List.getElem?_set, List.getElem?_map,
    List.length_map]
  split
  next hij =>
    subst hij
    rcases Nat.lt_or_ge i slots.length with hlt | hge
    · rw [if_pos hlt, List.getElem?_eq_getElem hlt]
      rfl
    · rw [if_neg (Nat.not_lt.2 hge), List.getElem?_eq_none hge]
      rfl
  next => cases slots[j]? <;> rfl

/-- The cache with the program in its slot, or as it was if there is none left. -/
def placed (c : VuProgramCache) (program : VuCompiledProgram) : VuProgramCache :=
  (c.place program).2

theorem place_cases (c : VuProgramCache) (program : VuCompiledProgram) :
    c.placed program = c ∨
      (c.placed program).limits = c.limits ∧
      (c.placed program).contents = c.slotsForPlace.set c.indexForPlace (some program) ∧
      (c.placed program).freeProgramIndices = c.freeProgramIndices.tail ∧
      (c.placed program).lookupTable =
        (if (c.find program.key).isSome then c.lookupTable
          else (program.key, c.indexForPlace) :: c.lookupTable) ∧
      (c.placed program).residentPrograms = c.residentPrograms + 1 ∧
      (c.placed program).residentExecutableBytes =
        c.residentExecutableBytes + program.nativeCode.capacity ∧
      (c.placed program).linkStates =
        (c.updateLinks
          (fun l =>
            { l with ownerCacheIdentity := c.identity, ownerProgramIndex := c.indexForPlace })
          program.outgoingLinks.toList).linkStates := by
  have hindex : c.indexForPlace = c.freeProgramIndices.headD c.programs.length := by
    rw [indexForPlace, contents, List.length_map]
  rw [hindex]
  unfold placed place
  split
  · exact .inl rfl
  · refine .inr ⟨rfl, ?_, rfl, rfl, rfl, rfl, rfl⟩
    rw [contents_touchProgram, contents, map_modify_program]
    congr 1
    unfold slotsForPlace contents
    show List.map _ (if _ then _ else _) = _
    split
    · rw [List.map_append]
      rfl
    · rfl

/-- A program is added to the resident ones; it has no links yet, or those of a resident one. -/
theorem WellFormed.place (h : WellFormed limits c) {program : VuCompiledProgram}
    (hnew : c.find program.key = none) (hprograms : c.residentPrograms < limits.maximumPrograms)
    (hbytes : c.residentExecutableBytes + program.nativeCode.capacity ≤
      limits.maximumExecutableBytes) : WellFormed limits (c.placed program) := by
  rcases c.place_cases program with hsame |
    ⟨hlimits, hcontents, hfree, htable, hcount, hsize, hlinks⟩
  · rw [hsame]
    exact h
  have hslot := h.slotForPlace
  have hlt : c.indexForPlace < c.slotsForPlace.length := (List.getElem?_eq_some_iff.1 hslot).1
  have htotal : ∀ f : VuCompiledProgram → ℕ,
      total f (c.placed program).contents = total f c.contents + f program := by
    intro f
    have hgrown : total f c.slotsForPlace = total f c.contents := by
      unfold slotsForPlace
      split
      · exact total_append_none _ _
      · rfl
    have := total_set f hslot (some program)
    rw [hcontents, ← hgrown]
    simpa using this
  have hentry : ∀ i p, entryAt c.contents i = some p →
      entryAt (c.placed program).contents i = some p := by
    intro i p hp
    rw [hcontents, entryAt_set hlt, if_neg]
    · rw [entryAt_slotsForPlace]
      exact hp
    · rintro rfl
      rw [← entryAt_slotsForPlace, entryAt, hslot] at hp
      cases hp
  have htargets : ∀ a, ((c.placed program).linkStates a).targets = (c.linkStates a).targets := by
    intro a
    rw [hlinks]
    exact linkStates_updateLinks (fun l => l.targets = (c.linkStates a).targets)
      (fun _ hl => hl) rfl
  constructor
  · rw [hlimits]
    exact h.limits_eq
  · rw [hcontents, htable, if_neg (by simp [hnew])]
    have hgrown : Indexed VuCompiledProgram.key VuProgramKey.sameProgramIdentity c.slotsForPlace
        c.lookupTable := by
      unfold slotsForPlace
      split
      · exact h.indexed.grow
      · exact h.indexed
    exact hgrown.put sameProgramIdentity_equivalence hslot hnew
  · intro i hi
    rw [hfree] at hi
    have hne : c.freeProgramIndices ≠ [] := by
      rintro hnil
      simp [hnil] at hi
    have hother : c.indexForPlace ≠ i := by
      rintro rfl
      obtain ⟨j, rest, hj⟩ := List.exists_cons_of_ne_nil hne
      have hnodup := h.free_nodup
      rw [hj] at hnodup
      simp only [indexForPlace, hj, List.headD_cons, List.tail_cons] at hi
      exact (List.nodup_cons.1 hnodup).1 hi
    rw [hcontents, List.getElem?_set_ne hother, slotsForPlace, if_neg hne]
    exact h.free i (List.mem_of_mem_tail hi)
  · rw [hfree]
    exact h.free_nodup.tail
  · rw [hcount, htotal, h.programs_eq]
  · rw [hsize, htotal, h.bytes_eq]
  · rw [hcount]
    exact hprograms
  · rw [hsize]
    exact hbytes
  · constructor
    · intro a t ht hne
      rw [htargets] at ht
      obtain ⟨i, p, hp, hlinked⟩ := h.linksOk.resident a t ht hne
      exact ⟨i, p, hentry i p hp, hlinked⟩
    · intro a ha t ht
      rw [htargets] at ht
      refine h.linksOk.loose a (fun hmem => ha ?_) t ht
      obtain ⟨i, p, hp, hpa⟩ := mem_linkAddresses.1 hmem
      exact mem_linkAddresses.2 ⟨i, p, hentry i p hp, hpa⟩

theorem WellFormed.insert (h : WellFormed limits c) (program : VuCompiledProgram) :
    WellFormed limits (c.insert program).2 := by
  unfold VuProgramCache.insert
  split
  · exact h
  next c' hscope =>
    have hc' := h.activateScope hscope
    split
    · exact hc'
    · split
      · exact hc'
      · split
        · exact hc'
        · split
          · exact hc'.touch _
          next hnew =>
            split
            · exact hc'
            · obtain ⟨hwell, hfind, hroom⟩ := hc'.makeRoom program.nativeCode.capacity
              split
              next c'' heq =>
                rw [heq] at hwell
                exact hwell
              next c'' heq =>
                rw [heq] at hwell hfind hroom
                obtain ⟨hprograms, hbytes⟩ := hroom rfl
                exact hwell.place (hfind _ hnew) hprograms hbytes

theorem WellFormed.lookup (h : WellFormed limits c) (key : VuProgramKey) :
    WellFormed limits (c.lookup key).2 := by
  unfold VuProgramCache.lookup
  split
  · exact h
  next c' hscope =>
    have hc' := h.activateScope hscope
    split
    · exact hc'
    · split
      · exact hc'
      · exact hc'.touch _

theorem WellFormed.resolveCurrent (h : WellFormed limits c) (handle : VuProgramHandle)
    (key : VuProgramKey) : WellFormed limits (c.resolveCurrent handle key).2 := by
  unfold VuProgramCache.resolveCurrent
  split
  · exact h
  · split
    · exact h
    · split
      · exact h
      · exact h.touch _

theorem WellFormed.flush (h : WellFormed limits c) : WellFormed limits c.flush :=
  h.discard.congr rfl rfl rfl rfl rfl rfl (h.discard.linksOk.congr rfl rfl)

/-! ## Linking -/

theorem linkOwner_some {source : Option LinkAddress} {i : ℕ} {p : VuCompiledProgram}
    (h : c.linkOwner source = some (a, i, p)) :
    source = some a ∧ entryAt c.contents i = some p ∧ p.outgoingLinks = some a := by
  unfold linkOwner at h
  cases source with
  | none => cases h
  | some address =>
    simp only [bind, Option.bind, pure] at h
    split at h
    · cases h
    · split at h
      · cases h
      next p' hp =>
        dsimp only at h
        split at h
        · cases h
        next hlinks =>
          cases h
          rw [programAt_eq_entryAt] at hp
          exact ⟨rfl, hp, not_not.1 hlinks⟩

theorem WellFormed.pinLinkSource (h : WellFormed limits c) (source : Option LinkAddress) :
    WellFormed limits (c.pinLinkSource source).2 := by
  unfold VuProgramCache.pinLinkSource
  split
  · exact h
  · exact h.touch _

/-- A link is made from a resident program to a resident program with links. -/
theorem WellFormed.link (h : WellFormed limits c) {i j : ℕ} {p target : VuCompiledProgram}
    (hp : entryAt c.contents i = some p) (ha : p.outgoingLinks = some a)
    (htarget : entryAt c.contents j = some target) (hlinks : target.outgoingLinks.isSome)
    (key : VuProgramKey) :
    WellFormed limits (c.updateLinks (fun l => l.populate key target.nativeLinkedEntry) [a]) := by
  refine h.congr rfl rfl rfl rfl rfl rfl ?_
  have hother : ∀ b, b ≠ a →
      (c.updateLinks (fun l => l.populate key target.nativeLinkedEntry) [a]).linkStates b =
        c.linkStates b :=
    fun b hb => linkStates_updateLinks_of_notMem (by simpa using hb)
  constructor
  · intro b t ht hne
    rcases eq_or_ne b a with rfl | hb
    · have hset : (c.updateLinks (fun l => l.populate key target.nativeLinkedEntry) [b]).linkStates
          b = (c.linkStates b).populate key target.nativeLinkedEntry := Function.update_self ..
      rw [hset] at ht
      rcases VuNativeLinkState.targets_populate ht with rfl | hold
      · exact ⟨j, target, htarget, hlinks, rfl⟩
      · exact h.linksOk.resident b t hold hne
    · rw [hother b hb] at ht
      exact h.linksOk.resident b t ht hne
  · intro b hb t ht
    have hne : b ≠ a := by
      rintro rfl
      exact hb (mem_linkAddresses.2 ⟨i, p, hp, ha⟩)
    rw [hother b hne] at ht
    exact h.linksOk.loose b hb t ht

theorem WellFormed.populateLink (h : WellFormed limits c) (source : Option LinkAddress)
    (handle : VuProgramHandle) (key : VuProgramKey) :
    WellFormed limits (c.populateLink source handle key).2 := by
  unfold VuProgramCache.populateLink
  split
  · exact h
  next address i p howner =>
    obtain ⟨-, hp, hlinks⟩ := linkOwner_some howner
    split
    · exact h
    · split
      · exact h
      next target htarget =>
        have htarget : entryAt c.contents handle.index = some target := by
          unfold VuProgramCache.resolve at htarget
          split at htarget
          · cases htarget
          · rw [← programAt_eq_entryAt]
            exact htarget
        split
        · exact h
        next targetLinks hsome =>
          split
          · exact h
          · split
            · exact h
            · exact ((h.link hp hlinks htarget (by rw [hsome]; rfl) key).touch i).touch handle.index

/-- A link state made anew leads nowhere. -/
theorem WellFormed.makeLinks (h : WellFormed limits c) (b : LinkAddress) (backend pc : ℕ)
    (pcs : List ℕ) :
    WellFormed limits
      { c with
        linkStates := Function.update c.linkStates b (makeNativeLinkState backend pc pcs) } := by
  refine h.congr rfl rfl rfl rfl rfl rfl ?_
  have hold : ∀ a, ∀ t ∈ (Function.update c.linkStates b (makeNativeLinkState backend pc pcs)
      a).targets, t ≠ 0 → t ∈ (c.linkStates a).targets := by
    intro a t ht hne
    rcases eq_or_ne a b with rfl | hab
    · rw [Function.update_self] at ht
      exact absurd (VuNativeLinkState.targets_makeNativeLinkState ht) hne
    · rwa [Function.update_of_ne hab] at ht
  constructor
  · exact fun a t ht hne => h.linksOk.resident a t (hold a t ht hne) hne
  · intro a ha t ht
    by_contra hne
    exact hne (h.linksOk.loose a ha t (hold a t ht hne))

/-! ## Runs -/

theorem WellFormed.call (h : WellFormed limits c) (call : VuProgramCacheCall) :
    WellFormed limits (call.run c) := by
  cases call with
  | lookup key => exact h.lookup key
  | insert program => exact h.insert program
  | resolve handle => exact h
  | resolveCurrent handle key => exact h.resolveCurrent handle key
  | pinLinkSource source => exact h.pinLinkSource source
  | populateLink source handle key => exact h.populateLink source handle key
  | flush => exact h.flush

theorem WellFormed.step (h : WellFormed limits c) (act : VuProgramCacheAct) :
    WellFormed limits (c.step act) := by
  cases act with
  | call thread call =>
    unfold VuProgramCache.step
    dsimp only
    split
    · exact h
    · have hbound : WellFormed limits { c with ownerThread := some thread } :=
        h.congr rfl rfl rfl rfl rfl rfl (h.linksOk.congr rfl rfl)
      exact hbound.call call
  | makeLinks b backend pc pcs => exact h.makeLinks b backend pc pcs

theorem wellFormed_run (identity : ℕ) (unit : VuUnitId) (limits : VuProgramCacheLimits)
    (acts : List VuProgramCacheAct) :
    WellFormed limits
      (run step { identity := identity, unit := unit, limits := limits } acts) := by
  have hrun : Along step (fun _ _ => True) { identity := identity, unit := unit, limits := limits }
      acts := along_of_forall fun _ _ _ => trivial
  exact invariant (fun _ act h _ => h.step act) (wellFormed_initial identity unit limits) hrun

/-- **The tables of the cache agree and no link leads to a program that is not resident.** A
program that is not resident (evicted, flushed or never inserted) and whose linked entry is no
resident's is the target of no link state, pinned ones included. -/
theorem tables_and_links_exact (identity : ℕ) (unit : VuUnitId) (limits : VuProgramCacheLimits)
    (acts : List VuProgramCacheAct) :
    let c := run step { identity := identity, unit := unit, limits := limits } acts
    (c.lookupTable.Nodup ∧
      Set.BijOn Prod.snd {e | e ∈ c.lookupTable} {i | (c.programAt i).isSome} ∧
      ∀ key i, c.find key = some i ↔
        ∃ p, c.programAt i = some p ∧ p.key.sameProgramIdentity key = true) ∧
    (c.residentPrograms = c.occupied ∧
      c.residentExecutableBytes =
        (c.programs.map fun slot => slot.program.elim 0 (·.nativeCode.capacity)).sum ∧
      c.residentPrograms ≤ limits.maximumPrograms ∧
      c.residentExecutableBytes ≤ limits.maximumExecutableBytes) ∧
    (∀ i p a, c.programAt i = some p → p.outgoingLinks = some a →
      ∀ t ∈ (c.linkStates a).targets, t ≠ 0 →
        ∃ j q, c.programAt j = some q ∧ q.nativeLinkedEntry = t) ∧
    ∀ p : VuCompiledProgram, p.nativeLinkedEntry ≠ 0 →
      (∀ j q, c.programAt j = some q → q.nativeLinkedEntry ≠ p.nativeLinkedEntry) →
      ∀ a, p.nativeLinkedEntry ∉ (c.linkStates a).targets := by
  intro c
  have h : WellFormed limits c := wellFormed_run identity unit limits acts
  have hresident : ∀ a, ∀ t ∈ (c.linkStates a).targets, t ≠ 0 →
      ∃ j q, c.programAt j = some q ∧ q.nativeLinkedEntry = t := by
    intro a t ht hne
    obtain ⟨j, q, hq, -, hentry⟩ := h.linksOk.resident a t ht hne
    exact ⟨j, q, by rw [programAt_eq_entryAt, hq], hentry⟩
  refine ⟨⟨h.indexed.nodup sameProgramIdentity_equivalence, ?_, ?_⟩, ⟨?_, ?_, h.programs_le,
    h.bytes_le⟩, fun _ _ a _ _ => hresident a, ?_⟩
  · simp only [programAt_eq_entryAt]
    exact h.indexed.bijOn
  · intro key i
    simp only [programAt_eq_entryAt, find_eq]
    exact h.indexed.find_iff sameProgramIdentity_equivalence
  · rw [h.programs_eq]
    unfold total contents occupied
    induction c.programs with
    | nil => rfl
    | cons slot slots ih =>
      rw [List.map_cons, List.map_cons, List.sum_cons, ih, List.countP_cons]
      cases slot.program <;> simp [Nat.add_comm]
  · rw [h.bytes_eq]
    unfold total contents
    rw [List.map_map]
    rfl
  · intro p hne hdistinct a ht
    obtain ⟨j, q, hq, hentry⟩ := hresident a _ ht hne
    exact hdistinct j q hq hentry

end VuProgramCache

end Ps2Recomp
