import Ps2Recomp.Lib.GenerationTags
import Ps2Recomp.Lib.Machine
import Ps2Recomp.Tlb.Page

/-!
# The TLB caches do not change translation

`PageAnswers` says what a line promises: every request for its page, mode and permission, of its
ASID or, if it is global, of any, is translated to its physical page by the walk. `Sound` says that
every line of the current generation keeps that promise, in both caches. A change of the mapping
makes every line stale, and a fill writes a line that the walk has just confirmed.

The promise of a global line goes beyond the walk that fills it. If that walk passed over an entry
of another ASID on the same page, then this ASID is answered by the line and not by its entry
(`privateEntry_shadowed`). `fillsOverPrivateEntry` is that fill; without it the caches are
transparent (`caches_transparent`).
-/

namespace Ps2Recomp

open Machine

/-! ## Lines -/

/-- Every request that agrees with the tags is translated to the physical page. -/
def PageAnswers (entries : List EeTlbEntry) (base physicalBase : BitVec 32)
    (translation : EeAddressTranslationContext) (global writable : Bool) : Prop :=
  ∀ va translation' write, pageBase va = base → translation'.mode = translation.mode →
    translation'.enforceOperatingMode = translation.enforceOperatingMode →
    translation'.errorLevel = translation.errorLevel →
    (global = true ∨ translation'.asid = translation.asid) →
    (write = true → writable = true) → translation'.permits va = true →
    resolveAddressUncached entries va translation' write = .ok ⟨physicalBase + pageOffset va, false⟩

def EeTlbTranslationCacheEntry.context (line : EeTlbTranslationCacheEntry) :
    EeAddressTranslationContext where
  mode := line.mode
  enforceOperatingMode := line.enforceOperatingMode
  errorLevel := line.errorLevel
  asid := line.asid

def EeTlbTranslationCacheEntry.Sound (entries : List EeTlbEntry)
    (line : EeTlbTranslationCacheEntry) : Prop :=
  line.valid = true → PageAnswers entries line.virtualPageBase line.physicalPageBase line.context
    line.global line.writable

def EeTlbFastCacheEntry.Sound (entries : List EeTlbEntry) (line : EeTlbFastCacheEntry) : Prop :=
  ∀ va translation write,
    line.keyMatches (makeTlbFastCacheKey va translation write) = true →
    translation.permits va = true →
    resolveAddressUncached entries va translation write =
      .ok ⟨line.physicalPageBase + pageOffset va, false⟩

variable {entries : List EeTlbEntry} {va base physicalBase : BitVec 32}
  {translation translation' : EeAddressTranslationContext} {global writable write : Bool}

/-- What a line promises to a context it also promises to one that agrees with it. -/
theorem PageAnswers.of_context
    (h : PageAnswers entries base physicalBase translation global writable)
    (hmode : translation'.mode = translation.mode)
    (henforce : translation'.enforceOperatingMode = translation.enforceOperatingMode)
    (hlevel : translation'.errorLevel = translation.errorLevel)
    (hasid : global = true ∨ translation'.asid = translation.asid) :
    PageAnswers entries base physicalBase translation' global writable := by
  intro va' context write' hpage hm he hl ha hw hpermits
  refine h va' context write' hpage (hm.trans hmode) (he.trans henforce) (hl.trans hlevel) ?_ hw
    hpermits
  rcases hasid with hglobal | hasid
  · exact Or.inl hglobal
  · exact ha.imp_right fun ha => ha.trans hasid

theorem PageAnswers.fastLine {s : TlbState}
    (h : PageAnswers entries (pageBase va) physicalBase translation global writable) :
    (s.fastLine (pageBase va) physicalBase translation global writable).Sound entries := by
  intro va' context write' hkey hpermits
  obtain ⟨hpage, hmode, henforce, hlevel, hasid, hwrite⟩ := of_keyMatches hkey
  rw [pageBase_pageBase] at hpage
  exact h va' context write' hpage hmode henforce hlevel hasid hwrite hpermits

/-- **The walk confirms the line it fills.** -/
theorem pageAnswers_of_walk {entry : EeTlbEntry}
    (hmapped : untranslatedAddress va translation = none)
    (hwalk : walkTlb entries va translation.asid write = .ok entry)
    (hprivate : entry.global = true →
      ∀ skipped ∈ skippedEntries entries va translation.asid, skipped.covers va = false)
    (hscratchpad : entry.scratchpad = false) :
    PageAnswers entries (pageBase va) ((entry.translated va).physicalAddress - pageOffset va)
      translation entry.global (entry.dirty va) := by
  intro va' context write' hpage hmode henforce hlevel hasid hwrite hpermits
  have hmapped' : untranslatedAddress va' context = none := by
    rw [← Option.isNone_iff_eq_none, isNone_untranslatedAddress hpage henforce hlevel, hmapped]
    rfl
  have hasid' : context.asid = translation.asid ∨ entry.global = true ∧
      ∀ skipped ∈ skippedEntries entries va translation.asid, skipped.covers va = false :=
    (hasid.imp_left fun hglobal => ⟨hglobal, hprivate hglobal⟩).symm
  have hwalk' : walkTlb entries va' context.asid write' = .ok entry :=
    walkTlb_samePage hpage.symm hwalk hasid' hwrite
  simp only [resolveAddressUncached, hpermits, Bool.not_true, Bool.false_eq_true, if_false,
    hmapped', hwalk']
  rw [EeTlbEntry.translated_samePage hpage.symm hscratchpad]

/-! ## The invariant -/

namespace TlbState

variable {s : TlbState} {accessSize : BitVec 32}

/-- Every line of the current generation keeps its promise. -/
structure Sound (s : TlbState) : Prop where
  positive : 0 < s.tlbMappingGeneration
  backing : Tagged s.tlbTranslationCache (·.generation) (·.Sound s.tlbEntries)
    s.tlbMappingGeneration
  fast : Tagged s.tlbFastCache (·.generation) (·.Sound s.tlbEntries) s.tlbMappingGeneration

theorem Sound.advance (h : s.Sound) {entries : List EeTlbEntry} :
    { s with tlbEntries := entries }.advanceTlbMappingGeneration.Sound := by
  unfold advanceTlbMappingGeneration
  split
  · exact ⟨Nat.one_pos, Tagged.of_forall_lt fun _ => Nat.one_pos,
      Tagged.of_forall_lt fun _ => Nat.one_pos⟩
  · exact ⟨Nat.succ_pos _, h.backing.advance (Nat.lt_succ_self _),
      h.fast.advance (Nat.lt_succ_self _)⟩

theorem sound_initial : initial.Sound := by
  have hfresh : ({} : TlbState).Sound :=
    ⟨Nat.one_pos, Tagged.of_forall_lt fun _ => Nat.one_pos,
      Tagged.of_forall_lt fun _ => Nat.one_pos⟩
  exact hfresh.advance

theorem Sound.fillFast (h : s.Sound)
    (hpage : PageAnswers s.tlbEntries (pageBase va) physicalBase translation global writable) :
    (s.fillTlbFastCache (pageBase va) physicalBase translation global writable).Sound := by
  unfold fillTlbFastCache
  dsimp only
  split
  · exact h
  · exact ⟨h.positive, h.backing, h.fast.update (Nat.le_refl _) hpage.fastLine⟩

/-! ## Lookups -/

theorem of_lookupLine (h : s.Sound) {line : EeTlbTranslationCacheEntry}
    (hline : s.lookupLine va translation write accessSize = some line) :
    line.virtualPageBase = pageBase va ∧ translation.permits va = true ∧
      (write = true → line.writable = true) ∧
      PageAnswers s.tlbEntries (pageBase va) line.physicalPageBase translation line.global
        line.writable := by
  unfold lookupLine at hline
  split at hline
  next => cases hline
  next =>
    split at hline
    next => cases hline
    next hcacheable =>
      have hhits : line.hits s.tlbMappingGeneration va translation write accessSize = true := by
        simpa using List.find?_some hline
      obtain ⟨way, -, rfl⟩ := List.mem_map.1 (List.mem_of_find?_eq_some hline)
      simp only [EeTlbTranslationCacheEntry.hits, EeTlbTranslationCacheEntry.tagMatches,
        Bool.and_eq_true, Bool.or_eq_true, beq_iff_eq, Bool.not_eq_true', decide_eq_true_eq]
        at hhits
      obtain ⟨⟨⟨⟨⟨⟨⟨⟨⟨hvalid, -⟩, hbase⟩, hmode⟩, henforce⟩, hlevel⟩, hasid⟩, hgeneration⟩,
        hwrite⟩, -⟩ := hhits
      have hsound := h.backing.good _ hgeneration hvalid
      rw [hbase] at hsound
      refine ⟨hbase, ?_, ?_, hsound.of_context hmode.symm henforce.symm hlevel.symm
        (hasid.imp_right Eq.symm)⟩
      · simp only [Bool.not_eq_true', Bool.not_eq_false, cacheableAccess, Bool.and_eq_true]
          at hcacheable
        exact hcacheable.1.1.2
      · rintro rfl
        simpa using hwrite

theorem lookup_sound (h : s.Sound) :
    (s.lookupTlbTranslationCache va translation write accessSize).1.Sound := by
  unfold lookupTlbTranslationCache
  split
  next => exact h
  next line hline =>
    obtain ⟨hbase, -, -, hpage⟩ := of_lookupLine h hline
    rw [hbase]
    exact h.fillFast hpage

/-- A hit of the backing cache is what the walk gives. -/
theorem lookup_eq (h : s.Sound) {cached : EeTranslatedAddress}
    (hcached : (s.lookupTlbTranslationCache va translation write accessSize).2 = some cached) :
    resolveAddressUncached s.tlbEntries va translation write = .ok cached := by
  unfold lookupTlbTranslationCache at hcached
  split at hcached
  next => cases hcached
  next line hline =>
    cases hcached
    obtain ⟨-, hpermits, hwrite, hpage⟩ := of_lookupLine h hline
    exact hpage va translation write rfl rfl rfl rfl (Or.inr rfl) hwrite hpermits

theorem of_lookup_miss {s' : TlbState}
    (hlookup : s.lookupTlbTranslationCache va translation write accessSize = (s', none)) :
    s' = s ∧ s.lookupLine va translation write accessSize = none := by
  unfold lookupTlbTranslationCache at hlookup
  split at hlookup
  next hline =>
    cases hlookup
    exact ⟨rfl, hline⟩
  next => cases hlookup

/-! ## Transparency in a sound state -/

theorem resolveAddress_eq (h : s.Sound) :
    (s.resolveAddress va translation write accessSize).2 =
      resolveAddressUncached s.tlbEntries va translation write := by
  unfold resolveAddress
  by_cases hpermits : translation.permits va = true
  · simp only [hpermits, Bool.not_true, Bool.false_eq_true, if_false]
    split
    next translated hmapped =>
      simp only [resolveAddressUncached, hpermits, Bool.not_true, Bool.false_eq_true, if_false,
        hmapped]
    next hmapped =>
      split
      next s' cached hlookup =>
        exact (lookup_eq h (congrArg Prod.snd hlookup)).symm
      next s' hlookup =>
        obtain ⟨rfl, -⟩ := of_lookup_miss hlookup
        simp only [resolveAddressUncached, hpermits, Bool.not_true, Bool.false_eq_true, if_false,
          hmapped]
        cases walkTlb s'.tlbEntries va translation.asid write with
        | error fault => rfl
        | ok entry => rfl
  · simp only [resolveAddressUncached, hpermits, Bool.not_false, if_true]

theorem tryResolve_sound (h : s.Sound) {physicalOffset : BitVec 32}
    (hhit : s.tryResolveCachedTlbRdramOffset va translation write accessSize =
      some physicalOffset) :
    resolveAddressUncached s.tlbEntries va translation write = .ok ⟨physicalOffset, false⟩ := by
  unfold tryResolveCachedTlbRdramOffset at hhit
  split at hhit
  next => cases hhit
  next =>
    split at hhit
    next => cases hhit
    next hcacheable =>
      dsimp only at hhit
      split at hhit
      next hmatch =>
        cases hhit
        simp only [Bool.and_eq_true, beq_iff_eq, decide_eq_true_eq] at hmatch
        simp only [Bool.not_eq_true', Bool.not_eq_false, cacheableAccess, Bool.and_eq_true]
          at hcacheable
        exact h.fast.good _ hmatch.1.1 va translation write hmatch.1.2 hcacheable.1.1.2
      next => cases hhit

/-! ## Fills -/

/-- The access misses the backing cache, and the walk fills a global line although an entry of
another ASID, passed over on the way, covers the same page. -/
def fillsOverPrivateEntry (s : TlbState) (va : BitVec 32)
    (translation : EeAddressTranslationContext) (write : Bool) (accessSize : BitVec 32) : Bool :=
  s.tlbTranslationCacheEnabled && translation.permits va &&
  (untranslatedAddress va translation).isNone &&
  (s.lookupLine va translation write accessSize).isNone &&
  match walkTlb s.tlbEntries va translation.asid write with
  | .error _ => false
  | .ok entry =>
    entry.global && !entry.scratchpad &&
    (entry.translated va).physicalAddress - pageOffset va ≤ ps2RamSize - 0x1000#32 &&
    (skippedEntries s.tlbEntries va translation.asid).any fun skipped => skipped.covers va

theorem fillTlbTranslationCache_sound (h : s.Sound) {entry : EeTlbEntry} {tlbPageSize : BitVec 32}
    (hpage : s.tlbTranslationCacheEnabled = true → entry.scratchpad = false →
      (entry.translated va).physicalAddress - pageOffset va ≤ ps2RamSize - 0x1000#32 →
      PageAnswers s.tlbEntries (pageBase va) ((entry.translated va).physicalAddress - pageOffset va)
        translation global writable) :
    (s.fillTlbTranslationCache va (entry.translated va) translation tlbPageSize global
      writable).Sound := by
  unfold fillTlbTranslationCache
  split
  next => exact h
  next henabled =>
    split
    next => exact h
    next hscratchpad =>
      split
      next => exact h
      next =>
        dsimp only
        split
        next => exact h
        next hrdram =>
          have hspace : entry.scratchpad = false := by
            cases hs : entry.scratchpad with
            | false => rfl
            | true => simp [EeTlbEntry.translated, hs] at hscratchpad
          have hanswers := hpage (by simpa using henabled) hspace (BitVec.not_lt.1 hrdram)
          refine Sound.fillFast ⟨h.positive, ?_, h.fast⟩ hanswers
          refine h.backing.update (Nat.le_refl _) fun _ => ?_
          exact hanswers.of_context rfl rfl rfl (Or.inr rfl)

theorem resolveAddress_sound (h : s.Sound)
    (hfill : s.fillsOverPrivateEntry va translation write accessSize = false) :
    (s.resolveAddress va translation write accessSize).1.Sound := by
  unfold resolveAddress
  by_cases hpermits : translation.permits va = true
  · simp only [hpermits, Bool.not_true, Bool.false_eq_true, if_false]
    split
    next => exact h
    next hmapped =>
      split
      next s' cached hlookup =>
        have hsound := @lookup_sound va translation write s accessSize h
        rwa [hlookup] at hsound
      next s' hlookup =>
        obtain ⟨rfl, hmiss⟩ := of_lookup_miss hlookup
        split
        next => exact h
        next entry hwalk =>
          refine fillTlbTranslationCache_sound h fun henabled hscratchpad hrdram =>
            pageAnswers_of_walk hmapped hwalk (fun hglobal => ?_) hscratchpad
          simpa [fillsOverPrivateEntry, henabled, hpermits, hmapped, hmiss, hwalk, hglobal,
            hscratchpad, hrdram] using hfill
  · simp only [hpermits, Bool.not_false, if_true]
    exact h

end TlbState

/-! ## Runs -/

inductive TlbInput where
  | tlbWrite (index : ℕ) (entry : EeTlbEntry)
  | installPostBiosTlbState
  | setTlbTranslationCacheEnabled (enabled : Bool)
  | resolveAddress (virtualAddress : BitVec 32) (translation : EeAddressTranslationContext)
      (writeAccess : Bool) (accessSize : BitVec 32)

namespace TlbState

def step (s : TlbState) : TlbInput → TlbState
  | .tlbWrite index entry => (s.tlbWrite index entry).1
  | .installPostBiosTlbState => s.installPostBiosTlbState
  | .setTlbTranslationCacheEnabled enabled => s.setTlbTranslationCacheEnabled enabled
  | .resolveAddress va translation write accessSize =>
    (s.resolveAddress va translation write accessSize).1

/-- The step does not fill a global line over an entry of another ASID. -/
def KeepsPrivatePages (s : TlbState) : TlbInput → Prop
  | .resolveAddress va translation write accessSize =>
    s.fillsOverPrivateEntry va translation write accessSize = false
  | _ => True

instance (s : TlbState) : ∀ input, Decidable (s.KeepsPrivatePages input)
  | .tlbWrite _ _ => inferInstanceAs (Decidable True)
  | .installPostBiosTlbState => inferInstanceAs (Decidable True)
  | .setTlbTranslationCacheEnabled _ => inferInstanceAs (Decidable True)
  | .resolveAddress _ _ _ _ => inferInstanceAs (Decidable (_ = false))

theorem step_sound (s : TlbState) (input : TlbInput) (h : s.Sound)
    (hinput : s.KeepsPrivatePages input) : (s.step input).Sound := by
  cases input with
  | tlbWrite index entry =>
    simp only [step, tlbWrite]
    split
    · exact h
    · exact h.advance
  | installPostBiosTlbState => exact h.advance
  | setTlbTranslationCacheEnabled enabled => exact ⟨h.positive, h.backing, h.fast⟩
  | resolveAddress va translation write accessSize => exact resolveAddress_sound h hinput

/-- **In every run that never fills a global line over an entry of another ASID, translating with
the caches gives what the walk gives, and what the fast cache resolves the walk resolves to the same
place in RDRAM.** -/
theorem caches_transparent {inputs : List TlbInput}
    (hrun : Along step KeepsPrivatePages initial inputs) :
    let s := run step initial inputs
    (∀ va translation write accessSize,
      (s.resolveAddress va translation write accessSize).2 =
        resolveAddressUncached s.tlbEntries va translation write) ∧
    ∀ va translation write accessSize physicalOffset,
      s.tryResolveCachedTlbRdramOffset va translation write accessSize = some physicalOffset →
      resolveAddressUncached s.tlbEntries va translation write = .ok ⟨physicalOffset, false⟩ := by
  have hsound : (run step initial inputs).Sound := invariant step_sound sound_initial hrun
  exact ⟨fun va translation write accessSize => resolveAddress_eq hsound,
    fun va translation write accessSize physicalOffset hhit => tryResolve_sound hsound hhit⟩

/-- An entry of ASID 1 before a global one on the same page. -/
def overlappingEntries : List TlbInput :=
  [.tlbWrite 0 ⟨0, 0x00400001, 0x46, 0x46⟩, .tlbWrite 1 ⟨0, 0x00400000, 0x87, 0x87⟩]

def userContext (asid : BitVec 8) : EeAddressTranslationContext := ⟨.User, true, false, asid⟩

theorem caches_transparent_private :
    Along step KeepsPrivatePages initial
      (overlappingEntries ++ [.resolveAddress 0x00400010 (userContext 1) false 4]) ∧
    let s := run step initial
      (overlappingEntries ++ [.resolveAddress 0x00400010 (userContext 1) false 4])
    s.tryResolveCachedTlbRdramOffset 0x00400010 (userContext 1) false 4 = some 0x1010 ∧
    resolveAddressUncached s.tlbEntries 0x00400010 (userContext 1) false = .ok ⟨0x1010, false⟩ := by
  have hrun : Along step KeepsPrivatePages initial
      (overlappingEntries ++ [.resolveAddress 0x00400010 (userContext 1) false 4]) := by decide
  have hhit : (run step initial
      (overlappingEntries ++ [.resolveAddress 0x00400010 (userContext 1) false
        4])).tryResolveCachedTlbRdramOffset 0x00400010 (userContext 1) false 4 = some 0x1010 := by
    decide
  exact ⟨hrun, hhit, (caches_transparent hrun).2 _ _ _ _ _ hhit⟩

/-- The global line that ASID 2 filled answers ASID 1, whose own entry maps another page. -/
theorem privateEntry_shadowed :
    let s := run step initial
      (overlappingEntries ++ [.resolveAddress 0x00400010 (userContext 2) false 4])
    (s.resolveAddress 0x00400010 (userContext 1) false 4).2 = .ok ⟨0x2010, false⟩ ∧
    s.tryResolveCachedTlbRdramOffset 0x00400010 (userContext 1) false 4 = some 0x2010 ∧
    resolveAddressUncached s.tlbEntries 0x00400010 (userContext 1) false =
      .ok ⟨0x1010, false⟩ := by
  decide

end TlbState

end Ps2Recomp
