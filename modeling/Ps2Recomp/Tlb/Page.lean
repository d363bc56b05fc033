import Ps2Recomp.Tlb.Cache

/-!
# A translation depends on the page and adds the offset

Every test that `resolveAddressUncached` makes looks at bits 12 to 31 of the address, or compares it
with multiples of 4 KiB: addresses of one page take the same way (`isNone_untranslatedAddress`,
`walkTlb_congr`), and the physical address is the page's with the offset added
(`translated_samePage`). `of_keyMatches` reads the fields back out of a fast line's key.
-/

namespace Ps2Recomp

variable {va va' : BitVec 32}

/-! ## Pages -/

theorem getLsbD_offsetMask (i : ℕ) : (0xFFF#32).getLsbD i = decide (i < 12) := by
  rcases Nat.lt_or_ge i 32 with h | h
  · have hall : ∀ j : Fin 32, (0xFFF#32).getLsbD j = decide (j.val < 12) := by decide
    exact hall ⟨i, h⟩
  · rw [BitVec.getLsbD_of_ge _ _ h]
    exact (decide_eq_false (by omega)).symm

theorem getLsbD_pageBase (i : ℕ) :
    (pageBase va).getLsbD i = (decide (12 ≤ i) && va.getLsbD i) := by
  rw [pageBase, BitVec.getLsbD_and, BitVec.getLsbD_not, getLsbD_offsetMask]
  by_cases h : i < 12
  · simp [h]
  · rcases Nat.lt_or_ge i 32 with h' | h'
    · simp [h, h', Nat.le_of_not_lt h]
    · simp [BitVec.getLsbD_of_ge _ _ h']

@[simp] theorem pageBase_pageBase : pageBase (pageBase va) = pageBase va := by
  refine BitVec.eq_of_getLsbD_eq fun i _ => ?_
  rw [getLsbD_pageBase, getLsbD_pageBase]
  by_cases h : 12 ≤ i <;> simp [h]

theorem pageBase_add_pageOffset : pageBase va + pageOffset va = va := by
  have hdisjoint : pageBase va &&& pageOffset va = 0#32 := by
    refine BitVec.eq_of_getLsbD_eq fun i _ => ?_
    rw [BitVec.getLsbD_and, getLsbD_pageBase, pageOffset, BitVec.getLsbD_and, getLsbD_offsetMask]
    by_cases h : 12 ≤ i <;> simp [h]
  rw [BitVec.add_eq_or_of_and_eq_zero _ _ hdisjoint]
  refine BitVec.eq_of_getLsbD_eq fun i _ => ?_
  rw [BitVec.getLsbD_or, getLsbD_pageBase, pageOffset, BitVec.getLsbD_and, getLsbD_offsetMask]
  by_cases h : i < 12
  · simp [h]
  · simp [h, Nat.le_of_not_lt h]

theorem getLsbD_of_samePage (h : pageBase va = pageBase va') {i : ℕ} (hi : 12 ≤ i) :
    va.getLsbD i = va'.getLsbD i := by
  have hbit : (pageBase va).getLsbD i = (pageBase va').getLsbD i := by rw [h]
  simpa [getLsbD_pageBase, hi] using hbit

theorem toNat_div_of_samePage (h : pageBase va = pageBase va') :
    va.toNat / 4096 = va'.toNat / 4096 := by
  have hshift : va >>> 12 = va' >>> 12 := by
    refine BitVec.eq_of_getLsbD_eq fun i _ => ?_
    rw [BitVec.getLsbD_ushiftRight, BitVec.getLsbD_ushiftRight]
    exact getLsbD_of_samePage h (Nat.le_add_right 12 i)
  have hnat := congrArg BitVec.toNat hshift
  simpa [BitVec.toNat_ushiftRight, Nat.shiftRight_eq_div_pow] using hnat

/-- A mask without low bits does not see the offset. -/
theorem and_mask_of_samePage (h : pageBase va = pageBase va') {mask : BitVec 32}
    (hmask : ∀ i < 12, mask.getLsbD i = false) : va &&& mask = va' &&& mask := by
  refine BitVec.eq_of_getLsbD_eq fun i _ => ?_
  rw [BitVec.getLsbD_and, BitVec.getLsbD_and]
  by_cases hi : i < 12
  · rw [hmask i hi, Bool.and_false, Bool.and_false]
  · rw [getLsbD_of_samePage h (Nat.le_of_not_lt hi)]

theorem lt_of_samePage (h : pageBase va = pageBase va') (bound : BitVec 32)
    (hbound : bound.toNat % 4096 = 0) : va < bound ↔ va' < bound := by
  have hdiv := toNat_div_of_samePage h
  rw [BitVec.lt_def, BitVec.lt_def]
  omega

theorem ge_of_samePage (h : pageBase va = pageBase va') (bound : BitVec 32)
    (hbound : bound.toNat % 4096 = 0) : bound ≤ va ↔ bound ≤ va' := by
  have hdiv := toNat_div_of_samePage h
  rw [BitVec.le_def, BitVec.le_def]
  omega

theorem addressInRange_of_samePage (h : pageBase va = pageBase va') (base size : BitVec 32)
    (hbase : base.toNat % 4096 = 0) (hsize : size.toNat % 4096 = 0) :
    addressInRange va base size = addressInRange va' base size := by
  have hdiv := toNat_div_of_samePage h
  have hbound := base.isLt
  refine decide_eq_decide.2 ?_
  rw [BitVec.lt_def, BitVec.lt_def, BitVec.toNat_sub, BitVec.toNat_sub]
  omega

theorem lower_of_samePage (h : pageBase va = pageBase va') :
    pageBase (va &&& 0x7FFFFFFF#32) = pageBase (va' &&& 0x7FFFFFFF#32) := by
  refine BitVec.eq_of_getLsbD_eq fun i _ => ?_
  rw [getLsbD_pageBase, getLsbD_pageBase, BitVec.getLsbD_and, BitVec.getLsbD_and]
  by_cases hi : 12 ≤ i
  · rw [getLsbD_of_samePage h hi]
  · simp [hi]

theorem isScratchpad_of_samePage (h : pageBase va = pageBase va') :
    isScratchpad va = isScratchpad va' := by
  have hlower := lower_of_samePage h
  have htop : va &&& 0x80000000#32 = va' &&& 0x80000000#32 :=
    and_mask_of_samePage h (by decide)
  unfold isScratchpad
  simp only [htop, ge_iff_le, ge_of_samePage h 0x70000000#32 rfl,
    lt_of_samePage h 0x70004000#32 rfl,
    ge_of_samePage hlower 0x70000000#32 rfl,
    lt_of_samePage hlower 0x70004000#32 rfl]

theorem isNone_untranslatedAddress (h : pageBase va = pageBase va')
    {translation translation' : EeAddressTranslationContext}
    (henforce : translation.enforceOperatingMode = translation'.enforceOperatingMode)
    (hlevel : translation.errorLevel = translation'.errorLevel) :
    (untranslatedAddress va translation).isNone =
      (untranslatedAddress va' translation').isNone := by
  have hrange := addressInRange_of_samePage h
  have hspecial : isPhysicalSpecialAddress va = isPhysicalSpecialAddress va' := by
    simp only [isPhysicalSpecialAddress,
      hrange 0x1FC00000#32 0x00400000#32 rfl rfl,
      hrange 0x70000000#32 0x4000#32 rfl rfl,
      hrange 0x10000000#32 0x10000#32 rfl rfl,
      hrange 0x12000000#32 0x2000#32 rfl rfl, ge_iff_le,
      ge_of_samePage h 0x11004000#32 rfl, lt_of_samePage h 0x1100C000#32 rfl]
  have huncached : isUncachedRamMirrorAddress va = isUncachedRamMirrorAddress va' := hrange _ _ rfl rfl
  have haccelerated : isAcceleratedRamMirrorAddress va = isAcceleratedRamMirrorAddress va' :=
    hrange _ _ rfl rfl
  have hkseg01 : isKseg01Address va = isKseg01Address va' := hrange _ _ rfl rfl
  have hlow : decide (va < 0x80000000#32) = decide (va' < 0x80000000#32) :=
    decide_eq_decide.2 (lt_of_samePage h _ rfl)
  have hkseg23 : isKseg23Address va = isKseg23Address va' :=
    decide_eq_decide.2 (ge_of_samePage h 0xC0000000#32 rfl)
  unfold untranslatedAddress EeAddressTranslationContext.mapsKusegThroughTlb
  rw [isScratchpad_of_samePage h, hspecial, huncached, haccelerated, hkseg01, hkseg23, henforce,
    hlevel, hlow]
  split_ifs <;> rfl

/-! ## Entries -/

namespace EeTlbEntry

variable {entry : EeTlbEntry}

theorem getLsbD_compareMask {i : ℕ} (hi : i < 12) :
    (~~~entry.pairOffsetMask).getLsbD i = false := by
  have hpair : ∀ j : Fin 12, (0x3fff#32).getLsbD j = true ∧ (0x1fff#32).getLsbD j = true := by
    decide
  rw [BitVec.getLsbD_not, pairOffsetMask]
  split
  · rw [(hpair ⟨i, hi⟩).1, Bool.not_true, Bool.and_false]
  · rw [BitVec.getLsbD_or, (hpair ⟨i, hi⟩).2, Bool.or_true, Bool.not_true, Bool.and_false]

theorem getLsbD_pageSize {i : ℕ} (hi : i < 12) : entry.pageSize.getLsbD i = false := by
  rw [pageSize, BitVec.getLsbD_shiftLeft]
  simp [hi]

theorem getLsbD_pageOffsetMask {i : ℕ} (hi : i < 12) :
    (entry.pageSize - 1#32).getLsbD i = true := by
  have hmod : entry.pageSize.toNat % 4096 = 0 := by
    rw [pageSize, BitVec.toNat_shiftLeft, Nat.shiftLeft_eq]
    omega
  have hlow : (entry.pageSize - 1#32).toNat % 2 ^ 12 = 4095 := by
    rw [BitVec.toNat_sub]
    have hone : (1#32).toNat = 1 := rfl
    omega
  have hbit : (4095 : ℕ).testBit i = true := by
    have hall : ∀ j : Fin 12, (4095 : ℕ).testBit j = true := by decide
    exact hall ⟨i, hi⟩
  rw [← hlow, Nat.testBit_mod_two_pow] at hbit
  rw [BitVec.getLsbD]
  simpa [hi] using hbit

theorem covers_of_samePage (h : pageBase va = pageBase va') :
    entry.covers va = entry.covers va' := by
  rw [covers, covers, and_mask_of_samePage h fun i hi => getLsbD_compareMask hi]

theorem answers_of_samePage (h : pageBase va = pageBase va') (asid : BitVec 8) :
    entry.answers va asid = entry.answers va' asid := by
  rw [answers, answers, covers_of_samePage h]

theorem entryLo_of_samePage (h : pageBase va = pageBase va') :
    entry.entryLo va = entry.entryLo va' := by
  rw [entryLo, entryLo, and_mask_of_samePage h fun i hi => getLsbD_pageSize hi]

theorem valid_of_samePage (h : pageBase va = pageBase va') : entry.valid va = entry.valid va' := by
  rw [valid, valid, entryLo_of_samePage h]

theorem dirty_of_samePage (h : pageBase va = pageBase va') : entry.dirty va = entry.dirty va' := by
  rw [dirty, dirty, entryLo_of_samePage h]

/-- An RDRAM address is the base of its page with the offset of the virtual address. -/
theorem translated_samePage (h : pageBase va = pageBase va')
    (hscratchpad : entry.scratchpad = false) :
    entry.translated va' =
      ⟨(entry.translated va).physicalAddress - pageOffset va + pageOffset va', false⟩ := by
  have hoffset (x : BitVec 32) :
      pageOffset (entry.translated x).physicalAddress = pageOffset x := by
    refine BitVec.eq_of_getLsbD_eq fun i _ => ?_
    rw [pageOffset, pageOffset, BitVec.getLsbD_and, BitVec.getLsbD_and, getLsbD_offsetMask]
    by_cases hi : i < 12
    · simp [translated, hscratchpad, BitVec.getLsbD_shiftLeft, hi, getLsbD_pageOffsetMask hi]
    · simp [hi]
  have hbase : pageBase (entry.translated va').physicalAddress =
      pageBase (entry.translated va).physicalAddress := by
    refine BitVec.eq_of_getLsbD_eq fun i _ => ?_
    rw [getLsbD_pageBase, getLsbD_pageBase]
    by_cases hi : 12 ≤ i
    · simp only [translated, hscratchpad, Bool.false_eq_true, if_false, BitVec.getLsbD_or,
        BitVec.getLsbD_and, pfn, entryLo_of_samePage h, getLsbD_of_samePage h hi]
    · simp [hi]
  have hphysical : (entry.translated va').physicalAddress =
      (entry.translated va).physicalAddress - pageOffset va + pageOffset va' := by
    calc (entry.translated va').physicalAddress
        = pageBase (entry.translated va').physicalAddress +
            pageOffset (entry.translated va').physicalAddress := pageBase_add_pageOffset.symm
      _ = pageBase (entry.translated va).physicalAddress + pageOffset va' := by
          rw [hbase, hoffset]
      _ = (entry.translated va).physicalAddress - pageOffset va + pageOffset va' := by
          rw [← hoffset va, BitVec.eq_sub_iff_add_eq.2 pageBase_add_pageOffset]
  have hspace : (entry.translated va').scratchpad = false := by
    simp [translated, hscratchpad]
  rw [← hphysical, ← hspace]

end EeTlbEntry

/-! ## The walk -/

/-- The entries the walk passes over. -/
def skippedEntries (entries : List EeTlbEntry) (virtualAddress : BitVec 32) (asid : BitVec 8) :
    List EeTlbEntry :=
  entries.takeWhile fun entry => !entry.answers virtualAddress asid

theorem find?_of_skipped {α : Type*} {p q : α → Bool} {l : List α} {a : α} (h : l.find? p = some a)
    (hskipped : ∀ b ∈ l.takeWhile (fun b => !p b), q b = false) (ha : q a = true) :
    l.find? q = some a := by
  induction l with
  | nil => cases h
  | cons b rest ih =>
    by_cases hb : p b = true
    · rw [List.find?_cons_of_pos hb] at h
      cases h
      exact List.find?_cons_of_pos ha
    · rw [List.find?_cons_of_neg hb] at h
      rw [List.takeWhile_cons_of_pos (by simpa using hb)] at hskipped
      rw [List.find?_cons_of_neg (by simp [hskipped b List.mem_cons_self])]
      exact ih h fun c hc => hskipped c (List.mem_cons_of_mem _ hc)

theorem answers_of_global {entry : EeTlbEntry} {asid asid' : BitVec 8}
    (hglobal : entry.global = true) (h : entry.answers va asid = true) :
    entry.answers va asid' = true := by
  rw [EeTlbEntry.answers, Bool.and_eq_true] at h ⊢
  exact ⟨h.1, by rw [hglobal, Bool.true_or]⟩

variable {entries : List EeTlbEntry} {entry : EeTlbEntry} {asid asid' : BitVec 8}
  {write write' : Bool}

theorem walkTlb_eq_ok : walkTlb entries va asid write = .ok entry ↔
    (entries.find? fun entry => entry.answers va asid) = some entry ∧ entry.valid va = true ∧
      (write = true → entry.dirty va = true) := by
  unfold walkTlb
  split
  next hnone => simp [hnone]
  next found hfound =>
    rw [hfound]
    cases hvalid : found.valid va with
    | false =>
      simp only [Bool.not_false, if_true, reduceCtorEq, false_iff, not_and, Option.some.injEq]
      rintro rfl hv
      rw [hvalid] at hv
      cases hv
    | true =>
      cases write <;> cases hdirty : found.dirty va <;>
        simp only [Bool.not_true, Bool.not_false, Bool.false_eq_true, if_false, if_true,
          Bool.and_true, Bool.and_false, Except.ok.injEq, reduceCtorEq, false_iff, not_and,
          Option.some.injEq, false_implies, and_true, true_implies]
      · exact ⟨fun h => ⟨h, h ▸ hvalid⟩, fun h => h.1⟩
      · exact ⟨fun h => ⟨h, h ▸ hvalid⟩, fun h => h.1⟩
      · rintro rfl - hd
        rw [hdirty] at hd
        cases hd
      · exact ⟨fun h => ⟨h, h ▸ hvalid, h ▸ hdirty⟩, fun h => h.1⟩

/-- **The walk finds the entry again for every address of the page**, and, if the entry is global
and no entry of another ASID stands before it on this page, for every ASID. -/
theorem walkTlb_samePage (h : pageBase va = pageBase va')
    (hwalk : walkTlb entries va asid write = .ok entry)
    (hasid : asid' = asid ∨ entry.global = true ∧
      ∀ skipped ∈ skippedEntries entries va asid, skipped.covers va = false)
    (hwrite : write' = true → entry.dirty va = true) :
    walkTlb entries va' asid' write' = .ok entry := by
  obtain ⟨hfind, hvalid, -⟩ := walkTlb_eq_ok.1 hwalk
  have hanswers : entry.answers va asid = true := by
    simpa using List.find?_some hfind
  refine walkTlb_eq_ok.2 ⟨?_, EeTlbEntry.valid_of_samePage h ▸ hvalid, fun hw => ?_⟩
  · have hcongr : (fun entry : EeTlbEntry => entry.answers va' asid') =
        fun entry => entry.answers va asid' := by
      funext entry
      exact (EeTlbEntry.answers_of_samePage h asid').symm
    rw [hcongr]
    rcases hasid with rfl | ⟨hglobal, hprivate⟩
    · exact hfind
    · refine find?_of_skipped hfind (fun skipped hmem => ?_)
        (answers_of_global hglobal hanswers)
      rw [EeTlbEntry.answers, hprivate skipped hmem, Bool.false_and]
  · rw [← EeTlbEntry.dirty_of_samePage h]
    exact hwrite hw

/-! ## Keys of the fast cache -/

variable {translation translation' : EeAddressTranslationContext}

theorem getLsbD_boolBit (b : Bool) (i : ℕ) :
    (boolBit b).getLsbD i = (decide (i = 0) && b) := by
  cases b
  · simp [boolBit]
  · rcases i with - | i
    · rfl
    · simp [boolBit]

theorem getLsbD_modeBits {mode : EeAddressSpaceMode} {i : ℕ} (hi : 2 ≤ i) :
    mode.bits.getLsbD i = false := by
  rcases Nat.lt_or_ge i 64 with h | h
  · have hall : ∀ (j : Fin 64), 2 ≤ j.val → (1#64).getLsbD j = false ∧
        (2#64).getLsbD j = false ∧ (3#64).getLsbD j = false := by decide
    have hbits := hall ⟨i, h⟩ hi
    cases mode
    · exact BitVec.getLsbD_zero
    · exact hbits.1
    · exact hbits.2.1
    · exact hbits.2.2
  · exact BitVec.getLsbD_of_ge _ _ h

theorem shifted_flag {k i : ℕ} (b : Bool) :
    (!decide (i < k) && (decide (i - k = 0) && b)) = (decide (i = k) && b) := by
  by_cases h : i = k
  · simp [h]
  · by_cases hlt : i < k
    · simp [h, hlt]
    · simp [h, show i - k ≠ 0 by omega]

theorem getLsbD_key {i : ℕ} (hi : i < 64) :
    (makeTlbFastCacheKey va translation write).getLsbD i =
      ((decide (12 ≤ i) && va.getLsbD i) || translation.asid.getLsbD i ||
        (!decide (i < 8) && translation.mode.bits.getLsbD (i - 8)) ||
        (decide (i = 10) && translation.enforceOperatingMode) ||
        (decide (i = 11) && translation.errorLevel) || (decide (i = 32) && write)) := by
  simp only [makeTlbFastCacheKey, BitVec.getLsbD_or, BitVec.getLsbD_setWidth, getLsbD_pageBase,
    BitVec.getLsbD_shiftLeft, getLsbD_boolBit, hi, decide_true, Bool.true_and, shifted_flag]

theorem getLsbD_eq_of_keyMatches {line : EeTlbFastCacheEntry} {requestKey : BitVec 64}
    (h : line.keyMatches requestKey = true) {i : ℕ} (hmask : line.matchMask.getLsbD i = true) :
    requestKey.getLsbD i = line.key.getLsbD i := by
  have hzero : ((requestKey ^^^ line.key) &&& line.matchMask).getLsbD i = false := by
    rw [eq_of_beq h, BitVec.getLsbD_zero]
  rw [BitVec.getLsbD_and, hmask, Bool.and_true, BitVec.getLsbD_xor] at hzero
  simpa using hzero

theorem getLsbD_matchMask {global writable : Bool} {s : TlbState} {base physical : BitVec 32}
    {i : ℕ} (hi : i < 64) :
    (s.fastLine base physical translation global writable).matchMask.getLsbD i =
      ((!global || decide (8 ≤ i)) && (!writable || decide (i ≠ 32))) := by
  have hall : ∀ j : Fin 64, (~~~0xff#64).getLsbD j = decide (8 ≤ j.val) ∧
      (~~~(1#64 <<< 32)).getLsbD j = decide (j.val ≠ 32) ∧
      (BitVec.allOnes 64).getLsbD j = true := by decide
  obtain ⟨hlow, hwrite, hones⟩ := hall ⟨i, hi⟩
  cases global <;> cases writable <;>
    simp only [TlbState.fastLine, BitVec.getLsbD_and, if_true, if_false, Bool.false_eq_true, hlow,
      hwrite, hones, Bool.not_true, Bool.not_false, Bool.true_or, Bool.false_or, Bool.and_true,
      Bool.true_and]

/-- **A line of the fast cache answers only requests for its page, mode and permission, and, unless
it is global, for its ASID.** -/
theorem of_keyMatches {global writable : Bool} {s : TlbState} {physical : BitVec 32}
    (h : (s.fastLine va physical translation global writable).keyMatches
      (makeTlbFastCacheKey va' translation' write) = true) :
    pageBase va' = pageBase va ∧ translation'.mode = translation.mode ∧
      translation'.enforceOperatingMode = translation.enforceOperatingMode ∧
      translation'.errorLevel = translation.errorLevel ∧
      (global = true ∨ translation'.asid = translation.asid) ∧
      (write = true → writable = true) := by
  have hbit {i : ℕ} (hi : i < 64)
      (hmask : ((!global || decide (8 ≤ i)) && (!writable || decide (i ≠ 32))) = true) :
      (makeTlbFastCacheKey va' translation' write).getLsbD i =
        (makeTlbFastCacheKey va translation false).getLsbD i :=
    getLsbD_eq_of_keyMatches h (by rw [getLsbD_matchMask hi, hmask])
  have hasidHigh (context : EeAddressTranslationContext) {i : ℕ} (hi : 8 ≤ i) :
      context.asid.getLsbD i = false := BitVec.getLsbD_of_ge _ _ hi
  refine ⟨?_, ?_, ?_, ?_, ?_, ?_⟩
  · refine BitVec.eq_of_getLsbD_eq fun i hi => ?_
    rw [getLsbD_pageBase, getLsbD_pageBase]
    by_cases hpage : 12 ≤ i
    · have hkey := hbit (i := i) (by omega) (by simp; omega)
      rw [getLsbD_key (by omega), getLsbD_key (by omega), hasidHigh _ (by omega),
        hasidHigh _ (by omega), getLsbD_modeBits (by omega), getLsbD_modeBits (by omega)] at hkey
      simpa [hpage, show i ≠ 10 by omega, show i ≠ 11 by omega, show i ≠ 32 by omega] using hkey
    · simp [hpage]
  · have h8 := hbit (i := 8) (by omega) (by simp)
    have h9 := hbit (i := 9) (by omega) (by simp)
    rw [getLsbD_key (by omega), getLsbD_key (by omega), hasidHigh _ (by omega),
      hasidHigh _ (by omega)] at h8 h9
    have hinjective : ∀ left right : EeAddressSpaceMode,
        left.bits.getLsbD 0 = right.bits.getLsbD 0 → left.bits.getLsbD 1 = right.bits.getLsbD 1 → left = right := by
      intro left right
      cases left <;> cases right <;> decide
    exact hinjective _ _ (by simpa using h8) (by simpa using h9)
  · have hkey := hbit (i := 10) (by omega) (by simp)
    rw [getLsbD_key (by omega), getLsbD_key (by omega), hasidHigh _ (by omega),
      hasidHigh _ (by omega), getLsbD_modeBits (by omega), getLsbD_modeBits (by omega)] at hkey
    simpa using hkey
  · have hkey := hbit (i := 11) (by omega) (by simp)
    rw [getLsbD_key (by omega), getLsbD_key (by omega), hasidHigh _ (by omega),
      hasidHigh _ (by omega), getLsbD_modeBits (by omega), getLsbD_modeBits (by omega)] at hkey
    simpa using hkey
  · cases hglobal : global with
    | true => exact Or.inl rfl
    | false =>
      refine Or.inr (BitVec.eq_of_getLsbD_eq fun i hi => ?_)
      have hkey := hbit (i := i) (by omega) (by simp [hglobal]; omega)
      rw [getLsbD_key (by omega), getLsbD_key (by omega)] at hkey
      simpa [hi, show ¬ 12 ≤ i by omega, show i ≠ 10 by omega, show i ≠ 11 by omega,
        show i ≠ 32 by omega] using hkey
  · intro hwrite
    by_contra hwritable
    have hkey := hbit (i := 32) (by omega) (by simp [Bool.eq_false_iff.2 hwritable])
    rw [getLsbD_key (by omega), getLsbD_key (by omega), hasidHigh _ (by omega),
      hasidHigh _ (by omega), getLsbD_modeBits (by omega), getLsbD_modeBits (by omega)] at hkey
    simp [hwrite] at hkey

end Ps2Recomp
