import Ps2Recomp.Vu.ProgramCacheInvariant
import Mathlib.Logic.Function.Iterate

/-!
# Handles of cached programs

A handle is an epoch and a slot. Every call either keeps the epoch and takes no program out of its
slot, or it advances the epoch, at most `2 ^ 32` times (`advances_step`): an eviction, a flush and a
change of the scope or of the code generation each advance it. As long as the epoch does not wrap, a
handle that still carries the epoch of the cache therefore names the program that was in its slot
when it was issued (`handles_sound`).
-/

namespace Ps2Recomp

namespace VuProgramCache

open SlotTable Machine
open VuProgramKey (sameProgramIdentity_equivalence)

variable {c c' c'' : VuProgramCache} {limits : VuProgramCacheLimits} {bound bound' : ℕ}

/-! ## Epochs -/

/-- The epochs are the positive `uint64_t` values. -/
def EpochOk (epoch : ℕ) : Prop := 0 < epoch ∧ epoch < 2 ^ 64

instance (epoch : ℕ) : Decidable (EpochOk epoch) := inferInstanceAs (Decidable (_ ∧ _))

theorem iterate_nextEpoch {epoch : ℕ} (h : EpochOk epoch) (k : ℕ) :
    nextEpoch^[k] epoch = (epoch - 1 + k) % (2 ^ 64 - 1) + 1 := by
  obtain ⟨hpos, hlt⟩ := h
  induction k with
  | zero =>
    rw [Function.iterate_zero_apply, Nat.add_zero, Nat.mod_eq_of_lt (by omega)]
    omega
  | succ k ih =>
    rw [Function.iterate_succ_apply', ih]
    unfold nextEpoch
    dsimp only
    split <;> omega

theorem epochOk_iterate {epoch : ℕ} (h : EpochOk epoch) (k : ℕ) :
    EpochOk (nextEpoch^[k] epoch) := by
  rw [iterate_nextEpoch h]
  have hlt : (epoch - 1 + k) % (2 ^ 64 - 1) < 2 ^ 64 - 1 := Nat.mod_lt _ (by decide)
  exact ⟨Nat.succ_pos _, by omega⟩

/-- No program is taken out of its slot. -/
def Keeps (c c' : VuProgramCache) : Prop :=
  ∀ i p, entryAt c.contents i = some p → entryAt c'.contents i = some p

/-- The epoch advances up to `bound` times, and if it does not every program keeps its slot. -/
def Advances (bound : ℕ) (c c' : VuProgramCache) : Prop :=
  ∃ k ≤ bound, c'.epoch = nextEpoch^[k] c.epoch ∧ (k = 0 → Keeps c c')

theorem Advances.of_contents (hepoch : c'.epoch = c.epoch) (hcontents : c'.contents = c.contents) :
    Advances 0 c c' :=
  ⟨0, Nat.le_refl 0, hepoch, fun _ _ _ hp => hcontents ▸ hp⟩

theorem Advances.trans (h : Advances bound c c') (h' : Advances bound' c' c'') :
    Advances (bound + bound') c c'' := by
  obtain ⟨k, hk, hepoch, hkeeps⟩ := h
  obtain ⟨k', hk', hepoch', hkeeps'⟩ := h'
  refine ⟨k + k', Nat.add_le_add hk hk', ?_, fun hzero i p hp => ?_⟩
  · rw [hepoch', hepoch, Nat.add_comm, Function.iterate_add_apply]
  · exact hkeeps' (by omega) i p (hkeeps (by omega) i p hp)

theorem Advances.mono (h : Advances bound c c') (hle : bound ≤ bound') : Advances bound' c c' := by
  obtain ⟨k, hk, hrest⟩ := h
  exact ⟨k, hk.trans hle, hrest⟩

/-- An epoch that is where it was has not advanced. -/
theorem Advances.keeps (h : Advances (2 ^ 32) c c') (hok : EpochOk c.epoch)
    (hsame : c'.epoch = c.epoch) : Keeps c c' := by
  obtain ⟨k, hk, hepoch, hkeeps⟩ := h
  refine hkeeps ?_
  rw [hsame, iterate_nextEpoch hok] at hepoch
  obtain ⟨hpos, hlt⟩ := hok
  omega

/-! ## The calls -/

/-- The slots have indices that are `uint32_t`. -/
def Sized (c : VuProgramCache) : Prop := c.contents.length ≤ uint32Max

theorem advances_discard (c : VuProgramCache) : Advances 1 c c.discardPrograms :=
  ⟨1, Nat.le_refl 1, rfl, nofun⟩

theorem advances_touch (c : VuProgramCache) (i : ℕ) : Advances 0 c (c.touchProgram i) :=
  .of_contents rfl (contents_touchProgram c i)

theorem activateScope_advances {key : VuProgramKey} (h : c.activateScope key = .ok c') :
    Advances 1 c c' ∧ (c.Sized → c'.Sized) := by
  have hsame : ∀ {c' : VuProgramCache}, c'.epoch = c.epoch → c'.contents = c.contents →
      Advances 1 c c' ∧ (c.Sized → c'.Sized) := by
    intro c' hepoch hcontents
    refine ⟨(Advances.of_contents hepoch hcontents).mono (Nat.zero_le 1), fun hsized => ?_⟩
    unfold Sized
    rw [hcontents]
    exact hsized
  unfold VuProgramCache.activateScope at h
  cases hkey : key.validKey with
  | error text =>
    rw [hkey] at h
    cases h
  | ok _ =>
    rw [hkey] at h
    simp only [bind, Except.bind, pure, Except.pure] at h
    split at h
    · cases h
    · split at h
      · cases h
        exact hsame rfl rfl
      · split at h
        · cases h
          exact ⟨advances_discard c, fun _ => Nat.zero_le _⟩
        · split at h
          · cases h
            split
            · exact ⟨⟨1, Nat.le_refl 1, rfl, nofun⟩, id⟩
            · exact ⟨advances_discard c, fun _ => Nat.zero_le _⟩
          · cases h
            exact hsame rfl rfl

theorem occupied_le (c : VuProgramCache) : c.occupied ≤ c.contents.length := by
  unfold occupied contents
  rw [List.length_map]
  exact List.countP_le_length

theorem makeRoom_advances (c : VuProgramCache) (residentBytes : ℕ) :
    Advances c.occupied c (c.makeRoom residentBytes).2 ∧
      (c.makeRoom residentBytes).2.contents.length = c.contents.length := by
  induction c using VuProgramCache.makeRoom.induct residentBytes with
  | case1 c hfull c' hevict ih =>
    have hlt := occupied_evict_lt hevict
    obtain ⟨i, victim, hvictim, rfl⟩ := evictLeastRecentlyUsed_some hevict
    have hone : Advances 1 c (c.evict i victim) := ⟨1, Nat.le_refl 1, rfl, by rintro ⟨⟩⟩
    have hlength : (c.evict i victim).contents.length = c.contents.length := by
      rw [contents_evict, List.length_set]
    unfold VuProgramCache.makeRoom
    rw [if_pos hfull]
    split
    next c' h' =>
      obtain rfl := Option.some.inj (hevict.symm.trans h')
      exact ⟨(hone.trans ih.1).mono (by omega), ih.2.trans hlength⟩
    next h' =>
      rw [hevict] at h'
      cases h'
  | case2 c hfull hevict =>
    unfold VuProgramCache.makeRoom
    rw [if_pos hfull]
    split
    next c' h' =>
      rw [hevict] at h'
      cases h'
    next => exact ⟨(Advances.of_contents rfl rfl).mono (Nat.zero_le _), rfl⟩
  | case3 c hfits =>
    unfold VuProgramCache.makeRoom
    rw [if_neg hfits]
    exact ⟨(Advances.of_contents rfl rfl).mono (Nat.zero_le _), rfl⟩

/-- A program is put in an empty slot. -/
theorem place_advances (h : WellFormed limits c) (program : VuCompiledProgram) :
    Advances 0 c (c.placed program) ∧ (c.Sized → (c.placed program).Sized) := by
  by_cases hguard : c.freeProgramIndices = [] ∧ uint32Max ≤ c.programs.length
  · have hsame : c.placed program = c := by
      unfold placed place
      rw [if_pos hguard]
    rw [hsame]
    exact ⟨.of_contents rfl rfl, id⟩
  · have hepoch : (c.placed program).epoch = c.epoch := by
      unfold placed place
      rw [if_neg hguard]
      rfl
    rcases c.place_cases program with hsame | ⟨-, hcontents, -⟩
    · rw [hsame]
      exact ⟨.of_contents rfl rfl, id⟩
    · have hslot := h.slotForPlace
      have hlt : c.indexForPlace < c.slotsForPlace.length := (List.getElem?_eq_some_iff.1 hslot).1
      refine ⟨⟨0, Nat.le_refl 0, hepoch, fun _ i p hp => ?_⟩, fun hsized => ?_⟩
      · rw [hcontents, entryAt_set hlt, entryAt_slotsForPlace]
        split
        · -- the slot was empty
          rename_i hi
          have hnone : entryAt c.contents i = none := by
            rw [← entryAt_slotsForPlace, ← hi, entryAt, hslot, Option.join_some]
          rw [hnone] at hp
          cases hp
        · exact hp
      · unfold Sized
        rw [hcontents, List.length_set, slotsForPlace]
        split
        · rename_i hfree
          have hlength : c.contents.length = c.programs.length := List.length_map ..
          rw [List.length_append, List.length_singleton]
          have : ¬uint32Max ≤ c.programs.length := fun hle => hguard ⟨hfree, hle⟩
          omega
        · exact hsized

/-- What a call does to the epoch and to the programs in the slots. -/
structure Progress (c c' : VuProgramCache) : Prop where
  advances : Advances (2 ^ 32) c c'
  sized : c'.Sized

theorem Progress.of_contents (hsized : c.Sized) (hepoch : c'.epoch = c.epoch)
    (hcontents : c'.contents = c.contents) : Progress c c' where
  advances := (Advances.of_contents hepoch hcontents).mono (Nat.zero_le _)
  sized := by
    unfold Sized
    rw [hcontents]
    exact hsized

theorem Progress.touch (h : Progress c c') (i : ℕ) : Progress c (c'.touchProgram i) where
  advances := by simpa using h.advances.trans (advances_touch c' i)
  sized := by
    unfold Sized
    rw [contents_touchProgram]
    exact h.sized

theorem progress_lookup (hsized : c.Sized) (key : VuProgramKey) :
    Progress c (c.lookup key).2 := by
  unfold VuProgramCache.lookup
  split
  · exact .of_contents hsized rfl rfl
  next c' hscope =>
    obtain ⟨hadvances, hsized'⟩ := activateScope_advances hscope
    have hc' : Progress c c' := ⟨hadvances.mono (by decide), hsized' hsized⟩
    split
    · exact hc'
    · split
      · exact hc'
      · exact hc'.touch _

theorem progress_insert (h : WellFormed limits c) (hsized : c.Sized)
    (program : VuCompiledProgram) : Progress c (c.insert program).2 := by
  unfold VuProgramCache.insert
  split
  · exact .of_contents hsized rfl rfl
  next c' hscope =>
    obtain ⟨hadvances, hkeep⟩ := activateScope_advances hscope
    have hsized' := hkeep hsized
    have hc' : Progress c c' := ⟨hadvances.mono (by decide), hsized'⟩
    have hwell := h.activateScope hscope
    split
    · exact hc'
    · split
      · exact hc'
      · split
        · exact hc'
        · split
          · exact hc'.touch _
          · split
            · exact hc'
            · obtain ⟨hroom, hlength⟩ := c'.makeRoom_advances program.nativeCode.capacity
              have hroomed := (hwell.makeRoom program.nativeCode.capacity).1
              have hbound : 1 + c'.occupied ≤ 2 ^ 32 := by
                have hmax : 1 + uint32Max = 2 ^ 32 := rfl
                rw [← hmax]
                exact Nat.add_le_add_left (c'.occupied_le.trans hsized') 1
              split
              next c'' heq =>
                rw [heq] at hroom hlength
                refine ⟨(hadvances.trans hroom).mono hbound, ?_⟩
                unfold Sized
                rw [hlength]
                exact hsized'
              next c'' heq =>
                rw [heq] at hroom hlength hroomed
                obtain ⟨hplace, hsized''⟩ := place_advances hroomed program
                refine ⟨((hadvances.trans hroom).trans hplace).mono hbound, hsized'' ?_⟩
                unfold Sized
                rw [hlength]
                exact hsized'

theorem progress_call (h : WellFormed limits c) (hsized : c.Sized) (call : VuProgramCacheCall) :
    Progress c (call.run c) := by
  have hsame : Progress c c := .of_contents hsized rfl rfl
  cases call with
  | lookup key => exact progress_lookup hsized key
  | insert program => exact progress_insert h hsized program
  | resolve handle => exact hsame
  | resolveCurrent handle key =>
    change Progress c (c.resolveCurrent handle key).2
    unfold VuProgramCache.resolveCurrent
    split
    · exact hsame
    · split
      · exact hsame
      · split
        · exact hsame
        · exact hsame.touch _
  | pinLinkSource source =>
    change Progress c (c.pinLinkSource source).2
    unfold VuProgramCache.pinLinkSource
    split
    · exact hsame
    · exact hsame.touch _
  | populateLink source handle key =>
    change Progress c (c.populateLink source handle key).2
    unfold VuProgramCache.populateLink
    split
    · exact hsame
    · split
      · exact hsame
      · split
        · exact hsame
        · split
          · exact hsame
          · split
            · exact hsame
            · split
              · exact hsame
              · refine Progress.touch (Progress.touch ?_ _) _
                exact .of_contents hsized rfl rfl
  | flush => exact ⟨(advances_discard c).mono (by decide), Nat.zero_le _⟩

theorem progress_step (h : WellFormed limits c) (hsized : c.Sized) (act : VuProgramCacheAct) :
    Progress c (c.step act) := by
  cases act with
  | call thread call =>
    unfold VuProgramCache.step
    dsimp only
    split
    · exact .of_contents hsized rfl rfl
    · have hbound : WellFormed limits { c with ownerThread := some thread } :=
        h.congr rfl rfl rfl rfl rfl rfl (h.linksOk.congr rfl rfl)
      obtain ⟨hadvances, hsized'⟩ := progress_call hbound hsized call
      exact ⟨hadvances, hsized'⟩
  | makeLinks b backend pc pcs => exact .of_contents hsized rfl rfl

/-! ## Runs -/

/-- What the handles of a cache rely on. -/
structure HandlesOk (limits : VuProgramCacheLimits) (c : VuProgramCache) : Prop where
  wellFormed : WellFormed limits c
  sized : c.Sized
  epoch : EpochOk c.epoch

theorem HandlesOk.step (h : HandlesOk limits c) (act : VuProgramCacheAct) :
    HandlesOk limits (c.step act) where
  wellFormed := h.wellFormed.step act
  sized := (progress_step h.wellFormed h.sized act).sized
  epoch := by
    obtain ⟨k, -, hepoch, -⟩ := (progress_step h.wellFormed h.sized act).advances
    rw [hepoch]
    exact epochOk_iterate h.epoch k

theorem handlesOk_run (h : HandlesOk limits c) (acts : List VuProgramCacheAct) :
    HandlesOk limits (run step c acts) := by
  have hrun : Along step (fun _ _ => True) c acts := along_of_forall fun _ _ _ => trivial
  exact invariant (fun _ act h _ => h.step act) h hrun

theorem handlesOk_initial (identity : ℕ) (unit : VuUnitId) (limits : VuProgramCacheLimits) :
    HandlesOk limits { identity := identity, unit := unit, limits := limits } :=
  ⟨wellFormed_initial identity unit limits, Nat.zero_le _, (by decide : EpochOk 1)⟩

/-- The epoch does not wrap in the step. -/
def EpochGrows (c : VuProgramCache) (act : VuProgramCacheAct) : Prop := c.epoch ≤ (c.step act).epoch

instance (c : VuProgramCache) (act : VuProgramCacheAct) : Decidable (EpochGrows c act) :=
  inferInstanceAs (Decidable (_ ≤ _))

/-- **A program stays in its slot** for as long as the epoch does not change. -/
theorem keeps_run (h : HandlesOk limits c) {acts : List VuProgramCacheAct}
    (hgrows : Along step EpochGrows c acts) :
    c.epoch ≤ (run step c acts).epoch ∧
      ((run step c acts).epoch = c.epoch → Keeps c (run step c acts)) := by
  induction acts generalizing c with
  | nil => exact ⟨Nat.le_refl _, fun _ _ _ hp => hp⟩
  | cons act acts ih =>
    obtain ⟨hone, hrest⟩ := hgrows
    obtain ⟨hle, hkeeps⟩ := ih (h.step act) hrest
    have hstep : c.epoch ≤ (c.step act).epoch := hone
    refine ⟨hstep.trans hle, fun hsame i p hp => ?_⟩
    rw [run_cons] at hsame ⊢
    have hepoch : (c.step act).epoch = c.epoch := by omega
    have hfirst := (progress_step h.wellFormed h.sized act).advances.keeps h.epoch hepoch
    exact hkeeps (hsame.trans hepoch.symm) i p (hfirst i p hp)

/-! ## Handles -/

/-- The call returns a valid handle for the key. -/
def Issues (c : VuProgramCache) (key : VuProgramKey) (handle : VuProgramHandle) :
    VuProgramCacheAct → Prop
  | .call thread (.lookup k) => ¬c.ownerThread.any (· ≠ thread) ∧ handle.valid = true ∧ k = key ∧
      ({ c with ownerThread := some thread }.lookup k).1 = .ok handle
  | .call thread (.insert program) => ¬c.ownerThread.any (· ≠ thread) ∧ handle.valid = true ∧
      program.key = key ∧ ({ c with ownerThread := some thread }.insert program).1 = .ok handle
  | _ => False

/-- The handle names the slot that the table has for the key. -/
structure Names (c : VuProgramCache) (key : VuProgramKey) (handle : VuProgramHandle) : Prop where
  epoch : handle.epoch = c.epoch
  find : c.find key = some handle.index

theorem names_lookup {key : VuProgramKey} {handle : VuProgramHandle}
    (hvalid : handle.valid = true) (h : (c.lookup key).1 = .ok handle) :
    Names (c.lookup key).2 key handle := by
  unfold VuProgramCache.lookup at h ⊢
  split at h
  · cases h
    cases hvalid
  next c' hscope =>
    split at h
    · cases h
      cases hvalid
    next i hfind =>
      split at h
      · cases h
      · rename_i hsome
        cases h
        rw [if_neg hsome]
        exact ⟨rfl, hfind⟩

/-- A program that was placed is found. -/
theorem names_place {program : VuCompiledProgram} {handle : VuProgramHandle}
    (hnew : c.find program.key = none)
    (hok : (c.place program).1 = .ok handle) :
    Names (c.place program).2 program.key handle := by
  unfold place at hok ⊢
  split at hok
  · cases hok
  · rename_i hguard
    rw [if_neg hguard]
    cases hok
    refine ⟨rfl, ?_⟩
    change (List.find? _ (if (c.find program.key).isSome then _ else _)).map _ = _
    rw [hnew, Option.isSome_none, if_neg Bool.false_ne_true, List.find?_cons_of_pos]
    · rfl
    · exact sameProgramIdentity_equivalence.refl program.key

theorem names_insert (h : WellFormed limits c) {program : VuCompiledProgram}
    {handle : VuProgramHandle} (hok : (c.insert program).1 = .ok handle) :
    Names (c.insert program).2 program.key handle := by
  unfold VuProgramCache.insert at hok ⊢
  split at hok
  · cases hok
  next c' hscope =>
    have hwell := h.activateScope hscope
    split at hok
    · cases hok
    next hverified =>
      split at hok
      · cases hok
      next hentry =>
        rw [if_neg hentry]
        split at hok
        · cases hok
        next hcode =>
          rw [if_neg hcode]
          split at hok
          next i hfind =>
            cases hok
            exact ⟨rfl, hfind⟩
          next hnew =>
            split at hok
            · cases hok
            next hlimits =>
              rw [if_neg hlimits]
              obtain ⟨-, hfind, -⟩ := hwell.makeRoom program.nativeCode.capacity
              split at hok
              · cases hok
              next c'' heq =>
                rw [heq] at hfind
                exact names_place (hfind _ hnew) hok

theorem names_of_issues (h : WellFormed limits c) {key : VuProgramKey} {handle : VuProgramHandle}
    {act : VuProgramCacheAct} (hissues : c.Issues key handle act) :
    handle.valid = true ∧ Names (c.step act) key handle := by
  have hbound : ∀ thread, WellFormed limits { c with ownerThread := some thread } := fun _ =>
    h.congr rfl rfl rfl rfl rfl rfl (h.linksOk.congr rfl rfl)
  cases act with
  | makeLinks _ _ _ _ => cases hissues
  | call thread call =>
    cases call with
    | lookup k =>
      obtain ⟨howner, hvalid, rfl, hok⟩ := hissues
      refine ⟨hvalid, ?_⟩
      unfold VuProgramCache.step
      dsimp only
      rw [if_neg howner]
      exact names_lookup hvalid hok
    | insert program =>
      obtain ⟨howner, hvalid, rfl, hok⟩ := hissues
      refine ⟨hvalid, ?_⟩
      unfold VuProgramCache.step
      dsimp only
      rw [if_neg howner]
      exact names_insert (hbound thread) hok
    | _ => cases hissues

/-- What `resolveCurrent` answers is what `resolve` does, for a key of the current scope and code
generation. -/
theorem resolveCurrent_some {handle : VuProgramHandle} {key : VuProgramKey}
    {program : VuCompiledProgram} (h : (c.resolveCurrent handle key).1 = some program) :
    c.resolve handle = some program ∧ program.key.sameProgramIdentity key = true ∧
      c.scopeActive = true ∧ c.scope = scopeOf key ∧ c.codeGeneration = key.codeGeneration := by
  unfold VuProgramCache.resolveCurrent at h
  split at h
  · cases h
  · rename_i hcurrent
    split at h
    · cases h
    · rename_i p hresolve
      split at h
      · cases h
      · rename_i hidentity
        cases h
        rw [not_or, not_or, not_not, not_not, not_not] at hcurrent
        exact ⟨hresolve, not_not.1 hidentity, hcurrent⟩

/-- **An old handle resolves to its own program or to nothing.** -/
theorem handles_sound (identity : ℕ) (unit : VuUnitId) (limits : VuProgramCacheLimits)
    (before after : List VuProgramCacheAct) (act : VuProgramCacheAct) (key : VuProgramKey)
    (handle : VuProgramHandle) :
    let c := run step { identity := identity, unit := unit, limits := limits } before
    let issued := c.step act
    c.Issues key handle act → Along step EpochGrows issued after →
      ∃ program, issued.resolve handle = some program ∧
        issued.find key = some handle.index ∧ program.key.sameProgramIdentity key = true ∧
        ∀ between rest, after = between ++ rest →
          ((run step issued between).resolve handle = none ∨
            (run step issued between).resolve handle = some program) ∧
          ((run step issued after).resolve handle = some program →
            (run step issued between).resolve handle = some program) ∧
          ∀ key' resolved,
            ((run step issued between).resolveCurrent handle key').1 = some resolved →
            resolved = program ∧ resolved.key.sameProgramIdentity key' = true ∧
              (run step issued between).scope = scopeOf key' ∧
              (run step issued between).codeGeneration = key'.codeGeneration := by
  intro c issued hissues hgrows
  have hok : HandlesOk limits c := handlesOk_run (handlesOk_initial identity unit limits) before
  have hissued : HandlesOk limits issued := hok.step act
  obtain ⟨hvalid, hepoch, hfind⟩ := names_of_issues hok.wellFormed hissues
  obtain ⟨program, hprogram, hidentity⟩ :=
    (hissued.wellFormed.indexed.find_iff sameProgramIdentity_equivalence).1 hfind
  -- a later cache resolves the handle exactly if its epoch is that of the handle
  have hlater : ∀ later : VuProgramCache, later.epoch = handle.epoch → Keeps issued later →
      later.resolve handle = some program := by
    intro later hsame hkeeps
    unfold resolve
    rw [if_neg (by rw [hvalid, hsame]; simp), programAt_eq_entryAt]
    exact hkeeps _ _ hprogram
  have hnone : ∀ later : VuProgramCache, later.epoch ≠ handle.epoch →
      later.resolve handle = none := by
    intro later hne
    unfold resolve
    rw [if_pos (.inr hne.symm)]
  refine ⟨program, hlater issued hepoch.symm fun _ _ hp => hp, hfind, hidentity, ?_⟩
  rintro between rest rfl
  rw [along_append] at hgrows
  obtain ⟨hle, hkeeps⟩ := keeps_run hissued hgrows.1
  have hbetween : HandlesOk limits (run step issued between) := handlesOk_run hissued between
  have hcases : (run step issued between).resolve handle = none ∨
      (run step issued between).resolve handle = some program := by
    by_cases hsame : (run step issued between).epoch = handle.epoch
    · exact .inr (hlater _ hsame (hkeeps (hsame.trans hepoch)))
    · exact .inl (hnone _ hsame)
  refine ⟨hcases, fun hend => ?_, fun key' resolved hresolved => ?_⟩
  · have hle' := (keeps_run hbetween hgrows.2).1
    rw [run_append] at hend
    have hlast : (run step (run step issued between) rest).epoch = handle.epoch := by
      by_contra hne
      rw [hnone _ hne] at hend
      cases hend
    have hsame : (run step issued between).epoch = handle.epoch :=
      Nat.le_antisymm (hle'.trans hlast.le) (hepoch.trans_le hle)
    exact hlater _ hsame (hkeeps (hsame.trans hepoch))
  · obtain ⟨hresolve, hidentity', -, hscope, hgeneration⟩ := resolveCurrent_some hresolved
    refine ⟨?_, hidentity', hscope, hgeneration⟩
    rcases hcases with hnothing | hsome
    · rw [hnothing] at hresolve
      cases hresolve
    · exact Option.some.inj (hresolve.symm.trans hsome)

/-- A program of eight bytes. -/
def shortProgram (entryPc : ℕ) : VuCompiledProgram where
  key :=
    { memoryIdentity := 1
      codeIdentity := 2
      codeSize := 16
      addressMask := 15
      entryPc := entryPc
      codeContentIdentity := 7 }
  block := { entryPc := entryPc }
  nativeCode := { mapping := 4096, capacity := 64, usedSize := 8, state := .Executable }

/-- A cache of one program. -/
def singleton : VuProgramCache :=
  { identity := 1, unit := .Vu1, limits := { maximumPrograms := 1, maximumExecutableBytes := 64 } }

/-- The second program takes the slot of the first one. -/
theorem handles_sound_evicted :
    (singleton.step (.call 0 (.insert (shortProgram 0)))).resolve ⟨1, 0⟩ = some (shortProgram 0) ∧
      ((run step (singleton.step (.call 0 (.insert (shortProgram 0))))
          [.call 0 (.insert (shortProgram 8))]).resolve ⟨1, 0⟩ = none ∨
        (run step (singleton.step (.call 0 (.insert (shortProgram 0))))
          [.call 0 (.insert (shortProgram 8))]).resolve ⟨1, 0⟩ = some (shortProgram 0)) := by
  have hfirst : (singleton.step (.call 0 (.insert (shortProgram 0)))).resolve ⟨1, 0⟩ =
      some (shortProgram 0) := by decide +kernel
  obtain ⟨program, hprogram, -, -, hlater⟩ := handles_sound 1 .Vu1
    { maximumPrograms := 1, maximumExecutableBytes := 64 } [] [.call 0 (.insert (shortProgram 8))]
    (.call 0 (.insert (shortProgram 0))) (shortProgram 0).key ⟨1, 0⟩
    ⟨by decide, by decide, rfl, by decide +kernel⟩ (by decide +kernel)
  obtain rfl : program = shortProgram 0 := Option.some.inj (hprogram.symm.trans hfirst)
  exact ⟨hfirst, (hlater [.call 0 (.insert (shortProgram 8))] [] rfl).1⟩

end VuProgramCache

end Ps2Recomp
