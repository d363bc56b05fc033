import Ps2Recomp.Memory.CodeRegions
import Mathlib.Data.List.Basic
import Mathlib.Tactic.Tauto

/-!
# Which words count as modified

`Modified history start end_ k` says of a word of a registered region that a write has overlapped it
since the region was registered, and no clear since then. Word `k` of a region is the up to four
bytes of the region from `start + 4 * k` on.

`markModified` goes over the words of the overlap. `isCodeModified` and `clearModifiedFlag` go over
its addresses in steps of four, and do not look at the last word when the overlap begins further
into its word than it ends into the last one. `Reaches` says when they do look at it, and that
`addr` does not wrap; then the flags are the words that are modified (`answers_exact`).
-/

namespace Ps2Recomp

open Machine

/-- A byte of word `k` of the region lies in the interval. -/
def WordMeets (start end_ k address size : ℕ) : Prop :=
  ∃ byte, start + 4 * k ≤ byte ∧ byte < start + 4 * k + 4 ∧ byte < end_ ∧
    address ≤ byte ∧ byte < address + size

/-- The steps of four from the beginning of the overlap end after the last word of it. -/
def Reaches (start end_ address size : ℕ) : Prop :=
  max address start < min (address + size) end_ →
    (max address start - start) % 4 ≤ (min (address + size) end_ - 1 - start) % 4 ∧
      max address start + (min (address + size) end_ - 1 - max address start) / 4 * 4 + 4 < 2 ^ 32

variable {start end_ address size writerPc k : ℕ}

theorem wordMeets_iff : WordMeets start end_ k address size ↔
    max address start < min (address + size) end_ ∧
      (max address start - start) / 4 ≤ k ∧ k ≤ (min (address + size) end_ - 1 - start) / 4 := by
  constructor
  · rintro ⟨byte, h⟩
    omega
  · rintro ⟨h, hk⟩
    exact ⟨max (max address start) (start + 4 * k), by omega⟩

theorem WordMeets.lt (h : WordMeets start end_ k address size) : k < (end_ - start + 3) / 4 := by
  obtain ⟨byte, h⟩ := h
  omega

namespace CodeRegion

variable {region : CodeRegion}

/-- What a registered region is. -/
structure Valid (region : CodeRegion) : Prop where
  lt : region.start < region.end_
  end_lt : region.end_ < 2 ^ 32
  size_le : region.end_ - region.start ≤ PS2_RAM_SIZE
  length : region.modified.length = (region.end_ - region.start + 3) / 4

theorem misses_iff (h : region.Valid) (hsize : size ≠ 0) : region.misses address (address + size) ↔
    ¬max address region.start < min (address + size) region.end_ := by
  have := h.lt
  unfold misses
  omega

theorem Valid.of_modified (h : region.Valid) {modified : List Bool}
    (hlength : modified.length = region.modified.length) :
    Valid { region with modified := modified } :=
  ⟨h.lt, h.end_lt, h.size_le, hlength.trans h.length⟩

/-! ## Marking -/

theorem markWord_modified (s : Marking) (i : ℕ) :
    (region.markWord writerPc s i).modified = s.modified.set i true := by
  unfold markWord
  split
  · rename_i h
    rcases h with h | h
    · exact (List.set_eq_of_length_le h).symm
    · obtain ⟨hi, hget⟩ := List.getElem?_eq_some_iff.1 h
      rw [← hget, List.set_getElem_self]
  · rfl

theorem foldl_markWord_modified (s : Marking) (words : List ℕ) :
    (words.foldl (region.markWord writerPc) s).modified =
      words.foldl (fun modified i => modified.set i true) s.modified := by
  induction words generalizing s with
  | nil => rfl
  | cons i words ih => rw [List.foldl_cons, ih, markWord_modified, List.foldl_cons]

/-- Setting the flags of some words. -/
theorem getElem?_foldl_set (b : Bool) (words : List ℕ) (modified : List Bool) (k : ℕ) :
    (words.foldl (fun modified i => modified.set i b) modified)[k]? =
      if k ∈ words ∧ k < modified.length then some b else modified[k]? := by
  induction words generalizing modified with
  | nil => simp
  | cons i words ih =>
    rw [List.foldl_cons, ih, List.length_set, List.getElem?_set]
    by_cases hlt : k < modified.length
    · by_cases hmem : k ∈ words
      · simp [hmem, hlt]
      · by_cases hi : i = k
        · subst hi
          simp [hlt]
        · simp [hmem, hi, Ne.symm hi]
    · by_cases hi : i = k
      · subst hi
        simp [hlt]
      · simp [hlt, hi]

theorem length_foldl_set (b : Bool) (words : List ℕ) (modified : List Bool) :
    (words.foldl (fun modified i => modified.set i b) modified).length = modified.length := by
  induction words generalizing modified with
  | nil => rfl
  | cons i words ih => rw [List.foldl_cons, ih, List.length_set]

/-- The words that the loop of `markModified` visits. -/
theorem mem_markWords (hoverlap : max address start < min (address + size) end_) :
    k ∈ List.range' ((max address start - start) / 4)
        ((min (address + size) end_ - start + 3) / 4 - (max address start - start) / 4) ↔
      WordMeets start end_ k address size := by
  rw [List.mem_range'_1, wordMeets_iff]
  omega

/-- **A write marks the words it meets**, and no others. -/
theorem markModified_spec (address writerPc : ℕ) (h : region.Valid) (hsize : size ≠ 0) :
    ∃ modified, (region.markModified address (address + size) writerPc).1 =
        { region with modified := modified } ∧
      modified.length = region.modified.length ∧
      ∀ k, modified[k]? = some true ↔
        region.modified[k]? = some true ∨ WordMeets region.start region.end_ k address size := by
  unfold CodeRegion.markModified
  split
  · rename_i hmisses
    refine ⟨region.modified, rfl, rfl, fun k => ?_⟩
    have hnot : ¬WordMeets region.start region.end_ k address size := by
      rw [wordMeets_iff]
      exact fun hmeets => (misses_iff h hsize).1 hmisses hmeets.1
    rw [or_iff_left hnot]
  · rename_i hmisses
    rw [misses_iff h hsize, not_not] at hmisses
    refine ⟨_, rfl, ?_, fun k => ?_⟩
    · rw [foldl_markWord_modified, length_foldl_set]
    · rw [foldl_markWord_modified, getElem?_foldl_set]
      by_cases hmeets : WordMeets region.start region.end_ k address size
      · have hlt : k < region.modified.length := h.length ▸ hmeets.lt
        rw [if_pos ⟨(mem_markWords hmisses).2 hmeets, hlt⟩]
        exact iff_of_true rfl (.inr hmeets)
      · rw [if_neg fun hmem => hmeets ((mem_markWords hmisses).1 hmem.1), or_iff_left hmeets]

/-! ## The loop over addresses -/

section Loop

variable {σ : Type} {visit : σ → ℕ → σ × Bool} {overlapEnd addr steps : ℕ} {s : σ}

/-- The addresses from `addr` on, in steps of four, that lie below the end. -/
def addresses (overlapEnd addr : ℕ) : List ℕ :=
  (List.range ((overlapEnd - addr + 3) / 4)).map fun i => addr + 4 * i

theorem addresses_of_lt (h : addr < overlapEnd) :
    addresses overlapEnd addr = addr :: addresses overlapEnd (addr + 4) := by
  unfold addresses
  have hcount : (overlapEnd - addr + 3) / 4 = (overlapEnd - (addr + 4) + 3) / 4 + 1 := by omega
  rw [hcount, List.range_succ_eq_map, List.map_cons, List.map_map]
  congr 1
  refine List.map_congr_left fun i _ => ?_
  simp only [Function.comp_apply]
  omega

theorem addresses_of_le (h : overlapEnd ≤ addr) : addresses overlapEnd addr = [] := by
  unfold addresses
  rw [show (overlapEnd - addr + 3) / 4 = 0 by omega]
  rfl

/-- Visit the addresses until one returns. -/
def visitAll (visit : σ → ℕ → σ × Bool) : σ → List ℕ → σ
  | s, [] => s
  | s, addr :: rest =>
    if (visit s addr).2 then (visit s addr).1 else visitAll visit (visit s addr).1 rest

/-- A loop that does not wrap visits the addresses in turn. -/
theorem addressLoop_eq
    (hwrap : addr < overlapEnd → addr + (overlapEnd - 1 - addr) / 4 * 4 + 4 < 2 ^ 32)
    (hsteps : (overlapEnd - addr + 3) / 4 < steps) :
    addressLoop overlapEnd visit steps s addr =
      some (visitAll visit s (addresses overlapEnd addr)) := by
  induction steps generalizing s addr with
  | zero => omega
  | succ steps ih =>
    unfold addressLoop
    by_cases hlt : addr < overlapEnd
    · have hnext := hwrap hlt
      rw [if_pos hlt, addresses_of_lt hlt, visitAll]
      split
      · rfl
      · rw [Nat.mod_eq_of_lt (by omega)]
        exact ih (by omega) (by omega)
    · rw [if_neg hlt, addresses_of_le (by omega)]
      rfl

end Loop

theorem bitIndex_eq {addr : ℕ} (hlo : region.start ≤ addr) (hhi : addr < 2 ^ 32) :
    region.bitIndex addr = (addr - region.start) / 4 := by
  unfold bitIndex
  omega

/-- Where the steps of four from `lo` on fall, in words. -/
theorem stepped_iff {lo hi : ℕ} (hstart : start ≤ lo) (hlt : lo < hi)
    (hlast : (lo - start) % 4 ≤ (hi - 1 - start) % 4) :
    (∃ i < (hi - lo + 3) / 4, (lo + 4 * i - start) / 4 = k) ↔
      (lo - start) / 4 ≤ k ∧ k ≤ (hi - 1 - start) / 4 := by
  obtain ⟨first, rfl⟩ := Nat.exists_eq_add_of_le hstart
  obtain ⟨length, rfl⟩ := Nat.exists_eq_add_of_lt hlt
  rw [Nat.add_sub_cancel_left] at hlast ⊢
  constructor
  · rintro ⟨i, hi, rfl⟩
    omega
  · rintro ⟨hlo, hhi⟩
    exact ⟨k - first / 4, by omega, by omega⟩

/-- The words that the loop looks at. -/
theorem mem_map_bitIndex (h : region.Valid)
    (hreaches : Reaches region.start region.end_ address size)
    (hoverlap : max address region.start < min (address + size) region.end_) :
    k ∈ (addresses (min (address + size) region.end_) (max address region.start)).map
        region.bitIndex ↔ WordMeets region.start region.end_ k address size := by
  have hhi : min (address + size) region.end_ < 2 ^ 32 :=
    (Nat.min_le_right _ _).trans_lt h.end_lt
  have hindex : ∀ i, i < (min (address + size) region.end_ - max address region.start + 3) / 4 →
      region.bitIndex (max address region.start + 4 * i) =
        (max address region.start + 4 * i - region.start) / 4 :=
    fun i hi => bitIndex_eq ((Nat.le_max_right _ _).trans (Nat.le_add_right _ _)) (by omega)
  rw [wordMeets_iff, and_iff_right hoverlap,
    ← stepped_iff (Nat.le_max_right _ _) hoverlap (hreaches hoverlap).1]
  unfold addresses
  rw [List.map_map, List.mem_map]
  refine exists_congr fun i => ?_
  rw [List.mem_range]
  exact and_congr_right fun hi => by rw [Function.comp_apply, hindex i hi]

theorem steps_lt (h : region.Valid) :
    (min (address + size) region.end_ - max address region.start + 3) / 4 < addressSteps := by
  have hsize := h.size_le
  unfold PS2_RAM_SIZE at hsize
  unfold addressSteps
  omega

/-! ## Queries -/

theorem visitAll_found (found : ℕ → Bool) (addrs : List ℕ) :
    visitAll (fun _ addr => (found addr, found addr)) false addrs = addrs.any found := by
  induction addrs with
  | nil => rfl
  | cons addr rest ih =>
    rw [visitAll, List.any_cons]
    cases hfound : found addr with
    | true => rfl
    | false => exact ih

/-- **A query whose loop reaches the last word** finds every flag it meets. -/
theorem isCodeModified_spec (h : region.Valid)
    (hreaches : Reaches region.start region.end_ address size) (hsize : size ≠ 0) :
    ∃ b, region.isCodeModified address (address + size) = some b ∧
      (b = true ↔ ∃ k, WordMeets region.start region.end_ k address size ∧
        region.modified[k]? = some true) := by
  unfold CodeRegion.isCodeModified
  split
  · rename_i hmisses
    refine ⟨false, rfl, ⟨nofun, ?_⟩⟩
    rintro ⟨k, hmeets, -⟩
    exact absurd (wordMeets_iff.1 hmeets).1 ((misses_iff h hsize).1 hmisses)
  · rename_i hmisses
    rw [misses_iff h hsize, not_not] at hmisses
    refine ⟨_, addressLoop_eq (fun hlt => (hreaches hlt).2) (steps_lt h), ?_⟩
    rw [visitAll_found, List.any_eq_true]
    constructor
    · rintro ⟨addr, hmem, hfound⟩
      exact ⟨region.bitIndex addr,
        (mem_map_bitIndex h hreaches hmisses).1 (List.mem_map_of_mem hmem),
        beq_iff_eq.1 hfound⟩
    · rintro ⟨k, hmeets, hk⟩
      obtain ⟨addr, hmem, rfl⟩ := List.mem_map.1 ((mem_map_bitIndex h hreaches hmisses).2 hmeets)
      exact ⟨addr, hmem, beq_iff_eq.2 hk⟩

/-! ## Clears -/

theorem visitAll_clear (index : ℕ → ℕ) (modified : List Bool) (addrs : List ℕ) :
    visitAll (fun modified addr =>
      (if index addr < modified.length then modified.set (index addr) false else modified, false))
        modified addrs =
      (addrs.map index).foldl (fun modified i => modified.set i false) modified := by
  induction addrs generalizing modified with
  | nil => rfl
  | cons addr rest ih =>
    rw [visitAll, if_neg Bool.false_ne_true, ih, List.map_cons, List.foldl_cons]
    congr 1
    split
    · rfl
    · rename_i hge
      exact (List.set_eq_of_length_le (not_lt.1 hge)).symm

/-- **A clear whose loop reaches the last word** clears every flag it meets. -/
theorem clearModifiedFlag_spec (h : region.Valid)
    (hreaches : Reaches region.start region.end_ address size) (hsize : size ≠ 0) :
    ∃ modified, region.clearModifiedFlag address (address + size) =
        some { region with modified := modified } ∧
      modified.length = region.modified.length ∧
      ∀ k, modified[k]? = some true ↔
        region.modified[k]? = some true ∧ ¬WordMeets region.start region.end_ k address size := by
  unfold CodeRegion.clearModifiedFlag
  split
  · rename_i hmisses
    refine ⟨region.modified, rfl, rfl, fun k => ?_⟩
    have hnot : ¬WordMeets region.start region.end_ k address size := by
      rw [wordMeets_iff]
      exact fun hmeets => (misses_iff h hsize).1 hmisses hmeets.1
    rw [and_iff_left hnot]
  · rename_i hmisses
    rw [misses_iff h hsize, not_not] at hmisses
    rw [addressLoop_eq (fun hlt => (hreaches hlt).2) (steps_lt h), visitAll_clear]
    refine ⟨_, rfl, length_foldl_set _ _ _, fun k => ?_⟩
    rw [getElem?_foldl_set]
    by_cases hmeets : WordMeets region.start region.end_ k address size
    · have hlt : k < region.modified.length := h.length ▸ hmeets.lt
      rw [if_pos ⟨(mem_map_bitIndex h hreaches hmisses).2 hmeets, hlt⟩]
      exact iff_of_false nofun fun hk => hk.2 hmeets
    · rw [if_neg fun hmem => hmeets ((mem_map_bitIndex h hreaches hmisses).1 hmem.1),
        and_iff_left hmeets]

end CodeRegion

/-! ## History -/

/-- The interval of RDRAM that is written. -/
def CodeAction.write : CodeAction → Option (ℕ × ℕ)
  | .observeRdramWrite physicalAddress size _ =>
    if physicalAddress.toNat + size.toNat ≤ PS2_RAM_SIZE then
      some (physicalAddress.toNat, size.toNat)
    else none
  | .observeRdramWriteFixed accessSize physicalAddress _ =>
    if physicalAddress.toNat + (accessSize + 1) ≤ PS2_RAM_SIZE then
      some (physicalAddress.toNat, accessSize + 1)
    else none
  | _ => none

/-- A region that `registerCodeRegion` accepts was registered. -/
def Registered (history : List CodeAction) (start end_ : ℕ) : Prop :=
  start < end_ ∧ end_ - start ≤ PS2_RAM_SIZE ∧
    ∃ s e, .registerCodeRegion s e ∈ history ∧ s.toNat = start ∧ e.toNat = end_

/-- Word `k` of the region was written since the region was registered, and not cleared since. -/
def Modified (history : List CodeAction) (start end_ k : ℕ) : Prop :=
  ∃ before action after address size, history = before ++ action :: after ∧
    action.write = some (address, size) ∧ Registered before start end_ ∧
    WordMeets start end_ k address size ∧
    ∀ a n, .clearModifiedFlag a n ∈ after → ¬WordMeets start end_ k a.toNat n.toNat

variable {history before : List CodeAction} {action : CodeAction}

theorem Registered.mono (h : Registered before start end_) (after : List CodeAction) :
    Registered (before ++ after) start end_ := by
  obtain ⟨hlt, hsize, s, e, hmem, heq⟩ := h
  exact ⟨hlt, hsize, s, e, List.mem_append_left _ hmem, heq⟩

theorem registered_snoc (haction : ∀ s e, action ≠ .registerCodeRegion s e) :
    Registered (history ++ [action]) start end_ ↔ Registered history start end_ := by
  refine ⟨?_, fun h => h.mono _⟩
  rintro ⟨hlt, hsize, s, e, hmem, heq⟩
  rcases List.mem_append.1 hmem with hmem | hmem
  · exact ⟨hlt, hsize, s, e, hmem, heq⟩
  · exact absurd (List.mem_singleton.1 hmem).symm (haction s e)

theorem Modified.registered (h : Modified history start end_ k) :
    Registered history start end_ := by
  obtain ⟨before, action, after, -, -, rfl, -, hreg, -⟩ := h
  exact hreg.mono _

/-- What the last action does to a word. -/
theorem modified_snoc : Modified (history ++ [action]) start end_ k ↔
    (∃ address size, action.write = some (address, size) ∧ Registered history start end_ ∧
      WordMeets start end_ k address size) ∨
    (Modified history start end_ k ∧ ∀ a n, action = .clearModifiedFlag a n →
      ¬WordMeets start end_ k a.toNat n.toNat) := by
  constructor
  · rintro ⟨before, written, after, address, size, heq, hwrite, hreg, hmeets, hkept⟩
    rcases List.eq_nil_or_concat' after with rfl | ⟨after, last, rfl⟩
    · obtain ⟨rfl, hlast⟩ := List.append_inj' heq rfl
      obtain rfl : action = written := List.head_eq_of_cons_eq hlast
      exact .inl ⟨address, size, hwrite, hreg, hmeets⟩
    · rw [← List.cons_append, ← List.append_assoc] at heq
      obtain ⟨rfl, hlast⟩ := List.append_inj' heq rfl
      obtain rfl : action = last := List.head_eq_of_cons_eq hlast
      refine .inr ⟨⟨before, written, after, address, size, rfl, hwrite, hreg, hmeets, ?_⟩, ?_⟩
      · exact fun a n hmem => hkept a n (List.mem_append_left _ hmem)
      · rintro a n rfl
        exact hkept a n (List.mem_append_right _ (List.mem_singleton_self _))
  · rintro (⟨address, size, hwrite, hreg, hmeets⟩ | ⟨hmodified, hlast⟩)
    · exact ⟨history, action, [], address, size, rfl, hwrite, hreg, hmeets, nofun⟩
    · obtain ⟨before, written, after, address, size, rfl, hwrite, hreg, hmeets, hkept⟩ := hmodified
      refine ⟨before, written, after ++ [action], address, size, ?_, hwrite, hreg, hmeets, ?_⟩
      · rw [← List.cons_append, List.append_assoc]
      · intro a n hmem
        rcases List.mem_append.1 hmem with hmem | hmem
        · exact hkept a n hmem
        · exact hlast a n (List.mem_singleton.1 hmem).symm

/-! ## The flags follow the history -/

theorem page_mono {a b : ℕ} (h : a ≤ b) :
    a >>> kCodeRegionPageShift ≤ b >>> kCodeRegionPageShift := by
  rw [Nat.shiftRight_eq_div_pow, Nat.shiftRight_eq_div_pow]
  exact Nat.div_le_div_right h

/-- The regions are those registered, and their flags are the modified words. -/
structure Reflects (history : List CodeAction) (m : CodeRegions) : Prop where
  registered : ∀ start end_, Registered history start end_ ↔
    ∃ region ∈ m.codeRegions, region.start = start ∧ region.end_ = end_
  valid : ∀ region ∈ m.codeRegions, region.Valid
  flags : ∀ region ∈ m.codeRegions, ∀ k, region.modified[k]? = some true ↔
    Modified history region.start region.end_ k
  hasCodeRegions : m.codeRegions ≠ [] → m.hasCodeRegions = true
  /-- The pages of a region are among those that are looked at. -/
  pages : ∀ region ∈ m.codeRegions, ∀ byte, region.start ≤ byte → byte < region.end_ →
    byte < PS2_RAM_SIZE → byte >>> kCodeRegionPageShift ∈ m.codeRegionPages

namespace Reflects

variable {m : CodeRegions}

theorem nil : Reflects [] {} where
  registered start end_ := by
    refine ⟨?_, fun ⟨_, hmem, _⟩ => absurd hmem List.not_mem_nil⟩
    rintro ⟨-, -, s, e, hmem, -⟩
    cases hmem
  valid _ hmem := absurd hmem List.not_mem_nil
  flags _ hmem := absurd hmem List.not_mem_nil
  hasCodeRegions h := absurd rfl h
  pages _ hmem := absurd hmem List.not_mem_nil

/-- Every region keeps its place and its length, and its flags become those of the history. -/
theorem of_map (h : Reflects history m) (hregistered : ∀ start end_,
      Registered (history ++ [action]) start end_ ↔ Registered history start end_)
    {f : CodeRegion → CodeRegion} (hf : ∀ region ∈ m.codeRegions, ∃ modified,
      f region = { region with modified := modified } ∧
        modified.length = region.modified.length ∧
        ∀ k, modified[k]? = some true ↔
          Modified (history ++ [action]) region.start region.end_ k)
    (pending : List CodeInvalidationEvent) :
    Reflects (history ++ [action])
      { m with
        codeRegions := m.codeRegions.map f
        pendingCodeInvalidations := pending } where
  registered start end_ := by
    rw [hregistered, h.registered]
    constructor
    · rintro ⟨region, hmem, hstart, hend⟩
      obtain ⟨modified, heq, -⟩ := hf region hmem
      exact ⟨f region, List.mem_map_of_mem hmem, by rw [heq]; exact ⟨hstart, hend⟩⟩
    · rintro ⟨_, hmem, heq⟩
      obtain ⟨region, hregion, rfl⟩ := List.mem_map.1 hmem
      obtain ⟨modified, hf', -⟩ := hf region hregion
      rw [hf'] at heq
      exact ⟨region, hregion, heq⟩
  valid _ hmem := by
    obtain ⟨region, hregion, rfl⟩ := List.mem_map.1 hmem
    obtain ⟨modified, hf', hlength, -⟩ := hf region hregion
    rw [hf']
    exact (h.valid region hregion).of_modified hlength
  flags _ hmem := by
    obtain ⟨region, hregion, rfl⟩ := List.mem_map.1 hmem
    obtain ⟨modified, hf', -, hflags⟩ := hf region hregion
    rw [hf']
    exact hflags
  hasCodeRegions hne := h.hasCodeRegions fun hnil => hne (by
    change m.codeRegions.map f = []
    rw [hnil, List.map_nil])
  pages _ hmem := by
    obtain ⟨region, hregion, rfl⟩ := List.mem_map.1 hmem
    obtain ⟨modified, hf', -⟩ := hf region hregion
    rw [hf']
    exact h.pages region hregion

/-- An action that changes no flag, and that the history sees no change in. -/
theorem unchanged (h : Reflects history m) (hregistered : ∀ start end_,
      Registered (history ++ [action]) start end_ ↔ Registered history start end_)
    (hsame : ∀ region ∈ m.codeRegions, ∀ k,
      Modified (history ++ [action]) region.start region.end_ k ↔
        Modified history region.start region.end_ k) : Reflects (history ++ [action]) m := by
  have hid := h.of_map hregistered (f := id)
    (fun region hmem => ⟨region.modified, rfl, rfl, fun k => by
      rw [hsame region hmem k]
      exact h.flags region hmem k⟩) m.pendingCodeInvalidations
  rw [List.map_id] at hid
  exact hid

/-- The last action writes nothing and clears nothing. -/
theorem modified_snoc_of_silent (hwrite : action.write = none)
    (hclear : ∀ a n, action ≠ .clearModifiedFlag a n) :
    Modified (history ++ [action]) start end_ k ↔ Modified history start end_ k := by
  rw [modified_snoc, hwrite]
  constructor
  · rintro (⟨_, _, hnone, -⟩ | ⟨hmodified, -⟩)
    · cases hnone
    · exact hmodified
  · exact fun hmodified => .inr ⟨hmodified, fun a n heq => absurd heq (hclear a n)⟩

/-- A region that is new begins without a flag. -/
theorem registerCodeRegion (h : Reflects history m) (start end_ : BitVec 32) :
    Reflects (history ++ [.registerCodeRegion start end_])
      (m.registerCodeRegion start.toNat end_.toNat) := by
  have hregistered : ∀ a b, Registered (history ++ [.registerCodeRegion start end_]) a b ↔
      Registered history a b ∨ a < b ∧ b - a ≤ PS2_RAM_SIZE ∧ start.toNat = a ∧ end_.toNat = b := by
    intro a b
    unfold Registered
    simp only [List.mem_append, List.mem_singleton, CodeAction.registerCodeRegion.injEq]
    constructor
    · rintro ⟨hlt, hsize, s, e, hmem | ⟨rfl, rfl⟩, heq⟩
      · exact .inl ⟨hlt, hsize, s, e, hmem, heq⟩
      · exact .inr ⟨hlt, hsize, heq⟩
    · rintro (⟨hlt, hsize, s, e, hmem, heq⟩ | ⟨hlt, hsize, heq⟩)
      · exact ⟨hlt, hsize, s, e, .inl hmem, heq⟩
      · exact ⟨hlt, hsize, start, end_, .inr ⟨rfl, rfl⟩, heq⟩
  have hmodified : ∀ a b k, Modified (history ++ [.registerCodeRegion start end_]) a b k ↔
      Modified history a b k := fun _ _ _ => modified_snoc_of_silent rfl nofun
  unfold CodeRegions.registerCodeRegion
  split
  · refine h.unchanged (fun a b => ?_) fun _ _ => hmodified _ _
    rw [hregistered, or_iff_left]
    omega
  split
  · refine h.unchanged (fun a b => ?_) fun _ _ => hmodified _ _
    rw [hregistered, or_iff_left]
    omega
  split
  · rename_i hexisting
    obtain ⟨region, hmem, heq⟩ := List.any_eq_true.1 hexisting
    rw [Bool.and_eq_true, beq_iff_eq, beq_iff_eq] at heq
    refine h.unchanged (fun a b => ?_) fun _ _ => hmodified _ _
    rw [hregistered, or_iff_left_of_imp]
    rintro ⟨-, -, rfl, rfl⟩
    exact (h.registered _ _).2 ⟨region, hmem, heq⟩
  · rename_i hlt hsize hnew
    -- no word of a region that was not registered is modified
    have hunregistered : ¬Registered history start.toNat end_.toNat := by
      rw [h.registered]
      rintro ⟨region, hmem, hstart, hend⟩
      refine hnew (List.any_eq_true.2 ⟨region, hmem, ?_⟩)
      rw [hstart, hend, beq_self_eq_true, beq_self_eq_true, Bool.and_self]
    have hmem_or : ∀ {region : CodeRegion} {added : CodeRegion},
        region ∈ m.codeRegions ++ [added] → region ∈ m.codeRegions ∨ region = added :=
      fun hmem => (List.mem_append.1 hmem).imp_right List.mem_singleton.1
    constructor
    case registered =>
      intro a b
      rw [hregistered, h.registered]
      constructor
      · rintro (⟨region, hmem, heq⟩ | ⟨-, -, rfl, rfl⟩)
        · exact ⟨region, List.mem_append_left _ hmem, heq⟩
        · exact ⟨_, List.mem_append_right _ (List.mem_singleton_self _), rfl, rfl⟩
      · rintro ⟨region, hmem, heq⟩
        rcases hmem_or hmem with hmem | rfl
        · exact .inl ⟨region, hmem, heq⟩
        · obtain ⟨rfl, rfl⟩ := heq
          exact .inr ⟨not_le.1 hlt, not_lt.1 hsize, rfl, rfl⟩
    case valid =>
      intro region hmem
      rcases hmem_or hmem with hmem | rfl
      · exact h.valid region hmem
      · exact ⟨not_le.1 hlt, end_.isLt, not_lt.1 hsize, List.length_replicate⟩
    case flags =>
      intro region hmem k
      rw [hmodified]
      rcases hmem_or hmem with hmem | rfl
      · exact h.flags region hmem k
      · refine iff_of_false ?_ fun hk => hunregistered hk.registered
        rw [List.getElem?_replicate]
        split <;> simp
    case hasCodeRegions => exact fun _ => rfl
    case pages =>
      intro region hmem byte hlo hhi hram
      rcases hmem_or hmem with hmem | rfl
      · have hpage := h.pages region hmem byte hlo hhi hram
        dsimp only
        split
        · exact Finset.mem_union_left _ hpage
        · exact hpage
      · dsimp only at hlo hhi ⊢
        rw [if_pos (by omega)]
        refine Finset.mem_union_right _ (Finset.mem_Icc.2 ⟨?_, ?_⟩)
        · exact page_mono hlo
        · exact page_mono (by omega)

/-- A write that is looked at marks the words it meets. -/
theorem markModified (h : Reflects history m) (hregistered : ∀ start end_,
      Registered (history ++ [action]) start end_ ↔ Registered history start end_)
    (hclear : ∀ a n, action ≠ .clearModifiedFlag a n)
    (hwrite : action.write = some (address, size)) (hsize : size ≠ 0) (writerPc : ℕ) :
    Reflects (history ++ [action]) (m.markModified address size writerPc) := by
  unfold CodeRegions.markModified
  rw [if_neg hsize]
  refine h.of_map hregistered (fun region hmem => ?_) _
  obtain ⟨modified, heq, hlength, hflags⟩ :=
    CodeRegion.markModified_spec address writerPc (h.valid region hmem) hsize
  refine ⟨modified, heq, hlength, fun k => ?_⟩
  rw [hflags, h.flags region hmem, modified_snoc, hwrite, or_comm]
  have hreg : Registered history region.start region.end_ :=
    (h.registered _ _).2 ⟨region, hmem, rfl, rfl⟩
  refine or_congr ⟨fun hmeets => ⟨address, size, rfl, hreg, hmeets⟩, ?_⟩
    ⟨fun hk => ⟨hk, fun a n heq => absurd heq (hclear a n)⟩, And.left⟩
  rintro ⟨_, _, hsome, -, hmeets⟩
  cases hsome
  exact hmeets

/-- A write that is not looked at meets no region. -/
theorem observeRdramWrite (h : Reflects history m) (hregistered : ∀ start end_,
      Registered (history ++ [action]) start end_ ↔ Registered history start end_)
    (hclear : ∀ a n, action ≠ .clearModifiedFlag a n)
    (hwrite : action.write =
      if address + size ≤ PS2_RAM_SIZE then some (address, size) else none) (writerPc : ℕ) :
    Reflects (history ++ [action]) (m.observeRdramWrite address size writerPc) := by
  -- a write that meets no region leaves the history's flags as they are
  have hmissed : (∀ region ∈ m.codeRegions, address + size ≤ PS2_RAM_SIZE →
      ∀ k, ¬WordMeets region.start region.end_ k address size) →
        Reflects (history ++ [action]) m := by
    intro hnone
    refine h.unchanged hregistered fun region hmem k => ?_
    rw [modified_snoc, hwrite]
    constructor
    · rintro (⟨_, _, hsome, -, hmeets⟩ | ⟨hk, -⟩)
      · split at hsome
        · rename_i hle
          cases hsome
          exact absurd hmeets (hnone region hmem hle k)
        · cases hsome
      · exact hk
    · exact fun hk => .inr ⟨hk, fun a n heq => absurd heq (hclear a n)⟩
  unfold CodeRegions.observeRdramWrite
  split
  · rename_i hnone
    refine hmissed fun region hmem => ?_
    rw [h.hasCodeRegions (List.ne_nil_of_mem hmem)] at hnone
    cases hnone
  · unfold CodeRegions.observeRdramWriteSlow
    split
    · rename_i hout
      refine hmissed fun region hmem hle k => ?_
      rintro ⟨byte, hbyte⟩
      omega
    · rename_i hin
      split
      · refine h.markModified hregistered hclear ?_ (by omega) writerPc
        rw [hwrite, if_pos (by omega)]
      · rename_i hpages
        refine hmissed fun region hmem hle k => ?_
        rintro ⟨byte, hbyte⟩
        refine hpages ⟨byte >>> kCodeRegionPageShift,
          Finset.mem_inter.2 ⟨Finset.mem_Icc.2 ⟨?_, ?_⟩, ?_⟩⟩
        · exact page_mono (by omega)
        · exact page_mono (by omega)
        · exact h.pages region hmem byte (by omega) (by omega) (by omega)

theorem clearModifiedFlag (h : Reflects history m) (address size : BitVec 32)
    (hreaches : ∀ region ∈ m.codeRegions,
      Reaches region.start region.end_ address.toNat size.toNat) :
    ∃ m', m.clearModifiedFlag address.toNat size.toNat = some m' ∧
      Reflects (history ++ [.clearModifiedFlag address size]) m' := by
  have hregistered : ∀ start end_,
      Registered (history ++ [.clearModifiedFlag address size]) start end_ ↔
        Registered history start end_ := fun _ _ => registered_snoc nofun
  have hmodified : ∀ start end_ k,
      Modified (history ++ [.clearModifiedFlag address size]) start end_ k ↔
        Modified history start end_ k ∧ ¬WordMeets start end_ k address.toNat size.toNat := by
    intro start end_ k
    rw [modified_snoc]
    constructor
    · rintro (⟨_, _, hnone, -⟩ | ⟨hk, hlast⟩)
      · cases hnone
      · exact ⟨hk, hlast _ _ rfl⟩
    · rintro ⟨hk, hnot⟩
      refine .inr ⟨hk, fun a n heq => ?_⟩
      cases heq
      exact hnot
  unfold CodeRegions.clearModifiedFlag
  split
  · rename_i hzero
    refine ⟨m, rfl, h.unchanged hregistered fun region _ k => ?_⟩
    rw [hmodified, and_iff_left]
    rintro ⟨byte, hbyte⟩
    omega
  · rename_i hsize
    have hclear := fun region hmem => CodeRegion.clearModifiedFlag_spec (h.valid region hmem)
      (hreaches region hmem) hsize
    let f : CodeRegion → CodeRegion := fun region =>
      (region.clearModifiedFlag address.toNat (address.toNat + size.toNat)).getD region
    have hsome : ∀ region ∈ m.codeRegions,
        region.clearModifiedFlag address.toNat (address.toNat + size.toNat) = some (f region) := by
      intro region hmem
      obtain ⟨modified, heq, -⟩ := hclear region hmem
      change _ = some (Option.getD _ _)
      rw [heq, Option.getD_some]
    have hmap : m.codeRegions.mapM (fun region =>
        region.clearModifiedFlag address.toNat (address.toNat + size.toNat)) =
          some (m.codeRegions.map f) := by
      revert hsome
      generalize m.codeRegions = regions
      intro hsome
      induction regions with
      | nil => rfl
      | cons region regions ih =>
        rw [List.mapM_cons, hsome region List.mem_cons_self,
          ih fun r hr => hsome r (List.mem_cons_of_mem _ hr)]
        rfl
    rw [hmap]
    refine ⟨_, rfl, h.of_map hregistered (fun region hmem => ?_) m.pendingCodeInvalidations⟩
    obtain ⟨modified, heq, hlength, hflags⟩ := hclear region hmem
    refine ⟨modified, Option.some.inj ((hsome region hmem).symm.trans heq), hlength, fun k => ?_⟩
    rw [hflags, h.flags region hmem, hmodified]

/-- **A query answers** whether a modified word of a registered region meets the interval. -/
theorem isCodeModified (h : Reflects history m)
    (hreaches : ∀ region ∈ m.codeRegions, Reaches region.start region.end_ address size) :
    ∃ b, m.isCodeModified address size = some b ∧
      (b = true ↔ ∃ start end_ k, Registered history start end_ ∧
        WordMeets start end_ k address size ∧ Modified history start end_ k) := by
  unfold CodeRegions.isCodeModified
  split
  · rename_i hzero
    refine ⟨false, rfl, ⟨nofun, ?_⟩⟩
    rintro ⟨_, _, _, -, ⟨byte, hbyte⟩, -⟩
    omega
  · rename_i hsize
    have hquery := fun region hmem => CodeRegion.isCodeModified_spec (h.valid region hmem)
      (hreaches region hmem) hsize
    have hany : ∀ regions : List CodeRegion, (∀ region ∈ regions, region ∈ m.codeRegions) →
        ∃ b, CodeRegions.anyModified address (address + size) regions = some b ∧
          (b = true ↔ ∃ region ∈ regions, ∃ k,
            WordMeets region.start region.end_ k address size ∧
              region.modified[k]? = some true) := by
      intro regions
      induction regions with
      | nil => exact fun _ => ⟨false, rfl, nofun, fun ⟨_, hmem, _⟩ => absurd hmem List.not_mem_nil⟩
      | cons region rest ih =>
        intro hall
        obtain ⟨b, hb, hbiff⟩ := hquery region (hall region List.mem_cons_self)
        obtain ⟨b', hb', hbiff'⟩ := ih fun r hr => hall r (List.mem_cons_of_mem _ hr)
        refine ⟨b || b', ?_, ?_⟩
        · unfold CodeRegions.anyModified
          rw [hb]
          cases b with
          | true => rfl
          | false => exact hb'
        · rw [Bool.or_eq_true, hbiff, hbiff', List.exists_mem_cons_iff]
    obtain ⟨b, hb, hbiff⟩ := hany m.codeRegions fun _ hmem => hmem
    refine ⟨b, hb, hbiff.trans ⟨?_, ?_⟩⟩
    · rintro ⟨region, hmem, k, hmeets, hk⟩
      exact ⟨region.start, region.end_, k, (h.registered _ _).2 ⟨region, hmem, rfl, rfl⟩, hmeets,
        (h.flags region hmem k).1 hk⟩
    · rintro ⟨start, end_, k, hreg, hmeets, hk⟩
      obtain ⟨region, hmem, rfl, rfl⟩ := (h.registered _ _).1 hreg
      exact ⟨region, hmem, k, hmeets, (h.flags region hmem k).2 hk⟩

end Reflects

/-- The short cut of the fixed-width stores observes the same writes. -/
theorem CodeRegions.observeRdramWriteFixed_eq (m : CodeRegions) {accessSize : ℕ}
    (hpos : 0 < accessSize) (hle : accessSize ≤ 16) (physicalAddress writerPc : ℕ) :
    m.observeRdramWriteFixed accessSize physicalAddress writerPc =
      m.observeRdramWrite physicalAddress accessSize writerPc := by
  unfold CodeRegions.observeRdramWriteFixed CodeRegions.observeRdramWrite
  cases m.hasCodeRegions with
  | false => rfl
  | true =>
    have htrue : ¬((!true) = true) := by decide
    have hram : 16 ≤ PS2_RAM_SIZE := by decide
    rw [if_neg htrue]
    unfold CodeRegions.observeRdramWriteSlow
    by_cases hout : PS2_RAM_SIZE - accessSize < physicalAddress
    · rw [if_pos (.inr hout), if_pos (by omega)]
    · rw [if_neg fun h => h.elim htrue hout]
      dsimp only
      split
      · rename_i hpages
        -- at most two pages are touched
        have hlast : (physicalAddress + accessSize - 1) >>> kCodeRegionPageShift ≤
            physicalAddress >>> kCodeRegionPageShift + 1 := by
          rw [Nat.shiftRight_eq_div_pow, Nat.shiftRight_eq_div_pow]
          unfold kCodeRegionPageShift
          omega
        rw [if_neg (by omega), if_neg]
        rintro ⟨page, hpage⟩
        obtain ⟨hin, hcode⟩ := Finset.mem_inter.1 hpage
        obtain ⟨hlo, hhi⟩ := Finset.mem_Icc.1 hin
        obtain ⟨hfirst, hsecond⟩ := hpages
        have hpage' : page = physicalAddress >>> kCodeRegionPageShift ∨
            page = (physicalAddress + accessSize - 1) >>> kCodeRegionPageShift := by omega
        rcases hpage' with rfl | rfl
        · exact hfirst hcode
        · rcases hsecond with hsame | hsecond
          · rw [hsame] at hcode
            exact hfirst hcode
          · exact hsecond hcode
      · rfl

/-! ## Runs -/

namespace CodeWorld

/-- The steps of a query and of a clear reach the last word of every registered region. -/
def Reached (w : CodeWorld) : CodeAction → Prop
  | .isCodeModified address size | .clearModifiedFlag address size =>
    ∀ m ∈ w, ∀ region ∈ m.codeRegions,
      Reaches region.start region.end_ address.toNat size.toNat
  | _ => True

instance (w : CodeWorld) (action : CodeAction) : Decidable (Reached w action) := by
  unfold Reached Reaches
  cases action <;> infer_instance

/-- Every action returns and is tracked. -/
theorem act_spec {m : CodeRegions} (h : Reflects history m) (hreached : Reached (some m) action) :
    ∃ m', act m action = some m' ∧ Reflects (history ++ [action]) m' := by
  cases action with
  | registerCodeRegion start end_ => exact ⟨_, rfl, h.registerCodeRegion start end_⟩
  | observeRdramWrite physicalAddress size writerPc =>
    exact ⟨_, rfl, h.observeRdramWrite (fun _ _ => registered_snoc (by rintro _ _ ⟨⟩))
      (by rintro _ _ ⟨⟩) rfl _⟩
  | observeRdramWriteFixed accessSize physicalAddress writerPc =>
    refine ⟨_, rfl, ?_⟩
    rw [m.observeRdramWriteFixed_eq (Nat.succ_pos _) accessSize.isLt]
    exact h.observeRdramWrite (fun _ _ => registered_snoc (by rintro _ _ ⟨⟩))
      (by rintro _ _ ⟨⟩) rfl _
  | isCodeModified address size =>
    obtain ⟨b, hb, -⟩ := h.isCodeModified (hreached m rfl)
    refine ⟨m, congrArg (Option.map fun _ => m) hb, ?_⟩
    exact h.unchanged (fun _ _ => registered_snoc nofun)
      fun _ _ _ => Reflects.modified_snoc_of_silent rfl nofun
  | clearModifiedFlag address size => exact h.clearModifiedFlag address size (hreached m rfl)

theorem reflects_run {actions : List CodeAction}
    (hreached : Along step Reached (some {}) actions) :
    ∃ m, run step (some {}) actions = some m ∧ Reflects actions m := by
  induction actions using List.reverseRecOn with
  | nil => exact ⟨{}, rfl, Reflects.nil⟩
  | append_singleton actions action ih =>
    rw [along_append] at hreached
    obtain ⟨m, hm, hreflects⟩ := ih hreached.1
    obtain ⟨hlast, -⟩ := hreached.2
    rw [hm] at hlast
    obtain ⟨m', hm', hreflects'⟩ := act_spec hreflects hlast
    refine ⟨m', ?_, hreflects'⟩
    rw [run_append, hm]
    exact hm'

/-- The answer to a query after `history`, which returns, is that of the history. -/
def Exact (history : List CodeAction) (address size : BitVec 32) : Prop :=
  ∃ m b, run step (some {}) history = some m ∧
    m.isCodeModified address.toNat size.toNat = some b ∧
    (b = true ↔ ∃ start end_ k, Registered history start end_ ∧
      WordMeets start end_ k address.toNat size.toNat ∧ Modified history start end_ k)

/-- **Tracking is exact** in a run whose queries and clears reach the last words. -/
theorem answers_exact {actions : List CodeAction}
    (hreached : Along step Reached (some {}) actions) {before after : List CodeAction}
    {address size : BitVec 32}
    (hactions : actions = before ++ .isCodeModified address size :: after) :
    Exact before address size := by
  subst hactions
  rw [along_append] at hreached
  obtain ⟨m, hm, hreflects⟩ := reflects_run hreached.1
  have hquery := hreached.2.1
  rw [hm] at hquery
  obtain ⟨b, hb, hbiff⟩ := hreflects.isCodeModified (hquery m rfl)
  exact ⟨m, b, hm, hb, hbiff⟩

/-- A write to the second word of a region, and a query from inside the first word to the end of the
second. -/
theorem answers_exact_written :
    Exact [.registerCodeRegion 0x1000 0x1100, .observeRdramWrite 0x1004 4 0] 0x1001 7 := by
  have hreached : Along step Reached (some {}) [.registerCodeRegion 0x1000 0x1100,
      .observeRdramWrite 0x1004 4 0, .isCodeModified 0x1001 7, .clearModifiedFlag 0x1004 4] := by
    decide +kernel
  exact answers_exact hreached rfl

/-- **A word that is missed**: the second word is written, and the range begins at the third byte of
the first word and ends with the first byte of the second. -/
theorem missed_last_word :
    ¬ ∀ (history : List CodeAction) (address size : BitVec 32), Exact history address size := by
  intro h
  obtain ⟨m, b, hm, hb, hbiff⟩ :=
    h [.registerCodeRegion 0x1000 0x1100, .observeRdramWrite 0x1004 4 0] 0x1002 3
  have hfalse : (run step (some {}) [.registerCodeRegion 0x1000 0x1100,
      .observeRdramWrite 0x1004 4 0]).bind (fun m => m.isCodeModified 0x1002 3) = some false := by
    decide +kernel
  rw [hm, Option.bind_some] at hfalse
  obtain rfl : b = false := Option.some.inj (hb.symm.trans hfalse)
  refine absurd (hbiff.2 ⟨0x1000, 0x1100, 1, ?_, ⟨0x1004, by decide⟩, ?_⟩) Bool.false_ne_true
  · exact ⟨by decide, by decide, 0x1000, 0x1100, List.mem_cons_self, rfl, rfl⟩
  · refine ⟨[.registerCodeRegion 0x1000 0x1100], .observeRdramWrite 0x1004 4 0, [], 0x1004, 4, rfl,
      ?_, ?_, ⟨0x1004, by decide⟩, nofun⟩
    · decide
    · exact ⟨by decide, by decide, 0x1000, 0x1100, List.mem_cons_self, rfl, rfl⟩

end CodeWorld

end Ps2Recomp
