import Mathlib.Data.Fin.VecNotation
import Mathlib.Data.Nat.Bitwise
import Mathlib.Algebra.BigOperators.Fin

/-!
# Sets of VRAM pages

`GsVramPageMask` (`ps2_gs_backend.cpp`) is a set of the 512 pages of 8 KiB that make up the 4 MiB of
GS memory, kept as eight words of 64 bits. Every operation is described by what `test` says after
it; nothing outside this file looks at the words.
-/

namespace Ps2Recomp

/-- `GS_VRAM_PAGE_COUNT`. -/
def GS_VRAM_PAGE_COUNT : Nat := 512

structure GsVramPageMask where
  words : Fin 8 → BitVec 64 := fun _ => 0
  deriving DecidableEq

namespace GsVramPageMask

/-! ## Operations -/

def set (mask : GsVramPageMask) (page : Nat) : GsVramPageMask :=
  if page < GS_VRAM_PAGE_COUNT then
    let i := Fin.ofNat 8 (page / 64)
    { words := Function.update mask.words i (mask.words i ||| 1#64 <<< (page % 64)) }
  else mask

def setAll : GsVramPageMask := { words := fun _ => BitVec.allOnes 64 }

/-- The bits that `setRange` sets in one word. -/
def runBits (bit run : Nat) : BitVec 64 :=
  if run = 64 then BitVec.allOnes 64 else (1#64 <<< run - 1#64) <<< bit

/-- The loop of `setRange`. -/
def setRun (mask : GsVramPageMask) (firstPage pageCount : Nat) : GsVramPageMask :=
  if pageCount = 0 then mask
  else
    let bit := firstPage % 64
    let run := min pageCount (64 - bit)
    let i := Fin.ofNat 8 (firstPage / 64)
    setRun { words := Function.update mask.words i (mask.words i ||| runBits bit run) }
      ((firstPage + run) % GS_VRAM_PAGE_COUNT) (pageCount - run)
termination_by pageCount
decreasing_by omega

def setRange (mask : GsVramPageMask) (firstPage pageCount : Nat) : GsVramPageMask :=
  if pageCount = 0 then mask
  else if pageCount ≥ GS_VRAM_PAGE_COUNT then setAll
  else mask.setRun (firstPage % GS_VRAM_PAGE_COUNT) pageCount

def unionWith (mask other : GsVramPageMask) : GsVramPageMask :=
  { words := fun i => mask.words i ||| other.words i }

def test (mask : GsVramPageMask) (page : Nat) : Bool :=
  decide (page < GS_VRAM_PAGE_COUNT) &&
    (mask.words (Fin.ofNat 8 (page / 64)) &&& 1#64 <<< (page % 64)) ≠ 0#64

def any (mask : GsVramPageMask) : Bool := decide (∃ i, mask.words i ≠ 0#64)

def count (mask : GsVramPageMask) : Nat := ∑ i, (mask.words i).cpop.toNat

def intersects (mask other : GsVramPageMask) : Bool :=
  decide (∃ i, mask.words i &&& other.words i ≠ 0#64)

/-! ## What `test` says -/

variable {mask other : GsVramPageMask} {page q : Nat}

theorem and_bit_ne_zero (word : BitVec 64) {bit : Nat} (hbit : bit < 64) :
    word &&& 1#64 <<< bit ≠ 0#64 ↔ word.getLsbD bit = true := by
  rw [← BitVec.twoPow_eq, BitVec.and_twoPow]
  have hne : BitVec.twoPow 64 bit ≠ 0#64 := by
    intro h
    have := congrArg (fun w => w.getLsbD bit) h
    simp [hbit] at this
  cases word.getLsbD bit <;> simp [hne]

/-- A page is in the mask if its bit is set. -/
theorem test_eq_true :
    mask.test page = true ↔
      page < GS_VRAM_PAGE_COUNT ∧
        (mask.words (Fin.ofNat 8 (page / 64))).getLsbD (page % 64) = true := by
  rw [test, Bool.and_eq_true, decide_eq_true_iff, decide_eq_true_iff,
    and_bit_ne_zero _ (Nat.mod_lt _ (by decide))]

theorem lt_of_test (h : mask.test page = true) : page < GS_VRAM_PAGE_COUNT := (test_eq_true.1 h).1

/-- Every bit of every word is some page's. -/
theorem test_of_word (i : Fin 8) {bit : Nat} (hbit : bit < 64) :
    mask.test (64 * i + bit) = true ↔ (mask.words i).getLsbD bit = true := by
  have hi := i.isLt
  have hword : Fin.ofNat 8 ((64 * i + bit) / 64) = i := by
    apply Fin.ext
    rw [Fin.val_ofNat]
    omega
  rw [test_eq_true, hword, show (64 * (i : Nat) + bit) % 64 = bit by omega]
  exact and_iff_right (by unfold GS_VRAM_PAGE_COUNT; omega)

@[simp] theorem test_empty : ({} : GsVramPageMask).test page = false := by
  rw [Bool.eq_false_iff, Ne, test_eq_true]
  simp

@[simp] theorem test_setAll : setAll.test page = true ↔ page < GS_VRAM_PAGE_COUNT := by
  rw [test_eq_true, setAll, BitVec.getLsbD_allOnes]
  simp [Nat.mod_lt]

@[simp] theorem test_unionWith :
    (mask.unionWith other).test page = true ↔ mask.test page = true ∨ other.test page = true := by
  simp only [test_eq_true, unionWith, BitVec.getLsbD_or, Bool.or_eq_true]
  exact and_or_left

/-- Setting bits of the word of page `p`, by what `test` says. -/
theorem test_update {p : Nat} (hp : p < GS_VRAM_PAGE_COUNT) (bits : BitVec 64) :
    ({ words := Function.update mask.words (Fin.ofNat 8 (p / 64))
        (mask.words (Fin.ofNat 8 (p / 64)) ||| bits) } : GsVramPageMask).test q = true ↔
      mask.test q = true ∨
        q < GS_VRAM_PAGE_COUNT ∧ q / 64 = p / 64 ∧ bits.getLsbD (q % 64) = true := by
  simp only [test_eq_true]
  unfold GS_VRAM_PAGE_COUNT at hp ⊢
  by_cases hq : q < 512
  · have hword : Fin.ofNat 8 (q / 64) = Fin.ofNat 8 (p / 64) ↔ q / 64 = p / 64 := by
      rw [Fin.ext_iff, Fin.val_ofNat, Fin.val_ofNat]
      omega
    by_cases hsame : q / 64 = p / 64
    · simp [hq, hsame]
    · rw [Function.update_of_ne (mt hword.1 hsame)]
      simp [hsame]
  · simp [hq]

@[simp] theorem test_set :
    (mask.set page).test q = true ↔
      mask.test q = true ∨ q = page ∧ page < GS_VRAM_PAGE_COUNT := by
  unfold set
  split
  next h =>
    rw [test_update h, ← BitVec.twoPow_eq, BitVec.getLsbD_twoPow]
    unfold GS_VRAM_PAGE_COUNT at h ⊢
    simp only [Bool.and_eq_true, decide_eq_true_eq]
    refine or_congr_right ⟨fun hq => ?_, fun hq => ?_⟩ <;> omega
  next h => simp [h]

/-- The bits of one step of `setRange` are those from `bit` on. -/
theorem getLsbD_runBits {bit run j : Nat} (hrun : bit + run ≤ 64) (hj : j < 64) :
    (runBits bit run).getLsbD j = decide (bit ≤ j ∧ j < bit + run) := by
  unfold runBits
  split
  next h =>
    subst h
    obtain rfl : bit = 0 := by omega
    rw [BitVec.getLsbD_allOnes]
    simp [hj]
  next h =>
    have hones : 1#64 <<< run - 1#64 = BitVec.ofNat 64 (2 ^ run - 1) := by
      have hpow : 2 ^ run < 2 ^ 64 := Nat.pow_lt_pow_right (by decide) (by omega)
      apply BitVec.eq_of_toNat_eq
      rw [← BitVec.twoPow_eq, BitVec.toNat_sub_of_le, BitVec.toNat_twoPow, BitVec.toNat_ofNat,
        BitVec.toNat_ofNat, Nat.mod_eq_of_lt hpow]
      · omega
      · rw [BitVec.le_def, BitVec.toNat_twoPow, Nat.mod_eq_of_lt hpow]
        simpa using Nat.one_le_two_pow
    rw [hones, BitVec.getLsbD_shiftLeft, BitVec.getLsbD_ofNat, Nat.testBit_two_pow_sub_one]
    simp only [hj, decide_true, Bool.true_and, ← decide_not, ← Bool.decide_and]
    exact decide_eq_decide.2 (by omega)

/-- The loop of `setRange` adds the pages of the range, modulo the memory. -/
theorem test_setRun (mask : GsVramPageMask) (firstPage pageCount : Nat)
    (hfirst : firstPage < GS_VRAM_PAGE_COUNT) :
    (mask.setRun firstPage pageCount).test q = true ↔
      mask.test q = true ∨ ∃ k < pageCount, q = (firstPage + k) % GS_VRAM_PAGE_COUNT := by
  induction mask, firstPage, pageCount using setRun.induct with
  | case1 mask firstPage =>
    rw [setRun, if_pos rfl]
    simp
  | case2 mask firstPage pageCount hcount bit run i ih =>
    rw [setRun, if_neg hcount, ih (Nat.mod_lt _ (by decide)), test_update hfirst]
    have hbits : bit + run ≤ 64 := by omega
    rw [getLsbD_runBits hbits (Nat.mod_lt _ (by decide)), or_assoc, decide_eq_true_iff]
    refine or_congr_right ⟨?_, ?_⟩
    · unfold GS_VRAM_PAGE_COUNT at hfirst ⊢
      rintro (⟨hq, hword, hlow, hhigh⟩ | ⟨k, hk, rfl⟩)
      · exact ⟨q - firstPage, by omega, by omega⟩
      · exact ⟨run + k, by omega, by omega⟩
    · unfold GS_VRAM_PAGE_COUNT at hfirst ⊢
      rintro ⟨k, hk, rfl⟩
      rcases Nat.lt_or_ge k run with hlt | hge
      · left
        omega
      · exact .inr ⟨k - run, by omega, by omega⟩

/-- **`setRange` adds the pages of the range, modulo the memory.** -/
theorem test_setRange (firstPage pageCount : Nat) :
    (mask.setRange firstPage pageCount).test q = true ↔
      mask.test q = true ∨ ∃ k < pageCount, q = (firstPage + k) % GS_VRAM_PAGE_COUNT := by
  unfold setRange
  split
  next h =>
    subst h
    simp
  next h =>
    split
    next hall =>
      rw [test_setAll]
      refine ⟨fun hq => .inr ?_, ?_⟩
      · unfold GS_VRAM_PAGE_COUNT at hall hq ⊢
        exact ⟨(q + 512 - firstPage % 512) % 512, by omega, by omega⟩
      · rintro (hq | ⟨k, hk, rfl⟩)
        · exact lt_of_test hq
        · exact Nat.mod_lt _ (by decide)
    next hfew =>
      rw [test_setRun _ _ _ (Nat.mod_lt _ (by decide))]
      simp only [Nat.mod_add_mod]

/-- A loop that adds pages at every step adds the pages of its steps. -/
theorem test_foldl {α : Type*} {step : GsVramPageMask → α → GsVramPageMask} (adds : α → Prop)
    (hstep : ∀ mask a, (step mask a).test q = true ↔ mask.test q = true ∨ adds a) (l : List α)
    (mask : GsVramPageMask) :
    (l.foldl step mask).test q = true ↔ mask.test q = true ∨ ∃ a ∈ l, adds a := by
  induction l generalizing mask with
  | nil => simp
  | cons a l ih =>
    rw [List.foldl_cons, ih, hstep, or_assoc]
    simp only [List.mem_cons, exists_eq_or_imp]

/-! ## Empty masks -/

theorem word_eq_zero_iff (i : Fin 8) :
    mask.words i = 0#64 ↔ ∀ bit < 64, mask.test (64 * i + bit) = false := by
  constructor
  · intro h bit hbit
    rw [Bool.eq_false_iff, Ne, test_of_word i hbit, h]
    simp
  · intro h
    refine BitVec.eq_of_getLsbD_eq fun bit hbit => ?_
    rw [BitVec.getLsbD_zero, Bool.eq_false_iff, Ne, ← test_of_word i hbit]
    exact Bool.eq_false_iff.1 (h bit hbit)

theorem any_eq_true : mask.any = true ↔ ∃ page, mask.test page = true := by
  rw [any, decide_eq_true_iff]
  constructor
  · rintro ⟨i, hi⟩
    rw [Ne, word_eq_zero_iff] at hi
    push Not at hi
    obtain ⟨bit, -, hbit⟩ := hi
    exact ⟨_, by simpa using hbit⟩
  · rintro ⟨page, hpage⟩
    obtain ⟨-, hbit⟩ := test_eq_true.1 hpage
    refine ⟨Fin.ofNat 8 (page / 64), fun h => ?_⟩
    rw [h] at hbit
    simp at hbit

theorem cpop_eq_zero {word : BitVec 64} : word.cpop.toNat = 0 ↔ word = 0#64 := by
  constructor
  · intro h
    by_contra hne
    obtain ⟨bit, hbit, hset⟩ : ∃ bit < 64, word.getLsbD bit = true := by
      by_contra hnone
      push Not at hnone
      exact hne (BitVec.eq_of_getLsbD_eq fun bit hbit => by simpa using hnone bit hbit)
    have hpos : ∀ n, bit < n → 0 < word.cpopNatRec n 0 := by
      intro n hn
      induction n with
      | zero => omega
      | succ n ih =>
        rw [BitVec.cpopNatRec_succ, BitVec.cpopNatRec_add]
        rcases Nat.lt_or_ge bit n with hlt | hge
        · have := ih hlt
          omega
        · obtain rfl : bit = n := by omega
          simp [hset]
    rw [BitVec.toNat_cpop] at h
    exact absurd h (hpos 64 hbit).ne'
  · rintro rfl
    simp

theorem count_eq_zero : mask.count = 0 ↔ mask.any = false := by
  rw [count, Finset.sum_eq_zero_iff, Bool.eq_false_iff, Ne, any, decide_eq_true_iff]
  push Not
  simp only [Finset.mem_univ, true_imp_iff, cpop_eq_zero]

end GsVramPageMask

end Ps2Recomp
