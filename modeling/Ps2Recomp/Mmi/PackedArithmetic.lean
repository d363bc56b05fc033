import Ps2Recomp.Mmi.Intrinsics
import Mathlib.Algebra.Order.Ring.Nat
import Mathlib.Algebra.Order.Ring.Int

/-!
# Packed arithmetic of the EE (`ps2_runtime_macros.h`)

The functions that stand in for packed instructions x86 does not have, and what they compute lane
by lane: saturating sums and differences by sign masks (`lane_ps2_paddsw` and the others), absolute
values, `PLZCW`, the variable word shifts and the funnel shift `QFSRV`, which moves bytes where the
amount is whole bytes and doublewords where it is not (`ps2_qfsrv_eq`).
-/

namespace Ps2Recomp

open Lanes M128i

/-! ## The functions -/

/-- The saturated value in the lanes of `overflow`, the other operand elsewhere. -/
def saturateSelect (sse41 : Bool) (result a overflowSign : M128i) : M128i :=
  let overflow := sraiEpi32 overflowSign
  let input_sign := sraiEpi32 a
  if sse41 then
    let sat := blendvEpi8 (set1Epi32 INT32_MAX) (set1Epi32 INT32_MIN) input_sign
    blendvEpi8 result sat overflow
  else
    let sat := (input_sign &&& set1Epi32 INT32_MIN) ||| andnotSi128 input_sign (set1Epi32 INT32_MAX)
    (overflow &&& sat) ||| andnotSi128 overflow result

def ps2_paddsw (sse41 : Bool) (a b : M128i) : M128i :=
  let sum := addEpi32 a b
  saturateSelect sse41 sum a ((a ^^^ sum) &&& (b ^^^ sum))

def ps2_psubsw (sse41 : Bool) (a b : M128i) : M128i :=
  let diff := subEpi32 a b
  saturateSelect sse41 diff a ((a ^^^ b) &&& (a ^^^ diff))

def ps2_pabsw (value : M128i) : M128i :=
  let absolute := absEpi32 value
  let minimum := cmpeqEpi32 absolute (set1Epi32 INT32_MIN)
  addEpi32 absolute minimum

def ps2_pabsh (value : M128i) : M128i :=
  let absolute := absEpi16 value
  let minimum := cmpeqEpi16 absolute (set1Epi16 INT16_MIN)
  addEpi16 absolute minimum

def ps2_paddu32 (a b : M128i) : M128i :=
  let sum := addEpi32 a b
  let overflow := cmpgtEpi32 (a ^^^ set1Epi32 INT32_MIN) (sum ^^^ set1Epi32 INT32_MIN)
  sum ||| overflow

def ps2_psubu32 (a b : M128i) : M128i :=
  let diff := subEpi32 a b
  let underflow := cmpgtEpi32 (b ^^^ set1Epi32 INT32_MIN) (a ^^^ set1Epi32 INT32_MIN)
  andnotSi128 underflow diff

/-- `std::countl_zero`. -/
def countl_zero (x : BitVec 32) : ℕ := if x = 0 then 32 else 31 - Nat.log2 x.toNat

def ps2_plzcw32 (x : BitVec 32) : BitVec 32 :=
  if x = 0 ∨ x = 0xFFFFFFFF then 31
  else
    let x := if x &&& 0x80000000 ≠ 0 then ~~~x else x
    BitVec.ofNat 32 (countl_zero x) - 1

inductive Ps2VariableWordShiftOperation where
  | LogicalLeft
  | LogicalRight
  | ArithmeticRight
  deriving DecidableEq, Repr

def Ps2ArithmeticShiftRight32 (value : BitVec 32) (amount : ℕ) (hamount : amount < 32) :
    BitVec 32 :=
  if hzero : amount = 0 then value
  else
    let sign := 0 - shr value 31 (by decide)
    shr value amount hamount ||| shl sign (32 - amount) (by omega)

/-- What `Ps2VariableWordShift` writes to the two words from an even one on. -/
def variableWordShiftLane (value count : BitVec 32) (operation : Ps2VariableWordShiftOperation) :
    BitVec 32 × BitVec 32 :=
  let amount := (count &&& 0x1f).toNat
  have hamount : amount < 32 := Nat.lt_of_le_of_lt Nat.and_le_right (by decide)
  let result :=
    match operation with
    | .LogicalLeft => shl value amount hamount
    | .LogicalRight => shr value amount hamount
    | .ArithmeticRight => Ps2ArithmeticShiftRight32 value amount hamount
  (result, 0 - shr result 31 (by decide))

def Ps2VariableWordShift (values counts : M128i) (operation : Ps2VariableWordShiftOperation) :
    M128i :=
  ofLanes 32 4 fun i =>
    let sourceWord := i / 2 * 2
    let words :=
      variableWordShiftLane (lane 32 values sourceWord) (lane 32 counts sourceWord) operation
    if i = sourceWord then words.1 else words.2

/-- `std::memcpy` of a doubleword out of bytes. -/
def copy64 (bytes : ℕ → BitVec 8) (offset : ℕ) : BitVec 64 :=
  ofLanes 8 8 fun i => bytes (offset + i)

def ps2_qfsrv (rs rt : M128i) (sa : ℕ) : M128i :=
  if hzero : sa = 0 then rt
  else if hhigh : sa ≥ 128 then
    if sa ≥ 256 then 0
    else
      let shift := sa - 128
      if shift = 0 then rs
      else
        let byteShift := shift / 8
        let bitShift := shift % 8
        let buf := fun i => if i + byteShift < 16 then lane 8 rs (i + byteShift) else 0
        let result : M128i := ofLanes 8 16 buf
        if bitShift > 0 then
          srliEpi64 result bitShift ||| slliEpi64 (bsrliSi128 result 8) (64 - bitShift)
        else result
  else
    let byteShift := sa / 8
    let bitShift := sa % 8
    let combined := fun i => if i < 16 then lane 8 rt i else lane 8 rs (i - 16)
    let shifted := fun i => if i + byteShift < 32 then combined (i + byteShift) else 0
    let result : M128i := ofLanes 8 16 shifted
    if hbits : bitShift > 0 then
      let lo0 := copy64 combined 0
      let lo1 := copy64 combined 8
      let hi0 := copy64 combined 16
      let hi1 := copy64 combined 24
      if hlow : sa < 64 then
        let r0 := shr lo0 sa hlow ||| shl lo1 (64 - sa) (by omega)
        let r1 := shr lo1 sa hlow ||| shl hi0 (64 - sa) (by omega)
        r1 ++ r0
      else
        let s := sa - 64
        if hs : s = 0 then hi0 ++ lo1
        else
          let r0 := shr lo1 s (by omega) ||| shl hi0 (64 - s) (by omega)
          let r1 := shr hi0 s (by omega) ||| shl hi1 (64 - s) (by omega)
          r1 ++ r0
    else result

/-! ## What they compute -/

/-- The nearest signed number of `w` bits. -/
def saturate (w : ℕ) (x : ℤ) : BitVec w :=
  BitVec.ofInt w (max (-2 ^ (w - 1)) (min (2 ^ (w - 1) - 1) x))

/-- The nearest unsigned number of `w` bits. -/
def saturateUnsigned (w : ℕ) (x : ℤ) : BitVec w := BitVec.ofInt w (max 0 (min (2 ^ w - 1) x))

/-- The first `n` bits from the top are the sign, and the next one is not. -/
structure LeadingRun (x : BitVec 32) (n : ℕ) : Prop where
  le : n ≤ 32
  same : ∀ i < n, x.getMsbD i = x.msb
  next : n < 32 → x.getMsbD n ≠ x.msb

/-! ## Saturation -/

section Saturation

variable (sse41 : Bool) (result a b overflowSign : M128i) {i : ℕ}

theorem lane_set1Epi32 (x : BitVec 32) (hi : i < 4) : lane 32 (set1Epi32 x) i = x :=
  lane_ofLanes _ hi

theorem lane_sraiEpi32 (hi : i < 4) :
    lane 32 (sraiEpi32 a) i = if (lane 32 a i).msb then BitVec.allOnes 32 else 0#32 := by
  rw [sraiEpi32, lane_ofLanes _ hi, signMask_eq]

/-- Both variants of the selection choose word by word. -/
theorem lane_saturateSelect (hi : i < 4) :
    lane 32 (saturateSelect sse41 result a overflowSign) i =
      if (lane 32 overflowSign i).msb then
        if (lane 32 a i).msb then INT32_MIN else INT32_MAX
      else lane 32 result i := by
  unfold saturateSelect
  dsimp only
  split
  · rw [blendvEpi8_signMask _ _ _ hi, blendvEpi8_signMask _ _ _ hi, lane_set1Epi32 _ hi,
      lane_set1Epi32 _ hi]
  · rw [lane_or, lane_and, lane_or, lane_and, andnotSi128, andnotSi128, lane_and, lane_and,
      lane_not (n := 4) _ hi, lane_not (n := 4) _ hi, lane_set1Epi32 _ hi, lane_set1Epi32 _ hi,
      lane_sraiEpi32 _ hi, lane_sraiEpi32 _ hi, select_allOnes, select_allOnes]

/-- A saturated number, as the choice of the sign mask. -/
theorem saturate_eq (z : ℤ) (v : BitVec 32) (hv : v.toInt = z.bmod (2 ^ 32))
    {outside negative : Bool} (hover : outside = true ↔ z < -2 ^ 31 ∨ 2 ^ 31 ≤ z)
    (hsign : outside = true → (negative = true ↔ z < 0)) :
    (if outside then if negative then INT32_MIN else INT32_MAX else v) = saturate 32 z := by
  have hmin : INT32_MIN.toInt = -2 ^ 31 := by decide
  have hmax : INT32_MAX.toInt = 2 ^ 31 - 1 := by decide
  have hrange : (saturate 32 z).toInt = max (-2 ^ 31) (min (2 ^ 31 - 1) z) := by
    rw [saturate, BitVec.toInt_ofInt, Int.bmod_eq_of_le] <;> omega
  apply BitVec.eq_of_toInt_eq
  rw [hrange]
  split
  · next ho =>
    have hz := hover.mp ho
    have hs := hsign ho
    split
    · next hn =>
      have := hs.mp hn
      rw [hmin]
      omega
    · next hn =>
      have : ¬z < 0 := fun hlt => hn (hs.mpr hlt)
      rw [hmax]
      omega
  · next ho =>
    have hz : ¬(z < -2 ^ 31 ∨ 2 ^ 31 ≤ z) := fun h => ho (hover.mpr h)
    rw [hv, Int.bmod_eq_of_le] <;> omega

/-- The sum overflowed where its sign differs from the signs of both operands. -/
theorem add_saturate (x y : BitVec 32) :
    (if ((x ^^^ (x + y)) &&& (y ^^^ (x + y))).msb then if x.msb then INT32_MIN else INT32_MAX
      else x + y) = saturate 32 (x.toInt + y.toInt) := by
  have hx := x.toInt_lt
  have hx' := x.le_toInt
  have hy := y.toInt_lt
  have hy' := y.le_toInt
  have hsum : (x + y).toInt = (x.toInt + y.toInt).bmod (2 ^ 32) := BitVec.toInt_add x y
  refine saturate_eq _ _ hsum ?_ ?_
  · rw [BitVec.msb_and, BitVec.msb_xor, BitVec.msb_xor, BitVec.msb_eq_toInt, BitVec.msb_eq_toInt,
      BitVec.msb_eq_toInt, hsum, Int.bmod_def]
    simp only [Bool.and_eq_true, bne_iff_ne, ne_eq, decide_eq_decide]
    split <;> omega
  · rw [BitVec.msb_and, BitVec.msb_xor, BitVec.msb_xor, BitVec.msb_eq_toInt, BitVec.msb_eq_toInt,
      BitVec.msb_eq_toInt, hsum, Int.bmod_def]
    simp only [Bool.and_eq_true, bne_iff_ne, ne_eq, decide_eq_decide, decide_eq_true_eq]
    split <;> omega

theorem sub_saturate (x y : BitVec 32) :
    (if ((x ^^^ y) &&& (x ^^^ (x - y))).msb then if x.msb then INT32_MIN else INT32_MAX
      else x - y) = saturate 32 (x.toInt - y.toInt) := by
  have hx := x.toInt_lt
  have hx' := x.le_toInt
  have hy := y.toInt_lt
  have hy' := y.le_toInt
  have hdiff : (x - y).toInt = (x.toInt - y.toInt).bmod (2 ^ 32) := BitVec.toInt_sub
  refine saturate_eq _ _ hdiff ?_ ?_
  · rw [BitVec.msb_and, BitVec.msb_xor, BitVec.msb_xor, BitVec.msb_eq_toInt, BitVec.msb_eq_toInt,
      BitVec.msb_eq_toInt, hdiff, Int.bmod_def]
    simp only [Bool.and_eq_true, bne_iff_ne, ne_eq, decide_eq_decide]
    split <;> omega
  · rw [BitVec.msb_and, BitVec.msb_xor, BitVec.msb_xor, BitVec.msb_eq_toInt, BitVec.msb_eq_toInt,
      BitVec.msb_eq_toInt, hdiff, Int.bmod_def]
    simp only [Bool.and_eq_true, bne_iff_ne, ne_eq, decide_eq_decide, decide_eq_true_eq]
    split <;> omega

theorem lane_ps2_paddsw (hi : i < 4) :
    lane 32 (ps2_paddsw sse41 a b) i =
      saturate 32 ((lane 32 a i).toInt + (lane 32 b i).toInt) := by
  have hsum : lane 32 (addEpi32 a b) i = lane 32 a i + lane 32 b i := lane_ofLanes _ hi
  unfold ps2_paddsw
  dsimp only
  rw [lane_saturateSelect _ _ _ _ hi, lane_and, lane_xor, lane_xor, hsum, add_saturate]

theorem lane_ps2_psubsw (hi : i < 4) :
    lane 32 (ps2_psubsw sse41 a b) i =
      saturate 32 ((lane 32 a i).toInt - (lane 32 b i).toInt) := by
  have hdiff : lane 32 (subEpi32 a b) i = lane 32 a i - lane 32 b i := lane_ofLanes _ hi
  unfold ps2_psubsw
  dsimp only
  rw [lane_saturateSelect _ _ _ _ hi, lane_and, lane_xor, lane_xor, hdiff, sub_saturate]

end Saturation

/-! ## Absolute values -/

section Absolute

variable (value : M128i) {i : ℕ}

/-- A number that is in range stays as it is. -/
theorem saturate_toInt {w : ℕ} (x : BitVec w) : saturate w x.toInt = x := by
  have hlt := x.toInt_lt
  have hle := x.le_toInt
  have hmin : min (2 ^ (w - 1) - 1) x.toInt = x.toInt := by omega
  rw [saturate, hmin, show max (-2 ^ (w - 1)) x.toInt = x.toInt by omega, BitVec.ofInt_toInt]

/-- The smallest number is its own absolute value on x86, and adding all ones takes one off it. -/
theorem abs_saturate {w : ℕ} (hw : 0 < w)
    (hmin : BitVec.intMin w + BitVec.allOnes w = saturate w (BitVec.intMin w).toInt.natAbs)
    (x : BitVec w) :
    x.abs + (if x.abs = BitVec.intMin w then BitVec.allOnes w else 0) =
      saturate w x.toInt.natAbs := by
  by_cases hx : x = BitVec.intMin w
  · rw [hx, BitVec.abs_intMin, if_pos rfl, hmin]
  · have habs : x.abs.toInt = x.toInt.natAbs := BitVec.toInt_abs_eq_natAbs_of_ne_intMin hx
    have hne : x.abs ≠ BitVec.intMin w := by
      intro heq
      rw [heq, BitVec.toInt_intMin_of_pos hw] at habs
      have hpow : (0 : ℤ) < 2 ^ (w - 1) := Int.pow_pos (by decide)
      omega
    rw [if_neg hne, ← habs, saturate_toInt]
    exact BitVec.add_zero _

theorem lane_ps2_pabsw (hi : i < 4) :
    lane 32 (ps2_pabsw value) i = saturate 32 (lane 32 value i).toInt.natAbs := by
  have habs : lane 32 (absEpi32 value) i = (lane 32 value i).abs := lane_ofLanes _ hi
  unfold ps2_pabsw addEpi32 cmpeqEpi32
  dsimp only
  rw [lane_ofLanes _ hi, lane_ofLanes _ hi, habs, lane_set1Epi32 _ hi]
  exact abs_saturate (by decide) (by decide) _

theorem lane_ps2_pabsh (hi : i < 8) :
    lane 16 (ps2_pabsh value) i = saturate 16 (lane 16 value i).toInt.natAbs := by
  have habs : lane 16 (absEpi16 value) i = (lane 16 value i).abs := lane_ofLanes _ hi
  have hmin : lane 16 (set1Epi16 INT16_MIN) i = INT16_MIN := lane_ofLanes _ hi
  unfold ps2_pabsh addEpi16 cmpeqEpi16
  dsimp only
  rw [lane_ofLanes _ hi, lane_ofLanes _ hi, habs, hmin]
  exact abs_saturate (by decide) (by decide) _

end Absolute

/-! ## Unsigned saturation -/

section Unsigned

variable (a b : M128i) {i : ℕ}

/-- Flipping the top bit takes its value off. -/
theorem toInt_flip (x : BitVec 32) : (x ^^^ INT32_MIN).toInt = x.toNat - 2 ^ 31 := by
  have hx := x.isLt
  have hnat : (x ^^^ INT32_MIN).toNat = 2 ^ 31 * (1 - x.toNat / 2 ^ 31) + x.toNat % 2 ^ 31 := by
    apply Nat.eq_of_testBit_eq
    intro i
    rw [Nat.testBit_two_pow_mul_add _ (Nat.mod_lt _ (by decide)), BitVec.toNat_xor,
      Nat.testBit_xor, show INT32_MIN.toNat = 2 ^ 31 from rfl, Nat.testBit_two_pow]
    split
    · next hlow =>
      rw [Nat.testBit_mod_two_pow, decide_eq_true hlow, decide_eq_false (by omega)]
      simp
    · next hhigh =>
      obtain ⟨k, rfl⟩ : ∃ k, i = k + 31 := ⟨i - 31, by omega⟩
      have hbit : x.toNat.testBit (k + 31) = (x.toNat / 2 ^ 31).testBit k := by
        rw [← Nat.shiftRight_eq_div_pow, Nat.testBit_shiftRight, Nat.add_comm]
      rw [hbit, Nat.add_sub_cancel]
      have hq : x.toNat / 2 ^ 31 = 0 ∨ x.toNat / 2 ^ 31 = 1 := by omega
      generalize x.toNat / 2 ^ 31 = q at hq ⊢
      rcases hq with rfl | rfl <;> cases k <;> simp [Nat.testBit_succ]
  rw [BitVec.toInt_eq_toNat_cond, hnat]
  split <;> omega

/-- With the top bits flipped, signed order is unsigned order. -/
theorem slt_flip (x y : BitVec 32) : (x ^^^ INT32_MIN).slt (y ^^^ INT32_MIN) = x.ult y := by
  rw [BitVec.slt_eq_decide, BitVec.ult_eq_decide, toInt_flip, toInt_flip]
  exact decide_eq_decide.mpr (by omega)

theorem toNat_saturateUnsigned (z : ℤ) :
    (saturateUnsigned 32 z).toNat = (max 0 (min (2 ^ 32 - 1) z)).toNat := by
  rw [saturateUnsigned, BitVec.toNat_ofInt, Int.emod_eq_of_lt] <;> omega

theorem lane_ps2_paddu32 (hi : i < 4) :
    lane 32 (ps2_paddu32 a b) i =
      saturateUnsigned 32 ((lane 32 a i).toNat + (lane 32 b i).toNat) := by
  have hsum : lane 32 (addEpi32 a b) i = lane 32 a i + lane 32 b i := lane_ofLanes _ hi
  unfold ps2_paddu32 cmpgtEpi32
  dsimp only
  rw [lane_or, lane_ofLanes _ hi, lane_xor, lane_xor, lane_set1Epi32 _ hi, hsum, slt_flip]
  generalize lane 32 a i = x
  generalize lane 32 b i = y
  have hx := x.isLt
  have hy := y.isLt
  have hnat : (x + y).toNat = (x.toNat + y.toNat) % 2 ^ 32 := BitVec.toNat_add x y
  apply BitVec.eq_of_toNat_eq
  rw [toNat_saturateUnsigned, BitVec.ult_eq_decide]
  split <;> rename_i hover
  · rw [decide_eq_true_eq] at hover
    rw [BitVec.or_allOnes, BitVec.toNat_allOnes]
    omega
  · rw [decide_eq_true_eq] at hover
    rw [show (0 : BitVec 32) = 0#32 from rfl, BitVec.or_zero]
    omega

theorem lane_ps2_psubu32 (hi : i < 4) :
    lane 32 (ps2_psubu32 a b) i =
      saturateUnsigned 32 ((lane 32 a i).toNat - (lane 32 b i).toNat) := by
  have hdiff : lane 32 (subEpi32 a b) i = lane 32 a i - lane 32 b i := lane_ofLanes _ hi
  unfold ps2_psubu32 cmpgtEpi32 andnotSi128
  dsimp only
  rw [lane_and, lane_not (n := 4) _ hi, lane_ofLanes _ hi, lane_xor, lane_xor,
    lane_set1Epi32 _ hi, hdiff, slt_flip]
  generalize lane 32 a i = x
  generalize lane 32 b i = y
  have hx := x.isLt
  have hy := y.isLt
  have hnat : (x - y).toNat = (2 ^ 32 - y.toNat + x.toNat) % 2 ^ 32 := BitVec.toNat_sub x y
  apply BitVec.eq_of_toNat_eq
  rw [toNat_saturateUnsigned, BitVec.ult_eq_decide]
  split <;> rename_i hunder
  · rw [decide_eq_true_eq] at hunder
    rw [BitVec.not_allOnes, BitVec.zero_and, BitVec.toNat_zero]
    omega
  · rw [decide_eq_true_eq] at hunder
    rw [show (0 : BitVec 32) = 0#32 from rfl, BitVec.not_zero, BitVec.allOnes_and]
    omega

end Unsigned

/-! ## Leading bits -/

/-- The zeros before the first one. -/
theorem countl_zero_spec {y : BitVec 32} (hy : y ≠ 0) :
    countl_zero y < 32 ∧ (∀ i < countl_zero y, y.getMsbD i = false) ∧
      y.getMsbD (countl_zero y) = true := by
  have hne : y.toNat ≠ 0 := fun h => hy (BitVec.eq_of_toNat_eq h)
  have hlog : y.toNat.log2 < 32 := (Nat.log2_lt hne).mpr y.isLt
  have hcount : countl_zero y = 31 - y.toNat.log2 := if_neg hy
  rw [hcount]
  refine ⟨by omega, fun i hi => ?_, ?_⟩
  · rw [BitVec.getMsbD, decide_eq_true (by omega), Bool.true_and, BitVec.getLsbD]
    refine Nat.testBit_lt_two_pow (Nat.lt_of_lt_of_le Nat.lt_log2_self ?_)
    exact Nat.pow_le_pow_right (by decide) (by omega)
  · rw [BitVec.getMsbD, decide_eq_true (by omega), Bool.true_and, BitVec.getLsbD,
      show 32 - 1 - (31 - y.toNat.log2) = y.toNat.log2 by omega]
    exact Nat.testBit_log2 hne

theorem and_signBit_ne_zero (x : BitVec 32) : x &&& 0x80000000 ≠ 0 ↔ x.msb = true := by
  rw [show (0x80000000 : BitVec 32) = BitVec.twoPow 32 31 from rfl, BitVec.and_twoPow,
    BitVec.msb_eq_getLsbD_last]
  split <;> simp_all

theorem leadingRun_ps2_plzcw32 (x : BitVec 32) : LeadingRun x ((ps2_plzcw32 x).toNat + 1) := by
  unfold ps2_plzcw32
  split
  · next hall =>
    rcases hall with rfl | rfl
    · exact ⟨by decide, by decide, fun h => absurd h (by decide)⟩
    · exact ⟨by decide, by decide, fun h => absurd h (by decide)⟩
  next hall =>
  rw [not_or] at hall
  -- the sign is counted as zeros, of the complement where it is set
  obtain ⟨y, hy⟩ : ∃ y, y = if x &&& 0x80000000 ≠ 0 then ~~~x else x := ⟨_, rfl⟩
  have hbits : ∀ i < 32, y.getMsbD i = (x.getMsbD i ^^ x.msb) := by
    intro i hi
    rw [hy]
    split
    · next hneg =>
      rw [(and_signBit_ne_zero x).mp hneg, BitVec.getMsbD_not, decide_eq_true hi, Bool.true_and,
        Bool.xor_true]
    · next hpos =>
      rw [Bool.eq_false_iff.mpr fun h => hpos ((and_signBit_ne_zero x).mpr h), Bool.xor_false]
  have hne : y ≠ 0 := by
    rw [hy]
    split
    · intro hzero
      have hones := congrArg (fun v => ~~~v) hzero
      rw [BitVec.not_not] at hones
      exact hall.2 hones
    · exact hall.1
  obtain ⟨hlt, hzeros, hone⟩ := countl_zero_spec hne
  have hpos : countl_zero y ≠ 0 := by
    intro hzero
    have hfirst := hbits 0 (by decide)
    rw [hzero] at hone
    rw [hone, ← BitVec.msb, Bool.xor_self] at hfirst
    exact Bool.noConfusion hfirst
  have hnat : (BitVec.ofNat 32 (countl_zero y) - 1).toNat + 1 = countl_zero y := by
    rw [BitVec.toNat_sub, BitVec.toNat_ofNat]
    have hconst : (1 : BitVec 32).toNat = 1 := rfl
    omega
  dsimp only
  rw [← hy, hnat]
  refine ⟨Nat.le_of_lt hlt, fun i hi => ?_, fun _ => ?_⟩
  · have hi' := hzeros i hi
    rw [hbits i (by omega)] at hi'
    exact bne_eq_false_iff_eq.mp hi'
  · rw [hbits _ hlt] at hone
    exact bne_iff_ne.mp hone

/-! ## Variable shifts -/

def Ps2VariableWordShiftOperation.shift : Ps2VariableWordShiftOperation → BitVec 32 → ℕ → BitVec 32
  | .LogicalLeft, value, amount => value <<< amount
  | .LogicalRight, value, amount => value >>> amount
  | .ArithmeticRight, value, amount => value.sshiftRight amount

/-- The sign bit, brought down and negated, in every bit. -/
theorem zero_sub_sign (value : BitVec 32) :
    0 - shr value 31 (by decide) = if value.msb then BitVec.allOnes 32 else 0#32 := by
  have hx := value.isLt
  have hshr : (shr value 31 (by decide)).toNat = value.toNat / 2 ^ 31 := by
    rw [shr, BitVec.toNat_ushiftRight, Nat.shiftRight_eq_div_pow]
  have hzero : (0 : BitVec 32).toNat = 0 := rfl
  apply BitVec.eq_of_toNat_eq
  rw [BitVec.toNat_sub, hshr, hzero, BitVec.msb_eq_decide]
  split <;> rename_i hmsb <;> rw [decide_eq_true_eq] at hmsb
  · rw [BitVec.toNat_allOnes]
    omega
  · rw [BitVec.toNat_zero]
    omega

theorem Ps2ArithmeticShiftRight32_eq (value : BitVec 32) (amount : ℕ) (hamount : amount < 32) :
    Ps2ArithmeticShiftRight32 value amount hamount = value.sshiftRight amount := by
  unfold Ps2ArithmeticShiftRight32
  split
  · next hzero => rw [hzero, BitVec.sshiftRight_zero]
  next hzero =>
  dsimp only
  rw [zero_sub_sign, shr, shl]
  apply BitVec.eq_of_getLsbD_eq
  intro j hj
  have hsign : (if value.msb then BitVec.allOnes 32 else 0#32).getLsbD (j - (32 - amount)) =
      value.msb := by
    split <;> rename_i hmsb
    · rw [BitVec.getLsbD_allOnes, hmsb]
      exact decide_eq_true (by omega)
    · rw [BitVec.getLsbD_zero]
      exact (Bool.eq_false_iff.mpr hmsb).symm
  rw [BitVec.getLsbD_or, BitVec.getLsbD_ushiftRight, BitVec.getLsbD_shiftLeft, hsign,
    BitVec.getLsbD_sshiftRight, decide_eq_true hj, decide_eq_false (by omega : ¬32 ≤ j)]
  split
  · next hlow =>
    rw [decide_eq_true (by omega : j < 32 - amount)]
    simp
  · next hhigh =>
    rw [decide_eq_false (by omega : ¬j < 32 - amount), BitVec.getLsbD_of_ge _ _ (by omega)]
    simp

theorem variableWordShiftLane_eq (value count : BitVec 32)
    (operation : Ps2VariableWordShiftOperation) :
    variableWordShiftLane value count operation =
      (operation.shift value (count.toNat % 32),
        if (operation.shift value (count.toNat % 32)).msb then BitVec.allOnes 32 else 0#32) := by
  have hamount : (count &&& 0x1f).toNat = count.toNat % 32 := by
    rw [BitVec.toNat_and]
    exact Nat.and_two_pow_sub_one_eq_mod count.toNat 5
  unfold variableWordShiftLane
  dsimp only
  rw [zero_sub_sign]
  cases operation with
  | LogicalLeft =>
    simp only [shl, hamount, Ps2VariableWordShiftOperation.shift]
    rfl
  | LogicalRight =>
    simp only [shr, hamount, Ps2VariableWordShiftOperation.shift]
    rfl
  | ArithmeticRight =>
    simp only [Ps2ArithmeticShiftRight32_eq, hamount, Ps2VariableWordShiftOperation.shift]
    rfl

/-- Words 0 and 2 are shifted by the low five bits of the matching counts and sign-extended. -/
theorem lane_Ps2VariableWordShift (values counts : M128i)
    (operation : Ps2VariableWordShiftOperation) {i : ℕ} (hi : i < 2) :
    lane 64 (Ps2VariableWordShift values counts operation) i =
      (operation.shift (lane 32 values (2 * i)) ((lane 32 counts (2 * i)).toNat % 32)).signExtend
        64 := by
  apply BitVec.eq_of_getLsbD_eq
  intro j hj
  have hsource : (64 * i + j) / 32 / 2 * 2 = 2 * i := by omega
  rw [getLsbD_lane _ _ hj, Ps2VariableWordShift, getLsbD_ofLanes _ (by omega)]
  dsimp only
  rw [hsource, variableWordShiftLane_eq, BitVec.getLsbD_signExtend, decide_eq_true hj,
    Bool.true_and]
  by_cases hlow : j < 32
  · rw [if_pos (by omega), if_pos hlow, show (64 * i + j) % 32 = j by omega]
  · rw [if_neg (by omega), if_neg hlow]
    dsimp only
    split <;> rename_i hmsb
    · rw [BitVec.getLsbD_allOnes, hmsb]
      exact decide_eq_true (Nat.mod_lt _ (by decide))
    · rw [BitVec.getLsbD_zero]
      exact (Bool.eq_false_iff.mpr hmsb).symm

/-! ## The funnel shift -/

section Funnel

/-- Two doublewords shifted as one. -/
theorem getLsbD_funnel (x y : BitVec 64) {s j : ℕ} (hs : s < 64) (hpos : 0 < s) (hj : j < 64) :
    (shr x s hs ||| shl y (64 - s) (by omega)).getLsbD j =
      if s + j < 64 then x.getLsbD (s + j) else y.getLsbD (s + j - 64) := by
  rw [shr, shl, BitVec.getLsbD_or, BitVec.getLsbD_ushiftRight, BitVec.getLsbD_shiftLeft,
    decide_eq_true hj, Bool.true_and]
  split
  · next hlow =>
    rw [decide_eq_true (by omega : j < 64 - s)]
    simp
  · next hhigh =>
    rw [decide_eq_false (by omega : ¬j < 64 - s), BitVec.getLsbD_of_ge _ _ (by omega),
      Bool.false_or, Bool.not_false, Bool.true_and]
    congr 1
    omega

variable (rs rt : M128i)

/-- A byte of the two quadwords stored one above the other. -/
theorem getLsbD_combined {k j : ℕ} (hj : j < 8) (hk : k < 32) :
    (if k < 16 then lane 8 rt k else lane 8 rs (k - 16)).getLsbD j =
      (rs ++ rt).getLsbD (8 * k + j) := by
  rw [BitVec.getLsbD_append]
  by_cases hlow : k < 16
  · rw [if_pos hlow, if_pos (by omega), getLsbD_lane _ _ hj]
  · rw [if_neg hlow, if_neg (by omega), getLsbD_lane _ _ hj,
      show 8 * (k - 16) + j = 8 * k + j - 128 by omega]

theorem getLsbD_copy64 (bytes : ℕ → BitVec 8) {wide : BitVec 256}
    (hbytes : ∀ k < 32, ∀ j < 8, (bytes k).getLsbD j = wide.getLsbD (8 * k + j)) {offset j : ℕ}
    (hoffset : offset ≤ 24) (hj : j < 64) :
    (copy64 bytes offset).getLsbD j = wide.getLsbD (8 * offset + j) := by
  rw [copy64, getLsbD_ofLanes _ (by omega), hbytes _ (by omega) _ (by omega),
    show 8 * (offset + j / 8) + j % 8 = 8 * offset + j by omega]

/-- The bytes of a quadword from one on, followed by zeros. -/
theorem ofLanes_shifted (byteShift : ℕ) :
    (ofLanes 8 16 fun i => if i + byteShift < 16 then lane 8 rs (i + byteShift) else 0) =
      rs >>> (8 * byteShift) := by
  apply BitVec.eq_of_getLsbD_eq
  intro j hj
  rw [getLsbD_ofLanes _ hj, BitVec.getLsbD_ushiftRight]
  split
  · rw [getLsbD_lane _ _ (by omega),
      show 8 * (j / 8 + byteShift) + j % 8 = 8 * byteShift + j by omega]
  · rw [BitVec.getLsbD_of_ge rs _ (by omega)]
    exact BitVec.getLsbD_zero

/-- Doublewords shifted down, with the bits of the next one brought in. -/
theorem getLsbD_doublewordShift (x : M128i) {b j : ℕ} (hb : b < 8) (hpos : 0 < b) (hj : j < 128) :
    (srliEpi64 x b ||| slliEpi64 (bsrliSi128 x 8) (64 - b)).getLsbD j = x.getLsbD (b + j) := by
  have hlow : (srliEpi64 x b).getLsbD j =
      if b + j % 64 < 64 then x.getLsbD (b + j) else false := by
    rw [srliEpi64, getLsbD_ofLanes _ (by omega), BitVec.getLsbD_ushiftRight]
    split
    · next hin => rw [getLsbD_lane _ _ hin, show 64 * (j / 64) + (b + j % 64) = b + j by omega]
    · next hout => exact BitVec.getLsbD_of_ge _ _ (by omega)
  have hhigh : (slliEpi64 (bsrliSi128 x 8) (64 - b)).getLsbD j =
      if b + j % 64 < 64 then false else x.getLsbD (b + j) := by
    rw [slliEpi64, getLsbD_ofLanes _ (by omega), BitVec.getLsbD_shiftLeft]
    split
    · next hin => rw [decide_eq_true (by omega : j % 64 < 64 - b)]; simp
    · next hout =>
      rw [decide_eq_false (by omega : ¬j % 64 < 64 - b), decide_eq_true (by omega : j % 64 < 64),
        getLsbD_lane _ _ (by omega), bsrliSi128, BitVec.getLsbD_ushiftRight,
        show 8 * 8 + (64 * (j / 64) + (j % 64 - (64 - b))) = b + j by omega]
      simp
  rw [BitVec.getLsbD_or, hlow, hhigh]
  split <;> simp

/-- Three doublewords in a row, from bit `base` of a number on, shifted as one. -/
theorem getLsbD_funnelPair {wide : BitVec 256} {x y z : BitVec 64} {s j : ℕ} (hpos : 0 < s)
    (hs : s < 64) (hj : j < 128) (base : ℕ)
    (hx : ∀ k < 64, x.getLsbD k = wide.getLsbD (base + k))
    (hy : ∀ k < 64, y.getLsbD k = wide.getLsbD (base + 64 + k))
    (hz : ∀ k < 64, z.getLsbD k = wide.getLsbD (base + 128 + k)) :
    ((shr y s hs ||| shl z (64 - s) (by omega)) ++
      (shr x s hs ||| shl y (64 - s) (by omega))).getLsbD j = wide.getLsbD (base + s + j) := by
  rw [BitVec.getLsbD_append]
  split
  · next hlow =>
    rw [getLsbD_funnel x y hs hpos hlow]
    split
    · rw [hx _ (by omega), Nat.add_assoc]
    · rw [hy _ (by omega), show base + 64 + (s + j - 64) = base + s + j by omega]
  · next hhigh =>
    rw [getLsbD_funnel y z hs hpos (by omega)]
    split
    · rw [hy _ (by omega), show base + 64 + (s + (j - 64)) = base + s + j by omega]
    · rw [hz _ (by omega), show base + 128 + (s + (j - 64) - 64) = base + s + j by omega]

/-- `QFSRV`: the low quadword of the two, shifted down. -/
theorem ps2_qfsrv_eq {sa : ℕ} (hsa : sa < 256) :
    ps2_qfsrv rs rt sa = ((rs ++ rt) >>> sa).setWidth 128 := by
  apply BitVec.eq_of_getLsbD_eq
  intro j hj
  rw [BitVec.getLsbD_setWidth, decide_eq_true hj, Bool.true_and, BitVec.getLsbD_ushiftRight]
  have hcombined : ∀ k < 32, ∀ j < 8,
      (if k < 16 then lane 8 rt k else lane 8 rs (k - 16)).getLsbD j =
        (rs ++ rt).getLsbD (8 * k + j) := fun k hk j hj => getLsbD_combined rs rt hj hk
  have hupper : ∀ i, (rs ++ rt).getLsbD (128 + i) = rs.getLsbD i := fun i => by
    rw [BitVec.getLsbD_append, if_neg (by omega), Nat.add_sub_cancel_left]
  unfold ps2_qfsrv
  split
  · next hzero => rw [hzero, Nat.zero_add, BitVec.getLsbD_append, if_pos hj]
  split
  · next hhigh =>
    rw [if_neg (by omega)]
    dsimp only
    obtain ⟨shift, rfl⟩ : ∃ shift, sa = 128 + shift := ⟨sa - 128, by omega⟩
    rw [Nat.add_sub_cancel_left, Nat.add_assoc, hupper]
    split
    · next hshift => rw [hshift, Nat.zero_add]
    rw [ofLanes_shifted]
    split
    · next hbits =>
      rw [getLsbD_doublewordShift _ (Nat.mod_lt _ (by decide)) hbits hj,
        BitVec.getLsbD_ushiftRight]
      congr 1
      omega
    · next hbits =>
      rw [BitVec.getLsbD_ushiftRight]
      congr 1
      omega
  next hlow =>
  dsimp only
  split
  · next hbits =>
    split
    · next hsmall =>
      have hfunnel := getLsbD_funnelPair (by omega : 0 < sa) hsmall hj 0
        (fun k hk => getLsbD_copy64 _ hcombined (by decide : 0 ≤ 24) hk)
        (fun k hk => getLsbD_copy64 _ hcombined (by decide : 8 ≤ 24) hk)
        (fun k hk => getLsbD_copy64 _ hcombined (by decide : 16 ≤ 24) hk)
      rw [hfunnel, Nat.zero_add]
    · next hlarge =>
      rw [dif_neg (by omega)]
      have hfunnel := getLsbD_funnelPair (by omega : 0 < sa - 64) (by omega) hj 64
        (fun k hk => getLsbD_copy64 _ hcombined (by decide : 8 ≤ 24) hk)
        (fun k hk => getLsbD_copy64 _ hcombined (by decide : 16 ≤ 24) hk)
        (fun k hk => getLsbD_copy64 _ hcombined (by decide : 24 ≤ 24) hk)
      rw [hfunnel, show 64 + (sa - 64) = sa by omega]
  · next hbits =>
    rw [getLsbD_ofLanes _ hj, if_pos (by omega), hcombined _ (by omega) _ (by omega)]
    congr 1
    omega

theorem toNat_ps2_qfsrv {sa : ℕ} (hsa : sa < 256) :
    (ps2_qfsrv rs rt sa).toNat = (rs.toNat * 2 ^ 128 + rt.toNat) / 2 ^ sa % 2 ^ 128 := by
  have hwide : (rs ++ rt).toNat = rs.toNat * 2 ^ 128 + rt.toNat := by
    rw [BitVec.toNat_append, Nat.shiftLeft_eq, Nat.mul_comm,
      ← Nat.two_pow_add_eq_or_of_lt rt.isLt]
  rw [ps2_qfsrv_eq rs rt hsa, BitVec.toNat_setWidth, BitVec.toNat_ushiftRight, hwide,
    Nat.shiftRight_eq_div_pow]

end Funnel

/-- **Every function equals its definition by lanes**, and the two variants of the saturating ones
agree. -/
theorem packedArithmetic_exact (a b : M128i) :
    (∀ sse41, ∀ i < 4, lane 32 (ps2_paddsw sse41 a b) i =
      saturate 32 ((lane 32 a i).toInt + (lane 32 b i).toInt)) ∧
    (∀ sse41, ∀ i < 4, lane 32 (ps2_psubsw sse41 a b) i =
      saturate 32 ((lane 32 a i).toInt - (lane 32 b i).toInt)) ∧
    ps2_paddsw true a b = ps2_paddsw false a b ∧ ps2_psubsw true a b = ps2_psubsw false a b ∧
    (∀ i < 4, lane 32 (ps2_paddu32 a b) i =
      saturateUnsigned 32 ((lane 32 a i).toNat + (lane 32 b i).toNat)) ∧
    (∀ i < 4, lane 32 (ps2_psubu32 a b) i =
      saturateUnsigned 32 ((lane 32 a i).toNat - (lane 32 b i).toNat)) ∧
    (∀ i < 4, lane 32 (ps2_pabsw a) i = saturate 32 (lane 32 a i).toInt.natAbs) ∧
    (∀ i < 8, lane 16 (ps2_pabsh a) i = saturate 16 (lane 16 a i).toInt.natAbs) ∧
    (∀ x, LeadingRun x ((ps2_plzcw32 x).toNat + 1)) ∧
    (∀ operation : Ps2VariableWordShiftOperation, ∀ i < 2,
      lane 64 (Ps2VariableWordShift a b operation) i =
        (operation.shift (lane 32 a (2 * i)) ((lane 32 b (2 * i)).toNat % 32)).signExtend 64) ∧
    ∀ sa < 256, (ps2_qfsrv a b sa).toNat = (a.toNat * 2 ^ 128 + b.toNat) / 2 ^ sa % 2 ^ 128 := by
  refine ⟨fun sse41 i hi => lane_ps2_paddsw sse41 a b hi,
    fun sse41 i hi => lane_ps2_psubsw sse41 a b hi, ?_, ?_,
    fun i hi => lane_ps2_paddu32 a b hi, fun i hi => lane_ps2_psubu32 a b hi,
    fun i hi => lane_ps2_pabsw a hi, fun i hi => lane_ps2_pabsh a hi, leadingRun_ps2_plzcw32,
    fun operation i hi => lane_Ps2VariableWordShift a b operation hi,
    fun sa hsa => toNat_ps2_qfsrv a b hsa⟩
  · exact eq_of_lane (w := 32) (n := 4) fun i hi => by
      rw [lane_ps2_paddsw _ _ _ hi, lane_ps2_paddsw _ _ _ hi]
  · exact eq_of_lane (w := 32) (n := 4) fun i hi => by
      rw [lane_ps2_psubsw _ _ _ hi, lane_ps2_psubsw _ _ _ hi]

end Ps2Recomp
