import Ps2Recomp.Lib.Lanes

/-!
# The SSE operations behind the packed arithmetic

A quadword register is a bit vector of 128 bits. Each operation does what its instruction does on
the lanes of its width, lane `0` at the low end.
-/

namespace Ps2Recomp

open Lanes

/-- `__m128i`. -/
abbrev M128i := BitVec 128

/-! A C++ shift by a count below the width; by another it is undefined, so there is none. -/

def shl {w : ℕ} (x : BitVec w) (count : ℕ) (_ : count < w) : BitVec w := x <<< count

def shr {w : ℕ} (x : BitVec w) (count : ℕ) (_ : count < w) : BitVec w := x >>> count

namespace M128i

def INT32_MAX : BitVec 32 := BitVec.intMax 32
def INT32_MIN : BitVec 32 := BitVec.intMin 32
def INT16_MIN : BitVec 16 := BitVec.intMin 16

variable (a b mask : M128i)

def set1Epi32 (x : BitVec 32) : M128i := ofLanes 32 4 fun _ => x

def set1Epi16 (x : BitVec 16) : M128i := ofLanes 16 8 fun _ => x

def addEpi32 : M128i := ofLanes 32 4 fun i => lane 32 a i + lane 32 b i

def addEpi16 : M128i := ofLanes 16 8 fun i => lane 16 a i + lane 16 b i

def subEpi32 : M128i := ofLanes 32 4 fun i => lane 32 a i - lane 32 b i

/-- `_mm_srai_epi32(a, 31)`. -/
def sraiEpi32 : M128i := ofLanes 32 4 fun i => signMask (lane 32 a i)

def cmpgtEpi32 : M128i :=
  ofLanes 32 4 fun i => if (lane 32 b i).slt (lane 32 a i) then BitVec.allOnes 32 else 0

def cmpeqEpi32 : M128i :=
  ofLanes 32 4 fun i => if lane 32 a i = lane 32 b i then BitVec.allOnes 32 else 0

def cmpeqEpi16 : M128i :=
  ofLanes 16 8 fun i => if lane 16 a i = lane 16 b i then BitVec.allOnes 16 else 0

def absEpi32 : M128i := ofLanes 32 4 fun i => (lane 32 a i).abs

def absEpi16 : M128i := ofLanes 16 8 fun i => (lane 16 a i).abs

def andnotSi128 : M128i := ~~~a &&& b

/-- The bytes of `b` where the byte of the mask is negative, those of `a` elsewhere. -/
def blendvEpi8 : M128i :=
  ofLanes 8 16 fun i => if (lane 8 mask i).msb then lane 8 b i else lane 8 a i

def srliEpi64 (count : ℕ) : M128i := ofLanes 64 2 fun i => lane 64 a i >>> count

def slliEpi64 (count : ℕ) : M128i := ofLanes 64 2 fun i => lane 64 a i <<< count

def bsrliSi128 (bytes : ℕ) : M128i := a >>> (8 * bytes)

/-- A blend by a mask of whole words is a bitwise selection. -/
theorem blendvEpi8_signMask (x : M128i) {i : ℕ} (hi : i < 4) :
    lane 32 (blendvEpi8 a b (sraiEpi32 x)) i =
      if (lane 32 x i).msb then lane 32 b i else lane 32 a i := by
  apply BitVec.eq_of_getLsbD_eq
  intro j hj
  -- bit `j` of word `i` is in byte `k`, whose mask is the sign of the word
  obtain ⟨k, hk⟩ : ∃ k, k = (32 * i + j) / 8 := ⟨_, rfl⟩
  have hmask : (lane 8 (sraiEpi32 x) k).msb = (lane 32 x i).msb := by
    rw [BitVec.msb_eq_getLsbD_last, getLsbD_lane _ _ (by decide), sraiEpi32,
      getLsbD_ofLanes _ (by omega), show (8 * k + (8 - 1)) / 32 = i by omega, signMask_eq]
    split <;> rename_i hmsb
    · rw [BitVec.getLsbD_allOnes, hmsb]
      exact decide_eq_true (Nat.mod_lt _ (by decide))
    · rw [BitVec.getLsbD_zero]
      exact (Bool.eq_false_iff.mpr hmsb).symm
  rw [getLsbD_lane _ _ hj, blendvEpi8, getLsbD_ofLanes _ (by omega), ← hk, hmask]
  split
  · rw [getLsbD_lane _ _ (by omega), getLsbD_lane _ _ hj,
      show 8 * k + (32 * i + j) % 8 = 32 * i + j by omega]
  · rw [getLsbD_lane _ _ (by omega), getLsbD_lane _ _ hj,
      show 8 * k + (32 * i + j) % 8 = 32 * i + j by omega]

end M128i

end Ps2Recomp
