import Mathlib.Data.Nat.Prime.Basic
import Ps2Recomp.Mmi.Intrinsics

/-!
# Packed multiplication and division (`mmi_translation_helpers.cpp`)

What is emitted for `PMULTW`, `PMADDUW`, `PDIVW` and the rest, as functions of the operands, the
accumulators and the old destination. `Lanewise` says what they should compute: independent lanes,
in fixed words of the accumulators. `PMULTW`, `PMULTUW` and `PMULTH` do (`pmultw_lanewise` and the
others); the others compute with lane 0 alone or sum all lanes up in it, and the exact operands for
which that comes out right are `MeetsLanes` (`emitted_lanewise_iff`).
-/

namespace Ps2Recomp

open Lanes M128i

/-- The multiply registers and the destination; `none` is register zero, which ignores writes. -/
structure MultiplyState where
  lo : BitVec 64
  hi : BitVec 64
  lo1 : BitVec 64
  hi1 : BitVec 64
  rd : Option M128i
  deriving DecidableEq

def Ps2LowWord (value : BitVec 64) : BitVec 32 := lane 32 value 0
def Ps2HighWord (value : BitVec 64) : BitVec 32 := lane 32 value 1
def Ps2SignExt32ToU64 (v : BitVec 32) : BitVec 64 := v.signExtend 64
def Ps2HiLoToU64 (hi lo : BitVec 64) : BitVec 64 := Ps2LowWord hi ++ Ps2LowWord lo

namespace MultiplyState

/-- `SET_GPR_VEC`. -/
def setVec (s : MultiplyState) (v : M128i) : MultiplyState := { s with rd := s.rd.map fun _ => v }

/-- `SET_GPR_U64`: the upper doubleword stays. -/
def setU64 (s : MultiplyState) (v : BitVec 64) : MultiplyState :=
  { s with rd := s.rd.map fun old => lane 64 old 1 ++ v }

/-- `SET_GPR_U32`: the word is sign-extended. -/
def setU32 (s : MultiplyState) (v : BitVec 64) : MultiplyState :=
  s.setU64 (Ps2SignExt32ToU64 (Ps2LowWord v))

end MultiplyState

/-! ## The emitted code -/

section Emitted

variable (rs rt : M128i) (ctx : MultiplyState)

/-- The doubleword products of words 0 and 2. -/
def mulEpu32 (a b : M128i) : M128i :=
  ofLanes 64 2 fun i => (lane 32 a (2 * i)).setWidth 64 * (lane 32 b (2 * i)).setWidth 64

/-- The word sums of products of adjacent halfwords. -/
def maddEpi16 (a b : M128i) : M128i :=
  ofLanes 32 4 fun i =>
    (lane 16 a (2 * i)).signExtend 32 * (lane 16 b (2 * i)).signExtend 32 +
      (lane 16 a (2 * i + 1)).signExtend 32 * (lane 16 b (2 * i + 1)).signExtend 32

/-- What `Ps2Pmultw` and `Ps2Pmultuw` do with their two products. -/
def writeProducts (product0 product1 : BitVec 64) : MultiplyState :=
  { ctx with
    lo := Ps2SignExt32ToU64 (Ps2LowWord product0)
    hi := Ps2SignExt32ToU64 (Ps2HighWord product0)
    lo1 := Ps2SignExt32ToU64 (Ps2LowWord product1)
    hi1 := Ps2SignExt32ToU64 (Ps2HighWord product1) }.setVec (product1 ++ product0)

def translatePMULTW : MultiplyState :=
  writeProducts ctx ((lane 32 rs 0).signExtend 64 * (lane 32 rt 0).signExtend 64)
    ((lane 32 rs 2).signExtend 64 * (lane 32 rt 2).signExtend 64)

def translatePMULTUW : MultiplyState :=
  writeProducts ctx ((lane 32 rs 0).setWidth 64 * (lane 32 rt 0).setWidth 64)
    ((lane 32 rs 2).setWidth 64 * (lane 32 rt 2).setWidth 64)

def translatePMULTH : MultiplyState :=
  let products := fun i => (lane 16 rs i).signExtend 32 * (lane 16 rt i).signExtend 32
  { ctx with
    lo := products 1 ++ products 0
    hi := products 3 ++ products 2
    lo1 := products 5 ++ products 4
    hi1 := products 7 ++ products 6 }.setVec
      (products 6 ++ products 4 ++ products 2 ++ products 0)

/-- `ctx->lo = (uint32_t)acc; ctx->hi = (uint32_t)(acc >> 32)` and the destination. -/
def writeAccumulator (acc : BitVec 64) : MultiplyState :=
  { ctx with
    lo := (Ps2LowWord acc).setWidth 64
    hi := (Ps2HighWord acc).setWidth 64 }.setU64 acc

def translatePMADDUW : MultiplyState :=
  let p01 := mulEpu32 rs rt
  let p23 := mulEpu32 (bsrliSi128 rs 8) (bsrliSi128 rt 8)
  writeAccumulator ctx (Ps2HiLoToU64 ctx.hi ctx.lo + lane 64 p01 0 + lane 64 (bsrliSi128 p01 8) 0 +
    lane 64 p23 0 + lane 64 (bsrliSi128 p23 8) 0)

def translatePMSUBW : MultiplyState :=
  let p01 := mulEpu32 rs rt
  let p23 := mulEpu32 (bsrliSi128 rs 8) (bsrliSi128 rt 8)
  writeAccumulator ctx (Ps2HiLoToU64 ctx.hi ctx.lo - lane 64 p01 0 - lane 64 (bsrliSi128 p01 8) 0 -
    lane 64 p23 0 - lane 64 (bsrliSi128 p23 8) 0)

/-- The sum of the four word sums that `PMADDH` and `PMSUBH` accumulate. -/
def pairSums : BitVec 64 :=
  let prod := maddEpi16 rs rt
  (lane 32 prod 0).signExtend 64 + (lane 32 (bsrliSi128 prod 4) 0).signExtend 64 +
    (lane 32 (bsrliSi128 prod 8) 0).signExtend 64 + (lane 32 (bsrliSi128 prod 12) 0).signExtend 64

def translatePMADDH : MultiplyState :=
  writeAccumulator ctx (Ps2HiLoToU64 ctx.hi ctx.lo + pairSums rs rt)

def translatePMSUBH : MultiplyState :=
  writeAccumulator ctx (Ps2HiLoToU64 ctx.hi ctx.lo - pairSums rs rt)

def translatePDIVW : MultiplyState :=
  let rs0 := lane 32 rs 0
  let rt0 := lane 32 rt 0
  let ctx :=
    if rt0 ≠ 0 then
      if rt0 = -1 ∧ rs0 = INT32_MIN then
        { ctx with lo := INT32_MIN.setWidth 64, hi := 0 }
      else { ctx with lo := (rs0.sdiv rt0).setWidth 64, hi := (rs0.srem rt0).setWidth 64 }
    else { ctx with lo := if rs0.slt 0 then 1 else -1, hi := rs0.setWidth 64 }
  ctx.setU32 ctx.lo

def translatePDIVUW : MultiplyState :=
  let rs0 := lane 32 rs 0
  let rt0 := lane 32 rt 0
  let ctx :=
    if rt0 ≠ 0 then { ctx with lo := (rs0 / rt0).setWidth 64, hi := (rs0 % rt0).setWidth 64 }
    else { ctx with lo := 0xFFFFFFFF, hi := rs0.setWidth 64 }
  ctx.setU32 ctx.lo

/-- `none` where a host division is undefined. -/
def translatePDIVBW : Option MultiplyState :=
  let rsWords := lane 32 rs
  let div := lane 32 rt 0
  if div ≠ 0 then
    if div = -1 ∧ (List.range 4).any fun i => rsWords i = INT32_MIN then none
    else
      some ({ ctx with
        lo := ((rsWords 0).sdiv div).setWidth 64
        hi := ((rsWords 0).srem div).setWidth 64 }.setVec
          ((rsWords 3).sdiv div ++ (rsWords 2).sdiv div ++ (rsWords 1).sdiv div ++
            (rsWords 0).sdiv div))
  else
    some ({ ctx with
      lo := if (rsWords 0).slt 0 then 1 else -1
      hi := (rsWords 0).setWidth 64 }.setVec 0)

inductive PackedMultiply where
  | PMULTW
  | PMULTUW
  | PMADDUW
  | PMSUBW
  | PDIVW
  | PDIVUW
  | PMULTH
  | PMADDH
  | PMSUBH
  | PDIVBW
  deriving DecidableEq, Repr

/-- The emitted code; `none` where it divides undefinedly. -/
def emitted : PackedMultiply → Option MultiplyState
  | .PMULTW => some (translatePMULTW rs rt ctx)
  | .PMULTUW => some (translatePMULTUW rs rt ctx)
  | .PMADDUW => some (translatePMADDUW rs rt ctx)
  | .PMSUBW => some (translatePMSUBW rs rt ctx)
  | .PDIVW => some (translatePDIVW rs rt ctx)
  | .PDIVUW => some (translatePDIVUW rs rt ctx)
  | .PMULTH => some (translatePMULTH rs rt ctx)
  | .PMADDH => some (translatePMADDH rs rt ctx)
  | .PMSUBH => some (translatePMSUBH rs rt ctx)
  | .PDIVBW => translatePDIVBW rs rt ctx

end Emitted

/-! ## What the instructions compute -/

section Lanewise

variable (rs rt : M128i) (s r : MultiplyState)

/-- The operands of lanes 0 and 1, words 0 and 2. -/
def signedProduct (i : ℕ) : BitVec 64 :=
  (lane 32 rs (2 * i)).signExtend 64 * (lane 32 rt (2 * i)).signExtend 64

def unsignedProduct (i : ℕ) : BitVec 64 :=
  (lane 32 rs (2 * i)).setWidth 64 * (lane 32 rt (2 * i)).setWidth 64

def halfProduct (i : ℕ) : BitVec 32 := (lane 16 rs i).signExtend 32 * (lane 16 rt i).signExtend 32

namespace MultiplyState

/-- The accumulators of the lanes, `HI:LO` and `HI1:LO1`. -/
def accumulator0 : BitVec 64 := Ps2HiLoToU64 s.hi s.lo
def accumulator1 : BitVec 64 := Ps2HiLoToU64 s.hi1 s.lo1

/-- The words of `LO`, `HI`, `LO1` and `HI1`, in the order of the halfword products. -/
def word : ℕ → BitVec 32
  | 0 => Ps2LowWord s.lo
  | 1 => Ps2HighWord s.lo
  | 2 => Ps2LowWord s.hi
  | 3 => Ps2HighWord s.hi
  | 4 => Ps2LowWord s.lo1
  | 5 => Ps2HighWord s.lo1
  | 6 => Ps2LowWord s.hi1
  | _ => Ps2HighWord s.hi1

end MultiplyState

/-- Two results, split into the sign-extended words of the accumulators; the destination has both. -/
structure WordLanes (result0 result1 : BitVec 64) : Prop where
  lo : r.lo = (Ps2LowWord result0).signExtend 64
  hi : r.hi = (Ps2HighWord result0).signExtend 64
  lo1 : r.lo1 = (Ps2LowWord result1).signExtend 64
  hi1 : r.hi1 = (Ps2HighWord result1).signExtend 64
  rd : r.rd = s.rd.map fun _ => result1 ++ result0

/-- Eight results in the words of the accumulators; the destination has every other one. -/
structure HalfLanes (result : ℕ → BitVec 32) : Prop where
  lo : r.lo = result 1 ++ result 0
  hi : r.hi = result 3 ++ result 2
  lo1 : r.lo1 = result 5 ++ result 4
  hi1 : r.hi1 = result 7 ++ result 6
  rd : r.rd = s.rd.map fun _ => result 6 ++ result 4 ++ result 2 ++ result 0

/-- Quotients and remainders of two words where there are any; the destination is not written. -/
structure DivideLanes (quotient remainder : BitVec 32 → BitVec 32 → BitVec 32) : Prop where
  lane0 : lane 32 rt 0 ≠ 0 →
    r.lo = (quotient (lane 32 rs 0) (lane 32 rt 0)).signExtend 64 ∧
    r.hi = (remainder (lane 32 rs 0) (lane 32 rt 0)).signExtend 64
  lane1 : lane 32 rt 2 ≠ 0 →
    r.lo1 = (quotient (lane 32 rs 2) (lane 32 rt 2)).signExtend 64 ∧
    r.hi1 = (remainder (lane 32 rs 2) (lane 32 rt 2)).signExtend 64
  rd : r.rd = s.rd

/-- The divisor of `PDIVBW`. -/
def halfDivisor : BitVec 32 := (lane 16 rt 0).signExtend 32

/-- Four words divided by one halfword, in the words of the accumulators. -/
structure BroadcastLanes : Prop where
  lanes : halfDivisor rt ≠ 0 →
    r.lo = (lane 32 rs 1).sdiv (halfDivisor rt) ++ (lane 32 rs 0).sdiv (halfDivisor rt) ∧
    r.hi = (lane 32 rs 1).srem (halfDivisor rt) ++ (lane 32 rs 0).srem (halfDivisor rt) ∧
    r.lo1 = (lane 32 rs 3).sdiv (halfDivisor rt) ++ (lane 32 rs 2).sdiv (halfDivisor rt) ∧
    r.hi1 = (lane 32 rs 3).srem (halfDivisor rt) ++ (lane 32 rs 2).srem (halfDivisor rt)
  rd : r.rd = s.rd

/-- `r` is what the instruction computes from `s`. -/
def Lanewise : PackedMultiply → Prop
  | .PMULTW => WordLanes s r (signedProduct rs rt 0) (signedProduct rs rt 1)
  | .PMULTUW => WordLanes s r (unsignedProduct rs rt 0) (unsignedProduct rs rt 1)
  | .PMADDUW => WordLanes s r (s.accumulator0 + unsignedProduct rs rt 0)
      (s.accumulator1 + unsignedProduct rs rt 1)
  | .PMSUBW => WordLanes s r (s.accumulator0 - signedProduct rs rt 0)
      (s.accumulator1 - signedProduct rs rt 1)
  | .PDIVW => DivideLanes rs rt s r BitVec.sdiv BitVec.srem
  | .PDIVUW => DivideLanes rs rt s r (· / ·) (· % ·)
  | .PMULTH => HalfLanes s r (halfProduct rs rt)
  | .PMADDH => HalfLanes s r fun i => s.word i + halfProduct rs rt i
  | .PMSUBH => HalfLanes s r fun i => s.word i - halfProduct rs rt i
  | .PDIVBW => BroadcastLanes rs rt s r

end Lanewise

/-! ## When the emitted code computes it -/

section Meets

variable (rs rt : M128i) (s : MultiplyState)

/-- The products of the low halfwords, summed in pairs. -/
def lowSums : BitVec 64 :=
  (halfProduct rs rt 0 + halfProduct rs rt 1).signExtend 64 +
    (halfProduct rs rt 2 + halfProduct rs rt 3).signExtend 64

/-- What is left of a one-lane result that should have filled two lanes. -/
structure OneLane (result0 result1 : BitVec 64) : Prop where
  low : (Ps2LowWord result0).msb = false
  high : (Ps2HighWord result0).msb = false
  lo1 : s.lo1 = (Ps2LowWord result1).signExtend 64
  hi1 : s.hi1 = (Ps2HighWord result1).signExtend 64
  rd : ∀ old ∈ s.rd, lane 64 old 1 = result1

/-- What is left of a sum of all products that should have been eight. -/
structure OneSum (combine : BitVec 32 → BitVec 32 → BitVec 32) (acc : BitVec 64) : Prop where
  upper : ∀ i, 4 ≤ i → i < 8 → halfProduct rs rt i = 0
  odd : combine (s.word 1) (halfProduct rs rt 1) = 0 ∧ combine (s.word 3) (halfProduct rs rt 3) = 0
  sum : acc = combine (s.word 2) (halfProduct rs rt 2) ++ combine (s.word 0) (halfProduct rs rt 0)
  rd : ∀ old ∈ s.rd, lane 64 old 1 = s.word 6 ++ s.word 4

/-- What is left of a division of word 0 that should have been two. -/
structure OneDivision (quotient remainder : BitVec 32 → BitVec 32 → BitVec 32)
    (written : BitVec 32) : Prop where
  lane0 : lane 32 rt 0 ≠ 0 → (quotient (lane 32 rs 0) (lane 32 rt 0)).msb = false ∧
    (remainder (lane 32 rs 0) (lane 32 rt 0)).msb = false
  lane1 : lane 32 rt 2 ≠ 0 →
    s.lo1 = (quotient (lane 32 rs 2) (lane 32 rt 2)).signExtend 64 ∧
    s.hi1 = (remainder (lane 32 rs 2) (lane 32 rt 2)).signExtend 64
  rd : ∀ old ∈ s.rd, lane 64 old 0 = written.signExtend 64

/-- What is left of the division by the whole word 0. -/
structure WordDivision : Prop where
  defined : lane 32 rt 0 = -1 → ∀ i < 4, lane 32 rs i ≠ INT32_MIN
  lanes : halfDivisor rt ≠ 0 → lane 32 rs 1 = 0 ∧
    (lane 32 rs 0).sdiv (lane 32 rt 0) = (lane 32 rs 0).sdiv (halfDivisor rt) ∧
    (lane 32 rs 0).srem (lane 32 rt 0) = (lane 32 rs 0).srem (halfDivisor rt) ∧
    s.lo1 = (lane 32 rs 3).sdiv (halfDivisor rt) ++ (lane 32 rs 2).sdiv (halfDivisor rt) ∧
    s.hi1 = (lane 32 rs 3).srem (halfDivisor rt) ++ (lane 32 rs 2).srem (halfDivisor rt)
  rd : ∀ old ∈ s.rd, ∀ i < 4, lane 32 old i = (lane 32 rs i).sdiv (lane 32 rt 0)

/-- The operands for which the emitted code computes the lanes. -/
def MeetsLanes : PackedMultiply → Prop
  | .PMULTW | .PMULTUW | .PMULTH => True
  | .PMADDUW => unsignedProduct rs rt 1 = 0 ∧
      OneLane s (s.accumulator0 + unsignedProduct rs rt 0) s.accumulator1
  | .PMSUBW => unsignedProduct rs rt 0 + 2 * unsignedProduct rs rt 1 = signedProduct rs rt 0 ∧
      OneLane s (s.accumulator0 - signedProduct rs rt 0) (s.accumulator1 - signedProduct rs rt 1)
  | .PDIVW => OneDivision rs rt s BitVec.sdiv BitVec.srem
      (if lane 32 rt 0 = 0 then (if (lane 32 rs 0).slt 0 then 1 else -1)
        else (lane 32 rs 0).sdiv (lane 32 rt 0))
  | .PDIVUW => OneDivision rs rt s (· / ·) (· % ·)
      (if lane 32 rt 0 = 0 then -1 else lane 32 rs 0 / lane 32 rt 0)
  | .PMADDH => OneSum rs rt s (· + ·) (s.accumulator0 + lowSums rs rt)
  | .PMSUBH => OneSum rs rt s (· - ·) (s.accumulator0 - lowSums rs rt)
  | .PDIVBW => WordDivision rs rt s

end Meets

/-! ## Words and doublewords -/

section Words

theorem append_inj {m n : ℕ} {a c : BitVec m} {b d : BitVec n} :
    a ++ b = c ++ d ↔ a = c ∧ b = d := by
  constructor
  · intro h
    constructor
    · apply BitVec.eq_of_getLsbD_eq
      intro i hi
      have hbit := congrArg (fun x => x.getLsbD (n + i)) h
      simp only [BitVec.getLsbD_append, Nat.not_lt.mpr (Nat.le_add_right n i),
        Nat.add_sub_cancel_left, if_false] at hbit
      exact hbit
    · apply BitVec.eq_of_getLsbD_eq
      intro i hi
      have hbit := congrArg (fun x => x.getLsbD i) h
      simp only [BitVec.getLsbD_append, hi, if_true] at hbit
      exact hbit
  · rintro ⟨rfl, rfl⟩
    rfl

theorem high_append_low (x : BitVec 64) : Ps2HighWord x ++ Ps2LowWord x = x := by
  apply BitVec.eq_of_getLsbD_eq
  intro i hi
  rw [BitVec.getLsbD_append]
  split
  · next hlow => rw [Ps2LowWord, getLsbD_lane _ _ hlow, Nat.mul_zero, Nat.zero_add]
  · next hhigh =>
    rw [Ps2HighWord, getLsbD_lane _ _ (by omega), show 32 * 1 + (i - 32) = i by omega]

theorem eq_iff_words {x : BitVec 64} {a b : BitVec 32} :
    x = a ++ b ↔ Ps2HighWord x = a ∧ Ps2LowWord x = b := by
  rw [← append_inj, high_append_low]

theorem append_words (x : BitVec 64) (a b : BitVec 32) :
    (x ++ (a ++ b) : M128i) = x ++ a ++ b := by
  apply BitVec.eq_of_getLsbD_eq
  intro i hi
  rw [BitVec.getLsbD_append, BitVec.getLsbD_append, BitVec.getLsbD_append, BitVec.getLsbD_append]
  by_cases h32 : i < 32
  · rw [if_pos (by omega), if_pos h32, if_pos h32]
  by_cases h64 : i < 64
  · rw [if_pos (by omega), if_neg h32, if_neg h32, if_pos (by omega)]
  · rw [if_neg (by omega), if_neg h32, if_neg (by omega), Nat.sub_sub]

theorem upper_append_lower (x : M128i) : lane 64 x 1 ++ lane 64 x 0 = x := by
  apply BitVec.eq_of_getLsbD_eq
  intro i hi
  rw [BitVec.getLsbD_append]
  split
  · next hlow => rw [getLsbD_lane _ _ hlow, Nat.mul_zero, Nat.zero_add]
  · next hhigh => rw [getLsbD_lane _ _ (by omega), show 64 * 1 + (i - 64) = i by omega]

theorem setWidth_eq_append_iff {v a b : BitVec 32} :
    v.setWidth 64 = a ++ b ↔ a = 0 ∧ v = b := by
  have hzero : v.setWidth 64 = (0 : BitVec 32) ++ v := by
    apply BitVec.eq_of_getLsbD_eq
    intro i hi
    rw [BitVec.getLsbD_setWidth, BitVec.getLsbD_append, decide_eq_true hi, Bool.true_and]
    split
    · rfl
    · exact (BitVec.getLsbD_of_ge _ _ (by omega)).trans BitVec.getLsbD_zero.symm
  rw [hzero, append_inj, eq_comm]

theorem setWidth_eq_signExtend_iff {v w : BitVec 32} :
    v.setWidth 64 = w.signExtend 64 ↔ v = w ∧ w.msb = false := by
  have hsign : w.signExtend 64 = (if w.msb then BitVec.allOnes 32 else 0#32) ++ w := by
    apply BitVec.eq_of_getLsbD_eq
    intro i hi
    rw [BitVec.getLsbD_signExtend, BitVec.getLsbD_append, decide_eq_true hi, Bool.true_and]
    split
    · rfl
    · split <;> rename_i hmsb
      · rw [hmsb, BitVec.getLsbD_allOnes, decide_eq_true (by omega)]
      · rw [BitVec.getLsbD_zero]
        exact Bool.eq_false_iff.mpr hmsb
  rw [hsign, setWidth_eq_append_iff, and_comm]
  refine and_congr_right fun _ => ?_
  cases w.msb <;> simp

/-- Every register the destination may have held maps to the same one. -/
theorem map_eq_map_iff {rd : Option M128i} {f g : M128i → M128i} :
    rd.map f = rd.map g ↔ ∀ old ∈ rd, f old = g old := by
  cases rd with
  | none => simp
  | some old => simp

theorem map_eq_self_iff {rd : Option M128i} {f : M128i → M128i} :
    rd.map f = rd ↔ ∀ old ∈ rd, f old = old := by
  cases rd with
  | none => simp
  | some old => simp

end Words

/-! ## One accumulator for all lanes -/

section Accumulator

variable {rs rt : M128i} {s : MultiplyState}

theorem lane_bsrliSi128 {w : ℕ} (a : M128i) {bytes k : ℕ} (h : 8 * bytes = w * k) (i : ℕ) :
    lane w (bsrliSi128 a bytes) i = lane w a (i + k) := by
  apply BitVec.eq_of_getLsbD_eq
  intro j hj
  rw [getLsbD_lane _ _ hj, getLsbD_lane _ _ hj, bsrliSi128, BitVec.getLsbD_ushiftRight, h,
    Nat.mul_add]
  congr 1
  omega

theorem wordLanes_writeAccumulator_iff {acc result0 result1 : BitVec 64} :
    WordLanes s (writeAccumulator s acc) result0 result1 ↔
      acc = result0 ∧ OneLane s result0 result1 := by
  constructor
  · intro h
    obtain ⟨hlow, hlowSign⟩ := setWidth_eq_signExtend_iff.mp h.lo
    obtain ⟨hhigh, hhighSign⟩ := setWidth_eq_signExtend_iff.mp h.hi
    have hacc : acc = result0 := by
      rw [← high_append_low acc, hlow, hhigh, high_append_low]
    refine ⟨hacc, hlowSign, hhighSign, h.lo1, h.hi1, fun old hold => ?_⟩
    exact (append_inj.mp (map_eq_map_iff.mp h.rd old hold)).1
  · rintro ⟨rfl, h⟩
    refine ⟨setWidth_eq_signExtend_iff.mpr ⟨rfl, h.low⟩,
      setWidth_eq_signExtend_iff.mpr ⟨rfl, h.high⟩, h.lo1, h.hi1, ?_⟩
    exact map_eq_map_iff.mpr fun old hold => append_inj.mpr ⟨h.rd old hold, rfl⟩

theorem lane_mulEpu32 (i : ℕ) (hi : i < 2) :
    lane 64 (mulEpu32 rs rt) i = unsignedProduct rs rt i :=
  lane_ofLanes _ hi

/-- The four products that `PMADDUW` and `PMSUBW` take: lane 0, lane 1 twice, and zero. -/
theorem lanes_mulEpu32 :
    lane 64 (mulEpu32 rs rt) 0 = unsignedProduct rs rt 0 ∧
    lane 64 (bsrliSi128 (mulEpu32 rs rt) 8) 0 = unsignedProduct rs rt 1 ∧
    lane 64 (mulEpu32 (bsrliSi128 rs 8) (bsrliSi128 rt 8)) 0 = unsignedProduct rs rt 1 ∧
    lane 64 (bsrliSi128 (mulEpu32 (bsrliSi128 rs 8) (bsrliSi128 rt 8)) 8) 0 = 0 := by
  have hzero : ∀ a : M128i, lane 32 a 4 = 0 := fun a => by
    apply BitVec.eq_of_getLsbD_eq
    intro j hj
    rw [getLsbD_lane _ _ hj, BitVec.getLsbD_of_ge _ _ (by omega)]
    exact BitVec.getLsbD_zero.symm
  have hshift : ∀ (a : M128i) i, lane 32 (bsrliSi128 a 8) i = lane 32 a (i + 2) := fun a i =>
    lane_bsrliSi128 a (by decide : 8 * 8 = 32 * 2) i
  have hshift64 : ∀ (a : M128i) i, lane 64 (bsrliSi128 a 8) i = lane 64 a (i + 1) := fun a i =>
    lane_bsrliSi128 a (by decide : 8 * 8 = 64 * 1) i
  refine ⟨lane_mulEpu32 0 (by decide), ?_, ?_, ?_⟩
  · rw [hshift64, lane_mulEpu32 _ (by decide)]
  · rw [lane_mulEpu32 _ (by decide), unsignedProduct, unsignedProduct, hshift, hshift]
  · rw [hshift64, lane_mulEpu32 _ (by decide), unsignedProduct, hshift, hshift, hzero, hzero]
    rfl

/-- Twice a product of two words is zero only for a zero product: `2 ^ 63` is none. -/
theorem two_mul_unsignedProduct {i : ℕ} (h : 2 * unsignedProduct rs rt i = 0) :
    unsignedProduct rs rt i = 0 := by
  have hx := (lane 32 rs (2 * i)).isLt
  have hy := (lane 32 rt (2 * i)).isLt
  generalize hxn : (lane 32 rs (2 * i)).toNat = x at hx
  generalize hyn : (lane 32 rt (2 * i)).toNat = y at hy
  have hlt : x * y < 2 ^ 64 :=
    calc x * y ≤ 2 ^ 32 * y := Nat.mul_le_mul_right y (Nat.le_of_lt hx)
      _ < 2 ^ 32 * 2 ^ 32 := Nat.mul_lt_mul_of_pos_left hy (by decide)
  have hproduct : (unsignedProduct rs rt i).toNat = x * y := by
    rw [unsignedProduct, BitVec.toNat_mul, BitVec.toNat_setWidth, BitVec.toNat_setWidth, hxn, hyn,
      Nat.mod_eq_of_lt (by omega : x < 2 ^ 64), Nat.mod_eq_of_lt (by omega : y < 2 ^ 64),
      Nat.mod_eq_of_lt hlt]
  have htwice : 2 * (x * y) % 2 ^ 64 = 0 := by
    have := congrArg BitVec.toNat h
    rwa [BitVec.toNat_mul, hproduct] at this
  have hne : x * y ≠ 2 ^ 63 := by
    intro heq
    obtain ⟨a, -, ha⟩ := (Nat.dvd_prime_pow Nat.prime_two).mp (Dvd.intro y heq)
    obtain ⟨b, -, hb⟩ := (Nat.dvd_prime_pow Nat.prime_two).mp (Dvd.intro_left x heq)
    rw [ha] at hx
    rw [hb] at hy
    rw [ha, hb, ← Nat.pow_add] at heq
    have hab : a + b = 63 := Nat.pow_right_injective (Nat.le_refl 2) heq
    have ha32 := (Nat.pow_lt_pow_iff_right (by decide : 1 < 2)).mp hx
    have hb32 := (Nat.pow_lt_pow_iff_right (by decide : 1 < 2)).mp hy
    omega
  apply BitVec.eq_of_toNat_eq
  rw [hproduct]
  show x * y = 0
  omega

theorem pmadduw_lanewise_iff :
    Lanewise rs rt s (translatePMADDUW rs rt s) .PMADDUW ↔ MeetsLanes rs rt s .PMADDUW := by
  obtain ⟨h0, h1, h2, h3⟩ := @lanes_mulEpu32 rs rt
  have hacc : translatePMADDUW rs rt s = writeAccumulator s (s.accumulator0 +
      unsignedProduct rs rt 0 + 2 * unsignedProduct rs rt 1) := by
    unfold translatePMADDUW
    dsimp only
    rw [h0, h1, h2, h3, MultiplyState.accumulator0]
    congr 1
    bv_omega
  rw [Lanewise, MeetsLanes, hacc, wordLanes_writeAccumulator_iff]
  have hsum : s.accumulator0 + unsignedProduct rs rt 0 + 2 * unsignedProduct rs rt 1 =
      s.accumulator0 + unsignedProduct rs rt 0 ↔ unsignedProduct rs rt 1 = 0 := by
    refine ⟨fun h => two_mul_unsignedProduct (by bv_omega), fun h => ?_⟩
    rw [h]
    exact BitVec.add_zero _
  rw [hsum]
  refine and_congr_right fun hzero => ?_
  rw [hzero, show s.accumulator1 + 0 = s.accumulator1 from BitVec.add_zero _]

theorem pmsubw_lanewise_iff :
    Lanewise rs rt s (translatePMSUBW rs rt s) .PMSUBW ↔ MeetsLanes rs rt s .PMSUBW := by
  obtain ⟨h0, h1, h2, h3⟩ := @lanes_mulEpu32 rs rt
  have hacc : translatePMSUBW rs rt s = writeAccumulator s (s.accumulator0 -
      (unsignedProduct rs rt 0 + 2 * unsignedProduct rs rt 1)) := by
    unfold translatePMSUBW
    dsimp only
    rw [h0, h1, h2, h3, MultiplyState.accumulator0]
    congr 1
    bv_omega
  rw [Lanewise, MeetsLanes, hacc, wordLanes_writeAccumulator_iff]
  refine and_congr_left fun _ => ?_
  constructor <;> intro h <;> bv_omega

theorem pairSums_eq : pairSums rs rt = lowSums rs rt +
    (halfProduct rs rt 4 + halfProduct rs rt 5).signExtend 64 +
    (halfProduct rs rt 6 + halfProduct rs rt 7).signExtend 64 := by
  have hprod : ∀ i < 4, lane 32 (maddEpi16 rs rt) i =
      halfProduct rs rt (2 * i) + halfProduct rs rt (2 * i + 1) := fun i hi => lane_ofLanes _ hi
  have hshift : ∀ k < 4, lane 32 (bsrliSi128 (maddEpi16 rs rt) (4 * k)) 0 =
      halfProduct rs rt (2 * k) + halfProduct rs rt (2 * k + 1) := fun k hk => by
    rw [lane_bsrliSi128 _ (by omega : 8 * (4 * k) = 32 * k), Nat.zero_add, hprod k hk]
  unfold pairSums lowSums
  dsimp only
  rw [hprod 0 (by decide), hshift 1 (by decide), hshift 2 (by decide), hshift 3 (by decide)]

theorem halfLanes_writeAccumulator_iff {acc : BitVec 64}
    {combine : BitVec 32 → BitVec 32 → BitVec 32} (hkeep : ∀ w h, w = combine w h ↔ h = 0) :
    HalfLanes s (writeAccumulator s acc) (fun i => combine (s.word i) (halfProduct rs rt i)) ↔
      OneSum rs rt s combine acc := by
  have hlo1 : ∀ h4 h5, s.lo1 = combine (s.word 5) h5 ++ combine (s.word 4) h4 ↔ h5 = 0 ∧ h4 = 0 :=
    fun h4 h5 => by rw [eq_iff_words, ← hkeep (s.word 5), ← hkeep (s.word 4)]; rfl
  have hhi1 : ∀ h6 h7, s.hi1 = combine (s.word 7) h7 ++ combine (s.word 6) h6 ↔ h7 = 0 ∧ h6 = 0 :=
    fun h6 h7 => by rw [eq_iff_words, ← hkeep (s.word 7), ← hkeep (s.word 6)]; rfl
  constructor
  · intro h
    obtain ⟨hodd1, hlow⟩ := setWidth_eq_append_iff.mp h.lo
    obtain ⟨hodd3, hhigh⟩ := setWidth_eq_append_iff.mp h.hi
    obtain ⟨h5, h4⟩ := (hlo1 _ _).mp h.lo1
    obtain ⟨h7, h6⟩ := (hhi1 _ _).mp h.hi1
    have hacc := eq_iff_words.mpr ⟨hhigh, hlow⟩
    refine ⟨fun i hlo hhi => ?_, ⟨hodd1, hodd3⟩, hacc, fun old hold => ?_⟩
    · rcases (by omega : i = 4 ∨ i = 5 ∨ i = 6 ∨ i = 7) with rfl | rfl | rfl | rfl
      · exact h4
      · exact h5
      · exact h6
      · exact h7
    · have hrd := map_eq_map_iff.mp h.rd old hold
      rw [h4, h6, ← (hkeep (s.word 4) 0).mpr rfl, ← (hkeep (s.word 6) 0).mpr rfl, hacc,
        append_words] at hrd
      exact (append_inj.mp (append_inj.mp hrd).1).1
  · intro h
    refine ⟨setWidth_eq_append_iff.mpr ⟨h.odd.1, (eq_iff_words.mp h.sum).2⟩,
      setWidth_eq_append_iff.mpr ⟨h.odd.2, (eq_iff_words.mp h.sum).1⟩,
      (hlo1 _ _).mpr ⟨h.upper 5 (by decide) (by decide), h.upper 4 (by decide) (by decide)⟩,
      (hhi1 _ _).mpr ⟨h.upper 7 (by decide) (by decide), h.upper 6 (by decide) (by decide)⟩, ?_⟩
    refine map_eq_map_iff.mpr fun old hold => ?_
    rw [h.rd old hold, h.upper 4 (by decide) (by decide), h.upper 6 (by decide) (by decide),
      ← (hkeep (s.word 4) 0).mpr rfl, ← (hkeep (s.word 6) 0).mpr rfl, h.sum]
    exact append_words _ _ _

/-- With the upper products zero the sum is that of the low ones. -/
theorem oneSum_pairSums_iff {combine : BitVec 32 → BitVec 32 → BitVec 32}
    (f : BitVec 64 → BitVec 64) :
    OneSum rs rt s combine (f (pairSums rs rt)) ↔ OneSum rs rt s combine (f (lowSums rs rt)) := by
  have heq : (∀ i, 4 ≤ i → i < 8 → halfProduct rs rt i = 0) → pairSums rs rt = lowSums rs rt := by
    intro h
    have hzero : ((0 : BitVec 32) + 0).signExtend 64 = 0#64 := by decide
    rw [pairSums_eq, h 4 (by decide) (by decide), h 5 (by decide) (by decide),
      h 6 (by decide) (by decide), h 7 (by decide) (by decide), hzero, BitVec.add_zero,
      BitVec.add_zero]
  constructor
  · intro h
    exact ⟨h.upper, h.odd, heq h.upper ▸ h.sum, h.rd⟩
  · intro h
    exact ⟨h.upper, h.odd, (heq h.upper).symm ▸ h.sum, h.rd⟩

theorem pmaddh_lanewise_iff :
    Lanewise rs rt s (translatePMADDH rs rt s) .PMADDH ↔ MeetsLanes rs rt s .PMADDH := by
  rw [Lanewise, MeetsLanes, ← oneSum_pairSums_iff (s.accumulator0 + ·)]
  exact halfLanes_writeAccumulator_iff fun w h => by constructor <;> intro heq <;> bv_omega

theorem pmsubh_lanewise_iff :
    Lanewise rs rt s (translatePMSUBH rs rt s) .PMSUBH ↔ MeetsLanes rs rt s .PMSUBH := by
  rw [Lanewise, MeetsLanes, ← oneSum_pairSums_iff (s.accumulator0 - ·)]
  exact halfLanes_writeAccumulator_iff fun w h => by constructor <;> intro heq <;> bv_omega

end Accumulator

/-! ## Divisions -/

section Division

variable {rs rt : M128i} {s : MultiplyState}

theorem lowWord_setWidth (v : BitVec 32) : Ps2LowWord (v.setWidth 64) = v := by
  apply BitVec.eq_of_getLsbD_eq
  intro i hi
  rw [Ps2LowWord, getLsbD_lane _ _ hi, BitVec.getLsbD_setWidth, Nat.mul_zero, Nat.zero_add,
    decide_eq_true (by omega), Bool.true_and]

theorem divideLanes_setU32_iff {quotient remainder : BitVec 32 → BitVec 32 → BitVec 32}
    {lo hi : BitVec 64} {written : BitVec 32}
    (hlanes : lane 32 rt 0 ≠ 0 → lo = (quotient (lane 32 rs 0) (lane 32 rt 0)).setWidth 64 ∧
      hi = (remainder (lane 32 rs 0) (lane 32 rt 0)).setWidth 64)
    (hwritten : Ps2LowWord lo = written) :
    DivideLanes rs rt s ({ s with lo := lo, hi := hi }.setU32 lo) quotient remainder ↔
      OneDivision rs rt s quotient remainder written := by
  have hrd : ∀ old : M128i, lane 64 old 1 ++ written.signExtend 64 = old ↔
      lane 64 old 0 = written.signExtend 64 := by
    intro old
    constructor
    · intro h
      exact (append_inj.mp (h.trans (upper_append_lower old).symm)).2.symm
    · intro h
      rw [← h, upper_append_lower]
  constructor
  · intro h
    refine ⟨fun hne => ?_, h.lane1, fun old hold => ?_⟩
    · obtain ⟨hq, hm⟩ := h.lane0 hne
      obtain ⟨hlo, hhi⟩ := hlanes hne
      have hq' : lo = _ := hq
      have hm' : hi = _ := hm
      rw [hlo] at hq'
      rw [hhi] at hm'
      exact ⟨(setWidth_eq_signExtend_iff.mp hq').2, (setWidth_eq_signExtend_iff.mp hm').2⟩
    · have hkept := map_eq_self_iff.mp h.rd old hold
      rw [hwritten] at hkept
      exact (hrd old).mp hkept
  · intro h
    refine ⟨fun hne => ?_, h.lane1, map_eq_self_iff.mpr fun old hold => ?_⟩
    · obtain ⟨hq, hm⟩ := h.lane0 hne
      obtain ⟨hlo, hhi⟩ := hlanes hne
      exact ⟨hlo.trans (setWidth_eq_signExtend_iff.mpr ⟨rfl, hq⟩),
        hhi.trans (setWidth_eq_signExtend_iff.mpr ⟨rfl, hm⟩)⟩
    · rw [hwritten]
      exact (hrd old).mpr (h.rd old hold)

theorem pdivw_lanewise_iff :
    Lanewise rs rt s (translatePDIVW rs rt s) .PDIVW ↔ MeetsLanes rs rt s .PDIVW := by
  rw [Lanewise, MeetsLanes]
  unfold translatePDIVW
  dsimp only
  by_cases hzero : lane 32 rt 0 = 0
  · rw [if_neg (not_not.mpr hzero), if_pos hzero]
    refine divideLanes_setU32_iff (fun hne => absurd hzero hne) ?_
    split <;> rfl
  · rw [if_pos hzero, if_neg hzero]
    split
    · next hmin =>
      refine divideLanes_setU32_iff (fun _ => ?_) ?_
      · rw [hmin.1, hmin.2]
        exact ⟨by decide, by decide⟩
      · rw [hmin.1, hmin.2]
        decide
    · exact divideLanes_setU32_iff (fun _ => ⟨rfl, rfl⟩) (lowWord_setWidth _)

theorem pdivuw_lanewise_iff :
    Lanewise rs rt s (translatePDIVUW rs rt s) .PDIVUW ↔ MeetsLanes rs rt s .PDIVUW := by
  rw [Lanewise, MeetsLanes]
  unfold translatePDIVUW
  dsimp only
  by_cases hzero : lane 32 rt 0 = 0
  · rw [if_neg (not_not.mpr hzero), if_pos hzero]
    exact divideLanes_setU32_iff (fun hne => absurd hzero hne) (by decide)
  · rw [if_pos hzero, if_neg hzero]
    exact divideLanes_setU32_iff (fun _ => ⟨rfl, rfl⟩) (lowWord_setWidth _)

theorem lane_append_words (a b c d : BitVec 32) {i : ℕ} (hi : i < 4) :
    lane 32 (a ++ b ++ c ++ d : M128i) i =
      if i = 0 then d else if i = 1 then c else if i = 2 then b else a := by
  apply BitVec.eq_of_getLsbD_eq
  intro j hj
  rw [getLsbD_lane _ _ hj, BitVec.getLsbD_append, BitVec.getLsbD_append, BitVec.getLsbD_append]
  rcases (by omega : i = 0 ∨ i = 1 ∨ i = 2 ∨ i = 3) with rfl | rfl | rfl | rfl
  · rw [if_pos (by omega), if_pos rfl, Nat.mul_zero, Nat.zero_add]
  · rw [if_neg (by omega), if_pos (by omega), if_neg (by decide), if_pos rfl,
      show 32 * 1 + j - 32 = j by omega]
  · rw [if_neg (by omega), if_neg (by omega), if_pos (by omega), if_neg (by decide),
      if_neg (by decide), if_pos rfl, show 32 * 2 + j - 32 - 32 = j by omega]
  · rw [if_neg (by omega), if_neg (by omega), if_neg (by omega), if_neg (by decide),
      if_neg (by decide), if_neg (by decide), show 32 * 3 + j - 32 - 32 - 32 = j by omega]

theorem halfDivisor_of_zero (h : lane 32 rt 0 = 0) : halfDivisor rt = 0 := by
  have hhalf : lane 16 rt 0 = 0 := by
    apply BitVec.eq_of_getLsbD_eq
    intro j hj
    have hbit := congrArg (fun x => x.getLsbD j) h
    simp only [getLsbD_lane _ _ (by omega : j < 32)] at hbit
    rw [getLsbD_lane _ _ hj]
    exact hbit.trans (BitVec.getLsbD_zero.trans BitVec.getLsbD_zero.symm)
  rw [halfDivisor, hhalf]
  decide

/-- Only zero has quotient and remainder zero. -/
theorem sdiv_srem_eq_zero_iff {x d : BitVec 32} :
    x.sdiv d = 0 ∧ x.srem d = 0 ↔ x = 0 := by
  constructor
  · rintro ⟨hq, hm⟩
    have hrem : x.toInt.tmod d.toInt = 0 := by
      rw [← BitVec.toInt_srem, hm]
      rfl
    by_cases hover : x ≠ BitVec.intMin 32 ∨ d ≠ -1#32
    · have hquot : x.toInt.tdiv d.toInt = 0 := by
        rw [← BitVec.toInt_sdiv_of_ne_or_ne x d hover, hq]
        rfl
      have hsum := Int.mul_tdiv_add_tmod x.toInt d.toInt
      rw [hquot, hrem] at hsum
      apply BitVec.eq_of_toInt_eq
      rw [← hsum, Int.mul_zero]
      rfl
    · -- the one overflow has the smallest number for its quotient
      rw [not_or, not_not, not_not] at hover
      rw [hover.1, hover.2] at hq
      exact absurd hq (by decide)
  · rintro rfl
    exact ⟨BitVec.zero_sdiv, BitVec.zero_srem⟩

theorem pdivbw_lanewise_iff :
    (∃ r, translatePDIVBW rs rt s = some r ∧ Lanewise rs rt s r .PDIVBW) ↔
      MeetsLanes rs rt s .PDIVBW := by
  have hany : ((List.range 4).any fun i => decide (lane 32 rs i = INT32_MIN)) = true ↔
      ∃ i < 4, lane 32 rs i = INT32_MIN := by
    simp [List.any_eq_true]
  have hvec : ∀ (old : M128i) (q : ℕ → BitVec 32), q 3 ++ q 2 ++ q 1 ++ q 0 = old ↔
      ∀ i < 4, lane 32 old i = q i := by
    intro old q
    constructor
    · rintro rfl i hi
      rw [lane_append_words _ _ _ _ hi]
      rcases (by omega : i = 0 ∨ i = 1 ∨ i = 2 ∨ i = 3) with rfl | rfl | rfl | rfl <;> rfl
    · intro h
      refine eq_of_lane (w := 32) (n := 4) fun i hi => ?_
      rw [lane_append_words _ _ _ _ hi, h i hi]
      rcases (by omega : i = 0 ∨ i = 1 ∨ i = 2 ∨ i = 3) with rfl | rfl | rfl | rfl <;> rfl
  rw [MeetsLanes]
  unfold translatePDIVBW
  dsimp only
  by_cases hzero : lane 32 rt 0 = 0
  · rw [if_neg (not_not.mpr hzero)]
    have hdivisor := halfDivisor_of_zero hzero
    have hrd : ∀ old : M128i, (0 : M128i) = old ↔
        ∀ i < 4, lane 32 old i = (lane 32 rs i).sdiv (lane 32 rt 0) := fun old => by
      have hquot : ∀ i, (lane 32 rs i).sdiv 0 = 0#32 := fun i => BitVec.sdiv_zero
      simp only [hzero, hquot]
      exact hvec old fun _ => 0#32
    constructor
    · rintro ⟨r, hr, hlanes⟩
      rw [Option.some.injEq] at hr
      subst hr
      refine ⟨fun hneg => ?_, fun hne => absurd hdivisor hne, fun old hold => ?_⟩
      · rw [hzero] at hneg
        exact absurd hneg (by decide)
      · exact (hrd old).mp (map_eq_self_iff.mp hlanes.rd old hold)
    · intro h
      refine ⟨_, rfl, fun hne => absurd hdivisor hne, ?_⟩
      exact map_eq_self_iff.mpr fun old hold => (hrd old).mpr (h.rd old hold)
  · rw [if_pos hzero]
    by_cases hover : lane 32 rt 0 = -1 ∧
        ((List.range 4).any fun i => decide (lane 32 rs i = INT32_MIN)) = true
    · rw [if_pos hover]
      constructor
      · rintro ⟨r, hr, -⟩
        cases hr
      · intro h
        obtain ⟨i, hi, hmin⟩ := hany.mp hover.2
        exact absurd hmin (h.defined hover.1 i hi)
    · rw [if_neg hover]
      constructor
      · rintro ⟨r, hr, hlanes⟩
        rw [Option.some.injEq] at hr
        subst hr
        refine ⟨fun hneg i hi hmin => hover ⟨hneg, hany.mpr ⟨i, hi, hmin⟩⟩, fun hne => ?_,
          fun old hold => ?_⟩
        · obtain ⟨hlo, hhi, hlo1, hhi1⟩ := hlanes.lanes hne
          obtain ⟨hq1, hq0⟩ := setWidth_eq_append_iff.mp hlo
          obtain ⟨hm1, hm0⟩ := setWidth_eq_append_iff.mp hhi
          exact ⟨sdiv_srem_eq_zero_iff.mp ⟨hq1, hm1⟩, hq0, hm0, hlo1, hhi1⟩
        · exact (hvec old fun i => (lane 32 rs i).sdiv (lane 32 rt 0)).mp
            (map_eq_self_iff.mp hlanes.rd old hold)
      · intro h
        refine ⟨_, rfl, fun hne => ?_, ?_⟩
        · obtain ⟨hrs1, hq0, hm0, hlo1, hhi1⟩ := h.lanes hne
          obtain ⟨hq1, hm1⟩ := (sdiv_srem_eq_zero_iff (d := halfDivisor rt)).mpr hrs1
          exact ⟨setWidth_eq_append_iff.mpr ⟨hq1, hq0⟩, setWidth_eq_append_iff.mpr ⟨hm1, hm0⟩,
            hlo1, hhi1⟩
        · exact map_eq_self_iff.mpr fun old hold =>
            (hvec old fun i => (lane 32 rs i).sdiv (lane 32 rt 0)).mpr (h.rd old hold)

end Division

/-! ## All of them -/

section Products

variable (rs rt : M128i) (s : MultiplyState)

theorem pmultw_lanewise : Lanewise rs rt s (translatePMULTW rs rt s) .PMULTW :=
  ⟨rfl, rfl, rfl, rfl, rfl⟩

theorem pmultuw_lanewise : Lanewise rs rt s (translatePMULTUW rs rt s) .PMULTUW :=
  ⟨rfl, rfl, rfl, rfl, rfl⟩

theorem pmulth_lanewise : Lanewise rs rt s (translatePMULTH rs rt s) .PMULTH :=
  ⟨rfl, rfl, rfl, rfl, rfl⟩

end Products

/-- An instruction whose emitted code divides nothing undefinedly has one result. -/
theorem exists_some_and_iff {α : Type*} {a : α} {p : α → Prop} :
    (∃ r, some a = some r ∧ p r) ↔ p a := by
  constructor
  · rintro ⟨r, hr, hp⟩
    rw [Option.some.injEq] at hr
    exact hr ▸ hp
  · exact fun hp => ⟨a, rfl, hp⟩

end Ps2Recomp
