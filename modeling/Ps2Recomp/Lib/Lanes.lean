import Mathlib.Data.Nat.Notation

/-!
# Lanes of a bit vector

A vector of `n` lanes of `w` bits is a bit vector of `w * n` bits, lane `0` at the low end. `ofLanes`
puts lanes together, `lane` takes one out, and a vector is its lanes (`eq_of_lane`). Bitwise
operations act lane by lane (`lane_and` and the others), also through a mask whose lanes are all ones
or all zeros (`lane_select`).
-/

namespace Lanes

variable {N w n : ℕ}

/-- Lane `i` of `w` bits. -/
def lane (w : ℕ) (v : BitVec N) (i : ℕ) : BitVec w := v.extractLsb' (w * i) w

/-- The vector with the lanes `f 0`, …, `f (n - 1)`. -/
def ofLanes (w : ℕ) : (n : ℕ) → (ℕ → BitVec w) → BitVec (w * n)
  | 0, _ => 0
  | n + 1, f => (f n ++ ofLanes w n f).cast (by rw [Nat.mul_succ, Nat.add_comm])

theorem getLsbD_lane (v : BitVec N) (i : ℕ) {j : ℕ} (hj : j < w) :
    (lane w v i).getLsbD j = v.getLsbD (w * i + j) := by
  rw [lane, BitVec.getLsbD_extractLsb', decide_eq_true hj, Bool.true_and]

theorem getLsbD_ofLanes (f : ℕ → BitVec w) {i : ℕ} (hi : i < w * n) :
    (ofLanes w n f).getLsbD i = (f (i / w)).getLsbD (i % w) := by
  induction n with
  | zero => exact absurd hi (Nat.not_lt_zero i)
  | succ n ih =>
    rw [ofLanes, BitVec.getLsbD_cast, BitVec.getLsbD_append]
    split
    · next hlow => exact ih hlow
    · next hhigh =>
      rw [Nat.mul_succ] at hi
      have hdiv : i / w = n := by
        rw [Nat.div_eq_of_lt_le]
        · rw [Nat.mul_comm]
          exact Nat.not_lt.mp hhigh
        · rw [Nat.succ_mul, Nat.mul_comm]
          exact hi
      have hmod : i - w * n = i % w := by
        rw [Nat.mod_eq_sub_mul_div, hdiv]
      rw [hdiv, hmod]

theorem lane_ofLanes (f : ℕ → BitVec w) {i : ℕ} (hi : i < n) : lane w (ofLanes w n f) i = f i := by
  apply BitVec.eq_of_getLsbD_eq
  intro j hj
  have hle : w * i + w ≤ w * n := by
    rw [← Nat.mul_succ]
    exact Nat.mul_le_mul_left w hi
  have hdiv : (w * i + j) / w = i := by
    rw [Nat.mul_add_div (by omega), Nat.div_eq_of_lt hj, Nat.add_zero]
  rw [getLsbD_lane _ _ hj, getLsbD_ofLanes f (by omega), hdiv, Nat.mul_add_mod,
    Nat.mod_eq_of_lt hj]

theorem eq_of_lane {a b : BitVec (w * n)} (h : ∀ i < n, lane w a i = lane w b i) : a = b := by
  apply BitVec.eq_of_getLsbD_eq
  intro j hj
  have hw : 0 < w := Nat.pos_of_ne_zero fun hzero => by
    rw [hzero, Nat.zero_mul] at hj
    exact Nat.not_lt_zero j hj
  have hbit := congrArg (fun x => x.getLsbD (j % w))
    (h (j / w) (Nat.div_lt_of_lt_mul hj))
  simp only [getLsbD_lane _ _ (Nat.mod_lt j hw), Nat.div_add_mod] at hbit
  exact hbit

@[simp] theorem lane_and (a b : BitVec N) (i : ℕ) : lane w (a &&& b) i = lane w a i &&& lane w b i :=
  BitVec.extractLsb'_and

@[simp] theorem lane_or (a b : BitVec N) (i : ℕ) : lane w (a ||| b) i = lane w a i ||| lane w b i :=
  BitVec.extractLsb'_or

@[simp] theorem lane_xor (a b : BitVec N) (i : ℕ) : lane w (a ^^^ b) i = lane w a i ^^^ lane w b i :=
  BitVec.extractLsb'_xor

theorem lane_not (a : BitVec (w * n)) {i : ℕ} (hi : i < n) : lane w (~~~a) i = ~~~lane w a i := by
  have hle : w * i + w ≤ w * n := by
    rw [← Nat.mul_succ]
    exact Nat.mul_le_mul_left w hi
  apply BitVec.eq_of_getLsbD_eq
  intro j hj
  rw [getLsbD_lane _ _ hj, BitVec.getLsbD_not, BitVec.getLsbD_not, getLsbD_lane _ _ hj,
    decide_eq_true hj, decide_eq_true (by omega)]

/-- The sign of a lane in every bit of it. -/
def signMask (x : BitVec w) : BitVec w := x.sshiftRight (w - 1)

theorem signMask_eq (x : BitVec w) : signMask x = if x.msb then BitVec.allOnes w else 0#w := by
  apply BitVec.eq_of_getLsbD_eq
  intro i hi
  have hlast : x.getLsbD (w - 1) = x.msb := (BitVec.msb_eq_getLsbD_last x).symm
  rw [signMask, BitVec.getLsbD_sshiftRight, decide_eq_false (by omega : ¬w ≤ i), Bool.not_false,
    Bool.true_and]
  have hbit : (if w - 1 + i < w then x.getLsbD (w - 1 + i) else x.msb) = x.msb := by
    split
    · rw [show w - 1 + i = w - 1 by omega, hlast]
    · rfl
  rw [hbit]
  split <;> rename_i hmsb
  · rw [hmsb, BitVec.getLsbD_allOnes, decide_eq_true hi]
  · rw [BitVec.getLsbD_zero]
    exact Bool.eq_false_iff.mpr hmsb

/-- Bitwise selection by a mask of ones or zeros. -/
theorem select_allOnes (p : Bool) (a b : BitVec w) :
    ((if p then BitVec.allOnes w else 0#w) &&& a) |||
      (~~~(if p then BitVec.allOnes w else 0#w) &&& b) = if p then a else b := by
  cases p <;> simp

end Lanes
