import Mathlib.Data.Nat.Bitwise

/-!
# Bits of a byte memory

A memory gives a byte for every address. `load` reads a little-endian number, `store` writes one.
Both are described by the single bits: bit `i` of the memory is bit `i % 8` of byte `i / 8`.
-/

namespace BitMemory

/-- The bytes from a host pointer on. -/
abbrev Memory := Nat → UInt8

variable {m m' : Memory}

def bit (m : Memory) (i : Nat) : Bool := (m (i / 8)).toNat.testBit (i % 8)

/-- The little-endian number in the `count` bytes at `addr`. -/
def load (m : Memory) (addr : Nat) : Nat → Nat
  | 0 => 0
  | count + 1 => (m addr).toNat + 2 ^ 8 * load m (addr + 1) count

/-- Write the low `count` bytes of `value` at `addr`. -/
def store (m : Memory) (addr count value : Nat) : Memory := fun a =>
  if addr ≤ a ∧ a < addr + count then UInt8.ofNat (value >>> (8 * (a - addr))) else m a

theorem ext_bit (h : ∀ i, bit m i = bit m' i) : m = m' := by
  funext a
  apply UInt8.toNat_inj.1
  apply Nat.eq_of_testBit_eq
  intro j
  by_cases hj : j < 8
  · have hbit := h (8 * a + j)
    simp only [bit] at hbit
    rwa [show (8 * a + j) / 8 = a by omega, show (8 * a + j) % 8 = j by omega] at hbit
  · have hpow : 2 ^ 8 ≤ 2 ^ j := Nat.pow_le_pow_right (by decide) (by omega)
    rw [Nat.testBit_lt_two_pow ((UInt8.toNat_lt _).trans_le hpow),
      Nat.testBit_lt_two_pow ((UInt8.toNat_lt _).trans_le hpow)]

theorem load_lt (m : Memory) (addr count : Nat) : load m addr count < 2 ^ (8 * count) := by
  induction count generalizing addr with
  | zero => exact Nat.one_pos
  | succ count ih =>
    have hbyte := (m addr).toNat_lt
    have hrest := ih (addr + 1)
    have hpow : 2 ^ (8 * (count + 1)) = 2 ^ 8 * 2 ^ (8 * count) := by
      rw [← Nat.pow_add, Nat.mul_succ, Nat.add_comm]
    rw [load, hpow]
    omega

/-- **The bits of a loaded number.** -/
theorem testBit_load (m : Memory) (addr count j : Nat) :
    (load m addr count).testBit j = (decide (j < 8 * count) && bit m (8 * addr + j)) := by
  induction count generalizing addr j with
  | zero => simp [load]
  | succ count ih =>
    rw [load, Nat.add_comm, Nat.testBit_two_pow_mul_add _ (UInt8.toNat_lt _), ih]
    split
    next hj =>
      simp only [bit, show (8 * addr + j) / 8 = addr by omega, show (8 * addr + j) % 8 = j by omega,
        show j < 8 * (count + 1) by omega, decide_true, Bool.true_and]
    next hj =>
      rw [show 8 * (addr + 1) + (j - 8) = 8 * addr + j by omega]
      congr 1
      exact decide_eq_decide.2 (by omega)

/-- **The bits after a store.** -/
theorem bit_store (m : Memory) (addr count value i : Nat) :
    bit (store m addr count value) i =
      if 8 * addr ≤ i ∧ i < 8 * addr + 8 * count then value.testBit (i - 8 * addr) else bit m i := by
  have hrange : (addr ≤ i / 8 ∧ i / 8 < addr + count) ↔
      (8 * addr ≤ i ∧ i < 8 * addr + 8 * count) := by omega
  simp only [bit, store, hrange]
  split
  next h =>
    rw [UInt8.toNat_ofNat', Nat.testBit_mod_two_pow, Nat.testBit_shiftRight,
      show 8 * (i / 8 - addr) + i % 8 = i - 8 * addr by omega]
    simp [Nat.mod_lt]
  next h => rfl

/-- Byte `i` of a number, from the low end. -/
def byteOf (value i : Nat) : UInt8 := UInt8.ofNat (value >>> (8 * i))

theorem byteOf_eq_of_testBit {x y i k : Nat}
    (h : ∀ j < 8, x.testBit (8 * i + j) = y.testBit (8 * k + j)) : byteOf x i = byteOf y k := by
  apply UInt8.toNat_inj.1
  apply Nat.eq_of_testBit_eq
  intro j
  rw [byteOf, byteOf, UInt8.toNat_ofNat', UInt8.toNat_ofNat', Nat.testBit_mod_two_pow,
    Nat.testBit_mod_two_pow, Nat.testBit_shiftRight, Nat.testBit_shiftRight]
  by_cases hj : j < 8
  · rw [h j hj]
  · rw [decide_eq_false hj, Bool.false_and, Bool.false_and]

theorem testBit_byteOf {value i j : Nat} (hj : j < 8) :
    (byteOf value i).toNat.testBit j = value.testBit (8 * i + j) := by
  rw [byteOf, UInt8.toNat_ofNat', Nat.testBit_mod_two_pow, Nat.testBit_shiftRight,
    decide_eq_true hj, Bool.true_and]

theorem byteOf_load {addr count i : Nat} (hi : i < count) :
    byteOf (load m addr count) i = m (addr + i) := by
  apply UInt8.toNat_inj.1
  apply Nat.eq_of_testBit_eq
  intro j
  by_cases hj : j < 8
  · rw [testBit_byteOf hj, testBit_load, bit, decide_eq_true (by omega), Bool.true_and]
    rw [show (8 * addr + (8 * i + j)) / 8 = addr + i by omega,
      show (8 * addr + (8 * i + j)) % 8 = j by omega]
  · have hpow : 2 ^ 8 ≤ 2 ^ j := Nat.pow_le_pow_right (by decide) (by omega)
    rw [Nat.testBit_lt_two_pow ((UInt8.toNat_lt _).trans_le hpow),
      Nat.testBit_lt_two_pow ((UInt8.toNat_lt _).trans_le hpow)]

/-- The bytes of a number determine it. -/
theorem eq_of_byteOf {count x y : Nat} (hx : x < 2 ^ (8 * count)) (hy : y < 2 ^ (8 * count))
    (h : ∀ i < count, byteOf x i = byteOf y i) : x = y := by
  apply Nat.eq_of_testBit_eq
  intro j
  by_cases hj : j < 8 * count
  · have hbyte := h (j / 8) (by omega)
    have hbit := congrArg (fun b => b.toNat.testBit (j % 8)) hbyte
    simp only [testBit_byteOf (Nat.mod_lt j (by decide : 0 < 8))] at hbit
    rwa [show 8 * (j / 8) + j % 8 = j by omega] at hbit
  · have hpow : 2 ^ (8 * count) ≤ 2 ^ j := Nat.pow_le_pow_right (by decide) (by omega)
    rw [Nat.testBit_lt_two_pow (hx.trans_le hpow), Nat.testBit_lt_two_pow (hy.trans_le hpow)]

end BitMemory
