import Ps2Recomp.Memory.GuestMemory
import Ps2Recomp.Recomp.GeneralRegisters

/-!
# Unaligned loads and stores (`instruction_translator.cpp`)

What the translator emits for `LDL`, `LDR`, `LWL`, `LWR` and the stores beside them, of an
instruction that the configuration does not mark as a register access. Each accesses the aligned
unit around its address. A left load takes the bytes of the unit up to the address for the upper
part of the register, a right load those from the address on for the lower part (`byteOf_mergeLeft`,
`byteOf_mergeRight`); the stores go the other way .
-/

namespace Ps2Recomp.Recompiler

open BitMemory GuestMemory

/-! ## The emitted code -/

section Code

variable {w : ℕ} (count offset : ℕ)

/-- What `LDL` and `LWL` merge, for a unit of `count` bytes. -/
def mergeLeft (old mem : BitVec w) : BitVec w :=
  let shift := (count - 1 - offset) <<< 3
  let keepMask : BitVec w := if shift = 0 then 0 else (1#w <<< shift) - 1#w
  (old &&& keepMask) ||| (mem <<< shift)

/-- What `LDR` and `LWR` merge. -/
def mergeRight (old mem : BitVec w) : BitVec w :=
  let shift := offset <<< 3
  let keepMask : BitVec w :=
    if offset = 0 then 0 else BitVec.allOnes w <<< ((count - offset) <<< 3)
  (old &&& keepMask) ||| (mem >>> shift)

end Code

section Instructions

variable (rs rt : Fin 32) (simmediate : BitVec 32) (r : Gprs) (m : GuestMemory)

def ldl : Option Gprs :=
  let addr := r.u32 rs + simmediate
  let aligned_addr := addr &&& ~~~7#32
  let offset := (addr &&& 7#32).toNat
  (m.load 8 aligned_addr).map fun mem =>
    r.setU64 rt (mergeLeft 8 offset (r.u64 rt) (BitVec.ofNat 64 mem))

def ldr : Option Gprs :=
  let addr := r.u32 rs + simmediate
  let aligned_addr := addr &&& ~~~7#32
  let offset := (addr &&& 7#32).toNat
  (m.load 8 aligned_addr).map fun mem =>
    r.setU64 rt (mergeRight 8 offset (r.u64 rt) (BitVec.ofNat 64 mem))

def lwl : Option Gprs :=
  let addr := r.u32 rs + simmediate
  let aligned_addr := addr &&& ~~~3#32
  let offset := (addr &&& 3#32).toNat
  (m.load 4 aligned_addr).map fun mem =>
    r.setS32 rt (mergeLeft 4 offset (r.u32 rt) (BitVec.ofNat 32 mem))

def lwr : Option Gprs :=
  let addr := r.u32 rs + simmediate
  let aligned_addr := addr &&& ~~~3#32
  let offset := (addr &&& 3#32).toNat
  (m.load 4 aligned_addr).map fun mem =>
    let merged32 := mergeRight 4 offset (r.u32 rt) (BitVec.ofNat 32 mem)
    let merged64 := (r.u64 rt &&& 0xFFFFFFFF00000000#64) ||| merged32.setWidth 64
    let merged64 := if offset = 0 then merged32.signExtend 64 else merged64
    r.setU64 rt merged64

def swl : Option GuestMemory :=
  let addr := r.u32 rs + simmediate
  let aligned_addr := addr &&& ~~~3#32
  let offset := (addr &&& 3#32).toNat
  let shift := (3 - offset) <<< 3
  let byte_enable := BitVec.ofNat 8 (1 <<< (offset + 1) - 1)
  let value := r.u32 rt >>> shift
  m.storeMasked 4 aligned_addr value.toNat byte_enable

def swr : Option GuestMemory :=
  let addr := r.u32 rs + simmediate
  let aligned_addr := addr &&& ~~~3#32
  let offset := (addr &&& 3#32).toNat
  let shift := offset <<< 3
  let byte_enable := BitVec.ofNat 8 ((0xF <<< offset) &&& 0xF)
  let value := r.u32 rt <<< shift
  m.storeMasked 4 aligned_addr value.toNat byte_enable

def sdl : Option GuestMemory :=
  let addr := r.u32 rs + simmediate
  let aligned_addr := addr &&& ~~~7#32
  let offset := (addr &&& 7#32).toNat
  let shift := (7 - offset) <<< 3
  let byte_enable := BitVec.ofNat 8 (1 <<< (offset + 1) - 1)
  let value := r.u64 rt >>> shift
  m.storeMasked 8 aligned_addr value.toNat byte_enable

def sdr : Option GuestMemory :=
  let addr := r.u32 rs + simmediate
  let aligned_addr := addr &&& ~~~7#32
  let offset := (addr &&& 7#32).toNat
  let shift := offset <<< 3
  let byte_enable := BitVec.ofNat 8 ((0xFF <<< offset) &&& 0xFF)
  let value := r.u64 rt <<< shift
  m.storeMasked 8 aligned_addr value.toNat byte_enable

/-! The two instructions of a pair, in either order. -/

def loadPair64 (leftFirst : Bool) : Option Gprs :=
  if leftFirst then (ldl rs rt (simmediate + 7) r m).bind fun r => ldr rs rt simmediate r m
  else (ldr rs rt simmediate r m).bind fun r => ldl rs rt (simmediate + 7) r m

def loadPair32 (leftFirst : Bool) : Option Gprs :=
  if leftFirst then (lwl rs rt (simmediate + 3) r m).bind fun r => lwr rs rt simmediate r m
  else (lwr rs rt simmediate r m).bind fun r => lwl rs rt (simmediate + 3) r m

def storePair64 (leftFirst : Bool) : Option GuestMemory :=
  if leftFirst then (sdl rs rt (simmediate + 7) r m).bind fun m => sdr rs rt simmediate r m
  else (sdr rs rt simmediate r m).bind fun m => sdl rs rt (simmediate + 7) r m

def storePair32 (leftFirst : Bool) : Option GuestMemory :=
  if leftFirst then (swl rs rt (simmediate + 3) r m).bind fun m => swr rs rt simmediate r m
  else (swr rs rt simmediate r m).bind fun m => swl rs rt (simmediate + 3) r m

end Instructions

/-! ## The merged bytes -/

section Merge

variable {w count offset : ℕ} {old mem : BitVec w}

/-- The mask below bit `shift`. -/
theorem getLsbD_one_shiftLeft_sub_one {shift : ℕ} (hshift : shift < w) (j : ℕ) :
    (1#w <<< shift - 1#w).getLsbD j = decide (j < shift) := by
  have hone : (1#w).toNat = 1 := by
    rw [BitVec.toNat_ofNat, Nat.mod_eq_of_lt (Nat.one_lt_two_pow (by omega))]
  have hpow : 2 ^ shift < 2 ^ w := Nat.pow_lt_pow_right (by decide) hshift
  have hnat : (1#w <<< shift - 1#w).toNat = 2 ^ shift - 1 := by
    have hle : 1 ≤ 2 ^ shift := Nat.one_le_two_pow
    rw [BitVec.toNat_sub_of_le, BitVec.toNat_shiftLeft, hone, Nat.one_shiftLeft,
      Nat.mod_eq_of_lt hpow]
    rw [BitVec.le_def, BitVec.toNat_shiftLeft, hone, Nat.one_shiftLeft, Nat.mod_eq_of_lt hpow]
    exact hle
  rw [BitVec.getLsbD, hnat, Nat.testBit_two_pow_sub_one]

theorem getLsbD_mergeLeft (hw : w = 8 * count) (hoffset : offset < count) {j : ℕ} (hj : j < w) :
    (mergeLeft count offset old mem).getLsbD j =
      if j < 8 * (count - 1 - offset) then old.getLsbD j
      else mem.getLsbD (j - 8 * (count - 1 - offset)) := by
  have hshift : (count - 1 - offset) <<< 3 = 8 * (count - 1 - offset) := by
    rw [Nat.shiftLeft_eq, Nat.mul_comm]
  unfold mergeLeft
  dsimp only
  rw [hshift]
  generalize hs : 8 * (count - 1 - offset) = s
  rw [BitVec.getLsbD_or, BitVec.getLsbD_and, BitVec.getLsbD_shiftLeft]
  by_cases hzero : s = 0
  · simp [hzero, hj]
  rw [if_neg hzero, getLsbD_one_shiftLeft_sub_one (by omega)]
  by_cases hlt : j < s <;> simp [hlt, hj]

/-- A left merge keeps the low bytes of the register and takes the low bytes of the unit. -/
theorem byteOf_mergeLeft (hw : w = 8 * count) (hoffset : offset < count) {i : ℕ} (hi : i < count) :
    byteOf (mergeLeft count offset old mem).toNat i =
      if i < count - 1 - offset then byteOf old.toNat i
      else byteOf mem.toNat (i - (count - 1 - offset)) := by
  have hbits : ∀ j < 8, (mergeLeft count offset old mem).getLsbD (8 * i + j) =
      if i < count - 1 - offset then old.getLsbD (8 * i + j)
      else mem.getLsbD (8 * (i - (count - 1 - offset)) + j) := by
    intro j hj
    rw [getLsbD_mergeLeft hw hoffset (by omega)]
    by_cases hlt : i < count - 1 - offset
    · rw [if_pos (by omega), if_pos hlt]
    · rw [if_neg (by omega), if_neg hlt]
      congr 1
      omega
  split
  · exact byteOf_eq_of_testBit fun j hj => (hbits j hj).trans (if_pos ‹_›)
  · exact byteOf_eq_of_testBit fun j hj => (hbits j hj).trans (if_neg ‹_›)

theorem getLsbD_mergeRight (hw : w = 8 * count) (hoffset : offset < count) {j : ℕ} (hj : j < w) :
    (mergeRight count offset old mem).getLsbD j =
      if j < 8 * (count - offset) then mem.getLsbD (j + 8 * offset) else old.getLsbD j := by
  have hshift : ∀ n, n <<< 3 = 8 * n := fun n => by rw [Nat.shiftLeft_eq, Nat.mul_comm]
  unfold mergeRight
  dsimp only
  rw [hshift, hshift, BitVec.getLsbD_or, BitVec.getLsbD_and, BitVec.getLsbD_ushiftRight]
  by_cases hzero : offset = 0
  · subst hzero
    rw [if_pos rfl, if_pos (by omega)]
    simp
  rw [if_neg hzero, BitVec.getLsbD_shiftLeft, BitVec.getLsbD_allOnes]
  by_cases hlt : j < 8 * (count - offset)
  · simp [hlt, Nat.add_comm]
  · have hhigh : mem.getLsbD (8 * offset + j) = false := BitVec.getLsbD_of_ge _ _ (by omega)
    rw [if_neg hlt, hhigh, decide_eq_true hj, decide_eq_false hlt, decide_eq_true (by omega)]
    simp

/-- A right merge takes the high bytes of the unit and keeps the high bytes of the register. -/
theorem byteOf_mergeRight (hw : w = 8 * count) (hoffset : offset < count) {i : ℕ}
    (hi : i < count) :
    byteOf (mergeRight count offset old mem).toNat i =
      if i < count - offset then byteOf mem.toNat (i + offset) else byteOf old.toNat i := by
  have hbits : ∀ j < 8, (mergeRight count offset old mem).getLsbD (8 * i + j) =
      if i < count - offset then mem.getLsbD (8 * (i + offset) + j)
      else old.getLsbD (8 * i + j) := by
    intro j hj
    rw [getLsbD_mergeRight hw hoffset (by omega)]
    by_cases hlt : i < count - offset
    · rw [if_pos (by omega), if_pos hlt]
      congr 1
      omega
    · rw [if_neg (by omega), if_neg hlt]
  split
  · exact byteOf_eq_of_testBit fun j hj => (hbits j hj).trans (if_pos ‹_›)
  · exact byteOf_eq_of_testBit fun j hj => (hbits j hj).trans (if_neg ‹_›)

end Merge

/-! ## The unit around an address -/

/-- The aligned unit of `count` bytes that an address lies in, and its place there. -/
structure InUnit (count : ℕ) (addr aligned : BitVec 32) (offset : ℕ) : Prop where
  width : count = 4 ∨ count = 8
  aligned_mod : aligned.toNat % count = 0
  offset_eq : offset = addr.toNat % count
  add_offset : aligned.toNat + offset = addr.toNat

theorem toNat_and_not_add (x mask : BitVec 32) :
    (x &&& ~~~mask).toNat + (x &&& mask).toNat = x.toNat := by
  have hor : (x &&& ~~~mask) ||| (x &&& mask) = x := by
    ext i hi
    simp only [BitVec.getElem_or, BitVec.getElem_and, BitVec.getElem_not]
    cases x[i] <;> cases mask[i] <;> rfl
  have hand : (x &&& ~~~mask) &&& (x &&& mask) = 0#32 := by
    ext i hi
    simp only [BitVec.getElem_and, BitVec.getElem_not, BitVec.getElem_zero]
    cases x[i] <;> cases mask[i] <;> rfl
  rw [← BitVec.toNat_add_of_and_eq_zero hand, BitVec.add_eq_or_of_and_eq_zero _ _ hand, hor]

theorem inUnit_eight (x : BitVec 32) : InUnit 8 x (x &&& ~~~7#32) (x &&& 7#32).toNat := by
  have hoffset : (x &&& 7#32).toNat = x.toNat % 8 := by
    rw [BitVec.toNat_and]
    exact Nat.and_two_pow_sub_one_eq_mod x.toNat 3
  have hsum := toNat_and_not_add x 7#32
  exact ⟨.inr rfl, by omega, hoffset, hsum⟩

theorem inUnit_four (x : BitVec 32) : InUnit 4 x (x &&& ~~~3#32) (x &&& 3#32).toNat := by
  have hoffset : (x &&& 3#32).toNat = x.toNat % 4 := by
    rw [BitVec.toNat_and]
    exact Nat.and_two_pow_sub_one_eq_mod x.toNat 2
  have hsum := toNat_and_not_add x 3#32
  exact ⟨.inl rfl, by omega, hoffset, hsum⟩

/-- The bytes below this one are left to the right access of a pair at `a`. -/
def leftSplit (count : ℕ) (a : BitVec 32) : ℕ :=
  count - 1 - (a + BitVec.ofNat 32 (count - 1)).toNat % count

/-- The bytes from this one on are left to the left access. -/
def rightSplit (count : ℕ) (a : BitVec 32) : ℕ := count - a.toNat % count

/-- The accesses of a pair meet or overlap. -/
theorem leftSplit_le_rightSplit {count : ℕ} (hcount : count = 4 ∨ count = 8) (a : BitVec 32) :
    leftSplit count a ≤ rightSplit count a := by
  unfold leftSplit rightSplit
  rcases hcount with rfl | rfl <;> rw [BitVec.toNat_add, BitVec.toNat_ofNat] <;> omega

section Units

variable {count offset : ℕ} {a addr aligned : BitVec 32}

theorem InUnit.offset_lt (h : InUnit count addr aligned offset) : offset < count := by
  rw [h.offset_eq]
  rcases h.width with rfl | rfl <;> omega

/-- The unit of the last byte, counted from the first byte of a pair. -/
theorem InUnit.left (h : InUnit count (a + BitVec.ofNat 32 (count - 1)) aligned offset) :
    leftSplit count a = count - 1 - offset ∧
      ∀ i j, i < 8 → j < 8 → i = j + leftSplit count a →
        a + BitVec.ofNat 32 i = aligned + BitVec.ofNat 32 j := by
  have hlt := h.offset_lt
  have hsplit : leftSplit count a = count - 1 - offset := by rw [leftSplit, h.offset_eq]
  refine ⟨hsplit, fun i j hi hj hij => ?_⟩
  have hsum := h.add_offset
  rw [hsplit] at hij
  apply BitVec.eq_of_toNat_eq
  simp only [BitVec.toNat_add, BitVec.toNat_ofNat] at hsum ⊢
  rcases h.width with rfl | rfl <;> omega

theorem InUnit.right (h : InUnit count a aligned offset) :
    rightSplit count a = count - offset ∧
      ∀ i, i < 8 → a + BitVec.ofNat 32 i = aligned + BitVec.ofNat 32 (i + offset) := by
  have hlt := h.offset_lt
  refine ⟨by rw [rightSplit, h.offset_eq], fun i hi => ?_⟩
  have hsum := h.add_offset
  apply BitVec.eq_of_toNat_eq
  simp only [BitVec.toNat_add, BitVec.toNat_ofNat]
  rcases h.width with rfl | rfl <;> omega

end Units

/-! ## Loads -/

section Loads

variable {w count offset : ℕ} {m : GuestMemory} {a aligned : BitVec 32} {value : BitVec w}

theorem isSome_place_of_spells (hvalue : m.Spells a count value.toNat) {i : ℕ} (hi : i < count) :
    (m.place (a + BitVec.ofNat 32 i)).isSome := by
  obtain ⟨p, hp, -⟩ := Option.map_eq_some_iff.mp (hvalue i hi)
  rw [hp]
  rfl

/-- A left load at the last byte takes the bytes from the split on. -/
theorem mergeLeft_spells (hw : w = 8 * count)
    (hunit : InUnit count (a + BitVec.ofNat 32 (count - 1)) aligned offset)
    (hvalue : m.Spells a count value.toNat) (old : BitVec w) :
    ∃ mem, m.load count aligned = some mem ∧ ∀ i < count,
      byteOf (mergeLeft count offset old (BitVec.ofNat w mem)).toNat i =
        if i < leftSplit count a then byteOf old.toNat i else byteOf value.toNat i := by
  have hoffset := hunit.offset_lt
  obtain ⟨hsplit, haddress⟩ := hunit.left
  have hcount : count ≤ 8 := by rcases hunit.width with rfl | rfl <;> omega
  have hplace : (m.place aligned).isSome := by
    have hsome := isSome_place_of_spells hvalue (show leftSplit count a < count by omega)
    rwa [haddress (leftSplit count a) 0 (by omega) (by omega) (by omega), BitVec.add_zero] at hsome
  obtain ⟨mem, hmem, hlt, hspells⟩ := spells_load hunit.width hunit.aligned_mod hplace
  refine ⟨mem, hmem, fun i hi => ?_⟩
  have hnat : (BitVec.ofNat w mem).toNat = mem := by
    rw [BitVec.toNat_ofNat, hw, Nat.mod_eq_of_lt hlt]
  rw [byteOf_mergeLeft hw hoffset hi, hnat, hsplit]
  by_cases hlow : i < count - 1 - offset
  · rw [if_pos hlow, if_pos hlow]
  · rw [if_neg hlow, if_neg hlow]
    have hbyte := hvalue i hi
    rw [haddress i (i - (count - 1 - offset)) (by omega) (by omega) (by omega),
      hspells _ (by omega)] at hbyte
    exact Option.some.inj hbyte

/-- A right load at the first byte takes the bytes up to the split. -/
theorem mergeRight_spells (hw : w = 8 * count) (hunit : InUnit count a aligned offset)
    (hvalue : m.Spells a count value.toNat) (old : BitVec w) :
    ∃ mem, m.load count aligned = some mem ∧ ∀ i < count,
      byteOf (mergeRight count offset old (BitVec.ofNat w mem)).toNat i =
        if i < rightSplit count a then byteOf value.toNat i else byteOf old.toNat i := by
  have hoffset := hunit.offset_lt
  obtain ⟨hsplit, haddress⟩ := hunit.right
  have hcount : count ≤ 8 := by rcases hunit.width with rfl | rfl <;> omega
  have hplace : (m.place aligned).isSome := by
    have hsome := isSome_place_of_spells hvalue (show 0 < count by omega)
    rw [haddress 0 (by omega), Nat.zero_add,
      GuestMemory.place_add (offset_lt_of_aligned hunit.width hunit.aligned_mod hoffset),
      Option.isSome_map] at hsome
    exact hsome
  obtain ⟨mem, hmem, hlt, hspells⟩ := spells_load hunit.width hunit.aligned_mod hplace
  refine ⟨mem, hmem, fun i hi => ?_⟩
  have hnat : (BitVec.ofNat w mem).toNat = mem := by
    rw [BitVec.toNat_ofNat, hw, Nat.mod_eq_of_lt hlt]
  rw [byteOf_mergeRight hw hoffset hi, hnat, hsplit]
  by_cases hlow : i < count - offset
  · rw [if_pos hlow, if_pos hlow]
    have hbyte := hvalue i hi
    rw [haddress i (by omega), hspells _ (by omega)] at hbyte
    exact Option.some.inj hbyte
  · rw [if_neg hlow, if_neg hlow]

variable {rs : Fin 32} (rt : Fin 32) {k : BitVec 32} {r : Gprs}

theorem ldl_spells {value : BitVec 64} (hvalue : m.Spells (r.u32 rs + k) 8 value.toNat) :
    ∃ v : BitVec 64, ldl rs rt (k + 7) r m = some (r.setU64 rt v) ∧ ∀ i < 8, byteOf v.toNat i =
      if i < leftSplit 8 (r.u32 rs + k) then byteOf (r.u64 rt).toNat i
      else byteOf value.toNat i := by
  have haddr : r.u32 rs + (k + 7) = r.u32 rs + k + BitVec.ofNat 32 (8 - 1) :=
    (BitVec.add_assoc _ _ _).symm
  obtain ⟨mem, hmem, hbytes⟩ := mergeLeft_spells rfl (inUnit_eight _) hvalue (r.u64 rt)
  refine ⟨_, ?_, hbytes⟩
  unfold ldl
  dsimp only
  rw [haddr, hmem, Option.map_some]

theorem ldr_spells {value : BitVec 64} (hvalue : m.Spells (r.u32 rs + k) 8 value.toNat) :
    ∃ v : BitVec 64, ldr rs rt k r m = some (r.setU64 rt v) ∧ ∀ i < 8, byteOf v.toNat i =
      if i < rightSplit 8 (r.u32 rs + k) then byteOf value.toNat i
      else byteOf (r.u64 rt).toNat i := by
  obtain ⟨mem, hmem, hbytes⟩ := mergeRight_spells rfl (inUnit_eight _) hvalue (r.u64 rt)
  refine ⟨_, ?_, hbytes⟩
  unfold ldr
  dsimp only
  rw [hmem, Option.map_some]

theorem lwl_spells {value : BitVec 32} (hvalue : m.Spells (r.u32 rs + k) 4 value.toNat) :
    ∃ v : BitVec 32, lwl rs rt (k + 3) r m = some (r.setS32 rt v) ∧ ∀ i < 4, byteOf v.toNat i =
      if i < leftSplit 4 (r.u32 rs + k) then byteOf (r.u32 rt).toNat i
      else byteOf value.toNat i := by
  have haddr : r.u32 rs + (k + 3) = r.u32 rs + k + BitVec.ofNat 32 (4 - 1) :=
    (BitVec.add_assoc _ _ _).symm
  obtain ⟨mem, hmem, hbytes⟩ := mergeLeft_spells rfl (inUnit_four _) hvalue (r.u32 rt)
  refine ⟨_, ?_, hbytes⟩
  unfold lwl
  dsimp only
  rw [haddr, hmem, Option.map_some]

/-- The upper word of a doubleword above another word. -/
theorem getLsbD_upper_or (x : BitVec 64) (v : BitVec 32) {i : ℕ} (hi : i < 64) :
    ((x &&& 0xFFFFFFFF00000000#64) ||| v.setWidth 64).getLsbD i =
      if i < 32 then v.getLsbD i else x.getLsbD i := by
  have hmask : 0xFFFFFFFF00000000#64 = BitVec.allOnes 64 <<< 32 := by decide
  rw [hmask, BitVec.getLsbD_or, BitVec.getLsbD_and, BitVec.getLsbD_shiftLeft,
    BitVec.getLsbD_setWidth, BitVec.getLsbD_allOnes, decide_eq_true hi]
  by_cases hlow : i < 32
  · simp [hlow]
  · have hhigh : v.getLsbD i = false := BitVec.getLsbD_of_ge _ _ (by omega)
    rw [hhigh, decide_eq_false hlow, decide_eq_true (by omega)]
    simp [hlow]

theorem signExtend_eq_upper_or {x : BitVec 64} {u v : BitVec 32} (hx : x = u.signExtend 64)
    (hmsb : v.msb = u.msb) :
    (x &&& 0xFFFFFFFF00000000#64) ||| v.setWidth 64 = v.signExtend 64 := by
  apply BitVec.eq_of_getLsbD_eq
  intro i hi
  rw [getLsbD_upper_or x v hi, hx, BitVec.getLsbD_signExtend, BitVec.getLsbD_signExtend, hmsb,
    decide_eq_true hi]
  by_cases hlow : i < 32
  · simp [hlow]
  · simp [hlow]

/-- `LWR` sign-extends when it loads the whole word, and else keeps the upper word of the
doubleword; where that is the sign of the word it stays so. -/
theorem lwr_spells {value : BitVec 32} (hvalue : m.Spells (r.u32 rs + k) 4 value.toNat) :
    ∃ (v : BitVec 32) (x : BitVec 64), lwr rs rt k r m = some (r.setU64 rt x) ∧
      x.setWidth 32 = v ∧
      (rightSplit 4 (r.u32 rs + k) = 4 ∨
        r.u64 rt = (r.u32 rt).signExtend 64 ∧ v.msb = (r.u32 rt).msb → x = v.signExtend 64) ∧
      ∀ i < 4, byteOf v.toNat i =
        if i < rightSplit 4 (r.u32 rs + k) then byteOf value.toNat i
        else byteOf (r.u32 rt).toNat i := by
  have hunit := inUnit_four (r.u32 rs + k)
  obtain ⟨mem, hmem, hbytes⟩ := mergeRight_spells rfl hunit hvalue (r.u32 rt)
  have hsplit := hunit.right.1
  have hoffset := hunit.offset_lt
  generalize hv : mergeRight 4 (r.u32 rs + k &&& 3#32).toNat (r.u32 rt) (BitVec.ofNat 32 mem) = v
    at hbytes
  refine ⟨v, if (r.u32 rs + k &&& 3#32).toNat = 0 then v.signExtend 64
    else (r.u64 rt &&& 0xFFFFFFFF00000000#64) ||| v.setWidth 64, ?_, ?_, ?_, hbytes⟩
  · unfold lwr
    dsimp only
    rw [hmem, Option.map_some, hv]
  · split
    · ext i hi
      rw [BitVec.getElem_setWidth, BitVec.getLsbD_signExtend]
      simp [hi, show i < 64 by omega]
    · ext i hi
      rw [BitVec.getElem_setWidth, getLsbD_upper_or _ _ (by omega), if_pos hi,
        BitVec.getLsbD_eq_getElem]
  · intro h
    split
    · rfl
    · rcases h with hwhole | ⟨hsign, hmsb⟩
      · omega
      · exact signExtend_eq_upper_or hsign hmsb

end Loads

/-! ## Pairs of loads -/

namespace Gprs

variable (r : Gprs) {reg : Fin 32}

theorem setU64_setU64 (v v' : BitVec 64) : (r.setU64 reg v).setU64 reg v' = r.setU64 reg v' := by
  by_cases hzero : reg = 0
  · subst hzero
    rfl
  · have hupper :
        ((r reg).extractLsb' 64 64 ++ v).extractLsb' 64 64 = (r reg).extractLsb' 64 64 := by
      apply BitVec.eq_of_getLsbD_eq
      intro i hi
      rw [BitVec.getLsbD_extractLsb', BitVec.getLsbD_append, if_neg (by omega),
        Nat.add_sub_cancel_left, decide_eq_true hi, Bool.true_and]
    simp only [setU64, if_neg hzero, Function.update_idem, Function.update_self, hupper]

theorem u64_setU64 (hreg : reg ≠ 0) (v : BitVec 64) : (r.setU64 reg v).u64 reg = v := by
  unfold setU64 u64
  rw [if_neg hreg, if_neg hreg, Function.update_self, BitVec.setWidth_append]
  simp

theorem setU64_congr {v v' : BitVec 64} (h : reg ≠ 0 → v = v') :
    r.setU64 reg v = r.setU64 reg v' := by
  by_cases hzero : reg = 0
  · rw [setU64, setU64, if_pos hzero, if_pos hzero]
  · rw [h hzero]

theorem setU64_u64 : r.setU64 reg (r.u64 reg) = r := by
  unfold setU64 u64
  by_cases hzero : reg = 0
  · rw [if_pos hzero]
  · rw [if_neg hzero, if_neg hzero]
    have happend : (r reg).extractLsb' 64 64 ++ (r reg).setWidth 64 = r reg := by
      ext i hi
      simp only [BitVec.getElem_append, BitVec.getElem_setWidth, BitVec.getElem_extractLsb']
      split
      · exact BitVec.getLsbD_eq_getElem hi
      · rw [show 64 + (i - 64) = i by omega]
        exact BitVec.getLsbD_eq_getElem hi
    rw [happend, Function.update_eq_self]

end Gprs

section LoadPairs

variable {m : GuestMemory} {rs rt : Fin 32} {k : BitVec 32} {r : Gprs}

theorem eq_of_bytes_eight {v value : BitVec 64}
    (h : ∀ i < 8, byteOf v.toNat i = byteOf value.toNat i) : v = value :=
  BitVec.eq_of_toNat_eq (eq_of_byteOf v.isLt value.isLt h)

theorem eq_of_bytes_four {v value : BitVec 32}
    (h : ∀ i < 4, byteOf v.toNat i = byteOf value.toNat i) : v = value :=
  BitVec.eq_of_toNat_eq (eq_of_byteOf v.isLt value.isLt h)

theorem u32_setU64_of_ne (hbase : rt ≠ rs) (v : BitVec 64) :
    (r.setU64 rt v).u32 rs = r.u32 rs := by
  rw [Gprs.u32_setU64, if_neg fun h => hbase h.1.symm]

/-- A load pair reads the eight bytes at its address, whatever the order. -/
theorem loadPair64_eq {value : BitVec 64} (hbase : rt ≠ rs)
    (hvalue : m.Spells (r.u32 rs + k) 8 value.toNat) (leftFirst : Bool) :
    loadPair64 rs rt k r m leftFirst = some (r.setU64 rt value) := by
  have hle := leftSplit_le_rightSplit (.inr rfl : 8 = 4 ∨ 8 = 8) (r.u32 rs + k)
  unfold loadPair64
  split
  · obtain ⟨v₁, hfirst, hbytes₁⟩ := ldl_spells rt hvalue
    have hvalue' := hvalue
    rw [← u32_setU64_of_ne hbase v₁] at hvalue'
    obtain ⟨v₂, hsecond, hbytes₂⟩ := ldr_spells rt hvalue'
    rw [hfirst, Option.bind_some, hsecond, Gprs.setU64_setU64]
    refine congrArg some (Gprs.setU64_congr r fun hrt => eq_of_bytes_eight fun i hi => ?_)
    rw [hbytes₂ i hi, u32_setU64_of_ne hbase, Gprs.u64_setU64 r hrt]
    split
    · rfl
    · rw [hbytes₁ i hi, if_neg (by omega)]
  · obtain ⟨v₁, hfirst, hbytes₁⟩ := ldr_spells rt hvalue
    have hvalue' := hvalue
    rw [← u32_setU64_of_ne hbase v₁] at hvalue'
    obtain ⟨v₂, hsecond, hbytes₂⟩ := ldl_spells rt hvalue'
    rw [hfirst, Option.bind_some, hsecond, Gprs.setU64_setU64]
    refine congrArg some (Gprs.setU64_congr r fun hrt => eq_of_bytes_eight fun i hi => ?_)
    rw [hbytes₂ i hi, u32_setU64_of_ne hbase, Gprs.u64_setU64 r hrt]
    split
    · rw [hbytes₁ i hi, if_pos (by omega)]
    · rfl

theorem msb_eq_of_byteOf {v value : BitVec 32} (h : byteOf v.toNat 3 = byteOf value.toNat 3) :
    v.msb = value.msb := by
  have hbit := congrArg (fun byte => byte.toNat.testBit 7) h
  simp only [testBit_byteOf (by decide : 7 < 8)] at hbit
  rw [BitVec.msb_eq_getLsbD_last, BitVec.msb_eq_getLsbD_last]
  exact hbit

/-- The word pair reads four bytes and extends their sign. -/
theorem loadPair32_eq {value : BitVec 32} (hbase : rt ≠ rs)
    (hvalue : m.Spells (r.u32 rs + k) 4 value.toNat) (leftFirst : Bool) :
    loadPair32 rs rt k r m leftFirst = some (r.setS32 rt value) := by
  have hle := leftSplit_le_rightSplit (.inl rfl : 4 = 4 ∨ 4 = 8) (r.u32 rs + k)
  have hleft : leftSplit 4 (r.u32 rs + k) ≤ 3 := Nat.sub_le _ _
  unfold loadPair32
  split
  · obtain ⟨v₁, hfirst, hbytes₁⟩ := lwl_spells rt hvalue
    have hvalue' := hvalue
    rw [← u32_setU64_of_ne hbase (v₁.signExtend 64)] at hvalue'
    obtain ⟨v₂, x, hsecond, -, hx, hbytes₂⟩ := lwr_spells rt hvalue'
    have hpair : ((lwl rs rt (k + 3) r m).bind fun r => lwr rs rt k r m) =
        some (r.setU64 rt x) := by
      rw [hfirst, Option.bind_some, Gprs.setS32, hsecond, Gprs.setU64_setU64]
    rw [hpair]
    refine congrArg some (Gprs.setU64_congr r fun hrt => ?_)
    have hword : (r.setU64 rt (v₁.signExtend 64)).u32 rt = v₁ :=
      (Gprs.u32_setS32 r rt rt v₁).trans (if_pos ⟨rfl, hrt⟩)
    rw [Gprs.u64_setU64 r hrt, hword] at hx
    have hv₂ : v₂ = value := by
      refine eq_of_bytes_four fun i hi => ?_
      rw [hbytes₂ i hi, u32_setU64_of_ne hbase, hword]
      split
      · rfl
      · rw [hbytes₁ i hi, if_neg (by omega)]
    subst hv₂
    -- the sign byte was there since the left load
    refine hx (.inr ⟨rfl, (msb_eq_of_byteOf ?_).symm⟩)
    rw [hbytes₁ 3 (by omega), if_neg (by omega)]
  · obtain ⟨v₁, x, hfirst, hx, -, hbytes₁⟩ := lwr_spells rt hvalue
    have hvalue' := hvalue
    rw [← u32_setU64_of_ne hbase x] at hvalue'
    obtain ⟨v₂, hsecond, hbytes₂⟩ := lwl_spells rt hvalue'
    rw [hfirst, Option.bind_some, hsecond, Gprs.setS32, Gprs.setS32, Gprs.setU64_setU64]
    refine congrArg some (Gprs.setU64_congr r fun hrt => congrArg _ ?_)
    have hword : (r.setU64 rt x).u32 rt = v₁ := by
      rw [Gprs.u32_setU64, if_pos ⟨rfl, hrt⟩, hx]
    refine eq_of_bytes_four fun i hi => ?_
    rw [hbytes₂ i hi, u32_setU64_of_ne hbase, hword]
    split
    · rw [hbytes₁ i hi, if_pos (by omega)]
    · rfl

end LoadPairs

/-! ## Stores -/

section Stores

variable {w count offset : ℕ} {m : GuestMemory} {a aligned : BitVec 32} {value : BitVec w}

/-- The enables of a left store, up to its offset. -/
theorem span_left {count offset : ℕ} (hcount : count = 4 ∨ count = 8) (hoffset : offset < count) :
    Ps2DecodeByteEnableSpan (BitVec.ofNat 8 (1 <<< (offset + 1) - 1)) count =
      some ⟨0, offset + 1⟩ := by
  rcases hcount with rfl | rfl
  · exact (by decide : ∀ offset < 4, Ps2DecodeByteEnableSpan
      (BitVec.ofNat 8 (1 <<< (offset + 1) - 1)) 4 = some ⟨0, offset + 1⟩) offset hoffset
  · exact (by decide : ∀ offset < 8, Ps2DecodeByteEnableSpan
      (BitVec.ofNat 8 (1 <<< (offset + 1) - 1)) 8 = some ⟨0, offset + 1⟩) offset hoffset

/-- The enables of a right store, from its offset on. -/
theorem span_right {count offset : ℕ} (hcount : count = 4 ∨ count = 8) (hoffset : offset < count) :
    Ps2DecodeByteEnableSpan
        (BitVec.ofNat 8 (((1 <<< count - 1) <<< offset) &&& (1 <<< count - 1))) count =
      some ⟨offset, count - offset⟩ := by
  rcases hcount with rfl | rfl
  · exact (by decide : ∀ offset < 4, Ps2DecodeByteEnableSpan
      (BitVec.ofNat 8 (((1 <<< 4 - 1) <<< offset) &&& (1 <<< 4 - 1))) 4 =
        some ⟨offset, 4 - offset⟩) offset hoffset
  · exact (by decide : ∀ offset < 8, Ps2DecodeByteEnableSpan
      (BitVec.ofNat 8 (((1 <<< 8 - 1) <<< offset) &&& (1 <<< 8 - 1))) 8 =
        some ⟨offset, 8 - offset⟩) offset hoffset

theorem byteOf_ushiftRight (i k : ℕ) :
    byteOf (value >>> (k <<< 3)).toNat i = byteOf value.toNat (i + k) := by
  refine byteOf_eq_of_testBit fun j _ => ?_
  rw [BitVec.toNat_ushiftRight, Nat.testBit_shiftRight, Nat.shiftLeft_eq]
  congr 1
  omega

theorem byteOf_shiftLeft (hw : w = 8 * count) {i k : ℕ} (hk : k ≤ i) (hi : i < count) :
    byteOf (value <<< (k <<< 3)).toNat i = byteOf value.toNat (i - k) := by
  refine byteOf_eq_of_testBit fun j hj => ?_
  have hbit : (value <<< (k <<< 3)).getLsbD (8 * i + j) = value.getLsbD (8 * (i - k) + j) := by
    rw [Nat.shiftLeft_eq, BitVec.getLsbD_shiftLeft, decide_eq_true (by omega),
      decide_eq_false (by omega), Bool.not_false, Bool.true_and, Bool.true_and]
    congr 1
    omega
  exact hbit

/-- A left store at the last byte writes the bytes from the split on. -/
theorem wrote_storeLeft
    (hunit : InUnit count (a + BitVec.ofNat 32 (count - 1)) aligned offset)
    (hwritable : m.Writable a count) :
    ∃ m', m.storeMasked count aligned (value >>> ((count - 1 - offset) <<< 3)).toNat
        (BitVec.ofNat 8 (1 <<< (offset + 1) - 1)) = some m' ∧
      Wrote m m' a (leftSplit count a) count value.toNat := by
  have hoffset := hunit.offset_lt
  obtain ⟨hsplit, haddress⟩ := hunit.left
  have hcount : count ≤ 8 := by rcases hunit.width with rfl | rfl <;> omega
  have hbase := haddress (leftSplit count a) 0 (by omega) (by omega) (by omega)
  obtain ⟨hplace, hpage⟩ := hwritable (leftSplit count a) (by omega)
  rw [hbase, BitVec.add_zero] at hplace hpage
  obtain ⟨m', hstore, hwrote⟩ := wrote_storeMasked hunit.width hunit.aligned_mod
    (span_left hunit.width hoffset) (Nat.succ_ne_zero offset) hplace hpage
  refine ⟨m', hstore, hwrote.rebase (Nat.zero_le 8) (by omega) (by dsimp only; omega) hcount hbase
    (Nat.add_comm _ _) (by dsimp only; omega) ?_⟩
  intro i j _ _ hij
  rw [byteOf_ushiftRight]
  congr 1
  omega

/-- A right store at the first byte writes the bytes up to the split. -/
theorem wrote_storeRight (hw : w = 8 * count) (hunit : InUnit count a aligned offset)
    (hwritable : m.Writable a count) :
    ∃ m', m.storeMasked count aligned (value <<< (offset <<< 3)).toNat
        (BitVec.ofNat 8 (((1 <<< count - 1) <<< offset) &&& (1 <<< count - 1))) = some m' ∧
      Wrote m m' a 0 (rightSplit count a) value.toNat := by
  have hoffset := hunit.offset_lt
  obtain ⟨hsplit, haddress⟩ := hunit.right
  have hcount : count ≤ 8 := by rcases hunit.width with rfl | rfl <;> omega
  have hbase := haddress 0 (by omega)
  rw [Nat.zero_add] at hbase
  have hlt := offset_lt_of_aligned hunit.width hunit.aligned_mod hoffset
  obtain ⟨hplace, hpage⟩ := hwritable 0 (by omega)
  rw [hbase, GuestMemory.place_add hlt, Option.isSome_map] at hplace
  rw [hbase, (GuestMemory.toNat_page_add hlt).1] at hpage
  obtain ⟨m', hstore, hwrote⟩ := wrote_storeMasked hunit.width hunit.aligned_mod
    (span_right hunit.width hoffset) (by dsimp only; omega) hplace hpage
  refine ⟨m', hstore, hwrote.rebase (by omega) (Nat.zero_le 8) (by dsimp only; omega) (by omega)
    hbase (Nat.add_comm _ _) (by dsimp only; omega) ?_⟩
  intro i j hlow hhigh hij
  dsimp only at hlow hhigh
  rw [byteOf_shiftLeft hw hlow (by omega)]
  congr 1
  omega

end Stores

/-! ## Pairs of stores -/

section StorePairs

variable {m : GuestMemory} {rs rt : Fin 32} {k : BitVec 32} {r : Gprs}

theorem sdl_wrote (rt : Fin 32) (h : m.Writable (r.u32 rs + k) 8) :
    ∃ m', sdl rs rt (k + 7) r m = some m' ∧
      Wrote m m' (r.u32 rs + k) (leftSplit 8 (r.u32 rs + k)) 8 (r.u64 rt).toNat := by
  have haddr : r.u32 rs + (k + 7) = r.u32 rs + k + BitVec.ofNat 32 (8 - 1) :=
    (BitVec.add_assoc _ _ _).symm
  unfold sdl
  dsimp only
  rw [haddr]
  exact wrote_storeLeft (inUnit_eight _) h

theorem sdr_wrote (rt : Fin 32) (h : m.Writable (r.u32 rs + k) 8) :
    ∃ m', sdr rs rt k r m = some m' ∧
      Wrote m m' (r.u32 rs + k) 0 (rightSplit 8 (r.u32 rs + k)) (r.u64 rt).toNat :=
  wrote_storeRight rfl (inUnit_eight _) h

theorem swl_wrote (rt : Fin 32) (h : m.Writable (r.u32 rs + k) 4) :
    ∃ m', swl rs rt (k + 3) r m = some m' ∧
      Wrote m m' (r.u32 rs + k) (leftSplit 4 (r.u32 rs + k)) 4 (r.u32 rt).toNat := by
  have haddr : r.u32 rs + (k + 3) = r.u32 rs + k + BitVec.ofNat 32 (4 - 1) :=
    (BitVec.add_assoc _ _ _).symm
  unfold swl
  dsimp only
  rw [haddr]
  exact wrote_storeLeft (inUnit_four _) h

theorem swr_wrote (rt : Fin 32) (h : m.Writable (r.u32 rs + k) 4) :
    ∃ m', swr rs rt k r m = some m' ∧
      Wrote m m' (r.u32 rs + k) 0 (rightSplit 4 (r.u32 rs + k)) (r.u32 rt).toNat :=
  wrote_storeRight rfl (inUnit_four _) h

theorem writable_of_wrote {m' : GuestMemory} {a : BitVec 32} {low high value count : ℕ}
    (h : Wrote m m' a low high value) (hwritable : m.Writable a count) : m'.Writable a count := by
  intro i hi
  rw [place_congr h.frame, h.writable]
  exact hwritable i hi

/-- A store pair writes the doubleword, whatever the order. -/
theorem storePair64_wrote (rt : Fin 32) (h : m.Writable (r.u32 rs + k) 8) (leftFirst : Bool) :
    ∃ m', storePair64 rs rt k r m leftFirst = some m' ∧
      Wrote m m' (r.u32 rs + k) 0 8 (r.u64 rt).toNat := by
  have hle := leftSplit_le_rightSplit (.inr rfl : 8 = 4 ∨ 8 = 8) (r.u32 rs + k)
  have hright : rightSplit 8 (r.u32 rs + k) ≤ 8 := Nat.sub_le _ _
  unfold storePair64
  split
  · obtain ⟨m₁, hfirst, hwrote₁⟩ := sdl_wrote rt h
    obtain ⟨m₂, hsecond, hwrote₂⟩ := sdr_wrote rt (writable_of_wrote hwrote₁ h)
    refine ⟨m₂, by rw [hfirst, Option.bind_some, hsecond], ?_⟩
    exact hwrote₁.trans hwrote₂ (Nat.le_refl 8) hright (by decide) fun i hi => by omega
  · obtain ⟨m₁, hfirst, hwrote₁⟩ := sdr_wrote rt h
    obtain ⟨m₂, hsecond, hwrote₂⟩ := sdl_wrote rt (writable_of_wrote hwrote₁ h)
    refine ⟨m₂, by rw [hfirst, Option.bind_some, hsecond], ?_⟩
    exact hwrote₁.trans hwrote₂ hright (Nat.le_refl 8) (by decide) fun i hi => by omega

theorem storePair32_wrote (rt : Fin 32) (h : m.Writable (r.u32 rs + k) 4) (leftFirst : Bool) :
    ∃ m', storePair32 rs rt k r m leftFirst = some m' ∧
      Wrote m m' (r.u32 rs + k) 0 4 (r.u32 rt).toNat := by
  have hle := leftSplit_le_rightSplit (.inl rfl : 4 = 4 ∨ 4 = 8) (r.u32 rs + k)
  have hright : rightSplit 4 (r.u32 rs + k) ≤ 4 := Nat.sub_le _ _
  unfold storePair32
  split
  · obtain ⟨m₁, hfirst, hwrote₁⟩ := swl_wrote rt h
    obtain ⟨m₂, hsecond, hwrote₂⟩ := swr_wrote rt (writable_of_wrote hwrote₁ h)
    refine ⟨m₂, by rw [hfirst, Option.bind_some, hsecond], ?_⟩
    exact hwrote₁.trans hwrote₂ (Nat.le_refl 4) hright (by decide) fun i hi => by omega
  · obtain ⟨m₁, hfirst, hwrote₁⟩ := swr_wrote rt h
    obtain ⟨m₂, hsecond, hwrote₂⟩ := swl_wrote rt (writable_of_wrote hwrote₁ h)
    refine ⟨m₂, by rw [hfirst, Option.bind_some, hsecond], ?_⟩
    exact hwrote₁.trans hwrote₂ hright (Nat.le_refl 4) (by decide) fun i hi => by omega

/-- **Pairs are exact.** A load pair gives the register the bytes at its address, a store pair
writes the register's bytes there and no others, and loaded back they are what was stored. -/
theorem unalignedPairs_exact (r : Gprs) (m : GuestMemory) (rs rt : Fin 32) (k : BitVec 32)
    (hbase : rt ≠ rs) (leftFirst : Bool) :
    (∀ value : BitVec 64, m.Spells (r.u32 rs + k) 8 value.toNat →
      loadPair64 rs rt k r m leftFirst = some (r.setU64 rt value)) ∧
    (∀ value : BitVec 32, m.Spells (r.u32 rs + k) 4 value.toNat →
      loadPair32 rs rt k r m leftFirst = some (r.setU64 rt (value.signExtend 64))) ∧
    (m.Writable (r.u32 rs + k) 8 → ∃ m', storePair64 rs rt k r m leftFirst = some m' ∧
      Wrote m m' (r.u32 rs + k) 0 8 (r.u64 rt).toNat ∧
      ∀ (r' : Gprs) (leftFirst : Bool), r'.u32 rs = r.u32 rs →
        loadPair64 rs rt k r' m' leftFirst = some (r'.setU64 rt (r.u64 rt)) ∧
        loadPair64 rs rt k r m' leftFirst = some r) ∧
    (m.Writable (r.u32 rs + k) 4 → ∃ m', storePair32 rs rt k r m leftFirst = some m' ∧
      Wrote m m' (r.u32 rs + k) 0 4 (r.u32 rt).toNat ∧
      ∀ (r' : Gprs) (leftFirst : Bool), r'.u32 rs = r.u32 rs →
        loadPair32 rs rt k r' m' leftFirst =
          some (r'.setU64 rt ((r.u32 rt).signExtend 64))) := by
  refine ⟨fun value hvalue => loadPair64_eq hbase hvalue leftFirst,
    fun value hvalue => loadPair32_eq hbase hvalue leftFirst, fun h => ?_, fun h => ?_⟩
  · obtain ⟨m', hstore, hwrote⟩ := storePair64_wrote rt h leftFirst
    have hspells : m'.Spells (r.u32 rs + k) 8 (r.u64 rt).toNat := fun i hi =>
      hwrote.spells i (Nat.zero_le i) hi
    refine ⟨m', hstore, hwrote, fun r' order hsame => ⟨loadPair64_eq hbase ?_ order, ?_⟩⟩
    · rwa [hsame]
    · rw [loadPair64_eq hbase hspells order, Gprs.setU64_u64]
  · obtain ⟨m', hstore, hwrote⟩ := storePair32_wrote rt h leftFirst
    refine ⟨m', hstore, hwrote, fun r' order hsame => loadPair32_eq hbase ?_ order⟩
    rw [hsame]
    exact fun i hi => hwrote.spells i (Nat.zero_le i) hi

/-- Three bytes behind an aligned address, across two units. -/
theorem unalignedPairs_exact_across :
    loadPair64 4 2 3 (fun reg => if reg = 4 then 0x1000 else 0)
        ⟨fun page => some page.toNat, fun _ => true, fun _ => true, fun a => UInt8.ofNat a⟩ true =
      some (Gprs.setU64 (fun reg => if reg = 4 then 0x1000 else 0) 2 0x0A09080706050403) :=
  (unalignedPairs_exact (fun reg => if reg = 4 then 0x1000 else 0)
    ⟨fun page => some page.toNat, fun _ => true, fun _ => true, fun a => UInt8.ofNat a⟩ 4 2 3
    (by decide) true).1 0x0A09080706050403 (by unfold GuestMemory.Spells; decide)

end StorePairs

end Ps2Recomp.Recompiler
