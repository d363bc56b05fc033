import Ps2Recomp.Vu.PairSimultaneous

/-!
# The order of a pair with a conflict

Where the instruction that runs first changes a lane that the other one reads, some state tells the
pair from both instructions at once (`readsBeforeWrites_iff`). The state has one lane (`hotState`)
unlike everything else, and the arithmetic is one in which every operand counts (`probe`).
-/

namespace Ps2Recomp.VuInterpreterBackend

/-- A pair is as if both instructions were at once, from every state. -/
def ReadsBeforeWrites (lower upper : VuWord) : Prop :=
  ∀ (fl : HostFloat) (ξ : Type) (unit : XgkickUnit ξ) (codeAddressMask : BitVec 32)
    (state : VuState ξ) (data : VuData),
    pairResult (executePair fl unit codeAddressMask (decodeInstructionPair lower upper) state
      data) =
    simultaneous fl unit codeAddressMask (decodeInstructionPair lower upper) state data

/-! ## A state and an arithmetic -/

/-- Sums, and successors for what has one operand. -/
def probe (projects : Bool) : HostFloat where
  add x y := x + y
  sub x y := x + y
  mul x y := if projects then x else x + y
  div x _ := x
  fma x y z := x + y + z
  sqrt x := x
  fabs x := x + 1
  lt x y := x.ult y
  le _ _ := false
  ofInt x := x + 1
  toInt x := x + 1

/-- An XGKICK unit that does nothing. -/
def noXgkick : XgkickUnit Unit where
  isActive _ := false
  beginXgkick _ _ := id
  advanceXgkick _ _ _ := id

/-- One lane is `a`, and all else is `b`. -/
def hotState (r : Fin 32) (hot : Fin 4) (a b : BitVec 32) : VuState Unit where
  vf := fun r' c => if r' = r ∧ c = hot then a else b
  vi := fun _ => b
  acc := fun _ => b
  q := b
  p := b
  i := b
  pc := 0
  mac := 0
  clip := 0
  status := 0
  top := 0
  itop := 0
  rest := { pipeline := { xgkick := () } }

/-- A data memory of one byte. -/
def uniformData (byte : UInt8) : VuData := ⟨16, fun _ => byte, 4, by decide, by decide, rfl⟩

theorem word_uniformData (addr : ℕ) :
    (uniformData 0).word addr = 0 ∧ (uniformData 0xFF).word addr = 0xFFFFFFFF#32 := by
  simp [VuData.word, uniformData, BitMemory.load]

/-! ## Operands that count -/

section Operands

variable {instr : VuWord} {op : UpperOp} {r : Fin 32} {c hot : Fin 4}

/-- Every operand of a function counts. -/
theorem apply_sensitive (function : FmacFunction) :
    ∃ a b : BitVec 32, (b = 0 ∨ b = 0xFFFFFFFF#32) ∧ ∀ x y, (x = a ∨ x = b) → (y = a ∨ y = b) →
      (x = a ∨ y = a) →
      function.apply (probe false) b x y ≠ function.apply (probe false) b b b := by
  cases function with
  | max =>
    refine ⟨0xFFFFFFFF#32, 0, Or.inl rfl, ?_⟩
    rintro x y (rfl | rfl) (rfl | rfl) h <;> first | decide | (revert h; decide)
  | _ =>
    refine ⟨0, 0xFFFFFFFF#32, Or.inr rfl, ?_⟩
    rintro x y (rfl | rfl) (rfl | rfl) h <;> first | decide | (revert h; decide)

theorem hotState_self (a b : BitVec 32) : (hotState r hot a b).vf r hot = a := if_pos ⟨rfl, rfl⟩

theorem vfOf_hotState (field : ℕ) (a b : BitVec 32) :
    (hotState (Fin.ofNat 32 field) hot a b).vfOf field hot = a := hotState_self a b

theorem hotState_cases (a b : BitVec 32) (r' : Fin 32) (lane : Fin 4) :
    (hotState r hot a b).vf r' lane = a ∨ (hotState r hot a b).vf r' lane = b := by
  unfold hotState
  dsimp only
  split
  · exact Or.inl rfl
  · exact Or.inr rfl

theorem hotState_same (b : BitVec 32) (r' : Fin 32) (lane : Fin 4) :
    (hotState r hot b b).vf r' lane = b := ite_self _

theorem operand_cases (operand : FmacOperand) (a b : BitVec 32) :
    operand.value (hotState r hot a b) instr c = a ∨
      operand.value (hotState r hot a b) instr c = b := by
  cases operand with
  | vector => exact hotState_cases a b _ _
  | bc => exact hotState_cases a b _ _
  | q => exact Or.inr rfl
  | i => exact Or.inr rfl

theorem operand_same (operand : FmacOperand) (b : BitVec 32) :
    operand.value (hotState r hot b b) instr c = b := (operand_cases operand b b).elim id id

theorem operand_hot {function : FmacFunction} {operand : FmacOperand}
    (hreads : (UpperOp.fmac function operand).Reads instr c r hot) (a b : BitVec 32) :
    (hotState r hot a b).vfOf instr.FS c = a ∨
      operand.value (hotState r hot a b) instr c = a := by
  cases operand with
  | vector =>
    obtain ⟨rfl | rfl, rfl⟩ := hreads
    · exact Or.inl (hotState_self a b)
    · exact Or.inr (hotState_self a b)
  | bc =>
    obtain ⟨rfl, rfl⟩ | ⟨rfl, rfl⟩ := hreads
    · exact Or.inl (hotState_self a b)
    · exact Or.inr (hotState_self a b)
  | q =>
    obtain ⟨rfl, rfl⟩ := hreads
    exact Or.inl (hotState_self a b)
  | i =>
    obtain ⟨rfl, rfl⟩ := hreads
    exact Or.inl (hotState_self a b)

/-- Every operand of an outer product counts. -/
theorem product_sensitive : ∀ x y : BitVec 32, (x = 0 ∨ x = 0xFFFFFFFF#32) →
    (y = 0 ∨ y = 0xFFFFFFFF#32) → (x = 0 ∨ y = 0) →
    x + y ≠ 0xFFFFFFFF#32 + 0xFFFFFFFF#32 := by
  rintro x y (rfl | rfl) (rfl | rfl) h <;> first | decide | (revert h; decide)

/-- A lane that is read is seen in the result. -/
theorem result_sensitive (hreads : op.Reads instr c r hot) :
    ∃ (fl : HostFloat) (a b : BitVec 32), (b = 0 ∨ b = 0xFFFFFFFF#32) ∧
      op.result fl (hotState r hot a b) instr c ≠ op.result fl (hotState r hot b b) instr c := by
  cases op with
  | fmac function operand =>
    obtain ⟨a, b, hb, hsensitive⟩ := apply_sensitive function
    refine ⟨probe false, a, b, hb, ?_⟩
    have hs : (hotState r hot b b).vfOf instr.FS c = b := hotState_same b _ _
    simp only [UpperOp.result]
    rw [hs, operand_same]
    exact hsensitive _ _ (hotState_cases a b _ _) (operand_cases operand a b)
      (operand_hot hreads a b)
  | opmsub =>
    obtain ⟨hc, hlanes⟩ := hreads
    refine ⟨probe false, 0, 0xFFFFFFFF#32, Or.inr rfl, ?_⟩
    have hsame (field : ℕ) (lane : Fin 4) :
        (hotState r hot 0xFFFFFFFF#32 0xFFFFFFFF#32).vfOf field lane = _ := hotState_same _ _ _
    simp only [UpperOp.result, if_neg hc]
    rw [hsame, hsame]
    intro hsum
    refine product_sensitive _ _ (hotState_cases _ _ _ _) (hotState_cases _ _ _ _) ?_
      ((BitVec.add_right_inj _).1 hsum)
    obtain ⟨rfl, rfl⟩ | ⟨rfl, rfl⟩ := hlanes
    · exact Or.inl (hotState_self _ _)
    · exact Or.inr (hotState_self _ _)
  | opmula =>
    obtain ⟨hc, hlanes⟩ := hreads
    refine ⟨probe false, 0, 0xFFFFFFFF#32, Or.inr rfl, ?_⟩
    have hsame (field : ℕ) (lane : Fin 4) :
        (hotState r hot 0xFFFFFFFF#32 0xFFFFFFFF#32).vfOf field lane = _ := hotState_same _ _ _
    simp only [UpperOp.result, if_neg hc]
    rw [hsame, hsame]
    refine product_sensitive _ _ (hotState_cases _ _ _ _) (hotState_cases _ _ _ _) ?_
    obtain ⟨rfl, rfl⟩ | ⟨rfl, rfl⟩ := hlanes
    · exact Or.inl (hotState_self _ _)
    · exact Or.inr (hotState_self _ _)
  | itof scale =>
    obtain ⟨rfl, rfl⟩ := hreads
    refine ⟨probe false, 0, 0xFFFFFFFF#32, Or.inr rfl, ?_⟩
    simp only [UpperOp.result, vfOf_hotState]
    cases scale with
    | none => decide
    | some scale =>
      change (0 : BitVec 32) + 1 ≠ 0xFFFFFFFF#32 + 1
      decide
  | ftoi scale =>
    obtain ⟨rfl, rfl⟩ := hreads
    refine ⟨probe true, 0, 0xFFFFFFFF#32, Or.inr rfl, ?_⟩
    simp only [UpperOp.result, vfOf_hotState]
    change vuFtoi (probe true) 0 0 ≠ vuFtoi (probe true) 0xFFFFFFFF#32 0
    decide
  | abs =>
    obtain ⟨rfl, rfl⟩ := hreads
    refine ⟨probe false, 0, 0xFFFFFFFF#32, Or.inr rfl, ?_⟩
    simp only [UpperOp.result, vfOf_hotState]
    decide

/-- A result is not its lane of VF0, but for a maximum or a minimum of the lane itself. -/
theorem apply_zero (function : FmacFunction) :
    ∃ a b : BitVec 32, a ≠ b ∧ ∀ x y, (x = a ∨ x = b) → (y = a ∨ y = b) →
      ((function = .max ∨ function = .mini) → ¬(x = a ∧ y = a)) →
      (function.apply (probe false) b x y).setWidth 8 ≠ a.setWidth 8 := by
  cases function with
  | mini =>
    refine ⟨1, 0, by decide, ?_⟩
    rintro x y (rfl | rfl) (rfl | rfl) h <;> first | decide | exact absurd ⟨rfl, rfl⟩ (h (Or.inr rfl))
  | max =>
    refine ⟨1, 2, by decide, ?_⟩
    rintro x y (rfl | rfl) (rfl | rfl) h <;> first | decide | exact absurd ⟨rfl, rfl⟩ (h (Or.inl rfl))
  | _ =>
    refine ⟨1, 2, by decide, ?_⟩
    rintro x y (rfl | rfl) (rfl | rfl) h <;> decide

theorem hotState_eq_iff {a b : BitVec 32} (hab : a ≠ b) {r' : Fin 32} {lane : Fin 4} :
    (hotState r hot a b).vf r' lane = a ↔ r' = r ∧ lane = hot := by
  unfold hotState
  dsimp only
  split
  next h => exact ⟨fun _ => h, fun _ => rfl⟩
  next h => exact ⟨fun hb => absurd hb.symm hab, fun hr => absurd hr h⟩

/-- Sums of two lanes that are 1 or 2. -/
theorem sum_zero : ∀ x y : BitVec 32, (x = 1 ∨ x = 2) → (y = 1 ∨ y = 2) →
    (2 + (x + y)).setWidth 8 ≠ (1 : BitVec 32).setWidth 8 ∧
      (x + y).setWidth 8 ≠ (1 : BitVec 32).setWidth 8 := by
  rintro x y (rfl | rfl) (rfl | rfl) <;> decide

/-- A lane of VF0 that is disturbed has another low byte. -/
theorem result_disturbs (hchanges : ¬op.KeepsZero instr c) :
    ∃ (fl : HostFloat) (a b : BitVec 32),
      (op.result fl (hotState 0 c a b) instr c).setWidth 8 ≠ a.setWidth 8 := by
  cases op with
  | fmac function operand =>
    obtain ⟨a, b, hab, hzero⟩ := apply_zero function
    refine ⟨probe false, a, b, hzero _ _ (hotState_cases a b _ _) (operand_cases operand a b) ?_⟩
    rintro hselects ⟨hs, hoperand⟩
    refine hchanges ?_
    have hfs : Fin.ofNat 32 instr.FS = 0 := ((hotState_eq_iff hab).1 hs).1
    have hoperand' : Fin.ofNat 32 instr.FT = 0 ∧
        (operand = .vector ∨ operand = .bc ∧ Fin.ofNat 4 instr.BC = c) := by
      cases operand with
      | vector => exact ⟨((hotState_eq_iff hab).1 hoperand).1, Or.inl rfl⟩
      | bc =>
        obtain ⟨hft, hlane⟩ := (hotState_eq_iff hab).1 hoperand
        exact ⟨hft, Or.inr ⟨rfl, hlane⟩⟩
      | q => exact absurd hoperand.symm hab
      | i => exact absurd hoperand.symm hab
    obtain rfl | rfl := hselects
    · exact ⟨hfs, hoperand'⟩
    · exact ⟨hfs, hoperand'⟩
  | opmsub =>
    refine ⟨probe false, 1, 2, ?_⟩
    simp only [UpperOp.result]
    split
    · decide
    · exact (sum_zero _ _ (hotState_cases 1 2 _ _) (hotState_cases 1 2 _ _)).1
  | opmula =>
    refine ⟨probe false, 1, 2, ?_⟩
    simp only [UpperOp.result]
    split
    · decide
    · exact (sum_zero _ _ (hotState_cases 1 2 _ _) (hotState_cases 1 2 _ _)).2
  | itof scale =>
    refine ⟨probe false, 1, 2, ?_⟩
    have hs : (hotState 0 c 1 2).vfOf instr.FS c = 1 ∨ (hotState 0 c 1 2).vfOf instr.FS c = 2 :=
      hotState_cases 1 2 _ _
    simp only [UpperOp.result]
    generalize (hotState 0 c 1 2).vfOf instr.FS c = x at hs ⊢
    have hsum : (x + 1).setWidth 8 ≠ (1 : BitVec 32).setWidth 8 := by
      obtain rfl | rfl := hs <;> decide
    cases scale with
    | none => exact hsum
    | some scale => exact hsum
  | ftoi scale =>
    refine ⟨probe true, 1, 2, ?_⟩
    have hs : (hotState 0 c 1 2).vfOf instr.FS c = 1 ∨ (hotState 0 c 1 2).vfOf instr.FS c = 2 :=
      hotState_cases 1 2 _ _
    simp only [UpperOp.result]
    generalize (hotState 0 c 1 2).vfOf instr.FS c = x at hs ⊢
    change (vuFtoi (probe true) x 0).setWidth 8 ≠ _
    obtain rfl | rfl := hs <;> decide
  | abs =>
    refine ⟨probe false, 1, 2, ?_⟩
    have hs : (hotState 0 c 1 2).vfOf instr.FS c = 1 ∨ (hotState 0 c 1 2).vfOf instr.FS c = 2 :=
      hotState_cases 1 2 _ _
    simp only [UpperOp.result]
    generalize (hotState 0 c 1 2).vfOf instr.FS c = x at hs ⊢
    change (x + 1).setWidth 8 ≠ _
    obtain rfl | rfl := hs <;> decide

/-- A lane of a result is made of two lanes at most. -/
theorem reads_two (instr : VuWord) (c : Fin 4) (op : UpperOp) :
    ∃ first second, ∀ r lane, op.Reads instr c r lane → lane = first ∨ lane = second := by
  cases op with
  | fmac function operand =>
    cases operand with
    | vector => exact ⟨c, c, fun r lane h => Or.inl h.2⟩
    | bc =>
      refine ⟨c, Fin.ofNat 4 instr.BC, ?_⟩
      rintro r lane (⟨-, h⟩ | ⟨-, h⟩)
      · exact Or.inl h
      · exact Or.inr h
    | q => exact ⟨c, c, fun r lane h => Or.inl h.2⟩
    | i => exact ⟨c, c, fun r lane h => Or.inl h.2⟩
  | opmsub =>
    refine ⟨(UpperOp.result.opLanes c).1, (UpperOp.result.opLanes c).2, ?_⟩
    rintro r lane ⟨-, ⟨-, h⟩ | ⟨-, h⟩⟩
    · exact Or.inl h
    · exact Or.inr h
  | opmula =>
    refine ⟨(UpperOp.result.opLanes c).1, (UpperOp.result.opLanes c).2, ?_⟩
    rintro r lane ⟨-, ⟨-, h⟩ | ⟨-, h⟩⟩
    · exact Or.inl h
    · exact Or.inr h
  | itof scale => exact ⟨c, c, fun r lane h => Or.inl h.2⟩
  | ftoi scale => exact ⟨c, c, fun r lane h => Or.inl h.2⟩
  | abs => exact ⟨c, c, fun r lane h => Or.inl h.2⟩

/-- Of the lanes with some property that are read, one is not behind another. -/
theorem exists_hot {P : Fin 4 → Prop} (hP : P hot) (hreads : op.Reads instr c r hot) :
    ∃ lane, P lane ∧ op.Reads instr c r lane ∧
      ¬(P (lane - 1) ∧ op.Reads instr c r (lane - 1)) := by
  by_cases hbehind : P (hot - 1) ∧ op.Reads instr c r (hot - 1)
  · refine ⟨hot - 1, hbehind.1, hbehind.2, fun hagain => ?_⟩
    obtain ⟨first, second, htwo⟩ := reads_two instr c op
    have hthree : ∀ first second lane : Fin 4, (lane = first ∨ lane = second) →
        (lane - 1 = first ∨ lane - 1 = second) →
        ¬(lane - 1 - 1 = first ∨ lane - 1 - 1 = second) := by decide
    exact hthree first second hot (htwo r hot hreads) (htwo r _ hbehind.2) (htwo r _ hagain.2)
  · exact ⟨hot, hP, hreads, hbehind⟩

end Operands

/-! ## Conflicts -/

section Conflicts

variable {lower upper : VuWord}

/-- A changed lane that is read, and the lower instruction first. -/
theorem lowerFirst_differs {r : Fin 32} {lane : Fin 4} (hchanges : LowerChanges lower r lane)
    (hreads : UpperReads upper r lane) :
    ∃ (fl : HostFloat) (b : BitVec 32) (state : VuState Unit) (data : VuData) (reg : ℕ)
      (op : UpperOp) (c : Fin 4),
      upperAction upper = .vf reg op ∧ selects upper.DEST c = true ∧
      op.result fl (execLower fl noXgkick b lower state data).1 upper c ≠
        op.result fl state upper c := by
  unfold UpperReads at hreads
  cases haction : upperAction upper with
  | acc op => simp [haction] at hreads
  | clip => simp [haction] at hreads
  | nop => simp [haction] at hreads
  | vf reg op =>
    simp only [haction] at hreads
    obtain ⟨c, hc, hop⟩ := hreads
    unfold LowerChanges at hchanges
    split at hchanges
    next target source hwrite =>
      obtain ⟨rfl, hselects, hsource⟩ := hchanges
      obtain ⟨hot, hhot, hreadhot, hbehind⟩ :=
        exists_hot (P := fun lane => selects lower.DEST lane = true) hselects hop
      obtain ⟨fl, a, b, hb, hne⟩ := result_sensitive hreadhot
      obtain ⟨data, hdata⟩ : ∃ data : VuData, ∀ addr, data.word addr = b := by
        obtain rfl | rfl := hb
        · exact ⟨_, fun addr => (word_uniformData addr).1⟩
        · exact ⟨_, fun addr => (word_uniformData addr).2⟩
      have hinteger : toInt16 b = b := by obtain rfl | rfl := hb <;> decide
      refine ⟨fl, 0, hotState target hot a b, data, reg, op, c, rfl, hc, ?_⟩
      have hframe : (execLower fl noXgkick 0 lower (hotState target hot a b) data).1.acc = _ ∧ _ :=
        execLower_frame fl noXgkick 0 (hotState target hot a b) data
      obtain ⟨hacc, hq, hi, -⟩ := hframe
      obtain ⟨written, hgives, hvf⟩ :=
        execLower_write fl noXgkick 0 (hotState target hot a b) data hwrite
      -- the lane that was unlike the others is written with what is like them
      have hcold (r : Fin 32) (lane : Fin 4) (hread : op.Reads upper c r lane) :
          (execLower fl noXgkick 0 lower (hotState target hot a b) data).1.vf r lane =
            (hotState target hot b b).vf r lane := by
        rw [hvf, hotState_same]
        by_cases hr : r = target
        · subst hr
          rw [Function.update_self, applyDest]
          split
          next hlane =>
            cases source with
            | vf source =>
              rw [hgives]
              exact if_neg fun h => hsource (congrArg _ h.1)
            | rotated source =>
              rw [hgives]
              refine if_neg fun h => hbehind ?_
              have hprevious : lane = hot - 1 := by rw [← h.2, add_sub_cancel_right]
              exact ⟨hprevious ▸ hlane, hprevious ▸ hread⟩
            | other =>
              rw [hgives b hdata (fun _ => hinteger) rfl]
          next hlane => exact if_neg fun h : r = r ∧ lane = hot => hlane (h.2.symm ▸ hhot)
        · rw [Function.update_of_ne hr]
          exact if_neg fun h => hr h.1
      have hsame : op.result fl (execLower fl noXgkick 0 lower (hotState target hot a b) data).1
          upper c = op.result fl (hotState target hot b b) upper c :=
        result_congr fl upper hacc hq hi hcold
      rw [hsame]
      exact hne.symm
    next => exact absurd hchanges id

theorem byte_storeQuadword (data : VuData) (addr : ℕ) (lanes : Lanes) (c : Fin 4) :
    ((data.storeQuadword addr lanes).byte (addr + 4 * c.val)).toBitVec = (lanes c).setWidth 8 := by
  have hinside : addr ≤ addr + 4 * c.val ∧ addr + 4 * c.val < addr + 16 := by omega
  have hlane : Fin.ofNat 4 ((addr + 4 * c.val - addr) / 4) = c := by
    rw [Nat.add_sub_cancel_left, Nat.mul_div_cancel_left _ (by decide)]
    exact Fin.ext (Nat.mod_eq_of_lt c.isLt)
  have hbyte : (addr + 4 * c.val - addr) % 4 = 0 := by
    rw [Nat.add_sub_cancel_left, Nat.mul_mod_right]
  unfold VuData.storeQuadword
  dsimp only
  rw [if_pos hinside, hlane, hbyte]
  refine BitVec.eq_of_toNat_eq ?_
  rw [BitVec.toNat_setWidth]
  rfl

theorem setWidth_toInt16 (value : BitVec 32) :
    (toInt16 value).setWidth 8 = value.setWidth 8 := by
  refine BitVec.eq_of_getLsbD_eq fun k hk => ?_
  unfold toInt16
  rw [BitVec.getLsbD_setWidth, BitVec.getLsbD_setWidth, BitVec.getLsbD_signExtend,
    BitVec.getLsbD_setWidth]
  simp [hk, show k < 32 by omega, show k < 16 by omega]

/-- A disturbed lane of VF0 that is read, and the upper instruction first. -/
theorem upperFirst_differs {c : Fin 4} (hdisturbs : UpperDisturbsZero upper c)
    (hreads : LowerReads lower 0 c) :
    ∃ (fl : HostFloat) (state : VuState Unit) (data : VuData),
      let after := execLower fl noXgkick 0 lower (execUpper fl upper state) data
      let after' := execLower fl noXgkick 0 lower state data
      (∃ r lane, r ≠ 0 ∧ ¬UpperWrites upper r lane ∧ after.1.vf r lane ≠ after'.1.vf r lane) ∨
        after.2 ≠ after'.2 ∨ ∃ r, r ≠ 0 ∧ after.1.vi r ≠ after'.1.vi r := by
  unfold UpperDisturbsZero at hdisturbs
  cases haction : upperAction upper with
  | acc op => simp [haction] at hdisturbs
  | clip => simp [haction] at hdisturbs
  | nop => simp [haction] at hdisturbs
  | vf reg op =>
    simp only [haction] at hdisturbs
    obtain ⟨hreg, hc, hkeeps⟩ := hdisturbs
    obtain ⟨fl, a, b, hbyte⟩ := result_disturbs hkeeps
    refine ⟨fl, hotState 0 c a b, uniformData 0, ?_⟩
    obtain ⟨pipeline, hupper⟩ := execUpper_disturbed fl upper (hotState 0 c a b)
    have hbefore : (hotState 0 c a b).vf 0 c = a := hotState_self a b
    have hduring : (execUpper fl upper (hotState 0 c a b)).vf 0 c =
        op.result fl (hotState 0 c a b) upper c := by
      rw [hupper]
      have hwritten := upperVf_of_writes fl upper (hotState 0 c a b) haction hc
      rw [hreg] at hwritten
      exact hwritten
    have hlow : ((execUpper fl upper (hotState 0 c a b)).vf 0 c).setWidth 8 ≠
        ((hotState 0 c a b).vf 0 c).setWidth 8 := by
      rw [hduring, hbefore]
      exact hbyte
    have hnot {r : Fin 32} (hr : r ≠ 0) (lane : Fin 4) : ¬UpperWrites upper r lane := by
      unfold UpperWrites
      rw [haction]
      rintro ⟨h, -⟩
      exact hr (h.symm.trans hreg)
    dsimp only
    unfold LowerReads at hreads
    split at hreads
    next target source hwrite =>
      obtain ⟨hr, rfl, hselects⟩ := hreads
      obtain ⟨result, hgives, hvf⟩ := execLower_write fl noXgkick 0
        (execUpper fl upper (hotState 0 c a b)) (uniformData 0) hwrite
      obtain ⟨result', hgives', hvf'⟩ := execLower_write fl noXgkick 0 (hotState 0 c a b)
        (uniformData 0) hwrite
      refine Or.inl ⟨target, c, hr, hnot hr c, fun heq => hlow ?_⟩
      rw [hvf, hvf', Function.update_self, Function.update_self, applyDest, applyDest,
        if_pos hselects, if_pos hselects, hgives, hgives'] at heq
      rw [heq]
    next target source hwrite =>
      obtain ⟨hr, rfl, hselects⟩ := hreads
      obtain ⟨result, hgives, hvf⟩ := execLower_write fl noXgkick 0
        (execUpper fl upper (hotState 0 c a b)) (uniformData 0) hwrite
      obtain ⟨result', hgives', hvf'⟩ := execLower_write fl noXgkick 0 (hotState 0 c a b)
        (uniformData 0) hwrite
      refine Or.inl ⟨target, c - 1, hr, hnot hr _, fun heq => hlow ?_⟩
      rw [hvf, hvf', Function.update_self, Function.update_self, applyDest, applyDest,
        if_pos hselects, if_pos hselects, hgives, hgives'] at heq
      simp only [sub_add_cancel] at heq
      rw [heq]
    next source hstore =>
      obtain ⟨rfl, hselects⟩ := hreads
      obtain ⟨addr, hdata⟩ := execLower_store fl noXgkick 0 (hotState 0 c a b) (uniformData 0)
        hstore
      refine Or.inr (Or.inl fun heq => hlow ?_)
      rw [hupper, hdata] at heq
      have hplain := hdata (hotState 0 c a b).vf ⟨fun _ => b, b, b⟩ (hotState 0 c a b).rest.pipeline
      have hbytes := congrArg (fun data => (data.byte (addr + 4 * c.val)).toBitVec)
        (heq.trans hplain)
      simp only [byte_storeQuadword, applyDest, if_pos hselects] at hbytes
      rw [hupper]
      exact hbytes
    next target source lane hinteger =>
      obtain ⟨hr, rfl, rfl⟩ := hreads
      obtain ⟨hlt, hvi⟩ := execLower_toInteger fl noXgkick 0
        (execUpper fl upper (hotState 0 lane a b)) (uniformData 0) hinteger hr
      obtain ⟨-, hvi'⟩ := execLower_toInteger fl noXgkick 0 (hotState 0 lane a b) (uniformData 0)
        hinteger hr
      refine Or.inr (Or.inr ⟨Fin.ofNat 16 target, fun hzero => hr ?_, fun heq => hlow ?_⟩)
      · have hval := congrArg Fin.val hzero
        rw [← Nat.mod_eq_of_lt hlt]
        exact hval
      · rw [hvi, hvi'] at heq
        rw [← setWidth_toInt16, heq, setWidth_toInt16]
    next => exact absurd hreads id

theorem pairResult_vf {ξ : Type} (state : VuState ξ) (data : VuData) {r : Fin 32} (hr : r ≠ 0) :
    (pairResult (state.enforceConstants, data)).vf r = state.vf r :=
  Function.update_of_ne hr ..

theorem pairResult_vi {ξ : Type} (state : VuState ξ) (data : VuData) {r : Fin 16} (hr : r ≠ 0) :
    (pairResult (state.enforceConstants, data)).vi r = state.vi r :=
  Function.update_of_ne hr ..

/-- **A pair is as if both instructions were at once exactly when there is no conflict.** -/
theorem readsBeforeWrites_iff (lower upper : VuWord) :
    ReadsBeforeWrites lower upper ↔ ¬Conflict lower upper := by
  constructor
  · rintro hsame ⟨hiBit, hconflict⟩
    unfold ReadsBeforeWrites at hsame
    unfold executePair simultaneous at hsame
    simp only [hiBit, Bool.false_eq_true, if_false, decodeInstructionPair_order hiBit]
      at hsame hconflict
    split at hconflict
    next hfirst =>
      obtain ⟨r, lane, hchanges, hreads⟩ := hconflict
      obtain ⟨fl, mask, state, data, reg, op, c, haction, hc, hne⟩ :=
        lowerFirst_differs hchanges hreads
      have hreg : Fin.ofNat 32 reg ≠ 0 := by
        intro hzero
        have hlt : reg < 32 := by
          have hbound := vfReg_lt upper
          rw [haction] at hbound
          exact hbound
        have hwrite : vuUpperVfWriteReg upper = 0 := by
          rw [vuUpperVfWriteReg_eq, haction]
          have hval : reg % 32 = 0 := congrArg Fin.val hzero
          rw [Nat.mod_eq_of_lt hlt] at hval
          change (if upper.DEST = 0 then 0 else reg) = 0
          rw [hval, ite_self]
        unfold vuLowerShouldRunBeforeUpper at hfirst
        simp [hwrite] at hfirst
      have hlanes := congrArg (fun result => result.vf (Fin.ofNat 32 reg) c)
        (hsame fl Unit noXgkick mask state data)
      simp only [hfirst, if_true, pairResult_vf _ _ hreg] at hlanes
      change (execUpper fl upper (execLower fl noXgkick mask lower state data).1).vf _ c =
        if UpperWrites upper _ c then (execUpper fl upper state).vf _ c else _ at hlanes
      have hwrites : UpperWrites upper (Fin.ofNat 32 reg) c := by
        unfold UpperWrites
        rw [haction]
        exact ⟨rfl, hc⟩
      obtain ⟨pipeline, hafter⟩ := execUpper_disturbed fl upper
        (execLower fl noXgkick mask lower state data).1
      obtain ⟨pipeline', hbefore⟩ := execUpper_disturbed fl upper state
      rw [if_pos hwrites, hafter, hbefore] at hlanes
      have hresult := (upperVf_of_writes fl upper _ haction hc).symm.trans
        (hlanes.trans (upperVf_of_writes fl upper _ haction hc))
      exact hne hresult
    next hfirst =>
      obtain ⟨c, hdisturbs, hreads⟩ := hconflict
      obtain ⟨fl, state, data, hdiffers⟩ := upperFirst_differs hdisturbs hreads
      have hequal := hsame fl Unit noXgkick 0 state data
      simp only [hfirst, Bool.false_eq_true, if_false] at hequal
      rw [execLower_of_nop] at hequal
      obtain ⟨r, lane, hr, hwrites, hne⟩ | hne | ⟨r, hr, hne⟩ := hdiffers
      · have hlanes := congrArg (fun result => result.vf r lane) hequal
        simp only [pairResult_vf _ _ hr] at hlanes
        exact hne (hlanes.trans (if_neg hwrites))
      · exact hne (congrArg PairResult.data hequal)
      · have hvi := congrArg (fun result => result.vi r) hequal
        simp only [pairResult_vi _ _ hr] at hvi
        exact hne hvi
  · intro hnone fl ξ unit codeAddressMask state data
    exact executePair_simultaneous fl unit codeAddressMask data hnone

end Conflicts

/-- An arithmetic with the absolute value of a float. -/
def signless : HostFloat := { probe false with fabs := fun x => x &&& 0x7FFFFFFF#32 }

/-- VF1 has 1.0 in its lanes, VF2 has 2.0, and the rest is 0. -/
def oneAndTwo : VuState Unit :=
  { hotState 0 0 0 0 with
    vf := fun r _ => if r = 1 then 0x3F800000#32 else if r = 2 then 0x40000000#32 else 0 }

/-- **`ABS.x VF1, VF2` with `MOVE.x VF2, VF1` below it has in VF1 what was in it.** -/
theorem abs_move_differs :
    pairResult (executePair signless noXgkick 0x3FF8#32
      (decodeInstructionPair 0x81020B3C#32 0x010111FD#32) oneAndTwo (uniformData 0)) ≠
    simultaneous signless noXgkick 0x3FF8#32
      (decodeInstructionPair 0x81020B3C#32 0x010111FD#32) oneAndTwo (uniformData 0) := by
  intro hsame
  have hlane : 0x3F800000#32 = 0x40000000#32 := congrArg (fun result => result.vf 1 0) hsame
  revert hlane
  decide

end Ps2Recomp.VuInterpreterBackend
