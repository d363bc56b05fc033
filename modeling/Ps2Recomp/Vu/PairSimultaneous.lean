import Ps2Recomp.Vu.LowerFrame

/-!
# The order of a pair without conflict

The register masks of `vuLowerVfReadWriteMasks` have what the lower instruction reads and writes,
and `vuUpperVfWriteReg` is what the upper one writes. So of two instructions without `Conflict` the
second one finds every lane that it reads as it was before the pair (`executePair_simultaneous`).
-/

namespace Ps2Recomp

namespace VuWord

variable (i : VuWord)

theorem FT_lt : i.FT < 32 := by
  unfold FT
  rw [BitVec.toNat_and]
  exact Nat.lt_of_le_of_lt Nat.and_le_right (by decide)

theorem FS_lt : i.FS < 32 := by
  unfold FS
  rw [BitVec.toNat_and]
  exact Nat.lt_of_le_of_lt Nat.and_le_right (by decide)

theorem FD_lt : i.FD < 32 := by
  unfold FD
  rw [BitVec.toNat_and]
  exact Nat.lt_of_le_of_lt Nat.and_le_right (by decide)

theorem upperPrimary_lt : i.upperPrimary < 64 := by
  unfold upperPrimary
  rw [BitVec.toNat_and]
  exact Nat.lt_of_le_of_lt Nat.and_le_right (by decide)

/-- The top bit is in the primary opcode. -/
theorem getLsbD_31 : i.getLsbD 31 = i.lowerPrimary.testBit 6 := by
  unfold lowerPrimary
  rw [BitVec.testBit_toNat, BitVec.getLsbD_and, BitVec.getLsbD_ushiftRight,
    show BitVec.getLsbD (0x7F : BitVec 32) 6 = true from rfl, Bool.and_true]

theorem top_ne_zero_iff : i &&& 0x80000000#32 ≠ 0 ↔ i.getLsbD 31 = true := by
  constructor
  · intro hne
    by_contra hbit
    refine hne (BitVec.eq_of_getLsbD_eq fun k hk => ?_)
    rw [BitVec.getLsbD_and, BitVec.getLsbD_ofNat]
    by_cases h31 : k = 31
    · subst h31
      rw [Bool.not_eq_true] at hbit
      rw [hbit, Bool.false_and]
      rfl
    · have hmask : Nat.testBit 0x80000000 k = false := by
        rw [show 0x80000000 = 2 ^ 31 from rfl, Nat.testBit_two_pow_of_ne (Ne.symm h31)]
      simp [hmask]
  · intro hbit hzero
    have htest : _ = (0#32).getLsbD 31 := congrArg (BitVec.getLsbD · 31) hzero
    rw [BitVec.getLsbD_and, hbit, BitVec.getLsbD_zero] at htest
    exact absurd htest (by decide)

end VuWord

namespace VuInterpreterBackend

/-! ## Register masks -/

theorem getLsbD_single (r : Fin 32) {reg : ℕ} (h : r.val = reg) (hr : r ≠ 0) :
    (vuSetRegBit 0 reg).getLsbD r.val = true := by
  rw [getLsbD_vuSetRegBit]
  simp [h.symm, hr]

/-- The masks have what is read and written. -/
def MasksHave (masks : BitVec 32 × BitVec 32) : LowerVf → Prop
  | .nothing => True
  | .write reg source =>
    (reg ≠ 0 → masks.2.getLsbD reg.val = true) ∧
      match source with
      | .vf source | .rotated source => source ≠ 0 → masks.1.getLsbD source.val = true
      | .other => True
  | .store source | .toInteger _ source _ => source ≠ 0 → masks.1.getLsbD source.val = true

theorem masksHave_lowerVf (instr : VuWord) :
    MasksHave (vuLowerVfReadWriteMasks instr) (lowerVf instr) := by
  have hft : (Fin.ofNat 32 instr.FT).val = instr.LIT := Nat.mod_eq_of_lt instr.FT_lt
  have hfs : (Fin.ofNat 32 instr.FS).val = instr.LIS := Nat.mod_eq_of_lt instr.FS_lt
  generalize hread : vuLowerVfReadWriteMasks instr = masks
  unfold lowerVf
  split_ifs with hnop
  · trivial
  have hmasks := (vuLowerVfReadWriteMasks.eq_def instr).trans (if_neg hnop)
  rw [hread] at hmasks
  split
  case h_1 hop =>
    have htop : ¬instr &&& 0x80000000#32 ≠ 0 := by
      rw [instr.top_ne_zero_iff, instr.getLsbD_31, hop]
      decide
    rw [if_neg htop] at hmasks
    simp only [hop] at hmasks
    subst hmasks
    exact ⟨getLsbD_single _ hft, trivial⟩
  case h_2 hop =>
    have htop : ¬instr &&& 0x80000000#32 ≠ 0 := by
      rw [instr.top_ne_zero_iff, instr.getLsbD_31, hop]
      decide
    rw [if_neg htop] at hmasks
    simp only [hop] at hmasks
    subst hmasks
    exact getLsbD_single _ hfs
  case h_4 => trivial
  case h_3 hop =>
    have htop : instr &&& 0x80000000#32 ≠ 0 := by
      rw [instr.top_ne_zero_iff, instr.getLsbD_31, hop]
      decide
    rw [if_pos htop] at hmasks
    split
    case h_5 => trivial
    all_goals
      rename_i hfunction
      rw [if_pos (by omega)] at hmasks
      unfold lowerVfSpecial
      dsimp only
      split
      case h_10 => trivial
      all_goals
        rename_i hspecial
        simp only [hspecial] at hmasks
        subst hmasks
        first
          | exact ⟨getLsbD_single _ hft, getLsbD_single _ hfs⟩
          | exact ⟨getLsbD_single _ hft, trivial⟩
          | exact getLsbD_single _ hfs

def UpperAction.vfReg : UpperAction → ℕ
  | .vf reg _ => reg
  | _ => 0

theorem vuUpperVfWriteReg_special {instr : VuWord} (hspecial : instr.upperPrimary ≥ 0x3C) :
    vuUpperVfWriteReg instr = if instr.DEST = 0 then 0 else (specialAction instr).vfReg := by
  generalize haction : specialAction instr = action
  unfold vuUpperVfWriteReg
  dsimp only
  rw [if_neg (show ¬instr.upperPrimary ≤ 0x2F by omega), if_pos hspecial]
  congr 1
  unfold specialAction at haction
  split at haction
  case h_47 =>
    subst haction
    split
    all_goals first
      | contradiction
      | rfl
  all_goals
    rename_i hop
    subst haction
    simp only [hop]
    rfl

/-- The register of `vuUpperVfWriteReg`. -/
theorem vuUpperVfWriteReg_eq (instr : VuWord) :
    vuUpperVfWriteReg instr = if instr.DEST = 0 then 0 else (upperAction instr).vfReg := by
  generalize haction : upperAction instr = action
  unfold upperAction at haction
  split at haction
  case h_53 =>
    subst haction
    simp only [imp_false] at *
    have hlt := instr.upperPrimary_lt
    unfold vuUpperVfWriteReg
    dsimp only
    rw [if_neg (show ¬instr.upperPrimary ≤ 0x2F by omega),
      if_neg (show ¬instr.upperPrimary ≥ 0x3C by omega)]
    rfl
  case h_49 hop => exact haction ▸ vuUpperVfWriteReg_special (by omega)
  case h_50 hop => exact haction ▸ vuUpperVfWriteReg_special (by omega)
  case h_51 hop => exact haction ▸ vuUpperVfWriteReg_special (by omega)
  case h_52 hop => exact haction ▸ vuUpperVfWriteReg_special (by omega)
  all_goals
    rename_i hop
    subst haction
    unfold vuUpperVfWriteReg
    dsimp only
    rw [if_pos (show instr.upperPrimary ≤ 0x2F by omega)]
    rfl

/-! ## Pairs without conflict -/

theorem vfReg_lt (instr : VuWord) : (upperAction instr).vfReg < 32 := by
  have hspecial : (specialAction instr).vfReg < 32 := by
    unfold specialAction
    split
    all_goals first
      | exact instr.FT_lt
      | exact Nat.zero_lt_of_ne_zero (by decide)
  unfold upperAction
  split
  all_goals first
    | exact instr.FD_lt
    | exact hspecial
    | exact Nat.zero_lt_of_ne_zero (by decide)

/-- Where the upper instruction runs first, the lower one neither reads nor writes its register. -/
theorem untouched_of_order {upper lower : VuWord} {r : Fin 32} {c : Fin 4} (hr : r ≠ 0)
    (hwrites : UpperWrites upper r c) (horder : vuLowerShouldRunBeforeUpper upper lower = false)
    (c' : Fin 4) : ¬LowerWrites lower r c' ∧ ¬LowerReads lower r c' := by
  have hreg : vuUpperVfWriteReg upper = r.val := by
    rw [vuUpperVfWriteReg_eq]
    unfold UpperWrites at hwrites
    cases haction : upperAction upper with
    | vf reg op =>
      simp only [haction] at hwrites
      obtain ⟨rfl, hc⟩ := hwrites
      have hdest : upper.DEST ≠ 0 := by
        intro hzero
        rw [hzero, selects, Nat.zero_testBit] at hc
        cases hc
      have hlt := vfReg_lt upper
      rw [haction] at hlt
      rw [if_neg hdest]
      exact (Nat.mod_eq_of_lt hlt).symm
    | acc op => simp [haction] at hwrites
    | clip => simp [haction] at hwrites
    | nop => simp [haction] at hwrites
  have hno (hbit : (vuLowerVfReadWriteMasks lower).1.getLsbD r.val = true ∨
      (vuLowerVfReadWriteMasks lower).2.getLsbD r.val = true) : False := by
    have hfirst : vuLowerShouldRunBeforeUpper upper lower = true :=
      vuLowerShouldRunBeforeUpper_of_bit hr hreg (by
        rw [BitVec.getLsbD_or, Bool.or_eq_true]
        exact hbit)
    rw [horder] at hfirst
    cases hfirst
  have hmasks := masksHave_lowerVf lower
  unfold LowerWrites LowerReads
  generalize lowerVf lower = action at hmasks
  cases action with
  | nothing => exact ⟨id, id⟩
  | write reg source =>
    refine ⟨?_, ?_⟩
    · rintro ⟨rfl, -⟩
      exact hno (Or.inr (hmasks.1 hr))
    · cases source with
      | vf source =>
        rintro ⟨-, rfl, -⟩
        exact hno (Or.inl (hmasks.2 hr))
      | rotated source =>
        rintro ⟨-, rfl, -⟩
        exact hno (Or.inl (hmasks.2 hr))
      | other => exact id
  | store source =>
    refine ⟨id, ?_⟩
    rintro ⟨rfl, -⟩
    exact hno (Or.inl (hmasks hr))
  | toInteger reg source lane =>
    refine ⟨id, ?_⟩
    rintro ⟨-, rfl, -⟩
    exact hno (Or.inl (hmasks hr))

variable {ξ : Type} (fl : HostFloat) (unit : XgkickUnit ξ) (codeAddressMask : BitVec 32)
  {state : VuState ξ} (data : VuData)

theorem FmacOperand.value_zero {operand : FmacOperand} {instr : VuWord} {c : Fin 4}
    (ht : Fin.ofNat 32 instr.FT = 0)
    (hlane : operand = .vector ∨ operand = .bc ∧ Fin.ofNat 4 instr.BC = c) :
    operand.value state instr c = state.vf 0 c := by
  obtain rfl | ⟨rfl, hbc⟩ := hlane
  · rw [FmacOperand.value, VuState.vfOf, ht]
  · rw [FmacOperand.value, broadcast, hbc, VuState.vfOf, ht]

/-- A maximum or a minimum of a lane and the same lane is the lane. -/
theorem UpperOp.KeepsZero.result {op : UpperOp} {instr : VuWord} {c : Fin 4}
    (h : op.KeepsZero instr c) : op.result fl state instr c = state.vf 0 c := by
  unfold UpperOp.KeepsZero at h
  split at h
  next operand =>
    obtain ⟨hs, ht, hlane⟩ := h
    have hvs : state.vfOf instr.FS c = state.vf 0 c := by rw [VuState.vfOf, hs]
    simp only [UpperOp.result, FmacFunction.apply, hvs, FmacOperand.value_zero ht hlane, ite_self]
  next operand =>
    obtain ⟨hs, ht, hlane⟩ := h
    have hvs : state.vfOf instr.FS c = state.vf 0 c := by rw [VuState.vfOf, hs]
    simp only [UpperOp.result, FmacFunction.apply, hvs, FmacOperand.value_zero ht hlane, ite_self]
  next => exact absurd h id

/-- The lower instruction is executed, whether or not it is tested to be a NOP. -/
theorem execLower_of_nop (lower : VuWord) :
    (if lower ≠ 0 ∧ lower ≠ 0x8000033C#32 then
        execLower fl unit codeAddressMask lower state data
      else (state, data)) = execLower fl unit codeAddressMask lower state data := by
  split
  next => rfl
  next hnop =>
    rw [execLower, if_pos (by by_contra hne; exact hnop (not_or.1 hne))]

variable {lower upper : VuWord}

/-- What the constants leave to compare. -/
theorem pairResult_congr {after after' : VuState ξ} {data data' : VuData}
    (hvf : ∀ r c, r ≠ 0 → after.vf r c = after'.vf r c) (hvi : after.vi = after'.vi)
    (hacc : after.acc = after'.acc) (hdata : data = data') :
    pairResult (after.enforceConstants, data) = pairResult (after'.enforceConstants, data') := by
  have hregs : after.enforceConstants.vf = after'.enforceConstants.vf := by
    funext r
    unfold VuState.enforceConstants
    dsimp only
    by_cases hr : r = 0
    · rw [hr, Function.update_self, Function.update_self]
    · rw [Function.update_of_ne hr, Function.update_of_ne hr]
      exact funext fun c => hvf r c hr
  have hints : after.enforceConstants.vi = after'.enforceConstants.vi := by
    unfold VuState.enforceConstants
    rw [hvi]
  unfold pairResult
  rw [hregs, hints, hdata]
  exact congrArg (fun acc => PairResult.mk _ _ acc _) hacc

/-- The lower instruction first: the lanes that the upper one reads are as they were. -/
theorem lowerFirst_simultaneous (hreg : vuUpperVfWriteReg upper ≠ 0)
    (hquiet : ∀ r c, LowerChanges lower r c → ¬UpperReads upper r c) :
    let after := execLower fl unit codeAddressMask lower state data
    pairResult ((execUpper fl upper after.1).enforceConstants, after.2) =
      pairResult (VuState.enforceConstants
        { state with
          vf := fun r c =>
            if UpperWrites upper r c then (execUpper fl upper state).vf r c else after.1.vf r c
          vi := after.1.vi
          acc := (execUpper fl upper state).acc }, after.2) := by
  intro after
  obtain ⟨hacc, hq, hi, -⟩ : after.1.acc = state.acc ∧ after.1.q = state.q ∧
      after.1.i = state.i ∧ _ := execLower_frame fl unit codeAddressMask state data
  obtain ⟨pipeline, hseq⟩ := execUpper_disturbed fl upper after.1
  obtain ⟨pipeline', hupper⟩ := execUpper_disturbed fl upper state
  rw [hseq, hupper]
  rw [vuUpperVfWriteReg_eq] at hreg
  refine pairResult_congr (fun r c _ => ?_) rfl ?_ rfl
  · change upperVf fl upper after.1 r c =
      if UpperWrites upper r c then upperVf fl upper state r c else after.1.vf r c
    split
    next hwrites =>
      unfold UpperWrites at hwrites
      cases haction : upperAction upper with
      | vf reg op =>
        simp only [haction] at hwrites
        obtain ⟨rfl, hc⟩ := hwrites
        rw [upperVf_of_writes fl upper _ haction hc, upperVf_of_writes fl upper _ haction hc]
        refine result_congr fl upper hacc hq hi fun r' lane hreads => ?_
        refine execLower_of_not_changes fl unit codeAddressMask state data fun hchanges => ?_
        refine hquiet r' lane hchanges ?_
        unfold UpperReads
        rw [haction]
        exact ⟨c, hc, hreads⟩
      | acc op => simp [haction] at hwrites
      | clip => simp [haction] at hwrites
      | nop => simp [haction] at hwrites
    next hwrites => exact upperVf_of_not_writes fl upper _ hwrites
  · change upperAcc fl upper after.1 = upperAcc fl upper state
    unfold upperAcc
    cases haction : upperAction upper with
    | acc op =>
      rw [haction] at hreg
      exact absurd (ite_self _) hreg
    | vf reg op => exact hacc
    | clip => exact hacc
    | nop => exact hacc

/-- The upper instruction first: the lanes that the lower one reads are as they were. -/
theorem upperFirst_simultaneous (horder : vuLowerShouldRunBeforeUpper upper lower = false)
    (hquiet : ∀ c, UpperDisturbsZero upper c → ¬LowerReads lower 0 c) :
    let after := execLower fl unit codeAddressMask lower state data
    let after' := execLower fl unit codeAddressMask lower (execUpper fl upper state) data
    pairResult (after'.1.enforceConstants, after'.2) =
      pairResult (VuState.enforceConstants
        { state with
          vf := fun r c =>
            if UpperWrites upper r c then (execUpper fl upper state).vf r c else after.1.vf r c
          vi := after.1.vi
          acc := (execUpper fl upper state).acc }, after.2) := by
  intro after after'
  obtain ⟨pipeline, hupper⟩ := execUpper_disturbed fl upper state
  have hreads (r : Fin 32) (c : Fin 4) (hread : LowerReads lower r c) :
      upperVf fl upper state r c = state.vf r c := by
    by_cases hwrites : UpperWrites upper r c
    · by_cases hr : r = 0
      · -- what is left of a write to VF0 that is read is a lane that it keeps
        subst hr
        have hzero : ¬UpperDisturbsZero upper c := fun hdisturbs => hquiet c hdisturbs hread
        unfold UpperWrites at hwrites
        unfold UpperDisturbsZero at hzero
        cases haction : upperAction upper with
        | vf reg op =>
          simp only [haction] at hwrites hzero
          obtain ⟨hreg, hc⟩ := hwrites
          have hkeeps : op.KeepsZero upper c := not_not.1 fun hnot => hzero ⟨hreg, hc, hnot⟩
          have hwritten := upperVf_of_writes fl upper state haction hc
          rw [hreg] at hwritten
          exact hwritten.trans (hkeeps.result fl)
        | acc op => simp [haction] at hwrites
        | clip => simp [haction] at hwrites
        | nop => simp [haction] at hwrites
      · exact absurd hread (untouched_of_order hr hwrites horder c).2
    · exact upperVf_of_not_writes fl upper state hwrites
  have hfollows : Follows lower (upperVf fl upper state)
      ⟨upperAcc fl upper state, state.q, state.i⟩
      (execLower fl unit codeAddressMask lower (state.disturbed (upperVf fl upper state)
        ⟨upperAcc fl upper state, state.q, state.i⟩ pipeline) data) after :=
    execLower_disturbed fl unit codeAddressMask state data hreads
  obtain ⟨vf', pipeline', hafter, hwritten, hkept⟩ := hfollows
  have hafter' : after' = _ :=
    (congrArg (execLower fl unit codeAddressMask lower · data) hupper).trans hafter
  rw [hafter', hupper]
  refine pairResult_congr (fun r c hr => ?_) rfl rfl rfl
  change vf' r c = if UpperWrites upper r c then upperVf fl upper state r c else after.1.vf r c
  by_cases hlower : LowerWrites lower r c
  · have hnot : ¬UpperWrites upper r c := fun hwrites =>
      (untouched_of_order hr hwrites horder c).1 hlower
    rw [if_neg hnot]
    exact hwritten r c hlower hr
  · rw [hkept r c hlower]
    split
    next => rfl
    next hwrites =>
      rw [upperVf_of_not_writes fl upper state hwrites]
      exact ((execLower_frame fl unit codeAddressMask state data).2.2.2 r c hlower).symm

/-- **Without a conflict a pair is executed as if both instructions were at once.** -/
theorem executePair_simultaneous (h : ¬Conflict lower upper) :
    pairResult (executePair fl unit codeAddressMask (decodeInstructionPair lower upper) state
        data) =
      simultaneous fl unit codeAddressMask (decodeInstructionPair lower upper) state data := by
  unfold executePair simultaneous
  cases hiBit : (decodeInstructionPair lower upper).iBit with
  | true =>
    -- the word of the lower instruction is loaded into I
    obtain ⟨pipeline, hupper⟩ := execUpper_disturbed fl upper state
    simp only [if_true]
    refine pairResult_congr (fun r c _ => ?_) ?_ rfl rfl
    · change (execUpper fl upper state).vf r c =
        if UpperWrites upper r c then (execUpper fl upper state).vf r c else state.vf r c
      split
      next => rfl
      next hwrites =>
        rw [hupper]
        exact upperVf_of_not_writes fl upper state hwrites
    · change (execUpper fl upper state).vi = state.vi
      rw [hupper]
      rfl
  | false =>
    unfold Conflict at h
    simp only [hiBit, true_and] at h
    have hsame := decodeInstructionPair_order hiBit
    simp only [Bool.false_eq_true, if_false]
    cases horder : (decodeInstructionPair lower upper).lowerBeforeUpper with
    | true =>
      rw [hsame] at horder
      simp only [hsame, horder, if_true] at h ⊢
      have hreg : vuUpperVfWriteReg upper ≠ 0 := by
        intro hzero
        unfold vuLowerShouldRunBeforeUpper at horder
        simp [hzero] at horder
      exact lowerFirst_simultaneous fl unit codeAddressMask data hreg
        fun r c hchanges hreads => h ⟨r, c, hchanges, hreads⟩
    | false =>
      rw [hsame] at horder
      simp only [hsame, horder, Bool.false_eq_true, if_false] at h ⊢
      rw [execLower_of_nop]
      exact upperFirst_simultaneous fl unit codeAddressMask data horder
        fun c hdisturbs hreads => h ⟨c, hdisturbs, hreads⟩

end VuInterpreterBackend

end Ps2Recomp
