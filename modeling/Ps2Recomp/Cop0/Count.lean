import Ps2Recomp.Cop0.Timing
import Ps2Recomp.Lib.Machine
import Mathlib.Data.ZMod.Defs

/-!
# Count and Compare do not depend on when they are polled

`distance` is the number of cycles to the next match, a full period of `2 ^ 32` when Count and
Compare are equal. Cycles short of the match bring it down (`distance_advance`), so two polls end in
the state of the second alone, and raise the timer once between them exactly if that one does
(`synchronizeCount_split`), and so do any polls at all (`synchronizeCount_polls`). The timer is
raised exactly from the cycle on that `nextTimerCycle` predicts (`timerRaised_iff_nextTimerCycle`).
-/

namespace Ps2Recomp.Cop0Timing

open Machine

variable {s : Cop0Timing} {a c : EeTick}

/-! ## The distance to the match -/

theorem distance_eq (s : Cop0Timing) : s.distance = 2 ^ 32 - (s.count - s.compare).toNat := by
  unfold distance kCounterModulus
  have hcompare := s.compare.isLt
  have hcount := s.count.isLt
  have hsub : (s.compare - s.count).toNat =
      (2 ^ 32 - s.count.toNat + s.compare.toNat) % 2 ^ 32 := BitVec.toNat_sub _ _
  rw [BitVec.toNat_sub]
  simp only
  split
  · rename_i hne
    have hpos : (s.compare - s.count).toNat ≠ 0 := fun h => hne (BitVec.eq_of_toNat_eq h)
    omega
  · rename_i heq
    rw [not_ne_iff] at heq
    have hzero : (s.compare - s.count).toNat = 0 := by rw [heq]; rfl
    omega

theorem distance_pos (s : Cop0Timing) : 0 < s.distance := by
  rw [distance_eq]
  exact Nat.sub_pos_of_lt (s.count - s.compare).isLt

/-- Cycles short of the match bring it closer. -/
theorem distance_advance {elapsed : Nat} (h : elapsed < s.distance) (last : EeTick)
    (pending : Bool) :
    distance { s with
      count := s.count + BitVec.ofNat 32 elapsed
      lastCountCycle := last
      timerPending := pending } = s.distance - elapsed := by
  rw [distance_eq] at h ⊢
  rw [distance_eq s]
  simp only
  have hcount := s.count.isLt
  have hcompare := s.compare.isLt
  rw [BitVec.toNat_sub] at h ⊢
  rw [BitVec.toNat_sub, BitVec.toNat_add, BitVec.toNat_ofNat]
  omega

/-! ## One poll -/

/-- What a poll without a minimum increment does. -/
theorem synchronizeCount_eq (h : s.lastCountCycle ≤ c) :
    s.synchronizeCount c false =
      ({ s with
          count := s.count + BitVec.ofNat 32 (c.val - s.lastCountCycle.val)
          lastCountCycle := c
          timerPending := s.timerPending || (s.synchronizeCount c false).2.timerRaised },
        { timerRaised := (s.synchronizeCount c false).2.timerRaised }) := by
  unfold synchronizeCount
  simp only [if_pos h, Bool.false_and, Bool.false_eq_true, if_false]

theorem timerRaised_iff (h : s.lastCountCycle ≤ c) :
    (s.synchronizeCount c false).2.timerRaised = true ↔
      s.timerArmed = true ∧ s.timerPending = false ∧ s.distance ≤ c.val - s.lastCountCycle.val := by
  have hpos := s.distance_pos
  unfold synchronizeCount
  simp only [if_pos h, Bool.false_and, Bool.false_eq_true, if_false, Bool.and_eq_true,
    Bool.not_eq_true', decide_eq_true_eq, and_assoc]
  refine ⟨fun hraised => hraised.2, fun hraised => ⟨?_, hraised⟩⟩
  have := hraised.2.2
  omega

/-- **The timer is raised from the predicted cycle on.** -/
theorem timerRaised_iff_nextTimerCycle (h : s.lastCountCycle ≤ c)
    (hfits : s.lastCountCycle.val + s.distance < uint64Count) :
    (s.synchronizeCount c false).2.timerRaised = true ↔
      ∃ next, s.nextTimerCycle = some next ∧ next ≤ c.val := by
  have hle : s.lastCountCycle.val ≤ c.val := h
  have hsum : saturatingAdd s.lastCountCycle.val s.distance =
      s.lastCountCycle.val + s.distance := by
    unfold saturatingAdd
    omega
  rw [timerRaised_iff h]
  unfold nextTimerCycle
  rw [hsum]
  cases s.timerArmed <;> cases s.timerPending <;> simp
  omega

/-! ## Two polls -/

theorem synchronizeCount_lastCountCycle (s : Cop0Timing) (c : EeTick) (m : Bool) :
    (s.synchronizeCount c m).1.lastCountCycle = c := rfl

/-- The second of two polls raises the timer if the first has not and it would alone. -/
theorem timerRaised_second (ha : s.lastCountCycle ≤ a) (hc : a ≤ c) :
    ((s.synchronizeCount a false).1.synchronizeCount c false).2.timerRaised =
      ((s.synchronizeCount c false).2.timerRaised &&
        !(s.synchronizeCount a false).2.timerRaised) := by
  have hla : s.lastCountCycle.val ≤ a.val := ha
  have hac : a.val ≤ c.val := hc
  have hlast : (s.synchronizeCount a false).1.lastCountCycle ≤ c := hc
  rw [Bool.eq_iff_iff, Bool.and_eq_true, Bool.not_eq_true', timerRaised_iff hlast,
    timerRaised_iff (ha.trans hc), synchronizeCount_lastCountCycle]
  have hfirst := timerRaised_iff ha
  rw [synchronizeCount_eq ha] at hfirst ⊢
  simp only at hfirst ⊢
  cases hraised : (s.synchronizeCount a false).2.timerRaised with
  | true => simp
  | false =>
    rw [hraised] at hfirst
    simp only [Bool.false_eq_true, false_iff, not_and, Nat.not_le] at hfirst
    simp only [Bool.or_false, and_true]
    refine and_congr_right fun harmed => and_congr_right fun hpending => ?_
    rw [distance_advance (hfirst harmed hpending)]
    omega

/-- **Two polls are one**: the state is that of the second alone, and the timer is raised in exactly
one of them if and only if the second alone raises it. -/
theorem synchronizeCount_split (ha : s.lastCountCycle ≤ a) (hc : a ≤ c) :
    ((s.synchronizeCount a false).1.synchronizeCount c false).1 = (s.synchronizeCount c false).1 ∧
      ((s.synchronizeCount a false).2.timerRaised ^^
          ((s.synchronizeCount a false).1.synchronizeCount c false).2.timerRaised) =
        (s.synchronizeCount c false).2.timerRaised := by
  have hla : s.lastCountCycle.val ≤ a.val := ha
  have hac : a.val ≤ c.val := hc
  have hlast : (s.synchronizeCount a false).1.lastCountCycle ≤ c := hc
  have hsecond := timerRaised_second ha hc
  -- the first poll raises the timer only if the second alone would
  have hmono : (s.synchronizeCount a false).2.timerRaised = true →
      (s.synchronizeCount c false).2.timerRaised = true := by
    rw [timerRaised_iff ha, timerRaised_iff (ha.trans hc)]
    rintro ⟨harmed, hpending, hle⟩
    exact ⟨harmed, hpending, by omega⟩
  constructor
  · have hcount : s.count + BitVec.ofNat 32 (a.val - s.lastCountCycle.val) +
        BitVec.ofNat 32 (c.val - a.val) =
        s.count + BitVec.ofNat 32 (c.val - s.lastCountCycle.val) := by
      rw [BitVec.add_assoc, ← BitVec.ofNat_add]
      congr 2
      omega
    rw [synchronizeCount_eq hlast, hsecond, synchronizeCount_eq (ha.trans hc),
      synchronizeCount_eq ha]
    simp only [Cop0Timing.mk.injEq, hcount, true_and, Bool.or_assoc]
    cases hraised : (s.synchronizeCount a false).2.timerRaised with
    | false => simp
    | true => simp [hmono hraised]
  · rw [hsecond]
    cases hraised : (s.synchronizeCount a false).2.timerRaised with
    | false => simp
    | true => simp [hmono hraised]

/-- **Count and Compare are exact and do not depend on the polls**, in every state. -/
theorem count_exact (s : Cop0Timing) (c : EeTick) (hlast : s.lastCountCycle ≤ c) :
    (s.lastCountCycle.val + s.distance < uint64Count →
      ((s.synchronizeCount c false).2.timerRaised = true ↔
        ∃ next, s.nextTimerCycle = some next ∧ next ≤ c.val)) ∧
    ∀ a, s.lastCountCycle ≤ a → a ≤ c →
      ((s.synchronizeCount a false).1.synchronizeCount c false).1 =
          (s.synchronizeCount c false).1 ∧
        ((s.synchronizeCount a false).2.timerRaised ^^
            ((s.synchronizeCount a false).1.synchronizeCount c false).2.timerRaised) =
          (s.synchronizeCount c false).2.timerRaised :=
  ⟨timerRaised_iff_nextTimerCycle hlast, fun _ => synchronizeCount_split⟩

/-- Count and Compare equal, and armed: the match is a full period away. -/
def fullPeriod : Cop0Timing :=
  { count := 7, compare := 7, lastCountCycle := 100, timerArmed := true }

theorem count_exact_fullPeriod :
    (fullPeriod.synchronizeCount (2 ^ 32 + 100) false).2.timerRaised = true ∧
      ((fullPeriod.synchronizeCount 200 false).1.synchronizeCount (2 ^ 32 + 100) false).1 =
        (fullPeriod.synchronizeCount (2 ^ 32 + 100) false).1 := by
  obtain ⟨hnext, hsplit⟩ := count_exact fullPeriod (2 ^ 32 + 100) (by decide +kernel)
  exact ⟨(hnext (by decide +kernel)).mpr ⟨2 ^ 32 + 100, by decide +kernel, by decide +kernel⟩,
    (hsplit 200 (by decide +kernel) (by decide +kernel)).1⟩

end Ps2Recomp.Cop0Timing
