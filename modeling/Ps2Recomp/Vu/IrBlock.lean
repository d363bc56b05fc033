import Mathlib.Data.List.Nodup
import Ps2Recomp.Vu.Ir

/-!
# Blocks of the VU IR (`ps2_vu_ir.h`, `ps2_vu_ir.cpp`)

`decodeVuIrBlock` builds a block from code, `verifyVuIrBlock` checks one. Each has its own rules for
where a block ends; they agree (`vuIrBlock_canonical`): what is built is accepted, and an accepted
block is the one that its words build.

The types are in the namespace `VuIr`. Addresses and sizes are natural numbers; a code size is a
multiple of eight below 2^32, so no sum of the source wraps.
-/

namespace Ps2Recomp

namespace VuIr

inductive BlockExit where
  | PairLimit
  | BranchBoundary
  | ProgramEndBoundary
  | XgkickBoundary
  | UnsupportedInstruction
  | CodeBounds
  deriving DecidableEq, Repr

inductive BlockForm where
  | Basic
  | LinearTrace
  deriving DecidableEq, Repr

structure Block where
  entryPc : ℕ := 0
  codeSize : ℕ := 0
  form : BlockForm := .Basic
  exit : BlockExit := .PairLimit
  pairs : List VuIrInstructionPair := []
  deriving DecidableEq, Repr

structure VerificationError where
  pc : ℕ := 0
  lowerWord : VuWord := 0
  upperWord : VuWord := 0
  message : String := ""
  deriving DecidableEq, Repr

/-! ## Building -/

/-- A code image, byte by byte. -/
abbrev Code := ℕ → BitVec 8

def wordAt (code : Code) (address : ℕ) : VuWord :=
  code (address + 3) ++ code (address + 2) ++ code (address + 1) ++ code address

/-- The loop of `decodeVuIrBlock`: the pairs and the exit. -/
def decodePairs (code : Code) (codeSize : ℕ) (form : BlockForm) :
    ℕ → ℕ → BlockExit → Bool → List VuIrInstructionPair × BlockExit
  | 0, _, _, _ => ([], .PairLimit)
  | remaining + 1, pc, delayedExit, exitAfterCurrentPair =>
    let pair := decodeVuIrInstructionPair pc (wordAt code pc) (wordAt code (pc + 4))
    if vuIrHasPairFlag pair VuIrPair.Unsupported then ([pair], .UnsupportedInstruction)
    else if vuIrHasPairFlag pair VuIrPair.Xgkick then ([pair], .XgkickBoundary)
    else if exitAfterCurrentPair then ([pair], delayedExit)
    else
      let branches := form = .Basic ∧ vuIrHasPairFlag pair VuIrPair.Branch
      let ends := vuIrHasPairFlag pair VuIrPair.End
      let delayedExit := if branches then .BranchBoundary else delayedExit
      let exitAfterCurrentPair := if branches then true else exitAfterCurrentPair
      let delayedExit := if ends then .ProgramEndBoundary else delayedExit
      let exitAfterCurrentPair := if ends then true else exitAfterCurrentPair
      let pc := pc + 8
      let pc := if pc ≥ codeSize then 0 else pc
      let rest := decodePairs code codeSize form remaining pc delayedExit exitAfterCurrentPair
      (pair :: rest.1, rest.2)

/-- `decodeVuIrBlock`; a null image is `none`. -/
def decodeVuIrBlock (code : Option Code) (codeSize entryPc maximumPairs : ℕ) (form : BlockForm) :
    Block :=
  let block : Block := { entryPc, codeSize, form }
  match code with
  | none => { block with exit := .CodeBounds }
  | some code =>
    if codeSize < 8 ∨ codeSize % 8 ≠ 0 ∨ entryPc % 8 ≠ 0 ∨ entryPc > codeSize - 8 then
      { block with exit := .CodeBounds }
    else
      let built := decodePairs code codeSize form maximumPairs entryPc .PairLimit false
      { block with pairs := built.1, exit := built.2 }

/-! ## Verifying -/

/-- `failVerification`. -/
def failVerification {α : Type} (pair : VuIrInstructionPair) (message : String) :
    Except VerificationError α :=
  .error { pc := pair.pc, lowerWord := pair.lowerWord, upperWord := pair.upperWord, message }

def sameOperation (left right : VuIrOperation) : Bool :=
  left.vfReadMask == right.vfReadMask && left.vfWriteMask == right.vfWriteMask &&
    left.flags == right.flags && left.viReadMask == right.viReadMask &&
    left.viWriteMask == right.viWriteMask && left.opcode == right.opcode &&
    left.destinationMask == right.destinationMask && left.latency == right.latency &&
    left.selector == right.selector

def verifyVuIrInstructionPair (pair : VuIrInstructionPair) : Except VerificationError Unit :=
  let expected := decodeVuIrInstructionPair pair.pc pair.lowerWord pair.upperWord
  if pair.pc % 8 ≠ 0 then failVerification pair "VU IR PC is not pair-aligned"
  else if pair.cycles ≠ 1 then failVerification pair "VU IR pair must cost one cycle"
  else if !sameOperation pair.upper expected.upper then
    failVerification pair "malformed upper operation"
  else if !sameOperation pair.lower expected.lower then
    failVerification pair "malformed lower operation"
  else if pair.order ≠ expected.order then failVerification pair "invalid upper/lower ordering"
  else if pair.flags ≠ expected.flags then failVerification pair "invalid instruction-pair flags"
  else .ok ()

/-- The loop of `verifyVuIrBlock`: the expected exit, and the terminal pair with what follows it. -/
def verifyPairs (codeSize : ℕ) (form : BlockForm) :
    List VuIrInstructionPair → ℕ → BlockExit → Bool →
      Except VerificationError
        (BlockExit × Option (VuIrInstructionPair × List VuIrInstructionPair))
  | [], _, _, _ => .ok (.PairLimit, none)
  | pair :: rest, expectedPc, delayedExit, delayedExitPending =>
    if pair.pc ≠ expectedPc then failVerification pair "nonsequential VU IR block"
    else
      match verifyVuIrInstructionPair pair with
      | .error error => .error error
      | .ok () =>
        if vuIrHasPairFlag pair VuIrPair.Unsupported then
          .ok (.UnsupportedInstruction, some (pair, rest))
        else if vuIrHasPairFlag pair VuIrPair.Xgkick then .ok (.XgkickBoundary, some (pair, rest))
        else if delayedExitPending then .ok (delayedExit, some (pair, rest))
        else
          let branches := form = .Basic ∧ vuIrHasPairFlag pair VuIrPair.Branch
          let ends := vuIrHasPairFlag pair VuIrPair.End
          let delayedExit := if branches then .BranchBoundary else delayedExit
          let delayedExitPending := if branches then true else delayedExitPending
          let delayedExit := if ends then .ProgramEndBoundary else delayedExit
          let delayedExitPending := if ends then true else delayedExitPending
          let expectedPc := expectedPc + 8
          let expectedPc := if expectedPc ≥ codeSize then 0 else expectedPc
          verifyPairs codeSize form rest expectedPc delayedExit delayedExitPending

/-- `validEntry` of `verifyVuIrBlock`. -/
def ValidEntry (codeSize entryPc : ℕ) : Prop :=
  codeSize ≥ 8 ∧ codeSize % 8 = 0 ∧ entryPc % 8 = 0 ∧ entryPc ≤ codeSize - 8

instance (codeSize entryPc : ℕ) : Decidable (ValidEntry codeSize entryPc) :=
  inferInstanceAs (Decidable (_ ∧ _))

def verifyVuIrBlock (block : Block) : Except VerificationError Unit :=
  match block.pairs with
  | [] =>
    if block.exit = if ValidEntry block.codeSize block.entryPc then .PairLimit else .CodeBounds then
      .ok ()
    else
      .error { pc := block.entryPc, message := "empty VU IR block has an invalid entry or exit" }
  | front :: rest =>
    if ¬ValidEntry block.codeSize block.entryPc ∨ front.pc ≠ block.entryPc then
      failVerification front "invalid VU IR block entry"
    else
      match verifyPairs block.codeSize block.form (front :: rest) block.entryPc .PairLimit false with
      | .error error => .error error
      | .ok (expectedExit, terminal) =>
        match terminal with
        | some (pair, _ :: _) =>
          failVerification pair "VU IR block continues after its required exit"
        | _ =>
          if block.exit ≠ expectedExit then
            failVerification (rest.getLastD front)
              "VU IR block exit does not match its terminal pair"
          else .ok ()

/-! ## Pairs -/

theorem sameOperation_iff (left right : VuIrOperation) :
    sameOperation left right = true ↔ left = right := by
  obtain ⟨⟩ := left
  obtain ⟨⟩ := right
  simp only [sameOperation, Bool.and_eq_true, beq_iff_eq, VuIrOperation.mk.injEq, and_assoc]

theorem decodeVuIrInstructionPair_words (pc : ℕ) (lowerWord upperWord : VuWord) :
    (decodeVuIrInstructionPair pc lowerWord upperWord).pc = pc ∧
      (decodeVuIrInstructionPair pc lowerWord upperWord).lowerWord = lowerWord ∧
      (decodeVuIrInstructionPair pc lowerWord upperWord).upperWord = upperWord ∧
      (decodeVuIrInstructionPair pc lowerWord upperWord).cycles = 1 := ⟨rfl, rfl, rfl, rfl⟩

/-- **The accepted pairs are the decoded ones.** -/
theorem verifyVuIrInstructionPair_iff (pair : VuIrInstructionPair) :
    verifyVuIrInstructionPair pair = .ok () ↔
      pair.pc % 8 = 0 ∧
        pair = decodeVuIrInstructionPair pair.pc pair.lowerWord pair.upperWord := by
  obtain ⟨expected, hexpected⟩ :
      ∃ expected, decodeVuIrInstructionPair pair.pc pair.lowerWord pair.upperWord = expected :=
    ⟨_, rfl⟩
  have hwords := decodeVuIrInstructionPair_words pair.pc pair.lowerWord pair.upperWord
  rw [hexpected] at hwords
  unfold verifyVuIrInstructionPair failVerification
  dsimp only
  rw [hexpected]
  constructor
  · intro h
    split_ifs at h with hpc hcycles hupper hlower horder hflags
    rw [Bool.not_eq_true', Bool.not_eq_false] at hupper hlower
    have hupper := (sameOperation_iff _ _).1 hupper
    have hlower := (sameOperation_iff _ _).1 hlower
    refine ⟨not_not.1 hpc, ?_⟩
    obtain ⟨⟩ := pair
    obtain ⟨⟩ := expected
    simp_all
  · rintro ⟨hpc, heq⟩
    have hsame (operation : VuIrOperation) : sameOperation operation operation = true :=
      (sameOperation_iff _ _).2 rfl
    subst heq
    simp [hpc, hwords.2.2.2, hsame]

theorem verify_decodeVuIrInstructionPair {pc : ℕ} (hpc : pc % 8 = 0)
    (lowerWord upperWord : VuWord) :
    verifyVuIrInstructionPair (decodeVuIrInstructionPair pc lowerWord upperWord) = .ok () :=
  (verifyVuIrInstructionPair_iff _).2 ⟨hpc, rfl⟩

/-! ## Blocks -/

variable {code : Code} {codeSize pc remaining : ℕ} {form : BlockForm} {delayedExit : BlockExit}
  {pending : Bool}

/-- What is built is accepted, and ends at its terminal pair. -/
theorem verifyPairs_decodePairs (code : Code) (codeSize : ℕ) (form : BlockForm) (remaining : ℕ)
    (hpc : pc % 8 = 0) (delayedExit : BlockExit) (pending : Bool) :
    ∃ terminal : Option (VuIrInstructionPair × List VuIrInstructionPair),
      verifyPairs codeSize form (decodePairs code codeSize form remaining pc delayedExit pending).1
          pc delayedExit pending =
        .ok ((decodePairs code codeSize form remaining pc delayedExit pending).2, terminal) ∧
      ∀ pair rest, terminal = some (pair, rest) → rest = [] := by
  induction remaining generalizing pc delayedExit pending with
  | zero => exact ⟨none, rfl, by rintro _ _ ⟨⟩⟩
  | succ remaining ih =>
    unfold decodePairs
    dsimp only
    obtain ⟨pair, hpair⟩ :
      ∃ pair, decodeVuIrInstructionPair pc (wordAt code pc) (wordAt code (pc + 4)) = pair := ⟨_, rfl⟩
    have hverify : verifyVuIrInstructionPair pair = .ok () :=
      hpair ▸ verify_decodeVuIrInstructionPair hpc _ _
    have hat : ¬pair.pc ≠ pc := not_not.2 (hpair ▸ rfl)
    rw [hpair]
    split
    · rename_i hunsupported
      refine ⟨some (pair, []), ?_, by rintro _ _ ⟨⟩; rfl⟩
      rw [verifyPairs, if_neg hat, hverify, if_pos hunsupported]
    split
    · rename_i hunsupported hxgkick
      refine ⟨some (pair, []), ?_, by rintro _ _ ⟨⟩; rfl⟩
      rw [verifyPairs, if_neg hat, hverify, if_neg hunsupported, if_pos hxgkick]
    split
    · rename_i hunsupported hxgkick hpending
      refine ⟨some (pair, []), ?_, by rintro _ _ ⟨⟩; rfl⟩
      rw [verifyPairs, if_neg hat, hverify, if_neg hunsupported, if_neg hxgkick, if_pos hpending]
    · rename_i hunsupported hxgkick hpending
      have hnext : (if pc + 8 ≥ codeSize then 0 else pc + 8) % 8 = 0 := by split <;> omega
      obtain ⟨terminal, hrest, hend⟩ := ih hnext _ _
      refine ⟨terminal, ?_, hend⟩
      rw [verifyPairs, if_neg hat, hverify]
      dsimp only
      rw [if_neg hunsupported, if_neg hxgkick, if_neg hpending]
      exact hrest

/-- **An accepted block is what its words build**, as far as it goes. -/
theorem decodePairs_of_verifyPairs {pairs : List VuIrInstructionPair} {exit : BlockExit}
    {terminal : Option (VuIrInstructionPair × List VuIrInstructionPair)}
    (hwords : ∀ pair ∈ pairs,
      wordAt code pair.pc = pair.lowerWord ∧ wordAt code (pair.pc + 4) = pair.upperWord)
    (hend : ∀ pair rest, terminal = some (pair, rest) → rest = [])
    (h : verifyPairs codeSize form pairs pc delayedExit pending = .ok (exit, terminal)) :
    decodePairs code codeSize form pairs.length pc delayedExit pending = (pairs, exit) := by
  induction pairs generalizing pc delayedExit pending with
  | nil =>
    cases h
    rfl
  | cons pair rest ih =>
    rw [verifyPairs] at h
    split at h
    · cases h
    rename_i hat
    rw [not_not] at hat
    split at h
    · cases h
    rename_i hverify
    obtain ⟨hlower, hupper⟩ := hwords pair List.mem_cons_self
    obtain ⟨-, hdecoded⟩ := (verifyVuIrInstructionPair_iff pair).1 hverify
    rw [← hlower, ← hupper, hat] at hdecoded
    rw [List.length_cons, decodePairs, ← hdecoded]
    dsimp only at h ⊢
    split at h
    · rename_i hunsupported
      cases h
      rw [if_pos hunsupported, hend pair rest rfl]
    split at h
    · rename_i hunsupported hxgkick
      cases h
      rw [if_neg hunsupported, if_pos hxgkick, hend pair rest rfl]
    split at h
    · rename_i hunsupported hxgkick hpending
      cases h
      rw [if_neg hunsupported, if_neg hxgkick, if_pos hpending, hend pair rest rfl]
    · rename_i hunsupported hxgkick hpending
      rw [if_neg hunsupported, if_neg hxgkick, if_neg hpending,
        ih (fun pair hpair => hwords pair (List.mem_cons_of_mem _ hpair)) h]

/-- A code image that has the words of a block at its PCs. -/
def Holds (code : Code) (block : Block) : Prop :=
  ∀ pair ∈ block.pairs,
    wordAt code pair.pc = pair.lowerWord ∧ wordAt code (pair.pc + 4) = pair.upperWord

theorem verifyPairs_front {front : VuIrInstructionPair} {rest : List VuIrInstructionPair}
    {result : BlockExit × Option (VuIrInstructionPair × List VuIrInstructionPair)}
    (h : verifyPairs codeSize form (front :: rest) pc delayedExit pending = .ok result) :
    front.pc = pc := by
  rw [verifyPairs] at h
  split at h
  · cases h
  · rename_i hat
    exact not_not.1 hat

theorem verifyVuIrBlock_iff (block : Block) :
    verifyVuIrBlock block = .ok () ↔
      if block.pairs = [] then
        block.exit = if ValidEntry block.codeSize block.entryPc then .PairLimit else .CodeBounds
      else
        ValidEntry block.codeSize block.entryPc ∧
          ∃ terminal : Option (VuIrInstructionPair × List VuIrInstructionPair),
            verifyPairs block.codeSize block.form block.pairs block.entryPc .PairLimit false =
              .ok (block.exit, terminal) ∧
            ∀ pair rest, terminal = some (pair, rest) → rest = [] := by
  unfold verifyVuIrBlock
  cases hpairs : block.pairs with
  | nil =>
    simp only [if_true]
    split <;> simp_all
  | cons front rest =>
    rw [if_neg (List.cons_ne_nil front rest)]
    constructor
    · intro h
      dsimp only at h
      split at h
      · cases h
      rename_i hentry
      rw [not_or, not_not] at hentry
      split at h
      · cases h
      rename_i expectedExit terminal hverify
      split at h
      · cases h
      rename_i hnotBehind
      split at h
      · cases h
      rename_i hexit
      rw [← not_not.1 hexit] at hverify
      refine ⟨hentry.1, terminal, hverify, fun pair behind heq => ?_⟩
      cases behind with
      | nil => rfl
      | cons next behind => exact (hnotBehind pair next behind heq).elim
    · rintro ⟨hvalid, terminal, hverify, hend⟩
      have hentry : ¬(¬ValidEntry block.codeSize block.entryPc ∨ front.pc ≠ block.entryPc) := by
        rw [not_or, not_not, not_not]
        exact ⟨hvalid, verifyPairs_front hverify⟩
      dsimp only
      rw [if_neg hentry, hverify]
      dsimp only
      split
      · rename_i pair next behind
        cases hend pair (next :: behind) rfl
      · rw [if_neg (not_not.2 rfl)]

theorem verify_decodeVuIrBlock (code : Code) (codeSize entryPc maximumPairs : ℕ)
    (form : BlockForm) :
    verifyVuIrBlock (decodeVuIrBlock (some code) codeSize entryPc maximumPairs form) = .ok () := by
  rw [verifyVuIrBlock_iff]
  unfold decodeVuIrBlock
  dsimp only
  split
  · rename_i hinvalid
    rw [if_pos rfl, if_neg (show ¬ValidEntry codeSize entryPc by unfold ValidEntry; omega)]
  · rename_i hinvalid
    have hvalid : ValidEntry codeSize entryPc := by
      unfold ValidEntry
      omega
    dsimp only
    split
    · rename_i hempty
      cases maximumPairs with
      | zero => rfl
      | succ remaining =>
        unfold decodePairs at hempty
        dsimp only at hempty
        split_ifs at hempty
    · exact ⟨hvalid, verifyPairs_decodePairs code codeSize form maximumPairs hvalid.2.2.1 _ _⟩

theorem decodeVuIrBlock_of_verify {block : Block} (h : verifyVuIrBlock block = .ok ())
    {code : Code} (hcode : Holds code block) :
    decodeVuIrBlock (some code) block.codeSize block.entryPc block.pairs.length block.form =
      block := by
  rw [verifyVuIrBlock_iff] at h
  obtain ⟨entryPc, codeSize, form, exit, pairs⟩ := block
  unfold decodeVuIrBlock
  dsimp only at h ⊢
  split at h
  · rename_i hempty
    subst hempty
    split
    · rename_i hinvalid
      rw [if_neg (show ¬ValidEntry codeSize entryPc by unfold ValidEntry; omega)] at h
      rw [h]
    · rename_i hinvalid
      rw [if_pos (show ValidEntry codeSize entryPc by unfold ValidEntry; omega)] at h
      rw [h]
      rfl
  · obtain ⟨hvalid, terminal, hverify, hend⟩ := h
    have hentry : ¬(codeSize < 8 ∨ codeSize % 8 ≠ 0 ∨ entryPc % 8 ≠ 0 ∨ entryPc > codeSize - 8) := by
      unfold ValidEntry at hvalid
      omega
    rw [if_neg hentry, decodePairs_of_verifyPairs hcode hend hverify]

/-! ## An image for a block -/

theorem aligned_of_verifyPairs {pairs : List VuIrInstructionPair} {exit : BlockExit}
    {terminal : Option (VuIrInstructionPair × List VuIrInstructionPair)}
    (hend : ∀ pair rest, terminal = some (pair, rest) → rest = [])
    (h : verifyPairs codeSize form pairs pc delayedExit pending = .ok (exit, terminal)) :
    ∀ pair ∈ pairs, pair.pc % 8 = 0 := by
  induction pairs generalizing pc delayedExit pending with
  | nil => exact fun pair hpair => absurd hpair List.not_mem_nil
  | cons front rest ih =>
    rw [verifyPairs] at h
    split at h
    · cases h
    split at h
    · cases h
    rename_i hverify
    have hfront := ((verifyVuIrInstructionPair_iff front).1 hverify).1
    have hrest : ∀ pair ∈ rest, pair.pc % 8 = 0 := by
      dsimp only at h
      split_ifs at h
      · cases h
        simp [hend front rest rfl]
      · cases h
        simp [hend front rest rfl]
      · cases h
        simp [hend front rest rfl]
      all_goals exact ih h
    intro pair hpair
    rcases List.mem_cons.1 hpair with rfl | hpair
    · exact hfront
    · exact hrest pair hpair

/-- The image of some pairs: eight bytes for each. -/
def imageOf (pairs : List VuIrInstructionPair) : Code := fun address =>
  match pairs.find? fun pair => pair.pc = address / 8 * 8 with
  | some pair => (pair.upperWord ++ pair.lowerWord : BitVec 64).extractLsb' (8 * (address % 8)) 8
  | none => 0

theorem imageOf_eq {pairs : List VuIrInstructionPair} (hnodup : (pairs.map (·.pc)).Nodup)
    {pair : VuIrInstructionPair} (hmem : pair ∈ pairs) (haligned : pair.pc % 8 = 0) {k : ℕ}
    (hk : k < 8) :
    imageOf pairs (pair.pc + k) =
      (pair.upperWord ++ pair.lowerWord : BitVec 64).extractLsb' (8 * k) 8 := by
  have hfind : (pairs.find? fun other => other.pc = (pair.pc + k) / 8 * 8) = some pair := by
    have hpc : (pair.pc + k) / 8 * 8 = pair.pc := by omega
    rw [hpc]
    cases hfound : pairs.find? fun other => decide (other.pc = pair.pc) with
    | none =>
      have := List.find?_eq_none.1 hfound pair hmem
      simp at this
    | some other =>
      have hsame : other.pc = pair.pc := by simpa using List.find?_some hfound
      rw [List.inj_on_of_nodup_map hnodup (List.mem_of_find?_eq_some hfound) hmem hsame]
  unfold imageOf
  rw [hfind, show (pair.pc + k) % 8 = k by omega]

theorem bytes_eq_word (w : BitVec 64) (start : ℕ) :
    (w.extractLsb' (start + 24) 8 ++ w.extractLsb' (start + 16) 8 ++ w.extractLsb' (start + 8) 8 ++
      w.extractLsb' start 8 : BitVec 32) = w.extractLsb' start 32 := by
  ext i hi
  simp only [BitVec.getElem_append, BitVec.getElem_extractLsb']
  split_ifs <;> congr 1 <;> omega

theorem extractLsb'_low (high low : VuWord) :
    (high ++ low : BitVec 64).extractLsb' 0 32 = low := by
  ext i hi
  rw [BitVec.getElem_extractLsb', BitVec.getLsbD_append, Nat.zero_add]
  simp [hi, BitVec.getLsbD_eq_getElem]

theorem extractLsb'_high (high low : VuWord) :
    (high ++ low : BitVec 64).extractLsb' 32 32 = high := by
  ext i hi
  rw [BitVec.getElem_extractLsb', BitVec.getLsbD_append]
  simp [hi, BitVec.getLsbD_eq_getElem]

/-- **A block with no PC twice has an image.** -/
theorem holds_imageOf {block : Block} (hnodup : (block.pairs.map (·.pc)).Nodup)
    (haligned : ∀ pair ∈ block.pairs, pair.pc % 8 = 0) : Holds (imageOf block.pairs) block := by
  intro pair hmem
  have hbyte (k : ℕ) (hk : k < 8) := imageOf_eq hnodup hmem (haligned pair hmem) hk
  constructor
  · unfold wordAt
    rw [hbyte 3 (by decide), hbyte 2 (by decide), hbyte 1 (by decide),
      show imageOf block.pairs pair.pc = _ from hbyte 0 (by decide)]
    exact (bytes_eq_word _ 0).trans (extractLsb'_low _ _)
  · unfold wordAt
    rw [show pair.pc + 4 + 3 = pair.pc + 7 from rfl, show pair.pc + 4 + 2 = pair.pc + 6 from rfl,
      show pair.pc + 4 + 1 = pair.pc + 5 from rfl, hbyte 7 (by decide), hbyte 6 (by decide),
      hbyte 5 (by decide), hbyte 4 (by decide)]
    exact (bytes_eq_word _ 32).trans (extractLsb'_high _ _)

/-- **Blocks are canonical.** What is built from code is accepted; an accepted block with no PC
twice has an image, and every image with its words builds it. -/
theorem vuIrBlock_canonical :
    (∀ (code : Code) (codeSize entryPc maximumPairs : ℕ) (form : BlockForm),
      0 < codeSize → codeSize % 8 = 0 →
      verifyVuIrBlock (decodeVuIrBlock (some code) codeSize entryPc maximumPairs form) = .ok ()) ∧
    ∀ block : Block, verifyVuIrBlock block = .ok () → (block.pairs.map (·.pc)).Nodup →
      (∃ code, Holds code block) ∧
      ∀ code, Holds code block →
        decodeVuIrBlock (some code) block.codeSize block.entryPc block.pairs.length block.form =
          block := by
  refine ⟨fun code codeSize entryPc maximumPairs form _ _ =>
    verify_decodeVuIrBlock code codeSize entryPc maximumPairs form, ?_⟩
  intro block hverify hnodup
  refine ⟨⟨imageOf block.pairs, holds_imageOf hnodup ?_⟩,
    fun code hcode => decodeVuIrBlock_of_verify hverify hcode⟩
  rw [verifyVuIrBlock_iff] at hverify
  split at hverify
  · rename_i hempty
    simp [hempty]
  · obtain ⟨-, terminal, hpairs, hend⟩ := hverify
    exact aligned_of_verifyPairs hend hpairs

/-- Two pairs: the second one ends the program, and the first is its delay pair. -/
def endedBlock : Block :=
  decodeVuIrBlock (some fun address => [0x3C, 0x03, 0x00, 0x80, 0xFF, 0x02, 0x00, 0x00,
    0x3C, 0x03, 0x00, 0x80, 0xFF, 0x02, 0x00, 0x40].getD address 0) 16 8 5 .Basic

theorem vuIrBlock_canonical_ended :
    verifyVuIrBlock endedBlock = .ok () ∧ endedBlock.exit = .ProgramEndBoundary ∧
      ∃ code, decodeVuIrBlock (some code) 16 8 2 .Basic = endedBlock := by
  have hverify : verifyVuIrBlock endedBlock = .ok () :=
    vuIrBlock_canonical.1 _ 16 8 5 .Basic (by decide) (by decide)
  obtain ⟨⟨code, hholds⟩, hbuild⟩ :=
    vuIrBlock_canonical.2 endedBlock hverify (by decide +kernel)
  refine ⟨hverify, by decide +kernel, code, ?_⟩
  have hbuilt := hbuild code hholds
  rwa [show endedBlock.pairs.length = 2 by decide +kernel] at hbuilt

end VuIr

end Ps2Recomp
