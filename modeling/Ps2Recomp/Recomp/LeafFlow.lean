import Ps2Recomp.Recomp.LeafRecovery

/-!
# Static control flow and the recovered leaves

`Reaches` is the static control flow of a section: an address issues its instruction, and runs go on
at the next address, at the targets of branches and jumps, and behind the delay slots of the branches
that may fall through. A delay slot that a branch leads into issues like any other address.

The recovery has marked that slot beside its branch and does not expand it. What follows the slot of a
conditional branch is a successor of the branch too; what follows the slot of a jump or return is not.
`Follows` is the flow that stops there, and `recovered_closed` says that a recovered function is closed
under it. It need not be under `Reaches` (`recovered_notClosed`).
-/

namespace Ps2Recomp.Recompiler

open Worklist (Expansion)

/-! ## Kinds of words -/

namespace WordFields

variable (word : WordFields)

def isJr : Prop := word.opcode = OPCODE_SPECIAL ∧ word.function = SPECIAL_JR

def isJalr : Prop := word.opcode = OPCODE_SPECIAL ∧ word.function = SPECIAL_JALR

/-- `JAL`, `JALR`, and the branches of `REGIMM` that link. -/
def isLink : Prop :=
  word.opcode = OPCODE_JAL ∨ word.isJalr ∨
    (word.opcode = OPCODE_REGIMM ∧ 0x10 ≤ word.rt ∧ word.rt ≤ 0x13)

def isBranch : Prop :=
  (OPCODE_BEQ ≤ word.opcode ∧ word.opcode ≤ OPCODE_BGTZ) ∨
    (OPCODE_BEQL ≤ word.opcode ∧ word.opcode ≤ OPCODE_BGTZL) ∨
    (word.opcode = OPCODE_REGIMM ∧ (word.rt < 4 ∨ 0x10 ≤ word.rt ∧ word.rt ≤ 0x13)) ∨
    ((word.opcode = OPCODE_COP0 ∨ word.opcode = OPCODE_COP1) ∧ word.rs = COP_BC ∧ word.rt < 4) ∨
    (word.opcode = OPCODE_COP2 ∧ word.rs = COP_BC)

def isEret : Prop := word.opcode = OPCODE_COP0 ∧ 0x10 ≤ word.rs ∧ word.function = 0x18

/-- `SYSCALL`, `BREAK` and the conditional traps. -/
def isTrap : Prop :=
  (word.opcode = OPCODE_SPECIAL ∧
    (word.function = 0x0C ∨ word.function = 0x0D ∨ 0x30 ≤ word.function ∧ word.function ≤ 0x36)) ∨
    (word.opcode = OPCODE_REGIMM ∧ 8 ≤ word.rt ∧ word.rt ≤ 0x0E)

/-- `BEQ $0, $0`. -/
def isUnconditionalBeq : Prop := word.opcode = OPCODE_BEQ ∧ word.rs = 0 ∧ word.rt = 0

instance : Decidable word.isBranch := inferInstanceAs (Decidable (_ ∨ _ ∨ _ ∨ _ ∨ _))
instance : Decidable word.isJr := inferInstanceAs (Decidable (_ ∧ _))
instance : Decidable word.isJalr := inferInstanceAs (Decidable (_ ∧ _))
instance : Decidable word.isLink := inferInstanceAs (Decidable (_ ∨ _ ∨ _))
instance : Decidable word.isEret := inferInstanceAs (Decidable (_ ∧ _ ∧ _))
instance : Decidable word.isTrap := inferInstanceAs (Decidable (_ ∨ _))
instance : Decidable word.isUnconditionalBeq := inferInstanceAs (Decidable (_ ∧ _ ∧ _))

end WordFields

namespace WordFields

variable {word : WordFields}

theorem isBranch_cop2 (h : word.opcode = OPCODE_COP2) : word.isBranch ↔ word.rs = COP_BC := by
  simp [isBranch, h, OPCODE_COP2, OPCODE_BEQ, OPCODE_BGTZ, OPCODE_BEQL, OPCODE_BGTZL,
    OPCODE_REGIMM, OPCODE_COP0, OPCODE_COP1]

theorem isBranch_cop0 (h : word.opcode = OPCODE_COP0) :
    word.isBranch ↔ word.rs = COP_BC ∧ word.rt < 4 := by
  simp [isBranch, h, OPCODE_COP2, OPCODE_BEQ, OPCODE_BGTZ, OPCODE_BEQL, OPCODE_BGTZL,
    OPCODE_REGIMM, OPCODE_COP0]

/-- A branch is neither in the group of `JR` nor a `J`. -/
theorem isBranch_opcode (h : word.isBranch) :
    word.opcode ≠ OPCODE_SPECIAL ∧ word.opcode ≠ OPCODE_J := by
  simp only [isBranch, OPCODE_COP2, OPCODE_BEQ, OPCODE_BGTZ, OPCODE_BEQL, OPCODE_BGTZL,
    OPCODE_REGIMM, OPCODE_COP0, OPCODE_COP1] at h
  simp only [OPCODE_SPECIAL, OPCODE_J]
  omega

theorem not_isEret_of_isBranch (h : word.isBranch) : ¬word.isEret := by
  rintro ⟨hopcode, hrs, -⟩
  have hbc := ((isBranch_cop0 hopcode).mp h).1
  exact absurd (hbc ▸ hrs) (by decide)

end WordFields

/-- What becomes of the flow behind a word. -/
inductive FlowKind where
  | plain
  | branch
  | always
  | jump
  | returns
  | call
  | indirect
  deriving DecidableEq, Repr

def WordFields.kind (word : WordFields) : FlowKind :=
  if word.isLink then .call
  else if word.isJr then if word.rs = 31 then .returns else .indirect
  else if word.isEret then .indirect
  else if word.opcode = OPCODE_J then .jump
  else if word.isBranch then if word.isUnconditionalBeq then .always else .branch
  else .plain

def FlowKind.hasDelaySlot : FlowKind → Bool
  | .branch | .always | .jump | .returns => true
  | _ => false

/-- The flow goes on to known addresses, or returns. -/
def FlowKind.isClosed : FlowKind → Bool
  | .call | .indirect => false
  | _ => true

def branchTarget (address raw : BitVec 32) : BitVec 32 :=
  address + 4 + (fieldsOf raw).simmediate <<< 2

def jumpTarget (address raw : BitVec 32) : BitVec 32 :=
  ((address + 4) &&& 0xF0000000#32) ||| (fieldsOf raw).target <<< 2

/-- Where a run may go on behind the word at an address. -/
def flowFrom (address raw : BitVec 32) : List (BitVec 32) :=
  match (fieldsOf raw).kind with
  | .plain => [address + 4]
  | .branch => [branchTarget address raw, address + 8]
  | .always => [branchTarget address raw]
  | .jump => [jumpTarget address raw]
  | _ => []

/-- The delay slot of the word at an address. -/
def slotsOf (address raw : BitVec 32) : List (BitVec 32) :=
  if (fieldsOf raw).kind.hasDelaySlot then [address + 4] else []

/-! ## Runs -/

/-- The addresses that issue their instruction on some run from `start`. -/
inductive Reaches (found : Section) (start : BitVec 32) : BitVec 32 → Prop
  | start : Reaches found start start
  | step {address next raw : BitVec 32} (head : Reaches found start address)
      (hread : readSectionWord found address = some raw) (hnext : next ∈ flowFrom address raw) :
      Reaches found start next

/-- The addresses whose instruction is executed on some run: issued, or in a delay slot. -/
def Executes (found : Section) (start address : BitVec 32) : Prop :=
  Reaches found start address ∨
    ∃ owner raw, Reaches found start owner ∧ readSectionWord found owner = some raw ∧
      address ∈ slotsOf owner raw

/-- The delay slot of an issued jump or return, or one of an issued branch that does not hold an
ordinary instruction. -/
def EntersSlot (found : Section) (start address : BitVec 32) : Prop :=
  ∃ owner raw, Reaches found start owner ∧ readSectionWord found owner = some raw ∧
    address ∈ slotsOf owner raw ∧
    ((fieldsOf raw).kind = .branch →
      ∀ held, readSectionWord found address = some held → (fieldsOf held).kind ≠ .plain)

/-- The runs that do not go on from such a slot when a branch has led into it. -/
inductive Follows (found : Section) (start : BitVec 32) : BitVec 32 → Prop
  | start : Follows found start start
  | step {address next raw : BitVec 32} (head : Follows found start address)
      (hentered : ¬EntersSlot found start address)
      (hread : readSectionWord found address = some raw) (hnext : next ∈ flowFrom address raw) :
      Follows found start next

/-- What the documentation of Rabbitizer says about the words of the R5900. -/
structure Rabbitizer.Documented (rabbitizer : Rabbitizer) : Prop where
  branch : ∀ raw, (fieldsOf raw).opcode ≠ OPCODE_COP2 →
    (rabbitizer.isBranch raw = true ↔ (fieldsOf raw).isBranch)
  copBranch : ∀ raw, (fieldsOf raw).opcode = OPCODE_COP2 → rabbitizer.isBranch raw = true →
    (fieldsOf raw).rs = COP_BC
  jump : ∀ raw, rabbitizer.isJump raw = true ↔
    (fieldsOf raw).opcode = OPCODE_J ∨ (fieldsOf raw).opcode = OPCODE_JAL ∨
      (fieldsOf raw).isJr ∨ (fieldsOf raw).isJalr
  call : ∀ raw, (fieldsOf raw).isLink → rabbitizer.isFunctionCall raw = true
  delaySlot : ∀ raw, rabbitizer.isBranch raw = true ∨ rabbitizer.isJump raw = true →
    rabbitizer.hasDelaySlot raw = true
  eret : ∀ raw, rabbitizer.isEret raw = true ↔ (fieldsOf raw).isEret

/-! ## Decoded flags -/

namespace Rabbitizer

variable {rabbitizer : Rabbitizer} {address raw : BitVec 32}

theorem decode_fields :
    (rabbitizer.decodeInstruction address raw).toWordFields = fieldsOf raw ∧
      (rabbitizer.decodeInstruction address raw).address = address := by
  unfold decodeInstruction FlowInstruction.decodeCOP2 FlowInstruction.decodeSpecial
  dsimp only
  repeat' split
  all_goals exact ⟨rfl, rfl⟩

theorem decode_isBranch_eq : (rabbitizer.decodeInstruction address raw).isBranch =
    (rabbitizer.isBranch raw ||
      decide ((fieldsOf raw).opcode = OPCODE_COP2 ∧ (fieldsOf raw).rs = COP_BC)) := by
  unfold decodeInstruction FlowInstruction.decodeCOP2 FlowInstruction.decodeSpecial
  dsimp only
  repeat' split
  all_goals simp_all

theorem decode_isJump_eq : (rabbitizer.decodeInstruction address raw).isJump =
    (rabbitizer.isJump raw || decide ((fieldsOf raw).isJr ∨ (fieldsOf raw).isJalr)) := by
  unfold decodeInstruction FlowInstruction.decodeCOP2 FlowInstruction.decodeSpecial
    WordFields.isJr WordFields.isJalr
  dsimp only
  repeat' split
  all_goals simp_all

theorem decode_isCall_eq : (rabbitizer.decodeInstruction address raw).isCall =
    (rabbitizer.isFunctionCall raw || decide (fieldsOf raw).isJalr) := by
  unfold decodeInstruction FlowInstruction.decodeCOP2 FlowInstruction.decodeSpecial
    WordFields.isJalr
  dsimp only
  repeat' split
  all_goals simp_all

theorem decode_isReturn_eq : (rabbitizer.decodeInstruction address raw).isReturn =
    (rabbitizer.isReturn raw || rabbitizer.isEret raw ||
      decide ((fieldsOf raw).isJr ∧ (fieldsOf raw).rs = 31)) := by
  unfold decodeInstruction FlowInstruction.decodeCOP2 FlowInstruction.decodeSpecial WordFields.isJr
  dsimp only
  repeat' split
  all_goals simp_all

theorem decode_hasDelaySlot_eq : (rabbitizer.decodeInstruction address raw).hasDelaySlot =
    (rabbitizer.hasDelaySlot raw && !rabbitizer.isEret raw ||
      decide ((fieldsOf raw).opcode = OPCODE_COP2 ∧ (fieldsOf raw).rs = COP_BC) ||
      decide ((fieldsOf raw).isJr ∨ (fieldsOf raw).isJalr)) := by
  unfold decodeInstruction FlowInstruction.decodeCOP2 FlowInstruction.decodeSpecial
    WordFields.isJr WordFields.isJalr
  dsimp only
  repeat' split
  all_goals simp_all

variable (h : rabbitizer.Documented)
include h

theorem Documented.decode_isBranch :
    (rabbitizer.decodeInstruction address raw).isBranch = true ↔ (fieldsOf raw).isBranch := by
  rw [decode_isBranch_eq, Bool.or_eq_true, decide_eq_true_iff]
  by_cases hcop : (fieldsOf raw).opcode = OPCODE_COP2
  · rw [WordFields.isBranch_cop2 hcop, and_iff_right hcop]
    exact ⟨fun hflag => hflag.elim (h.copBranch raw hcop) id, .inr⟩
  · rw [h.branch raw hcop]
    exact ⟨fun hflag => hflag.resolve_right fun hother => hcop hother.1, .inl⟩

theorem Documented.decode_isJump (hj : (fieldsOf raw).opcode = OPCODE_J) :
    (rabbitizer.decodeInstruction address raw).isJump = true := by
  rw [decode_isJump_eq, (h.jump raw).mpr (.inl hj)]
  rfl

theorem Documented.decode_isCall (hlink : (fieldsOf raw).isLink) :
    (rabbitizer.decodeInstruction address raw).isCall = true := by
  rw [decode_isCall_eq, h.call raw hlink]
  rfl

theorem Documented.decode_isReturn (heret : (fieldsOf raw).isEret) :
    (rabbitizer.decodeInstruction address raw).isReturn = true := by
  rw [decode_isReturn_eq, (h.eret raw).mpr heret, Bool.or_true]
  rfl

/-- Every branch, jump and return that the recovery follows has a delay slot. -/
theorem Documented.decode_hasDelaySlot
    (htransfer : (fieldsOf raw).isBranch ∨ (fieldsOf raw).opcode = OPCODE_J ∨ (fieldsOf raw).isJr) :
    (rabbitizer.decodeInstruction address raw).hasDelaySlot = true := by
  rw [decode_hasDelaySlot_eq]
  have heret : ¬(fieldsOf raw).isEret := by
    intro heret
    obtain hbranch | hj | hjr := htransfer
    · exact WordFields.not_isEret_of_isBranch hbranch heret
    · exact absurd (heret.1.symm.trans hj) (by decide)
    · exact absurd (heret.1.symm.trans hjr.1) (by decide)
  have hflag : rabbitizer.isEret raw = false :=
    Bool.eq_false_iff.mpr fun hflag => heret ((h.eret raw).mp hflag)
  by_cases hcop : (fieldsOf raw).opcode = OPCODE_COP2
  · have hbc : (fieldsOf raw).rs = COP_BC := by
      obtain hbranch | hj | hjr := htransfer
      · exact (WordFields.isBranch_cop2 hcop).mp hbranch
      · exact absurd (hcop.symm.trans hj) (by decide)
      · exact absurd (hcop.symm.trans hjr.1) (by decide)
    simp [hcop, hbc]
  · have hasked : rabbitizer.isBranch raw = true ∨ rabbitizer.isJump raw = true := by
      obtain hbranch | hj | hjr := htransfer
      · exact .inl ((h.branch raw hcop).mpr hbranch)
      · exact .inr ((h.jump raw).mpr (.inl hj))
      · exact .inr ((h.jump raw).mpr (.inr (.inr (.inl hjr))))
    simp [h.delaySlot raw hasked, hflag]

end Rabbitizer

/-! ## Kinds from flags -/

namespace WordFields

variable {word : WordFields}

theorem kind_of_return (hjr : word.isJr) (hrs : word.rs = 31) : word.kind = .returns := by
  have hlink : ¬word.isLink := by
    obtain ⟨hopcode, hfunction⟩ := hjr
    simp [isLink, isJalr, hopcode, hfunction]
  rw [kind, if_neg hlink, if_pos hjr, if_pos hrs]

theorem kind_of_jump (hj : word.opcode = OPCODE_J) : word.kind = .jump := by
  simp [kind, isLink, isJalr, isJr, isEret, hj]

theorem kind_of_branch (hbranch : word.isBranch) (hlink : ¬word.isLink) :
    word.kind = if word.isUnconditionalBeq then .always else .branch := by
  obtain ⟨hspecial, hj⟩ := isBranch_opcode hbranch
  have hjr : ¬word.isJr := fun hjr => hspecial hjr.1
  rw [kind, if_neg hlink, if_neg hjr, if_neg (not_isEret_of_isBranch hbranch), if_neg hj,
    if_pos hbranch]

theorem kind_of_plain (hlink : ¬word.isLink) (hjr : ¬word.isJr) (heret : ¬word.isEret)
    (hj : word.opcode ≠ OPCODE_J) (hbranch : ¬word.isBranch) : word.kind = .plain := by
  rw [kind, if_neg hlink, if_neg hjr, if_neg heret, if_neg hj, if_neg hbranch]

end WordFields

/-! ## One expansion -/

namespace LeafRecovery

/-- What `includeInstruction` has checked of an address that it marks. -/
structure InGap (found : Section) (start gapEnd address : BitVec 32) : Prop where
  start : start ≤ address
  gapEnd : address < gapEnd
  aligned : address &&& 3#32 = 0
  limit : address ≤ uint32Limit - 4
  readable : ∃ raw, readSectionWord found address = some raw

variable {rabbitizer : Rabbitizer} {found : Section} {start gapEnd address included : BitVec 32}
  {expansion : Expansion (BitVec 32) Bool} {raw : BitVec 32}

theorem includeInstruction_eq_some
    (h : includeInstruction found start gapEnd address = some included) :
    included = address ∧ InGap found start gapEnd address := by
  unfold includeInstruction at h
  split at h
  case isTrue => exact absurd h (by simp)
  case isFalse houtside =>
    simp only [not_or, BitVec.not_lt, ge_iff_le, BitVec.not_le, not_not, gt_iff_lt] at houtside
    obtain ⟨hstart, hend, haligned, hlimit⟩ := houtside
    obtain ⟨raw, hread, rfl⟩ := Option.map_eq_some_iff.mp h
    exact ⟨rfl, hstart, hend, haligned, hlimit, raw, hread⟩

theorem includeDelaySlot_eq_some {instruction : FlowInstruction} {slots : List (BitVec 32)}
    (hslot : instruction.hasDelaySlot = true)
    (h : includeDelaySlot found start gapEnd instruction = some slots) :
    slots = [instruction.address + 4] ∧ InGap found start gapEnd (instruction.address + 4) := by
  unfold includeDelaySlot at h
  rw [hslot, Bool.not_true, if_neg Bool.false_ne_true] at h
  split at h
  case isTrue => exact absurd h (by simp)
  case isFalse =>
    obtain ⟨slot, hincluded, rfl⟩ := Option.map_eq_some_iff.mp h
    obtain ⟨rfl, hgap⟩ := includeInstruction_eq_some hincluded
    exact ⟨rfl, hgap⟩

theorem queueSuccessor_eq_some {queued : BitVec 32}
    (h : queueSuccessor start gapEnd address = some queued) : queued = address := by
  unfold queueSuccessor at h
  split at h
  case isTrue => exact absurd h (by simp)
  case isFalse => exact (Option.some.inj h).symm

/-- An expansion marks its instruction and the delay slot, and appends where runs go on. -/
structure Expanded (found : Section) (start gapEnd address raw : BitVec 32)
    (expansion : Expansion (BitVec 32) Bool) : Prop where
  read : readSectionWord found address = some raw
  closed : (fieldsOf raw).kind.isClosed = true
  successors : expansion.successors = flowFrom address raw
  marks : expansion.marks = address :: slotsOf address raw
  label : expansion.label = decide ((fieldsOf raw).kind = .returns)
  inGap : ∀ marked ∈ expansion.marks, InGap found start gapEnd marked

theorem Expanded.of_slot {kind : FlowKind} {label : Bool} {successors slots : List (BitVec 32)}
    (hread : readSectionWord found address = some raw)
    (hkind : (fieldsOf raw).kind = kind) (hslot : kind.hasDelaySlot = true)
    (hclosed : kind.isClosed = true) (hlabel : label = decide (kind = .returns))
    (hsuccessors : successors = flowFrom address raw) (hgap : InGap found start gapEnd address)
    (hslots : slots = [address + 4] ∧ InGap found start gapEnd (address + 4)) :
    Expanded found start gapEnd address raw
      { marks := address :: slots, successors, label } where
  read := hread
  closed := hkind ▸ hclosed
  successors := hsuccessors
  marks := by rw [slotsOf, hkind, if_pos hslot, hslots.1]
  label := by rw [hkind, hlabel]
  inGap := by
    intro marked hmem
    rw [hslots.1] at hmem
    obtain rfl | hmem := List.mem_cons.mp hmem
    · exact hgap
    · rw [List.mem_singleton.mp hmem]
      exact hslots.2

/-- What the recovery relies on in a decoded instruction. -/
structure Decodes (instruction : FlowInstruction) (address raw : BitVec 32) : Prop where
  fields : instruction.toWordFields = fieldsOf raw
  address : instruction.address = address
  call : (fieldsOf raw).isLink → instruction.isCall = true
  returns : (fieldsOf raw).isEret → instruction.isReturn = true
  branch : instruction.isBranch = true ↔ (fieldsOf raw).isBranch
  jump : (fieldsOf raw).opcode = OPCODE_J → instruction.isJump = true
  delaySlot : (fieldsOf raw).isBranch ∨ (fieldsOf raw).opcode = OPCODE_J ∨ (fieldsOf raw).isJr →
    instruction.hasDelaySlot = true

variable {instruction : FlowInstruction}

theorem decodes (h : rabbitizer.Documented) :
    Decodes (rabbitizer.decodeInstruction address raw) address raw where
  fields := Rabbitizer.decode_fields.1
  address := Rabbitizer.decode_fields.2
  call := h.decode_isCall
  returns := h.decode_isReturn
  branch := h.decode_isBranch
  jump := h.decode_isJump
  delaySlot := h.decode_hasDelaySlot

theorem Decodes.branchTarget (h : Decodes instruction address raw)
    (hbranch : (fieldsOf raw).isBranch) :
    instruction.getBranchTarget = branchTarget address raw := by
  rw [FlowInstruction.getBranchTarget, h.branch.mpr hbranch, Recompiler.branchTarget, ← h.fields,
    h.address]
  rfl

theorem Decodes.jumpTarget (h : Decodes instruction address raw)
    (hj : (fieldsOf raw).opcode = OPCODE_J) :
    instruction.getJumpTarget = jumpTarget address raw := by
  have hopcode : instruction.opcode = OPCODE_J := (congrArg WordFields.opcode h.fields).trans hj
  rw [FlowInstruction.getJumpTarget, h.jump hj, Recompiler.jumpTarget, ← h.fields, h.address]
  simp [hopcode, OPCODE_SPECIAL, OPCODE_J]

theorem Decodes.slot (h : Decodes instruction address raw) {slots : List (BitVec 32)}
    (htransfer : (fieldsOf raw).isBranch ∨ (fieldsOf raw).opcode = OPCODE_J ∨ (fieldsOf raw).isJr)
    (hslots : includeDelaySlot found start gapEnd instruction = some slots) :
    slots = [address + 4] ∧ InGap found start gapEnd (address + 4) := by
  have hslot := includeDelaySlot_eq_some (h.delaySlot htransfer) hslots
  rwa [h.address] at hslot

theorem expanded_of_expand (h : rabbitizer.Documented)
    (hexpand : expand rabbitizer found start gapEnd address = some expansion) :
    ∃ raw, Expanded found start gapEnd address raw expansion := by
  unfold expand at hexpand
  simp only [Option.bind_eq_bind, Option.bind_eq_some_iff] at hexpand
  obtain ⟨raw, hread, included, hincluded, hexpand⟩ := hexpand
  obtain ⟨rfl, hgap⟩ := includeInstruction_eq_some hincluded
  have hdecodes : Decodes (rabbitizer.decodeInstruction included raw) included raw := decodes h
  generalize rabbitizer.decodeInstruction included raw = instruction at hexpand hdecodes
  have hopcode := congrArg WordFields.opcode hdecodes.fields
  have hfunction := congrArg WordFields.function hdecodes.fields
  have hrs := congrArg WordFields.rs hdecodes.fields
  have hrt := congrArg WordFields.rt hdecodes.fields
  simp only [hopcode, hfunction, hrs, hrt, hdecodes.address] at hexpand
  refine ⟨raw, ?_⟩
  split at hexpand
  case isTrue hreturn =>
    obtain ⟨slots, hslots, hexpansion⟩ := Option.bind_eq_some_iff.mp hexpand
    obtain rfl := Option.some.inj hexpansion
    have hkind := WordFields.kind_of_return hreturn.1 hreturn.2
    exact .of_slot hread hkind rfl rfl rfl (by rw [flowFrom, hkind]) hgap
      (hdecodes.slot (.inr (.inr hreturn.1)) hslots)
  case isFalse =>
    split at hexpand
    case isTrue => exact absurd hexpand (by simp)
    case isFalse hopen =>
      simp only [not_or] at hopen
      obtain ⟨hcall, hjr, hjalr, hreturns⟩ := hopen
      have hlink : ¬(fieldsOf raw).isLink := fun hlink => hcall (hdecodes.call hlink)
      have heret : ¬(fieldsOf raw).isEret := fun heret => hreturns (hdecodes.returns heret)
      split at hexpand
      case isTrue hj =>
        obtain ⟨slots, hslots, hexpand⟩ := Option.bind_eq_some_iff.mp hexpand
        obtain ⟨target, htarget, hexpansion⟩ := Option.bind_eq_some_iff.mp hexpand
        obtain rfl := Option.some.inj hexpansion
        obtain rfl := queueSuccessor_eq_some htarget
        have hkind := WordFields.kind_of_jump hj
        exact .of_slot hread hkind rfl rfl rfl (by rw [flowFrom, hkind, hdecodes.jumpTarget hj]) hgap
          (hdecodes.slot (.inr (.inl hj)) hslots)
      case isFalse hj =>
        split at hexpand
        case isTrue => exact absurd hexpand (by simp)
        case isFalse =>
          split at hexpand
          case isTrue hflag =>
            have hbranch := hdecodes.branch.mp hflag
            have hkinds := WordFields.kind_of_branch hbranch hlink
            obtain ⟨slots, hslots, hexpand⟩ := Option.bind_eq_some_iff.mp hexpand
            obtain ⟨target, htarget, hexpand⟩ := Option.bind_eq_some_iff.mp hexpand
            obtain rfl := queueSuccessor_eq_some htarget
            have hslot := hdecodes.slot (.inl hbranch) hslots
            split at hexpand
            case isTrue hbeq =>
              obtain rfl := Option.some.inj hexpand
              have hkind := hkinds.trans (if_pos hbeq)
              exact .of_slot hread hkind rfl rfl rfl
                (by rw [flowFrom, hkind, hdecodes.branchTarget hbranch]) hgap hslot
            case isFalse hbeq =>
              have hkind := hkinds.trans (if_neg hbeq)
              split at hexpand
              case isTrue => exact absurd hexpand (by simp)
              case isFalse =>
                obtain ⟨next, hnext, hexpansion⟩ := Option.bind_eq_some_iff.mp hexpand
                obtain rfl := Option.some.inj hexpansion
                obtain rfl := queueSuccessor_eq_some hnext
                exact .of_slot hread hkind rfl rfl rfl
                  (by rw [flowFrom, hkind, hdecodes.branchTarget hbranch]) hgap hslot
          case isFalse hflag =>
            have hkind := WordFields.kind_of_plain hlink hjr heret hj (mt hdecodes.branch.mpr hflag)
            split at hexpand
            case isTrue => exact absurd hexpand (by simp)
            case isFalse =>
              obtain ⟨next, hnext, hexpansion⟩ := Option.bind_eq_some_iff.mp hexpand
              obtain rfl := Option.some.inj hexpansion
              obtain rfl := queueSuccessor_eq_some hnext
              refine ⟨hread, by rw [hkind]; rfl, by rw [flowFrom, hkind], ?_, by rw [hkind]; rfl, ?_⟩
              · rw [slotsOf, hkind]
                rfl
              · intro marked hmem
                rwa [List.mem_singleton.mp hmem]

/-- A loop iteration marks its address and appends two successors at most. -/
theorem marking (h : rabbitizer.Documented) :
    Worklist.Marking (expand rabbitizer found start gapEnd) 2 where
  marks_self address expansion hexpand := by
    obtain ⟨raw, hexpanded⟩ := expanded_of_expand h hexpand
    rw [hexpanded.marks]
    exact List.mem_cons_self
  width address expansion hexpand := by
    obtain ⟨raw, hexpanded⟩ := expanded_of_expand h hexpand
    rw [hexpanded.successors, flowFrom]
    split <;> simp

/-! ## The extent -/

theorem le_reachableEnd (marks : List (BitVec 32)) (reachableEnd : BitVec 32) :
    reachableEnd ≤ marks.foldl (fun reachableEnd address =>
        if reachableEnd < address + 4 then address + 4 else reachableEnd) reachableEnd ∧
      ∀ marked ∈ marks, marked + 4 ≤ marks.foldl (fun reachableEnd address =>
        if reachableEnd < address + 4 then address + 4 else reachableEnd) reachableEnd := by
  induction marks generalizing reachableEnd with
  | nil => exact ⟨BitVec.le_refl _, fun marked hmem => absurd hmem List.not_mem_nil⟩
  | cons first rest ih =>
    rw [List.foldl_cons]
    obtain ⟨hle, hrest⟩ := ih (if reachableEnd < first + 4 then first + 4 else reachableEnd)
    have hmax : reachableEnd ≤ (if reachableEnd < first + 4 then first + 4 else reachableEnd) ∧
        first + 4 ≤ (if reachableEnd < first + 4 then first + 4 else reachableEnd) := by
      split
      case isTrue hless => exact ⟨BitVec.le_of_lt hless, BitVec.le_refl _⟩
      case isFalse hnot => exact ⟨BitVec.le_refl _, BitVec.not_lt.mp hnot⟩
    refine ⟨BitVec.le_trans hmax.1 hle, fun marked hmem => ?_⟩
    obtain rfl | hmem := List.mem_cons.mp hmem
    · exact BitVec.le_trans hmax.2 hle
    · exact hrest marked hmem

/-- The end is behind everything that was marked, and a return was seen only where there is one. -/
theorem note_foldr (expansions : List (Expansion (BitVec 32) Bool)) (extent : LeafExtent) :
    (∀ expansion ∈ expansions, ∀ marked ∈ expansion.marks,
        marked + 4 ≤ (expansions.foldr note extent).reachableEnd) ∧
      ((expansions.foldr note extent).sawReturn = true →
        extent.sawReturn = true ∨ ∃ expansion ∈ expansions, expansion.label = true) := by
  induction expansions with
  | nil => exact ⟨fun expansion hmem => absurd hmem List.not_mem_nil, .inl⟩
  | cons first rest ih =>
    obtain ⟨hends, hreturn⟩ := ih
    obtain ⟨hle, hfirst⟩ := le_reachableEnd first.marks (rest.foldr note extent).reachableEnd
    rw [List.foldr_cons]
    constructor
    · intro expansion hmem marked hmarked
      obtain rfl | hmem := List.mem_cons.mp hmem
      · exact hfirst marked hmarked
      · exact BitVec.le_trans (hends expansion hmem marked hmarked) hle
    · intro hsaw
      obtain hearlier | hlabel := Bool.or_eq_true_iff.mp hsaw
      · obtain hextent | ⟨expansion, hmem, hlabel⟩ := hreturn hearlier
        · exact .inl hextent
        · exact .inr ⟨expansion, List.mem_cons_of_mem first hmem, hlabel⟩
      · exact .inr ⟨first, List.mem_cons_self, hlabel⟩

theorem toNat_mod_of_aligned (h : address &&& 3#32 = 0) : address.toNat % 4 = 0 := by
  have hbits := congrArg BitVec.toNat h
  rw [BitVec.toNat_and] at hbits
  exact (Nat.and_two_pow_sub_one_eq_mod address.toNat 2).symm.trans hbits

/-- The loop over the range meets every aligned address in it. -/
theorem mem_wordsUpTo {reachableEnd : BitVec 32} (hstart : start &&& 3#32 = 0)
    (haligned : address &&& 3#32 = 0) (hle : start ≤ address) (hlt : address < reachableEnd) :
    address ∈ wordsUpTo start reachableEnd := by
  have hs := toNat_mod_of_aligned hstart
  have ha := toNat_mod_of_aligned haligned
  have hle' := BitVec.le_def.mp hle
  have hlt' := BitVec.lt_def.mp hlt
  have hbound := address.isLt
  refine List.mem_map.mpr ⟨(address.toNat - start.toNat) / 4, List.mem_range.mpr (by omega), ?_⟩
  apply BitVec.eq_of_toNat_eq
  have hfour : (4 : BitVec 32).toNat = 4 := rfl
  simp only [BitVec.toNat_add, BitVec.toNat_mul, BitVec.toNat_ofNat, hfour]
  omega

/-- The addresses that lead to each other are on a run. -/
theorem reaches_of_leads (hdoc : rabbitizer.Documented)
    (h : Relation.ReflTransGen (Worklist.Leads (expand rabbitizer found start gapEnd)) start address) :
    Reaches found start address := by
  induction h with
  | refl => exact .start
  | tail _ hleads ih =>
    obtain ⟨expansion, hexpand, hnext⟩ := hleads
    obtain ⟨raw, hexpanded⟩ := expanded_of_expand hdoc hexpand
    exact ih.step hexpanded.read (hexpanded.successors ▸ hnext)

/-! ## What a search has found -/

/-- A search that has ended: its start, the instructions it has expanded, and the end it has seen. -/
structure Traversed (rabbitizer : Rabbitizer) (found : Section) (start gapEnd : BitVec 32)
    (final : Worklist.State (BitVec 32) LeafExtent) (done : List (BitVec 32)) : Prop where
  explored : Worklist.Explored (expand rabbitizer found start gapEnd) note start
    { reachableEnd := start } final done
  pending : final.pending = []

namespace Traversed

variable {final : Worklist.State (BitVec 32) LeafExtent} {done : List (BitVec 32)}
  (h : Traversed rabbitizer found start gapEnd final done) (hdoc : rabbitizer.Documented)
include h hdoc

/-- Where runs go on from what was expanded has been marked. -/
theorem of_done {item : BitVec 32} (hdone : item ∈ done) :
    ∃ raw expansion, expand rabbitizer found start gapEnd item = some expansion ∧
      Expanded found start gapEnd item raw expansion ∧
      ∀ next ∈ flowFrom item raw, next ∈ final.visited := by
  obtain ⟨expansion, hexpand, hnext⟩ := h.explored.successors item hdone
  obtain ⟨raw, hexpanded⟩ := expanded_of_expand hdoc hexpand
  refine ⟨raw, expansion, hexpand, hexpanded, fun next hmem => ?_⟩
  rw [← hexpanded.successors] at hmem
  refine (hnext next hmem).resolve_right ?_
  rw [h.pending]
  exact List.not_mem_nil

/-- A marked address was expanded, or is the delay slot of one that was. -/
theorem of_visited (hvisited : address ∈ final.visited) :
    ∃ owner ∈ done, ∃ raw, readSectionWord found owner = some raw ∧
      (address = owner ∨ address ∈ slotsOf owner raw) ∧
      InGap found start gapEnd address ∧ address + 4 ≤ final.noted.reachableEnd := by
  obtain ⟨owner, hdone, expansion, hexpand, hmarked⟩ := (h.explored.visited address).mp hvisited
  obtain ⟨raw, hexpanded⟩ := expanded_of_expand hdoc hexpand
  refine ⟨owner, hdone, raw, hexpanded.read, ?_, hexpanded.inGap address hmarked, ?_⟩
  · rw [hexpanded.marks] at hmarked
    exact List.mem_cons.mp hmarked
  · rw [h.explored.noted]
    exact (note_foldr _ _).1 expansion (List.mem_filterMap.mpr ⟨owner, hdone, hexpand⟩) address hmarked

theorem reaches {item : BitVec 32} (hdone : item ∈ done) : Reaches found start item :=
  reaches_of_leads hdoc (h.explored.reached item (.inl hdone))

/-- **The runs that do not go on from an entered slot stay where the search has been.** -/
theorem visited_of_follows (hfollows : Follows found start address) : address ∈ final.visited := by
  induction hfollows with
  | start =>
    refine h.explored.start.resolve_right ?_
    rw [h.pending]
    exact List.not_mem_nil
  | @step address next raw _ hentered hread hnext ih =>
    obtain ⟨owner, hdone, ownerRaw, hownerRead, hwhere, -, -⟩ := h.of_visited hdoc ih
    obtain ⟨doneRaw, expansion, -, hexpanded, hflow⟩ := h.of_done hdoc hdone
    obtain rfl : doneRaw = ownerRaw := Option.some.inj (hexpanded.read.symm.trans hownerRead)
    obtain rfl | hslot := hwhere
    · rw [hread] at hownerRead
      exact hflow next (Option.some.inj hownerRead ▸ hnext)
    · -- a delay slot that was not expanded: its branch falls through to where it goes on
      have hplain : (fieldsOf doneRaw).kind = .branch ∧ (fieldsOf raw).kind = .plain := by
        by_contra hnot
        refine hentered ⟨owner, doneRaw, h.reaches hdoc hdone, hownerRead, hslot, ?_⟩
        intro hbranch held hheld hkind
        rw [hread] at hheld
        exact hnot ⟨hbranch, Option.some.inj hheld ▸ hkind⟩
      rw [slotsOf, hplain.1] at hslot
      obtain rfl := List.mem_singleton.mp hslot
      rw [flowFrom, hplain.2] at hnext
      obtain rfl := List.mem_singleton.mp hnext
      apply hflow
      rw [flowFrom, hplain.1]
      have height : owner + 4 + 4 = owner + 8 := by
        rw [BitVec.add_assoc]
        rfl
      exact List.mem_cons_of_mem _ (List.mem_singleton.mpr height)

theorem executes_of_visited (hvisited : address ∈ final.visited) : Executes found start address := by
  obtain ⟨owner, hdone, raw, hread, rfl | hslot, -, -⟩ := h.of_visited hdoc hvisited
  · exact .inl (h.reaches hdoc hdone)
  · exact .inr ⟨owner, raw, h.reaches hdoc hdone, hread, hslot⟩

theorem inside_of_visited (hvisited : address ∈ final.visited) :
    start ≤ address ∧ address < final.noted.reachableEnd := by
  obtain ⟨owner, hdone, raw, hread, hwhere, hgap, hend⟩ := h.of_visited hdoc hvisited
  refine ⟨hgap.start, BitVec.lt_def.mpr ?_⟩
  have hlimit := BitVec.le_def.mp hgap.limit
  have hend' := BitVec.le_def.mp hend
  have hfour : (4 : BitVec 32).toNat = 4 := rfl
  have hmax : (uint32Limit - 4).toNat = 2 ^ 32 - 5 := rfl
  rw [BitVec.toNat_add, hfour, Nat.mod_eq_of_lt (by omega)] at hend'
  omega

/-- Where a run has come that may go on, it does so at known addresses or returns. -/
theorem closed_of_follows (hfollows : Follows found start address)
    (hentered : ¬EntersSlot found start address) :
    ∃ raw, readSectionWord found address = some raw ∧ (fieldsOf raw).kind.isClosed = true ∧
      ∀ slot ∈ slotsOf address raw, slot ∈ final.visited := by
  obtain ⟨owner, hdone, raw, hread, hwhere, hgap, -⟩ :=
    h.of_visited hdoc (h.visited_of_follows hdoc hfollows)
  obtain ⟨doneRaw, expansion, hexpand, hexpanded, -⟩ := h.of_done hdoc hdone
  obtain rfl : doneRaw = raw := Option.some.inj (hexpanded.read.symm.trans hread)
  obtain rfl | hslot := hwhere
  · refine ⟨doneRaw, hread, hexpanded.closed, fun slot hmem => ?_⟩
    refine (h.explored.visited slot).mpr ⟨address, hdone, expansion, hexpand, ?_⟩
    rw [hexpanded.marks]
    exact List.mem_cons_of_mem address hmem
  · obtain ⟨held, hheld⟩ := hgap.readable
    have hplain : (fieldsOf held).kind = .plain := by
      by_contra hkind
      refine hentered ⟨owner, doneRaw, h.reaches hdoc hdone, hread, hslot, ?_⟩
      intro _ other hother
      rw [hheld] at hother
      exact Option.some.inj hother ▸ hkind
    refine ⟨held, hheld, by rw [hplain]; rfl, fun slot hmem => ?_⟩
    rw [slotsOf, hplain] at hmem
    exact absurd hmem List.not_mem_nil

end Traversed

end LeafRecovery

/-! ## Recovered leaves -/

/-- A leaf `[start, endAddress)`: its runs stay inside, and end only in a return, the delay slot of
which is inside too; there is a return; and what is not executed is zero. -/
structure ClosedLeaf (found : Section) (start endAddress : BitVec 32) : Prop where
  inside : ∀ address, Follows found start address → start ≤ address ∧ address < endAddress
  closed : ∀ address, Follows found start address → ¬EntersSlot found start address →
    ∃ raw, readSectionWord found address = some raw ∧ (fieldsOf raw).kind.isClosed = true ∧
      (flowFrom address raw = [] → (fieldsOf raw).kind = .returns) ∧
      ∀ slot ∈ slotsOf address raw, start ≤ slot ∧ slot < endAddress
  returns : ∃ address raw, Reaches found start address ∧
    readSectionWord found address = some raw ∧ (fieldsOf raw).kind = .returns
  zero : ∀ address, address &&& 3#32 = 0 → start ≤ address → address < endAddress →
    ¬Executes found start address → readSectionWord found address = some 0

namespace LeafRecovery

variable {rabbitizer : Rabbitizer} {found : Section} {start gapEnd endAddress : BitVec 32}
  {final : Worklist.State (BitVec 32) LeafExtent} {done : List (BitVec 32)}

theorem flowFrom_eq_nil {address raw : BitVec 32} (hclosed : (fieldsOf raw).kind.isClosed = true)
    (h : flowFrom address raw = []) : (fieldsOf raw).kind = .returns := by
  unfold flowFrom at h
  cases hkind : (fieldsOf raw).kind <;> simp_all [FlowKind.isClosed]

theorem Traversed.closedLeaf (h : Traversed rabbitizer found start gapEnd final done)
    (hdoc : rabbitizer.Documented) (haligned : start &&& 3#32 = 0)
    (hfinish : finish found start final = some endAddress) : ClosedLeaf found start endAddress := by
  unfold finish at hfinish
  dsimp only at hfinish
  split at hfinish
  case isTrue => exact absurd hfinish (by simp)
  case isFalse hextent =>
    split at hfinish
    case isTrue => exact absurd hfinish (by simp)
    case isFalse hzero =>
      obtain rfl := Option.some.inj hfinish
      have hsaw : final.noted.sawReturn = true := by
        by_contra hnot
        exact hextent (.inl (by simpa using hnot))
      refine ⟨fun address hfollows => ?_, fun address hfollows hentered => ?_, ?_, ?_⟩
      · exact h.inside_of_visited hdoc (h.visited_of_follows hdoc hfollows)
      · obtain ⟨raw, hread, hclosed, hslots⟩ := h.closed_of_follows hdoc hfollows hentered
        exact ⟨raw, hread, hclosed, flowFrom_eq_nil hclosed, fun slot hmem =>
          h.inside_of_visited hdoc (hslots slot hmem)⟩
      · rw [h.explored.noted] at hsaw
        obtain hfalse | ⟨expansion, hmem, hlabel⟩ := (note_foldr _ _).2 hsaw
        · exact absurd hfalse Bool.false_ne_true
        · obtain ⟨item, hdone, hexpand⟩ := List.mem_filterMap.mp hmem
          obtain ⟨raw, hexpanded⟩ := expanded_of_expand hdoc hexpand
          rw [hexpanded.label] at hlabel
          exact ⟨item, raw, h.reaches hdoc hdone, hexpanded.read, of_decide_eq_true hlabel⟩
      · intro address haddress hle hlt hidle
        have hunvisited : address ∉ final.visited := fun hvisited =>
          hidle (h.executes_of_visited hdoc hvisited)
        by_contra hword
        refine hzero (List.any_eq_true.mpr ⟨address, mem_wordsUpTo haligned haddress hle hlt, ?_⟩)
        exact Bool.and_eq_true_iff.mpr ⟨decide_eq_true hunvisited, decide_eq_true hword⟩

def searchFuel : ℕ := 2 * kMaxInstructions + 2

/-- **Leaf recovery ends, and what it recovers is a closed leaf**, for every section content, start
and gap end. -/
theorem recovered_closed (h : rabbitizer.Documented) (found : Section) (start gapEnd : BitVec 32) :
    ∃ result, (∀ fuel, searchFuel ≤ fuel →
        recoverClosedLeafFunction rabbitizer found start gapEnd fuel = some result) ∧
      ∀ endAddress, result = some endAddress → ClosedLeaf found start endAddress := by
  unfold recoverClosedLeafFunction
  split
  case isTrue => exact ⟨none, fun _ _ => rfl, fun endAddress hend => absurd hend (by simp)⟩
  case isFalse hstart =>
    have haligned : start &&& 3#32 = 0 := by
      by_contra hnot
      exact hstart (.inl hnot)
    have hends : (Worklist.run (expand rabbitizer found start gapEnd) note kMaxInstructions searchFuel
        { pending := [start], visited := ∅, noted := { reachableEnd := start } }).isSome :=
      Worklist.run_isSome (marking h) (Nat.lt_succ_self (2 * kMaxInstructions + 1))
    obtain ⟨outcome, hrun⟩ := Option.isSome_iff_exists.mp hends
    refine ⟨outcome.bind (finish found start), fun fuel hfuel => ?_, fun endAddress hend => ?_⟩
    · rw [Worklist.run_mono hfuel hrun]
      rfl
    · obtain ⟨final, rfl, hfinish⟩ := Option.bind_eq_some_iff.mp hend
      obtain ⟨hpending, done, hexplored⟩ := Worklist.explored_of_run (marking h)
        (Worklist.explored_start start ({ reachableEnd := start } : LeafExtent)) hrun
      exact Traversed.closedLeaf ⟨hexplored, hpending⟩ h haligned hfinish

/-! ## A leaf that is not closed -/

/-- Rabbitizer as it is documented. -/
def r5900 : Rabbitizer where
  isBranch raw := decide (fieldsOf raw).isBranch
  isJump raw := decide ((fieldsOf raw).opcode = OPCODE_J ∨ (fieldsOf raw).opcode = OPCODE_JAL ∨
    (fieldsOf raw).isJr ∨ (fieldsOf raw).isJalr)
  isFunctionCall raw := decide (fieldsOf raw).isLink
  isReturn raw := decide ((fieldsOf raw).isJr ∧ (fieldsOf raw).rs = 31)
  hasDelaySlot raw := decide ((fieldsOf raw).isBranch ∨ (fieldsOf raw).opcode = OPCODE_J ∨
    (fieldsOf raw).opcode = OPCODE_JAL ∨ (fieldsOf raw).isJr ∨ (fieldsOf raw).isJalr)
  isEret raw := decide (fieldsOf raw).isEret

theorem r5900_documented : r5900.Documented where
  branch _ _ := decide_eq_true_iff
  copBranch _ hcop hbranch := (WordFields.isBranch_cop2 hcop).mp (of_decide_eq_true hbranch)
  jump _ := decide_eq_true_iff
  call _ hlink := decide_eq_true hlink
  delaySlot _ htransfer := decide_eq_true
    (htransfer.imp (fun hbranch => of_decide_eq_true hbranch) fun hjump => of_decide_eq_true hjump)
  eret _ := decide_eq_true_iff

/-- A code section that holds the words. -/
def sectionOf (address : BitVec 32) (words : List (BitVec 32)) : Section where
  address := address
  size := 4 * BitVec.ofNat 32 words.length
  isCode := true
  data := some fun offset => (words.getD (offset / 4) 0).extractLsb' (8 * (offset % 4)) 8

/-- `syscall; beqz $a0, 1f; nop; jr $ra; 1: li $v0, 1; jal 0x100000; nop`: the branch leads into the
delay slot of the return. -/
def enteredSlot : Section :=
  sectionOf 0x100000 [0x0000000C, 0x10800002, 0, 0x03E00008, 0x24020001, 0x0C040000, 0]

theorem recovered_closed_enteredSlot :
    ∃ result, (∀ fuel, searchFuel ≤ fuel →
        recoverClosedLeafFunction r5900 enteredSlot 0x100000 0x10001C fuel = some result) ∧
      ∀ endAddress, result = some endAddress → ClosedLeaf enteredSlot 0x100000 endAddress :=
  recovered_closed r5900_documented enteredSlot 0x100000 0x10001C

/-- A trap is taken for an ordinary instruction, and a run that goes on from the delay slot of a return
leaves the range, for a call. -/
theorem recovered_notClosed :
    recoverClosedLeafFunction r5900 enteredSlot 0x100000 0x10001C searchFuel =
        some (some 0x100014) ∧
      (∃ raw, readSectionWord enteredSlot 0x100000 = some raw ∧ (fieldsOf raw).isTrap) ∧
      ∃ raw, Reaches enteredSlot 0x100000 0x100014 ∧
        readSectionWord enteredSlot 0x100014 = some raw ∧ (fieldsOf raw).kind = .call := by
  have hbranch : Reaches enteredSlot 0x100000 0x100004 :=
    Reaches.start.step (show _ = some 0x0000000C by decide) (by decide)
  have hslot : Reaches enteredSlot 0x100000 0x100010 :=
    hbranch.step (show _ = some 0x10800002 by decide) (by decide)
  have hnext : Reaches enteredSlot 0x100000 0x100014 :=
    hslot.step (show _ = some 0x24020001 by decide) (by decide)
  exact ⟨by decide, ⟨0x0000000C, by decide, by decide⟩, 0x0C040000, hnext, by decide, by decide⟩

end LeafRecovery

end Ps2Recomp.Recompiler
