import Mathlib.Data.List.Basic
import Mathlib.Data.Nat.Notation
import Mathlib.Tactic.Cases

/-!
# The VU0 synchronization plan (`vu0_sync_analyzer.cpp`)

`applyVu0SyncPlan` says of the COP2 operations of a function whether they catch up with VU0 first,
wait for its end, or do neither because one before them has done it. It goes through blocks that no
branch enters, and carries from instruction to instruction whether the next access needs it.

A skipped access is `Justified` on every path: an earlier instruction caught up, and no instruction
since may have started VU0 again, where `SQC2` counts as none that may.
-/

namespace Ps2Recomp.Recompiler

inductive Vu0SyncMode where
  | Skip
  | Synchronize
  | Finish
  deriving DecidableEq, Repr

/-- The members of `Instruction` that the plan reads and writes. -/
structure ScheduledInstruction where
  address : BitVec 32
  opcode : ℕ
  rs : ℕ := 0
  rt : ℕ := 0
  function : ℕ := 0
  raw : BitVec 32 := 0
  hasDelaySlot : Bool := false
  isStore : Bool := false
  vu0SyncMode : Vu0SyncMode := .Synchronize
  deriving DecidableEq, Repr

namespace ScheduledInstruction

def OPCODE_SPECIAL : ℕ := 0x00
def OPCODE_COP2 : ℕ := 0x12
def OPCODE_LQC2 : ℕ := 0x36
def OPCODE_SQC2 : ℕ := 0x3E

def SPECIAL_SYSCALL : ℕ := 0x0C

def COP2_QMFC2 : ℕ := 0x01
def COP2_CFC2 : ℕ := 0x02
def COP2_QMTC2 : ℕ := 0x05
def COP2_CTC2 : ℕ := 0x06
def COP2_CO : ℕ := 0x10

def VU0_S1_VCALLMS : ℕ := 0x38
def VU0_S1_VCALLMSR : ℕ := 0x39

/-! ## Kinds of instructions -/

variable (inst : ScheduledInstruction)

def isCop2Transfer : Bool :=
  inst.opcode = OPCODE_COP2 &&
    (inst.rs = COP2_QMFC2 || inst.rs = COP2_CFC2 || inst.rs = COP2_QMTC2 || inst.rs = COP2_CTC2)

def isInterlockedTransfer : Bool := inst.isCop2Transfer && inst.raw &&& 1#32 ≠ 0

def isVu0LoadStore : Bool := inst.opcode = OPCODE_LQC2 || inst.opcode = OPCODE_SQC2

def isVu0MacroOperation : Bool := inst.opcode = OPCODE_COP2 && inst.rs ≥ COP2_CO

def isVu0Call : Bool :=
  inst.isVu0MacroOperation && (inst.function = VU0_S1_VCALLMS || inst.function = VU0_S1_VCALLMSR)

def isNonInterlockedMove : Bool := inst.isCop2Transfer && !inst.isInterlockedTransfer

def isLikelyHandshakeClear : Bool :=
  inst.isNonInterlockedMove && inst.rs > COP2_CFC2 && inst.rt = 0

/-- The instruction in the mode that the plan begins with. -/
def synchronized : ScheduledInstruction := { inst with vu0SyncMode := .Synchronize }

/-- A COP2 operation or a load or store of COP2, which acts on its mode. -/
def isVu0Access : Bool := inst.opcode = OPCODE_COP2 || inst.isVu0LoadStore

end ScheduledInstruction

open ScheduledInstruction

/-! ## The plan -/

def followingMacroNeedsFinish : List ScheduledInstruction → Bool
  | [] => false
  | inst :: rest =>
    if inst.isVu0Call then false
    else if inst.isVu0MacroOperation then true
    else followingMacroNeedsFinish rest

/-- What is carried from instruction to instruction. -/
structure Vu0Needs where
  needsVu0Sync : Bool
  needsVu0Finish : Bool
  deriving DecidableEq, Repr

/-- One turn of the loop over a block; `rest` is what follows in it. -/
def planInstruction (blockInterlocked : Bool) (needs : Vu0Needs) (inst : ScheduledInstruction)
    (rest : List ScheduledInstruction) : ScheduledInstruction × Vu0Needs :=
  if inst.isStore && inst.opcode ≠ OPCODE_SQC2 then (inst, ⟨true, true⟩)
  else if inst.isVu0Call then ({ inst with vu0SyncMode := .Finish }, ⟨true, true⟩)
  else if inst.isInterlockedTransfer then ({ inst with vu0SyncMode := .Finish }, ⟨true, true⟩)
  else
    let loadStore := inst.isVu0LoadStore
    let move := inst.isNonInterlockedMove
    let likelyClear := inst.isLikelyHandshakeClear
    if loadStore || move then
      if (needs.needsVu0Sync && (loadStore || move)) || likelyClear then
        if !blockInterlocked && followingMacroNeedsFinish rest then
          ({ inst with vu0SyncMode := .Finish }, ⟨false, false⟩)
        else
          ({ inst with vu0SyncMode := .Synchronize },
            ⟨blockInterlocked || (move && likelyClear), true⟩)
      else ({ inst with vu0SyncMode := .Skip }, needs)
    else if inst.isVu0MacroOperation then
      ({ inst with vu0SyncMode := .Finish }, ⟨false, false⟩)
    else if inst.opcode = ScheduledInstruction.OPCODE_COP2 then
      if needs.needsVu0Finish && inst.rs ≥ COP2_CO then
        ({ inst with vu0SyncMode := .Finish }, ⟨false, false⟩)
      else if needs.needsVu0Sync then
        ({ inst with vu0SyncMode := .Synchronize }, { needs with needsVu0Sync := blockInterlocked })
      else ({ inst with vu0SyncMode := .Skip }, needs)
    else (inst, needs)

def planFrom (blockInterlocked : Bool) : Vu0Needs → List ScheduledInstruction →
    List ScheduledInstruction
  | _, [] => []
  | needs, inst :: rest =>
    let planned := planInstruction blockInterlocked needs inst rest
    planned.1 :: planFrom blockInterlocked planned.2 rest

def planBlock (block : List ScheduledInstruction) : List ScheduledInstruction :=
  planFrom (block.any isInterlockedTransfer) ⟨true, true⟩ block

/-- The addresses that do not follow the one before them. -/
def discontinuities : List ScheduledInstruction → List (BitVec 32)
  | previous :: inst :: rest =>
    if inst.address ≠ previous.address + 4 then inst.address :: discontinuities (inst :: rest)
    else discontinuities (inst :: rest)
  | _ => []

/-- `starts` of `findBlockStarts`. -/
def blockStartAddresses (instructions : List ScheduledInstruction)
    (entryPoints : List (BitVec 32)) : List (BitVec 32) :=
  entryPoints ++ (instructions.head?.map (·.address)).toList ++
    (instructions.filter (·.hasDelaySlot)).map (·.address + 8) ++ discontinuities instructions

def findBlockStarts (instructions : List ScheduledInstruction) (entryPoints : List (BitVec 32)) :
    List ℕ :=
  if instructions = [] then []
  else
    let starts := blockStartAddresses instructions entryPoints
    let result := (List.range instructions.length).filter fun index =>
      (instructions[index]?.map (·.address)).any starts.contains
    if result.head? = some 0 then result else 0 :: result

/-- The blocks that begin at the indices. -/
def blocksAt (instructions : List ScheduledInstruction) : List ℕ → List (List ScheduledInstruction)
  | [] => []
  | begin :: rest =>
    ((instructions.take (rest.head?.getD instructions.length)).drop begin) ::
      blocksAt instructions rest

def applyVu0SyncPlan (instructions : List ScheduledInstruction) (entryPoints : List (BitVec 32)) :
    List ScheduledInstruction :=
  let instructions := instructions.map synchronized
  (blocksAt instructions (findBlockStarts instructions entryPoints)).flatMap planBlock

/-! ## Runs through the function -/

/-- Where other code may have run: the front, an entry point, or behind a delay slot, where a branch
not taken and the return of a call arrive. -/
def Boundary (instructions : List ScheduledInstruction) (entryPoints : List (BitVec 32))
    (index : ℕ) : Prop :=
  index = 0 ∨ ∃ inst, instructions[index]? = some inst ∧
    (inst.address ∈ entryPoints ∨
      ∃ branch ∈ instructions, branch.hasDelaySlot = true ∧ inst.address = branch.address + 8)

/-- Control goes from `i` to `j`: to the next address, or to a boundary. -/
inductive Step (instructions : List ScheduledInstruction) (entryPoints : List (BitVec 32)) :
    ℕ → ℕ → Prop
  | next {i : ℕ} {previous inst : ScheduledInstruction} :
      instructions[i]? = some previous → instructions[i + 1]? = some inst →
      inst.address = previous.address + 4 → Step instructions entryPoints i (i + 1)
  | enter {i j : ℕ} : Boundary instructions entryPoints j → Step instructions entryPoints i j

/-- The instructions at `p 0, …, p n`, one after the other. -/
structure Run (instructions : List ScheduledInstruction) (entryPoints : List (BitVec 32))
    (p : ℕ → ℕ) (n : ℕ) : Prop where
  enters : Boundary instructions entryPoints (p 0)
  steps : ∀ k < n, Step instructions entryPoints (p k) (p (k + 1))

/-- The access at the end of the run may be skipped: the one at `m` has caught up, and nothing since
may have started VU0, as `starts` says, nor let other code run. -/
def CaughtUp (starts : ScheduledInstruction → Bool)
    (instructions planned : List ScheduledInstruction) (entryPoints : List (BitVec 32))
    (p : ℕ → ℕ) (n : ℕ) : Prop :=
  ∃ m < n,
    (∃ inst, planned[p m]? = some inst ∧ inst.isVu0Access = true ∧ inst.vu0SyncMode ≠ .Skip) ∧
    (∀ k, m ≤ k → k < n → ∀ inst, planned[p k]? = some inst → starts inst = false) ∧
    (∀ k, m < k → k ≤ n → ¬Boundary instructions entryPoints (p k))

def Justified (starts : ScheduledInstruction → Bool)
    (instructions planned : List ScheduledInstruction) (entryPoints : List (BitVec 32)) : Prop :=
  ∀ p n, Run instructions entryPoints p n → ∀ inst, planned[p n]? = some inst →
    inst.vu0SyncMode = .Skip → CaughtUp starts instructions planned entryPoints p n

namespace ScheduledInstruction

/-- What may start VU0 for the plan: a store but `SQC2`, or a call. -/
def mayStartVu0 (inst : ScheduledInstruction) : Bool :=
  (inst.isStore && inst.opcode ≠ OPCODE_SQC2) || inst.isVu0Call

/-- Every store, every call and the system calls. -/
def mayStartVu0OrYield (inst : ScheduledInstruction) : Bool :=
  inst.isStore || inst.isVu0Call ||
    (inst.opcode = OPCODE_SPECIAL && inst.function = SPECIAL_SYSCALL)

def needsFinish (inst : ScheduledInstruction) : Bool :=
  inst.isVu0MacroOperation || inst.isInterlockedTransfer

end ScheduledInstruction

/-! ## One instruction -/

section Instruction

variable {blockInterlocked : Bool} {needs : Vu0Needs} {inst : ScheduledInstruction}
  {rest : List ScheduledInstruction}

theorem isVu0Access_of_isVu0LoadStore (h : inst.isVu0LoadStore = true) :
    inst.isVu0Access = true := by
  simp [isVu0Access, h]

theorem isVu0Access_of_isVu0MacroOperation (h : inst.isVu0MacroOperation = true) :
    inst.isVu0Access = true := by
  have hopcode : inst.opcode = ScheduledInstruction.OPCODE_COP2 := by
    simp only [isVu0MacroOperation, Bool.and_eq_true, decide_eq_true_eq] at h
    exact h.1
  simp [isVu0Access, hopcode]

theorem isVu0Access_of_isNonInterlockedMove (h : inst.isNonInterlockedMove = true) :
    inst.isVu0Access = true := by
  have hopcode : inst.opcode = ScheduledInstruction.OPCODE_COP2 := by
    simp only [isNonInterlockedMove, isCop2Transfer, Bool.and_eq_true, decide_eq_true_eq] at h
    exact h.1.1
  simp [isVu0Access, hopcode]

/-- A macro operation is no load, store or transfer: its `rs` is above those of the transfers. -/
theorem isVu0LoadStore_or_move_of_macro (h : inst.isVu0MacroOperation = true) :
    inst.isVu0LoadStore = false ∧ inst.isNonInterlockedMove = false := by
  simp only [isVu0MacroOperation, Bool.and_eq_true, decide_eq_true_eq] at h
  obtain ⟨hopcode, hrs⟩ := h
  refine ⟨by simp [isVu0LoadStore, hopcode, ScheduledInstruction.OPCODE_COP2, OPCODE_LQC2,
    OPCODE_SQC2], ?_⟩
  simp only [COP2_CO] at hrs
  simp only [isNonInterlockedMove, isCop2Transfer, COP2_QMFC2, COP2_CFC2, COP2_QMTC2, COP2_CTC2,
    Bool.and_eq_false_iff, Bool.or_eq_false_iff, decide_eq_false_iff_not]
  refine .inl (.inr ⟨⟨⟨?_, ?_⟩, ?_⟩, ?_⟩) <;> exact decide_eq_false (by omega)

/-- Only the mode of an instruction changes. -/
theorem planInstruction_eq (blockInterlocked : Bool) (needs : Vu0Needs)
    (inst : ScheduledInstruction) (rest : List ScheduledInstruction) :
    ∃ mode, (planInstruction blockInterlocked needs inst rest).1 =
      { inst with vu0SyncMode := mode } := by
  unfold planInstruction
  dsimp only
  split_ifs <;> exact ⟨_, rfl⟩

/-- An access is skipped only when no synchronization is due, and leaves the needs as they are. -/
theorem planInstruction_skip (hmode : inst.vu0SyncMode = .Synchronize)
    (h : (planInstruction blockInterlocked needs inst rest).1.vu0SyncMode = .Skip) :
    needs.needsVu0Sync = false := by
  unfold planInstruction at h
  dsimp only at h
  split_ifs at h <;> simp_all

/-- No synchronization is due after an instruction that starts nothing, and that catches up itself
where one was due before it. -/
theorem planInstruction_caughtUp
    (h : (planInstruction blockInterlocked needs inst rest).2.needsVu0Sync = false) :
    (planInstruction blockInterlocked needs inst rest).1.mayStartVu0 = false ∧
      (needs.needsVu0Sync = false ∨
        (planInstruction blockInterlocked needs inst rest).1.isVu0Access = true ∧
        (planInstruction blockInterlocked needs inst rest).1.vu0SyncMode ≠ .Skip) := by
  obtain ⟨mode, hmode⟩ := planInstruction_eq blockInterlocked needs inst rest
  suffices hfirst : inst.mayStartVu0 = false ∧ (needs.needsVu0Sync = false ∨
      inst.isVu0Access = true ∧
        (planInstruction blockInterlocked needs inst rest).1.vu0SyncMode ≠ .Skip) by
    have hstart : (planInstruction blockInterlocked needs inst rest).1.mayStartVu0 =
        inst.mayStartVu0 := by rw [hmode]; rfl
    have haccess : (planInstruction blockInterlocked needs inst rest).1.isVu0Access =
        inst.isVu0Access := by rw [hmode]; rfl
    rwa [hstart, haccess]
  -- an instruction that clears the need is a macro operation, a transfer, a load or a store of COP2
  have haccess : inst.isVu0LoadStore = true ∨ inst.isNonInterlockedMove = true ∨
      inst.isVu0MacroOperation = true ∨ inst.opcode = ScheduledInstruction.OPCODE_COP2 →
        inst.isVu0Access = true := by
    rintro (hload | hmove | hmacro | hopcode)
    · exact isVu0Access_of_isVu0LoadStore hload
    · exact isVu0Access_of_isNonInterlockedMove hmove
    · exact isVu0Access_of_isVu0MacroOperation hmacro
    · simp [isVu0Access, hopcode]
  unfold planInstruction at h ⊢
  dsimp only at h ⊢
  split_ifs at h ⊢ <;> simp_all [mayStartVu0] <;> grind

theorem planInstruction_finish (hstore : inst.isStore = false) (hfinish : inst.needsFinish = true) :
    (planInstruction blockInterlocked needs inst rest).1.vu0SyncMode = .Finish := by
  have hmacro := fun h : inst.isVu0MacroOperation = true => isVu0LoadStore_or_move_of_macro h
  simp only [needsFinish, Bool.or_eq_true] at hfinish
  unfold planInstruction
  dsimp only
  split_ifs <;> simp_all

end Instruction

/-! ## One block -/

section Block

variable {blockInterlocked : Bool}

theorem length_planFrom (needs : Vu0Needs) (block : List ScheduledInstruction) :
    (planFrom blockInterlocked needs block).length = block.length := by
  induction block generalizing needs with
  | nil => rfl
  | cons inst rest ih => simp [planFrom, ih]

/-- No instruction from index `low` up to `high` may start VU0. -/
def Quiet (block : List ScheduledInstruction) (low high : ℕ) : Prop :=
  ∀ j, low ≤ j → j < high → ∀ inst, block[j]? = some inst → inst.mayStartVu0 = false

theorem Quiet.cons {first : ScheduledInstruction} {block : List ScheduledInstruction} {k : ℕ}
    (hfirst : first.mayStartVu0 = false) (h : Quiet block 0 k) :
    Quiet (first :: block) 0 (k + 1) := by
  intro j hlow hhigh inst hinst
  cases j with
  | zero =>
    rw [List.getElem?_cons_zero, Option.some.injEq] at hinst
    rwa [← hinst]
  | succ j => exact h j (Nat.zero_le j) (by omega) inst hinst

theorem Quiet.cons_succ {block : List ScheduledInstruction} {m k : ℕ} (h : Quiet block m k)
    (first : ScheduledInstruction) : Quiet (first :: block) (m + 1) (k + 1) := by
  intro j hlow hhigh inst hinst
  cases j with
  | zero => omega
  | succ j => exact h j (by omega) (by omega) inst hinst

/-- Where an access is skipped, the block was quiet since an access that caught up, or since its
start with no synchronization due there. -/
theorem planFrom_skip {needs : Vu0Needs} {block : List ScheduledInstruction}
    (hmodes : ∀ inst ∈ block, inst.vu0SyncMode = .Synchronize) {k : ℕ}
    {inst : ScheduledInstruction}
    (hinst : (planFrom blockInterlocked needs block)[k]? = some inst)
    (hskip : inst.vu0SyncMode = .Skip) :
    (needs.needsVu0Sync = false ∧ Quiet (planFrom blockInterlocked needs block) 0 k) ∨
      ∃ m < k, (∃ earlier, (planFrom blockInterlocked needs block)[m]? = some earlier ∧
        earlier.isVu0Access = true ∧ earlier.vu0SyncMode ≠ .Skip) ∧
        Quiet (planFrom blockInterlocked needs block) m k := by
  induction block generalizing needs k with
  | nil => simp [planFrom] at hinst
  | cons first rest ih =>
    rw [planFrom] at hinst ⊢
    cases k with
    | zero =>
      rw [List.getElem?_cons_zero, Option.some.injEq] at hinst
      rw [← hinst] at hskip
      have hneeds := planInstruction_skip (hmodes first List.mem_cons_self) hskip
      exact .inl ⟨hneeds, fun j _ hj => absurd hj (Nat.not_lt_zero j)⟩
    | succ k =>
      rw [List.getElem?_cons_succ] at hinst
      rcases ih (fun x hx => hmodes x (List.mem_cons_of_mem first hx)) hinst with
        ⟨hneeds, hquiet⟩ | ⟨m, hm, hearlier, hquiet⟩
      · obtain ⟨hstart, hbefore | hcaught⟩ := planInstruction_caughtUp hneeds
        · exact .inl ⟨hbefore, hquiet.cons hstart⟩
        · exact .inr ⟨0, Nat.succ_pos k, ⟨_, List.getElem?_cons_zero, hcaught⟩,
            hquiet.cons hstart⟩
      · exact .inr ⟨m + 1, Nat.succ_lt_succ hm, hearlier, hquiet.cons_succ _⟩

/-- A block starts with a synchronization due, so an access skipped in it has one before it. -/
theorem planBlock_skip {block : List ScheduledInstruction}
    (hmodes : ∀ inst ∈ block, inst.vu0SyncMode = .Synchronize) {k : ℕ}
    {inst : ScheduledInstruction} (hinst : (planBlock block)[k]? = some inst)
    (hskip : inst.vu0SyncMode = .Skip) :
    ∃ m < k, (∃ earlier, (planBlock block)[m]? = some earlier ∧ earlier.isVu0Access = true ∧
      earlier.vu0SyncMode ≠ .Skip) ∧ Quiet (planBlock block) m k := by
  rcases planFrom_skip hmodes hinst hskip with ⟨hneeds, -⟩ | hcaught
  · exact absurd hneeds (by simp)
  · exact hcaught

theorem planFrom_finish {needs : Vu0Needs} {block : List ScheduledInstruction}
    {inst : ScheduledInstruction} (hinst : inst ∈ planFrom blockInterlocked needs block)
    (hstore : inst.isStore = false) (hfinish : inst.needsFinish = true) :
    inst.vu0SyncMode = .Finish := by
  induction block generalizing needs with
  | nil => simp [planFrom] at hinst
  | cons first rest ih =>
    rw [planFrom, List.mem_cons] at hinst
    rcases hinst with rfl | hrest
    · obtain ⟨mode, hmode⟩ := planInstruction_eq blockInterlocked needs first rest
      rw [hmode] at hstore hfinish
      exact planInstruction_finish hstore hfinish
    · exact ih hrest

theorem planFrom_synchronized (needs : Vu0Needs) (block : List ScheduledInstruction) :
    (planFrom blockInterlocked needs block).map synchronized = block.map synchronized := by
  induction block generalizing needs with
  | nil => rfl
  | cons first rest ih =>
    obtain ⟨mode, hmode⟩ := planInstruction_eq blockInterlocked needs first rest
    rw [planFrom, List.map_cons, List.map_cons, ih, hmode]
    rfl

end Block

/-! ## The blocks of a function -/

section Blocks

variable {instructions : List ScheduledInstruction} {entryPoints : List (BitVec 32)}

/-- The blocks between increasing starts make up the list. -/
theorem flatten_blocksAt {begin : ℕ} {rest : List ℕ} (hsorted : (begin :: rest).Pairwise (· < ·))
    (hbound : ∀ start ∈ begin :: rest, start ≤ instructions.length) :
    (blocksAt instructions (begin :: rest)).flatten = instructions.drop begin := by
  induction rest generalizing begin with
  | nil => simp [blocksAt]
  | cons next rest ih =>
    have hnext : begin < next := List.rel_of_pairwise_cons hsorted List.mem_cons_self
    have hle : next ≤ instructions.length :=
      hbound next (List.mem_cons_of_mem begin List.mem_cons_self)
    have htake : (instructions.take next).length = next := by
      rw [List.length_take, Nat.min_eq_left hle]
    calc (blocksAt instructions (begin :: next :: rest)).flatten
        = (instructions.take next).drop begin ++ (blocksAt instructions (next :: rest)).flatten :=
          rfl
      _ = (instructions.take next).drop begin ++ instructions.drop next := by
          rw [ih hsorted.of_cons fun start hstart =>
            hbound start (List.mem_cons_of_mem begin hstart)]
      _ = (instructions.take next ++ instructions.drop next).drop begin := by
          rw [List.drop_append_of_le_length (by omega)]
      _ = instructions.drop begin := by rw [List.take_append_drop]

/-- Every index lies in one block, behind whose begin no start lies up to the index. -/
theorem blocksAt_located {begin : ℕ} {rest : List ℕ} (hsorted : (begin :: rest).Pairwise (· < ·))
    (hbound : ∀ start ∈ begin :: rest, start ≤ instructions.length) {i : ℕ} (hbegin : begin ≤ i)
    (hi : i < instructions.length) :
    ∃ b e, begin ≤ b ∧ b ≤ i ∧ i < e ∧ e ≤ instructions.length ∧
      (∀ j, b < j → j ≤ i → j ∉ begin :: rest) ∧
      ∀ j, b ≤ j → j < e →
        ((blocksAt instructions (begin :: rest)).flatMap planBlock)[j - begin]? =
          (planBlock ((instructions.take e).drop b))[j - b]? := by
  induction rest generalizing begin with
  | nil =>
    refine ⟨begin, instructions.length, Nat.le_refl _, hbegin, hi, Nat.le_refl _, ?_, ?_⟩
    · intro j hj _
      simp only [List.mem_singleton]
      omega
    · intro j _ _
      simp [blocksAt]
  | cons next rest ih =>
    have hnext : begin < next := List.rel_of_pairwise_cons hsorted List.mem_cons_self
    have hle : next ≤ instructions.length :=
      hbound next (List.mem_cons_of_mem begin List.mem_cons_self)
    have hrest : ∀ start ∈ rest, next < start := fun start hstart =>
      List.rel_of_pairwise_cons hsorted.of_cons hstart
    have hlength : (planBlock ((instructions.take next).drop begin)).length = next - begin := by
      rw [planBlock, length_planFrom, List.length_drop, List.length_take, Nat.min_eq_left hle]
    have hblocks : (blocksAt instructions (begin :: next :: rest)).flatMap planBlock =
        planBlock ((instructions.take next).drop begin) ++
          (blocksAt instructions (next :: rest)).flatMap planBlock := rfl
    rw [hblocks]
    by_cases hlt : i < next
    · refine ⟨begin, next, Nat.le_refl _, hbegin, hlt, hle, ?_, ?_⟩
      · intro j hj hji hmem
        rcases List.mem_cons.mp hmem with rfl | htail
        · omega
        · rcases List.mem_cons.mp htail with rfl | hmem
          · omega
          · have := hrest j hmem
            omega
      · intro j hj hje
        exact List.getElem?_append_left (by omega)
    · obtain ⟨b, e, hb, hbi, hie, he, hstarts, hplanned⟩ := ih hsorted.of_cons
        (fun start hstart => hbound start (List.mem_cons_of_mem begin hstart)) (by omega)
      refine ⟨b, e, by omega, hbi, hie, he, ?_, ?_⟩
      · intro j hj hji hmem
        rcases List.mem_cons.mp hmem with rfl | htail
        · omega
        · exact hstarts j hj hji htail
      · intro j hj hje
        rw [List.getElem?_append_right (by omega), hlength, ← hplanned j hj hje]
        congr 1
        omega

theorem mem_blockStartAddresses {inst : ScheduledInstruction}
    (h : inst.address ∈ entryPoints ∨
      ∃ branch ∈ instructions, branch.hasDelaySlot = true ∧ inst.address = branch.address + 8) :
    inst.address ∈ blockStartAddresses instructions entryPoints := by
  simp only [blockStartAddresses, List.append_assoc, List.mem_append, List.mem_map,
    List.mem_filter]
  rcases h with hentry | ⟨branch, hbranch, hdelay, haddress⟩
  · exact .inl hentry
  · exact .inr (.inr (.inl ⟨branch, ⟨hbranch, hdelay⟩, haddress.symm⟩))

/-- The starts begin at the front, increase, and hold every boundary. -/
theorem findBlockStarts_spec (entryPoints : List (BitVec 32)) (hne : instructions ≠ []) :
    ∃ rest, findBlockStarts instructions entryPoints = 0 :: rest ∧
      (0 :: rest).Pairwise (· < ·) ∧ (∀ start ∈ 0 :: rest, start ≤ instructions.length) ∧
      ∀ index < instructions.length, Boundary instructions entryPoints index →
        index ∈ 0 :: rest := by
  obtain ⟨result, hresult⟩ : ∃ result, result = (List.range instructions.length).filter
      fun index => (instructions[index]?.map (·.address)).any
        (blockStartAddresses instructions entryPoints).contains := ⟨_, rfl⟩
  have hsorted : result.Pairwise (· < ·) := by
    rw [hresult]
    exact List.pairwise_lt_range.filter _
  have hbound : ∀ start ∈ result, start ≤ instructions.length := by
    intro start hstart
    rw [hresult, List.mem_filter, List.mem_range] at hstart
    exact Nat.le_of_lt hstart.1
  have hmem : ∀ index < instructions.length, Boundary instructions entryPoints index →
      index = 0 ∨ index ∈ result := by
    intro index hindex hboundary
    rcases hboundary with hzero | ⟨inst, hinst, hstarts⟩
    · exact .inl hzero
    · right
      rw [hresult, List.mem_filter, List.mem_range, hinst]
      exact ⟨hindex, List.contains_iff_mem.mpr (mem_blockStartAddresses hstarts)⟩
  have hstarts : findBlockStarts instructions entryPoints =
      if result.head? = some 0 then result else 0 :: result := by
    rw [hresult, findBlockStarts, if_neg hne]
  cases result with
  | nil =>
    refine ⟨[], hstarts, List.pairwise_singleton _ _, ?_, ?_⟩
    · intro start hstart
      rw [List.mem_singleton] at hstart
      omega
    · intro index hindex hboundary
      rcases hmem index hindex hboundary with rfl | hnil
      · exact List.mem_cons_self
      · exact absurd hnil List.not_mem_nil
  | cons first rest =>
    by_cases hfirst : first = 0
    · subst hfirst
      refine ⟨rest, hstarts, hsorted, hbound, ?_⟩
      intro index hindex hboundary
      rcases hmem index hindex hboundary with rfl | hrest
      · exact List.mem_cons_self
      · exact hrest
    · rw [List.head?_cons, if_neg (by simpa using hfirst)] at hstarts
      refine ⟨first :: rest, hstarts, ?_, ?_, ?_⟩
      · refine List.pairwise_cons.mpr ⟨?_, hsorted⟩
        intro start hstart
        rcases List.mem_cons.mp hstart with rfl | hrest
        · exact Nat.pos_of_ne_zero hfirst
        · exact Nat.zero_lt_of_lt (List.rel_of_pairwise_cons hsorted hrest)
      · intro start hstart
        rcases List.mem_cons.mp hstart with rfl | hrest
        · exact Nat.zero_le _
        · exact hbound start hrest
      · intro index hindex hboundary
        exact List.mem_cons.mpr (hmem index hindex hboundary)

end Blocks

/-! ## Every path -/

section Paths

variable {instructions : List ScheduledInstruction} {entryPoints : List (BitVec 32)}

/-- What lies behind no boundary is reached from one index to the next. -/
theorem Run.backwards {p : ℕ → ℕ} {n m : ℕ} (hrun : Run instructions entryPoints p n)
    (hinside : ∀ j, m < j → j ≤ p n → ¬Boundary instructions entryPoints j) {t : ℕ}
    (ht : t ≤ p n - m) : t ≤ n ∧ p (n - t) = p n - t := by
  induction t with
  | zero => exact ⟨Nat.zero_le n, rfl⟩
  | succ t ih =>
    obtain ⟨htn, hp⟩ := ih (by omega)
    have hnot : ¬Boundary instructions entryPoints (p (n - t)) := by
      rw [hp]
      exact hinside _ (by omega) (by omega)
    have hpos : n - t ≠ 0 := by
      intro hzero
      rw [hzero] at hnot
      exact hnot hrun.enters
    have hstep := hrun.steps (n - (t + 1)) (by omega)
    rw [show n - (t + 1) + 1 = n - t by omega] at hstep
    refine ⟨by omega, ?_⟩
    generalize hj : p (n - t) = j at hstep hnot hp
    cases hstep with
    | next => omega
    | enter hboundary => exact absurd hboundary hnot

theorem Boundary.synchronized {index : ℕ} (h : Boundary instructions entryPoints index) :
    Boundary (instructions.map synchronized) entryPoints index := by
  rcases h with hzero | ⟨inst, hinst, hstarts⟩
  · exact .inl hzero
  · refine .inr ⟨inst.synchronized, by rw [List.getElem?_map, hinst]; rfl, ?_⟩
    rcases hstarts with hentry | ⟨branch, hbranch, hdelay, haddress⟩
    · exact .inl hentry
    · exact .inr ⟨branch.synchronized, List.mem_map_of_mem hbranch, hdelay, haddress⟩

/-- Every index lies in a planned block that no boundary cuts up to it. -/
theorem applyVu0SyncPlan_located (entryPoints : List (BitVec 32)) {i : ℕ}
    (hi : i < instructions.length) :
    ∃ block b, b ≤ i ∧ (∀ inst ∈ block, inst.vu0SyncMode = .Synchronize) ∧
      (∀ j, b < j → j ≤ i → ¬Boundary instructions entryPoints j) ∧
      ∀ j, b ≤ j → j ≤ i →
        (applyVu0SyncPlan instructions entryPoints)[j]? = (planBlock block)[j - b]? := by
  have hne : instructions.map synchronized ≠ [] := by
    rw [ne_eq, List.map_eq_nil_iff]
    rintro rfl
    exact Nat.not_lt_zero i hi
  have hi' : i < (instructions.map synchronized).length := by rwa [List.length_map]
  obtain ⟨rest, hstarts, hsorted, hbound, hboundary⟩ :=
    findBlockStarts_spec entryPoints hne
  obtain ⟨b, e, -, hb, he, -, hinside, hplanned⟩ :=
    blocksAt_located hsorted hbound (Nat.zero_le i) hi'
  refine ⟨((instructions.map synchronized).take e).drop b, b, hb, ?_, ?_, ?_⟩
  · intro inst hinst
    obtain ⟨original, -, rfl⟩ := List.mem_map.mp (List.mem_of_mem_take (List.mem_of_mem_drop hinst))
    rfl
  · intro j hj hji hat
    exact hinside j hj hji (hboundary j (by omega) hat.synchronized)
  · intro j hj hji
    have hat := hplanned j hj (by omega)
    rw [Nat.sub_zero] at hat
    rw [← hat, applyVu0SyncPlan, hstarts]

theorem applyVu0SyncPlan_synchronized (instructions : List ScheduledInstruction)
    (entryPoints : List (BitVec 32)) :
    (applyVu0SyncPlan instructions entryPoints).map synchronized =
      instructions.map synchronized := by
  by_cases hne : instructions.map synchronized = []
  · rw [List.map_eq_nil_iff] at hne
    subst hne
    rfl
  obtain ⟨rest, hstarts, hsorted, hbound, -⟩ := findBlockStarts_spec entryPoints hne
  have hblocks := flatten_blocksAt hsorted hbound
  have hplanned : ∀ blocks : List (List ScheduledInstruction),
      (blocks.flatMap planBlock).map synchronized = blocks.flatten.map synchronized := by
    intro blocks
    induction blocks with
    | nil => rfl
    | cons block blocks ih =>
      rw [List.flatMap_cons, List.map_append, ih, planBlock, planFrom_synchronized,
        List.flatten_cons, List.map_append]
  rw [applyVu0SyncPlan, hplanned, hstarts, hblocks, List.drop_zero, List.map_map]
  rfl

/-- On every path to an access that is skipped, another has caught up before it in the same block;
and a macro operation or an interlocked transfer always waits for the end of VU0. -/
theorem applyVu0SyncPlan_justified (instructions : List ScheduledInstruction)
    (entryPoints : List (BitVec 32)) :
    (applyVu0SyncPlan instructions entryPoints).map synchronized =
        instructions.map synchronized ∧
      (∀ inst ∈ applyVu0SyncPlan instructions entryPoints, inst.isStore = false →
        inst.needsFinish = true → inst.vu0SyncMode = .Finish) ∧
      Justified mayStartVu0 instructions (applyVu0SyncPlan instructions entryPoints)
        entryPoints := by
  refine ⟨applyVu0SyncPlan_synchronized instructions entryPoints, ?_, ?_⟩
  · intro inst hinst hstore hfinish
    rw [applyVu0SyncPlan, List.mem_flatMap] at hinst
    obtain ⟨block, -, hinst⟩ := hinst
    exact planFrom_finish hinst hstore hfinish
  intro p n hrun inst hinst hskip
  have hi : p n < instructions.length := by
    have hlength := congrArg List.length (applyVu0SyncPlan_synchronized instructions entryPoints)
    rw [List.length_map, List.length_map] at hlength
    rw [← hlength]
    exact (List.getElem?_eq_some_iff.mp hinst).1
  obtain ⟨block, b, hb, hmodes, hinside, hplanned⟩ := applyVu0SyncPlan_located entryPoints hi
  rw [hplanned (p n) hb (Nat.le_refl _)] at hinst
  obtain ⟨m, hm, ⟨earlier, hearlier, hcaught⟩, hquiet⟩ := planBlock_skip hmodes hinst hskip
  -- the block was gone through from the index of the earlier access, at `p (n - t)`
  have hback : ∀ t ≤ p n - b, t ≤ n ∧ p (n - t) = p n - t := fun t ht =>
    hrun.backwards hinside ht
  obtain ⟨htn, hpm⟩ := hback (p n - b - m) (by omega)
  refine ⟨n - (p n - b - m), by omega, ⟨earlier, ?_, hcaught⟩, ?_, ?_⟩
  · rw [hpm, hplanned _ (by omega) (by omega), ← hearlier]
    congr 1
    omega
  · intro k hmk hkn x hx
    obtain ⟨-, hpk⟩ := hback (n - k) (by omega)
    rw [show n - (n - k) = k by omega] at hpk
    rw [hpk, hplanned _ (by omega) (by omega)] at hx
    exact hquiet _ (by omega) (by omega) x hx
  · intro k hmk hkn
    obtain ⟨-, hpk⟩ := hback (n - k) (by omega)
    rw [show n - (n - k) = k by omega] at hpk
    rw [hpk]
    exact hinside _ (by omega) (by omega)

/-- A `QMFC2` on both sides of an instruction. -/
def transfersAround (inst : ScheduledInstruction) : List ScheduledInstruction :=
  [{ address := 0x1000, opcode := ScheduledInstruction.OPCODE_COP2, rs := COP2_QMFC2, rt := 2 },
    inst,
    { address := 0x1008, opcode := ScheduledInstruction.OPCODE_COP2, rs := COP2_QMFC2, rt := 2 }]

theorem not_justified_of_skip {starts : ScheduledInstruction → Bool}
    {planned : List ScheduledInstruction} {inst middle last : ScheduledInstruction}
    (haddress : inst.address = 0x1004) (hmiddle : planned[1]? = some middle)
    (hstarts : starts middle = true) (hlast : planned[2]? = some last)
    (hskip : last.vu0SyncMode = .Skip) :
    ¬Justified starts (transfersAround inst) planned [] := by
  intro h
  have hrun : Run (transfersAround inst) [] id 2 := by
    refine ⟨.inl rfl, fun k hk => ?_⟩
    rcases (by omega : k = 0 ∨ k = 1) with rfl | rfl
    · exact .next rfl rfl haddress
    · refine .next rfl rfl ?_
      rw [haddress]
      rfl
  obtain ⟨m, hm, -, hquiet, -⟩ := h id 2 hrun last hlast hskip
  have := hquiet 1 (by omega) (by omega) middle hmiddle
  rw [hstarts] at this
  exact Bool.noConfusion this

/-- `SQC2` counts as no store and a system call as nothing, so the transfer behind one is skipped;
and `VISWR`, a store to the decoder, passes for one and does not wait. -/
theorem applyVu0SyncPlan_skips :
    (¬Justified mayStartVu0OrYield
      (transfersAround { address := 0x1004, opcode := OPCODE_SQC2, isStore := true })
      (applyVu0SyncPlan
        (transfersAround { address := 0x1004, opcode := OPCODE_SQC2, isStore := true }) []) []) ∧
    (¬Justified mayStartVu0OrYield
      (transfersAround { address := 0x1004, opcode := ScheduledInstruction.OPCODE_SPECIAL,
                         function := SPECIAL_SYSCALL })
      (applyVu0SyncPlan
        (transfersAround { address := 0x1004, opcode := ScheduledInstruction.OPCODE_SPECIAL,
                           function := SPECIAL_SYSCALL }) []) []) ∧
    ¬∀ inst ∈ applyVu0SyncPlan
      [{ address := 0x1000, opcode := ScheduledInstruction.OPCODE_COP2, rs := COP2_CO,
         function := 0x3F, isStore := true }] [], inst.needsFinish = true → inst.vu0SyncMode = .Finish := by
  refine ⟨?_, ?_, by decide⟩
  · exact not_justified_of_skip rfl rfl (by decide) rfl (by decide)
  · exact not_justified_of_skip rfl rfl (by decide) rfl (by decide)

end Paths

end Ps2Recomp.Recompiler
