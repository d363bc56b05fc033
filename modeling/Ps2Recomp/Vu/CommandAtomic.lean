import Ps2Recomp.Vu.CommandProcessor
import Ps2Recomp.Vu.DecodedUnpackInPlace

/-!
# A VU1 command is applied wholly or not at all, unless an UNPACK is refused late

What `process` checks before it applies a payload is `Admitted`; what `apply` finds out on its way is
`fits`. A command that is admitted and does not fit leaves the processor as it was, except that the
UNPACKs before the refused one, and the VIF state folded into it, have been applied
(`apply_unfit`). So `process` and the entry points beside it apply a command wholly or not at all
exactly where nothing was written before the refusal, and where the sequence is not exhausted: at its
end `process` throws after the command has been applied, while `processAdvanceSlice` throws before.
-/

namespace Ps2Recomp

open BitMemory (Memory)

/-! ## An UNPACK is refused before anything is written -/

namespace Vu1DecodedUnpackCommand

variable (command : Vu1DecodedUnpackCommand)

theorem cl_pos (vif : Vu1VifState) : 0 < cl vif := by
  unfold cl
  dsimp only
  split <;> omega

theorem expectedSourceCount_eq (vif : Vu1VifState) :
    command.expectedSourceCount vif =
      Ps2Recomp.sourceVectorCount (cl vif) (wl vif) command.writeVectorCount := by
  unfold expectedSourceCount Ps2Recomp.sourceVectorCount
  split
  · have hmin : (if command.writeVectorCount % wl vif > cl vif then cl vif
        else command.writeVectorCount % wl vif) =
          min (command.writeVectorCount % wl vif) (cl vif) := by
      split <;> omega
    dsimp only
    rw [hmin]
  · rfl

theorem writeOne_cycle (vuAddress dataMemorySize : ℕ) (state : LoopState) (writeIndex : ℕ) :
    (command.writeOne vuAddress dataMemorySize state writeIndex).vif.cycle = state.vif.cycle := by
  unfold writeOne
  dsimp only
  split_ifs <;> rfl

theorem writeOne_sourceIndex (vuAddress dataMemorySize : ℕ) (state : LoopState) (writeIndex : ℕ) :
    (command.writeOne vuAddress dataMemorySize state writeIndex).sourceIndex =
      if (wl state.vif ≤ cl state.vif ∨ writeIndex % wl state.vif < cl state.vif) ∧
          state.sourceIndex < command.sourceVectorCount then state.sourceIndex + 1
      else state.sourceIndex := by
  unfold writeOne
  dsimp only
  split_ifs <;> simp_all

/-- After `writes` of the writes the vectors that belong to them have been read, wherever they
were written. -/
theorem sourceIndex_foldl (vuAddress dataMemorySize : ℕ) (vif : Vu1VifState) (dataMemory : Memory)
    (hcount : command.expectedSourceCount vif = command.sourceVectorCount) {writes : ℕ}
    (hwrites : writes ≤ command.writeVectorCount) :
    let state := (List.range writes).foldl (command.writeOne vuAddress dataMemorySize)
      { dataMemory, vif }
    state.vif.cycle = vif.cycle ∧
      state.sourceIndex = Ps2Recomp.sourceVectorCount (cl vif) (wl vif) writes := by
  induction writes with
  | zero => exact ⟨rfl, by simp [Ps2Recomp.sourceVectorCount]⟩
  | succ writes ih =>
    obtain ⟨hcycle, hindex⟩ := ih (by omega)
    have hnext := sourceVectorCount_succ (cl_pos vif) (wl vif) writes
    have hle := sourceVectorCount_mono (cl_pos vif) (wl vif) hwrites
    rw [hnext, ← expectedSourceCount_eq, hcount] at hle
    dsimp only
    rw [List.range_succ, List.foldl_append, List.foldl_cons, List.foldl_nil]
    generalize (List.range writes).foldl (command.writeOne vuAddress dataMemorySize)
      { dataMemory, vif } = state at hcycle hindex ⊢
    have hcl : cl state.vif = cl vif := by rw [cl, cl, hcycle]
    have hwl : wl state.vif = wl vif := by rw [wl, wl, hcycle]
    refine ⟨(writeOne_cycle command vuAddress dataMemorySize state writes).trans hcycle, ?_⟩
    rw [writeOne_sourceIndex, hcl, hwl, hindex, hnext]
    by_cases hread : wl vif ≤ cl vif ∨ writes % wl vif < cl vif
    · rw [if_pos hread] at hle
      rw [if_pos hread, if_pos ⟨hread, hle⟩]
    · rw [if_neg hread, if_neg fun h => hread h.1]

theorem accepted_count {vif : Vu1VifState} {dataMemorySize : ℕ}
    (h : command.accepted vif dataMemorySize = true) :
    command.expectedSourceCount vif = command.sourceVectorCount := by
  unfold accepted at h
  simp only [Bool.and_eq_true, decide_eq_true_eq] at h
  exact h.2

/-- Only CYCLE matters to the checks. -/
theorem accepted_congr {vif vif' : Vu1VifState} (h : vif.cycle = vif'.cycle) (dataMemorySize : ℕ) :
    command.accepted vif dataMemorySize = command.accepted vif' dataMemorySize := by
  have hcl : cl vif = cl vif' := by rw [cl, cl, h]
  have hwl : wl vif = wl vif' := by rw [wl, wl, h]
  rw [accepted, accepted, expectedSourceCount, expectedSourceCount, hcl, hwl]

end Vu1DecodedUnpackCommand

open Vu1DecodedUnpackCommand

/-- All source vectors have been read when the loop is over: an UNPACK fails by the checks before it,
or not at all. -/
theorem applyVu1DecodedUnpack_accepted (command : Vu1DecodedUnpackCommand) (vif : Vu1VifState)
    (dataMemory : Memory) (dataMemorySize : ℕ) :
    (applyVu1DecodedUnpack command vif dataMemory dataMemorySize).1 =
      command.accepted vif dataMemorySize := by
  unfold applyVu1DecodedUnpack
  by_cases h : command.accepted vif dataMemorySize = true
  · have hcount := accepted_count command h
    have hloop := (sourceIndex_foldl command (command.vuAddress vif) dataMemorySize vif dataMemory
      hcount le_rfl).2
    rw [← expectedSourceCount_eq, hcount] at hloop
    rw [h, Bool.not_true, if_neg Bool.false_ne_true]
    dsimp only
    split
    · rfl
    · exact decide_eq_true hloop
  · rw [Bool.not_eq_true] at h
    rw [h]
    rfl

theorem applyVu1DecodedUnpack_refused {command : Vu1DecodedUnpackCommand} {vif : Vu1VifState}
    {dataMemorySize : ℕ} (h : command.accepted vif dataMemorySize = false) (dataMemory : Memory) :
    applyVu1DecodedUnpack command vif dataMemory dataMemorySize = (false, vif, dataMemory) := by
  rw [applyVu1DecodedUnpack, h]
  rfl

theorem applyVu1DecodedUnpack_cycle (command : Vu1DecodedUnpackCommand) (vif : Vu1VifState)
    (dataMemory : Memory) (dataMemorySize : ℕ) :
    (applyVu1DecodedUnpack command vif dataMemory dataMemorySize).2.1.cycle = vif.cycle := by
  by_cases h : command.accepted vif dataMemorySize = true
  · have hloop := (sourceIndex_foldl command (command.vuAddress vif) dataMemorySize vif dataMemory
      (accepted_count command h) le_rfl).1
    rw [applyVu1DecodedUnpack, h, Bool.not_true, if_neg Bool.false_ne_true]
    dsimp only
    split
    · rfl
    · exact hloop
  · rw [applyVu1DecodedUnpack_refused (Bool.not_eq_true _ ▸ h)]

namespace Vu1CommandStream

/-- Each UNPACK passes its checks when its turn comes. -/
def unpacksFit (vif : Vu1VifState) (dataMemorySize : ℕ) : List Vu1DecodedUnpack → Bool
  | [] => true
  | unpack :: rest =>
    let vif := unpack.vifStateBefore.getD vif
    unpack.accepted vif dataMemorySize && unpacksFit vif dataMemorySize rest

theorem unpacksFit_congr {vif vif' : Vu1VifState} (h : vif.cycle = vif'.cycle)
    (dataMemorySize : ℕ) (batch : List Vu1DecodedUnpack) :
    unpacksFit vif dataMemorySize batch = unpacksFit vif' dataMemorySize batch := by
  induction batch generalizing vif vif' with
  | nil => rfl
  | cons unpack rest ih =>
    have hnext : (unpack.vifStateBefore.getD vif).cycle = (unpack.vifStateBefore.getD vif').cycle := by
      cases unpack.vifStateBefore with
      | none => exact h
      | some _ => rfl
    rw [unpacksFit, unpacksFit, accepted_congr _ hnext, ih hnext]

theorem applyUnpacks_fit (vif : Vu1VifState) (dataMemory : Memory) (dataMemorySize : ℕ)
    (batch : List Vu1DecodedUnpack) :
    (applyUnpacks vif dataMemory dataMemorySize batch).1 = unpacksFit vif dataMemorySize batch := by
  induction batch generalizing vif dataMemory with
  | nil => rfl
  | cons unpack rest ih =>
    have haccepted := applyVu1DecodedUnpack_accepted unpack.toVu1DecodedUnpackCommand
      (unpack.vifStateBefore.getD vif) dataMemory dataMemorySize
    have hcycle := applyVu1DecodedUnpack_cycle unpack.toVu1DecodedUnpackCommand
      (unpack.vifStateBefore.getD vif) dataMemory dataMemorySize
    rw [applyUnpacks, unpacksFit, ← haccepted]
    generalize applyVu1DecodedUnpack unpack.toVu1DecodedUnpackCommand
      (unpack.vifStateBefore.getD vif) dataMemory dataMemorySize = applied at hcycle ⊢
    obtain ⟨accepted, vifAfter, dataAfter⟩ := applied
    cases accepted with
    | false => rfl
    | true =>
      rw [Bool.true_and, ← unpacksFit_congr hcycle]
      exact ih vifAfter dataAfter

/-- Where one is refused, the ones before it have been applied, and the VIF state folded into it is
taken over. -/
theorem applyUnpacks_refused (vif : Vu1VifState) (dataMemory : Memory) (dataMemorySize : ℕ)
    (before : List Vu1DecodedUnpack) (refused : Vu1DecodedUnpack) (rest : List Vu1DecodedUnpack)
    (hbefore : unpacksFit vif dataMemorySize before = true)
    (hrefused : refused.accepted (refused.vifStateBefore.getD
      (applyUnpacks vif dataMemory dataMemorySize before).2.1) dataMemorySize = false) :
    applyUnpacks vif dataMemory dataMemorySize (before ++ refused :: rest) =
      (false,
        refused.vifStateBefore.getD (applyUnpacks vif dataMemory dataMemorySize before).2.1,
        (applyUnpacks vif dataMemory dataMemorySize before).2.2) := by
  induction before generalizing vif dataMemory with
  | nil =>
    have hrefused : refused.accepted (refused.vifStateBefore.getD vif) dataMemorySize = false :=
      hrefused
    simp only [List.nil_append, applyUnpacks, applyVu1DecodedUnpack_refused hrefused]
  | cons unpack before ih =>
    have haccepted := applyVu1DecodedUnpack_accepted unpack.toVu1DecodedUnpackCommand
      (unpack.vifStateBefore.getD vif) dataMemory dataMemorySize
    have hcycle := applyVu1DecodedUnpack_cycle unpack.toVu1DecodedUnpackCommand
      (unpack.vifStateBefore.getD vif) dataMemory dataMemorySize
    rw [unpacksFit, Bool.and_eq_true, ← haccepted] at hbefore
    rw [applyUnpacks] at hrefused
    rw [List.cons_append, applyUnpacks, applyUnpacks]
    generalize applyVu1DecodedUnpack unpack.toVu1DecodedUnpackCommand
      (unpack.vifStateBefore.getD vif) dataMemory dataMemorySize = applied
      at hbefore hcycle hrefused ⊢
    obtain ⟨accepted, vifAfter, dataAfter⟩ := applied
    obtain ⟨rfl, hbefore⟩ := hbefore
    exact ih vifAfter dataAfter (unpacksFit_congr hcycle _ _ ▸ hbefore) hrefused

/-- Where not all fit, there is a first one that is refused. -/
theorem exists_refused {vif : Vu1VifState} (dataMemory : Memory) {dataMemorySize : ℕ}
    {batch : List Vu1DecodedUnpack} (h : unpacksFit vif dataMemorySize batch = false) :
    ∃ before refused rest, batch = before ++ refused :: rest ∧
      unpacksFit vif dataMemorySize before = true ∧
      refused.accepted (refused.vifStateBefore.getD
        (applyUnpacks vif dataMemory dataMemorySize before).2.1) dataMemorySize = false := by
  induction batch generalizing vif dataMemory with
  | nil => cases h
  | cons unpack rest ih =>
    rw [unpacksFit, Bool.and_eq_false_iff] at h
    by_cases haccepted : unpack.accepted (unpack.vifStateBefore.getD vif) dataMemorySize = true
    · have hrest := h.resolve_left (Bool.not_eq_false _ ▸ haccepted)
      have happlied := applyVu1DecodedUnpack_accepted unpack.toVu1DecodedUnpackCommand
        (unpack.vifStateBefore.getD vif) dataMemory dataMemorySize
      have hcycle := applyVu1DecodedUnpack_cycle unpack.toVu1DecodedUnpackCommand
        (unpack.vifStateBefore.getD vif) dataMemory dataMemorySize
      rw [haccepted] at happlied
      obtain ⟨before, refused, rest, rfl, hbefore, hrefused⟩ :=
        ih (applyVu1DecodedUnpack unpack.toVu1DecodedUnpackCommand
          (unpack.vifStateBefore.getD vif) dataMemory dataMemorySize).2.2
          (unpacksFit_congr hcycle _ _ ▸ hrest)
      refine ⟨unpack :: before, refused, rest, rfl, ?_, ?_⟩
      · rw [unpacksFit, haccepted, Bool.true_and, ← unpacksFit_congr hcycle, hbefore]
      · rw [applyUnpacks]
        generalize applyVu1DecodedUnpack unpack.toVu1DecodedUnpackCommand
          (unpack.vifStateBefore.getD vif) dataMemory dataMemorySize = applied at *
        obtain ⟨accepted, vifAfter, dataAfter⟩ := applied
        obtain rfl := happlied
        exact hrefused
    · exact ⟨[], unpack, rest, rfl, rfl, Bool.not_eq_true _ ▸ haccepted⟩

/-! ## Applying a payload -/

/-- The UNPACKs that a payload is made of, or that are attached to it. -/
def Vu1CommandPayload.unpacks {ν : Type} : Vu1CommandPayload ν → List Vu1DecodedUnpack
  | decodedUnpack unpack => [unpack]
  | decodedUnpackBatch batch => batch.getD []
  | mscal _ _ _ attached | mscalf _ _ _ attached | mscnt _ _ attached | invocation _ attached =>
    attached.unpacksBefore.getD []
  | _ => []

namespace Vu1CommandProcessor

variable {ν β σ : Type}

/-- What is well formed of a payload only where the processor stands. -/
def fits (p : Vu1CommandProcessor ν β) (payload : Vu1CommandPayload ν) : Bool :=
  match payload with
  | .microMemoryWrite offset bytes wrap => p.micro.validMemoryRange offset bytes.length wrap
  | .dataMemoryWrite offset bytes wrap => p.data.validMemoryRange offset bytes.length wrap
  | .registerWrite write => (writeRegister p.micro.size p.unit.state write).isSome
  | .restore saved _ =>
    saved.any fun snapshot =>
      snapshot.microMemory.length = p.micro.size && snapshot.dataMemory.length = p.data.size
  | payload => unpacksFit p.vifState p.data.size payload.unpacks

/-- The processor after UNPACKs that may have been refused. -/
def unpacked (p : Vu1CommandProcessor ν β) (unpacks : List Vu1DecodedUnpack) :
    Vu1CommandProcessor ν β :=
  let applied := applyUnpacks p.vifState p.data.bytes p.data.size unpacks
  { p.setData applied.2.2 with vifState := applied.2.1 }

theorem setData_data (p : Vu1CommandProcessor ν β) : p.setData p.data.bytes = p := by
  obtain ⟨unit, microMemory, dataMemory⟩ := p
  cases dataMemory <;> rfl

theorem applyUnpack_eq (p : Vu1CommandProcessor ν β) (unpack : Vu1DecodedUnpack) :
    p.applyUnpack unpack = (unpacksFit p.vifState p.data.size [unpack], p.unpacked [unpack]) := by
  rw [← applyUnpacks_fit p.vifState p.data.bytes, unpacked, applyUnpack, applyUnpacks]
  generalize applyVu1DecodedUnpack unpack.toVu1DecodedUnpackCommand
    (unpack.vifStateBefore.getD p.vifState) p.data.bytes p.data.size = applied
  obtain ⟨_ | _, vifAfter, dataAfter⟩ := applied <;> rfl

theorem applyBatch_eq (p : Vu1CommandProcessor ν β) {batch : List Vu1DecodedUnpack}
    (h : validBatch batch = true) :
    p.applyBatch batch = (unpacksFit p.vifState p.data.size batch, p.unpacked batch) := by
  rw [validBatch, Bool.and_eq_true, Bool.not_eq_true'] at h
  rw [← applyUnpacks_fit p.vifState p.data.bytes, unpacked, applyBatch, applyVu1DecodedUnpackBatch,
    h.1, if_neg Bool.false_ne_true]

theorem applyAttached_eq (p : Vu1CommandProcessor ν β) {attached : Vu1Attached}
    (h : attached.valid = true) :
    let unpacks := attached.unpacksBefore.getD []
    p.applyAttached attached =
      if unpacksFit p.vifState p.data.size unpacks then
        (true, { p.unpacked unpacks with
          vifState := attached.vifStateBefore.getD (p.unpacked unpacks).vifState })
      else (false, p.unpacked unpacks) := by
  obtain ⟨unpacksBefore, vifStateBefore⟩ := attached
  cases unpacksBefore with
  | none =>
    have hsame : p.unpacked [] = p := by
      change { p.setData p.data.bytes with vifState := p.vifState } = p
      rw [setData_data]
    dsimp only [Option.getD_none]
    rw [hsame]
    rfl
  | some batch =>
    rw [applyAttached]
    dsimp only [Option.elim_some, Option.getD_some]
    rw [applyBatch_eq p h]

theorem checkedWrite_isSome (memory : BoundMemory) (offset : ℕ) (bytes : List UInt8) (wrap : Bool) :
    (checkedWrite memory offset bytes wrap).isSome =
      memory.validMemoryRange offset bytes.length wrap := by
  unfold checkedWrite
  split <;> simp_all

/-- What `apply` leaves of a payload: it is completed where it fits, and elsewhere it is malformed and
nothing but its UNPACKs has been applied. -/
structure Applies (p : Vu1CommandProcessor ν β) (payload : Vu1CommandPayload ν)
    (applied : Vu1CommandProcessor ν β × Vu1CommandDisposition × Vu1CommandResultPayload ν σ) :
    Prop where
  disposition : applied.2.1 = if p.fits payload then .Completed else .Malformed
  unfit : p.fits payload = false → applied.1 = p.unpacked payload.unpacks
  nextSequence : applied.1.nextSequence = p.nextSequence

theorem Applies.of_fits {p : Vu1CommandProcessor ν β} {payload : Vu1CommandPayload ν}
    {applied : Vu1CommandProcessor ν β × Vu1CommandDisposition × Vu1CommandResultPayload ν σ}
    (hfits : p.fits payload = true) (hcompleted : applied.2.1 = .Completed)
    (hnext : applied.1.nextSequence = p.nextSequence) : Applies p payload applied where
  disposition := by rw [hcompleted, hfits, if_pos rfl]
  unfit := fun h => absurd (hfits ▸ h) (by decide)
  nextSequence := hnext

theorem unpacked_nil (p : Vu1CommandProcessor ν β) : p.unpacked [] = p := by
  change { p.setData p.data.bytes with vifState := p.vifState } = p
  rw [setData_data]

/-- A payload without UNPACKs that does not fit and is left alone. -/
theorem Applies.of_left {p : Vu1CommandProcessor ν β} {payload : Vu1CommandPayload ν}
    {result : Vu1CommandResultPayload ν σ} (hfits : p.fits payload = false)
    (hunpacks : payload.unpacks = []) : Applies p payload (p, .Malformed, result) where
  disposition := by rw [hfits, if_neg Bool.false_ne_true]
  unfit := fun _ => by rw [hunpacks, unpacked_nil]
  nextSequence := rfl

/-- A program that is started after what is attached to it. -/
theorem Applies.of_attached {p : Vu1CommandProcessor ν β} {payload : Vu1CommandPayload ν}
    {attached : Vu1Attached}
    {r : Vu1CommandProcessor ν β × Vu1CommandDisposition × Vu1CommandResultPayload ν σ}
    (hvalid : attached.valid = true)
    (hunpacks : payload.unpacks = attached.unpacksBefore.getD [])
    (hfits : p.fits payload = unpacksFit p.vifState p.data.size payload.unpacks)
    (hrefused : (!(p.applyAttached attached).1) = true →
      r = ((p.applyAttached attached).2, .Malformed, .noResult))
    (hstarted : ¬(!(p.applyAttached attached).1) = true →
      r.2.1 = .Completed ∧ r.1.nextSequence = (p.applyAttached attached).2.nextSequence) :
    Applies p payload r := by
  have hattached := applyAttached_eq p hvalid
  dsimp only at hattached
  rw [← hunpacks, ← hfits] at hattached
  rw [hattached] at hrefused hstarted
  by_cases h : p.fits payload = true
  · rw [if_pos h] at hstarted
    obtain ⟨hcompleted, hsequence⟩ := hstarted Bool.false_ne_true
    exact .of_fits h hcompleted hsequence
  · rw [if_neg h] at hrefused
    rw [hrefused rfl]
    exact ⟨by rw [if_neg h], fun _ => rfl, rfl⟩

theorem apply_applies (ops : VuUnitOps ν β σ) (p : Vu1CommandProcessor ν β)
    {payload : Vu1CommandPayload ν} (hvalid : payload.valid = true) :
    Applies p payload (p.apply ops payload) := by
  cases payload with
  | microMemoryWrite offset bytes wrap =>
    have hsome := checkedWrite_isSome p.micro offset bytes wrap
    dsimp only [apply]
    generalize checkedWrite p.micro offset bytes wrap = written at hsome ⊢
    cases written with
    | none => exact .of_left hsome.symm rfl
    | some _ => exact .of_fits hsome.symm rfl rfl
  | dataMemoryWrite offset bytes wrap =>
    have hsome := checkedWrite_isSome p.data offset bytes wrap
    dsimp only [apply]
    generalize checkedWrite p.data offset bytes wrap = written at hsome ⊢
    cases written with
    | none => exact .of_left hsome.symm rfl
    | some _ => exact .of_fits hsome.symm rfl rfl
  | registerWrite write =>
    have hsome : p.fits (.registerWrite write) =
      (writeRegister p.micro.size p.unit.state write).isSome := rfl
    dsimp only [apply]
    generalize writeRegister p.micro.size p.unit.state write = written at hsome ⊢
    cases written with
    | none => exact .of_left hsome rfl
    | some _ => exact .of_fits hsome rfl rfl
  | restore saved interpreterRecovery =>
    cases saved with
    | none => cases hvalid
    | some snapshot =>
      dsimp only [apply]
      by_cases h : snapshot.microMemory.length = p.micro.size ∧
          snapshot.dataMemory.length = p.data.size
      · rw [if_neg (by omega)]
        exact .of_fits (by simp [fits, h]) rfl rfl
      · rw [if_pos (by omega)]
        exact .of_left (by simpa [fits] using h) rfl
  | decodedUnpack unpack =>
    dsimp only [apply]
    rw [applyUnpack_eq]
    exact ⟨rfl, fun _ => rfl, rfl⟩
  | decodedUnpackBatch batch =>
    cases batch with
    | none => cases hvalid
    | some batch =>
      simp only [apply, Option.elim_some, applyBatch_eq p hvalid]
      exact ⟨rfl, fun _ => rfl, rfl⟩
  | mscal startPc top itop attached | mscalf startPc top itop attached =>
    refine .of_attached hvalid rfl rfl (fun h => ?_) fun h => ?_
    · exact if_pos h
    · rw [apply]
      generalize p.applyAttached attached = accepted at h ⊢
      dsimp only
      rw [if_neg h]
      exact ⟨rfl, rfl⟩
  | mscnt top itop attached =>
    refine .of_attached hvalid rfl rfl (fun h => ?_) fun h => ?_
    · exact if_pos h
    · rw [apply]
      generalize p.applyAttached attached = accepted at h ⊢
      dsimp only
      rw [if_neg h]
      exact ⟨rfl, rfl⟩
  | invocation call attached =>
    rw [Vu1CommandPayload.valid, Bool.and_eq_true, Bool.and_eq_true] at hvalid
    refine .of_attached hvalid.1.1 rfl rfl (fun h => ?_) fun h => ?_
    · exact if_pos h
    · rw [apply]
      generalize p.applyAttached attached = accepted at h ⊢
      dsimp only
      rw [if_neg h]
      exact ⟨rfl, rfl⟩
  | reset clearMicroMemory clearDataMemory =>
    refine .of_fits rfl rfl ?_
    dsimp only [apply]
    split_ifs <;> rfl
  | _ => exact .of_fits rfl rfl rfl

/-! ## Entry points -/

/-- The command carries the identity that comes next: a reset and a restore open the next generation,
if there is one, and every other command has its place in the current one. -/
def Next (p : Vu1CommandProcessor ν β) (command : Vu1Command ν) : Prop :=
  if command.payload.type.startsGeneration then
    p.generation ≠ uint64Max.val ∧ command.identity.generation = p.generation + 1 ∧
      command.identity.sequence = 1
  else command.identity.generation = p.generation ∧ command.identity.sequence = p.nextSequence

/-- Memory is bound where it is needed. -/
def Bound (p : Vu1CommandProcessor ν β) (command : Vu1Command ν) : Prop :=
  requiresBoundMemory command.payload.type = true →
    p.microMemory.isSome = true ∧ p.dataMemory.isSome = true

/-- The checks of a payload before it is applied. -/
structure Checked (command : Vu1Command ν) : Prop where
  type : command.type = command.payload.type
  payloadSize : command.payloadSize = command.payload.payloadSize
  valid : command.payload.valid = true

/-- All that `process` checks before it applies a command. -/
structure Admitted (p : Vu1CommandProcessor ν β) (command : Vu1Command ν) : Prop where
  running : p.shutdown = false
  next : p.Next command
  bound : p.Bound command
  checked : Checked command

/-- The outcome is a result, and the command is completed. -/
def Completed (outcome : Except String (Vu1CommandResult ν σ)) : Prop :=
  ∃ result, outcome = .ok result ∧ result.disposition = .Completed

/-- The checks of `process`, as what they answer. -/
def rejection (p : Vu1CommandProcessor ν β) (command : Vu1Command ν) :
    Option Vu1CommandDisposition :=
  let identity := command.identity
  let opensGeneration := command.payload.type.startsGeneration
  if p.shutdown then some .Shutdown
  else if opensGeneration && identity.generation ≤ p.generation then some .StaleGeneration
  else if opensGeneration &&
      (p.generation = uint64Max.val || identity.generation ≠ p.generation + 1) then
    some .FutureGeneration
  else if opensGeneration && identity.sequence ≠ 1 then some .OutOfOrder
  else if !opensGeneration && identity.generation < p.generation then some .StaleGeneration
  else if !opensGeneration && identity.generation > p.generation then some .FutureGeneration
  else if !opensGeneration && identity.sequence ≠ p.nextSequence then some .OutOfOrder
  else if command.type ≠ command.payload.type || command.payloadSize ≠ command.payload.payloadSize ||
      !command.payload.valid ||
      (requiresBoundMemory command.type && (p.microMemory.isNone || p.dataMemory.isNone)) then
    some .Malformed
  else none

/-- What `process` does with a command that it has let through. -/
def applied (ops : VuUnitOps ν β σ) (p : Vu1CommandProcessor ν β) (command : Vu1Command ν) :
    Outcome ν β σ :=
  let (p, disposition, payload) := p.apply ops command.payload
  let finished (p : Vu1CommandProcessor ν β) : Outcome ν β σ :=
    (p, .ok (p.result ops command.identity command.type command.payloadSize disposition payload))
  if disposition ≠ .Completed then finished p
  else if command.payload.type.startsGeneration then
    finished { p with generation := command.identity.generation, nextSequence := 2 }
  else if p.nextSequence = uint64Max.val then (p, .error sequenceExhausted)
  else finished { p with nextSequence := p.nextSequence + 1 }

theorem elim_ite {α γ : Type} (c : Prop) [Decidable c] (a : α) (rest : Option α) (x : γ)
    (f : α → γ) :
    (if c then some a else rest).elim x f = if c then f a else rest.elim x f := by
  split <;> rfl

theorem process_eq (ops : VuUnitOps ν β σ) (p : Vu1CommandProcessor ν β)
    (command : Vu1Command ν) :
    p.process ops command =
      (p.rejection command).elim (p.applied ops command) fun disposition =>
        (p, .ok (p.result ops command.identity command.type command.payloadSize disposition
          .noResult)) := by
  rw [rejection]
  simp only [elim_ite]
  rfl

theorem rejection_ne_completed (p : Vu1CommandProcessor ν β) (command : Vu1Command ν) :
    p.rejection command ≠ some .Completed := by
  unfold rejection
  dsimp only
  split_ifs <;> exact fun h => by cases h

theorem ite_some_eq_none {α : Type} {c : Prop} [Decidable c] {a : α} {rest : Option α} :
    (if c then some a else rest) = none ↔ ¬c ∧ rest = none := by
  split <;> simp_all

theorem rejection_eq_none (p : Vu1CommandProcessor ν β) (command : Vu1Command ν) :
    p.rejection command = none ↔ p.Admitted command := by
  rw [rejection]
  simp only [ite_some_eq_none]
  constructor
  · rintro ⟨hrunning, h1, h2, h3, h4, h5, h6, hpayload, -⟩
    simp only [Bool.or_eq_true, not_or, decide_eq_true_eq, not_not, Bool.and_eq_true,
      Bool.not_eq_true', Bool.not_eq_false, Option.isNone_iff_eq_none] at hpayload
    obtain ⟨⟨⟨htype, hsize⟩, hvalid⟩, hmemory⟩ := hpayload
    refine ⟨Bool.not_eq_true _ ▸ hrunning, ?_, fun hbound => ?_, htype, hsize, hvalid⟩
    · unfold Next
      cases hopens : command.payload.type.startsGeneration with
      | true =>
        simp only [hopens, Bool.true_and, Bool.or_eq_true, decide_eq_true_eq, not_or, not_not]
          at h1 h2 h3
        exact ⟨h2.1, h2.2, h3⟩
      | false =>
        simp only [hopens, Bool.not_false, Bool.true_and, decide_eq_true_eq, not_not] at h4 h5 h6
        exact ⟨by omega, h6⟩
    · rw [htype] at hmemory
      simpa [Option.isSome_iff_ne_none, hbound] using hmemory
  · rintro ⟨hrunning, hnext, hbound, htype, hsize, hvalid⟩
    refine ⟨by rw [hrunning]; decide, ?_⟩
    unfold Next at hnext
    have hmemory : requiresBoundMemory command.payload.type = true →
        ¬p.microMemory = none ∧ ¬p.dataMemory = none := fun hrequires =>
      ⟨Option.isSome_iff_ne_none.1 (hbound hrequires).1,
        Option.isSome_iff_ne_none.1 (hbound hrequires).2⟩
    cases hopens : command.payload.type.startsGeneration with
    | true =>
      rw [hopens, if_pos rfl] at hnext
      obtain ⟨hlast, hgeneration, hsequence⟩ := hnext
      simpa [hlast, hgeneration, hsequence, htype, hsize, hvalid] using hmemory
    | false =>
      rw [hopens, if_neg Bool.false_ne_true] at hnext
      obtain ⟨hgeneration, hsequence⟩ := hnext
      simpa [hgeneration, hsequence, htype, hsize, hvalid] using hmemory

/-! ## Wholly or not at all -/

/-- A refused UNPACK leaves what is there: the UNPACKs before it, and the VIF states folded in, write
nothing that is not there already. -/
def RefusesInTime (p : Vu1CommandProcessor ν β) (unpacks : List Vu1DecodedUnpack) : Prop :=
  ∀ before refused rest, unpacks = before ++ refused :: rest →
    unpacksFit p.vifState p.data.size before = true →
    let applied := applyUnpacks p.vifState p.data.bytes p.data.size before
    refused.accepted (refused.vifStateBefore.getD applied.2.1) p.data.size = false →
      refused.vifStateBefore.getD applied.2.1 = p.vifState ∧ applied.2.2 = p.data.bytes

/-- The parts of the processor that a command must not touch unless it is completed. -/
structure Unchanged (p q : Vu1CommandProcessor ν β) : Prop where
  unit : q.unit = p.unit
  vifState : q.vifState = p.vifState
  microMemory : q.microMemory = p.microMemory
  dataMemory : q.dataMemory = p.dataMemory
  codeGeneration : q.codeGeneration = p.codeGeneration
  generation : q.generation = p.generation
  nextSequence : q.nextSequence = p.nextSequence

theorem unpacked_unchanged_iff {p : Vu1CommandProcessor ν β} (hdata : p.dataMemory.isSome = true)
    (unpacks : List Vu1DecodedUnpack) :
    Unchanged p (p.unpacked unpacks) ↔
      (applyUnpacks p.vifState p.data.bytes p.data.size unpacks).2 = (p.vifState, p.data.bytes) := by
  obtain ⟨memory, hmemory⟩ := Option.isSome_iff_exists.1 hdata
  have hdata : p.data = memory := by rw [data, hmemory, Option.getD_some]
  constructor
  · intro hunchanged
    have hbytes := congrArg (Option.map BoundMemory.bytes) hunchanged.dataMemory
    rw [unpacked, setData, hmemory] at hbytes
    have hbytes := Option.some.inj hbytes
    exact Prod.ext hunchanged.vifState (hbytes.trans (by rw [hdata]))
  · intro heq
    have hsame : p.unpacked unpacks = p := by
      rw [unpacked, heq]
      exact setData_data p
    rw [hsame]
    exact ⟨rfl, rfl, rfl, rfl, rfl, rfl, rfl⟩

theorem refusesInTime_iff {p : Vu1CommandProcessor ν β} {unpacks : List Vu1DecodedUnpack}
    (h : unpacksFit p.vifState p.data.size unpacks = false) :
    p.RefusesInTime unpacks ↔
      (applyUnpacks p.vifState p.data.bytes p.data.size unpacks).2 = (p.vifState, p.data.bytes) := by
  constructor
  · intro hintime
    obtain ⟨before, refused, rest, rfl, hbefore, hrefused⟩ := exists_refused p.data.bytes h
    rw [applyUnpacks_refused _ _ _ _ _ _ hbefore hrefused]
    obtain ⟨hvif, hbytes⟩ := hintime before refused rest rfl hbefore hrefused
    exact Prod.ext hvif hbytes
  · intro heq before refused rest hsplit hbefore applied hrefused
    rw [hsplit, applyUnpacks_refused _ _ _ _ _ _ hbefore hrefused] at heq
    exact ⟨congrArg Prod.fst heq, congrArg Prod.snd heq⟩

/-- A payload that does not fit has a refused UNPACK, or none to be refused. -/
theorem unfit_unpacks {p : Vu1CommandProcessor ν β} {payload : Vu1CommandPayload ν}
    (h : p.fits payload = false) :
    payload.unpacks = [] ∨ unpacksFit p.vifState p.data.size payload.unpacks = false := by
  cases payload with
  | microMemoryWrite | dataMemoryWrite | registerWrite | restore => exact .inl rfl
  | _ => exact .inr h

theorem unfit_unchanged_iff {p : Vu1CommandProcessor ν β} (hdata : p.dataMemory.isSome = true)
    {payload : Vu1CommandPayload ν} (h : p.fits payload = false) :
    Unchanged p (p.unpacked payload.unpacks) ↔ p.RefusesInTime payload.unpacks := by
  rcases unfit_unpacks h with hnil | hunfit
  · rw [hnil, unpacked_nil]
    refine iff_of_true ⟨rfl, rfl, rfl, rfl, rfl, rfl, rfl⟩ ?_
    intro before refused rest hsplit
    simp at hsplit
  · rw [unpacked_unchanged_iff hdata, refusesInTime_iff hunfit]

/-- Where a payload may not fit, memory is bound. -/
theorem requires_of_unfit {p : Vu1CommandProcessor ν β} {payload : Vu1CommandPayload ν}
    (h : p.fits payload = false) : requiresBoundMemory payload.type = true := by
  cases payload with
  | bindMemory | setDiagnostics | setBackend | reset | snapshot | barrier | shutdown => cases h
  | _ => rfl

/-- A command that is not admitted is answered, and the processor left as it is. -/
theorem process_rejected (ops : VuUnitOps ν β σ) {p : Vu1CommandProcessor ν β}
    {command : Vu1Command ν} (h : ¬p.Admitted command) :
    (p.process ops command).1 = p ∧ ¬Completed (p.process ops command).2 := by
  rw [← rejection_eq_none] at h
  obtain ⟨disposition, hdisposition⟩ := Option.ne_none_iff_exists'.1 h
  rw [process_eq, hdisposition, Option.elim_some]
  refine ⟨rfl, ?_⟩
  rintro ⟨_, hok, hcompleted⟩
  cases hok
  exact rejection_ne_completed p command (hdisposition.trans (congrArg some hcompleted))

/-- An admitted command is completed where it fits, unless the sequence is at its end; where it does not
fit, its UNPACKs have been applied up to the refused one. -/
theorem process_admitted (ops : VuUnitOps ν β σ) {p : Vu1CommandProcessor ν β}
    {command : Vu1Command ν} (h : p.Admitted command) :
    (p.fits command.payload = true →
      (Completed (p.process ops command).2 ↔
        command.payload.type.startsGeneration = true ∨ p.nextSequence ≠ uint64Max.val)) ∧
    (p.fits command.payload = false →
      ¬Completed (p.process ops command).2 ∧
        (p.process ops command).1 = p.unpacked command.payload.unpacks) := by
  rw [process_eq, (rejection_eq_none p command).2 h, Option.elim_none]
  have happlies := apply_applies ops p h.checked.valid
  unfold applied
  generalize p.apply ops command.payload = after at happlies ⊢
  obtain ⟨q, disposition, result⟩ := after
  obtain ⟨hdisposition, hunfit, hsequence⟩ := happlies
  dsimp only at hdisposition hunfit hsequence ⊢
  constructor
  · intro hfits
    rw [hfits, if_pos rfl] at hdisposition
    subst hdisposition
    rw [if_neg (by decide), hsequence]
    split
    · exact iff_of_true ⟨_, rfl, rfl⟩ (.inl ‹_›)
    · rename_i hopens
      split
      · rename_i hlast
        exact iff_of_false (fun ⟨_, hok, _⟩ => by cases hok) (by tauto)
      · exact iff_of_true ⟨_, rfl, rfl⟩ (.inr ‹_›)
  · intro hfits
    rw [hfits, if_neg Bool.false_ne_true] at hdisposition
    subst hdisposition
    rw [if_pos (by decide)]
    refine ⟨?_, hunfit hfits⟩
    rintro ⟨_, hok, hcompleted⟩
    cases hok
    cases hcompleted

/-! ## The direct entry points -/

/-- `process` on a command with the type and the size of its payload, which runs in the current
generation. -/
theorem process_current (ops : VuUnitOps ν β σ) (p : Vu1CommandProcessor ν β)
    (identity : Vu1WorkIdentity) {payload : Vu1CommandPayload ν}
    (hopens : payload.type.startsGeneration = false)
    (hrequires : requiresBoundMemory payload.type = true) :
    let rejected (disposition : Vu1CommandDisposition) : Outcome ν β σ :=
      (p, .ok (p.result ops identity payload.type payload.payloadSize disposition .noResult))
    p.process ops ⟨identity, payload.type, payload.payloadSize, payload⟩ =
      if p.shutdown then rejected .Shutdown
      else if identity.generation < p.generation then rejected .StaleGeneration
      else if identity.generation > p.generation then rejected .FutureGeneration
      else if identity.sequence ≠ p.nextSequence then rejected .OutOfOrder
      else if !payload.valid || p.microMemory.isNone || p.dataMemory.isNone then
        rejected .Malformed
      else p.applied ops ⟨identity, payload.type, payload.payloadSize, payload⟩ := by
  rw [process_eq, rejection]
  simp only [elim_ite, hopens, hrequires, Bool.false_and, Bool.not_false, Bool.true_and,
    Bool.false_eq_true, if_false, decide_eq_true_eq, ne_eq, not_true_eq_false, decide_false,
    Bool.false_or, Option.elim_none, Bool.or_assoc]

theorem processDecodedUnpack_eq (ops : VuUnitOps ν β σ) (p : Vu1CommandProcessor ν β)
    (identity : Vu1WorkIdentity) (unpack : Vu1DecodedUnpack) :
    p.processDecodedUnpack ops identity unpack =
      p.process ops ⟨identity, .DecodedUnpack, unpack.payloadSize, .decodedUnpack unpack⟩ := by
  refine Eq.trans ?_ (@process_current ν β σ ops p identity (.decodedUnpack unpack) rfl rfl).symm
  unfold processDecodedUnpack
  iterate 4 refine ite_congr rfl (fun _ => rfl) fun _ => ?_
  refine if_congr (by simp [Vu1CommandPayload.valid, Vu1DecodedUnpack.valid]) rfl ?_
  have hdata (vifState : Vu1VifState) : data { p with vifState } = p.data := rfl
  cases haccepted : (applyVu1DecodedUnpack unpack.toVu1DecodedUnpackCommand
    (unpack.vifStateBefore.getD p.vifState) p.data.bytes p.data.size).1 with
  | false =>
    simp only [applied, apply, applyUnpack, hdata, haccepted, Bool.not_false, if_true]
    rfl
  | true =>
    simp only [applied, apply, applyUnpack, hdata, haccepted, Bool.not_true, Bool.false_eq_true,
      if_false]
    rfl

theorem processVifStateUpdate_eq (ops : VuUnitOps ν β σ) (p : Vu1CommandProcessor ν β)
    (identity : Vu1WorkIdentity) (state : Vu1VifState) :
    p.processVifStateUpdate ops identity state =
      p.process ops ⟨identity, .VifStateUpdate, 12 * 4, .vifStateUpdate state⟩ := by
  refine Eq.trans ?_ (@process_current ν β σ ops p identity (.vifStateUpdate state) rfl rfl).symm
  rfl

/-- `processAdvanceSlice` looks at the end of the sequence before it runs a slice, and `process` after
it has run one. -/
theorem processAdvanceSlice_eq (ops : VuUnitOps ν β σ) {p : Vu1CommandProcessor ν β}
    {identity : Vu1WorkIdentity} {maximumCycles : ℕ} {captureState : Bool}
    (hlast : p.Admitted ⟨identity, .AdvanceSlice, 4 + 1, .advanceSlice maximumCycles captureState⟩ →
      p.nextSequence ≠ uint64Max.val) :
    p.processAdvanceSlice ops identity maximumCycles captureState =
      p.process ops
        ⟨identity, .AdvanceSlice, 4 + 1, .advanceSlice maximumCycles captureState⟩ := by
  refine Eq.trans ?_
    (@process_current ν β σ ops p identity (.advanceSlice maximumCycles captureState) rfl rfl).symm
  unfold processAdvanceSlice
  refine ite_congr rfl (fun _ => rfl) fun hrunning => ?_
  refine ite_congr rfl (fun _ => rfl) fun hstale => ?_
  refine ite_congr rfl (fun _ => rfl) fun hfuture => ?_
  refine ite_congr rfl (fun _ => rfl) fun hsequence => ?_
  have hvalid : (maximumCycles = 0 || p.microMemory.isNone || p.dataMemory.isNone) =
      (!(Vu1CommandPayload.advanceSlice (ν := ν) maximumCycles captureState).valid ||
        p.microMemory.isNone || p.dataMemory.isNone) := by
    simp [Vu1CommandPayload.valid]
  rw [hvalid]
  refine ite_congr rfl (fun _ => rfl) fun hmalformed => ?_
  have hadmitted : p.Admitted
      ⟨identity, .AdvanceSlice, 4 + 1, .advanceSlice maximumCycles captureState⟩ := by
    simp only [Bool.or_eq_true, not_or, Bool.not_eq_true', Bool.not_eq_false,
      Option.isNone_iff_eq_none] at hmalformed
    refine ⟨Bool.not_eq_true _ ▸ hrunning, ?_, fun _ => ⟨?_, ?_⟩, rfl, rfl, hmalformed.1.1⟩
    · exact ⟨le_antisymm (not_lt.1 hfuture) (not_lt.1 hstale), not_not.1 hsequence⟩
    · exact Option.isSome_iff_ne_none.2 hmalformed.1.2
    · exact Option.isSome_iff_ne_none.2 hmalformed.2
  rw [if_neg (hlast hadmitted)]
  have hnext : (p.advanceSlice ops maximumCycles captureState).1.nextSequence = p.nextSequence := rfl
  rw [applied]
  dsimp only [apply]
  rw [if_neg (by decide), if_neg (fun h => by cases h),
    if_neg (by rw [hnext]; exact hlast hadmitted)]
  rfl

/-- A processor applies a command wholly or not at all, and it makes no difference by which entry
point the command comes. -/
structure AppliesWholly (ops : VuUnitOps ν β σ) (p : Vu1CommandProcessor ν β)
    (command : Vu1Command ν) : Prop where
  completed : Completed (p.process ops command).2 ↔
    p.shutdown = false ∧ p.Next command ∧ p.Bound command ∧ Checked command ∧
      p.fits command.payload = true
  unchanged : ¬Completed (p.process ops command).2 → Unchanged p (p.process ops command).1
  decodedUnpack : ∀ unpack,
    command = ⟨command.identity, .DecodedUnpack, unpack.payloadSize, .decodedUnpack unpack⟩ →
      p.processDecodedUnpack ops command.identity unpack = p.process ops command
  vifStateUpdate : ∀ state,
    command = ⟨command.identity, .VifStateUpdate, 12 * 4, .vifStateUpdate state⟩ →
      p.processVifStateUpdate ops command.identity state = p.process ops command
  advanceSlice : ∀ maximumCycles captureState,
    command = ⟨command.identity, .AdvanceSlice, 4 + 1,
      .advanceSlice maximumCycles captureState⟩ →
      p.processAdvanceSlice ops command.identity maximumCycles captureState =
        p.process ops command

/-- A command is applied wholly or not at all exactly where, once it is admitted, its UNPACKs are
refused in time if it does not fit, and where the sequence has not come to its end if it does. -/
theorem process_wholly_iff (ops : VuUnitOps ν β σ) (p : Vu1CommandProcessor ν β)
    (command : Vu1Command ν) :
    p.AppliesWholly ops command ↔
      (p.Admitted command →
        (p.fits command.payload = false → p.RefusesInTime command.payload.unpacks) ∧
        (p.fits command.payload = true →
          command.payload.type.startsGeneration = true ∨ p.nextSequence ≠ uint64Max.val)) := by
  have hadmitted : p.Admitted command ↔ p.shutdown = false ∧ p.Next command ∧ p.Bound command ∧
      Checked command :=
    ⟨fun h => ⟨h.running, h.next, h.bound, h.checked⟩, fun h => ⟨h.1, h.2.1, h.2.2.1, h.2.2.2⟩⟩
  constructor
  · intro hwholly h
    obtain ⟨hfit, hunfit⟩ := process_admitted ops h
    refine ⟨fun hfits => ?_, fun hfits => ?_⟩
    · have hunchanged := hwholly.unchanged (hunfit hfits).1
      rw [(hunfit hfits).2] at hunchanged
      exact (unfit_unchanged_iff
        (h.bound (requires_of_unfit hfits)).2 hfits).1 hunchanged
    · exact (hfit hfits).1 (hwholly.completed.2 ⟨h.running, h.next, h.bound, h.checked, hfits⟩)
  · intro hcondition
    have hcompleted : Completed (p.process ops command).2 ↔
        p.Admitted command ∧ p.fits command.payload = true := by
      constructor
      · intro hcompleted
        have h : p.Admitted command := by
          by_contra h
          exact (process_rejected ops h).2 hcompleted
        refine ⟨h, ?_⟩
        by_contra hfits
        exact ((process_admitted ops h).2 (Bool.not_eq_true _ ▸ hfits)).1 hcompleted
      · rintro ⟨h, hfits⟩
        exact ((process_admitted ops h).1 hfits).2 ((hcondition h).2 hfits)
    constructor
    · rw [hcompleted, hadmitted]
      tauto
    · intro hnot
      by_cases h : p.Admitted command
      · have hfits : p.fits command.payload = false := by
          by_contra hfits
          exact hnot (hcompleted.2 ⟨h, Bool.not_eq_false _ ▸ hfits⟩)
        rw [((process_admitted ops h).2 hfits).2]
        exact (unfit_unchanged_iff (h.bound (requires_of_unfit hfits)).2 hfits).2
          ((hcondition h).1 hfits)
      · rw [(process_rejected ops h).1]
        exact ⟨rfl, rfl, rfl, rfl, rfl, rfl, rfl⟩
    · intro unpack hcommand
      rw [processDecodedUnpack_eq, ← hcommand]
    · intro state hcommand
      rw [processVifStateUpdate_eq, ← hcommand]
    · intro maximumCycles captureState hcommand
      rw [processAdvanceSlice_eq, ← hcommand]
      rw [← hcommand]
      intro h
      have hlast := (hcondition h).2 (by rw [hcommand]; rfl)
      rw [hcommand] at hlast
      exact hlast.resolve_left Bool.false_ne_true

/-- A VU1 that does nothing. -/
def idleUnit : VuUnitOps Unit Unit Unit where
  isActive _ := false
  reset := id
  start unit _ _ _ := unit
  resumeState unit _ _ := unit
  setBackend unit _ := (unit, true)
  advance unit _ dataMemory _ _ := (unit, dataMemory.bytes, ())
  runInvocation unit _ dataMemory _ _ := (unit, dataMemory.bytes, ())

/-- A processor with some memory, all of it 0. -/
def bound : Vu1CommandProcessor Unit Unit where
  unit :=
    { state :=
        { vf := fun _ _ => 0, vi := fun _ => 0, acc := fun _ => 0, q := 0, p := 0, i := 0, pc := 0
          mac := 0, clip := 0, status := 0, top := 0, itop := 0, rest := () }
      interpreterRecoveryPending := false
      backend := () }
  microMemory := some ⟨fun _ => 0, 64⟩
  dataMemory := some ⟨fun _ => 0, 64⟩
  vifState := initialVifState

/-- An UNPACK of one V4-8 vector. -/
def oneVector (bytes : List UInt8) : Vu1DecodedUnpack where
  immediate := 0
  vectorLength := 2
  componentCount := 4
  writeVectorCount := 1
  sourceVectorCount := 1
  sourceWordAlignment := 4
  maskEnabled := false
  zeroExtend := true
  bytes := bytes

/-- The second UNPACK has a byte too few. -/
def spoiledBatch : List Vu1DecodedUnpack := [oneVector [1, 2, 3, 4], oneVector [1, 2, 3]]

def spoiledCommand : Vu1Command Unit where
  identity := { sequence := 1, generation := 1, guestTick := 0, publicationToken := 0 }
  type := .DecodedUnpack
  payloadSize := batchPayloadSize 8 spoiledBatch
  payload := .decodedUnpackBatch (some spoiledBatch)

theorem admitted_spoiled : bound.Admitted spoiledCommand where
  running := rfl
  next := ⟨rfl, rfl⟩
  bound := fun _ => ⟨rfl, rfl⟩
  checked := ⟨rfl, rfl, by decide⟩

/-- The batch is malformed, and its first vector is in memory. -/
theorem process_spoiled : ¬bound.AppliesWholly idleUnit spoiledCommand := by
  intro hwholly
  obtain ⟨hnot, hafter⟩ := (process_admitted idleUnit admitted_spoiled).2 (by decide)
  have hdata := (hwholly.unchanged hnot).dataMemory
  rw [hafter] at hdata
  have hbyte : ((bound.unpacked spoiledBatch).dataMemory.map fun memory => memory.bytes 0) =
      bound.dataMemory.map fun memory => memory.bytes 0 := congrArg (Option.map _) hdata
  revert hbyte
  decide

end Vu1CommandProcessor

end Vu1CommandStream

end Ps2Recomp
