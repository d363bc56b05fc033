import Ps2Recomp.Vu.DecodedUnpack

/-!
# Decoded and in-place UNPACK agree

The command that the parser of VIF1 builds is accepted, and what the owner of VU1 makes of it is
what the parser would have made of it in place (`applyVu1DecodedUnpack_inPlace`). Both loops read a
source vector in the same write cycles, so that the indices agree and all vectors have been read at
the end (`sourceVectorCount_succ`).

MODE has two bits, whoever writes it. One of the two copies masks it again where an unknown format is
copied, the other does not.
-/

namespace Ps2Recomp

open BitMemory (Memory)
open Vif1State (decodeUnpack decodedUnpackCommand)

/-! ## The source index -/

/-- One more write reads a source vector, or does not. -/
theorem sourceVectorCount_succ {cl : ℕ} (hcl : 0 < cl) (wl writes : ℕ) :
    sourceVectorCount cl wl (writes + 1) =
      if wl ≤ cl ∨ writes % wl < cl then sourceVectorCount cl wl writes + 1
      else sourceVectorCount cl wl writes := by
  unfold sourceVectorCount
  by_cases hlt : cl < wl
  · rw [if_pos hlt, if_pos hlt]
    have hwl : 0 < wl := by omega
    have hmod := Nat.mod_lt writes hwl
    have hsplit := Nat.div_add_mod writes wl
    by_cases hlast : writes % wl + 1 = wl
    · have hnext : writes + 1 = wl * (writes / wl + 1) := by
        rw [Nat.mul_succ]
        omega
      have hdiv : (writes + 1) / wl = writes / wl + 1 := by
        rw [hnext, Nat.mul_div_cancel_left _ hwl]
      have hmod' : (writes + 1) % wl = 0 := by
        rw [hnext, Nat.mul_mod_right]
      have hmul : (writes / wl + 1) * cl = writes / wl * cl + cl := Nat.succ_mul _ _
      rw [hdiv, hmod', hmul]
      split <;> omega
    · have hnext : writes + 1 = writes % wl + 1 + wl * (writes / wl) := by omega
      have hdiv : (writes + 1) / wl = writes / wl := by
        rw [hnext, Nat.add_mul_div_left _ _ hwl, Nat.div_eq_of_lt (by omega), Nat.zero_add]
      have hmod' : (writes + 1) % wl = writes % wl + 1 := by
        rw [hnext, Nat.add_mul_mod_self_left, Nat.mod_eq_of_lt (by omega)]
      rw [hdiv, hmod']
      split <;> omega
  · rw [if_neg hlt, if_neg hlt, if_pos (Or.inl (Nat.not_lt.1 hlt))]

theorem sourceVectorCount_mono {cl : ℕ} (hcl : 0 < cl) (wl : ℕ) :
    Monotone (sourceVectorCount cl wl) := by
  refine monotone_nat_of_le_succ fun writes => ?_
  rw [sourceVectorCount_succ hcl]
  split <;> omega

theorem writeVector_srcIndex (regs : VIFRegisters) (unpack : Unpack) (state : UnpackState) (writeIndex : ℕ) :
    (writeVector regs unpack state writeIndex).srcIndex =
      if (unpack.wl ≤ unpack.cl ∨ writeIndex % unpack.wl < unpack.cl) ∧
          state.srcIndex < unpack.sources then state.srcIndex + 1
      else state.srcIndex := by
  unfold writeVector
  dsimp only
  split_ifs with h1 h2 h3 h4 h5 h6 h7 <;> simp_all

/-- After `writes` of the writes the vectors that belong to them have been read. -/
theorem srcIndex_eq (regs : VIFRegisters) {unpack : Unpack} (hcl : 0 < unpack.cl)
    (hsources : unpack.sources = sourceVectorCount unpack.cl unpack.wl unpack.writes)
    (data : Memory) {writes : ℕ} (hwrites : writes ≤ unpack.writes) :
    ((List.range writes).foldl (writeVector regs unpack) { data, row := regs.row }).srcIndex =
      sourceVectorCount unpack.cl unpack.wl writes := by
  induction writes with
  | zero => simp [sourceVectorCount]
  | succ writes ih =>
    have hnext := sourceVectorCount_succ hcl unpack.wl writes
    have hle := sourceVectorCount_mono hcl unpack.wl hwrites
    rw [List.range_succ, List.foldl_append, List.foldl_cons, List.foldl_nil, writeVector_srcIndex,
      ih (by omega), hnext]
    rw [hnext, ← hsources] at hle
    by_cases hread : unpack.wl ≤ unpack.cl ∨ writes % unpack.wl < unpack.cl
    · rw [if_pos hread] at hle
      rw [if_pos hread, if_pos ⟨hread, hle⟩]
    · rw [if_neg hread, if_neg fun h => hread h.1]

namespace Vu1DecodedUnpackCommand

/-- The VIF state of the registers. -/
def vifOf (regs : VIFRegisters) : Vu1VifState where
  cycle := regs.cycle
  mode := regs.mode
  mask := regs.mask
  row := regs.row
  column := regs.col
  tops := regs.tops

variable {command : Vu1DecodedUnpackCommand} {regs : VIFRegisters} {unpack : Unpack} {imm : ℕ}

/-! ## Decoding -/

theorem decodeComponents_apply (width sourceOffset remaining : ℕ) {component : ℕ} (h : component + remaining ≤ 4) (lanes : Lanes) (lane : Fin 4) :
    command.decodeComponents width sourceOffset remaining component lanes lane =
      if component ≤ lane ∧ lane < component + remaining ∧
          sourceOffset + lane * width + width ≤ command.bytes.length then
        command.extendComponent (command.rawComponent sourceOffset width lane)
      else lanes lane := by
  induction remaining generalizing component lanes with
  | zero =>
    rw [decodeComponents, if_neg]
    omega
  | succ remaining ih =>
    rw [decodeComponents]
    by_cases hend : command.bytes.length < sourceOffset + component * width + width
    · rw [if_pos hend, if_neg]
      rintro ⟨hle, -, hbytes⟩
      have hmul : component * width ≤ lane * width := Nat.mul_le_mul_right width hle
      omega
    · rw [if_neg hend, ih (by omega)]
      by_cases hlane : lane.val = component
      · have hof : Fin.ofNat 4 component = lane := by
          apply Fin.ext
          rw [Fin.val_ofNat, hlane]
          omega
        rw [if_neg (by omega), hof, Function.update_self, hlane, if_pos (by omega)]
      · have hne : lane ≠ Fin.ofNat 4 component := by
          intro heq
          rw [heq, Fin.val_ofNat] at hlane
          omega
        rw [Function.update_of_ne hne]
        congr 1
        exact propext (by omega)

theorem rawComponent_eq (sourceOffset width lane : ℕ) :
    command.rawComponent sourceOffset width lane =
      component (command.bytes.drop sourceOffset) width lane := by
  rw [rawComponent, component, List.drop_drop]

/-- The components of a format are `width` bytes wide. -/
def HasWidth (vl width : ℕ) : Prop := vl = 0 ∧ width = 4 ∨ vl = 1 ∧ width = 2 ∨ vl = 2 ∧ width = 1

theorem hasWidth {vl : ℕ} (h : vl ≤ 2) :
    HasWidth vl (if vl = 0 then 4 else if vl = 1 then 2 else 1) := by
  unfold HasWidth
  split_ifs <;> omega

theorem extendComponent_eq {width : ℕ} (h : HasWidth command.vectorLength width) (raw : ℕ) :
    command.extendComponent raw = extend command.zeroExtend width raw := by
  rcases h with ⟨h, rfl⟩ | ⟨h, rfl⟩ | ⟨h, rfl⟩
  · simp [extendComponent, extend, h]
  · simp [extendComponent, extend, h]
  · simp [extendComponent, extend, h]

theorem bitsPerComponent_eq {format : UnpackFormat} {width : ℕ} (h : HasWidth format.vl width) :
    format.bitsPerComponent / 8 = width := by
  rcases h with ⟨h, rfl⟩ | ⟨h, rfl⟩ | ⟨h, rfl⟩ <;> simp [UnpackFormat.bitsPerComponent, h]

theorem hasWidth_pos {vl width : ℕ} (h : HasWidth vl width) : 0 < width := by
  unfold HasWidth at h
  omega

/-- The components that are read, up to `limit`, over the lanes in memory. -/
theorem decodeComponents_eq {width : ℕ} (hwidth : HasWidth unpack.format.vl width)
    (sourceOffset : ℕ) {limit : ℕ} (hlimit : limit ≤ 4) (lanes : Lanes) (lane : Fin 4) :
    (decodedUnpackCommand imm unpack).decodeComponents width sourceOffset limit 0 lanes lane =
      if lane.val < limit ∧ (lane + 1) * width ≤ (unpack.payload.drop sourceOffset).length then
        extend unpack.zeroExtend width (component (unpack.payload.drop sourceOffset) width lane)
      else lanes lane := by
  have hpos := hasWidth_pos hwidth
  rw [decodeComponents_apply _ _ _ (by omega), rawComponent_eq,
    @extendComponent_eq (decodedUnpackCommand imm unpack) width hwidth]
  refine if_congr ?_ rfl rfl
  change 0 ≤ lane.val ∧ lane.val < 0 + limit ∧
    sourceOffset + lane * width + width ≤ unpack.payload.length ↔ _
  have hmul : (lane.val + 1) * width = lane * width + width := Nat.succ_mul _ _
  rw [List.length_drop]
  omega

/-- V2 repeats its two components. -/
theorem update_repeat (f : Lanes) :
    Function.update (Function.update f 2 (f 0)) 3 (f 1) = fun lane : Fin 4 => f (lane % 2) := by
  funext lane
  match lane with
  | 0 => rfl
  | 1 => rfl
  | 2 => rfl
  | 3 => rfl

theorem componentCount_eq :
    (decodedUnpackCommand imm unpack).componentCount = unpack.format.components := rfl

theorem vectorLength_eq : (decodedUnpackCommand imm unpack).vectorLength = unpack.format.vl := rfl

/-- **The formats are decoded alike.** -/
theorem decodeFormat_eq (hvn : unpack.format.vn ≤ 3) (hvl : unpack.format.vl ≤ 3)
    (sourceOffset : ℕ) (lanes : Lanes) :
    (decodedUnpackCommand imm unpack).decodeFormat sourceOffset lanes =
      let decompressed := decompress unpack.format unpack.zeroExtend
        (unpack.payload.drop sourceOffset) lanes
      (decompressed.isSome, decompressed.getD lanes) := by
  unfold decodeFormat decompress
  dsimp only
  rw [componentCount_eq, vectorLength_eq]
  by_cases hle : unpack.format.vl ≤ 2
  · have hwidth := hasWidth hle
    rw [if_pos hle, if_pos hle, bitsPerComponent_eq hwidth]
    generalize (if unpack.format.vl = 0 then 4 else if unpack.format.vl = 1 then 2 else 1) = width
      at hwidth
    by_cases h1 : unpack.format.components = 1
    · rw [if_pos h1, if_pos h1, rawComponent_eq,
        @extendComponent_eq (decodedUnpackCommand imm unpack) _ hwidth]
      rfl
    · have hlimit : (if unpack.format.components = 3 then 4 else unpack.format.components) ≤ 4 := by
        unfold UnpackFormat.components
        split <;> omega
      have hdecoded := funext
        (@decodeComponents_eq unpack imm _ hwidth sourceOffset _ hlimit lanes)
      rw [if_neg h1, if_neg h1, hdecoded]
      by_cases h2 : unpack.format.components = 2
      · rw [if_pos h2, if_pos h2, update_repeat]
        rfl
      · rw [if_neg h2, if_neg h2]
        rfl
  · rw [if_neg hle, if_neg hle]
    by_cases hv4 : unpack.format.vn = 3
    · rw [if_pos ⟨by omega, by rw [UnpackFormat.components, hv4]⟩, if_pos hv4, rawComponent_eq]
      rfl
    · rw [if_neg (by unfold UnpackFormat.components; omega), if_neg hv4]
      rfl

theorem zeroW_iff (imm srcIndex sourceWordAlignment : ℕ)
    (h : unpack.sourceWordAlignment = sourceWordAlignment) :
    zeroW unpack.format srcIndex sourceWordAlignment = true ↔
      unpack.format.components = 3 ∧
        (decodedUnpackCommand imm unpack).clearsW srcIndex = true := by
  subst h
  unfold zeroW
  rw [Bool.and_eq_true, decide_eq_true_iff]
  rfl

/-- **A source vector is decoded alike.** -/
theorem decodeSource_eq (hvn : unpack.format.vn ≤ 3) (hvl : unpack.format.vl ≤ 3)
    (sourceOffset srcIndex : ℕ) (lanes : Lanes) :
    (decodedUnpackCommand imm unpack).decodeSource sourceOffset srcIndex lanes =
      let decompressed := decodeVector unpack.format unpack.zeroExtend
        (unpack.payload.drop sourceOffset) lanes srcIndex unpack.sourceWordAlignment
      (decompressed.isSome, decompressed.getD lanes) := by
  unfold decodeSource decodeVector
  rw [decodeFormat_eq hvn hvl, componentCount_eq, vectorLength_eq]
  simp only [zeroW_iff imm srcIndex _ rfl]
  cases hdecompress : decompress unpack.format unpack.zeroExtend
      (unpack.payload.drop sourceOffset) lanes with
  | none =>
    -- Only an unknown format is not handled, and there no W lane is cleared.
    have hvl3 : unpack.format.vl = 3 := by
      unfold decompress at hdecompress
      by_contra hne
      rw [if_pos (by omega)] at hdecompress
      dsimp only at hdecompress
      split_ifs at hdecompress
    have hclears : (decodedUnpackCommand imm unpack).clearsW srcIndex = false := by
      unfold clearsW
      simp only [vectorLength_eq, hvl3]
    simp [hclears, hvl3]
  | some decompressed =>
    simp only [Option.isSome_some, Option.getD_some, Option.map_some]
    by_cases hw : unpack.format.components = 3 ∧
        (decodedUnpackCommand imm unpack).clearsW srcIndex = true
    · have h2 : ¬(unpack.format.components = 2 ∧ unpack.format.vl = 0) := by omega
      rw [if_pos hw, if_neg h2]
      refine Prod.ext rfl (funext fun lane => ?_)
      dsimp only
      rw [Function.update_apply]
      exact if_congr (and_iff_left (Or.inl hw)).symm rfl rfl
    · rw [if_neg hw]
      by_cases h2 : unpack.format.components = 2 ∧ unpack.format.vl = 0
      · rw [if_pos h2]
        refine Prod.ext rfl (funext fun lane => ?_)
        dsimp only
        rw [Function.update_apply]
        exact if_congr (and_iff_left (Or.inr h2)).symm rfl rfl
      · rw [if_neg h2]
        refine Prod.ext rfl (funext fun lane => ?_)
        exact (if_neg fun h => h.2.elim hw h2).symm

/-! ## Fields -/

/-- What becomes of a field, and of the row register of its lane. -/
def fieldValue (command : Vu1DecodedUnpackCommand) (vif : Vu1VifState) (decoded handledFormat : Bool)
    (decompressed : Lanes) (cyclePosition : ℕ) (field : Fin 4) (value row : BitVec 32) :
    BitVec 32 × BitVec 32 :=
  let written := command.writeField vif decoded handledFormat decompressed cyclePosition
    (fun _ => value, fun _ => row) field
  (written.1 field, written.2 field)

theorem writeField_eq (vif : Vu1VifState) (decoded handledFormat : Bool) (decompressed : Lanes)
    (cyclePosition : ℕ) (state : Lanes × Lanes) (field : Fin 4) :
    command.writeField vif decoded handledFormat decompressed cyclePosition state field =
      let value := command.fieldValue vif decoded handledFormat decompressed cyclePosition field
        (state.1 field) (state.2 field)
      (Function.update state.1 field value.1, Function.update state.2 field value.2) := by
  obtain ⟨lanes, row⟩ := state
  unfold fieldValue writeField
  dsimp only
  split
  next =>
    split
    next =>
      split
      next => split <;> simp
      next => simp
    next => simp
  next => simp
  next => simp
  next => simp

/-- Fields that are written one after the other, each by itself, are written at once. -/
theorem foldl_fields {step : Lanes × Lanes → Fin 4 → Lanes × Lanes}
    {value : Fin 4 → BitVec 32 → BitVec 32 → BitVec 32 × BitVec 32}
    (hstep : ∀ state field, step state field =
      (Function.update state.1 field (value field (state.1 field) (state.2 field)).1,
        Function.update state.2 field (value field (state.1 field) (state.2 field)).2))
    (state : Lanes × Lanes) :
    (List.finRange 4).foldl step state =
      (fun lane => (value lane (state.1 lane) (state.2 lane)).1,
        fun lane => (value lane (state.1 lane) (state.2 lane)).2) := by
  have hrange : List.finRange 4 = [0, 1, 2, 3] := by decide
  rw [hrange]
  simp only [List.foldl_cons, List.foldl_nil, hstep]
  refine Prod.ext (funext fun lane => ?_) (funext fun lane => ?_)
  all_goals
    match lane with
    | 0 => simp [Function.update]
    | 1 => simp [Function.update]
    | 2 => simp [Function.update]
    | 3 => simp [Function.update]

/-! ## The loop -/

def loopState (regs : VIFRegisters) (state : UnpackState) : LoopState where
  dataMemory := state.data
  vif := { vifOf regs with row := state.row }
  sourceIndex := state.srcIndex

/-- The cycle lengths of the command are those of the registers. -/
structure Cycles (regs : VIFRegisters) (unpack : Unpack) : Prop where
  cl : unpack.cl = cycleLength regs
  wl : unpack.wl = writeLength regs
  vn : unpack.format.vn ≤ 3
  vl : unpack.format.vl ≤ 3

theorem bytesPerVector_eq (hvl : unpack.format.vl ≤ 3) :
    unpackBytesPerVector (decodedUnpackCommand imm unpack) = unpack.format.bytesPerVector := by
  have h4 : unpack.format.components = 4 ↔ unpack.format.vn = 3 := by
    unfold UnpackFormat.components
    omega
  unfold unpackBytesPerVector UnpackFormat.bytesPerVector UnpackFormat.bitsPerVector
    UnpackFormat.bitsPerComponent
  dsimp only
  rw [componentCount_eq, vectorLength_eq]
  obtain h | h | h | h : unpack.format.vl = 0 ∨ unpack.format.vl = 1 ∨ unpack.format.vl = 2 ∨
      unpack.format.vl = 3 := by omega
  · simp [h]
  · simp [h]
  · simp [h]
  · simp [h, h4]

theorem and_three {mode : BitVec 32} (h : mode ≤ 3) : mode &&& 3 = mode := by
  apply BitVec.eq_of_toNat_eq
  have hle : mode.toNat ≤ 3 := h
  rw [BitVec.toNat_and]
  exact (Nat.and_two_pow_sub_one_eq_mod _ 2).trans (Nat.mod_eq_of_lt (by omega))

/-- What the loop in place writes into a field. -/
def writtenValue (regs : VIFRegisters) (unpack : Unpack) (decoded : Bool)
    (decompressed : Option Lanes) (lanes row : Lanes) (cycle : ℕ) (field : Fin 4) : BitVec 32 :=
  match maskSpec regs unpack.format.maskEnable decoded cycle field with
  | 0 =>
    match decompressed with
    | some value =>
      if !(unpack.format.vl = 3 && unpack.format.vn = 3) && (regs.mode = 1 || regs.mode = 2) then
        value field + row field
      else value field
    | none => lanes field
  | 1 => row field
  | 2 => regs.col (Fin.ofNat 4 cycle)
  | _ => lanes field

/-- What it leaves in the row register of the lane. -/
def writtenRow (regs : VIFRegisters) (unpack : Unpack) (decoded : Bool)
    (decompressed : Option Lanes) (lanes row : Lanes) (cycle : ℕ) (field : Fin 4) : BitVec 32 :=
  if maskSpec regs unpack.format.maskEnable decoded cycle field = 0 && decompressed.isSome &&
      !(unpack.format.vl = 3 && unpack.format.vn = 3) && regs.mode = 2 then
    writtenValue regs unpack decoded decompressed lanes row cycle field
  else row field

theorem fieldValue_eq (hmode : regs.mode ≤ 3) (decoded : Bool) (decompressed : Option Lanes)
    (lanes row : Lanes) (cyclePosition : ℕ) (field : Fin 4) :
    (decodedUnpackCommand imm unpack).fieldValue { vifOf regs with row } decoded
        decompressed.isSome (decompressed.getD lanes) cyclePosition field (lanes field)
        (row field) =
      (writtenValue regs unpack decoded decompressed lanes row (min cyclePosition 3) field,
        writtenRow regs unpack decoded decompressed lanes row (min cyclePosition 3) field) := by
  have hadd : ((decodedUnpackCommand imm unpack).vectorLength ≠ 3 ∨
      (decodedUnpackCommand imm unpack).componentCount ≠ 4) ↔
        (!(unpack.format.vl = 3 && unpack.format.vn = 3)) = true := by
    simp [decodedUnpackCommand, UnpackFormat.components]
  have hmode3 : (vifOf regs).mode &&& 3 = regs.mode := and_three hmode
  unfold fieldValue writeField writtenRow writtenValue
  dsimp only
  generalize hT : (if (!decoded && _) = true then 1 else _) = spec
  have hspec : maskSpec regs unpack.format.maskEnable decoded (min cyclePosition 3) field = spec :=
    hT
  rw [hspec]
  simp only [hadd, hmode3]
  generalize (!(decide (unpack.format.vl = 3) && decide (unpack.format.vn = 3))) = canAdd
  obtain _ | _ | _ | spec := spec
  · cases decompressed with
    | none => rfl
    | some value =>
      by_cases h2 : regs.mode = 2#32
      · cases canAdd <;> simp [h2]
      · by_cases h1 : regs.mode = 1#32
        · cases canAdd <;> simp [h1]
        · cases canAdd <;> simp [h1, h2]
  · simp
  · simp [vifOf]
  · simp

/-- **The fields of a vector are written alike.** -/
theorem fields_eq (imm : ℕ) (unpack : Unpack) (hmode : regs.mode ≤ 3) (decoded : Bool)
    (decompressed : Option Lanes) (lanes row : Lanes) (cyclePosition : ℕ) :
    (List.finRange 4).foldl ((decodedUnpackCommand imm unpack).writeField { vifOf regs with row }
        decoded decompressed.isSome (decompressed.getD lanes) cyclePosition) (lanes, row) =
      (writtenValue regs unpack decoded decompressed lanes row (min cyclePosition 3),
        writtenRow regs unpack decoded decompressed lanes row (min cyclePosition 3)) := by
  rw [foldl_fields fun fields field => writeField_eq _ _ _ _ _ fields field]
  have hfield := fun field : Fin 4 =>
    @fieldValue_eq regs unpack imm hmode decoded decompressed lanes row cyclePosition field
  exact Prod.ext (funext fun field => congrArg Prod.fst (hfield field))
    (funext fun field => congrArg Prod.snd (hfield field))

/-- **A pass through one loop is a pass through the other.** -/
theorem writeOne_eq (h : Cycles regs unpack) (hmode : regs.mode ≤ 3) (state : UnpackState)
    (writeIndex : ℕ) :
    (decodedUnpackCommand imm unpack).writeOne unpack.vuAddr PS2_VU1_DATA_SIZE
        (loopState regs state) writeIndex =
      loopState regs (writeVector regs unpack state writeIndex) := by
  unfold writeOne writeVector
  have hcl : cl (loopState regs state).vif = unpack.cl := h.cl.symm
  have hwl : wl (loopState regs state).vif = unpack.wl := h.wl.symm
  have hsources : (decodedUnpackCommand imm unpack).sourceVectorCount = unpack.sources := rfl
  have hindex : (loopState regs state).sourceIndex = state.srcIndex := rfl
  have hmode3 : (loopState regs state).vif.mode &&& 3 = regs.mode := and_three hmode
  dsimp only
  rw [hcl, hwl, hsources, hindex, hmode3, bytesPerVector_eq h.vl, and_three hmode]
  simp only [ge_iff_le]
  generalize ((decide (unpack.wl ≤ unpack.cl) || decide (writeIndex % unpack.wl < unpack.cl)) &&
    decide (state.srcIndex < unpack.sources)) = decoded
  generalize (if decoded = true then state.srcIndex + 1 else state.srcIndex) = srcIndex
  generalize (if unpack.wl ≤ unpack.cl then _ else _) * 16 = destOff
  have hoff : (destOff > PS2_VU1_DATA_SIZE ∨ PS2_VU1_DATA_SIZE - destOff < 16) ↔
      destOff + 16 > PS2_VU1_DATA_SIZE := by omega
  rw [if_congr hoff rfl rfl]
  split
  next => rfl
  next =>
    have hlanes : loadLanes (loopState regs state).dataMemory destOff =
        loadLanes state.data destOff := rfl
    rw [hlanes]
    generalize loadLanes state.data destOff = lanes
    generalize state.srcIndex * unpack.format.bytesPerVector = sourceOffset
    have hdecode : (if decoded = true then
          (decodedUnpackCommand imm unpack).decodeSource sourceOffset srcIndex lanes
        else (false, lanes)) =
        ((if decoded = true then decodeVector unpack.format unpack.zeroExtend
            (unpack.payload.drop sourceOffset) lanes srcIndex unpack.sourceWordAlignment
          else none).isSome,
          (if decoded = true then decodeVector unpack.format unpack.zeroExtend
            (unpack.payload.drop sourceOffset) lanes srcIndex unpack.sourceWordAlignment
          else none).getD lanes) := by
      split
      next => exact decodeSource_eq h.vn h.vl sourceOffset srcIndex lanes
      next => rfl
    rw [hdecode]
    generalize (if decoded = true then decodeVector unpack.format unpack.zeroExtend
      (unpack.payload.drop sourceOffset) lanes srcIndex unpack.sourceWordAlignment
      else none) = decompressed
    have hraw : (!decompressed.isSome && decoded &&
          !(decodedUnpackCommand imm unpack).maskEnabled &&
            (decide (regs.mode = 0) || decide (regs.mode = 3))) =
        (decoded && decompressed.isNone && !unpack.format.maskEnable &&
          (decide (regs.mode = 0) || decide (regs.mode = 3))) := by
      rw [Option.not_isSome, Bool.and_comm decompressed.isNone]
      rfl
    dsimp only
    rw [hraw]
    split
    next => rfl
    next =>
      have hfields := fields_eq imm unpack hmode decoded decompressed lanes state.row
        (writeIndex % unpack.wl)
      have hvif : (loopState regs state).vif = { vifOf regs with row := state.row } := rfl
      rw [hvif]
      dsimp only
      rw [hfields]
      rfl

theorem writeAll_eq (h : Cycles regs unpack) (hmode : regs.mode ≤ 3) (data : Memory) (writes : ℕ) :
    (List.range writes).foldl
        ((decodedUnpackCommand imm unpack).writeOne unpack.vuAddr PS2_VU1_DATA_SIZE)
        { dataMemory := data, vif := vifOf regs } =
      loopState regs
        ((List.range writes).foldl (writeVector regs unpack) { data, row := regs.row }) := by
  induction writes with
  | zero => rfl
  | succ writes ih =>
    rw [List.range_succ, List.foldl_append, List.foldl_append, ih]
    exact writeOne_eq h hmode _ _

end Vu1DecodedUnpackCommand

open Vu1DecodedUnpackCommand

theorem cycleLength_pos (regs : VIFRegisters) : 0 < cycleLength regs := by
  unfold cycleLength
  dsimp only
  split <;> omega

theorem writeVectorCount_pos (num : ℕ) : 0 < writeVectorCount num := by
  unfold writeVectorCount
  split <;> omega

/-- What the command of an UNPACK shares with the registers. -/
theorem cycles_decodeUnpack (regs : VIFRegisters) (code : VifCode) (payload : List UInt8)
    (sourceByteOffset : ℕ) : Cycles regs (decodeUnpack regs code payload sourceByteOffset) where
  cl := rfl
  wl := rfl
  vn := Nat.le_of_lt_succ (Nat.mod_lt _ (by decide))
  vl := Nat.le_of_lt_succ (Nat.mod_lt _ (by decide))

/-- The parser of VIF1 builds no command that the owner of VU1 does not accept. -/
theorem accepted_decodeUnpack (regs : VIFRegisters) (code : VifCode) (payload : List UInt8)
    (sourceWord : Fin 4)
    (hpayload : payload.length = unpackTotalBytes regs (.ofOpcode code.opcode) code.num) :
    (decodedUnpackCommand code.imm (decodeUnpack regs code payload (4 * sourceWord))).accepted
      (vifOf regs) PS2_VU1_DATA_SIZE = true := by
  have hcycles := cycles_decodeUnpack regs code payload (4 * sourceWord)
  generalize hunpack : decodeUnpack regs code payload (4 * sourceWord) = unpack at hcycles
  have hformat : unpack.format = .ofOpcode code.opcode := by rw [← hunpack]; rfl
  have hpayload' : unpack.payload = payload := by rw [← hunpack]; rfl
  have hwrites : unpack.writes = writeVectorCount code.num := by rw [← hunpack]; rfl
  have hsources : unpack.sources = sourceVectorCount (cycleLength regs) (writeLength regs)
      (writeVectorCount code.num) := by rw [← hunpack]; rfl
  have halign : unpack.sourceWordAlignment =
      if 4 * sourceWord.val = 0 then 4 else 4 * sourceWord.val / 4 := by rw [← hunpack]; rfl
  have hcomponents : unpack.format.components = unpack.format.vn + 1 := rfl
  have hvn := hcycles.vn
  have hpos : unpack.format.bytesPerVector ≠ 0 := by
    unfold UnpackFormat.bytesPerVector UnpackFormat.bitsPerVector UnpackFormat.bitsPerComponent
      UnpackFormat.components
    split
    · decide
    · split
      · omega
      · omega
      · omega
      · split <;> omega
  have halign4 : 1 ≤ unpack.sourceWordAlignment ∧ unpack.sourceWordAlignment ≤ 4 := by
    rw [halign]
    split <;> omega
  have hbytes : (unpack.sources * unpack.format.bytesPerVector + 3) / 4 * 4 =
      unpack.payload.length := by
    rw [hpayload', hpayload, hsources, hformat]
    rfl
  have hexpected : (decodedUnpackCommand code.imm unpack).expectedSourceCount (vifOf regs) =
      unpack.sources := by
    unfold expectedSourceCount
    change (if cycleLength regs < writeLength regs then
      unpack.writes / writeLength regs * cycleLength regs +
        (if unpack.writes % writeLength regs > cycleLength regs then cycleLength regs
          else unpack.writes % writeLength regs)
      else unpack.writes) = _
    rw [hsources, hwrites, sourceVectorCount]
    split
    · congr 1
      split <;> omega
    · rfl
  have hcount : writeVectorCount code.num ≠ 0 := (writeVectorCount_pos code.num).ne'
  unfold accepted
  rw [bytesPerVector_eq hcycles.vl, hexpected]
  change (decide (16 ≤ PS2_VU1_DATA_SIZE) && decide (1 ≤ unpack.format.components) &&
    decide (unpack.format.components ≤ 4) && decide (unpack.format.vl ≤ 3) &&
    decide (unpack.writes ≠ 0) && decide (1 ≤ unpack.sourceWordAlignment) &&
    decide (unpack.sourceWordAlignment ≤ 4) && decide (unpack.format.bytesPerVector ≠ 0) &&
    decide ((unpack.sources * unpack.format.bytesPerVector + 3) / 4 * 4 = unpack.payload.length) &&
    decide (unpack.sources = unpack.sources)) = true
  have hsize : 16 ≤ PS2_VU1_DATA_SIZE := by decide
  simp only [Bool.and_eq_true, decide_eq_true_eq]
  rw [hcomponents, hwrites]
  exact ⟨⟨⟨⟨⟨⟨⟨⟨⟨hsize, by omega⟩, by omega⟩, hcycles.vl⟩, hcount⟩, halign4.1⟩, halign4.2⟩, hpos⟩,
    hbytes⟩, trivial⟩

/-- **Decoded and in-place UNPACK agree**: for every state of VIF1, code and payload, wherever the
payload begins in its quadword. -/
theorem applyVu1DecodedUnpack_inPlace (s : Vif1State) (code : VifCode) (payload : List UInt8)
    (sourceWord : Fin 4)
    (hpayload : payload.length = unpackTotalBytes s.regs (.ofOpcode code.opcode) code.num)
    (hmode : s.regs.mode ≤ 3) :
    let unpack := decodeUnpack s.regs code payload (4 * sourceWord)
    let inPlace := unpackInPlace s.regs unpack s.vu1Data
    applyVu1DecodedUnpack (decodedUnpackCommand code.imm unpack) s.captureVu1VifState s.vu1Data
        PS2_VU1_DATA_SIZE =
      (true, { s.captureVu1VifState with row := inPlace.row }, inPlace.data) := by
  intro unpack inPlace
  have hvif : s.captureVu1VifState = vifOf s.regs := rfl
  have hcycles : Cycles s.regs unpack := cycles_decodeUnpack s.regs code payload _
  have haddress : (decodedUnpackCommand code.imm unpack).vuAddress (vifOf s.regs) = unpack.vuAddr :=
    rfl
  have hcontiguous : (!(decodedUnpackCommand code.imm unpack).maskEnabled &&
        (decodedUnpackCommand code.imm unpack).componentCount = 4 &&
        (decodedUnpackCommand code.imm unpack).vectorLength ≤ 2 &&
        cl (vifOf s.regs) = wl (vifOf s.regs) && (vifOf s.regs).mode &&& 3 ≤ 1) =
      (!unpack.format.maskEnable && unpack.format.vn = 3 && unpack.format.vl ≤ 2 &&
        unpack.cl = unpack.wl && s.regs.mode &&& 3 ≤ 1) := by
    have h4 : (decodedUnpackCommand code.imm unpack).componentCount = 4 ↔ unpack.format.vn = 3 := by
      change unpack.format.vn + 1 = 4 ↔ _
      omega
    rw [decide_eq_decide.2 h4]
    rfl
  rw [hvif]
  unfold applyVu1DecodedUnpack
  rw [accepted_decodeUnpack s.regs code payload sourceWord hpayload]
  simp only [Bool.not_true, Bool.false_eq_true, if_false]
  rw [hcontiguous, haddress]
  change _ = (true, { vifOf s.regs with row := (unpackInPlace s.regs unpack s.vu1Data).row },
    (unpackInPlace s.regs unpack s.vu1Data).data)
  have hshortcut : tryUnpackContiguousV4 s.vu1Data PS2_VU1_DATA_SIZE unpack.vuAddr
        (decodedUnpackCommand code.imm unpack).bytes
        (decodedUnpackCommand code.imm unpack).writeVectorCount
        (decodedUnpackCommand code.imm unpack).vectorLength
        (decodedUnpackCommand code.imm unpack).zeroExtend ((vifOf s.regs).mode &&& 3)
        (vifOf s.regs).row =
      tryUnpackContiguousV4 s.vu1Data PS2_VU1_DATA_SIZE unpack.vuAddr unpack.payload unpack.writes
        unpack.format.vl unpack.zeroExtend (s.regs.mode &&& 3) s.regs.row := rfl
  unfold unpackInPlace
  dsimp only
  rw [hshortcut]
  generalize tryUnpackContiguousV4 s.vu1Data PS2_VU1_DATA_SIZE unpack.vuAddr _ _ _ _ _ _ = shortcut
  generalize (!unpack.format.maskEnable && decide (unpack.format.vn = 3) &&
    decide (unpack.format.vl ≤ 2) && decide (unpack.cl = unpack.wl) &&
    decide (s.regs.mode &&& 3 ≤ 1)) = contiguous
  generalize (if contiguous = true then shortcut else none) = written
  cases written with
  | some written => rfl
  | none =>
    have hloop : (decodedUnpackCommand code.imm unpack).writeAll (vifOf s.regs) s.vu1Data
        PS2_VU1_DATA_SIZE = loopState s.regs (unpackVectors s.regs unpack s.vu1Data) :=
      writeAll_eq hcycles hmode s.vu1Data unpack.writes
    have hindex : (unpackVectors s.regs unpack s.vu1Data).srcIndex = unpack.sources :=
      srcIndex_eq s.regs (cycleLength_pos s.regs) rfl s.vu1Data (Nat.le_refl _)
    dsimp only
    rw [hloop]
    refine Prod.ext ?_ rfl
    change decide ((unpackVectors s.regs unpack s.vu1Data).srcIndex = unpack.sources) = true
    exact decide_eq_true hindex

/-- A filling write: three vectors from one, with addition to the row registers. -/
def fillingState : Vif1State :=
  { regs := { cycle := 0x301#32, mode := 2#32, mask := 0xE4#32, tops := 4#32, row := fun _ => 9#32 } }

theorem applyVu1DecodedUnpack_inPlace_filling :
    let unpack := decodeUnpack fillingState.regs ⟨0x7503C005#32⟩ [1, 2, 3, 0xFF] (4 * (2 : Fin 4))
    let inPlace := unpackInPlace fillingState.regs unpack fillingState.vu1Data
    applyVu1DecodedUnpack (decodedUnpackCommand (VifCode.mk 0x7503C005#32).imm unpack)
        fillingState.captureVu1VifState fillingState.vu1Data PS2_VU1_DATA_SIZE =
      (true, { fillingState.captureVu1VifState with row := inPlace.row }, inPlace.data) :=
  applyVu1DecodedUnpack_inPlace fillingState ⟨0x7503C005#32⟩ [1, 2, 3, 0xFF] 2 (by decide)
    (by decide)

end Ps2Recomp
