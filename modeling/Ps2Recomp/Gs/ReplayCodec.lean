import Ps2Recomp.Gs.ReplayState

/-!
# The replay state of the GS: encoding and decoding are inverse

The field lists of the writer and the reader are walked through together, record by record
(`exact_frame` to `exact_state`). What the reader checks on its way is part of the shared
validation (`ReadableState`), so `decode` accepts exactly what `encode` writes
(`decodeState_eq_ok_iff`).
-/

namespace Ps2Recomp

namespace GsReplay

open ByteCodec

/-! ## Fields -/

theorem exact_u8 : Exact StateWriter.u8 StateReader.u8 (fun _ => True) := ByteCodec.exact_u8

theorem exact_u16 : Exact StateWriter.u16 StateReader.u16 (fun _ => True) := ByteCodec.exact_u16

theorem exact_u32 : Exact StateWriter.u32 StateReader.u32 (fun _ => True) := ByteCodec.exact_u32

theorem exact_u64 : Exact StateWriter.u64 StateReader.u64 (fun _ => True) := ByteCodec.exact_u64

theorem exact_f32 : Exact StateWriter.f32 StateReader.f32 (fun _ => True) := exact_u32

theorem exact_f64 : Exact StateWriter.f64 StateReader.f64 (fun _ => True) := exact_u64

theorem exact_boolean : Exact StateWriter.boolean StateReader.boolean (fun _ => True) := exact_bool

theorem exact_i32 : Exact StateWriter.i32 StateReader.i32 (fun _ => True) := by
  have hwrite : StateWriter.i32 = fun value : Int32 => StateWriter.u32 value.toUInt32 ++ [] := by
    funext value
    exact (List.append_nil _).symm
  rw [hwrite]
  refine exact_u32.field fun encoded => .pure fun value => ?_
  constructor
  · rintro ⟨-, rfl⟩
    rfl
  · rintro rfl
    exact ⟨trivial, rfl⟩

/-! ## Records -/

theorem exact_frame : Exact writeFrame readFrame (fun _ => True) := by
  unfold writeFrame readFrame
  simp only [List.flatten_cons, List.flatten_nil]
  refine exact_u32.field fun _ => exact_u32.field fun _ => exact_u8.field fun _ =>
    exact_u32.field fun _ => .pure fun frame => ?_
  simp only [GSFrameReg.ext_iff, true_and, and_assoc]

theorem exact_context : Exact writeContext readContext (fun _ => True) := by
  unfold writeContext readContext
  simp only [List.flatten_cons, List.flatten_nil]
  refine exact_frame.field fun _ => exact_u16.field fun _ => exact_u16.field fun _ =>
    exact_u16.field fun _ => exact_u16.field fun _ => exact_u32.field fun _ =>
    exact_u8.field fun _ => exact_u8.field fun _ => exact_u8.field fun _ =>
    exact_u8.field fun _ => exact_u8.field fun _ => exact_u8.field fun _ =>
    exact_u32.field fun _ => exact_u8.field fun _ => exact_u8.field fun _ =>
    exact_u8.field fun _ => exact_u8.field fun _ => exact_u16.field fun _ =>
    exact_u16.field fun _ => exact_u32.field fun _ => exact_u8.field fun _ =>
    exact_boolean.field fun _ => exact_u64.field fun _ => exact_u64.field fun _ =>
    exact_u64.field fun _ => exact_u64.field fun _ => exact_u64.field fun _ =>
    exact_u64.field fun _ => exact_u64.field fun _ => .pure fun context => ?_
  simp only [GSContext.ext_iff, GSScissorReg.ext_iff, GSTex0Reg.ext_iff, GSXYOffsetReg.ext_iff,
    GSZbufReg.ext_iff, true_and, and_assoc]

theorem exact_primitive :
    Exact writePrimitive readPrimitive (fun primitive => primitive.type ≤ GS_PRIM_SPRITE) := by
  unfold writePrimitive readPrimitive
  simp only [List.flatten_cons, List.flatten_nil]
  refine exact_u8.field fun type => .guard ?_ fun hle => exact_boolean.field fun _ =>
    exact_boolean.field fun _ => exact_boolean.field fun _ => exact_boolean.field fun _ =>
    exact_boolean.field fun _ => exact_boolean.field fun _ => exact_boolean.field fun _ =>
    exact_boolean.field fun _ => .pure fun primitive => ?_
  · rintro primitive ⟨hle, rfl⟩
    exact hle
  · simp only [GSPrimReg.ext_iff, and_assoc]
    constructor
    · exact fun h => h.2
    · exact fun h => ⟨h.1 ▸ hle, h⟩

theorem exact_vertex : Exact writeVertex readVertex (fun _ => True) := by
  unfold writeVertex readVertex
  simp only [List.flatten_cons, List.flatten_nil]
  refine exact_f32.field fun _ => exact_f32.field fun _ => exact_f64.field fun _ =>
    exact_u8.field fun _ => exact_u8.field fun _ => exact_u8.field fun _ =>
    exact_u8.field fun _ => exact_f32.field fun _ => exact_f32.field fun _ =>
    exact_f32.field fun _ => exact_u16.field fun _ => exact_u16.field fun _ =>
    exact_u8.field fun _ => exact_u16.field fun _ => exact_u16.field fun _ =>
    exact_u32.field fun _ => .pure fun vertex => ?_
  simp only [GSVertex.ext_iff, true_and, and_assoc]

theorem exact_frontend :
    Exact writeFrontend readFrontend (fun state => state.prim.type ≤ GS_PRIM_SPRITE) := by
  unfold writeFrontend readFrontend
  simp only [List.flatten_cons, List.flatten_nil]
  refine exact_primitive.bind (fun _ h => h) fun prim hprim => exact_u8.field fun _ =>
    exact_u8.field fun _ => exact_u8.field fun _ => exact_u8.field fun _ =>
    exact_f32.field fun _ => exact_f32.field fun _ => exact_f32.field fun _ =>
    exact_u16.field fun _ => exact_u16.field fun _ => exact_u8.field fun _ =>
    exact_u32.field fun _ => exact_boolean.field fun _ => exact_boolean.field fun _ =>
    exact_u8.field fun _ => exact_u64.field fun _ => exact_boolean.field fun _ =>
    exact_boolean.field fun _ => exact_u8.field fun _ => exact_boolean.field fun _ =>
    exact_u8.field fun _ => exact_u8.field fun _ => exact_u8.field fun _ =>
    exact_u16.field fun _ => .pure fun state => ?_
  simp only [GsReplayFrontend.ext_iff, GSTexaReg.ext_iff, GSTexClutReg.ext_iff, and_assoc]
  constructor
  · exact fun h => h.2
  · exact fun h => ⟨h.1 ▸ hprim, h⟩

theorem exact_transfer : Exact writeTransfer readTransfer (fun _ => True) := by
  unfold writeTransfer readTransfer
  simp only [List.flatten_cons, List.flatten_nil]
  refine exact_u64.field fun _ => exact_u32.field fun _ => exact_u8.field fun _ =>
    exact_u8.field fun _ => exact_u32.field fun _ => exact_u8.field fun _ =>
    exact_u8.field fun _ => exact_u16.field fun _ => exact_u16.field fun _ =>
    exact_u16.field fun _ => exact_u16.field fun _ => exact_u8.field fun _ =>
    exact_u16.field fun _ => exact_u16.field fun _ => exact_u32.field fun _ =>
    exact_u32.field fun _ => exact_u32.field fun _ => exact_u32.field fun _ =>
    exact_u32.field fun _ => exact_i32.field fun _ => .pure fun state => ?_
  simp only [GsReplayTransfer.ext_iff, GSBitBltBuf.ext_iff, GSTrxPos.ext_iff, GSTrxReg.ext_iff,
    GsReplayTransferState.ext_iff, true_and, and_assoc]

theorem exact_feedback :
    Exact (fun p => writeFeedback p.1 p.2) readFeedback
      (fun p => p.2.toNat ≤ GS_REPLAY_VRAM_SIZE) := by
  unfold writeFeedback readFeedback
  simp only [List.flatten_cons, List.flatten_nil]
  refine exact_u32.field fun _ => exact_u32.field fun _ => exact_u8.field fun _ =>
    exact_u8.field fun _ => exact_u8.field fun _ => exact_u8.field fun _ =>
    exact_boolean.field fun _ => exact_u32.field fun size => .guard ?_ fun hle =>
    .pure fun p => ?_
  · rintro p ⟨⟨⟨⟨⟨⟨⟨⟨hle, -⟩, -⟩, -⟩, -⟩, -⟩, -⟩, -⟩, rfl⟩
    exact hle
  · simp only [Prod.ext_iff, GsReplayFeedback.ext_iff, and_assoc]
    constructor
    · exact fun h => h.2
    · exact fun h => ⟨h.2.2.2.2.2.2.2 ▸ hle, h⟩

theorem exact_decodedClut : Exact writeDecodedClut readDecodedClut (fun _ => True) := by
  unfold writeDecodedClut readDecodedClut
  simp only [List.flatten_cons, List.flatten_nil]
  refine exact_u64.field fun _ => exact_u16.field fun _ => exact_u8.field fun _ =>
    exact_u8.field fun _ => exact_u8.field fun _ => exact_boolean.field fun _ =>
    .pure fun state => ?_
  simp only [GsReplayDecodedClut.ext_iff, true_and, and_assoc]

/-! ## The state -/

/-- What the reader checks before all is read. -/
structure ReadableState (state : GsReplayState) : Prop where
  prim : state.prim.type ≤ GS_PRIM_SPRITE
  clutCacheValid : ∀ valid ∈ state.clutCacheValid.toList, valid ≤ 1
  size : state.rasterizer.feedbackVram.length ≤ GS_REPLAY_VRAM_SIZE
  snapshot : state.rasterizer.feedbackSnapshotValid →
    state.rasterizer.feedbackVram.length = GS_REPLAY_VRAM_SIZE

theorem toNat_size {vram : Bytes} (h : vram.length ≤ GS_REPLAY_VRAM_SIZE) :
    (UInt32.ofNat vram.length).toNat = vram.length :=
  UInt32.toNat_ofNat_of_lt' (lt_of_le_of_lt h (by decide))

def sizedFeedback (state : GsReplayState) : GsReplayFeedback × UInt32 :=
  (state.rasterizer.toGsReplayFeedback, UInt32.ofNat state.rasterizer.feedbackVram.length)

theorem exact_state : Exact writeState (accepts readState) ReadableState := by
  unfold writeState readState
  simp only [List.flatten_cons, List.flatten_nil, accepts_bind, accepts_orError, accepts_ite,
    accepts_pure, accepts_throw]
  refine (exact_bytes 8).field fun magic => .guard ?_ fun hmagic =>
    exact_u32.field fun version => .guard ?_ fun hversion =>
    (exact_context.vector 2).field fun _ =>
    exact_frontend.bind (fun _ h => h.1.1.1.prim) fun _ hprim =>
    (exact_u32.vector _).field fun _ => (exact_bytes _).field fun _ =>
    (exact_bytes _).field fun valid => .guard ?_ fun hvalid =>
    (exact_u32.vector 2).field fun _ => exact_transfer.field fun _ =>
    (exact_vertex.vector _).field fun _ =>
    exact_feedback.bind (f := sizedFeedback) ?_ fun feedback hfeedback =>
    .guard ?_ fun hsnapshot => (exact_raw _).bind ?_ fun vram hvram =>
    (exact_u32.vector _).field fun _ => exact_decodedClut.field fun _ => .pure fun state => ?_
  · rintro state ⟨-, rfl⟩
    rfl
  · rintro state ⟨-, rfl⟩
    rfl
  · rintro state ⟨h, rfl⟩
    simp only [and_assoc] at h
    exact List.all_eq_true.mpr fun valid hmem => decide_eq_true (h.1.clutCacheValid valid hmem)
  · intro state h
    simp only [and_assoc] at h
    exact (toNat_size h.1.size).trans_le h.1.size
  · rintro state ⟨h, rfl⟩ hsnapshot
    simp only [and_assoc] at h
    exact (toNat_size h.1.size).trans (h.1.snapshot hsnapshot)
  · rintro state ⟨h, rfl⟩
    simp only [and_assoc] at h
    exact (toNat_size h.1.size).symm
  · have hsize : UInt32.ofNat vram.length = feedback.2 := by
      rw [hvram]
      exact UInt32.ofNat_toNat
    simp only [and_assoc]
    constructor
    · rintro ⟨-, -, -, rfl, rfl, rfl, rfl, rfl, rfl, rfl, rfl, rfl, rfl, rfl, rfl⟩
      rfl
    · rintro rfl
      refine ⟨⟨hprim, fun flag hmem => ?_, ?_, fun hflag => ?_⟩, hmagic.symm, hversion.symm, rfl,
        rfl, rfl, rfl, rfl, rfl, rfl, rfl, ?_, rfl, rfl, rfl⟩
      · exact of_decide_eq_true (List.all_eq_true.mp hvalid flag hmem)
      · exact (hvram : vram.length = _) ▸ hfeedback
      · exact (hvram : vram.length = _).trans (hsnapshot hflag)
      · exact Prod.ext rfl hsize

/-! ## Encoding and decoding -/

theorem ite_error_eq_ok {ε α : Type*} {p : Prop} [Decidable p] {error : ε} {next : Except ε α}
    {a : α} : (if p then .error error else next) = .ok a ↔ ¬ p ∧ next = .ok a := by
  by_cases h : p
  · rw [if_pos h]
    exact iff_of_false (fun heq => by cases heq) fun hnot => hnot.1 h
  · rw [if_neg h]
    exact ⟨fun heq => ⟨h, heq⟩, fun hnot => hnot.2⟩

theorem readable_of_valid {state : GsReplayState} (h : validateReplayState state = .ok ()) :
    ReadableState state := by
  unfold validateReplayState at h
  simp only [ite_error_eq_ok] at h
  obtain ⟨hprim, -, -, -, hsnapshot, hempty, hvalid, -⟩ := h
  have hfull : state.rasterizer.feedbackSnapshotValid →
      state.rasterizer.feedbackVram.length = GS_REPLAY_VRAM_SIZE :=
    fun hflag => not_not.mp fun hne => hsnapshot ⟨hflag, hne⟩
  refine ⟨UInt8.not_lt.mp hprim, fun valid hmem => ?_, ?_, hfull⟩
  · exact UInt8.not_lt.mp fun hlt => hvalid ⟨valid, hmem, hlt⟩
  · by_cases hflag : state.rasterizer.feedbackSnapshotValid
    · exact (hfull hflag).le
    · rw [not_not.mp fun hne => hempty ⟨hflag, hne⟩]
      exact Nat.zero_le _

theorem decodeState_eq_ok_iff {input : Bytes} {state : GsReplayState} :
    decodeState input = .ok state ↔
      validateReplayState state = .ok () ∧ input = writeState state := by
  have haccepts : ∀ rest, readState input = .ok (state, rest) ↔
      input = writeState state ++ rest ∧ ReadableState state := fun rest => by
    rw [← exact_iff.mp exact_state input state rest, accepts_eq_some_iff]
  constructor
  · intro h
    unfold decodeState at h
    cases hread : readState input with
    | error message =>
      rw [hread] at h
      cases h
    | ok decoded =>
      rw [hread] at h
      obtain ⟨hrest, h⟩ := ite_error_eq_ok.mp h
      cases hvalid : validateReplayState decoded.1 with
      | error message =>
        rw [hvalid] at h
        cases h
      | ok =>
        rw [hvalid] at h
        cases h
        obtain ⟨hinput, -⟩ := (haccepts []).mp (hread.trans (by rw [← not_not.mp hrest]))
        exact ⟨hvalid, hinput.trans (List.append_nil _)⟩
  · rintro ⟨hvalid, hinput⟩
    have hread := (haccepts []).mpr
      ⟨hinput.trans (List.append_nil _).symm, readable_of_valid hvalid⟩
    have hend : ¬ (([] : Bytes) ≠ []) := not_not.mpr rfl
    have hdecode : decodeState input =
        if ([] : Bytes) ≠ [] then .error "trailing or truncated GS replay rasterizer state"
        else (validateReplayState state).map fun _ => state := congrArg (· >>= _) hread
    rw [hdecode, if_neg hend, hvalid]
    rfl

/-- `encode` and `decode` are inverse on what they accept, and what `decode` rejects changes
nothing. -/
theorem replayCodec_exact (state : GsReplayState) (bytes : Bytes) (old : GsReplayState)
    (error error' : Option String) :
    (((encodeGsReplayState state error).accepted = true ∧
        (encodeGsReplayState state error).output = bytes) ↔
      ((decodeGsReplayState bytes old error').accepted = true ∧
        (decodeGsReplayState bytes old error').output = state)) ∧
    ((decodeGsReplayState bytes old error').accepted = true ∨
      (decodeGsReplayState bytes old error').output = old) := by
  have hencode : ((encodeGsReplayState state error).accepted = true ∧
      (encodeGsReplayState state error).output = bytes) ↔
        validateReplayState state = .ok () ∧ bytes = writeState state := by
    unfold encodeGsReplayState
    cases validateReplayState state with
    | error message => exact iff_of_false (fun h => by cases h.1) fun h => by cases h.1
    | ok => exact ⟨fun h => ⟨rfl, h.2.symm⟩, fun h => ⟨rfl, h.2.symm⟩⟩
  have hdecode : ((decodeGsReplayState bytes old error').accepted = true ∧
      (decodeGsReplayState bytes old error').output = state) ↔ decodeState bytes = .ok state := by
    unfold decodeGsReplayState
    cases decodeState bytes with
    | error message => exact iff_of_false (fun h => by cases h.1) fun h => by cases h
    | ok decoded => exact ⟨fun h => congrArg Except.ok h.2, fun h => ⟨rfl, Except.ok.inj h⟩⟩
  refine ⟨hencode.trans (decodeState_eq_ok_iff.symm.trans hdecode.symm), ?_⟩
  unfold decodeGsReplayState
  cases decodeState bytes with
  | error message => exact .inr rfl
  | ok decoded => exact .inl rfl

end GsReplay

end Ps2Recomp
