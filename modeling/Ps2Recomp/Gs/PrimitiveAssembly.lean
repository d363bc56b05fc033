import Mathlib.Data.List.DropRight
import Ps2Recomp.Gs.WriteRegister

/-!
# Primitive assembly

`GS::vertexKick` assembles primitives from a queue that it rolls differently for each type. The
reference (`Assembly`) keeps all the vertices submitted since the last write to PRIM and counts
them: a vertex completes a primitive by its number (`completes`), and the primitive is read off the
vertices submitted (`primitive`).

* `reset` leaves the queue, the transfer state, the privileged registers and the memory as they are;
  what it does to the rasterizer is a parameter.
* `m_vtxCount` is an `int`. `vtxCount` counts on, and `vtxCountInt` is the `int` that holds the
  count: an overflow wraps. Only the reserved type lets the count grow, since `vertexKick` returns
  before it would reset it.
* The queue holds the vertices that the next primitive takes (`held`), so every draw is the
  reference's (`assembles_run`).
* The slot of a vertex is in the queue exactly while the count has not overflowed
  (`slotInRange_iff`), which decides for a whole run (`assembly_exact_iff`).
-/

namespace Ps2Recomp.GS

open Machine

variable {α ρ : Type*}

/-! ## The reference assembly -/

/-- Whether vertex number `n` since the last write to PRIM completes a primitive. -/
def completes : GSPrimType → Nat → Bool
  | .POINT, n => n % 1 = 0
  | .LINE, n | .SPRITE, n => n % 2 = 0
  | .TRIANGLE, n => n % 3 = 0
  | .LINESTRIP, n => 2 ≤ n
  | .TRISTRIP, n | .TRIFAN, n => 3 ≤ n
  | .reserved, _ => false

/-- The vertices of the primitive that the last of the submitted ones completes. -/
def primitive : GSPrimType → List α → List α
  | .POINT, submitted => submitted.rtake 1
  | .LINE, submitted | .LINESTRIP, submitted | .SPRITE, submitted => submitted.rtake 2
  | .TRIANGLE, submitted | .TRISTRIP, submitted => submitted.rtake 3
  | .TRIFAN, submitted => submitted.take 1 ++ submitted.rtake 2
  | .reserved, _ => []

/-- The submitted vertices that primitives to come may take. -/
def held : GSPrimType → List α → List α
  | .POINT, submitted => submitted.rtake (submitted.length % 1)
  | .LINE, submitted | .SPRITE, submitted => submitted.rtake (submitted.length % 2)
  | .TRIANGLE, submitted => submitted.rtake (submitted.length % 3)
  | .LINESTRIP, submitted => submitted.rtake 1
  | .TRISTRIP, submitted => submitted.rtake 2
  | .TRIFAN, submitted =>
      if submitted.length ≤ 1 then submitted else submitted.take 1 ++ submitted.rtake 1
  | .reserved, submitted => submitted

/-- What is left of a completed primitive for the next one. -/
def rolled : GSPrimType → List α → List α
  | .LINESTRIP, vertices | .TRISTRIP, vertices => vertices.tail
  | .TRIFAN, vertices => vertices.take 1 ++ vertices.rtake 1
  | _, _ => []

theorem length_rtake (k : Nat) (submitted : List α) :
    (submitted.rtake k).length = min k submitted.length := by
  rw [List.rtake, List.length_drop]
  omega

theorem rtake_of_length_le {k : Nat} {submitted : List α} (h : submitted.length ≤ k) :
    submitted.rtake k = submitted := by
  rw [List.rtake, Nat.sub_eq_zero_of_le h, List.drop_zero]

theorem tail_rtake {k : Nat} {submitted : List α} (h : k < submitted.length) :
    (submitted.rtake (k + 1)).tail = submitted.rtake k := by
  rw [List.rtake, List.rtake, List.tail_drop]
  congr 1
  omega

theorem held_append_of_not_completes {type : GSPrimType} {submitted : List α}
    (h : completes type (submitted.length + 1) = false) (v : α) :
    held type (submitted ++ [v]) = held type submitted ++ [v] := by
  have hlength : (submitted ++ [v]).length = submitted.length + 1 := List.length_append
  cases type with
  | POINT => exact absurd h (by simp [completes, Nat.mod_one])
  | LINE | SPRITE =>
    have hmod : (submitted.length + 1) % 2 = submitted.length % 2 + 1 := by
      have := of_decide_eq_false h
      omega
    rw [held, held, hlength, hmod, List.rtake_concat_succ]
  | TRIANGLE =>
    have hmod : (submitted.length + 1) % 3 = submitted.length % 3 + 1 := by
      have := of_decide_eq_false h
      omega
    rw [held, held, hlength, hmod, List.rtake_concat_succ]
  | LINESTRIP =>
    have hnone : submitted.length ≤ 0 := by
      have := of_decide_eq_false h
      omega
    rw [held, held, List.rtake_concat_succ, rtake_of_length_le hnone,
      rtake_of_length_le (hnone.trans (Nat.zero_le 1))]
  | TRISTRIP =>
    have hone : submitted.length ≤ 1 := by
      have := of_decide_eq_false h
      omega
    rw [held, held, List.rtake_concat_succ, rtake_of_length_le hone,
      rtake_of_length_le (hone.trans (Nat.le_succ 1))]
  | TRIFAN =>
    have hone : submitted.length ≤ 1 := by
      have := of_decide_eq_false h
      omega
    rw [held, held, if_pos hone, hlength, List.rtake_concat_succ, List.rtake_zero, List.nil_append]
    split
    · rfl
    · rw [List.take_append_of_le_length (by omega), List.take_of_length_le hone]
  | reserved => rfl

theorem primitive_append {type : GSPrimType} {submitted : List α}
    (h : completes type (submitted.length + 1) = true) (v : α) :
    primitive type (submitted ++ [v]) = held type submitted ++ [v] := by
  cases type with
  | POINT => rw [primitive, held, Nat.mod_one, List.rtake_concat_succ]
  | LINE | SPRITE =>
    have hmod : submitted.length % 2 = 1 := by
      have := of_decide_eq_true h
      omega
    rw [primitive, held, hmod, List.rtake_concat_succ]
  | TRIANGLE =>
    have hmod : submitted.length % 3 = 2 := by
      have := of_decide_eq_true h
      omega
    rw [primitive, held, hmod, List.rtake_concat_succ]
  | LINESTRIP | TRISTRIP => rw [primitive, held, List.rtake_concat_succ]
  | TRIFAN =>
    have htwo : 2 ≤ submitted.length := by
      have := of_decide_eq_true h
      omega
    rw [primitive, held, if_neg (by omega), List.rtake_concat_succ,
      List.take_append_of_le_length (by omega), List.append_assoc]
  | reserved => cases h

/-- What the next primitives share with a completed one is what it leaves. -/
theorem held_append_of_completes {type : GSPrimType} {submitted : List α}
    (h : completes type (submitted.length + 1) = true) (v : α) :
    held type (submitted ++ [v]) = rolled type (held type submitted ++ [v]) := by
  have hlength : (submitted ++ [v]).length = submitted.length + 1 := List.length_append
  cases type with
  | POINT => rw [held, Nat.mod_one, List.rtake_zero, rolled] <;> nofun
  | LINE | SPRITE =>
    rw [held, hlength, of_decide_eq_true h, List.rtake_zero, rolled] <;> nofun
  | TRIANGLE => rw [held, hlength, of_decide_eq_true h, List.rtake_zero, rolled] <;> nofun
  | LINESTRIP =>
    have htwo : 1 < (submitted ++ [v]).length := hlength ▸ of_decide_eq_true h
    rw [held, held, rolled, ← List.rtake_concat_succ, tail_rtake htwo]
  | TRISTRIP =>
    have hthree : 2 < (submitted ++ [v]).length := hlength ▸ of_decide_eq_true h
    rw [held, held, rolled, ← List.rtake_concat_succ, tail_rtake hthree]
  | TRIFAN =>
    have htwo : 2 ≤ submitted.length := by
      have := of_decide_eq_true h
      omega
    have hfirst : (submitted.take 1).length = 1 := List.length_take_of_le (by omega)
    rw [held, held, rolled, if_neg (by omega), if_neg (by omega), List.rtake_concat_succ,
      List.rtake_concat_succ, List.rtake_zero, List.rtake_zero, List.append_assoc,
      List.take_append_of_le_length hfirst.ge, List.take_of_length_le hfirst.le,
      List.take_append_of_le_length (by omega)]
  | reserved => cases h

theorem length_held_of_completes {type : GSPrimType} {submitted : List α}
    (h : completes type (submitted.length + 1) = true) :
    (held type submitted).length + 1 = GsState.expectedVertexCount type := by
  cases type with
  | POINT => rw [held, Nat.mod_one, List.rtake_zero]; rfl
  | LINE | SPRITE | TRIANGLE | LINESTRIP | TRISTRIP =>
    have := of_decide_eq_true h
    rw [held, length_rtake, GsState.expectedVertexCount]
    omega
  | TRIFAN =>
    have := of_decide_eq_true h
    rw [held, if_neg (by omega), List.length_append, List.length_take, length_rtake,
      GsState.expectedVertexCount]
    omega
  | reserved => cases h

theorem length_held_of_not_completes {type : GSPrimType} {submitted : List α}
    (h : completes type (submitted.length + 1) = false) (hreserved : type ≠ .reserved) :
    (held type submitted).length + 1 < GsState.expectedVertexCount type := by
  cases type with
  | POINT => exact absurd h (by simp [completes, Nat.mod_one])
  | LINE | SPRITE | TRIANGLE | LINESTRIP | TRISTRIP =>
    have := of_decide_eq_false h
    rw [held, length_rtake, GsState.expectedVertexCount]
    omega
  | TRIFAN =>
    have := of_decide_eq_false h
    rw [held, if_pos (by omega), GsState.expectedVertexCount]
    omega
  | reserved => exact absurd rfl hreserved

/-! ## Writes -/

/-- A write to a register, by its number or by the descriptor of a PACKED tag. -/
inductive GsWrite
  | register (reg : GSRegId) (value : BitVec 64)
  | packed (regDesc : Nat) (lo hi : BitVec 64)

def GsState.write (env : GsRasterizer ρ) (s : GsState ρ) : GsWrite → GsState ρ
  | .register reg value => s.writeRegister env reg value
  | .packed regDesc lo hi => s.writeRegisterPacked env regDesc lo hi

/-- What a write to a vertex register says of the vertex. A vertex without fog of its own has the
current one. -/
structure VertexWrite where
  x : Nat
  y : Nat
  zInteger : Nat
  z : Nat
  fog : Option Nat
  drawing : Bool

def VertexWrite.vertex (w : VertexWrite) (cur : GsAttributes) : GSVertex where
  x := w.x / 16
  y := w.y / 16
  z := w.z
  r := cur.r
  g := cur.g
  b := cur.b
  a := cur.a
  q := cur.q
  s := cur.s
  t := cur.t
  u := cur.u
  v := cur.v
  fog := w.fog.getD cur.fog
  x12_4 := w.x
  y12_4 := w.y
  zInteger := w.zInteger

/-- What a write means to the assembly. -/
inductive GsEvent
  | prim (type : GSPrimType)
  | vertex (vertex : VertexWrite)
  | other

def GSRegId.event (value : BitVec 64) : GSRegId → GsEvent
  | .PRIM => .prim (.ofBits (bits value 0 3))
  | .XYZF2 => xyzf true
  | .XYZF3 => xyzf false
  | .XYZ2 => xyz true
  | .XYZ3 => xyz false
  | _ => .other
where
  xyzf (drawing : Bool) : GsEvent :=
    .vertex
      { x := bits value 0 16
        y := bits value 16 16
        zInteger := bits value 32 24
        z := bits value 32 24
        fog := some (bits value 56 8)
        drawing }
  xyz (drawing : Bool) : GsEvent :=
    .vertex
      { x := bits value 0 16
        y := bits value 16 16
        zInteger := bits value 32 32
        z := bits value 32 32
        fog := none
        drawing }

/-- XYZF2 and XYZF3 of a PACKED tag. -/
def packedXyzfEvent (lo hi : BitVec 64) (drawing : Bool) : GsEvent :=
  .vertex
    { x := bits lo 0 16
      y := bits lo 32 16
      zInteger := bits hi 4 24
      z := floatOfNat (bits hi 4 24)
      fog := some (bits hi 36 8)
      drawing }

/-- XYZ2 and XYZ3 of a PACKED tag. -/
def packedXyzEvent (lo hi : BitVec 64) (drawing : Bool) : GsEvent :=
  .vertex
    { x := bits lo 0 16
      y := bits lo 32 16
      zInteger := bits hi 0 32
      z := floatOfNat (bits hi 0 32)
      fog := none
      drawing }

/-- ADC is bit 111 of a PACKED vertex, and A+D names the register in the upper half. -/
def GsWrite.event : GsWrite → GsEvent
  | .register reg value => reg.event value
  | .packed 0x00 lo _ => .prim (.ofBits (bits lo 0 3))
  | .packed 0x04 lo hi => packedXyzfEvent lo hi !(hi.getLsbD 47)
  | .packed 0x05 lo hi => packedXyzEvent lo hi !(hi.getLsbD 47)
  | .packed 0x0C lo hi => packedXyzfEvent lo hi false
  | .packed 0x0D lo hi => packedXyzEvent lo hi false
  | .packed 0x0E lo hi => (GSRegId.ofAddress (bits hi 0 8)).event lo
  | .packed regDesc lo _ => (GSRegId.ofAddress regDesc).event lo

namespace GsState

variable {env : GsRasterizer ρ} {s : GsState ρ}

/-- The members that assembly reads and writes are the same. -/
structure SameAssembly (s s' : GsState ρ) : Prop where
  type : s'.prim.type = s.prim.type
  vtxQueue : s'.vtxQueue = s.vtxQueue
  vtxCount : s'.vtxCount = s.vtxCount
  draws : s'.draws = s.draws
  drawCommandLimit : s'.drawCommandLimit = s.drawCommandLimit
  drawCommandLimitReached : s'.drawCommandLimitReached = s.drawCommandLimitReached

theorem SameAssembly.refl (s : GsState ρ) : SameAssembly s s := ⟨rfl, rfl, rfl, rfl, rfl, rfl⟩

theorem SameAssembly.trans {s' s'' : GsState ρ} (h : SameAssembly s s') (h' : SameAssembly s' s'') :
    SameAssembly s s'' where
  type := h'.type.trans h.type
  vtxQueue := h'.vtxQueue.trans h.vtxQueue
  vtxCount := h'.vtxCount.trans h.vtxCount
  draws := h'.draws.trans h.draws
  drawCommandLimit := h'.drawCommandLimit.trans h.drawCommandLimit
  drawCommandLimitReached := h'.drawCommandLimitReached.trans h.drawCommandLimitReached

/-- What a write does to the assembly, by its event. -/
def Assembled (env : GsRasterizer ρ) (s s' : GsState ρ) : GsEvent → Prop
  | .prim type => ∃ value, s' = s.writePrim value ∧ .ofBits (bits value 0 3) = type
  | .vertex w => s' = s.submitVertex env (w.vertex s.cur) w.drawing
  | .other => SameAssembly s s'

theorem sameAssembly_modifyContext (ci : Bool) (f : GSContext → GSContext) :
    SameAssembly s (s.modifyContext ci f) := ⟨rfl, rfl, rfl, rfl, rfl, rfl⟩

theorem sameAssembly_updateClutCache (ci : Bool) : SameAssembly s (s.updateClutCache env ci) := by
  unfold updateClutCache
  split <;> exact ⟨rfl, rfl, rfl, rfl, rfl, rfl⟩

theorem sameAssembly_processImageData (data : BitMemory.Memory) (sizeBytes : Nat) :
    SameAssembly s (s.processImageData data sizeBytes) := by
  unfold processImageData
  split
  · exact .refl s
  · split <;> exact ⟨rfl, rfl, rfl, rfl, rfl, rfl⟩

theorem sameAssembly_writeTrxdir (value : BitVec 64) : SameAssembly s (s.writeTrxdir value) := by
  unfold writeTrxdir performLocalToLocalTransfer performLocalToHostToBuffer
  dsimp only
  split
  · split <;> exact ⟨rfl, rfl, rfl, rfl, rfl, rfl⟩
  · split <;> exact ⟨rfl, rfl, rfl, rfl, rfl, rfl⟩

theorem sameAssembly_privileged (effect : GsPrivilegedSideEffect)
    (write : GSRegisters → GSRegisters) : SameAssembly s (s.privileged effect write) := by
  unfold privileged
  split <;> exact ⟨rfl, rfl, rfl, rfl, rfl, rfl⟩

theorem assembled_writeRegister (reg : GSRegId) (value : BitVec 64) :
    Assembled env s (s.writeRegister env reg value) (reg.event value) := by
  cases reg with
  | PRIM => exact ⟨value, rfl, rfl⟩
  | XYZF2 | XYZF3 | XYZ2 | XYZ3 => rfl
  | TEX0 ci => exact (sameAssembly_modifyContext ci _).trans (sameAssembly_updateClutCache ci)
  | TEX2 ci => exact (sameAssembly_modifyContext ci _).trans (sameAssembly_updateClutCache ci)
  | PRMODE =>
    change SameAssembly s (if s.global.prmodecont then s else _)
    split <;> exact ⟨rfl, rfl, rfl, rfl, rfl, rfl⟩
  | TRXDIR => exact sameAssembly_writeTrxdir value
  | HWREG => exact sameAssembly_processImageData _ 8
  | SIGNAL | FINISH | LABEL => exact sameAssembly_privileged _ _
  | _ => exact ⟨rfl, rfl, rfl, rfl, rfl, rfl⟩

theorem bits_primMask (value : BitVec 64) : bits (value &&& 0x7FF) 0 3 = bits value 0 3 := by
  have hmask : (0x7FF : BitVec 64).extractLsb' 0 3 = BitVec.allOnes 3 := by decide
  unfold bits
  rw [BitVec.extractLsb'_and, hmask, BitVec.and_allOnes]

/-- **One write**, of any form. -/
theorem assembled_write (w : GsWrite) : Assembled env s (s.write env w) w.event := by
  cases w with
  | register reg value => exact assembled_writeRegister reg value
  | packed regDesc lo hi =>
    match regDesc with
    | 0x00 => exact ⟨lo &&& 0x7FF, rfl, congrArg _ (bits_primMask lo)⟩
    | 0x04 | 0x05 | 0x0C | 0x0D => rfl
    | 0x0E => exact assembled_writeRegister _ lo
    | 0x01 | 0x02 | 0x03 | 0x0A | 0x0F => exact ⟨rfl, rfl, rfl, rfl, rfl, rfl⟩
    | 0x06 => exact assembled_writeRegister (.ofAddress 0x06) lo
    | 0x07 => exact assembled_writeRegister (.ofAddress 0x07) lo
    | 0x08 => exact assembled_writeRegister (.ofAddress 0x08) lo
    | 0x09 => exact assembled_writeRegister (.ofAddress 0x09) lo
    | 0x0B => exact assembled_writeRegister (.ofAddress 0x0B) lo
    | regDesc + 16 => exact assembled_writeRegister _ lo

/-! ## The queue -/

/-- The queue holds the vertices from its start. -/
def Queued (vtxQueue : Fin kMaxVerts → GSVertex) (vertices : List GSVertex) : Prop :=
  ∀ (i : Fin kMaxVerts) vertex, vertices[i.val]? = some vertex → vtxQueue i = vertex

variable {vtxQueue : Fin kMaxVerts → GSVertex} {vertices : List GSVertex} {a b c v : GSVertex}

theorem Queued.nil : Queued vtxQueue [] := nofun

theorem Queued.append (h : Queued vtxQueue vertices) {i : Fin kMaxVerts}
    (hi : i.val = vertices.length) : Queued (Function.update vtxQueue i v) (vertices ++ [v]) := by
  intro j vertex hj
  rcases eq_or_ne j i with rfl | hne
  · rw [hi, List.getElem?_concat_length] at hj
    rw [Function.update_self, Option.some.inj hj]
  · have hlt : j.val < vertices.length := by
      have hbound := (List.getElem?_eq_some_iff.1 hj).1
      have hval := Fin.val_ne_of_ne hne
      rw [List.length_append, List.length_singleton] at hbound
      omega
    rw [List.getElem?_append_left hlt] at hj
    rw [Function.update_of_ne hne, h j vertex hj]

theorem Queued.take (h : Queued vtxQueue vertices) (hlength : vertices.length ≤ kMaxVerts) :
    (List.ofFn vtxQueue).take vertices.length = vertices := by
  refine List.ext_getElem ?_ fun i hi hi' => ?_
  · rw [List.length_take, List.length_ofFn]
    omega
  · rw [List.getElem_take, List.getElem_ofFn]
    exact h ⟨i, hi'.trans_le hlength⟩ _ (List.getElem?_eq_getElem hi')

theorem Queued.single (h0 : vtxQueue 0 = a) : Queued vtxQueue [a]
  | 0, _, h => h0.trans (Option.some.inj h)

theorem Queued.pair (h0 : vtxQueue 0 = a) (h1 : vtxQueue 1 = b) : Queued vtxQueue [a, b]
  | 0, _, h => h0.trans (Option.some.inj h)
  | 1, _, h => h1.trans (Option.some.inj h)

/-- **A completed primitive is rolled** to what it leaves. -/
theorem Queued.rollQueue (h : Queued s.vtxQueue vertices)
    (hlength : vertices.length = expectedVertexCount s.prim.type) :
    Queued s.rollQueue.vtxQueue (rolled s.prim.type vertices) ∧
      s.rollQueue.vtxCount = (rolled s.prim.type vertices).length := by
  unfold GsState.rollQueue
  cases htype : s.prim.type with
  | POINT | LINE | TRIANGLE | SPRITE | reserved => exact ⟨.nil, rfl⟩
  | LINESTRIP =>
    obtain ⟨a, b, rfl⟩ := List.length_eq_two.1 (htype ▸ hlength)
    exact ⟨.single (h 1 b rfl), rfl⟩
  | TRISTRIP =>
    obtain ⟨a, b, c, rfl⟩ := List.length_eq_three.1 (htype ▸ hlength)
    exact ⟨.pair (h 1 b rfl) (h 2 c rfl), rfl⟩
  | TRIFAN =>
    obtain ⟨a, b, c, rfl⟩ := List.length_eq_three.1 (htype ▸ hlength)
    exact ⟨.pair (h 0 a rfl) (h 2 c rfl), rfl⟩

theorem rollQueue_unseen (s : GsState ρ) :
    s.rollQueue.prim = s.prim ∧ s.rollQueue.draws = s.draws ∧
      s.rollQueue.drawCommandLimit = s.drawCommandLimit ∧
      s.rollQueue.drawCommandLimitReached = s.drawCommandLimitReached := by
  unfold GsState.rollQueue
  split <;> exact ⟨rfl, rfl, rfl, rfl⟩

/-- A vertex in its slot, and counted. -/
def queueVertex (s : GsState ρ) (vertex : GSVertex) : GsState ρ :=
  { s with
    vtxQueue := Function.update s.vtxQueue s.slot vertex
    vtxCount := s.vtxCount + 1
    vtxIndex := s.vtxIndex + 1 }

theorem submitVertex_of_reserved (h : s.prim.type = .reserved) (drawing : Bool) :
    s.submitVertex env v drawing = s.queueVertex v := by
  unfold submitVertex vertexKick
  exact if_pos h

theorem submitVertex_of_lt (h : s.prim.type ≠ .reserved)
    (hlt : s.vtxCount + 1 < expectedVertexCount s.prim.type) (drawing : Bool) :
    s.submitVertex env v drawing = s.queueVertex v := by
  unfold submitVertex vertexKick
  exact (if_neg h).trans (if_pos hlt)

theorem submitVertex_of_completed (h : s.prim.type ≠ .reserved)
    (heq : s.vtxCount + 1 = expectedVertexCount s.prim.type)
    (hlimit : s.drawCommandLimit = UINT64_MAX) (hreached : s.drawCommandLimitReached = false)
    (drawing : Bool) :
    s.submitVertex env v drawing =
      (if drawing then (s.queueVertex v).drawPrimitive env else s.queueVertex v).rollQueue := by
  have hkick : (s.queueVertex v).kickDraw env = (s.queueVertex v).drawPrimitive env :=
    if_neg fun hlast => hlast.1 hlimit
  have hdraws : (drawing && !(s.queueVertex v).drawCommandLimitReached) = drawing := by
    change (drawing && !s.drawCommandLimitReached) = drawing
    rw [hreached, Bool.not_false, Bool.and_true]
  calc s.submitVertex env v drawing
      = (if drawing && !(s.queueVertex v).drawCommandLimitReached then
          (s.queueVertex v).kickDraw env else s.queueVertex v).rollQueue := by
        unfold submitVertex vertexKick
        exact (if_neg h).trans (if_neg heq.not_lt)
    _ = _ := by rw [hdraws, hkick]

end GsState

/-! ## The assembly of a run -/

/-- What is drawn: a draw but for its number. -/
structure GsPrimitive where
  primitive : GSPrimReg
  context : GSContext
  vertices : List GSVertex
  globalState : GsDrawGlobalState

def GsDraw.assembled (draw : GsDraw) : GsPrimitive where
  primitive := draw.primitive
  context := draw.context
  vertices := draw.vertices
  globalState := draw.globalState

/-- The type, the vertices submitted since the last write to PRIM, and what was drawn. -/
structure Assembly where
  type : GSPrimType := .POINT
  submitted : List GSVertex := []
  drawn : List GsPrimitive := []

namespace Assembly

variable {a : Assembly} {s : GsState ρ}

/-- A vertex gets the attributes of the registers. A primitive is drawn with the registers of its
last vertex. -/
def submit (a : Assembly) (s : GsState ρ) (w : VertexWrite) : Assembly :=
  let submitted := a.submitted ++ [w.vertex s.cur]
  { a with
    submitted
    drawn :=
      if completes a.type submitted.length && w.drawing then
        a.drawn ++
          [{ primitive := s.prim
             context := s.activeContext
             vertices := primitive a.type submitted
             globalState := s.global }]
      else a.drawn }

def step (a : Assembly) (s : GsState ρ) (w : GsWrite) : Assembly :=
  match w.event with
  | .prim type => { a with type, submitted := [] }
  | .vertex w => a.submit s w
  | .other => a

end Assembly

open GsState

variable {env : GsRasterizer ρ} {s s' : GsState ρ} {a : Assembly}

/-- The state assembles what the reference does. -/
structure Assembles (a : Assembly) (s : GsState ρ) : Prop where
  type : s.prim.type = a.type
  vtxCount : s.vtxCount = (held a.type a.submitted).length
  queued : a.type ≠ .reserved → Queued s.vtxQueue (held a.type a.submitted)
  draws : s.draws.map GsDraw.assembled = a.drawn
  drawCommandLimit : s.drawCommandLimit = UINT64_MAX
  drawCommandLimitReached : s.drawCommandLimitReached = false

theorem Assembles.congr (h : Assembles a s) (hsame : SameAssembly s s') : Assembles a s' where
  type := hsame.type.trans h.type
  vtxCount := hsame.vtxCount.trans h.vtxCount
  queued hreserved := hsame.vtxQueue ▸ h.queued hreserved
  draws := hsame.draws ▸ h.draws
  drawCommandLimit := hsame.drawCommandLimit.trans h.drawCommandLimit
  drawCommandLimitReached := hsame.drawCommandLimitReached.trans h.drawCommandLimitReached

theorem expectedVertexCount_le (type : GSPrimType) : expectedVertexCount type ≤ 3 := by
  cases type <;> decide

theorem Assembles.queueVertex (h : Assembles a s) (hreserved : a.type ≠ .reserved)
    (hlength : (held a.type a.submitted).length < kMaxVerts) (v : GSVertex) :
    Queued (s.queueVertex v).vtxQueue (held a.type a.submitted ++ [v]) := by
  refine (h.queued hreserved).append ?_
  change s.vtxCount % kMaxVerts = _
  rw [h.vtxCount, Nat.mod_eq_of_lt hlength]

/-- A vertex that completes nothing is kept for the next primitive. -/
theorem Assembles.submit_kept (h : Assembles a s)
    (hcompletes : completes a.type (a.submitted.length + 1) = false) (v : GSVertex)
    (drawing : Bool) :
    Assembles { a with submitted := a.submitted ++ [v] } (s.submitVertex env v drawing) := by
  have hkept := held_append_of_not_completes hcompletes v
  have heq : s.submitVertex env v drawing = s.queueVertex v := by
    by_cases hreserved : a.type = .reserved
    · exact submitVertex_of_reserved (h.type.trans hreserved) drawing
    · refine submitVertex_of_lt (h.type ▸ hreserved) ?_ drawing
      rw [h.vtxCount, h.type]
      exact length_held_of_not_completes hcompletes hreserved
  rw [heq]
  refine ⟨h.type, ?_, fun hreserved => ?_, h.draws, h.drawCommandLimit, h.drawCommandLimitReached⟩
  · change s.vtxCount + 1 = (held a.type (a.submitted ++ [v])).length
    rw [hkept, List.length_append, h.vtxCount, List.length_singleton]
  · change Queued _ (held a.type (a.submitted ++ [v]))
    have hlt := length_held_of_not_completes hcompletes hreserved
    have hle := expectedVertexCount_le a.type
    rw [hkept]
    exact h.queueVertex hreserved (by unfold kMaxVerts; omega) v

/-- A vertex that completes a primitive draws it, unless drawing is suppressed, and the queue rolls
either way. -/
theorem Assembles.submit_completed (h : Assembles a s)
    (hcompletes : completes a.type (a.submitted.length + 1) = true) (v : GSVertex)
    (drawing : Bool) :
    Assembles
      { a with
        submitted := a.submitted ++ [v]
        drawn :=
          if drawing then
            a.drawn ++
              [{ primitive := s.prim
                 context := s.activeContext
                 vertices := primitive a.type (a.submitted ++ [v])
                 globalState := s.global }]
          else a.drawn }
      (s.submitVertex env v drawing) := by
  have hreserved : a.type ≠ .reserved := by
    rintro heq
    rw [heq] at hcompletes
    cases hcompletes
  have hlength : (held a.type a.submitted ++ [v]).length = expectedVertexCount s.prim.type := by
    rw [List.length_append, List.length_singleton, h.type, length_held_of_completes hcompletes]
  have hle := expectedVertexCount_le s.prim.type
  have hqueued := h.queueVertex hreserved
    (by rw [List.length_append, List.length_singleton] at hlength; unfold kMaxVerts; omega) v
  have hvertices : (s.queueVertex v).buildGsDrawCommand.vertices =
      primitive a.type (a.submitted ++ [v]) := by
    rw [primitive_append hcompletes, ← hqueued.take (by unfold kMaxVerts; omega), hlength]
    rfl
  rw [submitVertex_of_completed (h.type ▸ hreserved)
    (by rw [← hlength, h.vtxCount, List.length_append, List.length_singleton]) h.drawCommandLimit
    h.drawCommandLimitReached]
  -- What is rolled: the queue with the vertex in it, and the draw if there is one.
  generalize ht : (if drawing then (s.queueVertex v).drawPrimitive env else s.queueVertex v) = t
  have htype : t.prim = s.prim := by subst ht; split <;> rfl
  have hqueue : t.vtxQueue = (s.queueVertex v).vtxQueue := by subst ht; split <;> rfl
  have hlimit : t.drawCommandLimit = UINT64_MAX := by
    subst ht
    split <;> exact h.drawCommandLimit
  have hreached : t.drawCommandLimitReached = false := by
    subst ht
    split <;> exact h.drawCommandLimitReached
  have hdraws : t.draws =
      if drawing then s.draws ++ [(s.queueVertex v).buildGsDrawCommand] else s.draws := by
    subst ht
    split <;> rfl
  obtain ⟨hrolledQueue, hrolledCount⟩ :=
    Queued.rollQueue (hqueue ▸ hqueued) (htype.symm ▸ hlength)
  obtain ⟨hrolledType, hrolledDraws, hrolledLimit, hrolledReached⟩ := rollQueue_unseen t
  have hleft := held_append_of_completes hcompletes v
  rw [htype, h.type, ← hleft] at hrolledQueue hrolledCount
  refine ⟨by rw [hrolledType, htype, h.type], hrolledCount, fun _ => hrolledQueue, ?_,
    hrolledLimit.trans hlimit, hrolledReached.trans hreached⟩
  rw [hrolledDraws, hdraws]
  cases drawing with
  | false => exact h.draws
  | true =>
    change (s.draws ++ [(s.queueVertex v).buildGsDrawCommand]).map GsDraw.assembled = a.drawn ++ [_]
    rw [List.map_append, h.draws, List.map_singleton, ← hvertices]
    rfl

/-- **One submission.** -/
theorem Assembles.submit (h : Assembles a s) (w : VertexWrite) :
    Assembles (a.submit s w) (s.submitVertex env (w.vertex s.cur) w.drawing) := by
  have hlength : (a.submitted ++ [w.vertex s.cur]).length = a.submitted.length + 1 :=
    List.length_append
  unfold Assembly.submit
  dsimp only
  rw [hlength]
  cases hcompletes : completes a.type (a.submitted.length + 1) with
  | false => exact h.submit_kept hcompletes _ _
  | true => exact h.submit_completed hcompletes _ _

/-- **One write.** -/
theorem Assembles.write (h : Assembles a s) (w : GsWrite) :
    Assembles (a.step s w) (s.write env w) := by
  have hwrite : Assembled env s (s.write env w) w.event := assembled_write w
  unfold Assembly.step
  cases hevent : w.event with
  | prim type =>
    rw [hevent] at hwrite
    obtain ⟨value, heq, htype⟩ := hwrite
    rw [heq]
    have hheld : held type ([] : List GSVertex) = [] := by
      cases type <;> rfl
    refine ⟨htype, ?_, fun _ => ?_, h.draws, h.drawCommandLimit, h.drawCommandLimitReached⟩
    · change 0 = (held type []).length
      rw [hheld]
      rfl
    · change Queued _ (held type [])
      rw [hheld]
      exact .nil
  | vertex w =>
    rw [hevent] at hwrite
    rw [show s.write env _ = _ from hwrite]
    exact h.submit w
  | other =>
    rw [hevent] at hwrite
    exact h.congr hwrite

/-! ## Runs from a reset -/

/-- `GS::reset`. The draws are those since then. -/
def GsState.reset (s : GsState ρ) (rasterizer : ρ) : GsState ρ :=
  { s with
    prim := {}
    ctx := fun _ => {}
    global := {}
    cur := {}
    bitbltbuf := {}
    trxpos := {}
    trxreg := ⟨0, 0⟩
    trxdir := 3
    vtxCount := 0
    vtxIndex := 0
    nextDrawSequence := 1
    drawCommandLimit := UINT64_MAX
    drawCommandLimitReached := false
    localToHostBuffer := []
    localToHostReadPos := 0
    rasterizer
    draws := [] }

theorem assembles_reset (s : GsState ρ) (rasterizer : ρ) : Assembles {} (s.reset rasterizer) :=
  ⟨rfl, rfl, fun _ => .nil, rfl, rfl, rfl⟩

/-- The state and the reference, write by write. -/
def assembleStep (env : GsRasterizer ρ) (p : GsState ρ × Assembly) (w : GsWrite) :
    GsState ρ × Assembly :=
  (p.1.write env w, p.2.step p.1 w)

theorem assembles_run (h : Assembles a s) (writes : List GsWrite) :
    Assembles (run (assembleStep env) (s, a) writes).2 (run (assembleStep env) (s, a) writes).1 :=
  have hall : Along (assembleStep env) (fun _ _ => True) (s, a) writes :=
    along_of_forall fun _ _ _ => trivial
  invariant (I := fun p : GsState ρ × Assembly => Assembles p.2 p.1)
    (fun _ w h _ => h.write w) h hall

/-- The `int` that holds a count. -/
def GsState.vtxCountInt (s : GsState ρ) : Int := (s.vtxCount : Int).bmod (2 ^ 32)

/-- `m_vtxCount % kMaxVerts`, which has the sign of the count. -/
def GsState.queueIndex (s : GsState ρ) : Int := s.vtxCountInt.tmod kMaxVerts

def GsState.SlotInRange (s : GsState ρ) : Prop := 0 ≤ s.queueIndex ∧ s.queueIndex < kMaxVerts

theorem queueIndex_of_lt (h : s.vtxCount < 2 ^ 31) : s.queueIndex = s.slot.val := by
  have hcount : s.vtxCountInt = s.vtxCount := by
    unfold GsState.vtxCountInt
    rw [Int.bmod_eq_of_le] <;> omega
  rw [GsState.queueIndex, hcount]
  exact Int.ofNat_tmod _ _

/-- **The first overflow** leaves the queue. -/
theorem slotInRange_iff (h : s.vtxCount ≤ 2 ^ 31) : s.SlotInRange ↔ s.vtxCount < 2 ^ 31 := by
  rcases Nat.lt_or_eq_of_le h with hlt | heq
  · rw [GsState.SlotInRange, queueIndex_of_lt hlt]
    exact iff_of_true ⟨Int.natCast_nonneg _, Int.ofNat_lt.2 s.slot.isLt⟩ hlt
  · have hindex : s.queueIndex = -2 := by
      unfold GsState.queueIndex GsState.vtxCountInt
      rw [heq]
      decide
    rw [GsState.SlotInRange, hindex, heq]
    decide

def GsWrite.Submits (w : GsWrite) : Prop := ∃ vertex, w.event = .vertex vertex

/-- The type and the number of the vertices submitted since the last write to PRIM. -/
structure Epoch where
  type : GSPrimType := .POINT
  count : Nat := 0

def Epoch.step (e : Epoch) (w : GsWrite) : Epoch :=
  match w.event with
  | .prim type => { type, count := 0 }
  | .vertex _ => { e with count := e.count + 1 }
  | .other => e

/-- No write submits a vertex of the reserved type after `2 ^ 31` others. -/
def NeverOverflows (writes : List GsWrite) : Prop :=
  Along Epoch.step (fun e w => w.Submits → e.type = .reserved → e.count < 2 ^ 31) {} writes

/-- The epoch is the reference's, and its count has not gone past the first overflow. -/
structure EpochOf (s : GsState ρ) (e : Epoch) (a : Assembly) : Prop where
  assembles : Assembles a s
  type : e.type = a.type
  count : e.count = a.submitted.length
  bound : e.type = .reserved → e.count ≤ 2 ^ 31

theorem EpochOf.slotInRange_iff {e : Epoch} (h : EpochOf s e a) :
    s.SlotInRange ↔ (e.type = .reserved → e.count < 2 ^ 31) := by
  have hcount := h.assembles.vtxCount
  by_cases hreserved : e.type = .reserved
  · have hheld : s.vtxCount = e.count := by
      rw [hcount, ← h.type, hreserved, h.count]
      rfl
    rw [GS.slotInRange_iff (hheld.trans_le (h.bound hreserved)), hheld]
    exact ⟨fun hlt _ => hlt, fun hlt => hlt hreserved⟩
  · have hlt : s.vtxCount < 2 ^ 31 := by
      have hle := expectedVertexCount_le a.type
      rw [hcount]
      cases hcompletes : completes a.type (a.submitted.length + 1) with
      | false =>
        have := length_held_of_not_completes hcompletes (h.type ▸ hreserved)
        omega
      | true =>
        have := length_held_of_completes hcompletes
        omega
    exact iff_of_true ((GS.slotInRange_iff hlt.le).2 hlt) fun h => absurd h hreserved

theorem EpochOf.write {e : Epoch} (h : EpochOf s e a) {w : GsWrite}
    (hw : w.Submits → e.type = .reserved → e.count < 2 ^ 31) :
    EpochOf (s.write env w) (e.step w) (a.step s w) := by
  refine ⟨h.assembles.write w, ?_, ?_, ?_⟩ <;> unfold Epoch.step
  · unfold Assembly.step
    cases w.event <;> first | rfl | exact h.type
  · unfold Assembly.step
    cases w.event with
    | prim type => rfl
    | vertex w =>
      change e.count + 1 = (a.submitted ++ [_]).length
      rw [h.count, List.length_append, List.length_singleton]
    | other => exact h.count
  · cases hevent : w.event with
    | prim type => exact fun _ => Nat.zero_le _
    | vertex vertex => exact fun hreserved => hw ⟨vertex, hevent⟩ hreserved
    | other => exact h.bound

/-- Every vertex is written into the queue. -/
def SlotsInRange (env : GsRasterizer ρ) (s : GsState ρ) (writes : List GsWrite) : Prop :=
  Along (GsState.write env) (fun s w => w.Submits → s.SlotInRange) s writes

theorem slotsInRange_iff (s : GsState ρ) (rasterizer : ρ) (writes : List GsWrite) :
    SlotsInRange env (s.reset rasterizer) writes ↔ NeverOverflows writes := by
  refine along_iff (R := fun s e => ∃ a, EpochOf s e a) ?_ ?_
    ⟨{}, assembles_reset s rasterizer, rfl, rfl, nofun⟩
  · rintro s e w ⟨a, h⟩
    exact imp_congr_right fun _ => h.slotInRange_iff
  · rintro s e w ⟨a, h⟩ hw
    exact ⟨_, h.write fun hsubmits => h.slotInRange_iff.1 (hw hsubmits)⟩

/-- The draws of a run are those of the reference, and its vertices are written into the queue. -/
structure AssemblyExact (env : GsRasterizer ρ) (s : GsState ρ) (writes : List GsWrite) : Prop where
  draws : (run (GsState.write env) s writes).draws.map GsDraw.assembled =
    (run (assembleStep env) (s, {}) writes).2.drawn
  slots : SlotsInRange env s writes

theorem run_assembleStep (s : GsState ρ) (a : Assembly) (writes : List GsWrite) :
    (run (assembleStep env) (s, a) writes).1 = run (GsState.write env) s writes := by
  induction writes generalizing s a with
  | nil => rfl
  | cons w rest ih => exact ih _ _

/-- **Primitive assembly is exact** in the runs that submit no more than `2 ^ 31` vertices of the
reserved type between two writes to PRIM, and in no others. -/
theorem assembly_exact_iff (env : GsRasterizer ρ) (s : GsState ρ) (rasterizer : ρ)
    (writes : List GsWrite) :
    AssemblyExact env (s.reset rasterizer) writes ↔ NeverOverflows writes := by
  refine ⟨fun h => (slotsInRange_iff s rasterizer writes).1 h.slots, fun h => ⟨?_, ?_⟩⟩
  · rw [← run_assembleStep (s.reset rasterizer) {} writes]
    exact (assembles_run (assembles_reset s rasterizer) writes).draws
  · exact (slotsInRange_iff s rasterizer writes).2 h

theorem epoch_replicate {w : GsWrite} (hw : w.Submits) (n : Nat) (e : Epoch) :
    run Epoch.step e (List.replicate n w) = { e with count := e.count + n } := by
  obtain ⟨vertex, hvertex⟩ := hw
  induction n generalizing e with
  | zero => rfl
  | succ n ih =>
    have hstep : e.step w = { e with count := e.count + 1 } := by
      unfold Epoch.step
      rw [hvertex]
    rw [List.replicate_succ, run_cons, ih, hstep]
    congr 1
    exact Nat.add_right_comm _ 1 n

/-- A stream of vertices of the reserved type overflows the count. -/
theorem not_neverOverflows {w : GsWrite} (hw : w.Submits) :
    ¬NeverOverflows (.register .PRIM 7 :: (List.replicate (2 ^ 31) w ++ [w])) := by
  unfold NeverOverflows
  rw [Along, along_append, epoch_replicate hw]
  intro h
  have hlt := h.2.2.1 hw rfl
  change 0 + 2 ^ 31 < 2 ^ 31 at hlt
  omega

/-- A rasterizer that draws nothing. -/
def blank : GsRasterizer Unit where
  draw _ vram rasterizer := (vram, rasterizer)
  updateClutCache _ _ _ rasterizer := rasterizer
  behindHwreg _ := 0

theorem assembly_not_exact :
    ¬AssemblyExact blank (GsState.reset { vram := fun _ => 0, rasterizer := () } ())
      (.register .PRIM 7 ::
        (List.replicate (2 ^ 31) (.register .XYZ2 0) ++ [.register .XYZ2 0])) := fun h =>
  not_neverOverflows ⟨_, rfl⟩ ((slotsInRange_iff _ _ _).1 h.slots)

end Ps2Recomp.GS
