import Ps2Recomp.Lib.Machine
import Ps2Recomp.Vif.Vif0

/-!
# The accounting of the VIF0 channel

The channel hands a payload to the parser at once and counts what the parser takes of it. The
stream may begin with bytes from before the payload: data of earlier transfers, or the words of a
tag. The count of the delivery leaves them out. The count of a later advance, which resumes a
parser that had stalled, does not: it takes every byte for one of the payload.

`Vif0PayloadLog` follows the bytes instead of counting: how much of the stream lies before the
payload. Whatever the parser does, the payload is appended once and in order, and the accounting
does not fault (`Kept`). It is exact as long as nothing else is in the stream when an advance
resumes a payload (`Vif0Run.accounting`), and not in general.
-/

namespace Ps2Recomp

open Machine

/-- What is known of the current payload from outside: where it begins, its quadwords, the bytes
that were appended for it, how many bytes lie before them in the stream, and whether the parser
stalled on them last. -/
structure Vif0PayloadLog where
  madr : BitVec 32
  qwc : ℕ
  appended : List UInt8 := []
  older : ℕ := 0
  stalled : Bool := false

/-- A channel and the log of its payload. -/
structure Vif0Run (ρ : Type) where
  dma : Vif0DmaState ρ
  log : Vif0PayloadLog

/-- The bytes that an advance appends to the stream. -/
def Vif0DmaEvent.appended (events : List Vif0DmaEvent) : List UInt8 :=
  events.flatMap fun
    | .appendVif0Stream data => data
    | _ => []

namespace Vif0Run

variable {ρ : Type} (memory : DmaMemory) (unit : Vif0Unit ρ)

/-- The bytes of the payload that the parser has consumed or, if it has not stalled, taken. -/
def taken (m : Vif0Run ρ) : ℕ :=
  if m.log.stalled then m.log.appended.length - (m.dma.deferredData.length - m.log.older)
  else m.log.appended.length

/-- An advance that neither fetches nor moves anything. -/
def blocked (s : Vif0DmaState ρ) (conditions : Vif0DmaConditions ρ) : Bool :=
  let s := { s with vif := conditions.vif s.vif }
  !s.active || s.stalled unit conditions.dmacEnabled

/-- The log after the parser was given `data`, with `s` as it was before. -/
def parsed (log : Vif0PayloadLog) (s : Vif0DmaState ρ) (data : List UInt8) : Vif0PayloadLog :=
  let older := if data = [] then log.older else s.deferredData.length
  let (_, disposition, consumed) :=
    Vif0DmaState.processVif0Stream unit { s with deferredData := s.deferredData ++ data }
  { log with
    appended := log.appended ++ data
    older := older - consumed
    stalled := disposition.stalls }

def advance (m : Vif0Run ρ) (conditions : Vif0DmaConditions ρ) : Vif0Run ρ :=
  let s := { m.dma with vif := conditions.vif m.dma.vif }
  let (dma, events) := m.dma.advanceVif0Dma memory unit conditions
  { dma
    log :=
      if blocked unit m.dma conditions || dma.phase = .Fault then m.log
      else
        match s.phase with
        | .FetchTag => { madr := dma.madr, qwc := dma.qwc }
        | .TransferPayload => parsed unit m.log s (Vif0DmaEvent.appended events)
        | _ => m.log }

def start (registers : DmacChannelRegisters) (vif : ρ) (deferredData : List UInt8)
    (chcr : BitVec 32) : Vif0Run ρ :=
  let dma := Vif0DmaState.startVif0Dma registers vif deferredData chcr
  { dma, log := { madr := dma.madr, qwc := dma.qwc } }

/-! ## The properties -/

/-- MADR, QWC and the offset account for what the parser has of the payload. -/
structure Accounted (m : Vif0Run ρ) : Prop where
  qwc : m.dma.registers.qwc ≤ m.log.qwc
  madr : m.dma.registers.madr =
    m.log.madr + BitVec.ofNat 32 (16 * (m.log.qwc - m.dma.registers.qwc))
  bytes : 16 * (m.log.qwc - m.dma.registers.qwc) + m.dma.payloadByteOffset = m.taken

/-- The payload, as it lies in memory. -/
def IsPayload (m : Vif0Run ρ) (data : List UInt8) : Prop :=
  ∃ sourceOffset, memory.translateAddress m.log.madr = some sourceOffset ∧
    data = Vif0DmaState.payload memory (isScratchpad m.log.madr) sourceOffset.toNat (m.log.qwc * 16)

/-- Nothing of the payload has been appended, or the payload, once and in order; and the channel is
not done with it before. -/
structure AppendedOnce (m : Vif0Run ρ) : Prop where
  once : m.log.appended = [] ∨ m.IsPayload memory m.log.appended
  done : m.dma.registers.qwc = 0 → m.log.appended.length = m.log.qwc * 16

/-- A payload faults where its address is not mapped, and nowhere else. -/
def FaultsUnmapped (m : Vif0Run ρ) : Prop :=
  ∀ conditions, m.dma.phase = .TransferPayload →
    (m.dma.advanceVif0Dma memory unit conditions).1.phase = .Fault →
      memory.translateAddress (m.dma.madr + BitVec.ofNat 32 m.dma.payloadByteOffset) = none

/-- An advance that resumes a payload finds nothing else in the stream. -/
def ResumesUnmixed (m : Vif0Run ρ) (conditions : Vif0DmaConditions ρ) : Prop :=
  blocked unit m.dma conditions = false → m.dma.bufferedPayloadBytes ≠ 0 →
    m.dma.deferredData.length = m.dma.bufferedPayloadBytes

instance (m : Vif0Run ρ) (conditions : Vif0DmaConditions ρ) :
    Decidable (ResumesUnmixed unit m conditions) := inferInstanceAs (Decidable (_ → _ → _))

/-! ## The invariant -/

/-- Nothing of the payload has been handed over. -/
structure Untouched (m : Vif0Run ρ) : Prop where
  appended : m.log.appended = []
  qwc : m.dma.qwc = m.log.qwc
  offset : m.dma.payloadByteOffset = 0
  buffered : m.dma.bufferedPayloadBytes = 0

/-- The payload has been handed over, and what is not counted yet is in the buffer. -/
structure Handed (m : Vif0Run ρ) : Prop where
  appended : m.IsPayload memory m.log.appended
  buffered : m.dma.bufferedPayloadBytes + m.dma.payloadByteOffset = m.dma.qwc * 16

/-- What every advance keeps. -/
structure Kept (m : Vif0Run ρ) : Prop where
  registersMadr : m.dma.registers.madr = m.dma.madr
  registersQwc : m.dma.registers.qwc = m.dma.qwc
  log : m.log.qwc < 0x10000
  qwc : m.dma.qwc ≤ m.log.qwc
  madr : m.dma.madr = m.log.madr + BitVec.ofNat 32 (16 * (m.log.qwc - m.dma.qwc))
  offset : m.dma.payloadByteOffset < 16
  payload : m.dma.phase = .TransferPayload → m.dma.qwc ≠ 0
  progress : m.Untouched ∨ m.Handed memory

variable {memory unit} {m : Vif0Run ρ} {conditions : Vif0DmaConditions ρ}

theorem IsPayload.length {data : List UInt8} (h : m.IsPayload memory data) :
    data.length = m.log.qwc * 16 := by
  obtain ⟨sourceOffset, -, rfl⟩ := h
  exact Vif0DmaState.length_payload _ _ _

theorem Kept.appendedOnce (h : Kept memory m) : m.AppendedOnce memory where
  once := h.progress.imp Untouched.appended Handed.appended
  done hdone := by
    rw [h.registersQwc] at hdone
    obtain hnone | hall := h.progress
    · rw [hnone.appended, ← hnone.qwc, hdone]
      rfl
    · exact hall.appended.length

/-- A payload that is about to begin. -/
structure Fresh (dma : Vif0DmaState ρ) : Prop where
  registersMadr : dma.registers.madr = dma.madr
  registersQwc : dma.registers.qwc = dma.qwc
  qwc : dma.qwc < 0x10000
  offset : dma.payloadByteOffset = 0
  buffered : dma.bufferedPayloadBytes = 0
  payload : dma.phase = .TransferPayload → dma.qwc ≠ 0

theorem Fresh.kept {dma : Vif0DmaState ρ} (h : Fresh dma) :
    Kept memory { dma, log := { madr := dma.madr, qwc := dma.qwc } } where
  registersMadr := h.registersMadr
  registersQwc := h.registersQwc
  log := h.qwc
  qwc := Nat.le_refl _
  madr := by
    rw [Nat.sub_self]
    exact (BitVec.add_zero _).symm
  offset := by
    rw [h.offset]
    decide
  payload := h.payload
  progress := .inl ⟨rfl, rfl, h.offset, h.buffered⟩

theorem Fresh.accounted {dma : Vif0DmaState ρ} (h : Fresh dma) :
    Accounted { dma, log := { madr := dma.madr, qwc := dma.qwc } } where
  qwc := Nat.le_of_eq h.registersQwc
  madr := by
    dsimp only
    rw [h.registersQwc, Nat.sub_self, h.registersMadr]
    exact (BitVec.add_zero _).symm
  bytes := by
    dsimp only
    rw [h.registersQwc, Nat.sub_self, h.offset]
    rfl

theorem fresh_start (registers : DmacChannelRegisters) (vif : ρ) (deferredData : List UInt8)
    (chcr : BitVec 32) : Fresh (start registers vif deferredData chcr).dma where
  registersMadr := rfl
  registersQwc := rfl
  qwc := Nat.mod_lt _ (by decide)
  offset := rfl
  buffered := rfl
  payload hphase := by
    change registers.qwc % 0x10000 ≠ 0
    intro hzero
    simp [start, Vif0DmaState.startVif0Dma, Vif0DmaState.publishVif0DmaRegisters, hzero] at hphase
    split at hphase <;> contradiction

/-- A tag begins a payload. -/
theorem fresh_fetchTag (s : Vif0DmaState ρ) (hfault : (s.fetchTag memory unit).1.phase ≠ .Fault) :
    Fresh (s.fetchTag memory unit).1 := by
  unfold Vif0DmaState.fetchTag at hfault ⊢
  split
  next hlimit => exact absurd (by simp [hlimit, Vif0DmaState.fault]) hfault
  next hlimit =>
    rw [if_neg hlimit] at hfault
    split
    next hseen => exact absurd (by simp [hseen, Vif0DmaState.fault]) hfault
    next hseen =>
      rw [if_neg hseen] at hfault
      cases htag : memory.tagAt s.tadr with
      | none =>
        simp only [htag] at hfault
        exact absurd rfl hfault
      | some found =>
        obtain ⟨tag, upper⟩ := found
        simp only [htag] at hfault ⊢
        split
        next hnone =>
          simp only [hnone] at hfault
          exact absurd rfl hfault
        next next dataAddress hdecode =>
          have heq := Vif0DmaState.transferTag_eq unit (next.finishTag tag dataAddress) upper
          generalize (next.finishTag tag dataAddress).transferTag unit upper = transferred at heq
          obtain ⟨next', events⟩ := transferred
          dsimp only at heq ⊢
          rw [heq]
          refine ⟨rfl, rfl, DmaTag.qwc_lt tag, rfl, rfl, fun hphase hzero => ?_⟩
          change DmaTag.qwc tag = 0 at hzero
          simp only [Vif0DmaState.finishTag, Vif0DmaState.publishVif0DmaRegisters, hzero] at hphase
          revert hphase
          cases next.endAfterPayload || (next.tie && next.tagIrq) <;> simp

/-! ## The payload -/

/-- What the accounting leaves, if the parser has not taken more than there is: it does not fault. -/
theorem acceptPayload_eq (s : Vif0DmaState ρ) (acceptedBytes : ℕ)
    (hle : s.payloadByteOffset + acceptedBytes ≤ s.qwc * 16) :
    ∃ tadr phase, (phase = s.phase ∧ s.qwc - (s.payloadByteOffset + acceptedBytes) / 16 ≠ 0 ∨
        phase = .Finalize ∨ phase = .FetchTag) ∧
      s.acceptPayload acceptedBytes = Vif0DmaState.publishVif0DmaRegisters
        { s with
          madr := s.madr +
            BitVec.ofNat 32 (16 * ((s.payloadByteOffset + acceptedBytes) / 16))
          qwc := s.qwc - (s.payloadByteOffset + acceptedBytes) / 16
          payloadByteOffset := (s.payloadByteOffset + acceptedBytes) % 16
          tadr
          phase } := by
  unfold Vif0DmaState.acceptPayload
  dsimp only
  rw [Nat.mul_comm ((s.payloadByteOffset + acceptedBytes) / 16) 16]
  split
  · omega
  split
  · omega
  split
  · refine ⟨_, if s.endAfterPayload then .Finalize else .FetchTag, .inr ?_, rfl⟩
    cases s.endAfterPayload
    · exact .inr rfl
    · exact .inl rfl
  · rename_i hrest
    exact ⟨s.tadr, s.phase, .inl ⟨rfl, hrest⟩, rfl⟩

/-- The accounting of a payload that was handed over is exact if the parser has what is not in the
buffer. -/
theorem Kept.accounted_iff (h : Kept memory m) (hall : m.Handed memory) :
    Accounted m ↔ m.taken + m.dma.bufferedPayloadBytes = m.log.qwc * 16 := by
  have hqwc := h.qwc
  have hsum := hall.buffered
  constructor
  · intro hbytes
    have hbytes := hbytes.bytes
    rw [h.registersQwc] at hbytes
    omega
  · intro htaken
    refine ⟨?_, ?_, ?_⟩
    · rw [h.registersQwc]
      exact hqwc
    · rw [h.registersMadr, h.registersQwc]
      exact h.madr
    · rw [h.registersQwc]
      omega

/-- The state after a count, with a log of the same payload. -/
theorem Kept.acceptPayload (h : Kept memory m) (t : Vif0DmaState ρ) (log : Vif0PayloadLog)
    (acceptedBytes : ℕ) (hphase : t.phase = .TransferPayload) (hmadr : t.madr = m.dma.madr)
    (hqwc : t.qwc = m.dma.qwc) (hlogMadr : log.madr = m.log.madr) (hlogQwc : log.qwc = m.log.qwc)
    (hsum : t.bufferedPayloadBytes + (t.payloadByteOffset + acceptedBytes) = t.qwc * 16)
    (happended : IsPayload memory { m with log } log.appended) :
    (t.acceptPayload acceptedBytes).phase ≠ .Fault ∧
      (t.acceptPayload acceptedBytes).bufferedPayloadBytes = t.bufferedPayloadBytes ∧
      (t.acceptPayload acceptedBytes).deferredData = t.deferredData ∧
      Kept memory { dma := t.acceptPayload acceptedBytes, log } ∧
      Handed memory { dma := t.acceptPayload acceptedBytes, log } := by
  have hle := h.qwc
  obtain ⟨tadr, phase, hnext, heq⟩ := acceptPayload_eq t acceptedBytes (by omega)
  obtain ⟨done, hdone⟩ : ∃ done, (t.payloadByteOffset + acceptedBytes) / 16 = done := ⟨_, rfl⟩
  have hmod : (t.payloadByteOffset + acceptedBytes) % 16 =
      t.payloadByteOffset + acceptedBytes - 16 * done := by omega
  rw [hdone] at hnext heq
  have hhanded : Handed memory { dma := t.acceptPayload acceptedBytes, log } := by
    refine ⟨happended, ?_⟩
    rw [heq]
    change t.bufferedPayloadBytes + (t.payloadByteOffset + acceptedBytes) % 16 =
      (t.qwc - done) * 16
    omega
  refine ⟨?_, by rw [heq]; rfl, by rw [heq]; rfl, ?_, hhanded⟩
  · rw [heq]
    change phase ≠ .Fault
    obtain ⟨rfl, -⟩ | rfl | rfl := hnext
    · rw [hphase]
      decide
    · decide
    · decide
  refine
    { registersMadr := by rw [heq]; rfl
      registersQwc := by rw [heq]; rfl
      log := hlogQwc ▸ h.log
      qwc := ?_
      madr := ?_
      offset := ?_
      payload := ?_
      progress := .inr hhanded }
  · rw [heq]
    change t.qwc - done ≤ log.qwc
    omega
  · rw [heq]
    change t.madr + BitVec.ofNat 32 (16 * done) =
      log.madr + BitVec.ofNat 32 (16 * (log.qwc - (t.qwc - done)))
    have hsplit : 16 * (log.qwc - (t.qwc - done)) = 16 * (m.log.qwc - m.dma.qwc) + 16 * done := by
      omega
    rw [hsplit, BitVec.ofNat_add, ← BitVec.add_assoc, hlogMadr, hmadr, h.madr]
  · rw [heq]
    exact Nat.mod_lt _ (by decide)
  · rw [heq]
    change phase = .TransferPayload → t.qwc - done ≠ 0
    obtain ⟨-, hleft⟩ | rfl | rfl := hnext
    · exact fun _ => hleft
    · exact fun hphase' => absurd hphase' (by decide)
    · exact fun hphase' => absurd hphase' (by decide)

variable (memory unit)

/-- The part of an advance that moves a payload. -/
def transferPayload (m : Vif0Run ρ) : Vif0Run ρ :=
  let (dma, events) := m.dma.transferPayload memory unit
  { dma, log := parsed unit m.log m.dma (Vif0DmaEvent.appended events) }

variable {memory unit}

/-- What is resumed does not fault, and it is counted exactly if nothing else is in the stream. -/
theorem Kept.resume (h : Kept memory m) (hall : m.Handed memory)
    (hphase : m.dma.phase = .TransferPayload) :
    (m.transferPayload memory unit).dma.phase ≠ .Fault ∧
      Kept memory (m.transferPayload memory unit) ∧
      (Accounted m → m.dma.deferredData.length = m.dma.bufferedPayloadBytes →
        Accounted (m.transferPayload memory unit)) := by
  have hqwc := h.payload hphase
  have hlt := h.log
  have hle := h.qwc
  have hoffset := h.offset
  have hbuffered := hall.buffered
  have hsome : m.dma.bufferedPayloadBytes ≠ 0 := by omega
  have hover : ¬(m.dma.qwc * 16 < m.dma.payloadByteOffset ∨
      uint32Max < m.dma.qwc * 16 - m.dma.payloadByteOffset) := by
    have hmax : uint32Max = 4294967295 := rfl
    omega
  obtain ⟨hframe, hconsumed⟩ := Vif0DmaState.processVif0Stream_eq unit m.dma
  obtain ⟨processed, hprocessed⟩ : ∃ processed, m.dma.processVif0Stream unit = processed :=
    ⟨_, rfl⟩
  obtain ⟨s, disposition, consumed⟩ := processed
  rw [hprocessed] at hframe hconsumed
  dsimp only at hframe hconsumed
  obtain ⟨acceptedBytes, haccepted⟩ : ∃ acceptedBytes,
      (if disposition.stalls then min consumed s.bufferedPayloadBytes
        else s.bufferedPayloadBytes) = acceptedBytes := ⟨_, rfl⟩
  have hbytes : s.bufferedPayloadBytes = m.dma.bufferedPayloadBytes := by rw [hframe]
  have hstep : m.transferPayload memory unit =
      { dma := Vif0DmaState.acceptPayload
          { s with bufferedPayloadBytes := s.bufferedPayloadBytes - acceptedBytes } acceptedBytes
        log :=
          { m.log with
            older := m.log.older - consumed
            stalled := disposition.stalls } } := by
    unfold transferPayload Vif0DmaState.transferPayload
    dsimp only
    rw [if_neg hover, if_pos hsome, hprocessed]
    dsimp only
    rw [haccepted]
    simp only [parsed, Vif0DmaEvent.appended, List.flatMap_nil, hprocessed, if_true,
      List.append_nil]
  have hacceptedLe : acceptedBytes ≤ m.dma.bufferedPayloadBytes := by
    rw [← haccepted, hbytes]
    split <;> omega
  have hoffset' : s.payloadByteOffset = m.dma.payloadByteOffset := by rw [hframe]
  have hqwc' : s.qwc = m.dma.qwc := by rw [hframe]
  have hdeferred : s.deferredData.length = m.dma.deferredData.length - consumed := by
    rw [hframe, List.length_drop]
  obtain ⟨hfault, hleft, hstream, hkept, hhanded⟩ := h.acceptPayload
    { s with bufferedPayloadBytes := s.bufferedPayloadBytes - acceptedBytes }
    { m.log with older := m.log.older - consumed, stalled := disposition.stalls } acceptedBytes
    (by rw [hframe]; exact hphase) (by rw [hframe]) hqwc' rfl rfl
    (by dsimp only; omega) hall.appended
  rw [hstep]
  refine ⟨hfault, hkept, fun hexact honly => (hkept.accounted_iff hhanded).2 ?_⟩
  have htaken := (h.accounted_iff hall).1 hexact
  have hlength := hall.appended.length
  rw [taken] at htaken ⊢
  dsimp only
  rw [hstream, hleft]
  dsimp only
  rw [hdeferred, hlength, hbytes]
  -- the parser had stalled, with nothing before the payload
  have holder : m.log.older = 0 := by
    split at htaken <;> omega
  rw [holder]
  rw [hbytes] at haccepted
  split at haccepted
  · rename_i hstalls
    rw [if_pos hstalls]
    omega
  · rename_i hstalls
    rw [if_neg hstalls]
    omega

theorem consumed_le (hunit : ∀ vif data, (unit.interpret vif data).2.2 ≤ uint32Max)
    (s : Vif0DmaState ρ) : (s.processVif0Stream unit).2.2 ≤ uint32Max := by
  unfold Vif0DmaState.processVif0Stream
  split
  · exact Nat.zero_le _
  split
  · exact Nat.zero_le _
  split
  · exact Nat.zero_le _
  · exact hunit s.vif s.deferredData

/-- A payload that cannot be found is not begun. -/
theorem transferPayload_unmapped (hnone : m.Untouched) (hqwc : m.dma.qwc ≠ 0)
    (hlt : m.dma.qwc < 0x10000)
    (hunmapped : memory.translateAddress
      (m.dma.madr + BitVec.ofNat 32 m.dma.payloadByteOffset) = none) :
    m.dma.transferPayload memory unit = (m.dma.fault, []) := by
  have hoffset := hnone.offset
  have hmax : uint32Max = 4294967295 := rfl
  unfold Vif0DmaState.transferPayload
  dsimp only
  rw [if_neg (by omega), if_neg (by simp [hnone.buffered]), if_pos (by omega), hunmapped]

/-- A payload that is handed over is counted exactly, whatever the stream begins with. -/
theorem Kept.deliver (hunit : ∀ vif data, (unit.interpret vif data).2.2 ≤ uint32Max)
    (h : Kept memory m) (hnone : m.Untouched) (hphase : m.dma.phase = .TransferPayload)
    {sourceOffset : BitVec 32}
    (hmapped : memory.translateAddress
      (m.dma.madr + BitVec.ofNat 32 m.dma.payloadByteOffset) = some sourceOffset) :
    (m.transferPayload memory unit).dma.phase ≠ .Fault ∧
      Kept memory (m.transferPayload memory unit) ∧ Accounted (m.transferPayload memory unit) := by
  have hqwc := h.payload hphase
  have hlt := h.log
  have hoffset := hnone.offset
  have hwhole := hnone.qwc
  have hbuffered := hnone.buffered
  have hmax : uint32Max = 4294967295 := rfl
  have hmadr : m.dma.madr + BitVec.ofNat 32 m.dma.payloadByteOffset = m.log.madr := by
    rw [h.madr, hoffset, hwhole, Nat.sub_self, BitVec.add_zero]
    exact BitVec.add_zero _
  have hremaining : m.dma.qwc * 16 - m.dma.payloadByteOffset = m.log.qwc * 16 := by omega
  obtain ⟨data, hdata⟩ : ∃ data, Vif0DmaState.payload memory (isScratchpad m.log.madr)
      sourceOffset.toNat (m.log.qwc * 16) = data := ⟨_, rfl⟩
  have hlength : data.length = m.log.qwc * 16 := by
    rw [← hdata]
    exact Vif0DmaState.length_payload _ _ _
  have hsome : data ≠ [] := by
    intro hnil
    rw [hnil] at hlength
    dsimp only [List.length_nil] at hlength
    omega
  obtain ⟨stream, hstream⟩ : ∃ stream : Vif0DmaState ρ,
      { m.dma with deferredData := m.dma.deferredData ++ data } = stream := ⟨_, rfl⟩
  have hstreamLength : stream.deferredData.length =
      m.dma.deferredData.length + m.log.qwc * 16 := by
    rw [← hstream, ← hlength]
    exact List.length_append
  obtain ⟨hframe, hconsumed⟩ := Vif0DmaState.processVif0Stream_eq unit stream
  have hcounted := consumed_le hunit stream
  obtain ⟨processed, hprocessed⟩ : ∃ processed, stream.processVif0Stream unit = processed :=
    ⟨_, rfl⟩
  obtain ⟨s, disposition, consumed⟩ := processed
  rw [hprocessed] at hframe hconsumed hcounted
  dsimp only at hframe hconsumed hcounted
  obtain ⟨acceptedBytes, haccepted⟩ : ∃ acceptedBytes,
      (if disposition.stalls
        then min (consumed - min m.dma.deferredData.length uint32Max) (m.log.qwc * 16)
        else m.log.qwc * 16) = acceptedBytes := ⟨_, rfl⟩
  have hstep : m.transferPayload memory unit =
      { dma := Vif0DmaState.acceptPayload
          { s with bufferedPayloadBytes := m.log.qwc * 16 - acceptedBytes } acceptedBytes
        log :=
          { m.log with
            appended := data
            older := m.dma.deferredData.length - consumed
            stalled := disposition.stalls } } := by
    unfold transferPayload Vif0DmaState.transferPayload
    dsimp only
    rw [if_neg (by omega), if_neg (by simp [hbuffered]), if_pos (by omega), hmadr]
    rw [hmadr] at hmapped
    rw [hmapped]
    dsimp only
    rw [hremaining, hdata, hstream, hprocessed]
    dsimp only
    rw [haccepted]
    simp only [parsed, Vif0DmaEvent.appended, List.flatMap_cons, List.flatMap_nil, List.append_nil,
      hstream, hprocessed, if_neg hsome, hnone.appended, List.nil_append]
  have hacceptedLe : acceptedBytes ≤ m.log.qwc * 16 := by
    rw [← haccepted]
    split <;> omega
  have hoffset' : s.payloadByteOffset = 0 := by
    rw [hframe, ← hstream]
    exact hoffset
  have hqwc' : s.qwc = m.dma.qwc := by rw [hframe, ← hstream]
  have hdeferred : s.deferredData.length =
      m.dma.deferredData.length + m.log.qwc * 16 - consumed := by
    rw [hframe, List.length_drop, hstreamLength]
  have hpayload : m.IsPayload memory data := by
    rw [hmadr] at hmapped
    exact ⟨sourceOffset, hmapped, hdata.symm⟩
  obtain ⟨hfault, hleft, hstream', hkept, hhanded⟩ := h.acceptPayload
    { s with bufferedPayloadBytes := m.log.qwc * 16 - acceptedBytes }
    { m.log with
      appended := data
      older := m.dma.deferredData.length - consumed
      stalled := disposition.stalls }
    acceptedBytes (by rw [hframe, ← hstream]; exact hphase) (by rw [hframe, ← hstream]) hqwc' rfl rfl
    (by dsimp only; omega) hpayload
  rw [hstep]
  refine ⟨hfault, hkept, (hkept.accounted_iff hhanded).2 ?_⟩
  rw [taken]
  dsimp only
  rw [hstream', hleft]
  dsimp only
  rw [hdeferred, hlength]
  split at haccepted
  · rename_i hstalls
    rw [if_pos hstalls]
    omega
  · rename_i hstalls
    rw [if_neg hstalls]
    omega

/-! ## Advances -/

/-- Nothing that the properties are about has changed. -/
structure Same (s t : Vif0DmaState ρ) : Prop where
  registers : t.registers = s.registers
  madr : t.madr = s.madr
  qwc : t.qwc = s.qwc
  offset : t.payloadByteOffset = s.payloadByteOffset
  buffered : t.bufferedPayloadBytes = s.bufferedPayloadBytes
  deferredData : t.deferredData = s.deferredData
  phase : t.phase = .TransferPayload → s.phase = .TransferPayload

theorem Same.kept {dma : Vif0DmaState ρ} (hsame : Same m.dma dma) (h : Kept memory m) :
    Kept memory { m with dma } where
  registersMadr := by
    dsimp only
    rw [hsame.registers, hsame.madr, h.registersMadr]
  registersQwc := by
    dsimp only
    rw [hsame.registers, hsame.qwc, h.registersQwc]
  log := h.log
  qwc := hsame.qwc ▸ h.qwc
  madr := by
    dsimp only
    rw [hsame.madr, hsame.qwc, h.madr]
  offset := hsame.offset ▸ h.offset
  payload hphase := hsame.qwc ▸ h.payload (hsame.phase hphase)
  progress := h.progress.imp
    (fun hnone =>
      ⟨hnone.appended, hsame.qwc.trans hnone.qwc, hsame.offset.trans hnone.offset,
        hsame.buffered.trans hnone.buffered⟩)
    fun hall => ⟨hall.appended, by
      dsimp only
      rw [hsame.buffered, hsame.offset, hsame.qwc, hall.buffered]⟩

theorem Same.accounted {dma : Vif0DmaState ρ} (hsame : Same m.dma dma) (h : Accounted m) :
    Accounted { m with dma } where
  qwc := by
    dsimp only
    rw [hsame.registers]
    exact h.qwc
  madr := by
    dsimp only
    rw [hsame.registers]
    exact h.madr
  bytes := by
    have hbytes := h.bytes
    rw [taken] at hbytes ⊢
    dsimp only
    rw [hsame.registers, hsame.offset, hsame.deferredData]
    exact hbytes

theorem fault_ne_transferPayload : SourceChainPhase.Fault ≠ .TransferPayload := by decide

theorem same_fault (s : Vif0DmaState ρ) : Same s s.fault :=
  ⟨rfl, rfl, rfl, rfl, rfl, rfl, fun h => absurd h fault_ne_transferPayload⟩

/-- A tag that faults changes nothing. -/
theorem same_fetchTag (s : Vif0DmaState ρ) (hfault : (s.fetchTag memory unit).1.phase = .Fault) :
    Same s (s.fetchTag memory unit).1 := by
  unfold Vif0DmaState.fetchTag at hfault ⊢
  split
  · exact same_fault s
  rename_i hlimit
  rw [if_neg hlimit] at hfault
  split
  · exact same_fault s
  rename_i hseen
  rw [if_neg hseen] at hfault
  cases htag : memory.tagAt s.tadr with
  | none =>
    simp only [htag]
    exact ⟨rfl, rfl, rfl, rfl, rfl, rfl, fun h => absurd h fault_ne_transferPayload⟩
  | some found =>
    obtain ⟨tag, upper⟩ := found
    simp only [htag] at hfault ⊢
    split
    · exact ⟨rfl, rfl, rfl, rfl, rfl, rfl, fun h => absurd h fault_ne_transferPayload⟩
    · rename_i hdecode
      simp only [hdecode] at hfault
      split at hfault
      · cases hfault
      · split at hfault <;> cases hfault

variable (m conditions) in
/-- What an advance finds. -/
def found : Vif0Run ρ := { m with dma := { m.dma with vif := conditions.vif m.dma.vif } }

theorem same_found : Same m.dma (m.found conditions).dma := ⟨rfl, rfl, rfl, rfl, rfl, rfl, id⟩

theorem advance_blocked (hblocked : blocked unit m.dma conditions = true) :
    m.dma.advanceVif0Dma memory unit conditions = ((m.found conditions).dma, []) := by
  unfold blocked at hblocked
  unfold Vif0DmaState.advanceVif0Dma
  dsimp only at hblocked ⊢
  rw [Bool.or_eq_true] at hblocked
  by_cases hinactive : (!m.dma.active) = true
  · rw [if_pos hinactive]
    rfl
  · rw [if_neg hinactive, if_pos (hblocked.resolve_left hinactive)]
    rfl

theorem advance_running (hblocked : blocked unit m.dma conditions = false) :
    m.dma.advanceVif0Dma memory unit conditions =
      match m.dma.phase with
      | .Finalize => ({ (m.found conditions).dma with active := false }, [.requestDmacCompletion])
      | .FetchTag => (m.found conditions).dma.fetchTag memory unit
      | .TransferPayload => (m.found conditions).dma.transferPayload memory unit
      | .Idle | .Fault => ((m.found conditions).dma.fault, []) := by
  unfold blocked at hblocked
  unfold Vif0DmaState.advanceVif0Dma
  dsimp only at hblocked ⊢
  rw [Bool.or_eq_false_iff] at hblocked
  rw [if_neg (by rw [hblocked.1]; decide), if_neg (by rw [hblocked.2]; decide)]
  rfl

/-- A payload is handed over or resumed, unless it cannot be found. -/
theorem Kept.transferPayload (hunit : ∀ vif data, (unit.interpret vif data).2.2 ≤ uint32Max)
    (h : Kept memory m) (hphase : m.dma.phase = .TransferPayload) :
    memory.translateAddress (m.dma.madr + BitVec.ofNat 32 m.dma.payloadByteOffset) = none ∧
        m.dma.transferPayload memory unit = (m.dma.fault, []) ∨
      (m.transferPayload memory unit).dma.phase ≠ .Fault ∧
        Kept memory (m.transferPayload memory unit) ∧
        (Accounted m → (m.dma.bufferedPayloadBytes ≠ 0 →
            m.dma.deferredData.length = m.dma.bufferedPayloadBytes) →
          Accounted (m.transferPayload memory unit)) := by
  have hqwc := h.payload hphase
  obtain hnone | hall := h.progress
  · cases hmapped : memory.translateAddress
        (m.dma.madr + BitVec.ofNat 32 m.dma.payloadByteOffset) with
    | none =>
      have hlt : m.dma.qwc < 0x10000 := h.qwc.trans_lt h.log
      exact .inl ⟨rfl, transferPayload_unmapped hnone hqwc hlt hmapped⟩
    | some sourceOffset =>
      obtain ⟨hfault, hkept, hexact⟩ := h.deliver hunit hnone hphase hmapped
      exact .inr ⟨hfault, hkept, fun _ _ => hexact⟩
  · obtain ⟨hfault, hkept, hexact⟩ := h.resume hall hphase
    have hoffset := h.offset
    have hbuffered := hall.buffered
    exact .inr ⟨hfault, hkept, fun haccounted honly => hexact haccounted (honly (by omega))⟩

/-- **What an advance keeps**: the invariant always, the exact accounting if a payload that is
resumed is alone in the stream. -/
theorem Kept.advance (hunit : ∀ vif data, (unit.interpret vif data).2.2 ≤ uint32Max)
    (h : Kept memory m) :
    Kept memory (m.advance memory unit conditions) ∧
      (Accounted m → ResumesUnmixed unit m conditions →
        Accounted (m.advance memory unit conditions)) := by
  have hkept : Kept memory (m.found conditions) := same_found.kept h
  have hexact : Accounted m → Accounted (m.found conditions) := same_found.accounted
  have hstays : ∀ dma : Vif0DmaState ρ, Same (m.found conditions).dma dma →
      Kept memory { m with dma } ∧ (Accounted m → ResumesUnmixed unit m conditions →
        Accounted { m with dma }) := fun dma hsame =>
    ⟨hsame.kept hkept, fun haccounted _ => hsame.accounted (hexact haccounted)⟩
  have hadvance : m.advance memory unit conditions =
      { dma := (m.dma.advanceVif0Dma memory unit conditions).1
        log :=
          if blocked unit m.dma conditions ||
            (m.dma.advanceVif0Dma memory unit conditions).1.phase = .Fault then m.log
          else
            match m.dma.phase with
            | .FetchTag =>
              { madr := (m.dma.advanceVif0Dma memory unit conditions).1.madr
                qwc := (m.dma.advanceVif0Dma memory unit conditions).1.qwc }
            | .TransferPayload =>
              parsed unit m.log (m.found conditions).dma
                (Vif0DmaEvent.appended (m.dma.advanceVif0Dma memory unit conditions).2)
            | _ => m.log } := rfl
  rw [hadvance]
  by_cases hblocked : blocked unit m.dma conditions = true
  · rw [advance_blocked hblocked, hblocked]
    exact ⟨hkept, fun haccounted _ => hexact haccounted⟩
  rw [Bool.not_eq_true] at hblocked
  rw [advance_running hblocked, hblocked]
  cases hphase : m.dma.phase with
  | Idle => exact hstays _ (same_fault _)
  | Fault => exact hstays _ (same_fault _)
  | Finalize =>
    have hsame : Same (m.found conditions).dma
        { (m.found conditions).dma with active := false } := ⟨rfl, rfl, rfl, rfl, rfl, rfl, id⟩
    split_ifs
    · exact hstays _ hsame
    · exact hstays _ hsame
  | FetchTag =>
    dsimp only
    by_cases hfault : ((m.found conditions).dma.fetchTag memory unit).1.phase = .Fault
    · rw [if_pos (by simp [hfault])]
      exact hstays _ (same_fetchTag _ hfault)
    · rw [if_neg (by simp [hfault])]
      have hfresh := fresh_fetchTag (m.found conditions).dma hfault
      exact ⟨hfresh.kept, fun _ _ => hfresh.accounted⟩
  | TransferPayload =>
    dsimp only
    obtain ⟨-, hunmapped⟩ | ⟨hfault, hnext, hcounted⟩ := hkept.transferPayload hunit hphase
    · rw [hunmapped, if_pos (by simp [Vif0DmaState.fault])]
      exact hstays _ (same_fault _)
    · have hfault' :
          ((m.found conditions).dma.transferPayload memory unit).1.phase ≠ .Fault := hfault
      rw [if_neg (by simpa using hfault')]
      exact ⟨hnext, fun haccounted hunmixed =>
        hcounted (hexact haccounted) (hunmixed hblocked)⟩

/-- An advance of a payload faults only where the payload cannot be found. -/
theorem Kept.faultsUnmapped (hunit : ∀ vif data, (unit.interpret vif data).2.2 ≤ uint32Max)
    (h : Kept memory m) : m.FaultsUnmapped memory unit := by
  intro conditions hphase hfault
  have hkept : Kept memory (m.found conditions) := same_found.kept h
  by_cases hblocked : blocked unit m.dma conditions = true
  · rw [advance_blocked hblocked] at hfault
    exact absurd (hphase.symm.trans hfault) (by decide)
  rw [Bool.not_eq_true] at hblocked
  rw [advance_running hblocked, hphase] at hfault
  obtain ⟨hunmapped, -⟩ | ⟨hnot, -⟩ := hkept.transferPayload hunit hphase
  · exact hunmapped
  · exact absurd hfault hnot

/-- **The accounting over a run of VIF0**: a payload is appended once and in order, an advance of it
faults only where its address is not mapped, and the accounting is exact as long as a payload that
is resumed is alone in the stream. -/
theorem accounting {ν : Type} (memory : DmaMemory) (env : Vif0Environment ν)
    (registers : DmacChannelRegisters) (vif : Vif0State ν) (deferredData : List UInt8)
    (chcr : BitVec 32) (inputs : List (Vif0DmaConditions (Vif0State ν))) :
    let first := start registers vif deferredData chcr
    let last := run (advance memory (vif0Unit env)) first inputs
    last.AppendedOnce memory ∧ last.FaultsUnmapped memory (vif0Unit env) ∧
      (Along (advance memory (vif0Unit env)) (ResumesUnmixed (vif0Unit env)) first inputs →
        last.Accounted) := by
  intro first last
  have hunit := vif0Unit_consumed_le env
  have hfresh := fresh_start registers vif deferredData chcr
  have hall : Along (advance memory (vif0Unit env)) (fun _ _ => True) first inputs :=
    along_of_forall fun _ _ _ => trivial
  have hkept : Kept memory last :=
    invariant (I := Kept memory) (fun _ _ h _ => (Kept.advance hunit h).1) hfresh.kept hall
  refine ⟨hkept.appendedOnce, hkept.faultsUnmapped hunit, fun hunmixed => ?_⟩
  have hexact : Kept memory last ∧ last.Accounted :=
    invariant (I := fun m => Kept memory m ∧ m.Accounted)
      (fun _ _ h hguard => ⟨(h.1.advance hunit).1, (h.1.advance hunit).2 h.2 hguard⟩)
      ⟨hfresh.kept, hfresh.accounted⟩ hunmixed
  exact hexact.2

/-! ## A tag that the parser is slow to take -/

/-- VU0 is busy once a program has been started. -/
def busyVu0 : Vif0Environment Bool where
  vu0Busy s := s.vu0
  vu0Mscal s _ _ := (true, s.vu0Data)
  vu0Mscnt s _ := (true, s.vu0Data)

/-- An END tag with two MSCNT, and a quadword that begins with FLUSHE. -/
def slowTag : DmaMemory where
  rdram address :=
    [0x01, 0, 0, 0x70, 0, 0, 0, 0, 0, 0, 0, 0x17, 0, 0, 0, 0x17, 0, 0, 0, 0x10].getD address 0
  scratchpad _ := 0
  translateAddress := some

/-- VU0 ends its program, and VIF0 goes on. -/
def vu0Ended : Vif0DmaConditions (Vif0State Bool) where
  vif s := { s with vu0 := false }.resumeVIF0AfterVu

/-- A chain, while VU0 is busy. -/
def slowStart (chcr : BitVec 32) : Vif0Run (Vif0State Bool) :=
  start { chcr, madr := 0#32, qwc := 0, tadr := 0#32, asr0 := 0#32, asr1 := 0#32 }
    { vu0 := true } [] chcr

/-- Without TTE the tag is not in the stream, and a payload that is resumed is alone there. -/
theorem accounted_slowStart :
    (run (advance slowTag (vif0Unit busyVu0)) (slowStart 0x104#32) [{}, {}, vu0Ended]).Accounted :=
  (accounting slowTag busyVu0 _ _ _ _ _).2.2 (by decide +kernel)

/-- With TTE, the second MSCNT is counted as a word of the payload, of which the parser has nothing
yet. -/
theorem not_accounted_of_slowTag :
    ¬(run (advance slowTag (vif0Unit busyVu0)) (slowStart 0x144#32)
      [{}, vu0Ended, vu0Ended]).Accounted := by
  intro h
  have hbytes := h.bytes
  revert hbytes
  decide +kernel

end Vif0Run

end Ps2Recomp
