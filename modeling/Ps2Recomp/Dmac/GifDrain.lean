import Ps2Recomp.Dmac.GifChannel

/-!
# Draining the GIF channel

`drainGifDmaCompatibility` advances the channel until the transfer has ended or is stalled, and at
most 131072 times. That is twice the number of tags that a chain may have, but a tag takes more than
two advances in intermittent mode, and the end of the transfer takes one of its own.

`transitions` counts the advances that a transfer needs from its tags: the slices of the payloads,
one more for the end, and one for data in the FIFO. The drain leaves a transfer settled exactly if
they are at most 131072 (`settled_iff`).
-/

namespace Ps2Recomp

inductive GifDmaStallReason where
  | None
  | DmacDisabled
  | GifPaused
  | Path3Masked
  | Fault
  deriving DecidableEq, Repr

structure GifDmaAdvanceResult where
  phase : SourceChainPhase
  stall : GifDmaStallReason := .None
  active : Bool := true
  progressed : Bool := false
  completed : Bool := false
  deriving DecidableEq, Repr

namespace GifDmaState

variable (memory : DmaMemory) (sink : GifSink) (conditions : GifDmaConditions)

/-! ## The drain -/

/-- The result that `advanceGifDma` returns. -/
def advanceResult (s : GifDmaState) : GifDmaAdvanceResult :=
  let fetched := (s.fetchTags memory (kMaximumChainTags + 1)).1
  let next := (s.advanceGifDma memory sink conditions).1
  if !s.active then { phase := s.phase, active := false }
  else if s.phase = .Fault then { phase := .Fault, stall := .Fault }
  else if !conditions.dmacEnabled then { phase := s.phase, stall := .DmacDisabled }
  else if conditions.gifPaused then { phase := s.phase, stall := .GifPaused }
  else if s.fifoData ≠ [] then
    if conditions.path3Masked then { phase := s.phase, stall := .Path3Masked }
    else { phase := s.phase, progressed := true }
  else if s.phase = .Finalize then
    { phase := .Finalize, active := false, progressed := true, completed := true }
  else if next.phase = .Fault then { phase := .Fault, stall := .Fault }
  else if fetched.phase = .Finalize then
    { phase := .Finalize, progressed := true }
  else if conditions.path3Masked then
    { phase := next.phase
      stall := .Path3Masked
      progressed := sliceQwc fetched.qwc conditions ≠ 0 }
  else { phase := next.phase, progressed := true }

/-- `drainGifDmaCompatibility` with the transitions that are left, and the last result. -/
def drainGifDma : ℕ → GifDmaAdvanceResult → GifDmaState → GifDmaAdvanceResult × GifDmaState
  | 0, last, s => (last, s)
  | transitions + 1, last, s =>
    if !s.active then (last, s)
    else
      let advance := s.advanceResult memory sink conditions
      let s := (s.advanceGifDma memory sink conditions).1
      if !advance.active || advance.completed || advance.phase = .Fault then (advance, s)
      else if advance.stall ≠ .None then (advance, s)
      else if !advance.progressed then (advance, s)
      else drainGifDma transitions advance s

def kMaximumTransitions : ℕ := 131072

def drainGifDmaCompatibility (s : GifDmaState) : GifDmaAdvanceResult × GifDmaState :=
  s.drainGifDma memory sink conditions kMaximumTransitions { phase := s.phase, active := s.active }

/-- The transfer has ended, has faulted, or is stalled for a reason that was reported. -/
def Settled (drained : GifDmaAdvanceResult × GifDmaState) : Prop :=
  drained.2.active = false ∨ drained.2.phase = .Fault ∨ drained.1.stall ≠ .None

/-! ## Counting -/

theorem sliceQwc_pos {qwc : ℕ} (h : qwc ≠ 0) : 0 < sliceQwc qwc conditions := by
  unfold sliceQwc
  split_ifs <;> omega

theorem sliceQwc_le (qwc : ℕ) : sliceQwc qwc conditions ≤ qwc := by
  unfold sliceQwc
  split_ifs <;> omega

/-- The advances for a payload, with those for what comes after it. While PATH3 is masked the first
one stalls, and where memory cannot be read one faults. -/
def payloadTransitions (madr : BitVec 32) (qwc : ℕ) (after : ℕ) : ℕ :=
  if h : qwc = 0 then after
  else
    let slice := sliceQwc qwc conditions
    if conditions.path3Masked || !(payloadChunks memory slice madr (slice * 16)).2 then 1
    else
      payloadTransitions (madr + BitVec.ofNat 32 (slice * 16) &&& 0x7FFFFFFF#32) (qwc - slice)
        after + 1
termination_by qwc
decreasing_by
  have hpos := sliceQwc_pos conditions h
  omega

/-- The advances from a tag on. Tags without a payload take none, but for the last one. -/
def chainTransitions : ℕ → GifDmaState → ℕ
  | 0, _ => 1
  | rounds + 1, s =>
    let next := (s.fetchTag memory).1
    if next.phase = .Fault then 1
    else if next.qwc = 0 then
      if next.endAfterPayload then 2 else chainTransitions rounds next
    else
      payloadTransitions memory conditions next.madr next.qwc
        (if next.endAfterPayload then 1 else chainTransitions rounds next)

/-- The advances after a payload. -/
def restTransitions (s : GifDmaState) : ℕ :=
  if s.endAfterPayload then 1
  else chainTransitions memory conditions (kMaximumChainTags + 1 - s.tagsProcessed) s

/-- The advances once the FIFO is empty. -/
def emptiedTransitions (s : GifDmaState) : ℕ :=
  match s.phase with
  | .FetchTag => chainTransitions memory conditions (kMaximumChainTags + 1 - s.tagsProcessed) s
  | .TransferPayload =>
    if s.qwc = 0 then 1
    else payloadTransitions memory conditions s.madr s.qwc (s.restTransitions memory conditions)
  | .Finalize | .Idle | .Fault => 1

/-- The advances that a transfer needs: a slice each, one for the end, and one for the FIFO. -/
def transitions (s : GifDmaState) : ℕ :=
  if s.fifoData = [] then s.emptiedTransitions memory conditions
  else if conditions.path3Masked then 1
  else s.emptiedTransitions memory conditions + 1

variable {memory sink conditions} {s t : GifDmaState}

/-! ## Tags do not look at the payload -/

/-- Where a transfer is in a payload, and what it holds. -/
structure Place where
  registers : DmacChannelRegisters
  phase : SourceChainPhase
  madr : BitVec 32
  qwc : ℕ
  fifoData : List UInt8
  directCallbackData : List UInt8

/-- The state `s`, at another place. -/
def moved (s : GifDmaState) (place : Place) : GifDmaState :=
  { s with
    registers := place.registers
    phase := place.phase
    madr := place.madr
    qwc := place.qwc
    fifoData := place.fifoData
    directCallbackData := place.directCallbackData }

theorem decodeTag_moved (place : Place) (tag : BitVec 64) :
    (s.moved place).decodeTag tag = (s.decodeTag tag).map fun p => (p.1.moved place, p.2) := by
  unfold decodeTag
  dsimp only [moved]
  split
  -- CALL and RET look at the stack.
  case h_6 =>
    by_cases h0 : s.asp = 0#2
    · simp [h0]
    · by_cases h1 : s.asp = 1#2
      · simp [h1]
      · simp [h0, h1]
  case h_7 =>
    by_cases h2 : s.asp = 2#2
    · simp [h2]
    · by_cases h1 : s.asp = 1#2
      · simp [h1]
      · simp [h2, h1]
  all_goals rfl

/-- A tag is read the same at any place, and writes over the place. -/
theorem fetchTag_moved (memory : DmaMemory) (s : GifDmaState) (place : Place) :
    (s.fetchTag memory).1.phase = .Fault ∧ ((s.moved place).fetchTag memory).1.phase = .Fault ∨
      ∃ place', ((s.moved place).fetchTag memory).1 = (s.fetchTag memory).1.moved place' ∧
        place'.phase = (s.fetchTag memory).1.phase ∧ place'.madr = (s.fetchTag memory).1.madr ∧
        place'.qwc = (s.fetchTag memory).1.qwc := by
  unfold fetchTag
  by_cases hlimit : kMaximumChainTags ≤ s.tagsProcessed
  · have hlimit' : kMaximumChainTags ≤ (s.moved place).tagsProcessed := hlimit
    rw [if_pos hlimit, if_pos hlimit']
    exact Or.inl ⟨rfl, rfl⟩
  have hlimit' : ¬kMaximumChainTags ≤ (s.moved place).tagsProcessed := hlimit
  rw [if_neg hlimit, if_neg hlimit']
  by_cases hseen : s.key ∈ s.visitedStates
  · have hseen' : (s.moved place).key ∈ (s.moved place).visitedStates := hseen
    rw [if_pos hseen, if_pos hseen']
    exact Or.inl ⟨rfl, rfl⟩
  have hseen' : (s.moved place).key ∉ (s.moved place).visitedStates := hseen
  rw [if_neg hseen, if_neg hseen']
  cases htag : memory.tagAt s.tadr with
  | none =>
    have htag' : memory.tagAt (s.moved place).tadr = none := htag
    simp only [htag, htag']
    exact Or.inl ⟨rfl, rfl⟩
  | some found =>
    obtain ⟨tag, upper⟩ := found
    have htag' : memory.tagAt (s.moved place).tadr = some (tag, upper) := htag
    simp only [htag, htag']
    have hread : ({ s.moved place with
        visitedStates := (s.moved place).key :: (s.moved place).visitedStates } :
          GifDmaState).readTag tag =
        (({ s with visitedStates := s.key :: s.visitedStates } : GifDmaState).readTag
          tag).moved place := rfl
    rw [hread, decodeTag_moved]
    cases hdecode : (({ s with visitedStates := s.key :: s.visitedStates } :
        GifDmaState).readTag tag).decodeTag tag with
    | none => exact Or.inl ⟨rfl, rfl⟩
    | some result => exact Or.inr ⟨⟨_, _, _, _, _, _⟩, rfl, rfl, rfl, rfl⟩

theorem chainTransitions_moved (memory : DmaMemory) (conditions : GifDmaConditions) (rounds : ℕ)
    (s : GifDmaState) (place : Place) :
    chainTransitions memory conditions rounds (s.moved place) =
      chainTransitions memory conditions rounds s := by
  induction rounds generalizing s place with
  | zero => rfl
  | succ rounds ih =>
    unfold chainTransitions
    dsimp only
    rcases fetchTag_moved memory s place with ⟨hfault, hfault'⟩ | ⟨place', hnext, hphase, hmadr, hqwc⟩
    · rw [if_pos hfault, if_pos hfault']
    · rw [hnext, ih]
      change (if place'.phase = .Fault then 1 else if place'.qwc = 0 then _ else
        payloadTransitions memory conditions place'.madr place'.qwc _) = _
      rw [hphase, hmadr, hqwc]
      rfl

/-! ## One advance -/

/-- What a tag leaves where the channel goes on. -/
theorem fetchTag_spec (h : (s.fetchTag memory).1 = t) : t.phase = .Fault ∨
    s.tagsProcessed < kMaximumChainTags ∧ t.tagsProcessed = s.tagsProcessed + 1 ∧
      t.fifoData = s.fifoData ∧
      t.phase =
        if t.qwc ≠ 0 then .TransferPayload else if t.endAfterPayload then .Finalize else .FetchTag := by
  unfold fetchTag at h
  split at h
  · subst h
    exact Or.inl rfl
  · rename_i hlimit
    split at h
    · subst h
      exact Or.inl rfl
    · dsimp only at h
      split at h
      · subst h
        exact Or.inl rfl
      · split at h
        · subst h
          exact Or.inl rfl
        · rename_i next dataAddress hdecode
          have heq := decodeTag_eq hdecode
          subst h
          refine Or.inr ⟨Nat.not_le.1 hlimit, ?_, ?_, rfl⟩
          · change next.tagsProcessed = _
            rw [heq]
            rfl
          · change next.fifoData = _
            rw [heq]
            rfl

theorem fetchTags_stop (memory : DmaMemory) (rounds : ℕ) (h : s.phase ≠ .FetchTag) :
    s.fetchTags memory rounds = (s, []) := by
  cases rounds with
  | zero => rfl
  | succ rounds => rw [fetchTags, if_pos h]

/-- Where the loop over the tags ends. -/
theorem fetchTags_spec (memory : DmaMemory) (conditions : GifDmaConditions) {rounds : ℕ}
    (hphase : s.phase = .FetchTag) (hrounds : kMaximumChainTags + 1 ≤ s.tagsProcessed + rounds)
    (hpos : rounds ≠ 0) (h : (s.fetchTags memory rounds).1 = t) :
    t.phase = .Fault ∧
        chainTransitions memory conditions (kMaximumChainTags + 1 - s.tagsProcessed) s = 1 ∨
      t.fifoData = s.fifoData ∧
        (t.phase = .Finalize ∧
            chainTransitions memory conditions (kMaximumChainTags + 1 - s.tagsProcessed) s = 2 ∨
          t.phase = .TransferPayload ∧ t.qwc ≠ 0 ∧
            chainTransitions memory conditions (kMaximumChainTags + 1 - s.tagsProcessed) s =
              payloadTransitions memory conditions t.madr t.qwc
                (t.restTransitions memory conditions)) := by
  induction rounds generalizing s with
  | zero => exact absurd rfl hpos
  | succ rounds ih =>
    rw [fetchTags, if_neg (not_not.2 hphase)] at h
    change (fetchTags memory rounds (s.fetchTag memory).1).1 = t at h
    obtain ⟨next, hnext⟩ : ∃ next, (s.fetchTag memory).1 = next := ⟨_, rfl⟩
    rw [hnext] at h
    rcases fetchTag_spec hnext with hfault | ⟨hlt, htags, hfifo, hnextPhase⟩
    · rw [fetchTags_fault hfault] at h
      subst h
      refine Or.inl ⟨hfault, ?_⟩
      cases kMaximumChainTags + 1 - s.tagsProcessed with
      | zero => rfl
      | succ left =>
        rw [chainTransitions, hnext]
        exact if_pos hfault
    · have hcount : kMaximumChainTags + 1 - s.tagsProcessed =
        kMaximumChainTags - s.tagsProcessed + 1 := by omega
      rw [hcount, chainTransitions, hnext]
      have hleft : kMaximumChainTags - s.tagsProcessed =
          kMaximumChainTags + 1 - next.tagsProcessed := by omega
      by_cases hqwc : next.qwc = 0
      · rw [if_neg (not_not.2 hqwc)] at hnextPhase
        by_cases hend : next.endAfterPayload = true
        · rw [if_pos hend] at hnextPhase
          rw [fetchTags_stop memory rounds (by rw [hnextPhase]; decide)] at h
          subst h
          rw [if_neg (by rw [hnextPhase]; decide), if_pos hqwc, if_pos hend]
          exact Or.inr ⟨hfifo, Or.inl ⟨hnextPhase, rfl⟩⟩
        · rw [if_neg hend] at hnextPhase
          rw [if_neg (by rw [hnextPhase]; decide), if_pos hqwc, if_neg hend, hleft, ← hfifo]
          exact ih hnextPhase (by omega) (by omega) h
      · rw [if_pos hqwc] at hnextPhase
        rw [fetchTags_stop memory rounds (by rw [hnextPhase]; decide)] at h
        subst h
        rw [if_neg (by rw [hnextPhase]; decide), if_neg hqwc, hleft]
        exact Or.inr ⟨hfifo, Or.inr ⟨hnextPhase, hqwc, rfl⟩⟩

theorem restTransitions_moved (memory : DmaMemory) (conditions : GifDmaConditions)
    (s : GifDmaState) (place : Place) :
    (s.moved place).restTransitions memory conditions = s.restTransitions memory conditions := by
  unfold restTransitions
  rw [chainTransitions_moved]
  rfl

theorem emptiedTransitions_moved (memory : DmaMemory) (conditions : GifDmaConditions)
    {place : Place} (hphase : place.phase = s.phase) (hmadr : place.madr = s.madr)
    (hqwc : place.qwc = s.qwc) :
    (s.moved place).emptiedTransitions memory conditions =
      s.emptiedTransitions memory conditions := by
  unfold emptiedTransitions
  rw [restTransitions_moved, chainTransitions_moved]
  change (match place.phase with
    | .FetchTag => _
    | .TransferPayload => if place.qwc = 0 then 1
      else payloadTransitions memory conditions place.madr place.qwc _
    | .Finalize | .Idle | .Fault => 1) = _
  rw [hphase, hmadr, hqwc]
  rfl

theorem payloadTransitions_zero (madr : BitVec 32) (after : ℕ) :
    payloadTransitions memory conditions madr 0 after = after := by
  rw [payloadTransitions, dif_pos rfl]

/-- Where the slice is all that was left, the rest is to come. -/
theorem transitions_paid (hfifo : t.fifoData = []) (hphase : t.phase =
      if t.qwc ≠ 0 then .TransferPayload else if t.endAfterPayload then .Finalize else .FetchTag) :
    transitions memory conditions t =
      payloadTransitions memory conditions t.madr t.qwc (t.restTransitions memory conditions) := by
  unfold transitions emptiedTransitions
  rw [hphase, if_pos hfifo]
  by_cases hqwc : t.qwc = 0
  · rw [if_neg (not_not.2 hqwc), hqwc, payloadTransitions_zero]
    unfold restTransitions
    by_cases hend : t.endAfterPayload = true
    · rw [if_pos hend, if_pos hend]
    · rw [if_neg hend, if_neg hend]
  · rw [if_pos hqwc]
    exact if_neg hqwc

/-- A slice of a payload: the advance faults or stalls, or one advance less is to come. -/
theorem transferPayload_spec (memory : DmaMemory) (sink : GifSink) (conditions : GifDmaConditions)
    (hphase : s.phase = .TransferPayload) (hfifo : s.fifoData = [])
    (h : (s.transferPayload memory sink conditions).1 = t) :
    let count := if s.qwc = 0 then 1
      else payloadTransitions memory conditions s.madr s.qwc (s.restTransitions memory conditions)
    count = 1 ∧ (t.phase = .Fault ∨ conditions.path3Masked = true) ∨
      conditions.path3Masked = false ∧ t.active = s.active ∧ t.phase ≠ .Fault ∧
        count = transitions memory conditions t + 1 := by
  intro count
  by_cases hqwc : s.qwc = 0
  · refine Or.inl ⟨if_pos hqwc, ?_⟩
    have hslice : sliceQwc s.qwc conditions = 0 := by
      have hle := sliceQwc_le conditions s.qwc
      omega
    unfold transferPayload at h
    rw [if_pos hslice] at h
    cases hmasked : conditions.path3Masked with
    | false =>
      rw [hmasked] at h
      subst h
      exact Or.inl rfl
    | true => exact Or.inr rfl
  have hcount : count = payloadTransitions memory conditions s.madr s.qwc
    (s.restTransitions memory conditions) := if_neg hqwc
  have hslice := (sliceQwc_pos conditions hqwc).ne'
  have hcopied : (s.copyGifDmaPayload memory sink (sliceQwc s.qwc conditions)
      conditions.path3Masked).1 = (payloadChunks memory (sliceQwc s.qwc conditions) s.madr
        (sliceQwc s.qwc conditions * 16)).2 := by
    unfold copyGifDmaPayload
    dsimp only
    split_ifs <;> rfl
  have hkept : conditions.path3Masked = false → (s.copyGifDmaPayload memory sink
      (sliceQwc s.qwc conditions) conditions.path3Masked).2.1.fifoData = s.fifoData := by
    intro hunmasked
    rw [hunmasked]
    unfold copyGifDmaPayload
    dsimp only
    rw [if_neg (by decide)]
    split <;> rfl
  have heq := copyGifDmaPayload_eq memory sink s (sliceQwc s.qwc conditions) conditions.path3Masked
  unfold transferPayload at h
  rw [if_neg hslice] at h
  rw [payloadTransitions, dif_neg hqwc] at hcount
  dsimp only at hcount
  rw [← hcopied] at hcount
  revert h hkept heq hcount
  generalize s.copyGifDmaPayload memory sink (sliceQwc s.qwc conditions)
    conditions.path3Masked = copy
  obtain ⟨copied, s', events⟩ := copy
  intro h hcount hkept heq
  dsimp only at h hcount hkept heq
  generalize s'.fifoData = fifoData at hkept heq
  generalize s'.directCallbackData = directCallbackData at heq
  subst heq
  cases hmasked : conditions.path3Masked with
  | true =>
    rw [hmasked, Bool.true_or, if_pos rfl] at hcount
    exact Or.inl ⟨hcount, Or.inr rfl⟩
  | false =>
    cases copied with
    | false =>
      subst h
      rw [hmasked, if_pos (by decide)] at hcount
      exact Or.inl ⟨hcount, Or.inl rfl⟩
    | true =>
      rw [hmasked, if_neg (by decide)] at hcount
      have hmoved : t = s.moved ⟨t.registers, t.phase, t.madr, t.qwc, t.fifoData,
          t.directCallbackData⟩ := by
        subst h
        rfl
      have hnext : t.phase = if t.qwc ≠ 0 then .TransferPayload
          else if t.endAfterPayload then .Finalize else .FetchTag := by
        subst h
        change (if s.qwc - sliceQwc s.qwc conditions ≠ 0 then s.phase else _) = _
        rw [hphase]
        rfl
      have hempty : t.fifoData = [] := by
        subst h
        exact (hkept hmasked).trans hfifo
      have hrest : t.restTransitions memory conditions = s.restTransitions memory conditions := by
        rw [hmoved]
        exact restTransitions_moved memory conditions s _
      refine Or.inr ⟨rfl, ?_, ?_, ?_⟩
      · rw [hmoved]
        rfl
      · rw [hnext]
        split_ifs <;> decide
      · rw [transitions_paid hempty hnext, hrest, hcount]
        subst h
        rfl

/-- What the loop over the tags makes of the count. -/
theorem fetched_spec (memory : DmaMemory) (conditions : GifDmaConditions)
    (hfault : s.phase ≠ .Fault) (hfinal : s.phase ≠ .Finalize)
    (h : (s.fetchTags memory (kMaximumChainTags + 1)).1 = t) :
    (t.phase = .Fault ∨ t.phase = .Idle) ∧ s.emptiedTransitions memory conditions = 1 ∨
      t.fifoData = s.fifoData ∧
        (t.phase = .Finalize ∧ s.emptiedTransitions memory conditions = 2 ∨
          t.phase = .TransferPayload ∧
            s.emptiedTransitions memory conditions =
              if t.qwc = 0 then 1
              else payloadTransitions memory conditions t.madr t.qwc
                (t.restTransitions memory conditions)) := by
  unfold emptiedTransitions
  cases hphase : s.phase with
  | Fault => exact absurd hphase hfault
  | Finalize => exact absurd hphase hfinal
  | Idle =>
    rw [fetchTags_stop memory _ (by rw [hphase]; decide)] at h
    subst h
    exact Or.inl ⟨Or.inr hphase, rfl⟩
  | TransferPayload =>
    rw [fetchTags_stop memory _ (by rw [hphase]; decide)] at h
    subst h
    exact Or.inr ⟨rfl, Or.inr ⟨hphase, rfl⟩⟩
  | FetchTag =>
    rcases fetchTags_spec memory conditions hphase (Nat.le_add_left _ _) (Nat.succ_ne_zero _) h with
      ⟨hfaulted, hcount⟩ | ⟨hfifo, ⟨hend, hcount⟩ | ⟨hpayload, hqwc, hcount⟩⟩
    · exact Or.inl ⟨Or.inl hfaulted, hcount⟩
    · exact Or.inr ⟨hfifo, Or.inl ⟨hend, hcount⟩⟩
    · refine Or.inr ⟨hfifo, Or.inr ⟨hpayload, ?_⟩⟩
      rw [if_neg hqwc]
      exact hcount

/-- An advance after which the drain goes on. -/
def Goes (advance : GifDmaAdvanceResult) : Prop :=
  advance.active = true ∧ advance.completed = false ∧ advance.phase ≠ .Fault ∧
    advance.stall = .None ∧ advance.progressed = true

/-- **One advance**: the last one settles the transfer, any other leaves one less to come. -/
theorem advanceGifDma_spec (memory : DmaMemory) (sink : GifSink) (hactive : s.active = true) (hphase : s.phase ≠ .Fault)
    (henabled : conditions.dmacEnabled = true) (hpaused : conditions.gifPaused = false) :
    let advance := s.advanceResult memory sink conditions
    let next := (s.advanceGifDma memory sink conditions).1
    transitions memory conditions s = 1 ∧ Settled (advance, next) ∧ ¬Goes advance ∨
      Goes advance ∧ next.active = true ∧ next.phase ≠ .Fault ∧
        transitions memory conditions s = transitions memory conditions next + 1 := by
  intro advance next
  have hadvance : advance = s.advanceResult memory sink conditions := rfl
  have hnext : next = (s.advanceGifDma memory sink conditions).1 := rfl
  unfold advanceResult at hadvance
  unfold advanceGifDma at hnext
  have hrunning : (!s.active || s.phase == .Fault) = false := by simp [hactive, hphase]
  have hstarted : (!conditions.dmacEnabled || conditions.gifPaused) = false := by
    rw [henabled, hpaused]
    rfl
  rw [hactive, if_neg (by decide), if_neg hphase, henabled, hpaused, if_neg (by decide),
    if_neg (by decide)] at hadvance
  rw [hrunning, if_neg (by decide), hstarted, if_neg (by decide)] at hnext
  by_cases hfifo : s.fifoData = []
  · rw [if_neg (not_not.2 hfifo)] at hadvance hnext
    by_cases hfinal : s.phase = .Finalize
    · -- the end
      rw [if_pos hfinal] at hadvance hnext
      have hinactive : next.active = false := by
        rw [hnext]
        split <;> rfl
      refine Or.inl ⟨?_, Or.inl hinactive, ?_⟩
      · unfold transitions emptiedTransitions
        rw [if_pos hfifo, hfinal]
      · rw [hadvance]
        rintro ⟨h, -⟩
        cases h
    · rw [if_neg hfinal] at hadvance hnext
      have htransitions : transitions memory conditions s = emptiedTransitions memory conditions s :=
        if_pos hfifo
      rw [htransitions]
      obtain ⟨fetched, hfetched⟩ : ∃ fetched,
        s.fetchTags memory (kMaximumChainTags + 1) = fetched := ⟨_, rfl⟩
      obtain ⟨t, events⟩ := fetched
      have hloop : (s.fetchTags memory (kMaximumChainTags + 1)).1 = t := by rw [hfetched]
      rw [hfetched] at hadvance hnext
      dsimp only at hadvance hnext
      have hlive : t.active = true := by
        rw [← hloop, fetchTags_active, hactive]
      have hsame : (s.advanceGifDma memory sink conditions).1 = next := rfl
      rw [hsame] at hadvance
      rcases fetched_spec memory conditions hphase hfinal hloop with
        ⟨hbad, hcount⟩ | ⟨hempty, ⟨hend, hcount⟩ | ⟨hpayload, hcount⟩⟩
      · have hfault : next.phase = .Fault := by
          rw [hnext]
          rcases hbad with hbad | hbad
          · rw [hbad]
            exact hbad
          · rw [hbad]
            rfl
        rw [if_pos hfault] at hadvance
        refine Or.inl ⟨hcount, Or.inr (Or.inl hfault), ?_⟩
        rw [hadvance]
        rintro ⟨-, -, h, -⟩
        exact h rfl
      · -- the last tag has no payload
        have hnext' : next = t := by
          rw [hnext, hend]
        have hnotFault : next.phase ≠ .Fault := by
          rw [hnext', hend]
          decide
        rw [if_neg hnotFault, if_pos hend] at hadvance
        refine Or.inr ⟨?_, ?_, hnotFault, ?_⟩
        · rw [hadvance]
          exact ⟨rfl, rfl, SourceChainPhase.noConfusion, rfl, rfl⟩
        · rw [hnext', hlive]
        · rw [hcount, hnext']
          unfold transitions emptiedTransitions
          rw [if_pos (hempty.trans hfifo), hend]
      · have hnext' : (t.transferPayload memory sink conditions).1 = next := by
          rw [hnext, hpayload]
        have hnotFinal : t.phase ≠ .Finalize := by
          rw [hpayload]
          decide
        rw [if_neg hnotFinal] at hadvance
        rcases transferPayload_spec memory sink conditions hpayload (hempty.trans hfifo) hnext' with
          ⟨hone, hbad⟩ | ⟨hmasked, hactive', hnotFault, hmore⟩
        · refine Or.inl ⟨hcount.trans hone, ?_⟩
          by_cases hfault : next.phase = .Fault
          · rw [if_pos hfault] at hadvance
            refine ⟨Or.inr (Or.inl hfault), ?_⟩
            rw [hadvance]
            rintro ⟨-, -, h, -⟩
            exact h rfl
          · have hmasked := hbad.resolve_left hfault
            rw [if_neg hfault, if_pos hmasked] at hadvance
            refine ⟨Or.inr (Or.inr ?_), ?_⟩
            · rw [hadvance]
              exact GifDmaStallReason.noConfusion
            · rw [hadvance]
              rintro ⟨-, -, -, h, -⟩
              cases h
        · rw [if_neg hnotFault, hmasked, if_neg (by decide)] at hadvance
          refine Or.inr ⟨?_, hactive'.trans hlive, hnotFault, hcount.trans hmore⟩
          rw [hadvance]
          exact ⟨rfl, rfl, hnotFault, rfl, rfl⟩
  · -- the FIFO
    rw [if_pos hfifo] at hadvance hnext
    unfold transitions
    rw [if_neg hfifo]
    cases hmasked : conditions.path3Masked with
    | true =>
      rw [hmasked, if_pos rfl] at hadvance
      refine Or.inl ⟨rfl, Or.inr (Or.inr ?_), ?_⟩
      · rw [hadvance]
        exact GifDmaStallReason.noConfusion
      · rw [hadvance]
        rintro ⟨-, -, -, h, -⟩
        cases h
    | false =>
      rw [hmasked, if_neg (by decide)] at hadvance hnext
      obtain ⟨place, hmoved, hplace⟩ : ∃ place, next = s.moved place ∧ place.phase = s.phase ∧
          place.madr = s.madr ∧ place.qwc = s.qwc ∧ place.fifoData = [] := by
        rw [hnext]
        split
        · exact ⟨⟨_, _, _, _, _, _⟩, rfl, rfl, rfl, rfl, rfl⟩
        · exact ⟨⟨_, _, _, _, _, _⟩, rfl, rfl, rfl, rfl, rfl⟩
      obtain ⟨hplacePhase, hmadr, hqwc, hempty⟩ := hplace
      refine Or.inr ⟨?_, ?_, ?_, ?_⟩
      · rw [hadvance]
        exact ⟨rfl, rfl, hphase, rfl, rfl⟩
      · rw [hmoved]
        exact hactive
      · rw [hmoved]
        exact fun h => hphase (hplacePhase.symm.trans h)
      · rw [hmoved, emptiedTransitions_moved memory conditions hplacePhase hmadr hqwc]
        rw [if_neg (by decide), if_pos]
        exact hempty

/-- **The drain settles a transfer exactly if it may make the advances that the transfer needs.** -/
theorem settled_drainGifDma_iff (memory : DmaMemory) (sink : GifSink) (hactive : s.active = true)
    (hphase : s.phase ≠ .Fault) (henabled : conditions.dmacEnabled = true)
    (hpaused : conditions.gifPaused = false) (limit : ℕ) (last : GifDmaAdvanceResult)
    (hlast : last.stall = .None) :
    Settled (s.drainGifDma memory sink conditions limit last) ↔
      transitions memory conditions s ≤ limit := by
  induction limit generalizing s last with
  | zero =>
    have hpos : transitions memory conditions s ≠ 0 := by
      rcases advanceGifDma_spec memory sink hactive hphase henabled hpaused with h | h <;> omega
    constructor
    · rintro (h | h | h)
      · exact absurd (hactive.symm.trans h) (by decide)
      · exact absurd h hphase
      · exact absurd hlast h
    · intro h
      omega
  | succ limit ih =>
    unfold drainGifDma
    rw [hactive, if_neg (by decide)]
    dsimp only
    rcases advanceGifDma_spec memory sink hactive hphase henabled hpaused with
      ⟨hone, hsettled, hstops⟩ | ⟨⟨hlive, hmore, hok, hstall, hprogressed⟩, hactive', hphase', hcount⟩
    · rw [hone]
      refine iff_of_true ?_ (Nat.le_add_left 1 limit)
      split
      · exact hsettled
      · rename_i hgoing
        split
        · exact hsettled
        · rename_i hstall
          split
          · exact hsettled
          · rename_i hprogressed
            simp only [Bool.or_eq_true, Bool.not_eq_true', decide_eq_true_eq, not_or,
              Bool.not_eq_false, Bool.not_eq_true] at hgoing hprogressed
            exact absurd ⟨hgoing.1.1, hgoing.1.2, hgoing.2, not_not.1 hstall, hprogressed⟩ hstops
    · rw [hlive, hmore, if_neg (by simp [hok]), if_neg (not_not.2 hstall), hprogressed,
        if_neg (by decide), ih hactive' hphase' _ hstall, hcount]
      omega

theorem settled_of_inactive (memory : DmaMemory) (sink : GifSink) (conditions : GifDmaConditions)
    (h : s.active = false) : Settled (s.drainGifDmaCompatibility memory sink conditions) := by
  unfold drainGifDmaCompatibility kMaximumTransitions drainGifDma
  rw [h]
  exact Or.inl h

/-- A first advance that stalls or faults is the last one. -/
theorem settled_of_stall (memory : DmaMemory) (sink : GifSink) (conditions : GifDmaConditions)
    (hactive : s.active = true)
    (hstall : (s.advanceResult memory sink conditions).stall ≠ .None) :
    Settled (s.drainGifDmaCompatibility memory sink conditions) := by
  unfold drainGifDmaCompatibility kMaximumTransitions drainGifDma
  rw [hactive, if_neg (by decide)]
  dsimp only
  rw [if_pos hstall, ite_self]
  exact Or.inr (Or.inr hstall)

/-- 65535 REF tags from address 0 on and an END tag, each with 9 quadwords. -/
def fullChain : DmaMemory where
  rdram a :=
    if a % 16 = 0 then 9
    else if a % 16 = 3 then if a / 16 = 65535 then 0x70 else 0x30
    else 0
  scratchpad _ := 0
  translateAddress := some

theorem isScratchpad_low {address : BitVec 32} (h : address.toNat < 0x70000000) :
    isScratchpad address = false := by
  have hbit : address &&& 0x80000000#32 = 0#32 := by
    apply BitVec.eq_of_getLsbD_eq
    intro i hi
    have hmask : 0x80000000#32 = BitVec.twoPow 32 31 := by decide
    have htop : address.getLsbD 31 = false := Nat.testBit_lt_two_pow (by omega)
    rw [hmask, BitVec.getLsbD_and, BitVec.getLsbD_twoPow, BitVec.getLsbD_zero]
    by_cases h31 : 31 = i
    · subst h31
      rw [htop, Bool.false_and]
    · simp [h31]
  have hlow : ¬address ≥ 0x70000000#32 := by
    rw [ge_iff_le, BitVec.le_def]
    exact Nat.not_le.2 h
  unfold isScratchpad
  rw [hbit]
  simp [hlow]

theorem and_low {x : ℕ} (h : x < 0x80000000) : BitVec.ofNat 32 x &&& 0x7FFFFFFF#32 = BitVec.ofNat 32 x := by
  apply BitVec.eq_of_toNat_eq
  rw [BitVec.toNat_and, BitVec.toNat_ofNat, Nat.mod_eq_of_lt (by omega)]
  exact (Nat.and_two_pow_sub_one_eq_mod x 31).trans (Nat.mod_eq_of_lt h)

theorem tagAt_fullChain {k : ℕ} (hk : k < 65536) :
    fullChain.tagAt (BitVec.ofNat 32 (16 * k)) =
      some (if k = 65535 then 0x70000009#64 else 0x30000009#64, List.replicate 8 0) := by
  have hoffset : (BitVec.ofNat 32 (16 * k)).toNat = 16 * k := by
    rw [BitVec.toNat_ofNat]
    omega
  have hbyte : ∀ i, i < 16 → fullChain.base false (16 * k + i) =
      if i = 0 then 9 else if i = 3 then if k = 65535 then 0x70 else 0x30 else 0 := by
    intro i hi
    change (if (16 * k + i) % 16 = 0 then (9 : UInt8) else if (16 * k + i) % 16 = 3 then
      if (16 * k + i) / 16 = 65535 then 0x70 else 0x30 else 0) = _
    rw [show (16 * k + i) % 16 = i by omega, show (16 * k + i) / 16 = k by omega]
  have hread : fullChain.read false (16 * k) 8 =
      [9, 0, 0, if k = 65535 then 0x70 else 0x30, 0, 0, 0, 0] := by
    change (List.range 8).map (fun i => fullChain.base false (16 * k + i)) = _
    have hrange : List.range 8 = [0, 1, 2, 3, 4, 5, 6, 7] := by decide
    rw [hrange]
    simp (disch := decide) only [List.map_cons, List.map_nil, hbyte]
    rfl
  have hupper : fullChain.read false (16 * k + 8) 8 = List.replicate 8 0 := by
    change (List.range 8).map (fun i => fullChain.base false (16 * k + 8 + i)) = _
    have hrange : List.range 8 = [0, 1, 2, 3, 4, 5, 6, 7] := by decide
    rw [hrange]
    simp [Nat.add_assoc, hbyte]
  unfold DmaMemory.tagAt
  rw [isScratchpad_low (by omega)]
  change (if DmaMemory.limit false < (BitVec.ofNat 32 (16 * k)).toNat + 16 then none else
    some (fullChain.loadTag false (BitVec.ofNat 32 (16 * k)).toNat,
      fullChain.read false ((BitVec.ofNat 32 (16 * k)).toNat + 8) 8)) = _
  have hlimit : DmaMemory.limit false = 32 * 1024 * 1024 := rfl
  rw [hoffset, if_neg (by omega), hupper]
  unfold DmaMemory.loadTag
  rw [hread]
  split <;> rfl

/-- Before tag `k`. -/
structure BeforeTag (k : ℕ) (s : GifDmaState) : Prop where
  tags : s.tagsProcessed = k
  tadr : s.tadr = BitVec.ofNat 32 (16 * k)
  tie : s.tie = false
  visited : ∀ key ∈ s.visitedStates, key.tadr.toNat < 16 * k

theorem BeforeTag.fetchTag {k : ℕ} (h : BeforeTag k s) (hk : k < 65536)
    (hnext : (s.fetchTag fullChain).1 = t) :
    t.phase = .TransferPayload ∧ t.qwc = 9 ∧ t.endAfterPayload = decide (k = 65535) ∧
      (t.madr = 0#32 ∨ t.madr = 0x100000#32) ∧ (k < 65535 → BeforeTag (k + 1) t) := by
  have htadr : s.tadr.toNat = 16 * k := by
    rw [h.tadr, BitVec.toNat_ofNat]
    omega
  have hseen : s.key ∉ s.visitedStates := by
    intro hmem
    have hlt := h.visited _ hmem
    exact absurd htadr hlt.ne
  have hadvanced : s.tadr + 16#32 &&& 0x7FFFFFFF#32 = BitVec.ofNat 32 (16 * (k + 1)) := by
    rw [h.tadr, ← and_low (show 16 * (k + 1) < 0x80000000 by omega)]
    congr 1
    apply BitVec.eq_of_toNat_eq
    rw [BitVec.toNat_add, BitVec.toNat_ofNat, BitVec.toNat_ofNat, BitVec.toNat_ofNat]
    omega
  have htag := tagAt_fullChain hk
  rw [← h.tadr] at htag
  unfold GifDmaState.fetchTag at hnext
  rw [if_neg (by rw [h.tags]; unfold kMaximumChainTags; omega), if_neg hseen] at hnext
  dsimp only at hnext
  rw [htag] at hnext
  by_cases hlast : k = 65535
  · rw [if_pos hlast] at hnext
    subst hlast
    subst hnext
    refine ⟨rfl, rfl, rfl, Or.inr hadvanced, fun hlt => absurd hlt (by decide)⟩
  · rw [if_neg hlast] at hnext
    subst hnext
    refine ⟨rfl, rfl, ?_, Or.inl rfl, fun _ => ?_⟩
    · rw [decide_eq_false hlast]
      change (false || (s.tie && _)) = false
      rw [h.tie]
      rfl
    · exact
        { tags := congrArg (· + 1) h.tags
          tadr := hadvanced
          tie := h.tie
          visited := by
            intro key hkey
            rcases List.mem_cons.1 hkey with rfl | hkey
            · change s.tadr.toNat < _
              omega
            · have hlt := h.visited key hkey
              omega }

theorem payloadTransitions_nine {madr : BitVec 32} (h : madr = 0#32 ∨ madr = 0x100000#32)
    (after : ℕ) : payloadTransitions fullChain {} madr 9 after = after + 2 := by
  have hfirst : (payloadChunks fullChain 1 madr 16).2 = true := by
    rcases h with rfl | rfl <;> decide +kernel
  have hsecond : (payloadChunks fullChain 8 (madr + 16#32 &&& 0x7FFFFFFF#32) 128).2 = true := by
    rcases h with rfl | rfl <;> decide +kernel
  rw [payloadTransitions, dif_neg (by decide)]
  change (if (false || !(payloadChunks fullChain 1 madr 16).2) = true then 1
    else payloadTransitions fullChain {} (madr + 16#32 &&& 0x7FFFFFFF#32) 8 after + 1) = _
  rw [hfirst, if_neg (by decide), payloadTransitions, dif_neg (by decide)]
  change (if (false || !(payloadChunks fullChain 8 (madr + 16#32 &&& 0x7FFFFFFF#32) 128).2) = true
    then 1 else payloadTransitions fullChain {} _ 0 after + 1) + 1 = _
  rw [hsecond, if_neg (by decide), payloadTransitions_zero]

theorem BeforeTag.chainTransitions {k left : ℕ} (h : BeforeTag k s) (hleft : k + left = 65535) :
    chainTransitions fullChain {} (left + 2) s = 2 * left + 3 := by
  induction left generalizing k s with
  | zero =>
    obtain ⟨hphase, hqwc, hend, hmadr, -⟩ := h.fetchTag (by omega) rfl
    rw [GifDmaState.chainTransitions, if_neg (by rw [hphase]; decide), if_neg (by rw [hqwc]; decide), hqwc,
      payloadTransitions_nine hmadr, hend, if_pos (decide_eq_true (show k = 65535 from hleft))]
  | succ left ih =>
    obtain ⟨hphase, hqwc, hend, hmadr, hnext⟩ := h.fetchTag (by omega) rfl
    rw [GifDmaState.chainTransitions, if_neg (by rw [hphase]; decide), if_neg (by rw [hqwc]; decide), hqwc,
      payloadTransitions_nine hmadr, hend,
      if_neg (by rw [decide_eq_true_iff]; omega), ih (hnext (by omega)) (by omega)]
    omega

theorem BeforeTag.transitions (h : BeforeTag 0 s) (hphase : s.phase = .FetchTag)
    (hfifo : s.fifoData = []) : transitions fullChain {} s = 131073 := by
  have hrounds : kMaximumChainTags + 1 - 0 = 65535 + 2 := by decide
  unfold GifDmaState.transitions emptiedTransitions
  rw [if_pos hfifo, hphase]
  dsimp only
  rw [h.tags, hrounds, h.chainTransitions (show 0 + 65535 = 65535 by decide)]

end GifDmaState

end Ps2Recomp
