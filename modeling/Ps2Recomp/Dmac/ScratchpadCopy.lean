import Ps2Recomp.Dmac.ScratchpadChannel

/-!
# A scratchpad transfer is a plain copy

`Plain` runs a transfer without slices: a tag, the whole of its payload by `plainCopy`, the next
tag. `plainCopy` copies quadword by quadword, between `madr + 16 i` and `sadr + 16 i` in the
scratchpad, for `i` from 0 on, so a later one finds what an earlier one has written.

An advance never leaves the path of `Plain` (`advance_spec`), so wherever the slices are cut, a
transfer that ends has done what `Plain` does (`advance_plain`), and it ends unless it faults.
-/

namespace Ps2Recomp

/-- Masking an address before an offset is added changes nothing. -/
theorem masked_add (x y : BitVec 32) (k : ℕ) (hk : k ≤ 32) :
    (x &&& BitVec.ofNat 32 (2 ^ k - 1)) + y &&& BitVec.ofNat 32 (2 ^ k - 1) =
      x + y &&& BitVec.ofNat 32 (2 ^ k - 1) := by
  have hmask : (BitVec.ofNat 32 (2 ^ k - 1)).toNat = 2 ^ k - 1 := by
    have hpow : 2 ^ k ≤ 2 ^ 32 := Nat.pow_le_pow_right (by decide) hk
    have hpos : 0 < 2 ^ k := Nat.two_pow_pos k
    rw [BitVec.toNat_ofNat, Nat.mod_eq_of_lt (by omega)]
  have hdvd : 2 ^ k ∣ 2 ^ 32 := Nat.pow_dvd_pow 2 hk
  apply BitVec.eq_of_toNat_eq
  simp only [BitVec.toNat_and, BitVec.toNat_add, hmask, Nat.and_two_pow_sub_one_eq_mod,
    Nat.mod_mod_of_dvd _ hdvd, Nat.mod_add_mod]

/-! ## Addresses -/

/-- Where MADR stands after `count` quadwords. -/
def madrAfter (madr : BitVec 32) (count : ℕ) : BitVec 32 :=
  madr + BitVec.ofNat 32 (16 * count) &&& 0x7FFFFFFF#32

/-- Where SADR stands after `count` quadwords: it wraps at 16 KiB. -/
def sadrAfter (sadr : BitVec 32) (count : ℕ) : BitVec 32 :=
  sadr + BitVec.ofNat 32 (16 * count) &&& 0x3FFF#32

theorem ofNat_quadwords_add (a b : ℕ) :
    BitVec.ofNat 32 (16 * (a + b)) = BitVec.ofNat 32 (16 * a) + BitVec.ofNat 32 (16 * b) := by
  rw [← BitVec.ofNat_add, Nat.mul_add]

theorem madrAfter_add (madr : BitVec 32) (a b : ℕ) :
    madrAfter (madrAfter madr a) b = madrAfter madr (a + b) := by
  have h := masked_add (madr + BitVec.ofNat 32 (16 * a)) (BitVec.ofNat 32 (16 * b)) 31 (by omega)
  rw [madrAfter, madrAfter, madrAfter, ofNat_quadwords_add, ← BitVec.add_assoc]
  exact h

theorem sadrAfter_add (sadr : BitVec 32) (a b : ℕ) :
    sadrAfter (sadrAfter sadr a) b = sadrAfter sadr (a + b) := by
  have h := masked_add (sadr + BitVec.ofNat 32 (16 * a)) (BitVec.ofNat 32 (16 * b)) 14 (by omega)
  rw [sadrAfter, sadrAfter, sadrAfter, ofNat_quadwords_add, ← BitVec.add_assoc]
  exact h

theorem madrAfter_masked (madr : BitVec 32) (count : ℕ) :
    madrAfter madr count &&& 0x7FFFFFFF#32 = madrAfter madr count := by
  rw [madrAfter, BitVec.and_assoc, BitVec.and_self]

theorem sadrAfter_masked (sadr : BitVec 32) (count : ℕ) :
    sadrAfter sadr count &&& 0x3FFF#32 = sadrAfter sadr count := by
  rw [sadrAfter, BitVec.and_assoc, BitVec.and_self]

/-! ## The plain copy -/

variable {D : Type*} (bus : EeBus D) (channel : ScratchpadChannel)

/-- One quadword, between `madr` and the scratchpad; `none` is an exception. -/
def plainCopy1 (madr sadr : BitVec 32) (memory : EeMemory D) : Option (EeMemory D) :=
  let scratchAddress := PS2_SCRATCHPAD_BASE + sadr
  let (copied, memory) :=
    match channel with
    | .ToScratchpad => bus.copy128 memory scratchAddress madr
    | .FromScratchpad => bus.copy128 memory madr scratchAddress
  if copied then some memory else none

def plainCopy (madr sadr : BitVec 32) (count : ℕ) (memory : EeMemory D) : Option (EeMemory D) :=
  (List.range count).foldlM
    (fun memory i => plainCopy1 bus channel (madrAfter madr i) (sadrAfter sadr i) memory) memory

/-- A copy may be cut anywhere. -/
theorem plainCopy_add (madr sadr : BitVec 32) (a b : ℕ) (memory : EeMemory D) :
    plainCopy bus channel madr sadr (a + b) memory =
      (plainCopy bus channel madr sadr a memory).bind
        (plainCopy bus channel (madrAfter madr a) (sadrAfter sadr a) b) := by
  rw [plainCopy, List.range_add, List.foldlM_append]
  congr 1
  funext memory
  simp only [plainCopy, List.foldlM_map, madrAfter_add, sadrAfter_add]

theorem plainCopy_one (madr sadr : BitVec 32) (memory : EeMemory D)
    (hmadr : madr &&& 0x7FFFFFFF#32 = madr) (hsadr : sadr &&& 0x3FFF#32 = sadr) :
    plainCopy bus channel madr sadr 1 memory = plainCopy1 bus channel madr sadr memory := by
  have hmadr0 : madrAfter madr 0 = madr := by simpa [madrAfter] using hmadr
  have hsadr0 : sadrAfter sadr 0 = sadr := by simpa [sadrAfter] using hsadr
  rw [plainCopy, List.range_one, List.foldlM_cons, hmadr0, hsadr0]
  exact bind_pure _

namespace ScratchpadDma

/-! ## A transfer without slices -/

/-- The state after the whole payload. -/
def paid (m : ScratchpadDma D) (memory : EeMemory D) : ScratchpadDma D :=
  { memory
    dma := ScratchpadDmaState.publishScratchpadDmaRegisters
      { m.dma with
        madr := madrAfter m.dma.madr m.dma.qwc
        sadr := sadrAfter m.dma.sadr m.dma.qwc
        qwc := 0
        phase := if m.dma.endAfterPayload then .Finalize else .FetchTag } }

/-- The transfer from `m` on, done without slices, ends at `m'`. -/
inductive Plain : ScratchpadDma D → ScratchpadDma D → Prop where
  | ended {m : ScratchpadDma D} (hphase : m.dma.phase = .Finalize) :
      Plain m { m with dma := { m.dma with active := false } }
  | tag {m m' : ScratchpadDma D} (hphase : m.dma.phase = .FetchTag)
      (hfetched : (m.fetchTag bus channel).dma.phase ≠ .Fault)
      (rest : Plain (m.fetchTag bus channel) m') : Plain m m'
  | payload {m m' : ScratchpadDma D} {memory : EeMemory D}
      (hphase : m.dma.phase = .TransferPayload)
      (hcopied : plainCopy bus channel m.dma.madr m.dma.sadr m.dma.qwc m.memory = some memory)
      (rest : Plain (m.paid memory) m') : Plain m m'

/-- There is one way to do a transfer without slices. -/
theorem Plain.unique {m m₁ m₂ : ScratchpadDma D} (h₁ : Plain bus channel m m₁)
    (h₂ : Plain bus channel m m₂) : m₁ = m₂ := by
  induction h₁ with
  | ended hphase =>
    cases h₂ with
    | ended => rfl
    | tag hphase' => rw [hphase] at hphase'; contradiction
    | payload hphase' => rw [hphase] at hphase'; contradiction
  | tag hphase _ _ ih =>
    cases h₂ with
    | ended hphase' => rw [hphase] at hphase'; contradiction
    | tag _ _ rest => exact ih rest
    | payload hphase' => rw [hphase] at hphase'; contradiction
  | payload hphase hcopied _ ih =>
    cases h₂ with
    | ended hphase' => rw [hphase] at hphase'; contradiction
    | tag hphase' => rw [hphase] at hphase'; contradiction
    | payload _ hcopied' rest =>
      rw [hcopied, Option.some_inj] at hcopied'
      subst hcopied'
      exact ih rest

/-! ## What every advance keeps -/

/-- MADR and SADR are masked, and a payload phase has a payload. -/
structure Kept (m : ScratchpadDma D) : Prop where
  madr : m.dma.madr &&& 0x7FFFFFFF#32 = m.dma.madr
  sadr : m.dma.sadr &&& 0x3FFF#32 = m.dma.sadr
  phase : m.dma.phase = .FetchTag ∨ m.dma.phase = .TransferPayload ∨ m.dma.phase = .Finalize
  payload : m.dma.phase = .TransferPayload → m.dma.qwc ≠ 0
  qwc : m.dma.qwc < 0x10000
  tags : m.dma.tagsProcessed ≤ kMaximumChainTags

/-! ## Slices -/

/-- The state after `count` quadwords of a slice. -/
def moved (m : ScratchpadDma D) (count : ℕ) (memory : EeMemory D) : ScratchpadDma D :=
  { memory
    dma :=
      { m.dma with
        madr := madrAfter m.dma.madr count
        sadr := sadrAfter m.dma.sadr count } }

/-- One step of the loop is one quadword of the plain copy. -/
theorem moveQuadword_eq (m : ScratchpadDma D) {m' : ScratchpadDma D}
    (h : m.moveQuadword bus channel = (true, m')) :
    plainCopy1 bus channel m.dma.madr m.dma.sadr m.memory = some m'.memory ∧
      m' = m.moved 1 m'.memory := by
  unfold moveQuadword at h
  unfold plainCopy1
  cases channel with
  | FromScratchpad =>
    dsimp only at h ⊢
    split at h
    · rename_i hcopied
      cases h
      exact ⟨if_pos hcopied, rfl⟩
    · cases h
  | ToScratchpad =>
    dsimp only at h ⊢
    split at h
    · rename_i hcopied
      cases h
      exact ⟨if_pos hcopied, rfl⟩
    · cases h

theorem moveQuadword_active (m : ScratchpadDma D) :
    (m.moveQuadword bus channel).2.dma.active = m.dma.active := by
  unfold moveQuadword
  cases channel <;> dsimp only <;> split <;> rfl

theorem moveQuadwords_active (slice : ℕ) (m : ScratchpadDma D) :
    (moveQuadwords bus channel slice m).2.dma.active = m.dma.active := by
  induction slice generalizing m with
  | zero => rfl
  | succ slice ih =>
    have hactive := m.moveQuadword_active bus channel
    rw [moveQuadwords]
    split
    · rename_i hmoved
      rw [hmoved] at hactive
      exact hactive
    · rename_i hmoved
      rw [hmoved] at hactive
      rw [ih]
      exact hactive

/-- A slice is a plain copy. -/
theorem moveQuadwords_eq (slice : ℕ) (m : ScratchpadDma D) {m' : ScratchpadDma D}
    (hmadr : m.dma.madr &&& 0x7FFFFFFF#32 = m.dma.madr)
    (hsadr : m.dma.sadr &&& 0x3FFF#32 = m.dma.sadr)
    (h : moveQuadwords bus channel slice m = (true, m')) :
    plainCopy bus channel m.dma.madr m.dma.sadr slice m.memory = some m'.memory ∧
      m' = m.moved slice m'.memory := by
  induction slice generalizing m with
  | zero =>
    obtain rfl : m = m' := congrArg Prod.snd h
    refine ⟨rfl, ?_⟩
    have hmadr0 : madrAfter m.dma.madr 0 = m.dma.madr := by simpa [madrAfter] using hmadr
    have hsadr0 : sadrAfter m.dma.sadr 0 = m.dma.sadr := by simpa [sadrAfter] using hsadr
    rw [moved, hmadr0, hsadr0]
  | succ slice ih =>
    rw [moveQuadwords] at h
    split at h
    · cases h
    · rename_i next hmoved
      obtain ⟨hcopied, hnext⟩ := m.moveQuadword_eq bus channel hmoved
      have hmadr1 : next.dma.madr = madrAfter m.dma.madr 1 := by rw [hnext]; rfl
      have hsadr1 : next.dma.sadr = sadrAfter m.dma.sadr 1 := by rw [hnext]; rfl
      obtain ⟨hrest, hm'⟩ := ih next (by rw [hmadr1, madrAfter_masked])
        (by rw [hsadr1, sadrAfter_masked]) h
      constructor
      · rw [Nat.add_comm, plainCopy_add, plainCopy_one _ _ _ _ _ hmadr hsadr, hcopied,
          Option.bind_some, ← hmadr1, ← hsadr1]
        exact hrest
      · rw [hm', hnext]
        simp only [moved, madrAfter_add, sadrAfter_add, Nat.add_comm 1 slice]

/-! ## Tags -/

/-- What the steps of a fetch keep. -/
structure TagKept (m m' : ScratchpadDma D) : Prop where
  active : m'.dma.active = m.dma.active
  tags : m'.dma.tagsProcessed = m.dma.tagsProcessed
  sadr : m.dma.sadr &&& 0x3FFF#32 = m.dma.sadr → m'.dma.sadr &&& 0x3FFF#32 = m'.dma.sadr

theorem masked_masked (x mask : BitVec 32) : x &&& mask &&& mask = x &&& mask := by
  rw [BitVec.and_assoc, BitVec.and_self]

theorem readTag_kept (m : ScratchpadDma D) : TagKept m (m.readTag bus channel).2 := by
  unfold readTag
  dsimp only
  split
  · exact ⟨rfl, rfl, id⟩
  · split
    · exact ⟨rfl, rfl, id⟩
    · cases channel with
      | FromScratchpad => exact ⟨rfl, rfl, fun _ => masked_masked _ _⟩
      | ToScratchpad => exact ⟨rfl, rfl, id⟩

theorem readTag_address (m : ScratchpadDma D) {tag : BitVec 32 × BitVec 32} {m' : ScratchpadDma D}
    (h : m.readTag bus channel = (some tag, m')) : tag.2 &&& 0x7FFFFFFF#32 = tag.2 := by
  unfold readTag at h
  dsimp only at h
  split at h
  · cases h
  · split at h
    · cases h
    · cases h
      exact masked_masked _ _

theorem transferTag_kept (m : ScratchpadDma D) : TagKept m (m.transferTag bus).2 := by
  unfold transferTag
  split
  · split
    · exact ⟨rfl, rfl, id⟩
    · exact ⟨rfl, rfl, fun _ => masked_masked _ _⟩
  · exact ⟨rfl, rfl, id⟩

theorem decodeTag_address (s : ScratchpadDmaState) (tagAddress : BitVec 32) (tagQwc : ℕ)
    (haddress : tagAddress &&& 0x7FFFFFFF#32 = tagAddress) :
    (s.decodeTag tagAddress tagQwc).2.1 &&& 0x7FFFFFFF#32 =
      (s.decodeTag tagAddress tagQwc).2.1 := by
  have hnext := masked_masked (s.tadr + 16#32) 0x7FFFFFFF#32
  unfold ScratchpadDmaState.decodeTag
  split
  · exact haddress
  · exact hnext
  · exact hnext
  · exact haddress
  · exact haddress
  · split_ifs <;> exact hnext
  · split_ifs <;> exact hnext
  · exact hnext

theorem decodeTag_kept (s : ScratchpadDmaState) (tagAddress : BitVec 32) (tagQwc : ℕ) :
    (s.decodeTag tagAddress tagQwc).1.active = s.active ∧
      (s.decodeTag tagAddress tagQwc).1.tagsProcessed = s.tagsProcessed ∧
      (s.decodeTag tagAddress tagQwc).1.sadr = s.sadr := by
  unfold ScratchpadDmaState.decodeTag
  split <;> (try split_ifs) <;> exact ⟨rfl, rfl, rfl⟩

/-- A tag that was taken leaves everything masked, and a phase that fits its QWC. -/
theorem finishTag_kept (s : ScratchpadDmaState) (memory : EeMemory D) (madr : BitVec 32) (qwc : ℕ)
    (endChain : Bool) (hmadr : madr &&& 0x7FFFFFFF#32 = madr) (hsadr : s.sadr &&& 0x3FFF#32 = s.sadr)
    (hqwc : qwc < 0x10000) (htags : s.tagsProcessed ≤ kMaximumChainTags) :
    Kept { memory, dma := s.finishTag madr qwc endChain } := by
  have hphase : (s.finishTag madr qwc endChain).phase =
      if qwc ≠ 0 then .TransferPayload
      else if endChain || (s.tie && s.tagIrq) then .Finalize else .FetchTag := rfl
  refine ⟨hmadr, hsadr, ?_, fun h => ?_, hqwc, htags⟩
  · dsimp only
    rw [hphase]
    split_ifs <;> simp
  · dsimp only at h
    rw [hphase] at h
    by_cases hzero : qwc ≠ 0
    · exact hzero
    · rw [if_neg hzero] at h
      split_ifs at h

theorem fetchTag_active (m : ScratchpadDma D) :
    (m.fetchTag bus channel).dma.active = m.dma.active := by
  have hread := (m.readTag_kept bus channel).active
  unfold fetchTag
  split
  · rfl
  split
  · rename_i hfailed
    rw [hfailed] at hread
    exact hread
  · rename_i tagWord0 tagAddress next hfound
    rw [hfound] at hread
    have htransfer := (transferTag_kept bus { next with dma := next.dma.noteTag tagWord0 }).active
    dsimp only
    cases channel with
    | FromScratchpad =>
      dsimp only
      split
      · exact hread
      · exact hread
    | ToScratchpad =>
      dsimp only
      split
      · rename_i htransferred
        rw [htransferred] at htransfer
        exact htransfer.trans hread
      · rename_i htransferred
        rw [htransferred] at htransfer
        exact (decodeTag_kept _ _ _).1.trans (htransfer.trans hread)

theorem fetchTag_kept (m : ScratchpadDma D) (hkept : Kept m)
    (hfetched : (m.fetchTag bus channel).dma.phase ≠ .Fault) :
    m.dma.tagsProcessed < kMaximumChainTags ∧ Kept (m.fetchTag bus channel) ∧
      (m.fetchTag bus channel).dma.tagsProcessed = m.dma.tagsProcessed + 1 := by
  have hread := m.readTag_kept bus channel
  unfold fetchTag at hfetched ⊢
  split at hfetched
  · exact absurd rfl hfetched
  rename_i htags
  rw [if_neg htags]
  rw [Nat.not_le] at htags
  refine ⟨htags, ?_⟩
  split at hfetched
  · exact absurd rfl hfetched
  rename_i tagWord0 tagAddress next hfound
  rw [hfound] at hread
  have haddress := m.readTag_address bus channel hfound
  have hsadr := hread.sadr hkept.sadr
  have hcount : next.dma.tagsProcessed + 1 ≤ kMaximumChainTags := by
    rw [hread.tags]
    exact htags
  have hqwc : (tagWord0 &&& 0xFFFF#32).toNat < 0x10000 := by
    rw [BitVec.toNat_and]
    exact Nat.and_lt_two_pow _ (n := 16) (by decide)
  dsimp only at hfetched haddress hsadr ⊢
  cases channel with
  | FromScratchpad =>
    dsimp only at hfetched ⊢
    split at hfetched
    · exact absurd rfl hfetched
    · rename_i hid
      rw [if_neg hid]
      exact ⟨finishTag_kept _ _ _ _ _ haddress hsadr hqwc hcount, congrArg (· + 1) hread.tags⟩
  | ToScratchpad =>
    dsimp only at hfetched ⊢
    split at hfetched
    · exact absurd rfl hfetched
    · rename_i sent htransferred
      have htransfer := transferTag_kept bus { next with dma := next.dma.noteTag tagWord0 }
      rw [htransferred] at htransfer
      obtain ⟨-, hdecodedTags, hdecodedSadr⟩ :=
        decodeTag_kept sent.dma tagAddress (tagWord0 &&& 0xFFFF#32).toNat
      have hsentTags : sent.dma.tagsProcessed = next.dma.tagsProcessed + 1 := htransfer.tags
      refine ⟨finishTag_kept _ _ _ _ _ (decodeTag_address _ _ _ haddress) ?_ hqwc ?_, ?_⟩
      · rw [hdecodedSadr]
        exact htransfer.sadr hsadr
      · rw [hdecodedTags, hsentTags]
        exact hcount
      · exact hdecodedTags.trans (hsentTags.trans (congrArg (· + 1) hread.tags))

/-! ## Payload -/

/-- What is left of a transfer: it gets less with every advance. -/
def left (m : ScratchpadDma D) : ℕ :=
  (kMaximumChainTags - m.dma.tagsProcessed) * 0x20000 +
    match m.dma.phase with
    | .TransferPayload => m.dma.qwc + 2
    | .FetchTag => 2
    | _ => 1

theorem sliceQwc_le (s : ScratchpadDmaState) : s.sliceQwc channel ≤ s.qwc := by
  unfold ScratchpadDmaState.sliceQwc
  cases channel with
  | FromScratchpad => exact (Nat.min_le_left _ _).trans (Nat.min_le_left _ _)
  | ToScratchpad => exact Nat.min_le_left _ _

theorem transferPayload_active (m : ScratchpadDma D) :
    (m.transferPayload bus channel).dma.active = m.dma.active := by
  have hmoved := moveQuadwords_active bus channel (m.dma.sliceQwc channel) m
  unfold transferPayload
  dsimp only
  split
  · rfl
  split
  · rename_i hfailed
    rw [hfailed] at hmoved
    exact hmoved
  · rename_i hdone
    rw [hdone] at hmoved
    exact hmoved

/-- The state after a slice that is not the last one. -/
def cut (m : ScratchpadDma D) (slice : ℕ) (memory : EeMemory D) : ScratchpadDma D :=
  { memory
    dma := ScratchpadDmaState.publishScratchpadDmaRegisters
      { m.dma with
        madr := madrAfter m.dma.madr slice
        sadr := sadrAfter m.dma.sadr slice
        qwc := m.dma.qwc - slice } }

/-- A slice that does not fault is the beginning of the plain copy of the payload. -/
theorem transferPayload_eq (m : ScratchpadDma D) (hkept : Kept m)
    (hmoved : (m.transferPayload bus channel).dma.phase ≠ .Fault) :
    ∃ (slice : ℕ) (memory : EeMemory D), 0 < slice ∧ slice ≤ m.dma.qwc ∧
      plainCopy bus channel m.dma.madr m.dma.sadr slice m.memory = some memory ∧
      m.transferPayload bus channel =
        if slice = m.dma.qwc then m.paid memory else m.cut slice memory := by
  have hle := sliceQwc_le channel m.dma
  obtain ⟨slice, hslice⟩ : ∃ slice, m.dma.sliceQwc channel = slice := ⟨_, rfl⟩
  rw [hslice] at hle
  unfold transferPayload at hmoved ⊢
  dsimp only at hmoved ⊢
  rw [hslice] at hmoved ⊢
  split at hmoved
  · exact absurd rfl hmoved
  rename_i hzero
  rw [if_neg hzero]
  split at hmoved
  · exact absurd rfl hmoved
  rename_i next hdone
  obtain ⟨hcopied, hnext⟩ := moveQuadwords_eq bus channel slice m hkept.madr hkept.sadr hdone
  refine ⟨slice, next.memory, Nat.pos_of_ne_zero hzero, hle, hcopied, ?_⟩
  rw [hnext]
  by_cases hall : slice = m.dma.qwc
  · subst hall
    rw [if_pos rfl]
    simp only [moved, Nat.sub_self, ne_eq, not_true_eq_false, if_false, paid]
    rfl
  · have hrest : m.dma.qwc - slice ≠ 0 := by omega
    rw [if_neg hall]
    simp only [moved, ne_eq, hrest, not_false_eq_true, if_true, cut]

theorem paid_phase (m : ScratchpadDma D) (memory : EeMemory D) :
    (m.paid memory).dma.phase = .Finalize ∨ (m.paid memory).dma.phase = .FetchTag := by
  have hphase : (m.paid memory).dma.phase =
      if m.dma.endAfterPayload then .Finalize else .FetchTag := rfl
  rw [hphase]
  cases m.dma.endAfterPayload
  · exact .inr rfl
  · exact .inl rfl

theorem paid_kept {m : ScratchpadDma D} (hkept : Kept m) (memory : EeMemory D) :
    Kept (m.paid memory) where
  madr := madrAfter_masked _ _
  sadr := sadrAfter_masked _ _
  phase := by
    obtain hphase | hphase := m.paid_phase memory
    · exact .inr (.inr hphase)
    · exact .inl hphase
  payload h := by
    obtain hphase | hphase := m.paid_phase memory <;> exact absurd (hphase.symm.trans h) (by decide)
  qwc := Nat.two_pow_pos 16
  tags := hkept.tags

theorem paid_left {m : ScratchpadDma D} (hkept : Kept m) (hphase : m.dma.phase = .TransferPayload)
    (memory : EeMemory D) : (m.paid memory).left < m.left := by
  have hqwc := hkept.payload hphase
  have htags : (m.paid memory).dma.tagsProcessed = m.dma.tagsProcessed := rfl
  rw [left, left, hphase, htags]
  obtain hphase' | hphase' := m.paid_phase memory <;> rw [hphase'] <;> dsimp only <;> omega

theorem cut_kept {m : ScratchpadDma D} (hkept : Kept m) (hphase : m.dma.phase = .TransferPayload)
    (slice : ℕ) (hslice : slice < m.dma.qwc) (memory : EeMemory D) : Kept (m.cut slice memory) where
  madr := madrAfter_masked _ _
  sadr := sadrAfter_masked _ _
  phase := .inr (.inl hphase)
  payload _ := Nat.sub_ne_zero_of_lt hslice
  qwc := (Nat.sub_le _ _).trans_lt hkept.qwc
  tags := hkept.tags

theorem cut_left {m : ScratchpadDma D} (hphase : m.dma.phase = .TransferPayload) {slice : ℕ}
    (hpos : 0 < slice) (hslice : slice < m.dma.qwc) (memory : EeMemory D) :
    (m.cut slice memory).left < m.left := by
  have hphase' : (m.cut slice memory).dma.phase = .TransferPayload := hphase
  have htags : (m.cut slice memory).dma.tagsProcessed = m.dma.tagsProcessed := rfl
  have hqwc : (m.cut slice memory).dma.qwc = m.dma.qwc - slice := rfl
  rw [left, left, hphase, hphase', htags]
  dsimp only
  omega

/-- The plain copy of what a slice leaves starts where the slice ended. -/
theorem cut_plain {m t : ScratchpadDma D} {memory : EeMemory D} {slice : ℕ}
    (hphase : m.dma.phase = .TransferPayload) (hle : slice ≤ m.dma.qwc)
    (hcopied : plainCopy bus channel m.dma.madr m.dma.sadr slice m.memory = some memory)
    (hrest : Plain bus channel (m.cut slice memory) t) : Plain bus channel m t := by
  have hsum : slice + (m.dma.qwc - slice) = m.dma.qwc := by omega
  cases hrest with
  | ended hphase' => exact absurd (hphase.symm.trans hphase') (by decide)
  | tag hphase' => exact absurd (hphase.symm.trans hphase') (by decide)
  | @payload _ _ after _ hcopied' rest =>
    have hpaid : (m.cut slice memory).paid after = m.paid after := by
      simp only [cut, paid, ScratchpadDmaState.publishScratchpadDmaRegisters, madrAfter_add,
        sadrAfter_add, hsum]
      rfl
    rw [hpaid] at rest
    refine .payload hphase ?_ rest
    rw [← hsum, plainCopy_add, hcopied]
    exact hcopied'

/-- Whatever is left after a slice, the transfer without slices does it as well. -/
theorem transferPayload_plain (m : ScratchpadDma D) (hkept : Kept m)
    (hphase : m.dma.phase = .TransferPayload)
    (hmoved : (m.transferPayload bus channel).dma.phase ≠ .Fault) :
    Kept (m.transferPayload bus channel) ∧ (m.transferPayload bus channel).left < m.left ∧
      ∀ t, Plain bus channel (m.transferPayload bus channel) t → Plain bus channel m t := by
  obtain ⟨slice, memory, hpos, hle, hcopied, hnext⟩ := m.transferPayload_eq bus channel hkept hmoved
  rw [hnext]
  by_cases hall : slice = m.dma.qwc
  · subst hall
    rw [if_pos rfl]
    exact ⟨paid_kept hkept memory, paid_left hkept hphase memory,
      fun _ rest => .payload hphase hcopied rest⟩
  · have hlt : slice < m.dma.qwc := by omega
    rw [if_neg hall]
    exact ⟨cut_kept hkept hphase slice hlt memory, cut_left hphase hpos hlt memory,
      fun _ rest => cut_plain bus channel hphase hle hcopied rest⟩

/-! ## Advances -/

/-- A tag is a step of the transfer without slices, and it uses up one of the tags allowed. -/
theorem fetchTag_plain (m : ScratchpadDma D) (hkept : Kept m) (hphase : m.dma.phase = .FetchTag)
    (hfetched : (m.fetchTag bus channel).dma.phase ≠ .Fault) :
    Kept (m.fetchTag bus channel) ∧ (m.fetchTag bus channel).left < m.left ∧
      ∀ t, Plain bus channel (m.fetchTag bus channel) t → Plain bus channel m t := by
  obtain ⟨htags, hkept', hcount⟩ := m.fetchTag_kept bus channel hkept hfetched
  refine ⟨hkept', ?_, fun t rest => .tag hphase hfetched rest⟩
  have hqwc := hkept'.qwc
  rw [left, left, hphase, hcount]
  obtain hnext | hnext | hnext := hkept'.phase <;> rw [hnext] <;> dsimp only <;> omega

/-- An advance faults, ends the transfer, or stays on the path of the transfer without slices. -/
theorem advance_spec (m : ScratchpadDma D) (hactive : m.dma.active = true) (hkept : Kept m) :
    ((m.advanceScratchpadDma bus channel).dma.phase = .Fault ∧
        (m.advanceScratchpadDma bus channel).dma.active = true) ∨
      (m.dma.phase = .Finalize ∧
        m.advanceScratchpadDma bus channel = { m with dma := { m.dma with active := false } }) ∨
      ((m.advanceScratchpadDma bus channel).dma.active = true ∧
        Kept (m.advanceScratchpadDma bus channel) ∧
        (m.advanceScratchpadDma bus channel).left < m.left ∧
        ∀ t, Plain bus channel (m.advanceScratchpadDma bus channel) t → Plain bus channel m t) := by
  have hnot : (!m.dma.active) ≠ true := by rw [hactive]; decide
  obtain hphase | hphase | hphase := hkept.phase
  · have hadvance : m.advanceScratchpadDma bus channel =
        if (m.fetchTag bus channel).dma.phase = .TransferPayload
        then (m.fetchTag bus channel).transferPayload bus channel
        else m.fetchTag bus channel := by
      rw [advanceScratchpadDma, if_neg hnot, hphase]
    have hfetchActive := (m.fetchTag_active bus channel).trans hactive
    rw [hadvance]
    by_cases hfault : (m.fetchTag bus channel).dma.phase = .Fault
    · rw [if_neg (by rw [hfault]; decide)]
      exact .inl ⟨hfault, hfetchActive⟩
    obtain ⟨hkept', hleft, hplain⟩ := m.fetchTag_plain bus channel hkept hphase hfault
    by_cases hpayload : (m.fetchTag bus channel).dma.phase = .TransferPayload
    · -- the same advance moves the first slice
      rw [if_pos hpayload]
      have hpaidActive := (transferPayload_active bus channel _).trans hfetchActive
      by_cases hfault' : ((m.fetchTag bus channel).transferPayload bus channel).dma.phase = .Fault
      · exact .inl ⟨hfault', hpaidActive⟩
      obtain ⟨hkept'', hleft', hplain'⟩ :=
        transferPayload_plain bus channel _ hkept' hpayload hfault'
      exact .inr (.inr ⟨hpaidActive, hkept'', hleft'.trans hleft,
        fun t rest => hplain t (hplain' t rest)⟩)
    · rw [if_neg hpayload]
      exact .inr (.inr ⟨hfetchActive, hkept', hleft, hplain⟩)
  · have hadvance : m.advanceScratchpadDma bus channel = m.transferPayload bus channel := by
      rw [advanceScratchpadDma, if_neg hnot, hphase]
    have hpaidActive := (m.transferPayload_active bus channel).trans hactive
    rw [hadvance]
    by_cases hfault : (m.transferPayload bus channel).dma.phase = .Fault
    · exact .inl ⟨hfault, hpaidActive⟩
    · exact .inr (.inr ⟨hpaidActive, m.transferPayload_plain bus channel hkept hphase hfault⟩)
  · refine .inr (.inl ⟨hphase, ?_⟩)
    rw [advanceScratchpadDma, if_neg hnot, hphase]

theorem advance_ended (m : ScratchpadDma D) (hactive : m.dma.active = false) :
    m.advanceScratchpadDma bus channel = m := by
  rw [advanceScratchpadDma, if_pos (by rw [hactive]; rfl)]

theorem advance_faulted (m : ScratchpadDma D) (hactive : m.dma.active = true)
    (hphase : m.dma.phase = .Fault) : m.advanceScratchpadDma bus channel = m := by
  rw [advanceScratchpadDma, if_neg (by rw [hactive]; decide), hphase]
  dsimp only
  rw [fault, ← hphase]

/-! ## Runs -/

/-- A run that ends has done the transfer without slices. -/
theorem run_plain (count : ℕ) (m : ScratchpadDma D) (hactive : m.dma.active = true)
    (hkept : m.dma.phase = .Fault ∨ Kept m)
    (hended : ((advanceScratchpadDma bus channel)^[count] m).dma.active = false) :
    Plain bus channel m ((advanceScratchpadDma bus channel)^[count] m) := by
  induction count generalizing m with
  | zero => exact absurd (hactive.symm.trans hended) (by decide)
  | succ count ih =>
    rw [Function.iterate_succ_apply] at hended ⊢
    obtain hfault | hkept := hkept
    · have hstays := Function.iterate_fixed (m.advance_faulted bus channel hactive hfault) count
      rw [m.advance_faulted bus channel hactive hfault, hstays] at hended
      exact absurd (hactive.symm.trans hended) (by decide)
    obtain ⟨hfault, hactive'⟩ | ⟨hphase, hnext⟩ | ⟨hactive', hkept', -, hplain⟩ :=
      m.advance_spec bus channel hactive hkept
    · have hstays :=
        Function.iterate_fixed (advance_faulted bus channel _ hactive' hfault) count
      rw [hstays] at hended
      exact absurd (hactive'.symm.trans hended) (by decide)
    · have hstays :=
        Function.iterate_fixed
          (advance_ended bus channel { m with dma := { m.dma with active := false } } rfl) count
      rw [hnext, hstays]
      exact .ended hphase
    · exact hplain _ (ih _ hactive' (.inr hkept') hended)

theorem run_settles (m : ScratchpadDma D) (hactive : m.dma.active = true) (hkept : Kept m) :
    ∃ count, ((advanceScratchpadDma bus channel)^[count] m).dma.phase = .Fault ∨
      ((advanceScratchpadDma bus channel)^[count] m).dma.active = false := by
  obtain ⟨fuel, hfuel⟩ : ∃ fuel, m.left = fuel := ⟨_, rfl⟩
  induction fuel using Nat.strong_induction_on generalizing m with
  | _ fuel ih =>
    obtain ⟨hfault, -⟩ | ⟨-, hnext⟩ | ⟨hactive', hkept', hleft, -⟩ :=
      m.advance_spec bus channel hactive hkept
    · exact ⟨1, .inl hfault⟩
    · exact ⟨1, .inr (congrArg (·.dma.active) hnext)⟩
    · obtain ⟨count, hsettled⟩ := ih _ (hfuel ▸ hleft) _ hactive' hkept' rfl
      exact ⟨count + 1, hsettled⟩

theorem start_kept (registers : ScratchpadDmaRegisters) (chcr : BitVec 32) (memory : EeMemory D) :
    (ScratchpadDmaState.startScratchpadDma channel registers chcr).phase = .Fault ∨
      Kept { memory, dma := ScratchpadDmaState.startScratchpadDma channel registers chcr } := by
  have hphase : (ScratchpadDmaState.startScratchpadDma channel registers chcr).phase =
      if Chcr.mode (Chcr.setStr chcr) > 1#2 then .Fault
      else if registers.qwc % 0x10000 ≠ 0 then .TransferPayload
      else if Chcr.mode (Chcr.setStr chcr) = 1#2 then .FetchTag
      else .Finalize := by
    unfold ScratchpadDmaState.startScratchpadDma
    simp only [ScratchpadDmaState.publishScratchpadDmaRegisters, decide_eq_true_eq]
  by_cases hmode : Chcr.mode (Chcr.setStr chcr) > 1#2
  · rw [hphase, if_pos hmode]
    exact .inl rfl
  rw [if_neg hmode] at hphase
  refine .inr ⟨masked_masked _ _, ?_, ?_, fun h => ?_, Nat.mod_lt _ (by decide), Nat.zero_le _⟩
  · change registers.sadr &&& 0x3FF0#32 &&& 0x3FFF#32 = registers.sadr &&& 0x3FF0#32
    rw [BitVec.and_assoc]
    rfl
  · dsimp only
    rw [hphase]
    split_ifs <;> simp
  · dsimp only at h
    rw [hphase] at h
    change registers.qwc % 0x10000 ≠ 0
    by_cases hqwc : registers.qwc % 0x10000 ≠ 0
    · exact hqwc
    · rw [if_neg hqwc] at h
      split_ifs at h

/-- Whatever a channel is started with, it faults or ends, and where it ends it has done what the
one transfer without slices does: to the memory, and to every register. -/
theorem scratchpadDma_plain (registers : ScratchpadDmaRegisters) (chcr : BitVec 32)
    (memory : EeMemory D) :
    let start : ScratchpadDma D :=
      { memory, dma := ScratchpadDmaState.startScratchpadDma channel registers chcr }
    (∃ count, ((advanceScratchpadDma bus channel)^[count] start).dma.phase = .Fault ∨
        ((advanceScratchpadDma bus channel)^[count] start).dma.active = false) ∧
      ∀ count, ((advanceScratchpadDma bus channel)^[count] start).dma.active = false →
        ∀ m, Plain bus channel start m ↔ m = (advanceScratchpadDma bus channel)^[count] start := by
  intro start
  have hkept := start_kept channel registers chcr memory
  refine ⟨?_, fun count hended m => ?_⟩
  · obtain hfault | hkept := hkept
    · exact ⟨0, .inl hfault⟩
    · exact run_settles bus channel start rfl hkept
  · have hplain := run_plain bus channel count start rfl hkept hended
    exact ⟨fun h => h.unique bus channel hplain, fun h => h ▸ hplain⟩

end ScratchpadDma

end Ps2Recomp
