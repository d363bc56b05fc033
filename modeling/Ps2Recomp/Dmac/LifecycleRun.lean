import Ps2Recomp.Dmac.Lifecycle
import Mathlib.Data.List.Nodup
import Ps2Recomp.Lib.FiniteIndices

/-!
# No transfer is completed twice and no stale token has an effect

`historyOf` lists the events of a run, newest first. From them `latestTransfer` reads which transfer
of a channel was begun last and not cancelled. `Tracks` ties the history to the controller: the
token of the latest transfer carries the channel's generation, it is ready only if its completion
was requested, and idle only if it was published.

`DStatOk` is the interrupt line: every write of D_STAT computes bit 31 from the bits it stores.
-/

namespace Ps2Recomp

open Machine

/-! ## D_STAT -/

/-- Bit 31 is set exactly if some cause is both raised and unmasked. -/
def DStatOk (dstat : BitVec 32) : Prop :=
  dstat.getLsbD 31 = true ↔
    ∃ cause < 10, dstat.getLsbD cause = true ∧ dstat.getLsbD (cause + 16) = true

theorem getLsbD_lowMask (i : ℕ) : (0x3FF#32).getLsbD i = decide (i < 10) := by
  rcases Nat.lt_or_ge i 32 with h | h
  · have hall : ∀ j : Fin 32, (0x3FF#32).getLsbD j = decide (j.val < 10) := by decide
    exact hall ⟨i, h⟩
  · rw [BitVec.getLsbD_of_ge _ _ h]
    exact (decide_eq_false (by omega)).symm

theorem getLsbD_topBit (i : ℕ) : (1#32 <<< 31).getLsbD i = decide (i = 31) := by
  rcases Nat.lt_or_ge i 32 with h | h
  · have hall : ∀ j : Fin 32, (1#32 <<< 31).getLsbD j = decide (j.val = 31) := by decide
    exact hall ⟨i, h⟩
  · rw [BitVec.getLsbD_of_ge _ _ h]
    exact (decide_eq_false (by omega)).symm

theorem ne_zero_iff_getLsbD {x : BitVec 32} : x ≠ 0#32 ↔ ∃ i < 32, x.getLsbD i = true := by
  constructor
  · intro hne
    by_contra hnone
    push Not at hnone
    refine hne (BitVec.eq_of_getLsbD_eq fun i hi => ?_)
    rw [BitVec.getLsbD_zero]
    exact Bool.eq_false_iff.2 (hnone i hi)
  · rintro ⟨i, -, hi⟩ rfl
    simp at hi

theorem dstatPending_ne_zero {dstat : BitVec 32} :
    dstatPending dstat ≠ 0#32 ↔
      ∃ cause < 10, dstat.getLsbD cause = true ∧ dstat.getLsbD (cause + 16) = true := by
  have hbit : ∀ i, (dstatPending dstat).getLsbD i = true ↔
      i < 10 ∧ dstat.getLsbD i = true ∧ dstat.getLsbD (i + 16) = true := by
    intro i
    simp only [dstatPending, BitVec.getLsbD_and, getLsbD_lowMask, BitVec.getLsbD_ushiftRight,
      Bool.and_eq_true, decide_eq_true_eq, Nat.add_comm 16]
    tauto
  rw [ne_zero_iff_getLsbD]
  constructor
  · rintro ⟨i, -, hi⟩
    exact ⟨i, (hbit i).1 hi⟩
  · rintro ⟨i, hi⟩
    exact ⟨i, by omega, (hbit i).2 hi⟩

/-- Bit 31 of a word, set to what `b` says. -/
theorem dstatOk_of_bits {dstat next : BitVec 32}
    (htop : next.getLsbD 31 = true ↔ dstatPending dstat ≠ 0#32)
    (hlow : ∀ i, i ≠ 31 → next.getLsbD i = dstat.getLsbD i) : DStatOk next := by
  rw [DStatOk, htop, dstatPending_ne_zero]
  constructor
  · rintro ⟨i, hi, hraised, hunmasked⟩
    exact ⟨i, hi, by rwa [hlow i (by omega)], by rwa [hlow _ (by omega)]⟩
  · rintro ⟨i, hi, hraised, hunmasked⟩
    exact ⟨i, hi, by rwa [hlow i (by omega)] at hraised, by rwa [hlow _ (by omega)] at hunmasked⟩

theorem dstatOk_refresh (dstat : BitVec 32) : DStatOk (refreshDStat dstat) := by
  refine @dstatOk_of_bits dstat _ ?_ fun i hi => ?_
  · unfold refreshDStat
    split
    next h => simp [h]
    next h => simp [h]
  · unfold refreshDStat
    split
    · rw [BitVec.getLsbD_or, getLsbD_topBit, decide_eq_false hi, Bool.or_false]
    · rw [BitVec.getLsbD_and, BitVec.getLsbD_not, getLsbD_topBit, decide_eq_false hi]
      rcases Nat.lt_or_ge i 32 with h | h
      · simp [h]
      · simp [BitVec.getLsbD_of_ge _ _ h]

/-- What a write stores before bit 31 is computed. -/
def mergedDStat (current writeValue : BitVec 32) : BitVec 32 :=
  (current &&& ~~~(0x3FF#32 ||| 0x3FF#32 <<< 16 ||| 1#32 <<< 31)) |||
    (current &&& 0x3FF#32 &&& ~~~(writeValue &&& 0x3FF#32) |||
      (current >>> 16 &&& 0x3FF#32 ^^^ writeValue >>> 16 &&& 0x3FF#32) <<< 16)

theorem getLsbD_mergedDStat_low (current writeValue : BitVec 32) {i : ℕ} (hi : i < 10) :
    (mergedDStat current writeValue).getLsbD i =
        (current &&& 0x3FF#32 &&& ~~~(writeValue &&& 0x3FF#32)).getLsbD i ∧
      (mergedDStat current writeValue).getLsbD (i + 16) =
        (current >>> 16 &&& 0x3FF#32 ^^^ writeValue >>> 16 &&& 0x3FF#32).getLsbD i := by
  have h16 : ¬ i + 16 < 16 := by omega
  have hlow : i < 16 := by omega
  have h32 : i < 32 := by omega
  have h32' : i + 16 < 32 := by omega
  have hhigh : ¬ i + 16 < 10 := by omega
  constructor <;>
    simp only [mergedDStat, BitVec.getLsbD_or, BitVec.getLsbD_and, BitVec.getLsbD_not,
      BitVec.getLsbD_xor, BitVec.getLsbD_shiftLeft, BitVec.getLsbD_ushiftRight, getLsbD_lowMask] <;>
    simp [hi, h16, hlow, h32, h32', hhigh]

theorem dstatOk_written (current writeValue : BitVec 32) :
    DStatOk (writtenDStat current writeValue) := by
  let status := current &&& 0x3FF#32 &&& ~~~(writeValue &&& 0x3FF#32)
  let mask := current >>> 16 &&& 0x3FF#32 ^^^ writeValue >>> 16 &&& 0x3FF#32
  let merged := mergedDStat current writeValue
  have hwritten : writtenDStat current writeValue =
      if status &&& mask ≠ 0#32 then merged ||| 1#32 <<< 31 else merged := rfl
  have hpending : dstatPending merged ≠ 0#32 ↔ status &&& mask ≠ 0#32 := by
    rw [dstatPending_ne_zero, ne_zero_iff_getLsbD]
    constructor
    · rintro ⟨i, hi, hraised, hunmasked⟩
      obtain ⟨hlow, hhigh⟩ := getLsbD_mergedDStat_low current writeValue hi
      refine ⟨i, by omega, ?_⟩
      rw [BitVec.getLsbD_and, Bool.and_eq_true]
      exact ⟨hlow ▸ hraised, hhigh ▸ hunmasked⟩
    · rintro ⟨i, -, hboth⟩
      rw [BitVec.getLsbD_and, Bool.and_eq_true] at hboth
      have hi : i < 10 := by
        have hraised := hboth.1
        simp only [status, BitVec.getLsbD_and, getLsbD_lowMask, Bool.and_eq_true,
          decide_eq_true_eq] at hraised
        exact hraised.1.2
      obtain ⟨hlow, hhigh⟩ := getLsbD_mergedDStat_low current writeValue hi
      exact ⟨i, hi, hlow ▸ hboth.1, hhigh ▸ hboth.2⟩
  have htop : merged.getLsbD 31 = false := by
    simp [merged, mergedDStat]
  rw [hwritten]
  refine @dstatOk_of_bits merged _ ?_ fun i hi => ?_
  · rw [hpending]
    split
    next h => simp [h]
    next h =>
      rw [htop]
      simp [h]
  · split
    · rw [BitVec.getLsbD_or, getLsbD_topBit, decide_eq_false hi, Bool.or_false]
    · rfl

/-! ## The history -/

/-- The transfer of the channel that was begun last, unless it was cancelled. -/
def latestTransfer (channel : DmacChannel) : List DmacEvent → Option DmacTransferToken
  | [] => none
  | .begun transfer :: older =>
    if transfer.channel = channel then some transfer else latestTransfer channel older
  | .cancelled cancelled :: older =>
    if cancelled = channel then none else latestTransfer channel older
  | _ :: older => latestTransfer channel older

def DmacEvent.publishedTransfer : DmacEvent → Option DmacTransferToken
  | .published transfer => some transfer
  | _ => none

/-- The transfers that were published, the last one first. -/
def publishedTransfers (history : List DmacEvent) : List DmacTransferToken :=
  history.filterMap DmacEvent.publishedTransfer

def DmacEvent.takenTransfers : DmacEvent → List DmacTransferToken
  | .completions taken => taken.map (·.transfer)
  | _ => []

/-- The transfers whose completion requests were taken out of the ready queue. -/
def takenTransfers (history : List DmacEvent) : List DmacTransferToken :=
  history.flatMap DmacEvent.takenTransfers

/-- The interrupts that were taken, the first one first. -/
def takenInterrupts : List DmacEvent → List DmacPendingInterrupt
  | [] => []
  | .interrupts taken :: older => takenInterrupts older ++ taken
  | _ :: older => takenInterrupts older

theorem mem_publishedTransfers {history : List DmacEvent} {t : DmacTransferToken} :
    t ∈ publishedTransfers history ↔ .published t ∈ history := by
  rw [publishedTransfers, List.mem_filterMap]
  constructor
  · rintro ⟨e, he, hpublished⟩
    cases e with
    | published transfer =>
      obtain rfl := Option.some.inj hpublished
      exact he
    | _ => cases hpublished
  · exact fun h => ⟨_, h, rfl⟩

namespace Dmac

/-- The events of a run, the last one first. -/
def historyOf (ops : List DmacOp) : List DmacEvent := (outputs step event {} ops).reverse

/-- The token of the current transfer of a channel, if any. -/
def tokenOf (d : Dmac) (channel : DmacChannel) : DmacTransferToken :=
  { channel := channel, generation := (d.channels channel).generation }

/-- What the history says about a channel in a phase. -/
def PhaseOk (history : List DmacEvent) (token : DmacTransferToken) : DmacChannelPhase → Prop
  | .Idle =>
    latestTransfer token.channel history = none ∨ .published token ∈ history
  | .Active =>
    latestTransfer token.channel history = some token ∧ .published token ∉ history ∧
      .requested token ∉ history
  | .CompletionReady =>
    latestTransfer token.channel history = some token ∧ .published token ∉ history ∧
      .requested token ∈ history

structure Tracks (d : Dmac) (history : List DmacEvent) : Prop where
  latest_eq : ∀ channel t, latestTransfer channel history = some t → t = d.tokenOf channel
  phase_ok : ∀ channel, PhaseOk history (d.tokenOf channel) (d.channels channel).phase
  published_le : ∀ t, .published t ∈ history → t.generation ≤ (d.channels t.channel).generation
  published_nodup : (publishedTransfers history).Nodup
  requested_le : ∀ t, .requested t ∈ history → t.generation ≤ (d.channels t.channel).generation
  ready_nodup : (d.readyCompletions.map (·.transfer.channel)).Nodup
  ready_ok : ∀ r ∈ d.readyCompletions, r.transfer = d.tokenOf r.transfer.channel ∧
    .requested r.transfer ∈ history ∧
    ((d.channels r.transfer.channel).phase = .CompletionReady ∨ .published r.transfer ∈ history)
  taken_ok : ∀ t ∈ takenTransfers history, .requested t ∈ history ∧
    ∀ r ∈ d.readyCompletions, r.transfer ≠ t
  interrupts_eq : (takenInterrupts history ++ d.pendingInterrupts).map (·.transfer) =
    (publishedTransfers history).reverse
  dstat_ok : DStatOk (d.ioRegisters kDStat)

theorem tracks_initial : Tracks {} [] where
  latest_eq _ _ h := by cases h
  phase_ok _ := .inl rfl
  published_le _ h := by cases h
  published_nodup := List.nodup_nil
  requested_le _ h := by cases h
  ready_nodup := List.nodup_nil
  ready_ok _ h := by cases h
  taken_ok _ h := by cases h
  interrupts_eq := rfl
  dstat_ok := by
    show DStatOk 0#32
    rw [DStatOk, BitVec.getLsbD_zero]
    simp

/-! ## What each operation does -/

/-- The token is the one of its channel's current transfer, in that phase. -/
def Holds (d : Dmac) (t : DmacTransferToken) (phase : DmacChannelPhase) : Prop :=
  t.channel ≠ .Count ∧ t.generation ≠ 0 ∧ t = d.tokenOf t.channel ∧
    (d.channels t.channel).phase = phase

theorem count_le_index {channel : DmacChannel} :
    dmacChannelCount ≤ channel.index ↔ channel = .Count := by
  cases channel <;> decide

theorem base_ne_zero {channel : DmacChannel} (h : channel ≠ .Count) : channel.base ≠ 0 := by
  cases channel <;> first | decide | exact absurd rfl h

theorem dstat_ne_chcr (channel : DmacChannel) : kDStat ≠ channel.chcr := by
  cases channel <;> decide

theorem eq_tokenOf_iff {d : Dmac} {t : DmacTransferToken} :
    t = d.tokenOf t.channel ↔ (d.channels t.channel).generation = t.generation := by
  rw [tokenOf, DmacTransferToken.mk.injEq]
  exact ⟨fun h => h.2.symm, fun h => ⟨rfl, h.symm⟩⟩

variable {d : Dmac} {history : List DmacEvent} {t : DmacTransferToken} {channel : DmacChannel}

theorem beginDmacTransfer_cases (d : Dmac) (channel : DmacChannel) :
    (channel = .Count ∧ d.beginDmacTransfer channel = ({}, d)) ∨
      channel ≠ .Count ∧
        (d.beginDmacTransfer channel).1 =
          { channel := channel, generation := nextDmacSequence (d.channels channel).generation } ∧
        (d.beginDmacTransfer channel).2.channels = Function.update d.channels channel
          { phase := .Active, generation := nextDmacSequence (d.channels channel).generation } ∧
        (d.beginDmacTransfer channel).2.readyCompletions =
          d.readyCompletions.filter (·.transfer.channel ≠ channel) ∧
        (d.beginDmacTransfer channel).2.pendingInterrupts = d.pendingInterrupts ∧
        (d.beginDmacTransfer channel).2.ioRegisters kDStat = d.ioRegisters kDStat := by
  unfold beginDmacTransfer
  split
  next h => exact .inl ⟨count_le_index.1 h, rfl⟩
  next h =>
    rw [count_le_index] at h
    dsimp only
    rw [if_pos (base_ne_zero h)]
    exact .inr ⟨h, rfl, rfl, rfl, rfl, ioRegisters_setRegister_of_ne _ (dstat_ne_chcr channel) _⟩

theorem cancelDmacTransfer_cases (d : Dmac) (channel : DmacChannel) :
    (channel = .Count ∧ d.cancelDmacTransfer channel = (false, d)) ∨
      channel ≠ .Count ∧
        (d.cancelDmacTransfer channel).2.channels = Function.update d.channels channel
          { phase := .Idle, generation := nextDmacSequence (d.channels channel).generation } ∧
        (d.cancelDmacTransfer channel).2.readyCompletions =
          d.readyCompletions.filter (·.transfer.channel ≠ channel) ∧
        (d.cancelDmacTransfer channel).2.pendingInterrupts = d.pendingInterrupts ∧
        (d.cancelDmacTransfer channel).2.ioRegisters kDStat = d.ioRegisters kDStat := by
  unfold cancelDmacTransfer
  split
  next h => exact .inl ⟨count_le_index.1 h, rfl⟩
  next h =>
    rw [count_le_index] at h
    dsimp only
    rw [if_pos (base_ne_zero h)]
    exact .inr ⟨h, rfl, rfl, rfl, ioRegisters_setRegister_of_ne _ (dstat_ne_chcr channel) _⟩

theorem requestDmacCompletion_cases (d : Dmac) (t : DmacTransferToken) :
    (¬ d.Holds t .Active ∧ d.requestDmacCompletion t = (false, d)) ∨
      d.Holds t .Active ∧ (d.requestDmacCompletion t).1 = true ∧
        (d.requestDmacCompletion t).2.channels = Function.update d.channels t.channel
          { d.channels t.channel with phase := .CompletionReady } ∧
        (d.requestDmacCompletion t).2.readyCompletions =
          d.readyCompletions ++
            [{ transfer := t, readySequence := nextDmacSequence d.readySequence }] ∧
        (d.requestDmacCompletion t).2.pendingInterrupts = d.pendingInterrupts ∧
        (d.requestDmacCompletion t).2.ioRegisters = d.ioRegisters := by
  unfold requestDmacCompletion Holds
  rw [eq_tokenOf_iff]
  split
  next h =>
    rw [count_le_index] at h
    refine .inl ⟨?_, rfl⟩
    tauto
  next h =>
    rw [count_le_index] at h
    push Not at h
    dsimp only
    split
    next hstale =>
      refine .inl ⟨?_, rfl⟩
      tauto
    next hlive =>
      push Not at hlive
      exact .inr ⟨⟨h.1, h.2, hlive⟩, rfl, rfl, rfl, rfl, rfl⟩

theorem publishDmacCompletion_cases (d : Dmac) (completion : DmacCompletionRequest)
    (eventSequence : ℕ) :
    (¬ d.Holds completion.transfer .CompletionReady ∧
        d.publishDmacCompletion completion eventSequence = (false, d)) ∨
      d.Holds completion.transfer .CompletionReady ∧
        (d.publishDmacCompletion completion eventSequence).1 = true ∧
        (d.publishDmacCompletion completion eventSequence).2.channels =
          Function.update d.channels completion.transfer.channel
            { d.channels completion.transfer.channel with phase := .Idle } ∧
        (d.publishDmacCompletion completion eventSequence).2.readyCompletions =
          d.readyCompletions ∧
        (d.publishDmacCompletion completion eventSequence).2.pendingInterrupts =
          d.pendingInterrupts ++
            [{ source := completion.transfer.channel
               cause := completion.transfer.channel.cause
               channelGeneration := completion.transfer.generation
               eventSequence := eventSequence
               publicationSequence := nextDmacSequence d.publicationSequence }] ∧
        DStatOk ((d.publishDmacCompletion completion eventSequence).2.ioRegisters kDStat) := by
  unfold publishDmacCompletion Holds
  dsimp only
  rw [eq_tokenOf_iff]
  split
  next h =>
    rw [count_le_index] at h
    refine .inl ⟨?_, rfl⟩
    tauto
  next h =>
    rw [count_le_index] at h
    push Not at h
    split
    next hstale =>
      refine .inl ⟨?_, rfl⟩
      tauto
    next hlive =>
      push Not at hlive
      refine .inr ⟨⟨h.1, h.2, hlive⟩, rfl, rfl, rfl, rfl, ?_⟩
      dsimp only
      rw [ioRegisters_setRegister_self]
      exact dstatOk_refresh _

/-! ## Steps -/

/-- A channel that an event is not about is as it was. -/
theorem PhaseOk.cons {e : DmacEvent} {p : DmacChannelPhase} (h : PhaseOk history t p)
    (hlatest : latestTransfer t.channel (e :: history) = latestTransfer t.channel history)
    (hpublished : e ≠ .published t) (hrequested : e ≠ .requested t) :
    PhaseOk (e :: history) t p := by
  have hmem : .published t ∈ e :: history ↔ .published t ∈ history := by
    rw [List.mem_cons]
    exact ⟨fun hm => hm.resolve_left hpublished.symm, .inr⟩
  have hmem' : .requested t ∈ e :: history ↔ .requested t ∈ history := by
    rw [List.mem_cons]
    exact ⟨fun hm => hm.resolve_left hrequested.symm, .inr⟩
  cases p with
  | Idle =>
    rw [PhaseOk, hlatest, hmem]
    exact h
  | Active =>
    rw [PhaseOk, hlatest, hmem, hmem']
    exact h
  | CompletionReady =>
    rw [PhaseOk, hlatest, hmem, hmem']
    exact h

/-- A token of a channel whose generation may only have grown. -/
theorem generation_le {d' : Dmac} (hle : (d.channels t.channel).generation ≤
      (d'.channels t.channel).generation) (h : t.generation ≤ (d.channels t.channel).generation) :
    t.generation ≤ (d'.channels t.channel).generation := Nat.le_trans h hle

/-- A step that changes no channel, adds nothing to the ready queue and reports nothing about a
transfer but which ones it took from the queue. -/
theorem Tracks.quiet (h : Tracks d history) {d' : Dmac} {e : DmacEvent}
    (hlatest : ∀ channel, latestTransfer channel (e :: history) = latestTransfer channel history)
    (hpublished : e.publishedTransfer = none) (hrequested : ∀ t, e ≠ .requested t)
    (hchannels : d'.channels = d.channels)
    (hready : d'.readyCompletions.Sublist d.readyCompletions)
    (htaken : ∀ t ∈ e.takenTransfers, t ∈ d.readyCompletions.map (·.transfer) ∧
      ∀ r ∈ d'.readyCompletions, r.transfer ≠ t)
    (hinterrupts : takenInterrupts (e :: history) ++ d'.pendingInterrupts =
      takenInterrupts history ++ d.pendingInterrupts)
    (hdstat : DStatOk (d'.ioRegisters kDStat)) : Tracks d' (e :: history) := by
  have hne : ∀ t, e ≠ .published t := by
    rintro t rfl
    cases hpublished
  have htoken : ∀ channel, d'.tokenOf channel = d.tokenOf channel := by
    intro channel
    rw [tokenOf, tokenOf, hchannels]
  have hpub : publishedTransfers (e :: history) = publishedTransfers history :=
    List.filterMap_cons_none hpublished
  constructor
  · intro channel t ht
    rw [hlatest] at ht
    rw [htoken]
    exact h.latest_eq channel t ht
  · intro channel
    rw [htoken, hchannels]
    exact (h.phase_ok channel).cons (hlatest _) (hne _) (hrequested _)
  · intro t ht
    rw [hchannels]
    exact h.published_le t ((List.mem_cons.1 ht).resolve_left fun heq => hne t heq.symm)
  · rw [hpub]
    exact h.published_nodup
  · intro t ht
    rw [hchannels]
    exact h.requested_le t ((List.mem_cons.1 ht).resolve_left fun heq => hrequested t heq.symm)
  · exact h.ready_nodup.sublist (hready.map _)
  · intro r hr
    rw [htoken, hchannels]
    obtain ⟨heq, hreq, hphase⟩ := h.ready_ok r (hready.subset hr)
    exact ⟨heq, List.mem_cons_of_mem _ hreq, hphase.imp_right (List.mem_cons_of_mem _)⟩
  · intro t ht
    rw [takenTransfers, List.flatMap_cons, List.mem_append] at ht
    rcases ht with hnew | hold
    · obtain ⟨hmem, hother⟩ := htaken t hnew
      obtain ⟨r, hr, rfl⟩ := List.mem_map.1 hmem
      exact ⟨List.mem_cons_of_mem _ (h.ready_ok r hr).2.1, hother⟩
    · obtain ⟨hreq, hother⟩ := h.taken_ok t hold
      exact ⟨List.mem_cons_of_mem _ hreq, fun r hr => hother r (hready.subset hr)⟩
  · rw [hinterrupts, hpub]
    exact h.interrupts_eq
  · exact hdstat

/-- A refused call changes nothing. -/
theorem Tracks.refused (h : Tracks d history) : Tracks d (.refused :: history) :=
  h.quiet (fun _ => rfl) rfl (fun _ => by simp) rfl (List.Sublist.refl _)
    (fun _ ht => by cases ht) rfl h.dstat_ok

/-- A channel moves on to its next generation: its tokens so far are stale, its completions leave
the queue. The history gains the event of a begin or of a cancellation. -/
theorem Tracks.advance (h : Tracks d history) {d' : Dmac} {e : DmacEvent}
    {state : DmacChannelLifecycle}
    (hchannels : d'.channels = Function.update d.channels channel state)
    (hstate : state.generation = (d.channels channel).generation + 1)
    (hready : d'.readyCompletions = d.readyCompletions.filter (·.transfer.channel ≠ channel))
    (hpending : d'.pendingInterrupts = d.pendingInterrupts)
    (hdstat : d'.ioRegisters kDStat = d.ioRegisters kDStat)
    (he : (∃ t, e = .begun t) ∨ ∃ c, e = .cancelled c)
    (hself : ∀ t, latestTransfer channel (e :: history) = some t → t = d'.tokenOf channel)
    (hother : ∀ other, other ≠ channel →
      latestTransfer other (e :: history) = latestTransfer other history)
    (hphase : PhaseOk (e :: history) (d'.tokenOf channel) state.phase) :
    Tracks d' (e :: history) := by
  have hpublished : ∀ t, e ≠ .published t := by
    rintro t rfl
    simp at he
  have hrequested : ∀ t, e ≠ .requested t := by
    rintro t rfl
    simp at he
  have hpub : publishedTransfers (e :: history) = publishedTransfers history := by
    rcases he with ⟨t, rfl⟩ | ⟨c, rfl⟩ <;> rfl
  have htaken : takenTransfers (e :: history) = takenTransfers history := by
    rcases he with ⟨t, rfl⟩ | ⟨c, rfl⟩ <;> rfl
  have hinterrupts : takenInterrupts (e :: history) = takenInterrupts history := by
    rcases he with ⟨t, rfl⟩ | ⟨c, rfl⟩ <;> rfl
  have hsame : ∀ other, other ≠ channel → d'.channels other = d.channels other := by
    intro other hne
    rw [hchannels, Function.update_of_ne hne]
  have hgrows : ∀ other, (d.channels other).generation ≤ (d'.channels other).generation := by
    intro other
    rcases eq_or_ne other channel with rfl | hne
    · rw [hchannels, Function.update_self, hstate]
      exact Nat.le_succ _
    · exact Nat.le_of_eq (by rw [hsame other hne])
  constructor
  · intro other t ht
    rcases eq_or_ne other channel with rfl | hne
    · exact hself t ht
    · rw [hother other hne] at ht
      rw [tokenOf, hsame other hne]
      exact h.latest_eq other t ht
  · intro other
    rcases eq_or_ne other channel with rfl | hne
    · have hchannel : d'.channels other = state := by rw [hchannels, Function.update_self]
      rw [hchannel]
      exact hphase
    · rw [tokenOf, hsame other hne]
      exact (h.phase_ok other).cons (hother other hne) (hpublished _) (hrequested _)
  · intro t ht
    exact generation_le (hgrows _)
      (h.published_le t ((List.mem_cons.1 ht).resolve_left fun heq => hpublished t heq.symm))
  · rw [hpub]
    exact h.published_nodup
  · intro t ht
    exact generation_le (hgrows _)
      (h.requested_le t ((List.mem_cons.1 ht).resolve_left fun heq => hrequested t heq.symm))
  · rw [hready]
    exact h.ready_nodup.sublist (List.filter_sublist.map _)
  · intro r hr
    rw [hready] at hr
    obtain ⟨hmem, hne⟩ := List.mem_filter.1 hr
    have hne : r.transfer.channel ≠ channel := of_decide_eq_true hne
    rw [tokenOf, hsame _ hne]
    obtain ⟨heq, hreq, hphase⟩ := h.ready_ok r hmem
    exact ⟨heq, List.mem_cons_of_mem _ hreq, hphase.imp_right (List.mem_cons_of_mem _)⟩
  · intro t ht
    rw [htaken] at ht
    obtain ⟨hreq, hne⟩ := h.taken_ok t ht
    refine ⟨List.mem_cons_of_mem _ hreq, fun r hr => hne r ?_⟩
    rw [hready] at hr
    exact List.mem_of_mem_filter hr
  · rw [hinterrupts, hpending, hpub]
    exact h.interrupts_eq
  · rw [hdstat]
    exact h.dstat_ok

theorem Tracks.beginDmacTransfer (h : Tracks d history) (channel : DmacChannel)
    (hwrap : (d.channels channel).generation < 2 ^ 64 - 1) :
    Tracks (d.beginDmacTransfer channel).2
      (d.event (.beginDmacTransfer channel) :: history) := by
  rcases d.beginDmacTransfer_cases channel with
    ⟨-, heq⟩ | ⟨-, htoken, hchannels, hready, hpending, hdstat⟩
  · have he : d.event (.beginDmacTransfer channel) = .refused := by
      simp [event, heq]
    rw [he, heq]
    exact h.refused
  rw [nextDmacSequence_of_lt hwrap] at htoken hchannels
  let token : DmacTransferToken :=
    { channel := channel, generation := (d.channels channel).generation + 1 }
  have he : d.event (.beginDmacTransfer channel) = .begun token := by
    simp [event, htoken, token]
  have hself : (d.beginDmacTransfer channel).2.tokenOf channel = token := by
    rw [tokenOf, hchannels, Function.update_self]
  have hlatest : latestTransfer channel (.begun token :: history) = some token := if_pos rfl
  rw [he]
  refine h.advance hchannels rfl hready hpending hdstat (.inl ⟨token, rfl⟩) ?_ ?_ ?_
  · intro t ht
    rw [hself]
    exact (Option.some.inj (hlatest.symm.trans ht)).symm
  · exact fun other hne => if_neg hne.symm
  · -- a token of the next generation was neither requested nor published
    rw [hself]
    refine ⟨hlatest, fun hmem => ?_, fun hmem => ?_⟩
    · have hle := h.published_le token (by simpa using hmem)
      simp only [token] at hle
      omega
    · have hle := h.requested_le token (by simpa using hmem)
      simp only [token] at hle
      omega

theorem Tracks.cancelDmacTransfer (h : Tracks d history) (channel : DmacChannel)
    (hwrap : (d.channels channel).generation < 2 ^ 64 - 1) :
    Tracks (d.cancelDmacTransfer channel).2
      (d.event (.cancelDmacTransfer channel) :: history) := by
  rcases d.cancelDmacTransfer_cases channel with
    ⟨hcount, heq⟩ | ⟨hcount, hchannels, hready, hpending, hdstat⟩
  · have he : d.event (.cancelDmacTransfer channel) = .refused :=
      if_pos (count_le_index.2 hcount)
    rw [he, heq]
    exact h.refused
  have he : d.event (.cancelDmacTransfer channel) = .cancelled channel :=
    if_neg fun hle => hcount (count_le_index.1 hle)
  have hlatest : latestTransfer channel (.cancelled channel :: history) = none := if_pos rfl
  rw [nextDmacSequence_of_lt hwrap] at hchannels
  rw [he]
  refine h.advance hchannels rfl hready hpending hdstat (.inr ⟨channel, rfl⟩) ?_ ?_ ?_
  · intro t ht
    rw [hlatest] at ht
    cases ht
  · exact fun other hne => if_neg hne.symm
  · exact .inl hlatest

/-- A channel changes its phase within its generation. -/
theorem tokenOf_of_phase {d' : Dmac} {p : DmacChannelPhase}
    (hchannels : d'.channels =
      Function.update d.channels channel { d.channels channel with phase := p }) :
    (∀ other, (d'.channels other).generation = (d.channels other).generation) ∧
      ∀ other, d'.tokenOf other = d.tokenOf other := by
  have hgeneration : ∀ other, (d'.channels other).generation = (d.channels other).generation := by
    intro other
    rw [hchannels]
    rcases eq_or_ne other channel with rfl | hne
    · rw [Function.update_self]
    · rw [Function.update_of_ne hne]
  refine ⟨hgeneration, fun other => ?_⟩
  rw [tokenOf, tokenOf, hgeneration]

theorem Tracks.requestDmacCompletion (h : Tracks d history) (t : DmacTransferToken) :
    Tracks (d.requestDmacCompletion t).2
      (d.event (.requestDmacCompletion t) :: history) := by
  rcases d.requestDmacCompletion_cases t with
    ⟨-, heq⟩ | ⟨hholds, htrue, hchannels, hready, hpending, hregisters⟩
  · have he : d.event (.requestDmacCompletion t) = .refused := by
      simp [event, heq]
    rw [he, heq]
    exact h.refused
  obtain ⟨-, -, htoken, hactive⟩ := hholds
  have he : d.event (.requestDmacCompletion t) = .requested t := if_pos htrue
  rw [he]
  have hphase := h.phase_ok t.channel
  rw [hactive, ← htoken] at hphase
  obtain ⟨hlatest, hunpublished, hunrequested⟩ := hphase
  obtain ⟨hgeneration, htokens⟩ := tokenOf_of_phase hchannels
  have hmem : ∀ t', .published t' ∈ (.requested t :: history) ↔ .published t' ∈ history := by
    intro t'
    simp
  -- no request of the channel is in the queue: it would be one of this transfer
  have hfree : ∀ r ∈ d.readyCompletions, r.transfer.channel ≠ t.channel := by
    intro r hr heq
    obtain ⟨hr', hreq, -⟩ := h.ready_ok r hr
    rw [heq, ← htoken] at hr'
    rw [hr'] at hreq
    exact hunrequested hreq
  constructor
  · intro other t' ht'
    rw [htokens]
    exact h.latest_eq other t' ht'
  · intro other
    rw [htokens, hchannels]
    rcases eq_or_ne other t.channel with rfl | hne
    · rw [Function.update_self, ← htoken]
      exact ⟨hlatest, fun hp => hunpublished ((hmem t).1 hp), List.mem_cons_self⟩
    · rw [Function.update_of_ne hne]
      refine (h.phase_ok other).cons rfl (by simp) fun heq => hne ?_
      exact (congrArg DmacTransferToken.channel (DmacEvent.requested.inj heq)).symm
  · intro t' ht'
    rw [hgeneration]
    exact h.published_le t' ((hmem t').1 ht')
  · exact h.published_nodup
  · intro t' ht'
    rw [hgeneration]
    rcases List.mem_cons.1 ht' with heq | hold
    · obtain rfl := DmacEvent.requested.inj heq
      exact Nat.le_of_eq (congrArg DmacTransferToken.generation htoken)
    · exact h.requested_le t' hold
  · rw [hready, List.map_append]
    refine h.ready_nodup.append (List.nodup_singleton _) ?_
    intro c hc hc'
    obtain ⟨r, hr, rfl⟩ := List.mem_map.1 hc
    exact hfree r hr (List.mem_singleton.1 hc')
  · intro r hr
    rw [hready, List.mem_append, List.mem_singleton] at hr
    rw [htokens, hchannels]
    rcases hr with hr | rfl
    · obtain ⟨heq, hreq, hphase⟩ := h.ready_ok r hr
      rw [Function.update_of_ne (hfree r hr)]
      exact ⟨heq, List.mem_cons_of_mem _ hreq, hphase.imp_right (List.mem_cons_of_mem _)⟩
    · exact ⟨htoken, List.mem_cons_self, .inl (by rw [Function.update_self])⟩
  · intro t' ht'
    obtain ⟨hreq, hne⟩ := h.taken_ok t' ht'
    refine ⟨List.mem_cons_of_mem _ hreq, fun r hr => ?_⟩
    rw [hready, List.mem_append, List.mem_singleton] at hr
    rcases hr with hr | rfl
    · exact hne r hr
    · rintro rfl
      exact hunrequested hreq
  · rw [hpending]
    exact h.interrupts_eq
  · rw [hregisters]
    exact h.dstat_ok

theorem Tracks.publishDmacCompletion (h : Tracks d history) (completion : DmacCompletionRequest)
    (eventSequence : ℕ) :
    Tracks (d.publishDmacCompletion completion eventSequence).2
      (d.event (.publishDmacCompletion completion eventSequence) :: history) := by
  rcases d.publishDmacCompletion_cases completion eventSequence with
    ⟨-, heq⟩ | ⟨hholds, htrue, hchannels, hready, hpending, hdstat⟩
  · have he : d.event (.publishDmacCompletion completion eventSequence) = .refused := by
      simp [event, heq]
    rw [he, heq]
    exact h.refused
  let t := completion.transfer
  obtain ⟨-, -, htoken, hphase⟩ : d.Holds t .CompletionReady := hholds
  have he : d.event (.publishDmacCompletion completion eventSequence) = .published t := if_pos htrue
  rw [he]
  have hunpublished : .published t ∉ history := by
    have hok := h.phase_ok t.channel
    rw [hphase, ← htoken] at hok
    exact hok.2.1
  obtain ⟨hgeneration, htokens⟩ := tokenOf_of_phase hchannels
  constructor
  · intro other t' ht'
    rw [htokens]
    exact h.latest_eq other t' ht'
  · intro other
    rw [htokens, hchannels]
    rcases eq_or_ne other t.channel with rfl | hne
    · rw [Function.update_self, ← htoken]
      exact .inr List.mem_cons_self
    · rw [Function.update_of_ne hne]
      refine (h.phase_ok other).cons rfl (fun heq => hne ?_) (by simp)
      exact (congrArg DmacTransferToken.channel (DmacEvent.published.inj heq)).symm
  · intro t' ht'
    rw [hgeneration]
    rcases List.mem_cons.1 ht' with heq | hold
    · obtain rfl := DmacEvent.published.inj heq
      exact Nat.le_of_eq (congrArg DmacTransferToken.generation htoken)
    · exact h.published_le t' hold
  · refine List.nodup_cons.2 ⟨fun hmem => hunpublished ?_, h.published_nodup⟩
    exact mem_publishedTransfers.1 hmem
  · intro t' ht'
    rw [hgeneration]
    exact h.requested_le t' (by simpa using ht')
  · rw [hready]
    exact h.ready_nodup
  · intro r hr
    rw [hready] at hr
    obtain ⟨heq, hreq, hok⟩ := h.ready_ok r hr
    rw [htokens, hchannels]
    refine ⟨heq, List.mem_cons_of_mem _ hreq, ?_⟩
    rcases eq_or_ne r.transfer.channel t.channel with hsame | hne
    · -- the request published was still in the queue
      rw [hsame, ← htoken] at heq
      rw [heq]
      exact .inr List.mem_cons_self
    · rw [Function.update_of_ne hne]
      exact hok.imp_right (List.mem_cons_of_mem _)
  · intro t' ht'
    rw [hready]
    obtain ⟨hreq, hne⟩ := h.taken_ok t' ht'
    exact ⟨List.mem_cons_of_mem _ hreq, hne⟩
  · have hpub : publishedTransfers (.published t :: history) =
        t :: publishedTransfers history := rfl
    have htaken : takenInterrupts (.published t :: history) = takenInterrupts history := rfl
    rw [hpending, htaken, ← List.append_assoc, List.map_append, h.interrupts_eq, hpub,
      List.reverse_cons]
    rfl
  · exact hdstat

/-! ## Runs -/

theorem Tracks.step (h : Tracks d history) (op : DmacOp) (hwrap : d.NoWrap op) :
    Tracks (d.step op) (d.event op :: history) := by
  cases op with
  | beginDmacTransfer channel => exact h.beginDmacTransfer channel hwrap
  | requestDmacCompletion t => exact h.requestDmacCompletion t
  | cancelDmacTransfer channel => exact h.cancelDmacTransfer channel hwrap
  | consumeReadyDmacCompletions =>
    exact h.quiet (fun _ => rfl) rfl (fun _ => by simp [event]) rfl (List.nil_sublist _)
      (fun t ht => ⟨ht, fun r hr => by cases hr⟩) rfl h.dstat_ok
  | publishDmacCompletion completion sequence => exact h.publishDmacCompletion completion sequence
  | consumePendingDmacInterrupts =>
    exact h.quiet (fun _ => rfl) rfl (fun _ => by simp [event]) rfl (List.Sublist.refl _)
      (fun _ ht => by cases ht) (List.append_nil _) h.dstat_ok
  | setDmacInterruptMask channel enabled =>
    have hset : (d.setDmacInterruptMask channel enabled = d) ∨
        (d.setDmacInterruptMask channel enabled).channels = d.channels ∧
          (d.setDmacInterruptMask channel enabled).readyCompletions = d.readyCompletions ∧
          (d.setDmacInterruptMask channel enabled).pendingInterrupts = d.pendingInterrupts ∧
          DStatOk ((d.setDmacInterruptMask channel enabled).ioRegisters kDStat) := by
      unfold Dmac.setDmacInterruptMask
      split
      · exact .inl rfl
      · refine .inr ⟨rfl, rfl, rfl, ?_⟩
        rw [ioRegisters_setRegister_self]
        exact dstatOk_refresh _
    have hevent : d.event (.setDmacInterruptMask channel enabled) = .written := rfl
    have hstep : d.step (.setDmacInterruptMask channel enabled) =
        d.setDmacInterruptMask channel enabled := rfl
    rw [hevent, hstep]
    rcases hset with hsame | ⟨hchannels, hready, hpending, hdstat⟩
    · rw [hsame]
      exact h.quiet (fun _ => rfl) rfl (fun _ => by simp) rfl (List.Sublist.refl _)
        (fun _ ht => by cases ht) rfl h.dstat_ok
    · exact h.quiet (fun _ => rfl) rfl (fun _ => by simp) hchannels
        (by rw [hready]) (fun _ ht => by cases ht) (by rw [hpending]; rfl) hdstat
  | writeDStat value byteEnable =>
    have hevent : d.event (.writeDStat value byteEnable) = .written := rfl
    have hstep : d.step (.writeDStat value byteEnable) = (d.writeDStat value byteEnable).2 := rfl
    rw [hevent, hstep]
    unfold Dmac.writeDStat
    split
    · exact h.quiet (fun _ => rfl) rfl (fun _ => by simp) rfl (List.Sublist.refl _)
        (fun _ ht => by cases ht) rfl h.dstat_ok
    · split
      · exact h.quiet (fun _ => rfl) rfl (fun _ => by simp) rfl (List.Sublist.refl _)
          (fun _ ht => by cases ht) rfl h.dstat_ok
      · refine h.quiet (fun _ => rfl) rfl (fun _ => by simp) rfl (List.Sublist.refl _)
          (fun _ ht => by cases ht) rfl ?_
        dsimp only
        rw [ioRegisters_setRegister_self]
        exact dstatOk_written _ _

theorem tracks_run (h : Tracks d history) {ops : List DmacOp} (hrun : Along step NoWrap d ops) :
    Tracks (run step d ops) ((outputs step event d ops).reverse ++ history) := by
  induction ops generalizing d history with
  | nil => exact h
  | cons op ops ih =>
    have htail := ih (h.step op hrun.1) hrun.2
    rw [run_cons, outputs, List.reverse_cons, List.append_assoc]
    exact htail

/-- **The lifecycle of transfers over every run.** The ready queue may keep the request of a
transfer that was published without having been taken from the queue, and only of such a one. -/
theorem lifecycle_safe {ops : List DmacOp} (hrun : Along step NoWrap {} ops) :
    let d := run step {} ops
    let history := historyOf ops
    (publishedTransfers history).Nodup ∧
    (∀ completion eventSequence, (d.publishDmacCompletion completion eventSequence).1 = true →
      latestTransfer completion.transfer.channel history = some completion.transfer ∧
        .requested completion.transfer ∈ history ∧ .published completion.transfer ∉ history) ∧
    (∀ t, latestTransfer t.channel history ≠ some t ∨ .published t ∈ history →
      d.requestDmacCompletion t = (false, d) ∧
        ∀ readySequence eventSequence,
          d.publishDmacCompletion { transfer := t, readySequence := readySequence }
            eventSequence = (false, d)) ∧
    ((d.readyCompletions.map (·.transfer.channel)).Nodup ∧
      ∀ r ∈ d.readyCompletions,
        r.transfer.generation = (d.channels r.transfer.channel).generation ∧
          ((d.channels r.transfer.channel).phase = .CompletionReady ∨
            .published r.transfer ∈ history ∧ r.transfer ∉ takenTransfers history)) ∧
    ((takenInterrupts history ++ d.pendingInterrupts).map (·.transfer) =
        (publishedTransfers history).reverse ∧
      ∀ completion eventSequence, (d.publishDmacCompletion completion eventSequence).1 = true →
        ∃ i : DmacPendingInterrupt, i.transfer = completion.transfer ∧
          (d.publishDmacCompletion completion eventSequence).2.pendingInterrupts =
            d.pendingInterrupts ++ [i]) ∧
    DStatOk (d.ioRegisters kDStat) := by
  intro d history
  have h : Tracks d history := by
    have hfinal := tracks_run tracks_initial hrun
    rw [List.append_nil] at hfinal
    exact hfinal
  -- a token that the channel still accepts is that of the latest transfer, not yet published
  have hcurrent : ∀ t phase, phase ≠ .Idle → d.Holds t phase →
      latestTransfer t.channel history = some t ∧ .published t ∉ history := by
    rintro t phase hbusy ⟨-, -, htoken, hphase⟩
    have hok := h.phase_ok t.channel
    rw [hphase, ← htoken] at hok
    cases phase with
    | Idle => exact absurd rfl hbusy
    | Active => exact ⟨hok.1, hok.2.1⟩
    | CompletionReady => exact ⟨hok.1, hok.2.1⟩
  refine ⟨h.published_nodup, ?_, ?_, ⟨h.ready_nodup, ?_⟩, ⟨h.interrupts_eq, ?_⟩, h.dstat_ok⟩
  · intro completion eventSequence htrue
    rcases d.publishDmacCompletion_cases completion eventSequence with ⟨-, heq⟩ | ⟨hholds, -⟩
    · rw [heq] at htrue
      cases htrue
    · obtain ⟨-, -, htoken, hphase⟩ := hholds
      have hok := h.phase_ok completion.transfer.channel
      rw [hphase, ← htoken] at hok
      exact ⟨hok.1, hok.2.2, hok.2.1⟩
  · intro t hstale
    have hnot : ∀ phase, phase ≠ .Idle → ¬ d.Holds t phase := by
      intro phase hbusy hholds
      obtain ⟨hlatest, hunpublished⟩ := hcurrent t phase hbusy hholds
      exact hstale.elim (fun hne => hne hlatest) hunpublished
    constructor
    · rcases d.requestDmacCompletion_cases t with ⟨-, heq⟩ | ⟨hholds, -⟩
      · exact heq
      · exact absurd hholds (hnot .Active (by decide))
    · intro readySequence eventSequence
      rcases d.publishDmacCompletion_cases { transfer := t, readySequence := readySequence }
        eventSequence with ⟨-, heq⟩ | ⟨hholds, -⟩
      · exact heq
      · exact absurd hholds (hnot .CompletionReady (by decide))
  · intro r hr
    obtain ⟨htoken, -, hphase⟩ := h.ready_ok r hr
    refine ⟨(eq_tokenOf_iff.1 htoken).symm, hphase.imp_right fun hpublished => ?_⟩
    exact ⟨hpublished, fun htaken => (h.taken_ok _ htaken).2 r hr rfl⟩
  · intro completion eventSequence htrue
    rcases d.publishDmacCompletion_cases completion eventSequence with
      ⟨-, heq⟩ | ⟨-, -, -, -, hpending, -⟩
    · rw [heq] at htrue
      cases htrue
    · exact ⟨_, rfl, hpending⟩

/-- A transfer on the GIF channel that is completed, and one that is cancelled after its completion
was requested. -/
theorem lifecycle_safe_gif :
    let ops : List DmacOp :=
      [.beginDmacTransfer .Gif, .requestDmacCompletion ⟨.Gif, 1⟩, .consumeReadyDmacCompletions,
        .publishDmacCompletion ⟨⟨.Gif, 1⟩, 1⟩ 7, .beginDmacTransfer .Gif,
        .requestDmacCompletion ⟨.Gif, 2⟩, .cancelDmacTransfer .Gif,
        .publishDmacCompletion ⟨⟨.Gif, 2⟩, 2⟩ 8]
    publishedTransfers (historyOf ops) = [⟨.Gif, 1⟩] ∧ (publishedTransfers (historyOf ops)).Nodup :=
  ⟨by decide, (lifecycle_safe (by decide)).1⟩

/-- A completion published while its request is still in the ready queue: the request stays there
and the channel is idle. -/
theorem ready_while_idle :
    let d := run step {}
      [.beginDmacTransfer .Gif, .requestDmacCompletion ⟨.Gif, 1⟩,
        .publishDmacCompletion ⟨⟨.Gif, 1⟩, 1⟩ 7]
    ∃ r ∈ d.readyCompletions, (d.channels r.transfer.channel).phase ≠ .CompletionReady :=
  ⟨⟨⟨.Gif, 1⟩, 1⟩, by decide, by decide⟩

/-- Publishing all that is ready is taking the queue and publishing what was in it. -/
theorem publishReadyDmacCompletions_eq_run (d : Dmac) (eventSequence : ℕ) :
    (d.publishReadyDmacCompletions eventSequence).2 =
      run step d (.consumeReadyDmacCompletions ::
        d.readyCompletions.map (.publishDmacCompletion · eventSequence)) := by
  have hloop : ∀ (publish : ℕ × Dmac → DmacCompletionRequest → ℕ × Dmac),
      (∀ s completion, (publish s completion).2 =
        step s.2 (.publishDmacCompletion completion eventSequence)) →
      ∀ (completions : List DmacCompletionRequest) (s : ℕ × Dmac),
        (completions.foldl publish s).2 =
          run step s.2 (completions.map (.publishDmacCompletion · eventSequence)) := by
    intro publish hpublish completions
    induction completions with
    | nil => exact fun _ => rfl
    | cons completion completions ih =>
      intro s
      rw [List.foldl_cons, ih, hpublish]
      rfl
  exact hloop _ (fun _ _ => rfl) _ _

end Dmac

end Ps2Recomp
