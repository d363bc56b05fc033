import Ps2Recomp.Dmac.IpuFifos

/-!
# The FIFOs of the IPU lose nothing

Whatever mix of CPU accesses, writes of the decoder, clears and advances of the two channels comes,
each operation takes the contents of a FIFO to its new contents by the events it reports
(`Carries`). `fifos_run` follows for whole runs.
-/

namespace Ps2Recomp

open Machine RingBuffer

namespace IpuDma

variable {m m' m'' : IpuDma} {events more : List IpuEvent}

/-- What happened to one of the FIFOs. -/
def eventsOf (fifo : IpuFifo) (events : List IpuEvent) : List (RingBuffer.Event Quadword) :=
  events.filterMap fun event => if event.1 = fifo then some event.2 else none

theorem eventsOf_append (fifo : IpuFifo) :
    eventsOf fifo (events ++ more) = eventsOf fifo events ++ eventsOf fifo more :=
  List.filterMap_append

theorem eventsOf_map (fifo other : IpuFifo) (event : Quadword → RingBuffer.Event Quadword)
    (data : List Quadword) : eventsOf fifo (data.map fun quadword => (other, event quadword)) =
      if other = fifo then data.map event else [] := by
  unfold eventsOf
  rw [List.filterMap_map]
  split
  · rename_i heq
    simp only [Function.comp_def, if_pos heq]
    exact congrFun List.filterMap_eq_map data
  · rename_i hne
    simp only [Function.comp_def, if_neg hne]
    exact List.filterMap_none _

/-- The events are what happened to the FIFOs, and the rings are kept well. -/
def Carries (m : IpuDma) (events : List IpuEvent) (m' : IpuDma) : Prop :=
  ∀ fifo, (m.fifo fifo).WellFormed (capacity fifo) →
    (m'.fifo fifo).WellFormed (capacity fifo) ∧
      Path (Step (capacity fifo)) ((m.fifo fifo).contents (capacity fifo)) (eventsOf fifo events)
        ((m'.fifo fifo).contents (capacity fifo))

namespace Carries

theorem of_eq (hfifo : ∀ fifo, m'.fifo fifo = m.fifo fifo) : Carries m [] m' := by
  intro fifo hwell
  rw [hfifo]
  exact ⟨hwell, Path.nil _⟩

theorem trans (h : Carries m events m') (h' : Carries m' more m'') :
    Carries m (events ++ more) m'' := by
  intro fifo hwell
  obtain ⟨hwell', hpath⟩ := h fifo hwell
  obtain ⟨hwell'', hpath'⟩ := h' fifo hwell'
  refine ⟨hwell'', ?_⟩
  rw [eventsOf_append]
  exact path_append.2 ⟨_, hpath, hpath'⟩

/-- Afterwards nothing but the rings matters. -/
theorem congr (h : Carries m events m') (hfifo : ∀ fifo, m''.fifo fifo = m'.fifo fifo) :
    Carries m events m'' := by
  have hall := h.trans (of_eq hfifo)
  rwa [List.append_nil] at hall

end Carries

/-! ## Reads, writes and clears -/

/-- Only one FIFO differs. -/
def Others (fifo : IpuFifo) (m m' : IpuDma) : Prop := ∀ other ≠ fifo, m'.fifo other = m.fifo other

theorem others_output (h : m'.inputFifo = m.inputFifo) : Others .output m m' := by
  rintro (_ | _) hne
  · exact absurd rfl hne
  · exact h

theorem others_input (h : m'.outputFifo = m.outputFifo) : Others .input m m' := by
  rintro (_ | _) hne
  · exact h
  · exact absurd rfl hne

/-- What a FIFO does is what the state does. -/
theorem Carries.single {fifo : IpuFifo} (own : List (RingBuffer.Event Quadword))
    (hown : (m.fifo fifo).WellFormed (capacity fifo) →
      (m'.fifo fifo).WellFormed (capacity fifo) ∧
        Path (Step (capacity fifo)) ((m.fifo fifo).contents (capacity fifo)) own
          ((m'.fifo fifo).contents (capacity fifo)))
    (hevents : ∀ other, eventsOf other events = if fifo = other then own else [])
    (hothers : Others fifo m m') : Carries m events m' := by
  intro other hwell
  rw [hevents]
  split
  · rename_i heq
    subst heq
    exact hown hwell
  · rename_i hne
    rw [hothers other (Ne.symm hne)]
    exact ⟨hwell, Path.nil _⟩

theorem Carries.read (fifo : IpuFifo) {qwc : ℕ}
    (hself : m'.fifo fifo = ((m.fifo fifo).read (capacity fifo) qwc).2) (hothers : Others fifo m m') :
    Carries m (leaving fifo ((m.fifo fifo).read (capacity fifo) qwc).1) m' := by
  refine Carries.single _ (fun hwell => ?_) (fun other => eventsOf_map other fifo .left _) hothers
  rw [hself, contents_read hwell, read_fst hwell]
  have hpath := path_left (n := capacity fifo) (((m.fifo fifo).contents (capacity fifo)).take qwc)
    (((m.fifo fifo).contents (capacity fifo)).drop qwc)
  rw [List.take_append_drop] at hpath
  exact ⟨hwell.read qwc, hpath⟩

theorem Carries.write (fifo : IpuFifo) {data : List Quadword}
    (hself : m'.fifo fifo = ((m.fifo fifo).write (capacity fifo) data).2)
    (hothers : Others fifo m m') :
    Carries m (entering fifo (data.take ((m.fifo fifo).write (capacity fifo) data).1)) m' := by
  refine Carries.single _ (fun hwell => ?_) (fun other => eventsOf_map other fifo .entered _) hothers
  rw [hself, contents_write hwell]
  have hroom := count_accepted_le hwell data
  exact ⟨hwell.write data, path_entered (by rwa [length_contents])⟩

theorem Carries.clear {fifo : IpuFifo} {slots : ℕ → Quadword}
    (hself : m'.fifo fifo = { slots }) (hothers : Others fifo m m') :
    Carries m [(fifo, .cleared)] m' := by
  refine Carries.single [.cleared] (fun hwell => ?_) (fun other => ?_) hothers
  · rw [hself]
    have hpos : 0 < capacity fifo := Nat.zero_lt_of_lt hwell.read_lt
    exact ⟨⟨hpos, (Nat.zero_mod _).symm, Nat.zero_le _⟩, Path.cons (Step.cleared _) (Path.nil _)⟩
  · unfold eventsOf
    split
    · rename_i heq
      exact List.filterMap_cons_some (if_pos heq)
    · rename_i hne
      exact List.filterMap_cons_none (if_neg hne)

theorem carries_readIpuOutputFifo (m : IpuDma) (qwc : ℕ) :
    Carries m (leaving .output (m.readIpuOutputFifo qwc).1) (m.readIpuOutputFifo qwc).2 := by
  unfold readIpuOutputFifo
  split
  · exact Carries.of_eq fun _ => rfl
  · exact Carries.read .output rfl (others_output rfl)

theorem carries_writeIpuInputFifo (m : IpuDma) (data : List Quadword) :
    Carries m (entering .input (data.take (m.writeIpuInputFifo data).1))
      (m.writeIpuInputFifo data).2 := by
  unfold writeIpuInputFifo
  split
  · exact Carries.of_eq fun _ => rfl
  · exact Carries.write .input rfl (others_input rfl)

/-! ## The channel from the IPU -/

/-- **A slice that is not delivered changes nothing.** -/
theorem copyFromIpuDmaPayload_false {destinationAddress : BitVec 32} {qwc : ℕ}
    (h : (m.copyFromIpuDmaPayload destinationAddress qwc).1 = false) :
    (m.copyFromIpuDmaPayload destinationAddress qwc).2 = (m, []) := by
  unfold copyFromIpuDmaPayload at h ⊢
  split
  · rfl
  · rename_i hsome
    rw [if_neg hsome] at h
    split
    · rfl
    · rename_i hqwc
      rw [if_neg hqwc] at h
      split
      · rfl
      · rename_i hmapped
        rw [if_neg hmapped] at h
        -- so many quadwords are there
        have hlength : (m.readIpuOutputFifo qwc).1.length = qwc := by
          unfold readIpuOutputFifo
          rw [if_neg hsome]
          have hcount : ¬m.outputFifo.count < qwc := by
            intro hlt
            exact hqwc (by simp [hlt])
          exact (length_read _ qwc).trans (Nat.min_eq_left (Nat.not_lt.1 hcount))
        dsimp only at h ⊢
        rw [if_neg (not_not.2 hlength)] at h
        cases h

theorem carries_copyFromIpuDmaPayload (m : IpuDma) (destinationAddress : BitVec 32) (qwc : ℕ) :
    Carries m (m.copyFromIpuDmaPayload destinationAddress qwc).2.2
      (m.copyFromIpuDmaPayload destinationAddress qwc).2.1 := by
  have hread := carries_readIpuOutputFifo m qwc
  unfold copyFromIpuDmaPayload
  split
  · exact Carries.of_eq fun _ => rfl
  · split
    · exact Carries.of_eq fun _ => rfl
    · split
      · exact Carries.of_eq fun _ => rfl
      · dsimp only
        split
        · exact hread
        · exact hread.congr fun _ => rfl

theorem carries_transferFromIpuPayload (m : IpuDma) (result : FromIpuDmaAdvanceResult)
    (s : FromIpuDmaState) : Carries m (m.transferFromIpuPayload result s).2.2
      (m.transferFromIpuPayload result s).2.1 := by
  unfold transferFromIpuPayload
  split
  · split
    · exact Carries.of_eq fun _ => rfl
    · exact Carries.of_eq fun _ => rfl
  · dsimp only
    split
    · exact Carries.of_eq fun _ => rfl
    · have hcopy := carries_copyFromIpuDmaPayload m s.madr (min s.qwc m.outputFifo.count)
      split
      · exact hcopy.congr fun _ => rfl
      · exact hcopy.congr fun _ => rfl

theorem carries_advanceFromIpuDma (m : IpuDma) (current : Bool) :
    Carries m (m.advanceFromIpuDma current).2.2 (m.advanceFromIpuDma current).2.1 := by
  have hsame : ∀ s, Carries m [] { m with fromIpuDma := s } := fun _ => Carries.of_eq fun _ => rfl
  unfold advanceFromIpuDma
  dsimp only
  split
  · exact hsame _
  · split
    · exact hsame _
    · split
      · exact hsame _
      · split
        · exact hsame _
        · split
          · exact hsame _
          · split
            · exact hsame _
            · exact carries_transferFromIpuPayload m _ _
            · exact hsame _

theorem carries_drainFromIpuDma (current : Bool) (transitions : ℕ) (m : IpuDma) :
    Carries m (drainFromIpuDma current transitions m).2
      (drainFromIpuDma current transitions m).1 := by
  induction transitions generalizing m with
  | zero => exact Carries.of_eq fun _ => rfl
  | succ transitions ih =>
    have hadvance := carries_advanceFromIpuDma m current
    unfold drainFromIpuDma
    split
    · exact Carries.of_eq fun _ => rfl
    · dsimp only
      split
      · exact hadvance
      · split
        · exact hadvance
        · split
          · exact hadvance
          · exact hadvance.trans (ih _)

theorem carries_wakeFromIpuDma (m : IpuDma) (scheduled current : Bool) :
    Carries m (m.wakeFromIpuDma scheduled current).2 (m.wakeFromIpuDma scheduled current).1 := by
  have hsame : ∀ s, Carries m [] { m with fromIpuDma := s } := fun _ => Carries.of_eq fun _ => rfl
  unfold wakeFromIpuDma
  dsimp only
  split
  · exact hsame _
  · split
    · exact hsame _
    · split
      · exact hsame _
      · split
        · exact hsame _
        · split
          · exact hsame _
          · split
            · exact hsame _
            · exact (hsame _).trans (carries_drainFromIpuDma current _ _)

theorem carries_writeIpuOutputFifo (m : IpuDma) (data : List Quadword) (scheduled current : Bool) :
    Carries m (m.writeIpuOutputFifo data scheduled current).2.2
      (m.writeIpuOutputFifo data scheduled current).2.1 := by
  unfold writeIpuOutputFifo
  split
  · exact Carries.of_eq fun _ => rfl
  · have hwritten : Carries m
        (entering .output (data.take (m.outputFifo.write kIpuOutputFifoCapacityQwc data).1))
        { m with outputFifo := (m.outputFifo.write kIpuOutputFifoCapacityQwc data).2 } :=
      Carries.write .output rfl (others_output rfl)
    dsimp only
    split
    · exact hwritten.trans (carries_wakeFromIpuDma _ scheduled current)
    · exact hwritten

/-- Nothing was consumed and nothing stored. -/
def Untouched (m : IpuDma) (events : List IpuEvent) (m' : IpuDma) : Prop :=
  (∀ fifo, m'.fifo fifo = m.fifo fifo) ∧ m'.memory = m.memory ∧ events = []

theorem untouched_fromIpuDma (m : IpuDma) (s : FromIpuDmaState) :
    Untouched m [] { m with fromIpuDma := s } := ⟨fun _ => rfl, rfl, rfl⟩

theorem transferFromIpuPayload_fault {result : FromIpuDmaAdvanceResult} {s : FromIpuDmaState}
    (hphase : s.phase = .TransferPayload)
    (h : (m.transferFromIpuPayload result s).1.phase = .Fault) :
    Untouched m (m.transferFromIpuPayload result s).2.2
      (m.transferFromIpuPayload result s).2.1 := by
  unfold transferFromIpuPayload at h ⊢
  split
  · split
    · exact untouched_fromIpuDma m _
    · exact untouched_fromIpuDma m _
  · rename_i hsome
    rw [if_neg hsome] at h
    dsimp only at h ⊢
    split
    · exact untouched_fromIpuDma m _
    · rename_i hslice
      rw [if_neg hslice] at h
      split
      · rename_i hundelivered
        have hcopy := copyFromIpuDmaPayload_false (Bool.not_eq_true' _ ▸ hundelivered)
        obtain ⟨hstate, hevents⟩ := Prod.ext_iff.1 hcopy
        dsimp only at hstate hevents ⊢
        rw [hstate, hevents]
        exact untouched_fromIpuDma m _
      · -- a slice that was delivered reports no fault
        rename_i hdelivered
        rw [if_neg hdelivered] at h
        dsimp only [FromIpuDmaState.publishFromIpuDmaRegisters] at h
        rw [hphase] at h
        split at h <;> cases h

/-- **An advance of the channel from the IPU that reports a fault** has consumed and stored
nothing. -/
theorem advanceFromIpuDma_fault {current : Bool}
    (h : (m.advanceFromIpuDma current).1.phase = .Fault) :
    Untouched m (m.advanceFromIpuDma current).2.2 (m.advanceFromIpuDma current).2.1 := by
  unfold advanceFromIpuDma at h ⊢
  dsimp only at h ⊢
  split
  · exact untouched_fromIpuDma m _
  · rename_i hactive
    rw [if_neg hactive] at h
    split
    · exact untouched_fromIpuDma m _
    · rename_i hcurrent
      rw [if_neg hcurrent] at h
      split
      · exact untouched_fromIpuDma m _
      · rename_i hmode
        rw [if_neg hmode] at h
        split
        · exact untouched_fromIpuDma m _
        · rename_i hfault
          rw [if_neg hfault] at h
          split
          · exact untouched_fromIpuDma m _
          · rename_i henabled
            rw [if_neg henabled] at h
            revert h
            split
            · exact fun _ => untouched_fromIpuDma m _
            · rename_i hphase
              exact transferFromIpuPayload_fault hphase
            · exact fun _ => untouched_fromIpuDma m _

/-! ## The channel to the IPU -/

/-- Where there is room for all quadwords all are taken. -/
theorem writeIpuInputFifo_quadwords (payload : List UInt8) {qwc : ℕ} (hsome : qwc ≠ 0)
    (hroom : ¬kIpuInputFifoCapacityQwc - min m.inputFifo.count kIpuInputFifoCapacityQwc < qwc) :
    (m.writeIpuInputFifo (quadwords payload qwc)).1 = qwc := by
  have hlength : (quadwords payload qwc).length = qwc := by
    rw [quadwords, List.length_map, List.length_range]
  unfold writeIpuInputFifo
  rw [hlength, if_neg hsome]
  change min (quadwords payload qwc).length _ = qwc
  rw [hlength]
  exact Nat.min_eq_left (Nat.not_lt.1 hroom)

theorem length_ipuPayload {memory : DmaMemory} {address : BitVec 32} {qwc : ℕ}
    {payload : List UInt8} (h : memory.ipuPayload address qwc = some payload) :
    payload.length = 16 * qwc := by
  induction qwc generalizing address payload with
  | zero =>
    cases h
    rfl
  | succ qwc ih =>
    have hquadword : ∀ {quadword}, memory.ipuQuadword address = some quadword →
        quadword.length = 16 := by
      intro quadword hread
      unfold DmaMemory.ipuQuadword DmaMemory.read at hread
      dsimp only at hread
      split at hread
      · cases hread
        rw [List.length_map, List.length_range]
      · split at hread
        · cases hread
          rw [List.length_map, List.length_range]
        · split at hread
          · cases hread
            exact List.length_replicate
          · cases hread
    unfold DmaMemory.ipuPayload at h
    split at h
    · rename_i quadword rest hread hrest
      cases h
      rw [List.length_append, hquadword hread, ih hrest, Nat.mul_succ, Nat.add_comm]
    · cases h

/-- The slice of the channel is the one of `copyToIpuDmaPayload`: undelivered where the channel
faults, in the FIFO where it does not. -/
theorem copyToIpuDmaPayload_eq (m : IpuDma) (s : ToIpuDmaState)
    (hphase : s.phase = .TransferPayload) :
    let slice := min s.qwc
      (kIpuInputFifoCapacityQwc - min m.inputFifo.count kIpuInputFifoCapacityQwc)
    let next := s.transferPayload m.memory m.inputFifo.count
    m.copyToIpuDmaPayload s.madr slice =
      (decide (next.1.phase ≠ .Fault), (deliver m next.2).1) := by
  intro slice next
  have hroom : ¬kIpuInputFifoCapacityQwc - min m.inputFifo.count kIpuInputFifoCapacityQwc < slice :=
    Nat.not_lt.2 (Nat.min_le_right _ _)
  have hnext : next = s.transferPayload m.memory m.inputFifo.count := rfl
  unfold ToIpuDmaState.transferPayload at hnext
  unfold copyToIpuDmaPayload
  rw [if_neg hroom]
  cases hpayload : m.memory.ipuPayload s.madr slice with
  | none =>
    have hsome : slice ≠ 0 := by
      intro hzero
      rw [hzero] at hpayload
      cases hpayload
    have hfault : next = (s.fault, []) := by
      rw [hnext]
      dsimp only
      rw [show m.memory.ipuPayload s.madr (min s.qwc _) = none from hpayload]
    rw [if_neg hsome, hfault]
    rfl
  | some payload =>
    have hdelivered : next.1.phase ≠ .Fault ∧
        next.2 = if slice = 0 then [] else [.writeIpuInputFifo payload] := by
      rw [hnext]
      dsimp only
      rw [show m.memory.ipuPayload s.madr (min s.qwc _) = some payload from hpayload]
      refine ⟨?_, rfl⟩
      simp only [ToIpuDmaState.publishToIpuDmaRegisters, hphase]
      split_ifs <;> decide
    rw [decide_eq_true hdelivered.1, hdelivered.2]
    split
    · rfl
    · rename_i hsome
      have hqwc : payload.length / 16 = slice := by
        rw [length_ipuPayload hpayload, Nat.mul_div_cancel_left _ (by decide)]
      dsimp only [deliver]
      rw [hqwc, decide_eq_true (writeIpuInputFifo_quadwords payload hsome hroom)]

theorem carries_deliver (m : IpuDma) (delivered : List ToIpuDmaEvent) :
    Carries m (deliver m delivered).2 (deliver m delivered).1 := by
  induction delivered generalizing m with
  | nil => exact Carries.of_eq fun _ => rfl
  | cons event rest ih =>
    cases event with
    | tag => exact ih m
    | writeIpuInputFifo payload => exact (carries_writeIpuInputFifo m _).trans (ih _)
    | requestDmacCompletion => exact ih m

theorem carries_advanceToIpuDma (m : IpuDma) (current : Bool) :
    Carries m (m.advanceToIpuDma current).2 (m.advanceToIpuDma current).1 := by
  have hsame : ∀ s, Carries m [] { m with toIpuDma := s } := fun _ => Carries.of_eq fun _ => rfl
  unfold advanceToIpuDma
  split
  · exact hsame _
  · exact (hsame _).trans (carries_deliver _ _)

/-- What a faulting advance of the channel emits. -/
theorem toIpuDma_fault {memory : DmaMemory} {s : ToIpuDmaState} {conditions : ToIpuDmaConditions}
    (h : (s.advanceToIpuDma memory conditions).1.phase = .Fault) (payload : List UInt8) :
    .writeIpuInputFifo payload ∉ (s.advanceToIpuDma memory conditions).2 := by
  have htransfer : ∀ {s : ToIpuDmaState} {count : ℕ}, s.phase = .TransferPayload →
      (s.transferPayload memory count).1.phase = .Fault →
        (s.transferPayload memory count).2 = [] := by
    intro s count hphase h
    unfold ToIpuDmaState.transferPayload at h ⊢
    dsimp only at h ⊢
    revert h
    split
    · exact fun _ => rfl
    · intro h
      simp only [ToIpuDmaState.publishToIpuDmaRegisters, hphase] at h
      split_ifs at h
  have hfetch : .writeIpuInputFifo payload ∉ (s.fetchTag memory).2 := by
    unfold ToIpuDmaState.fetchTag
    split
    · exact List.not_mem_nil
    · split
      · exact List.not_mem_nil
      · split
        · exact List.not_mem_nil
        · simp
  unfold ToIpuDmaState.advanceToIpuDma at h ⊢
  split
  · exact List.not_mem_nil
  · rename_i hactive
    rw [if_neg hactive] at h
    split
    · exact List.not_mem_nil
    · rename_i hmode
      rw [if_neg hmode] at h
      split
      · exact List.not_mem_nil
      · rename_i henabled
        rw [if_neg henabled] at h
        split
        · simp
        · rename_i hfinal
          rw [if_neg hfinal] at h
          split
          · exact List.not_mem_nil
          · rename_i hfull
            rw [if_neg hfull] at h
            revert h
            split
            · dsimp only
              split
              · rename_i hphase
                intro h
                rw [htransfer hphase h, List.append_nil]
                exact hfetch
              · exact fun _ => hfetch
            · rename_i hphase
              intro h
              rw [htransfer hphase h]
              exact List.not_mem_nil
            · exact fun _ => List.not_mem_nil

theorem deliver_none {delivered : List ToIpuDmaEvent}
    (h : ∀ payload, .writeIpuInputFifo payload ∉ delivered) : deliver m delivered = (m, []) := by
  induction delivered with
  | nil => rfl
  | cons event rest ih =>
    have hrest := ih fun payload hmem => h payload (List.mem_cons_of_mem _ hmem)
    cases event with
    | tag => exact hrest
    | writeIpuInputFifo payload => exact absurd List.mem_cons_self (h payload)
    | requestDmacCompletion => exact hrest

/-- **An advance of the channel to the IPU that ends in a fault** has stored nothing. -/
theorem advanceToIpuDma_fault {current : Bool}
    (h : (m.advanceToIpuDma current).1.toIpuDma.phase = .Fault) :
    Untouched m (m.advanceToIpuDma current).2 (m.advanceToIpuDma current).1 := by
  have htoIpuDma : ∀ (m : IpuDma) (delivered : List ToIpuDmaEvent),
      (deliver m delivered).1.toIpuDma = m.toIpuDma := by
    have hwritten : ∀ (m : IpuDma) (data : List Quadword),
        (m.writeIpuInputFifo data).2.toIpuDma = m.toIpuDma := by
      intro m data
      unfold writeIpuInputFifo
      split <;> rfl
    intro m delivered
    induction delivered generalizing m with
    | nil => rfl
    | cons event rest ih =>
      cases event with
      | tag => exact ih m
      | writeIpuInputFifo payload =>
        exact (ih _).trans (hwritten m _)
      | requestDmacCompletion => exact ih m
  unfold advanceToIpuDma at h ⊢
  split
  · exact ⟨fun _ => rfl, rfl, rfl⟩
  · rename_i hcurrent
    rw [if_neg hcurrent] at h
    dsimp only at h ⊢
    rw [htoIpuDma] at h
    rw [deliver_none (toIpuDma_fault h)]
    exact ⟨fun _ => rfl, rfl, rfl⟩

/-! ## Runs -/

theorem carries_perform (m : IpuDma) (op : IpuOp) : Carries m (m.events op) (m.step op) := by
  unfold events step
  cases op with
  | readIpuOutputFifo qwc => exact carries_readIpuOutputFifo m qwc
  | writeIpuOutputFifo data scheduled current =>
    exact carries_writeIpuOutputFifo m data scheduled current
  | writeIpuInputFifo data => exact carries_writeIpuInputFifo m data
  | clearIpuOutputFifo => exact Carries.clear rfl (others_output rfl)
  | clearIpuInputFifo => exact Carries.clear rfl (others_input rfl)
  | advanceFromIpuDma current => exact carries_advanceFromIpuDma m current
  | advanceToIpuDma current => exact carries_advanceToIpuDma m current
  | wakeFromIpuDma scheduled current => exact carries_wakeFromIpuDma m scheduled current
  | startFromIpuDma | startToIpuDma | cancelFromIpuDma | cancelToIpuDma
  | setFromIpuDmaEventPending | setDmacEnabled | storeMemory =>
    exact Carries.of_eq fun _ => rfl

/-- A run takes the contents of a FIFO to its contents by all the events. -/
theorem carries_run (m : IpuDma) (ops : List IpuOp) :
    Carries m (outputs step IpuDma.events m ops).flatten (run step m ops) := by
  induction ops generalizing m with
  | nil => exact Carries.of_eq fun _ => rfl
  | cons op rest ih => exact (carries_perform m op).trans (ih _)

end IpuDma

end Ps2Recomp
