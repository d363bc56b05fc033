import Ps2Recomp.Event.Order
import Ps2Recomp.Lib.SlotBook

/-!
# The event scheduler loses and duplicates nothing

A run is cut into acts: a call, a reset, the begin of a service, taking the next event, the end of a
service. `EventOp.acts` gives the acts of an operation, those of `serviceDue` with the calls its
visitor makes between the events it is handed, and `run_acts` says that they make the same
scheduler. So what holds of every list of acts holds also while a visitor is at work.

`Logged` keeps the `SlotBook` of what the answers of the acts report. `Tracks` relates it to the
scheduler: the book is valid, a slot is pending exactly if the book has a job there, whose token
carries the slot's generation, and the statistics are the book's counts. As long as generations do
not wrap (`Unwrapped`) no token is returned twice.
-/

namespace Ps2Recomp

open Machine SlotBook

namespace EeEventScheduler

/-! ## Acts -/

/-- One step of the scheduler. -/
inductive EventAct where
  | call (c : EventCall)
  | reset
  | begin (now : EeTick)
  | take (now : EeTick)
  | finish (limitHit : Bool)
  deriving DecidableEq

def EventAct.run (s : EeEventScheduler) : EventAct → EeEventScheduler
  | .call c => c.run s
  | .reset => s.reset
  | .begin now => { s with servicing := true, serviceTick := now }
  | .take now => (s.takeNextDue now).2
  | .finish limitHit =>
    { s with
      servicing := false
      statistics :=
        { s.statistics with
          serviceLimitHits :=
            if limitHit then s.statistics.serviceLimitHits + 1
            else s.statistics.serviceLimitHits } }

/-- The acts of one delivery after another: take the event, then make the visitor's calls. The
list is newest first, the acts are oldest first. -/
def deliveryActs (now : EeTick) (visitor : Visitor) : List Delivery → List EventAct
  | [] => []
  | d :: done =>
    deliveryActs now visitor done ++ .take now :: (visitor (d :: done)).1.map .call

/-- The acts of an operation other than `restore`. -/
def EventOp.acts (s : EeEventScheduler) : EventOp → List EventAct
  | .call c => [.call c]
  | .reset => [.reset]
  | .restore _ => []
  | .serviceDue now visitor =>
    let run := s.serviceRun now visitor
    .begin now :: deliveryActs now visitor run.deliveries ++
      [.finish (!run.threw && run.scheduler.deadlineDue now)]

/-- The acts of a run of operations. -/
def actsOf : EeEventScheduler → List EventOp → List EventAct
  | _, [] => []
  | s, op :: ops => EventOp.acts s op ++ actsOf (op.run s) ops

variable {s : EeEventScheduler}

theorem run_calls (s : EeEventScheduler) (calls : List EventCall) :
    run EventAct.run s (calls.map .call) = calls.foldl EventCall.run s := by
  induction calls generalizing s with
  | nil => rfl
  | cons c calls ih => exact ih _

/-- The loop of `serviceDue` makes the acts of its deliveries. -/
theorem run_serviceLoop (now : EeTick) (visitor : Visitor) {start : EeEventScheduler}
    {done : List Delivery} (hc : CacheOk s)
    (hs : run EventAct.run start (deliveryActs now visitor done) = s) (allowed : Nat) :
    run EventAct.run start
        (deliveryActs now visitor (serviceLoop now visitor s done allowed).deliveries) =
      (serviceLoop now visitor s done allowed).scheduler := by
  induction allowed generalizing s done with
  | zero => exact hs
  | succ allowed ih =>
    unfold serviceLoop
    rcases hc.takeNextDue_cases now with ⟨-, he⟩ | ⟨i, -, -, he⟩
    · rw [he]
      exact hs
    · rw [he]
      simp only
      have hstep : ∀ d : Delivery, run EventAct.run start
          (deliveryActs now visitor (d :: done)) =
            (visitor (d :: done)).1.foldl EventCall.run (s.taken now i) := by
        intro d
        rw [deliveryActs, run_append, hs, run_cons, run_calls]
        show List.foldl EventCall.run (s.takeNextDue now).2 _ = _
        rw [he]
      split
      · exact hstep _
      · exact ih (cacheOk_calls (cacheOk_taken s now i) _) (hstep _)

theorem finish_eq_act (run : ServiceRun) (now : EeTick) :
    (run.finish now).2 =
      EventAct.run run.scheduler (.finish (!run.threw && run.scheduler.deadlineDue now)) := by
  have hdue : deadlineDue { run.scheduler with servicing := false } now =
      run.scheduler.deadlineDue now := rfl
  unfold ServiceRun.finish EventAct.run
  simp only [hdue]
  cases run.threw with
  | true => rfl
  | false => cases run.scheduler.deadlineDue now <;> rfl

/-- The acts of an operation make its scheduler. -/
theorem run_acts {op : EventOp} (h : Idle s) (hop : ∀ state, op ≠ .restore state) :
    run EventAct.run s (EventOp.acts s op) = op.run s := by
  cases op with
  | call c => rfl
  | reset => rfl
  | restore state => exact absurd rfl (hop state)
  | serviceDue now visitor =>
    have hstart : CacheOk { s with servicing := true, serviceTick := now } :=
      h.cache.congr rfl rfl rfl rfl
    have hnone : run EventAct.run { s with servicing := true, serviceTick := now }
        (deliveryActs now visitor []) = { s with servicing := true, serviceTick := now } := rfl
    have hloop := run_serviceLoop now visitor hstart hnone kMaximumServicesPerBoundary
    show _ = (s.serviceDue now visitor).2
    rw [serviceDue_eq h.servicing, finish_eq_act, EventOp.acts, run_append, run_cons, run_cons,
      run_nil]
    unfold serviceRun
    rw [← hloop]
    rfl

theorem run_actsOf (h : Idle s) {ops : List EventOp}
    (hops : ∀ op ∈ ops, ∀ state, op ≠ .restore state) :
    run EventAct.run s (actsOf s ops) = run EventOp.run s ops := by
  induction ops generalizing s with
  | nil => rfl
  | cons op ops ih =>
    rw [actsOf, run_append, run_acts h (hops op List.mem_cons_self)]
    exact ih (idle_step s op h) fun o hm => hops o (List.mem_cons_of_mem _ hm)

/-! ## The book -/

/-- What the answer of an act reports, as a record of the book. A token is its generation: the
source is the slot. -/
def EventAct.record (s : EeEventScheduler) : EventAct → Option (Record EventIndex (Fin uint64Count))
  | .call (.scheduleAbsolute source deadline) =>
    source.slot.map fun i => .scheduled i (s.scheduleAbsolute source deadline).1.generation
  | .call (.scheduleAfter source now delay) =>
    source.slot.map fun i => .scheduled i (s.scheduleAfter source now delay).1.generation
  | .call (.cancel source) =>
    if (s.cancel source).1 then source.slot.map .cancelled else none
  | .call (.cancelToken token) =>
    if (s.cancelToken token).1 then token.source.slot.map .cancelled else none
  | .reset => some .reset
  | .take now =>
    (s.takeNextDue now).1.bind fun service =>
      service.source.slot.map fun i => .serviced i service.generation
  | .begin _ | .finish _ => none

/-- The scheduler and its book, newest record first. -/
structure Logged where
  scheduler : EeEventScheduler
  book : List (Record EventIndex (Fin uint64Count)) := []

/-- Make an act and log it. -/
def Logged.step (w : Logged) (act : EventAct) : Logged :=
  { scheduler := act.run w.scheduler
    book := (act.record w.scheduler).toList ++ w.book }

/-- The record comes with a new generation for slot `i`. -/
def advancing (i : EventIndex) : Record EventIndex (Fin uint64Count) → Bool
  | .scheduled j _ => j = i
  | .cancelled j => j = i
  | .serviced _ _ => false
  | .reset => true

/-- The times the generation of slot `i` was advanced. -/
def advances (i : EventIndex) (book : List (Record EventIndex (Fin uint64Count))) : Nat :=
  book.countP (advancing i)

/-- No counter has wrapped, from generations `start`: neither a generation nor a statistic. -/
structure Unwrapped (start : EventIndex → Fin uint64Count)
    (book : List (Record EventIndex (Fin uint64Count))) : Prop where
  generation : ∀ i, (start i).val + advances i book < uint64Count
  scheduled : (counts book).scheduled < uint64Count

instance (start : EventIndex → Fin uint64Count)
    (book : List (Record EventIndex (Fin uint64Count))) : Decidable (Unwrapped start book) :=
  decidable_of_iff
    ((∀ i, (start i).val + advances i book < uint64Count) ∧ (counts book).scheduled < uint64Count)
    ⟨fun h => ⟨h.1, h.2⟩, fun h => ⟨h.generation, h.scheduled⟩⟩

/-- What relates a slot, which started at generation `first`, and the book. -/
structure SlotTracks (first : Fin uint64Count) (i : EventIndex) (target : EventSlot)
    (book : List (Record EventIndex (Fin uint64Count))) : Prop where
  pending : target.pending = (live i book).isSome
  token : ∀ t, live i book = some t → target.generation = t
  generation : target.generation.val = first.val + advances i book
  issued : ∀ t, .scheduled i t ∈ book → t.val ≤ first.val + advances i book

/-- What relates the statistics and the book. -/
structure StatisticsTrack (statistics : EeEventSchedulerStatistics)
    (book : List (Record EventIndex (Fin uint64Count))) : Prop where
  scheduled : statistics.scheduled.val = (counts book).scheduled
  replaced : statistics.replaced.val = (counts book).replaced
  cancelled : statistics.cancelled.val = (counts book).cancelled
  serviced : statistics.serviced.val = (counts book).serviced

/-- What relates the scheduler and its book. -/
structure Tracks (start : EventIndex → Fin uint64Count) (w : Logged) : Prop where
  cache : CacheOk w.scheduler
  valid : Valid w.book
  slot : ∀ i, SlotTracks (start i) i (w.scheduler.slots i) w.book
  statistics : StatisticsTrack w.scheduler.statistics w.book

variable {start : EventIndex → Fin uint64Count} {first : Fin uint64Count} {w : Logged}
  {i : EventIndex} {target : EventSlot} {book : List (Record EventIndex (Fin uint64Count))}

/-! ## One slot -/

theorem val_add_one {value : Fin uint64Count} (h : value.val + 1 < uint64Count) :
    (value + 1).val = value.val + 1 := by
  rw [Fin.val_add]
  exact Nat.mod_eq_of_lt h

theorem nextNonzero_val {value : Fin uint64Count} (h : value.val + 1 < uint64Count) :
    (nextNonzero value).val = value.val + 1 := by
  have hval := val_add_one h
  unfold nextNonzero
  rw [if_neg, hval]
  intro h0
  rw [h0] at hval
  exact absurd hval.symm (Nat.succ_ne_zero _)

theorem advances_cons_of_advancing {r : Record EventIndex (Fin uint64Count)}
    (h : advancing i r = true) : advances i (r :: book) = advances i book + 1 := by
  unfold advances
  rw [List.countP_cons, if_pos h]

theorem advances_cons_of_not_advancing {r : Record EventIndex (Fin uint64Count)}
    (h : advancing i r = false) : advances i (r :: book) = advances i book := by
  unfold advances
  rw [List.countP_cons, h]
  rfl

/-- The generation of a slot, advanced with a record that does not wrap it. -/
theorem SlotTracks.nextGeneration (h : SlotTracks first i target book)
    {r : Record EventIndex (Fin uint64Count)} (hr : advancing i r = true)
    (hw : first.val + advances i (r :: book) < uint64Count) :
    (nextNonzero target.generation).val = first.val + advances i (r :: book) := by
  rw [advances_cons_of_advancing hr] at hw ⊢
  rw [nextNonzero_val] <;> rw [h.generation] <;> omega

/-- A record about another slot. -/
theorem SlotTracks.frame (h : SlotTracks first i target book)
    {r : Record EventIndex (Fin uint64Count)} (hr : r.ends i = false) :
    SlotTracks first i target (r :: book) := by
  have hadv : advancing i r = false := by
    cases r with
    | scheduled j t => exact hr
    | cancelled j => exact hr
    | serviced j t => rfl
    | reset => cases hr
  have hlive : live i (r :: book) = live i book := live_cons_of_not_ends hr
  refine ⟨?_, ?_, ?_, fun t hm => ?_⟩
  · rw [hlive]
    exact h.pending
  · rw [hlive]
    exact h.token
  · rw [advances_cons_of_not_advancing hadv]
    exact h.generation
  · rw [advances_cons_of_not_advancing hadv]
    rcases List.mem_cons.mp hm with rfl | hm
    · exact absurd hr (by simp [Record.ends])
    · exact h.issued t hm

theorem SlotTracks.issued_of_advancing (h : SlotTracks first i target book)
    {r : Record EventIndex (Fin uint64Count)} (hr : advancing i r = true)
    (hw : first.val + advances i (r :: book) < uint64Count)
    (hnew : ∀ t, r = .scheduled i t → t = nextNonzero target.generation)
    (t : Fin uint64Count) (hm : .scheduled i t ∈ r :: book) :
    t.val ≤ first.val + advances i (r :: book) := by
  rcases List.mem_cons.mp hm with heq | hm
  · rw [hnew t heq.symm]
    exact (h.nextGeneration hr hw).le
  · have hle := h.issued t hm
    rw [advances_cons_of_advancing hr]
    omega

theorem SlotTracks.scheduled (h : SlotTracks first i target book)
    (hw : first.val + advances i (.scheduled i (nextNonzero target.generation) :: book) <
      uint64Count) (deadline : EeTick) (sequence : Fin uint64Count) :
    SlotTracks first i
      { deadline := deadline
        generation := nextNonzero target.generation
        sequence := sequence
        pending := true }
      (.scheduled i (nextNonzero target.generation) :: book) := by
  have hadv : advancing i (.scheduled i (nextNonzero target.generation)) = true :=
    decide_eq_true rfl
  have hlive : live i (.scheduled i (nextNonzero target.generation) :: book) =
      some (nextNonzero target.generation) := if_pos rfl
  refine ⟨?_, ?_, h.nextGeneration hadv hw, h.issued_of_advancing hadv hw ?_⟩
  · rw [hlive]
    rfl
  · rw [hlive]
    exact fun t ht => Option.some.inj ht
  · rintro t ⟨⟩
    rfl

/-- The token a slot returns is new. -/
theorem SlotTracks.fresh (h : SlotTracks first i target book)
    (hw : first.val + advances i (.scheduled i (nextNonzero target.generation) :: book) <
      uint64Count) : .scheduled i (nextNonzero target.generation) ∉ book := by
  intro hm
  have hadv : advancing i (.scheduled i (nextNonzero target.generation)) = true :=
    decide_eq_true rfl
  have hle := h.issued _ hm
  rw [h.nextGeneration hadv hw, advances_cons_of_advancing hadv] at hle
  omega

/-- A record that ends the job of the slot and advances its generation. -/
theorem SlotTracks.ended (h : SlotTracks first i target book)
    {r : Record EventIndex (Fin uint64Count)} (hr : advancing i r = true)
    (hnot : ∀ t, r ≠ .scheduled i t) (hw : first.val + advances i (r :: book) < uint64Count)
    {after : EventSlot} (hp : after.pending = false)
    (hg : after.generation = nextNonzero target.generation) :
    SlotTracks first i after (r :: book) := by
  have hends : r.ends i = true := by
    cases r with
    | scheduled j t => exact hr
    | cancelled j => exact hr
    | serviced j t => cases hr
    | reset => rfl
  have hlive : live i (r :: book) = none := live_cons_of_ends hends hnot
  refine ⟨?_, ?_, ?_, h.issued_of_advancing hr hw fun t ht => absurd ht (hnot t)⟩
  · rw [hlive, hp]
    rfl
  · rw [hlive]
    exact nofun
  · rw [hg]
    exact h.nextGeneration hr hw

/-- A service ends the job of the slot and leaves its generation. -/
theorem SlotTracks.serviced (h : SlotTracks first i target book) (t : Fin uint64Count) :
    SlotTracks first i { target with pending := false } (.serviced i t :: book) := by
  have hlive : live i (.serviced i t :: book) = none := if_pos rfl
  refine ⟨?_, ?_, h.generation, fun t' hm => ?_⟩
  · rw [hlive]
    rfl
  · rw [hlive]
    exact nofun
  · rcases List.mem_cons.mp hm with heq | hm
    · cases heq
    · exact h.issued t' hm

/-- Every slot, after slot `i` was written and a record about it was made. -/
theorem slotTracks_update {slots : EventIndex → EventSlot}
    (h : ∀ j, SlotTracks (start j) j (slots j) book) {r : Record EventIndex (Fin uint64Count)}
    (hother : ∀ j, j ≠ i → r.ends j = false) (hi : SlotTracks (start i) i target (r :: book))
    (j : EventIndex) : SlotTracks (start j) j (Function.update slots i target j) (r :: book) := by
  rw [Function.update_apply]
  split
  · rename_i hj
    rw [hj]
    exact hi
  · rename_i hj
    exact (h j).frame (hother j hj)

/-! ## The statistics -/

/-- A statistic of a valid book is at most the jobs scheduled. -/
theorem counts_le (hv : Valid book) :
    (counts book).replaced ≤ (counts book).scheduled ∧
      (counts book).cancelled ≤ (counts book).scheduled ∧
      (counts book).serviced ≤ (counts book).scheduled := by
  have := hv.conservation
  omega

/-- A statistic that is incremented when its count is. -/
theorem val_of_increment {value : Fin uint64Count} {count : Nat} (h : value.val = count)
    (hw : count + 1 < uint64Count) : (value + 1).val = count + 1 := by
  rw [val_add_one (h ▸ hw), h]

theorem StatisticsTrack.scheduled' {statistics : EeEventSchedulerStatistics}
    (h : StatisticsTrack statistics book) {t : Fin uint64Count} (hv : Valid (.scheduled i t :: book))
    (hw : (counts (.scheduled i t :: book)).scheduled < uint64Count)
    (hp : target.pending = (live i book).isSome) (sameTickReschedules : Fin uint64Count) :
    StatisticsTrack
      { statistics with
        replaced := if target.pending then statistics.replaced + 1 else statistics.replaced
        scheduled := statistics.scheduled + 1
        sameTickReschedules := sameTickReschedules }
      (.scheduled i t :: book) := by
  have hle := (counts_le hv.tail).1
  have hw' : (counts book).scheduled + 1 < uint64Count := hw
  refine ⟨val_of_increment h.scheduled hw', ?_, h.cancelled, h.serviced⟩
  simp only [counts, ← hp]
  split
  · exact val_of_increment h.replaced (by omega)
  · exact h.replaced

theorem StatisticsTrack.cancelled' {statistics : EeEventSchedulerStatistics}
    (h : StatisticsTrack statistics book) (hv : Valid (.cancelled i :: book))
    (hw : (counts (.cancelled i :: book)).scheduled < uint64Count) :
    StatisticsTrack { statistics with cancelled := statistics.cancelled + 1 }
      (.cancelled i :: book) := by
  have hle := (counts_le hv).2.1
  exact ⟨h.scheduled, h.replaced, val_of_increment h.cancelled (lt_of_le_of_lt hle hw), h.serviced⟩

theorem StatisticsTrack.serviced' {statistics : EeEventSchedulerStatistics}
    (h : StatisticsTrack statistics book) {t : Fin uint64Count}
    (hv : Valid (.serviced i t :: book))
    (hw : (counts (.serviced i t :: book)).scheduled < uint64Count) (late : Fin uint64Count) :
    StatisticsTrack { statistics with serviced := statistics.serviced + 1, late := late }
      (.serviced i t :: book) := by
  have hle := (counts_le hv).2.2
  exact ⟨h.scheduled, h.replaced, h.cancelled, val_of_increment h.serviced (lt_of_le_of_lt hle hw)⟩

/-! ## One act -/

/-- What a job held in a slot says of the slot. -/
theorem Tracks.held_of_pending (h : Tracks start w) (hp : (w.scheduler.slots i).pending = true) :
    live i w.book = some (w.scheduler.slots i).generation := by
  have hsome := (h.slot i).pending
  rw [hp] at hsome
  obtain ⟨t, ht⟩ := Option.isSome_iff_exists.mp hsome.symm
  rw [(h.slot i).token t ht]
  exact ht

theorem tracks_scheduleAbsolute (h : Tracks start w) {source : EeEventSource}
    (deadline : EeTick) (hi : source.slot = some i)
    (hw : Unwrapped start (.scheduled i (w.scheduler.scheduleAbsolute source deadline).1.generation
      :: w.book)) :
    Tracks start ⟨(w.scheduler.scheduleAbsolute source deadline).2,
      .scheduled i (w.scheduler.scheduleAbsolute source deadline).1.generation :: w.book⟩ := by
  have hcache := cacheOk_scheduleAbsolute h.cache source deadline
  unfold scheduleAbsolute at hw hcache ⊢
  simp only [hi] at hw hcache ⊢
  have hfresh := (h.slot i).fresh (hw.generation i)
  have hvalid : Valid (.scheduled i (nextNonzero (w.scheduler.slots i).generation) :: w.book) :=
    ⟨hfresh, h.valid⟩
  refine ⟨hcache, hvalid, slotTracks_update h.slot ?_
    ((h.slot i).scheduled (hw.generation i) deadline _),
    h.statistics.scheduled' hvalid hw.scheduled (h.slot i).pending _⟩
  exact fun j hj => decide_eq_false (Ne.symm hj)

theorem tracks_cancel (h : Tracks start w) {source : EeEventSource} (hi : source.slot = some i)
    (hok : (w.scheduler.cancel source).1 = true)
    (hw : Unwrapped start (.cancelled i :: w.book)) :
    Tracks start ⟨(w.scheduler.cancel source).2, .cancelled i :: w.book⟩ := by
  have hcache := cacheOk_cancel h.cache source
  unfold cancel at hok hcache ⊢
  simp only [hi] at hok hcache ⊢
  split at hok
  · cases hok
  · rename_i hp
    rw [if_neg hp] at hcache ⊢
    rw [Bool.not_eq_true', Bool.not_eq_false] at hp
    have hvalid : Valid (.cancelled i :: w.book) := by
      refine ⟨?_, h.valid⟩
      rw [h.held_of_pending hp]
      rfl
    refine ⟨hcache, hvalid, slotTracks_update h.slot ?_ ?_,
      h.statistics.cancelled' hvalid hw.scheduled⟩
    · exact fun j hj => decide_eq_false (Ne.symm hj)
    · have hadv : advancing i (.cancelled i) = true := decide_eq_true rfl
      exact (h.slot i).ended hadv (fun t ht => nomatch ht) (hw.generation i) rfl rfl

/-- `cancel(EeEventToken)` cancels the slot if the token is the slot's own. -/
theorem cancelToken_cases (s : EeEventScheduler) (token : EeEventToken) :
    s.cancelToken token = (false, s) ∨ s.cancelToken token = s.cancel token.source := by
  unfold cancelToken
  cases token.source.slot with
  | none => exact Or.inl rfl
  | some index =>
    simp only
    split
    · exact Or.inl rfl
    · exact Or.inr rfl

theorem cancel_of_refused {s : EeEventScheduler} {source : EeEventSource}
    (h : (s.cancel source).1 = false) : (s.cancel source).2 = s := by
  unfold cancel at h ⊢
  cases hi : source.slot with
  | none => rfl
  | some index =>
    simp only [hi] at h ⊢
    split at h
    · rename_i hp
      rw [if_pos hp]
    · cases h

theorem slot_of_cancelled {s : EeEventScheduler} {source : EeEventSource}
    (h : (s.cancel source).1 = true) : ∃ i, source.slot = some i := by
  unfold cancel at h
  cases hi : source.slot with
  | none =>
    rw [hi] at h
    cases h
  | some index => exact ⟨index, rfl⟩

theorem tracks_taken (h : Tracks start w) (now : EeTick) (hp : (w.scheduler.slots i).pending = true)
    (hw : Unwrapped start (.serviced i (w.scheduler.slots i).generation :: w.book)) :
    Tracks start ⟨w.scheduler.taken now i,
      .serviced i (w.scheduler.slots i).generation :: w.book⟩ := by
  have hvalid : Valid (.serviced i (w.scheduler.slots i).generation :: w.book) :=
    ⟨h.held_of_pending hp, h.valid⟩
  refine ⟨cacheOk_taken _ now i, hvalid, slotTracks_update h.slot ?_ ((h.slot i).serviced _),
    h.statistics.serviced' hvalid hw.scheduled _⟩
  exact fun j hj => decide_eq_false (Ne.symm hj)

theorem tracks_reset (h : Tracks start w) (hw : Unwrapped start (.reset :: w.book)) :
    Tracks start ⟨w.scheduler.reset, .reset :: w.book⟩ :=
  ⟨cacheOk_recomputeNext _, h.valid,
    fun i => (h.slot i).ended rfl (by simp) (hw.generation i) rfl rfl,
    ⟨rfl, rfl, rfl, rfl⟩⟩

theorem step_of_record {act : EventAct} {r : Record EventIndex (Fin uint64Count)}
    (h : act.record w.scheduler = some r) : w.step act = ⟨act.run w.scheduler, r :: w.book⟩ := by
  unfold Logged.step
  rw [h]
  rfl

theorem step_of_no_record {act : EventAct} (h : act.record w.scheduler = none) :
    w.step act = ⟨act.run w.scheduler, w.book⟩ := by
  unfold Logged.step
  rw [h]
  rfl

/-- `scheduleAbsolute` keeps the book true, whether or not the source names a slot. -/
theorem tracks_step_schedule (h : Tracks start w) (source : EeEventSource) (deadline : EeTick)
    (hw : Unwrapped start (w.step (.call (.scheduleAbsolute source deadline))).book) :
    Tracks start (w.step (.call (.scheduleAbsolute source deadline))) := by
  cases hi : source.slot with
  | none =>
    have hrecord : EventAct.record w.scheduler (.call (.scheduleAbsolute source deadline)) =
        none := by
      simp only [EventAct.record, hi]
      rfl
    have hrun : (w.scheduler.scheduleAbsolute source deadline).2 = w.scheduler := by
      unfold scheduleAbsolute
      rw [hi]
    rw [step_of_no_record hrecord, EventAct.run, EventCall.run, hrun]
    exact h
  | some i =>
    have hrecord : EventAct.record w.scheduler (.call (.scheduleAbsolute source deadline)) =
        some (.scheduled i (w.scheduler.scheduleAbsolute source deadline).1.generation) := by
      simp only [EventAct.record, hi]
      rfl
    rw [step_of_record hrecord] at hw ⊢
    exact tracks_scheduleAbsolute h deadline hi hw

theorem tracks_step_cancel (h : Tracks start w) (source : EeEventSource)
    (hw : Unwrapped start (w.step (.call (.cancel source))).book) :
    Tracks start (w.step (.call (.cancel source))) := by
  cases hok : (w.scheduler.cancel source).1 with
  | false =>
    have hrecord : EventAct.record w.scheduler (.call (.cancel source)) = none := by
      simp only [EventAct.record, hok]
      rfl
    rw [step_of_no_record hrecord, EventAct.run, EventCall.run, cancel_of_refused hok]
    exact h
  | true =>
    obtain ⟨i, hi⟩ := slot_of_cancelled hok
    have hrecord : EventAct.record w.scheduler (.call (.cancel source)) = some (.cancelled i) := by
      simp only [EventAct.record, hok, hi]
      rfl
    rw [step_of_record hrecord] at hw ⊢
    exact tracks_cancel h hi hok hw

/-- `cancel(EeEventToken)` is a refusal or the cancel of its source. -/
theorem step_cancelToken (w : Logged) (token : EeEventToken) :
    w.step (.call (.cancelToken token)) = w ∨
      w.step (.call (.cancelToken token)) = w.step (.call (.cancel token.source)) := by
  unfold Logged.step EventAct.run EventCall.run EventAct.record
  rcases cancelToken_cases w.scheduler token with he | he
  · simp only [he]
    exact Or.inl rfl
  · simp only [he]
    exact Or.inr trivial

/-- **One act keeps the book true.** -/
theorem tracks_step (w : Logged) (act : EventAct) (h : Tracks start w)
    (hw : Unwrapped start (w.step act).book) : Tracks start (w.step act) := by
  cases act with
  | call c =>
    cases c with
    | scheduleAbsolute source deadline => exact tracks_step_schedule h source deadline hw
    | scheduleAfter source now delay =>
      exact tracks_step_schedule h source (saturatingAdd now delay) hw
    | cancel source => exact tracks_step_cancel h source hw
    | cancelToken token =>
      rcases step_cancelToken w token with he | he
      · rw [he]
        exact h
      · rw [he] at hw ⊢
        exact tracks_step_cancel h token.source hw
  | reset => exact tracks_reset h hw
  | begin now => exact ⟨h.cache.congr rfl rfl rfl rfl, h.valid, h.slot, h.statistics⟩
  | take now =>
    rcases h.cache.takeNextDue_cases now with ⟨-, he⟩ | ⟨i, hi, -, he⟩
    · have hrecord : EventAct.record w.scheduler (.take now) = none := by
        simp only [EventAct.record, he]
        rfl
      rw [step_of_no_record hrecord, EventAct.run, he]
      exact h
    · have hrecord : EventAct.record w.scheduler (.take now) =
          some (.serviced i (w.scheduler.slots i).generation) := by
        simp only [EventAct.record, he, serviceOf, Option.bind_some, EeEventSource.slot_ofIndex,
          Option.map_some]
      rw [step_of_record hrecord] at hw ⊢
      rw [EventAct.run, he]
      exact tracks_taken h now hi.1 hw
  | finish limitHit =>
    have hstatistics := h.statistics
    exact ⟨h.cache.congr rfl rfl rfl rfl, h.valid, h.slot, hstatistics.scheduled,
      hstatistics.replaced, hstatistics.cancelled, hstatistics.serviced⟩

/-! ## Runs -/

theorem run_scheduler (w : Logged) (acts : List EventAct) :
    (run Logged.step w acts).scheduler = run EventAct.run w.scheduler acts := by
  induction acts generalizing w with
  | nil => rfl
  | cons act acts ih => exact ih _

/-- A scheduler fresh from its constructor or from `reset`. -/
def Begun (s : EeEventScheduler) : Prop := s = new ∨ ∃ s₀ : EeEventScheduler, s = s₀.reset

/-- The generations a scheduler starts with. -/
def generations (s : EeEventScheduler) (i : EventIndex) : Fin uint64Count :=
  (s.slots i).generation

theorem Begun.idle (h : Begun s) : Idle s := by
  rcases h with rfl | ⟨s₀, rfl⟩
  · exact ⟨cacheOk_recomputeNext _, rfl⟩
  · exact ⟨cacheOk_recomputeNext _, rfl⟩

theorem Begun.tracks (h : Begun s) : Tracks s.generations ⟨s, []⟩ := by
  have hslot : ∀ i, (s.slots i).pending = false := by
    rcases h with rfl | ⟨s₀, rfl⟩ <;> exact fun _ => rfl
  have hstatistics : s.statistics = {} := by
    rcases h with rfl | ⟨s₀, rfl⟩ <;> rfl
  refine ⟨h.idle.cache, trivial, fun i => ⟨hslot i, ?_, rfl, ?_⟩, ?_⟩
  · intro t ht
    cases ht
  · intro t hm
    exact absurd hm List.not_mem_nil
  · rw [hstatistics]
    exact ⟨rfl, rfl, rfl, rfl⟩

def pendingSlots (s : EeEventScheduler) : Finset EventIndex :=
  Finset.univ.filter fun i => (s.slots i).pending

theorem Tracks.pendingSlots_eq (h : Tracks start w) : w.scheduler.pendingSlots = held w.book := by
  ext i
  rw [mem_held, ← (h.slot i).pending, pendingSlots, Finset.mem_filter]
  exact and_iff_right (Finset.mem_univ i)

theorem Tracks.cancelToken_iff (h : Tracks start w) (i : EventIndex) {t : Fin uint64Count} :
    (w.scheduler.cancelToken ⟨.ofIndex i, t⟩).1 = true ↔ live i w.book = some t := by
  unfold cancelToken cancel
  simp only [EeEventSource.slot_ofIndex]
  cases hp : (w.scheduler.slots i).pending with
  | false =>
    have hnone := (h.slot i).pending
    rw [hp] at hnone
    rw [Option.isSome_eq_false_iff.mp hnone.symm |> Option.isNone_iff_eq_none.mp]
    simp
  | true =>
    rw [h.held_of_pending hp]
    by_cases ht : (w.scheduler.slots i).generation = t
    · simp [ht]
    · simp [ht]

/-- **Nothing is lost and nothing is duplicated.** The acts of a run make the run's scheduler; and
after any of them, also in the middle of a `serviceDue`, as long as no counter has wrapped: every
event scheduled since the last reset was replaced, cancelled or serviced, or is pending; no token
was returned twice and none was serviced twice; and a token cancels exactly if nothing has ended
its scheduling since. -/
theorem nothing_lost (h : Begun s) {ops : List EventOp}
    (hops : ∀ op ∈ ops, ∀ state, op ≠ .restore state)
    (hwrap : Along Logged.step (fun w act => Unwrapped s.generations (w.step act).book)
      ⟨s, []⟩ (actsOf s ops)) :
    run EventAct.run s (actsOf s ops) = run EventOp.run s ops ∧
      ∀ past future, actsOf s ops = past ++ future →
        let w := run Logged.step ⟨s, []⟩ past
        let statistics := w.scheduler.statistics
        w.scheduler = run EventAct.run s past ∧
          statistics.scheduled.val = statistics.replaced.val + statistics.cancelled.val +
            statistics.serviced.val + w.scheduler.pendingSlots.card ∧
          (∀ i t, w.book.count (.serviced i t) ≤ 1) ∧
          ∀ after i t before, w.book = after ++ .scheduled i t :: before →
            .scheduled i t ∉ after ∧ .scheduled i t ∉ before ∧
              ((w.scheduler.cancelToken ⟨.ofIndex i, t⟩).1 = true ↔
                ∀ r ∈ after, r.ends i = false) := by
  refine ⟨run_actsOf h.idle hops, fun past future hacts => ?_⟩
  rw [hacts, along_append] at hwrap
  have htracks : Tracks s.generations (run Logged.step ⟨s, []⟩ past) :=
    invariant tracks_step h.tracks hwrap.1
  refine ⟨run_scheduler _ _, ?_, htracks.valid.serviced_once, fun after i t before hbook => ?_⟩
  · rw [htracks.statistics.scheduled, htracks.statistics.replaced, htracks.statistics.cancelled,
      htracks.statistics.serviced, htracks.pendingSlots_eq]
    exact htracks.valid.conservation
  · obtain ⟨hafter, hbefore⟩ := htracks.valid.scheduled_unique hbook
    refine ⟨hafter, hbefore, ?_⟩
    rw [htracks.cancelToken_iff]
    exact htracks.valid.live_iff_not_ended hbook

/-- A vertical sync is scheduled twice and serviced; its visitor schedules the next one, cancels
the counters and drops a token that is out of date. -/
def vsyncRun : List EventOp :=
  [.call (.scheduleAbsolute .VSync 5),
    .call (.scheduleAbsolute .VSync 7),
    .call (.scheduleAbsolute .EeCounters 9),
    .serviceDue 8 fun
      | [_] => ([.scheduleAbsolute .VSync 20, .cancel .EeCounters, .cancelToken ⟨.VSync, 2⟩], false)
      | _ => ([], false),
    .reset]

theorem nothing_lost_vsyncRun :
    run EventAct.run new (actsOf new vsyncRun) = run EventOp.run new vsyncRun ∧
      ∀ past future, actsOf new vsyncRun = past ++ future →
        let w := run Logged.step ⟨new, []⟩ past
        let statistics := w.scheduler.statistics
        w.scheduler = run EventAct.run new past ∧
          statistics.scheduled.val = statistics.replaced.val + statistics.cancelled.val +
            statistics.serviced.val + w.scheduler.pendingSlots.card ∧
          (∀ i t, w.book.count (.serviced i t) ≤ 1) ∧
          ∀ after i t before, w.book = after ++ .scheduled i t :: before →
            .scheduled i t ∉ after ∧ .scheduled i t ∉ before ∧
              ((w.scheduler.cancelToken ⟨.ofIndex i, t⟩).1 = true ↔
                ∀ r ∈ after, r.ends i = false) :=
  nothing_lost (Or.inl rfl) (by simp [vsyncRun]) (by decide +kernel)

end EeEventScheduler

end Ps2Recomp
