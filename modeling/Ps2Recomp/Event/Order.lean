import Mathlib.Data.Prod.Lex
import Ps2Recomp.Event.Scheduler
import Ps2Recomp.Lib.Machine

/-!
# The event scheduler serves in order

`CacheOk s` says that the cache is the minimum of the slot table under the order
`(deadline, source index)`. `recomputeNext` establishes it, and every operation ends with
`recomputeNext`, so it holds in every state of a run, also between the calls of a visitor.

From it `takeNextDue` takes the least pending event if that is due and nothing otherwise
(`takeNextDue_cases`).
-/

namespace Ps2Recomp

open Machine

namespace EeEventScheduler

variable {s : EeEventScheduler} {now : EeTick} {i j : EventIndex}

/-! ## The minimum -/

/-- The rank of a slot: its deadline, then its index. -/
def rank (slots : EventIndex → EventSlot) (i : EventIndex) : EeTick ×ₗ EventIndex :=
  toLex ((slots i).deadline, i)

/-- Slot `i` is the pending one of least rank. -/
def IsNext (s : EeEventScheduler) (i : EventIndex) : Prop :=
  (s.slots i).pending = true ∧ ∀ j, (s.slots j).pending = true → rank s.slots i ≤ rank s.slots j

/-- Some pending deadline is at most `now`. -/
def Due (s : EeEventScheduler) (now : EeTick) : Prop :=
  ∃ i, (s.slots i).pending = true ∧ (s.slots i).deadline ≤ now

/-- The cache is the minimum of the table. -/
structure CacheOk (s : EeEventScheduler) : Prop where
  empty : s.hasPending = false → (∀ i, (s.slots i).pending = false) ∧
    s.nextDeadline = uint64Max ∧ s.nextSource = .Cop0Performance
  least : s.hasPending = true → ∃ i, s.IsNext i ∧ s.nextSource = .ofIndex i ∧
    s.nextDeadline = (s.slots i).deadline

theorem rank_lt_rank {slots : EventIndex → EventSlot} :
    rank slots i < rank slots j ↔ (slots i).deadline < (slots j).deadline ∨
      ((slots i).deadline = (slots j).deadline ∧ i.val < j.val) :=
  Prod.Lex.toLex_lt_toLex

/-- The cache of the loop of `recomputeNext` is the minimum of the slots visited. -/
def Visited (slots : EventIndex → EventSlot) (visited : List EventIndex) (next : NextEvent) :
    Prop :=
  (next = {} ∧ ∀ j ∈ visited, (slots j).pending = false) ∨
    ∃ i ∈ visited, (slots i).pending = true ∧ next = ⟨true, (slots i).deadline, .ofIndex i⟩ ∧
      ∀ j ∈ visited, (slots j).pending = true → rank slots i ≤ rank slots j

theorem visited_cons {slots : EventIndex → EventSlot} {visited : List EventIndex}
    {next : NextEvent} (hv : Visited slots visited next) (c : EventIndex) :
    Visited slots (c :: visited) (next.visit c (slots c)) := by
  unfold NextEvent.visit
  split
  · -- not pending
    rename_i hp
    rw [Bool.not_eq_true'] at hp
    rcases hv with ⟨rfl, hall⟩ | ⟨i, hi, hpi, rfl, hall⟩
    · refine Or.inl ⟨rfl, fun j hj => ?_⟩
      rcases List.mem_cons.mp hj with rfl | hj
      · exact hp
      · exact hall j hj
    · refine Or.inr ⟨i, List.mem_cons_of_mem _ hi, hpi, rfl, fun j hj hpj => ?_⟩
      rcases List.mem_cons.mp hj with rfl | hj
      · rw [hp] at hpj
        cases hpj
      · exact hall j hj hpj
  · rename_i hp
    rw [Bool.not_eq_true', Bool.not_eq_false] at hp
    rcases hv with ⟨rfl, hall⟩ | ⟨i, hi, hpi, rfl, hall⟩
    · -- the first pending slot
      rw [if_pos (show (!({} : NextEvent).hasPending) = true ∨ _ from Or.inl rfl)]
      refine Or.inr ⟨c, List.mem_cons_self, hp, rfl, fun j hj hpj => ?_⟩
      rcases List.mem_cons.mp hj with rfl | hj
      · exact le_refl _
      · rw [hall j hj] at hpj
        cases hpj
    · -- the condition of the loop compares ranks
      have hcond : (!true = true ∨ (slots c).deadline < (slots i).deadline ∨
          ((slots c).deadline = (slots i).deadline ∧
            c.val < eeEventSourceIndex (.ofIndex i))) ↔ rank slots c < rank slots i := by
        rw [rank_lt_rank, eeEventSourceIndex_ofIndex]
        simp
      split
      · rename_i hlt
        have hlt := hcond.mp hlt
        refine Or.inr ⟨c, List.mem_cons_self, hp, rfl, fun j hj hpj => ?_⟩
        rcases List.mem_cons.mp hj with rfl | hj
        · exact le_refl _
        · exact hlt.le.trans (hall j hj hpj)
      · rename_i hge
        have hge := not_lt.mp (mt hcond.mpr hge)
        refine Or.inr ⟨i, List.mem_cons_of_mem _ hi, hpi, rfl, fun j hj hpj => ?_⟩
        rcases List.mem_cons.mp hj with rfl | hj
        · exact hge
        · exact hall j hj hpj

theorem visited_foldl {slots : EventIndex → EventSlot} {visited : List EventIndex}
    {next : NextEvent} (hv : Visited slots visited next) (rest : List EventIndex) :
    ∃ visited', (∀ i, i ∈ visited' ↔ i ∈ rest ∨ i ∈ visited) ∧
      Visited slots visited' (rest.foldl (fun next i => next.visit i (slots i)) next) := by
  induction rest generalizing visited next with
  | nil => exact ⟨visited, fun i => by simp, hv⟩
  | cons c rest ih =>
    obtain ⟨visited', hmem, hv'⟩ := ih (visited_cons hv c)
    refine ⟨visited', fun i => ?_, hv'⟩
    rw [hmem, List.mem_cons, List.mem_cons]
    tauto

/-- **`recomputeNext` finds the minimum.** -/
theorem cacheOk_recomputeNext (s : EeEventScheduler) : CacheOk s.recomputeNext := by
  have hstart : Visited s.slots [] {} := Or.inl ⟨rfl, fun _ hj => absurd hj List.not_mem_nil⟩
  obtain ⟨visited, hmem, hv⟩ := visited_foldl hstart (List.finRange kEeEventSourceCount)
  have hall : ∀ i, i ∈ visited := fun i => (hmem i).mpr (Or.inl (List.mem_finRange i))
  unfold recomputeNext
  rcases hv with ⟨hnext, hnone⟩ | ⟨i, -, hpi, hnext, hleast⟩
  · rw [hnext]
    exact ⟨fun _ => ⟨fun i => hnone i (hall i), rfl, rfl⟩, nofun⟩
  · rw [hnext]
    exact ⟨nofun, fun _ => ⟨i, ⟨hpi, fun j => hleast j (hall j)⟩, rfl, rfl⟩⟩

/-- The cache is judged against the table alone. -/
theorem CacheOk.congr {s' : EeEventScheduler} (hc : CacheOk s) (hs : s'.slots = s.slots)
    (hp : s'.hasPending = s.hasPending) (hd : s'.nextDeadline = s.nextDeadline)
    (hn : s'.nextSource = s.nextSource) : CacheOk s' := by
  constructor
  · rw [hs, hp, hd, hn]
    exact hc.empty
  · rw [hs, hp, hd, hn]
    unfold IsNext
    rw [hs]
    exact hc.least

/-! ## Every operation keeps the cache -/

theorem cacheOk_scheduleAbsolute (hc : CacheOk s) (source : EeEventSource) (deadline : EeTick) :
    CacheOk (s.scheduleAbsolute source deadline).2 := by
  unfold scheduleAbsolute
  cases source.slot with
  | none => exact hc
  | some index => exact cacheOk_recomputeNext _

theorem cacheOk_cancel (hc : CacheOk s) (source : EeEventSource) :
    CacheOk (s.cancel source).2 := by
  unfold cancel
  cases source.slot with
  | none => exact hc
  | some index =>
    simp only
    split
    · exact hc
    · exact cacheOk_recomputeNext _

theorem cacheOk_cancelToken (hc : CacheOk s) (token : EeEventToken) :
    CacheOk (s.cancelToken token).2 := by
  unfold cancelToken
  cases token.source.slot with
  | none => exact hc
  | some index =>
    simp only
    split
    · exact hc
    · exact cacheOk_cancel hc _

theorem cacheOk_call (hc : CacheOk s) (call : EventCall) : CacheOk (call.run s) := by
  cases call with
  | scheduleAbsolute source deadline => exact cacheOk_scheduleAbsolute hc source deadline
  | scheduleAfter source now delay => exact cacheOk_scheduleAbsolute hc source _
  | cancel source => exact cacheOk_cancel hc source
  | cancelToken token => exact cacheOk_cancelToken hc token

theorem cacheOk_calls (hc : CacheOk s) (calls : List EventCall) :
    CacheOk (calls.foldl EventCall.run s) := by
  induction calls generalizing s with
  | nil => exact hc
  | cons call calls ih => exact ih (cacheOk_call hc call)

/-! ## Taking the next event -/

theorem CacheOk.deadlineDue_iff (hc : CacheOk s) : s.deadlineDue now = true ↔ s.Due now := by
  unfold deadlineDue
  rw [Bool.and_eq_true, decide_eq_true_eq]
  constructor
  · rintro ⟨hp, hd⟩
    obtain ⟨i, hi, -, hdl⟩ := hc.least hp
    exact ⟨i, hi.1, hdl ▸ hd⟩
  · rintro ⟨j, hpj, hdj⟩
    cases hp : s.hasPending with
    | false =>
      rw [(hc.empty hp).1 j] at hpj
      cases hpj
    | true =>
      obtain ⟨i, hi, -, hdl⟩ := hc.least hp
      have hle : (s.slots i).deadline ≤ (s.slots j).deadline :=
        (Prod.Lex.toLex_le_toLex'.mp (hi.2 j hpj)).1
      exact ⟨rfl, hdl ▸ hle.trans hdj⟩

/-- The scheduler after the event of slot `i` was taken. -/
def taken (s : EeEventScheduler) (now : EeTick) (i : EventIndex) : EeEventScheduler :=
  let s' := (s.setSlot i { s.slots i with pending := false }).recomputeNext
  { s' with
    statistics :=
      { s'.statistics with
        serviced := s'.statistics.serviced + 1
        late :=
          if (serviceOf (.ofIndex i) now (s.slots i)).latenessTicks ≠ 0 then
            s'.statistics.late + 1
          else s'.statistics.late } }

theorem cacheOk_taken (s : EeEventScheduler) (now : EeTick) (i : EventIndex) :
    CacheOk (s.taken now i) :=
  (cacheOk_recomputeNext _).congr rfl rfl rfl rfl

/-- **`takeNextDue` takes the least pending event, if it is due.** -/
theorem CacheOk.takeNextDue_cases (hc : CacheOk s) (now : EeTick) :
    (¬ s.Due now ∧ s.takeNextDue now = (none, s)) ∨
      ∃ i, s.IsNext i ∧ (s.slots i).deadline ≤ now ∧
        s.takeNextDue now = (some (serviceOf (.ofIndex i) now (s.slots i)), s.taken now i) := by
  unfold takeNextDue nextDueSource
  cases hd : s.deadlineDue now with
  | false =>
    refine Or.inl ⟨fun hdue => ?_, rfl⟩
    rw [hc.deadlineDue_iff.mpr hdue] at hd
    cases hd
  | true =>
    unfold deadlineDue at hd
    rw [Bool.and_eq_true, decide_eq_true_eq] at hd
    obtain ⟨i, hi, hsrc, hdl⟩ := hc.least hd.1
    refine Or.inr ⟨i, hi, hdl ▸ hd.2, ?_⟩
    simp only [Bool.not_true, Bool.false_eq_true, if_false, hsrc, EeEventSource.slot_ofIndex,
      hi.1]
    rfl

/-! ## The loop of `serviceDue` -/

/-- A delivery in order: the event is the least pending one of the scheduler it is taken from, it
is due, and the visitor finds it no longer pending. Whatever calls the visitor then makes, the
cache stays the minimum. -/
structure InOrder (now : EeTick) (d : Delivery) : Prop where
  taken : ∃ i, d.before.IsNext i ∧ (d.before.slots i).deadline ≤ now ∧
    d.service = serviceOf (.ofIndex i) now (d.before.slots i) ∧
    d.handed.slots = Function.update d.before.slots i { d.before.slots i with pending := false }
  cache : CacheOk d.before ∧ ∀ calls : List EventCall, CacheOk (calls.foldl EventCall.run d.handed)

/-- **The loop of `serviceDue`.** The induction is on the services still allowed. -/
theorem serviceLoop_spec (now : EeTick) (visitor : Visitor) (hc : CacheOk s) {done : List Delivery}
    (hdone : ∀ d ∈ done, InOrder now d) (allowed : Nat) :
    let run := serviceLoop now visitor s done allowed
    CacheOk run.scheduler ∧ (∀ d ∈ run.deliveries, InOrder now d) ∧
      run.deliveries.length ≤ done.length + allowed ∧
      (run.threw = false → run.deliveries.length = done.length + allowed ∨
        ¬ run.scheduler.Due now) := by
  induction allowed generalizing s done with
  | zero => exact ⟨hc, hdone, le_rfl, fun _ => Or.inl rfl⟩
  | succ allowed ih =>
    unfold serviceLoop
    rcases hc.takeNextDue_cases now with ⟨hnot, he⟩ | ⟨i, hi, hd, he⟩
    · rw [he]
      exact ⟨hc, hdone, Nat.le_add_right _ _, fun _ => Or.inr hnot⟩
    · rw [he]
      have hhanded := cacheOk_taken s now i
      have hall : ∀ d ∈ (⟨s, serviceOf (.ofIndex i) now (s.slots i), s.taken now i⟩ :: done :
          List Delivery), InOrder now d := by
        intro d hm
        rcases List.mem_cons.mp hm with rfl | hm
        · exact ⟨⟨i, hi, hd, rfl, rfl⟩, hc, fun calls => cacheOk_calls hhanded calls⟩
        · exact hdone d hm
      have hnext := cacheOk_calls hhanded
        (visitor (⟨s, serviceOf (.ofIndex i) now (s.slots i), s.taken now i⟩ :: done)).1
      simp only
      split
      · refine ⟨hnext, hall, ?_, nofun⟩
        rw [List.length_cons]
        omega
      · obtain ⟨h₁, h₂, h₃, h₄⟩ := ih hnext hall
        rw [List.length_cons] at h₃ h₄
        refine ⟨h₁, h₂, by omega, fun hthrew => ?_⟩
        rw [show done.length + (allowed + 1) = done.length + 1 + allowed by omega]
        exact h₄ hthrew

theorem serviceRun_spec (hc : CacheOk s) (now : EeTick) (visitor : Visitor) :
    let run := s.serviceRun now visitor
    CacheOk run.scheduler ∧ (∀ d ∈ run.deliveries, InOrder now d) ∧
      run.deliveries.length ≤ kMaximumServicesPerBoundary ∧
      (run.threw = false → run.deliveries.length = kMaximumServicesPerBoundary ∨
        ¬ run.scheduler.Due now) := by
  have hstart : CacheOk { s with servicing := true, serviceTick := now } :=
    hc.congr rfl rfl rfl rfl
  have hspec := serviceLoop_spec now visitor hstart
    (fun d hm => absurd hm List.not_mem_nil) kMaximumServicesPerBoundary
  rw [List.length_nil, Nat.zero_add] at hspec
  exact hspec

/-! ## Runs -/

/-- What every operation keeps: the cache is the minimum, and no service is under way. -/
structure Idle (s : EeEventScheduler) : Prop where
  cache : CacheOk s
  servicing : s.servicing = false

theorem call_servicing (call : EventCall) : (call.run s).servicing = s.servicing := by
  have hschedule : ∀ source deadline, (s.scheduleAbsolute source deadline).2.servicing =
      s.servicing := by
    intro source deadline
    unfold scheduleAbsolute
    cases source.slot <;> rfl
  have hcancel : ∀ source, (s.cancel source).2.servicing = s.servicing := by
    intro source
    unfold cancel
    cases source.slot with
    | none => rfl
    | some index =>
      simp only
      split <;> rfl
  cases call with
  | scheduleAbsolute source deadline => exact hschedule source deadline
  | scheduleAfter source now delay => exact hschedule source _
  | cancel source => exact hcancel source
  | cancelToken token =>
    show (s.cancelToken token).2.servicing = s.servicing
    unfold cancelToken
    cases token.source.slot with
    | none => rfl
    | some index =>
      simp only
      split
      · rfl
      · exact hcancel token.source

/-- What the lines after the loop make of it. -/
theorem finish_spec {run : ServiceRun} (hc : CacheOk run.scheduler) (now : EeTick) :
    let s' := (run.finish now).2
    Idle s' ∧ (s'.Due now ↔ run.scheduler.Due now) ∧
      match (run.finish now).1 with
      | none => run.threw = true
      | some result =>
        run.threw = false ∧ result.serviced = run.deliveries.length ∧
          (result.limitExceeded = true ↔ run.scheduler.Due now) := by
  have hend : CacheOk { run.scheduler with servicing := false } := hc.congr rfl rfl rfl rfl
  unfold ServiceRun.finish
  simp only
  split
  · rename_i hthrew
    exact ⟨⟨hend, rfl⟩, Iff.rfl, hthrew⟩
  · rename_i hthrew
    rw [Bool.not_eq_true] at hthrew
    split
    · rename_i hd
      exact ⟨⟨hend.congr rfl rfl rfl rfl, rfl⟩, Iff.rfl, hthrew, rfl,
        iff_of_true rfl (hend.deadlineDue_iff.mp hd)⟩
    · rename_i hd
      exact ⟨⟨hend, rfl⟩, Iff.rfl, hthrew, rfl,
        iff_of_false Bool.false_ne_true (mt hend.deadlineDue_iff.mpr hd)⟩

theorem serviceDue_eq (hs : s.servicing = false) (now : EeTick) (visitor : Visitor) :
    s.serviceDue now visitor = (s.serviceRun now visitor).finish now := by
  unfold serviceDue
  rw [hs, if_neg Bool.false_ne_true]

theorem idle_step (s : EeEventScheduler) (op : EventOp) (h : Idle s) : Idle (op.run s) := by
  cases op with
  | call c => exact ⟨cacheOk_call h.cache c, (call_servicing c).trans h.servicing⟩
  | reset => exact ⟨cacheOk_recomputeNext _, rfl⟩
  | restore state =>
    show Idle (s.restore state).2
    unfold restore
    split
    · exact ⟨cacheOk_recomputeNext _, rfl⟩
    · exact h
  | serviceDue now visitor =>
    show Idle (s.serviceDue now visitor).2
    rw [serviceDue_eq h.servicing]
    exact (finish_spec (serviceRun_spec h.cache now visitor).1 now).1

theorem idle_of_run (ops : List EventOp) : Idle (run EventOp.run new ops) := by
  have halong : Along EventOp.run (fun _ _ => True) new ops :=
    along_of_forall fun _ _ _ => trivial
  exact invariant (fun s op h _ => idle_step s op h) ⟨cacheOk_recomputeNext _, rfl⟩ halong

/-- **`serviceDue` hands over the due events in order.** After any run of operations the cache is
the minimum of the table. In a `serviceDue` there, every event handed to the visitor is the least
pending one, due, and no longer pending when the visitor sees it; the loop ends after 1,024
deliveries or when nothing pending is due, not before (unless the visitor throws, and then
`serviceDue` does); and `limitExceeded` says that something due is still pending. -/
theorem serviceDue_in_order (ops : List EventOp) (now : EeTick) (visitor : Visitor) :
    let s := run EventOp.run new ops
    let deliveries := (s.serviceRun now visitor).deliveries
    let s' := (s.serviceDue now visitor).2
    CacheOk s ∧ CacheOk s' ∧ (∀ d ∈ deliveries, InOrder now d) ∧
      match (s.serviceDue now visitor).1 with
      | none => (s.serviceRun now visitor).threw = true
      | some result =>
        result.serviced = deliveries.length ∧
          result.serviced ≤ kMaximumServicesPerBoundary ∧
          (result.serviced = kMaximumServicesPerBoundary ∨ ¬ s'.Due now) ∧
          (result.limitExceeded = true ↔ s'.Due now) := by
  intro s deliveries s'
  have hidle := idle_of_run ops
  obtain ⟨hc, hall, hle, hstop⟩ := serviceRun_spec hidle.cache now visitor
  obtain ⟨hend, hdue, hout⟩ := finish_spec hc now
  unfold s'
  rw [serviceDue_eq hidle.servicing]
  refine ⟨hidle.cache, hend.cache, hall, ?_⟩
  split at hout
  · exact hout
  · obtain ⟨hthrew, hserviced, hlimit⟩ := hout
    refine ⟨hserviced, hserviced ▸ hle, ?_, hlimit.trans hdue.symm⟩
    rw [hserviced, hdue]
    exact hstop hthrew

end EeEventScheduler

end Ps2Recomp
