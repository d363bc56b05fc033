import Mathlib.Algebra.BigOperators.Group.Finset.Piecewise
import Ps2Recomp.Scheduler.Preserve

/-!
# `validate` and `restore`

`Wf.validate`: a well-formed scheduler passes `validate`. The membership counts of `validate` are
sums over all queues; a thread occurs in the queue its record names and in no other, so each sum
has one term.

`wf_restoreCandidate`: whatever `restore` accepts is well-formed. Its input is arbitrary, so this
rests on the checks alone: the first loop makes ids distinct, the second makes the sequences in
use distinct and the queues sorted, the maximum check bounds them, and `validate` does the rest
(`Accepted`).
-/

namespace Ps2Recomp

open KeyedQueue

namespace EeThreadScheduler

variable {s s' : EeThreadScheduler} {i j : Int} {th : ThreadRecord}
  {h : EeSchedulerThreadHandle} {p : Priority} {k : EeSchedulerWaitKey}

/-! ## Membership counts -/

/-- A thread occurs once in the queue its record puts it in, and in no other. -/
theorem countP_queue {key : EeSchedulerThreadHandle → QueueSequence} {Q : ThreadRecord → Prop}
    [Decidable (Q th)] {l : List EeSchedulerThreadHandle}
    (q : IsQueue key (fun h => ¬ False ∧ s.Holds Q h) l) (ht : s.thread? i = some th) :
    l.countP (·.id = i) = if Q th then 1 else 0 := by
  have hmem : ∀ h ∈ l, decide (h.id = i) = (h == (⟨i, th.generation⟩ : EeSchedulerThreadHandle)) := by
    intro h hm
    obtain ⟨-, th', ht', hg, -⟩ := (q.mem_iff h).mp hm
    obtain ⟨hid, hgen⟩ := h
    rw [Bool.eq_iff_iff, decide_eq_true_eq, beq_iff_eq]
    constructor
    · rintro rfl
      obtain rfl : th = th' := Option.some.inj (ht.symm.trans ht')
      rw [hg]
    · intro e
      rw [e]
  rw [List.countP_congr fun h hm => by rw [hmem h hm]]
  by_cases hQ : Q th
  · rw [if_pos hQ]
    exact List.count_eq_one_of_mem q.nodup ((q.mem_iff _).mpr ⟨not_false, th, ht, rfl, hQ⟩)
  · rw [if_neg hQ]
    refine List.count_eq_zero_of_not_mem fun hm => hQ ?_
    obtain ⟨-, th', ht', -, hQ'⟩ := (q.mem_iff _).mp hm
    obtain rfl : th = th' := Option.some.inj (ht.symm.trans ht')
    exact hQ'

instance (p : Priority) (thread : ThreadRecord) : Decidable (thread.InReady p) :=
  inferInstanceAs (Decidable (_ ∧ _))

instance (k : EeSchedulerWaitKey) (thread : ThreadRecord) : Decidable (thread.InWait k) :=
  inferInstanceAs (Decidable (_ ∧ _))

theorem Wf.readyMembership_eq (w : Wf s) (ht : s.thread? i = some th) :
    s.readyMembership i = if th.state = .Ready then 1 else 0 := by
  unfold readyMembership
  rw [Finset.sum_congr rfl fun p _ => countP_queue (w.ready p) ht]
  by_cases hr : th.state = .Ready
  · simp only [ThreadRecord.InReady, hr, true_and, if_true]
    rw [Finset.sum_ite_eq, if_pos (Finset.mem_univ _)]
  · simp only [ThreadRecord.InReady, hr, false_and, if_false, Finset.sum_const_zero]

theorem mem_keys_of_mem_waitQueue (hm : h ∈ s.waitQueue k) : k ∈ s.waitQueues.keys := by
  rw [Finmap.mem_keys, ← Finmap.lookup_isSome, lookup_of_mem_waitQueue hm]
  rfl

theorem Wf.waitMembership_eq (w : Wf s) (ht : s.thread? i = some th) :
    s.waitMembership i =
      if th.state = .Waiting ∨ th.state = .WaitSuspended then 1 else 0 := by
  unfold waitMembership
  rw [Finset.sum_congr rfl fun k _ => countP_queue (w.wait k) ht]
  by_cases hr : th.state = .Waiting ∨ th.state = .WaitSuspended
  · have hm : (⟨i, th.generation⟩ : EeSchedulerThreadHandle) ∈ s.waitQueue th.wait :=
      w.mem_wait.mpr ⟨th, ht, rfl, hr, rfl⟩
    simp only [ThreadRecord.InWait, hr, true_and, if_true]
    rw [Finset.sum_ite_eq, if_pos (mem_keys_of_mem_waitQueue hm)]
  · simp only [ThreadRecord.InWait, hr, false_and, if_false, Finset.sum_const_zero]

theorem Wf.runningCount_eq (w : Wf s) :
    s.runningCount = if s.currentThreadId.isSome then 1 else 0 := by
  unfold runningCount
  cases hc : s.currentThreadId with
  | none =>
    rw [if_neg (by simp), Finset.card_eq_zero, Finset.filter_eq_empty_iff]
    intro j _ hj
    cases ht : s.thread? j with
    | none =>
      rw [ht] at hj
      cases hj
    | some th =>
      rw [ht, Option.any_some, beq_iff_eq] at hj
      rw [w.running_current ht hj] at hc
      cases hc
  | some i =>
    rw [Option.isSome_some, if_pos rfl, Finset.card_eq_one]
    refine ⟨i, Finset.ext fun j => ?_⟩
    rw [Finset.mem_filter, Finset.mem_singleton]
    constructor
    · rintro ⟨-, hj⟩
      cases ht : s.thread? j with
      | none =>
        rw [ht] at hj
        cases hj
      | some th =>
        rw [ht, Option.any_some, beq_iff_eq] at hj
        rw [w.running_current ht hj] at hc
        exact Option.some.inj hc
    · rintro rfl
      obtain ⟨th, ht, hr⟩ := w.current_running hc
      refine ⟨?_, ?_⟩
      · rw [Finmap.mem_keys, ← Finmap.lookup_isSome]
        exact Option.isSome_of_eq_some ht
      · rw [ht, Option.any_some, hr]
        rfl

/-! ## A well-formed scheduler validates -/

theorem Wf.validReadyHandle_eq (w : Wf s) (hm : h ∈ s.readyQueues p) :
    s.validReadyHandle p h = true := by
  obtain ⟨th, ht, hg, hst, hp⟩ := w.mem_ready.mp hm
  unfold validReadyHandle
  rw [ht]
  simp only [hg, hst, hp, beq_self_eq_true, Bool.and_self]

theorem Wf.validWaitHandle_eq (w : Wf s) (hm : h ∈ s.waitQueue k) :
    s.validWaitHandle k h = true := by
  obtain ⟨th, ht, hg, hst, hk⟩ := w.mem_wait.mp hm
  unfold validWaitHandle
  rw [ht]
  rcases hst with hst | hst <;> simp [hg, hst, hk]

theorem validCompletion_eq (hok : th.Ok) : validCompletion th = true := by
  unfold validCompletion
  rw [hok.completion, bne, Bool.and_eq_true]
  refine ⟨?_, ?_⟩
  · cases th.completedWait.completion == .None <;> rfl
  · cases hr : th.retainCompletedWaitReason with
    | false => rfl
    | true =>
      rw [beq_eq_false_iff_ne.mpr (hok.retain hr)]
      rfl

/-- The record's fields fit its state, its membership counts and the current thread. -/
theorem Wf.validState_eq (w : Wf s) (ht : s.thread? i = some th) : s.validState i th = true := by
  have hok := w.records not_false ht
  have hs := hok.state
  have hret := fun hc => hok.retain_eq_false hc
  unfold ThreadRecord.StateOk at hs
  unfold validState
  rw [w.readyMembership_eq ht, w.waitMembership_eq ht]
  cases hst : th.state <;> rw [hst] at hs
  · simp [hs, hret hs.2.1]
  · simp [hs]
  · simp [hs, w.running_current ht hst]
  · by_cases hk : th.wait.kind = .Sleep
    · simp [hs, hret hs.2.1, hs.2.2.1 hk]
    · simp [hs, hret hs.2.1, hk]
  · simp [hs]
  · by_cases hk : th.wait.kind = .Sleep
    · simp [hs, hret hs.2.1, hs.2.2.1 hk]
    · simp [hs, hret hs.2.1, hk]

/-- **A well-formed scheduler passes `validate`.** -/
theorem Wf.validate_eq (w : Wf s) : s.validate = true := by
  unfold validate
  rw [Bool.and_eq_true, Bool.and_eq_true, Bool.and_eq_true, decide_eq_true_eq, decide_eq_true_eq,
    beq_iff_eq]
  refine ⟨⟨⟨?_, ?_⟩, ?_⟩, w.runningCount_eq⟩
  · rw [List.all_eq_true]
    intro p _
    rw [List.all_eq_true]
    exact fun h hm => w.validReadyHandle_eq hm
  · intro k hk
    obtain ⟨q, hq⟩ := Finmap.mem_iff.mp (Finmap.mem_keys.mp hk)
    have hwq : s.waitQueue k = q := by
      unfold waitQueue
      rw [hq]
      rfl
    cases q with
    | nil => exact absurd hq (w.nonempty k)
    | cons h rest =>
      have hm : h ∈ s.waitQueue k := by
        rw [hwq]
        exact List.mem_cons_self
      rw [Bool.and_eq_true, Bool.and_eq_true]
      refine ⟨⟨w.waitKey_valid hm, ?_⟩, ?_⟩
      · rw [hwq]
        rfl
      · rw [List.all_eq_true]
        exact fun h hm => w.validWaitHandle_eq hm
  · intro i hi
    obtain ⟨th, ht⟩ := Finmap.mem_iff.mp (Finmap.mem_keys.mp hi)
    have ht' : s.thread? i = some th := ht
    rw [ht', Option.all_some, Bool.and_eq_true]
    exact ⟨validCompletion_eq (w.records not_false ht'), w.validState_eq ht'⟩

/-! ## What `validate` says of a record -/

/-- A record that `validate` accepts is `Ok`. -/
theorem ok_of_validate (hv : s.validate = true) (ht : s.thread? i = some th) : th.Ok := by
  unfold validate at hv
  rw [Bool.and_eq_true, Bool.and_eq_true, decide_eq_true_eq] at hv
  have hi : i ∈ s.threads.keys := Finmap.mem_keys.mpr (Finmap.mem_of_lookup_eq_some ht)
  have hrec := hv.1.2 i hi
  rw [ht, Option.all_some, Bool.and_eq_true] at hrec
  obtain ⟨hc, hs⟩ := hrec
  unfold validCompletion at hc
  rw [Bool.and_eq_true] at hc
  refine ⟨?_, ?_, ?_⟩
  · have hne := hc.1
    rw [bne]
    cases hb : th.completedWait.completion == .None <;> rw [hb] at hne <;>
      cases hw : th.completedWait.wait.valid <;> rw [hw] at hne <;> first | rfl | cases hne
  · intro hr hn
    rw [hr, hn] at hc
    exact absurd hc.2 (by decide)
  · unfold ThreadRecord.StateOk
    unfold validState at hs
    cases hst : th.state <;> rw [hst] at hs <;>
      simp only [Bool.and_eq_true, beq_iff_eq, bne_iff_ne, Bool.not_eq_true', ne_eq,
        Bool.and_eq_false_iff, beq_eq_false_iff_ne, bne_eq_false_iff_eq] at hs ⊢
    · exact ⟨hs.1.1.1.1.1.2, hs.1.1.1.1.2, hs.1.1.2, hs.1.2, hs.2⟩
    · exact ⟨hs.1.1.2, hs.1.2, hs.2⟩
    · exact ⟨hs.1.1.1.2, hs.1.1.2, hs.1.2, hs.2⟩
    · exact ⟨hs.1.1.1.1.1.2, hs.1.1.1.1.2, fun e => hs.1.1.2.resolve_left (absurd e), hs.1.2, hs.2⟩
    · exact ⟨hs.1.1.2, hs.1.2, hs.2⟩
    · exact ⟨hs.1.1.1.1.1.2, hs.1.1.1.1.2, fun e => hs.1.1.2.resolve_left (absurd e), hs.1.2, hs.2⟩

/-- In a scheduler that `validate` accepts, the current thread is the Running one. -/
theorem current_of_validate (hv : s.validate = true) (i : Int) :
    s.currentThreadId = some i ↔ ∃ th, s.thread? i = some th ∧ th.state = .Running := by
  unfold validate at hv
  rw [Bool.and_eq_true, Bool.and_eq_true, decide_eq_true_eq, beq_iff_eq] at hv
  -- every Running record names the current thread
  have hrun : ∀ {j th}, s.thread? j = some th → th.state = .Running →
      s.currentThreadId = some j := by
    intro j th ht hr
    have hrec := hv.1.2 j (Finmap.mem_keys.mpr (Finmap.mem_of_lookup_eq_some ht))
    rw [ht, Option.all_some, Bool.and_eq_true] at hrec
    have hs := hrec.2
    unfold validState at hs
    rw [hr] at hs
    simp only [Bool.and_eq_true, beq_iff_eq] at hs
    exact hs.1.1.1.1.1.1
  constructor
  · intro hc
    have hcount := hv.2
    rw [hc, Option.isSome_some, if_pos rfl] at hcount
    unfold runningCount at hcount
    obtain ⟨j, hj⟩ := Finset.card_pos.mp (hcount ▸ Nat.one_pos)
    have hany := (Finset.mem_filter.mp hj).2
    cases ht : s.thread? j with
    | none =>
      rw [ht] at hany
      cases hany
    | some th =>
      rw [ht, Option.any_some, beq_iff_eq] at hany
      rw [hrun ht hany] at hc
      obtain rfl := Option.some.inj hc
      exact ⟨th, ht, hany⟩
  · rintro ⟨th, ht, hr⟩
    exact hrun ht hr

/-! ## The two loops of `restore` -/

theorem validPriority_val {priority : Int} (hp : validPriority priority = some p) :
    (p.val : Int) = priority := by
  unfold validPriority at hp
  split at hp
  · rename_i hb
    obtain rfl := Option.some.inj hp
    exact Int.toNat_of_nonneg hb.1
  · cases hp

theorem validPriority_coe (p : Priority) : validPriority p.val = some p := by
  unfold validPriority
  rw [dif_pos ⟨Int.natCast_nonneg _, by exact_mod_cast p.isLt⟩]
  rfl

theorem recordOf_eq_some {source : EeSchedulerThreadSnapshot} :
    recordOf source = some th ↔
      0 < source.id ∧ th.generation ≠ 0 ∧ snapshotOf source.id th = source := by
  unfold recordOf
  constructor
  · intro e
    cases hp : validPriority source.priority with
    | none =>
      rw [hp] at e
      cases e
    | some p =>
      rw [hp] at e
      simp only at e
      split at e
      · cases e
      · rename_i hok
        simp only [validThreadId, Bool.or_eq_true, Bool.not_eq_true', decide_eq_false_iff_not,
          not_lt, beq_iff_eq, not_or, not_le] at hok
        obtain rfl := Option.some.inj e
        refine ⟨hok.1, hok.2, ?_⟩
        unfold snapshotOf
        rw [validPriority_val hp]
  · rintro ⟨hid, hgen, hsource⟩
    generalize source.id = id at hid hsource
    subst hsource
    simp only [snapshotOf, validPriority_coe, validThreadId, hid, decide_true, Bool.not_true,
      Bool.false_or, beq_iff_eq, hgen, if_false]

/-- The handle of a snapshot entry. -/
abbrev handleOf (source : EeSchedulerThreadSnapshot) : EeSchedulerThreadHandle :=
  ⟨source.id, source.generation⟩

/-- The entry belongs in the ready queue of `p`. -/
def readyAt (p : Priority) (source : EeSchedulerThreadSnapshot) : Bool :=
  source.state == .Ready && validPriority source.priority == some p

/-- The entry belongs in the queue of `wait`. -/
def waitAt (wait : EeSchedulerWaitKey) (source : EeSchedulerThreadSnapshot) : Bool :=
  (source.state == .Waiting || source.state == .WaitSuspended) && source.wait == wait

theorem readyAt_snapshotOf : readyAt p (snapshotOf i th) = true ↔ th.InReady p := by
  simp only [readyAt, snapshotOf, validPriority_coe, Bool.and_eq_true, beq_iff_eq,
    Option.some.injEq, ThreadRecord.InReady]

theorem waitAt_snapshotOf : waitAt k (snapshotOf i th) = true ↔ th.InWait k := by
  simp only [waitAt, snapshotOf, Bool.and_eq_true, Bool.or_eq_true, beq_iff_eq,
    ThreadRecord.InWait]

/-- What the first loop leaves: the given records and those of the entries. -/
theorem restoreThreads_spec {c c' : EeThreadScheduler} {l : List EeSchedulerThreadSnapshot}
    (hr : restoreThreads c l = some c') :
    c' = { c with threads := c'.threads } ∧
      (∀ {j th}, c.thread? j = some th → c'.thread? j = some th) ∧
      (∀ source ∈ l, ∃ th, recordOf source = some th ∧ c'.thread? source.id = some th) ∧
      ∀ {j th}, c'.thread? j = some th →
        c.thread? j = some th ∨ ∃ source ∈ l, source.id = j ∧ recordOf source = some th := by
  induction l generalizing c with
  | nil =>
    obtain rfl := Option.some.inj hr
    exact ⟨rfl, id, fun _ hm => absurd hm List.not_mem_nil, Or.inl⟩
  | cons source rest ih =>
    unfold restoreThreads at hr
    cases hrec : recordOf source with
    | none =>
      rw [hrec] at hr
      cases hr
    | some t =>
      rw [hrec] at hr
      simp only at hr
      split at hr
      · cases hr
      · rename_i hnew
        rw [Option.not_isSome_iff_eq_none] at hnew
        obtain ⟨heq, hkeep, hmem, hfrom⟩ := ih hr
        have hself : (c.setThread source.id t).thread? source.id = some t := by
          rw [thread?_setThread, if_pos rfl]
        refine ⟨by rw [heq]; rfl, fun {j th} hj => ?_, fun src hm => ?_, fun {j th} hj => ?_⟩
        · refine hkeep ?_
          rw [thread?_setThread, if_neg]
          · exact hj
          · rintro rfl
            rw [hnew] at hj
            cases hj
        · rcases List.mem_cons.mp hm with rfl | hm
          · exact ⟨t, hrec, hkeep hself⟩
          · exact hmem src hm
        · rcases hfrom hj with hj | ⟨src, hm, hid, hsrc⟩
          · rw [thread?_setThread] at hj
            split at hj
            · rename_i hjs
              obtain rfl := Option.some.inj hj
              exact Or.inr ⟨source, List.mem_cons_self, hjs.symm, hrec⟩
            · exact Or.inl hj
          · exact Or.inr ⟨src, List.mem_cons_of_mem _ hm, hid, hsrc⟩

/-- `c'` is `c` with the entries of `l` appended to their queues. -/
structure QueuesRestored (c c' : EeThreadScheduler) (l : List EeSchedulerThreadSnapshot) :
    Prop where
  ready : ∀ p, c'.readyQueues p = c.readyQueues p ++ (l.filter (readyAt p)).map handleOf
  wait : ∀ k, c'.waitQueue k = c.waitQueue k ++ (l.filter (waitAt k)).map handleOf
  nonempty : (∀ k, c.waitQueues.lookup k ≠ some []) → ∀ k, c'.waitQueues.lookup k ≠ some []
  threads : c'.threads = c.threads
  current : c'.currentThreadId = c.currentThreadId
  next : c'.nextQueueSequence = c.nextQueueSequence
  tick : c'.canonicalTick = c.canonicalTick

/-- What one turn of the second loop leaves. -/
def restoreEntry (c : EeThreadScheduler) (source : EeSchedulerThreadSnapshot) :
    Option EeThreadScheduler :=
  match source.state with
  | .Ready =>
    match validPriority source.priority with
    | none => none
    | some p =>
      some { c with
        readyQueues := Function.update c.readyQueues p (c.readyQueues p ++ [handleOf source]) }
  | .Waiting | .WaitSuspended =>
    some { c with
      waitQueues := c.waitQueues.insert source.wait (c.waitQueue source.wait ++ [handleOf source]) }
  | _ => none

theorem restoreQueues_cons (c : EeThreadScheduler) (previous : QueueSequence)
    (source : EeSchedulerThreadSnapshot) (rest : List EeSchedulerThreadSnapshot) :
    restoreQueues c previous (source :: rest) =
      if source.queueSequence = previous then none
      else (restoreEntry c source).bind fun c' => restoreQueues c' source.queueSequence rest := by
  rw [restoreQueues]
  unfold restoreEntry
  cases source.state with
  | Ready => cases validPriority source.priority <;> rfl
  | _ => rfl

theorem restoreEntry_ready {c : EeThreadScheduler} {source : EeSchedulerThreadSnapshot}
    (hst : source.state = .Ready) (hp : validPriority source.priority = some p) :
    ∃ c', restoreEntry c source = some c' ∧ QueuesRestored c c' [source] := by
  unfold restoreEntry
  rw [hst, hp]
  refine ⟨_, rfl, fun q => ?_, fun k => ?_, id, rfl, rfl, rfl, rfl⟩
  · by_cases hq : q = p
    · subst hq
      simp [readyAt, hst, hp]
    · have hq' : p ≠ q := Ne.symm hq
      simp [readyAt, hst, hp, Function.update_of_ne hq, hq']
  · simp [waitAt, hst]
    rfl

theorem restoreEntry_wait {c : EeThreadScheduler} {source : EeSchedulerThreadSnapshot}
    (hst : source.state = .Waiting ∨ source.state = .WaitSuspended) :
    ∃ c', restoreEntry c source = some c' ∧ QueuesRestored c c' [source] := by
  have hentry : restoreEntry c source =
      some { c with
        waitQueues :=
          c.waitQueues.insert source.wait (c.waitQueue source.wait ++ [handleOf source]) } := by
    unfold restoreEntry
    rcases hst with hst | hst <;> rw [hst]
  have hnr : source.state ≠ .Ready := by
    rcases hst with hst | hst <;> rw [hst] <;> exact nofun
  refine ⟨_, hentry, fun q => ?_, fun k => ?_, fun hne k => ?_, rfl, rfl, rfl, rfl⟩
  · simp [readyAt, hnr]
  · by_cases hk : k = source.wait
    · subst hk
      simp [waitAt, hst, waitQueue]
    · simp [waitAt, Ne.symm hk, waitQueue, Finmap.lookup_insert_of_ne _ hk]
  · by_cases hk : k = source.wait
    · subst hk
      simp
    · simp only [Finmap.lookup_insert_of_ne _ hk]
      exact hne k

theorem restoreEntry_spec {c c' : EeThreadScheduler} {source : EeSchedulerThreadSnapshot}
    (hr : restoreEntry c source = some c') : QueuesRestored c c' [source] := by
  have hplace : (source.state = .Ready ∧ ∃ p, validPriority source.priority = some p) ∨
      (source.state = .Waiting ∨ source.state = .WaitSuspended) := by
    unfold restoreEntry at hr
    cases hst : source.state <;> rw [hst] at hr
    case Ready =>
      cases hp : validPriority source.priority <;> rw [hp] at hr
      · cases hr
      · exact Or.inl ⟨rfl, _, rfl⟩
    case Waiting => exact Or.inr (Or.inl rfl)
    case WaitSuspended => exact Or.inr (Or.inr rfl)
    all_goals cases hr
  rcases hplace with ⟨hst, p, hp⟩ | hst
  · obtain ⟨c₁, he, hq⟩ := restoreEntry_ready (c := c) hst hp
    obtain rfl := Option.some.inj (he.symm.trans hr)
    exact hq
  · obtain ⟨c₁, he, hq⟩ := restoreEntry_wait (c := c) hst
    obtain rfl := Option.some.inj (he.symm.trans hr)
    exact hq

theorem QueuesRestored.trans {c c₁ c₂ : EeThreadScheduler}
    {l₁ l₂ : List EeSchedulerThreadSnapshot} (h₁ : QueuesRestored c c₁ l₁)
    (h₂ : QueuesRestored c₁ c₂ l₂) : QueuesRestored c c₂ (l₁ ++ l₂) where
  ready p := by
    rw [h₂.ready, h₁.ready, List.filter_append, List.map_append, List.append_assoc]
  wait k := by
    rw [h₂.wait, h₁.wait, List.filter_append, List.map_append, List.append_assoc]
  nonempty hne := h₂.nonempty (h₁.nonempty hne)
  threads := h₂.threads.trans h₁.threads
  current := h₂.current.trans h₁.current
  next := h₂.next.trans h₁.next
  tick := h₂.tick.trans h₁.tick

/-- What the second loop leaves, given a sorted list: the sequences turn out strictly increasing,
and every entry is in its queue. -/
theorem restoreQueues_spec {c c' : EeThreadScheduler} {previous : QueueSequence}
    {l : List EeSchedulerThreadSnapshot} (hr : restoreQueues c previous l = some c')
    (hsorted : l.Pairwise fun a b => a.queueSequence ≤ b.queueSequence)
    (hprev : ∀ source ∈ l, previous ≤ source.queueSequence) :
    l.Pairwise (fun a b => a.queueSequence < b.queueSequence) ∧
      (∀ source ∈ l, previous < source.queueSequence) ∧ QueuesRestored c c' l := by
  induction l generalizing c previous with
  | nil =>
    obtain rfl := Option.some.inj hr
    refine ⟨List.Pairwise.nil, fun _ hm => absurd hm List.not_mem_nil, ?_⟩
    exact ⟨fun p => (List.append_nil _).symm, fun k => (List.append_nil _).symm, id, rfl, rfl, rfl,
      rfl⟩
  | cons source rest ih =>
    rw [restoreQueues_cons] at hr
    split at hr
    · cases hr
    · rename_i hne
      obtain ⟨c₁, hentry, hr⟩ := Option.bind_eq_some_iff.mp hr
      obtain ⟨hle, hrest⟩ := List.pairwise_cons.mp hsorted
      obtain ⟨hlt, hfirst, hq⟩ := ih hr hrest hle
      have hhead : previous < source.queueSequence :=
        lt_of_le_of_ne (hprev source List.mem_cons_self) (Ne.symm hne)
      refine ⟨List.pairwise_cons.mpr ⟨hfirst, hlt⟩, fun src hm => ?_,
        (restoreEntry_spec hentry).trans hq⟩
      rcases List.mem_cons.mp hm with rfl | hm
      · exact hhead
      · exact hhead.trans (hfirst src hm)

/-! ## What `restore` accepts is well-formed -/

theorem mem_queuedBySequence {l : List EeSchedulerThreadSnapshot}
    {source : EeSchedulerThreadSnapshot} :
    source ∈ queuedBySequence l ↔ source ∈ l ∧ source.queueSequence ≠ 0 := by
  unfold queuedBySequence
  rw [List.mem_insertionSort, List.mem_filter, bne_iff_ne]

theorem queuedBySequence_sorted (l : List EeSchedulerThreadSnapshot) :
    (queuedBySequence l).Pairwise fun a b => a.queueSequence ≤ b.queueSequence :=
  List.pairwise_insertionSort _ _

theorem le_maximumQueueSequence {l : List EeSchedulerThreadSnapshot}
    {source : EeSchedulerThreadSnapshot} (hm : source ∈ l) :
    source.queueSequence ≤ maximumQueueSequence l := by
  unfold maximumQueueSequence
  have hfold : ∀ (l : List EeSchedulerThreadSnapshot) (m : QueueSequence),
      m ≤ l.foldl (fun m source => max m source.queueSequence) m ∧
        ∀ source ∈ l,
          source.queueSequence ≤ l.foldl (fun m source => max m source.queueSequence) m := by
    intro l
    induction l with
    | nil => exact fun m => ⟨le_rfl, fun _ hm => absurd hm List.not_mem_nil⟩
    | cons source rest ih =>
      intro m
      obtain ⟨hle, hall⟩ := ih (max m source.queueSequence)
      refine ⟨(le_max_left _ _).trans hle, fun src hm => ?_⟩
      rcases List.mem_cons.mp hm with rfl | hm
      · exact (le_max_right _ _).trans hle
      · exact hall src hm
  exact (hfold l 0).2 source hm

/-- The checks of `restore`, one after another. -/
theorem restoreCandidate_eq_some {state : EeThreadSchedulerSnapshot} {c : EeThreadScheduler} :
    restoreCandidate state = some c ↔
      ∃ c₁, restoreThreads
          { nextQueueSequence := state.nextQueueSequence
            canonicalTick := state.canonicalTick
            currentThreadId := state.currentThreadId } state.threads = some c₁ ∧
        state.nextQueueSequence ≠ 0 ∧
        maximumQueueSequence state.threads < state.nextQueueSequence ∧
        restoreQueues c₁ 0 (queuedBySequence state.threads) = some c ∧ c.validate = true := by
  unfold restoreCandidate
  cases restoreThreads
      { nextQueueSequence := state.nextQueueSequence
        canonicalTick := state.canonicalTick
        currentThreadId := state.currentThreadId } state.threads with
  | none => simp
  | some c₁ =>
    simp only [Option.some.injEq, exists_eq_left']
    split
    · rename_i hbad
      refine ⟨nofun, ?_⟩
      rintro ⟨hn, hmax, -⟩
      rcases hbad with hbad | hbad
      · exact absurd hbad hn
      · exact absurd hmax (not_lt.mpr hbad)
    · rename_i hok
      rw [not_or, not_le] at hok
      cases restoreQueues c₁ 0 (queuedBySequence state.threads) with
      | none => simp
      | some c₂ =>
        simp only [Option.some.injEq]
        split
        · rename_i hv
          constructor
          · rintro h
            obtain rfl := Option.some.inj h
            exact ⟨hok.1, hok.2, rfl, hv⟩
          · rintro ⟨-, -, rfl, -⟩
            rfl
        · rename_i hv
          refine ⟨nofun, ?_⟩
          rintro ⟨-, -, rfl, hv'⟩
          exact absurd hv' hv

theorem snapshotOf_injective {th' : ThreadRecord} (he : snapshotOf i th = snapshotOf i th') :
    th = th' := by
  cases th
  cases th'
  simp only [snapshotOf, EeSchedulerThreadSnapshot.mk.injEq, Int.natCast_inj, Fin.val_inj] at he
  simp only [he]

/-- After the first loop the records are the snapshot's entries. -/
theorem restoreThreads_iff {c c' : EeThreadScheduler} {l : List EeSchedulerThreadSnapshot}
    (hr : restoreThreads c l = some c') (hempty : ∀ j, c.thread? j = none) :
    c'.thread? i = some th ↔ snapshotOf i th ∈ l := by
  obtain ⟨-, -, hmem, hfrom⟩ := restoreThreads_spec hr
  constructor
  · intro ht
    rcases hfrom ht with hold | ⟨source, hm, rfl, hrec⟩
    · rw [hempty] at hold
      cases hold
    · rw [(recordOf_eq_some.mp hrec).2.2]
      exact hm
  · intro hm
    obtain ⟨th', hrec, ht⟩ := hmem _ hm
    obtain rfl : th' = th := snapshotOf_injective (recordOf_eq_some.mp hrec).2.2
    exact ht

/-- The queue of the entries passing `test`, a test the records decide by `Q`. -/
theorem isQueue_restored {Q : ThreadRecord → Prop} {test : EeSchedulerThreadSnapshot → Bool}
    {l queued : List EeSchedulerThreadSnapshot}
    (hiff : ∀ {j th}, s.thread? j = some th ↔ snapshotOf j th ∈ l)
    (hentry : ∀ source ∈ l, ∃ th, snapshotOf source.id th = source)
    (hqueued : ∀ source, source ∈ queued ↔ source ∈ l ∧ source.queueSequence ≠ 0)
    (hsorted : queued.Pairwise fun a b => a.queueSequence < b.queueSequence)
    (htest : ∀ j th, test (snapshotOf j th) = true ↔ Q th)
    (hQ : ∀ j th, s.thread? j = some th → Q th → th.queueSequence ≠ 0) :
    IsQueue s.sequenceOf (fun h => ¬ False ∧ s.Holds Q h) ((queued.filter test).map handleOf) := by
  refine isQueue_map_filter test hsorted (fun source hm => ?_) fun h => ?_
  · have hl := ((hqueued source).mp hm).1
    obtain ⟨th, hth⟩ := hentry source hl
    have ht : s.thread? source.id = some th := hiff.mpr (hth ▸ hl)
    rw [sequenceOf_eq ht, ← hth]
    rfl
  · constructor
    · rintro ⟨-, th, ht, hg, hq⟩
      refine ⟨snapshotOf h.id th, (hqueued _).mpr ⟨hiff.mp ht, hQ _ _ ht hq⟩,
        (htest _ _).mpr hq, ?_⟩
      unfold handleOf snapshotOf
      rw [hg]
    · rintro ⟨source, hm, htrue, rfl⟩
      have hl := ((hqueued source).mp hm).1
      obtain ⟨th, hth⟩ := hentry source hl
      refine ⟨not_false, th, hiff.mpr (hth ▸ hl), ?_, ?_⟩
      · rw [← hth]
        rfl
      · rw [← hth] at htrue
        exact (htest _ _).mp htrue

/-- A candidate whose records fit their states, and whose Running thread is the current one, is
well-formed. -/
theorem wf_candidate {state : EeThreadSchedulerSnapshot} {c₁ c : EeThreadScheduler}
    (hthreads : restoreThreads
      { nextQueueSequence := state.nextQueueSequence
        canonicalTick := state.canonicalTick
        currentThreadId := state.currentThreadId } state.threads = some c₁)
    (hn : state.nextQueueSequence ≠ 0)
    (hmax : maximumQueueSequence state.threads < state.nextQueueSequence)
    (hqueues : restoreQueues c₁ 0 (queuedBySequence state.threads) = some c)
    (hok : ∀ {j th}, c.thread? j = some th → th.Ok)
    (hcurrent : ∀ j, c.currentThreadId = some j ↔
      ∃ th, c.thread? j = some th ∧ th.state = .Running) : Wf c := by
  have hsorted := queuedBySequence_sorted state.threads
  obtain ⟨hlt, -, hq⟩ := restoreQueues_spec hqueues hsorted fun _ _ => Fin.zero_le _
  obtain ⟨hc₁, -, hmem, -⟩ := restoreThreads_spec hthreads
  have hthread : c.thread? = c₁.thread? := by
    unfold thread?
    rw [hq.threads]
  have hiff : ∀ {j th}, c.thread? j = some th ↔ snapshotOf j th ∈ state.threads := by
    intro j th
    rw [hthread]
    exact restoreThreads_iff hthreads fun _ => rfl
  have hentry : ∀ source ∈ state.threads, 0 < source.id ∧
      ∃ th : ThreadRecord, th.generation ≠ 0 ∧ snapshotOf source.id th = source := by
    intro source hm
    obtain ⟨th, hrec, -⟩ := hmem source hm
    obtain ⟨hid, hgen, hsrc⟩ := recordOf_eq_some.mp hrec
    exact ⟨hid, th, hgen, hsrc⟩
  have hnext : c.nextQueueSequence = state.nextQueueSequence := by
    rw [hq.next, hc₁]
  have hqueued : ∀ source, source ∈ queuedBySequence state.threads ↔
      source ∈ state.threads ∧ source.queueSequence ≠ 0 := fun _ => mem_queuedBySequence
  have hentry' : ∀ source ∈ state.threads, ∃ th, snapshotOf source.id th = source :=
    fun source hm => (hentry source hm).2.imp fun _ h => h.2
  refine ⟨fun {j th} _ ht => ?_, fun _ ht => hok ht, fun {j th} _ ht => ?_,
    fun {i j a b} _ _ ha hb hab hne => ?_, fun p => ?_, fun k => ?_, ?_, fun j => ?_⟩
  · obtain ⟨hid, th', hgen, hsrc⟩ := hentry _ (hiff.mp ht)
    obtain rfl := snapshotOf_injective hsrc
    exact ⟨hid, hgen⟩
  · unfold sequenceEnd
    rw [hnext, if_neg hn]
    exact (le_maximumQueueSequence (hiff.mp ht)).trans_lt hmax
  · have ha' := (hqueued _).mpr ⟨hiff.mp ha, hne⟩
    have hb' := (hqueued _).mpr ⟨hiff.mp hb, fun e => hne (hab.trans e)⟩
    exact congrArg EeSchedulerThreadSnapshot.id (key_injOn hlt _ ha' _ hb' hab)
  · rw [hq.ready, hc₁]
    refine isQueue_restored hiff hentry' hqueued hlt (fun _ _ => readyAt_snapshotOf)
      fun j th ht hin => ?_
    have hs := (hok ht).state
    unfold ThreadRecord.StateOk at hs
    rw [hin.1] at hs
    exact hs.2.2
  · rw [hq.wait, hc₁]
    refine isQueue_restored hiff hentry' hqueued hlt (fun _ _ => waitAt_snapshotOf)
      fun j th ht hin => ?_
    have hs := (hok ht).state
    unfold ThreadRecord.StateOk at hs
    rcases hin.1 with e | e <;> rw [e] at hs <;> exact hs.2.2.2.2
  · refine hq.nonempty fun k => ?_
    rw [hc₁]
    simp
  · rw [hcurrent]
    simp

/-- **Whatever `restore` accepts is well-formed.** -/
theorem wf_restoreCandidate {state : EeThreadSchedulerSnapshot} {c : EeThreadScheduler}
    (hr : restoreCandidate state = some c) : Wf c := by
  obtain ⟨c₁, hthreads, hn, hmax, hqueues, hv⟩ := restoreCandidate_eq_some.mp hr
  exact wf_candidate hthreads hn hmax hqueues (ok_of_validate hv) (current_of_validate hv)

/-- An accepted snapshot's counter is not zero, and becomes the scheduler's. -/
theorem restoreCandidate_next {state : EeThreadSchedulerSnapshot} {c : EeThreadScheduler}
    (hr : restoreCandidate state = some c) :
    state.nextQueueSequence ≠ 0 ∧ c.nextQueueSequence = state.nextQueueSequence := by
  obtain ⟨c₁, hthreads, hn, -, hqueues, -⟩ := restoreCandidate_eq_some.mp hr
  obtain ⟨-, -, hq⟩ := restoreQueues_spec hqueues (queuedBySequence_sorted _) fun _ _ => Fin.zero_le _
  refine ⟨hn, ?_⟩
  rw [hq.next, (restoreThreads_spec hthreads).1]

/-- `restore` refuses, or installs the candidate. -/
theorem restore_cases (s : EeThreadScheduler) (state : EeThreadSchedulerSnapshot) :
    s.restore state = (false, s) ∨
      ∃ c, restoreCandidate state = some c ∧ s.restore state = (true, c) := by
  unfold restore
  cases hr : restoreCandidate state with
  | none => exact Or.inl rfl
  | some c => exact Or.inr ⟨c, rfl, rfl⟩

end EeThreadScheduler

end Ps2Recomp
