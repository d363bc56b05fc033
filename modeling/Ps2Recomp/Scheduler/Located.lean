import Ps2Recomp.Scheduler.Invariant

/-!
# Where threads are, whatever their sequences

`Located s` is the part of the scheduler invariant that says where the threads are: each queue
lists, once, the threads whose records place them there, and the current thread is the Running one.
It says nothing about queue sequences, so it survives the wrap of the counter and holds in every
state any run reaches. `Wf.located` is the projection.

The rules are those of `Placement`, without the order.
-/

namespace Ps2Recomp

namespace EeThreadScheduler

variable {s s' : EeThreadScheduler} {i j : Int} {th th' : ThreadRecord}
  {h : EeSchedulerThreadHandle} {p : Priority} {k : EeSchedulerWaitKey}

instance (thread : ThreadRecord) : Decidable (thread.InReady p) :=
  inferInstanceAs (Decidable (_ ∧ _))

instance (thread : ThreadRecord) : Decidable (thread.InWait k) :=
  inferInstanceAs (Decidable (_ ∧ _))

/-- `l` lists the elements satisfying `P`, each once. -/
structure Lists {α : Type} (P : α → Prop) (l : List α) : Prop where
  nodup : l.Nodup
  mem_iff : ∀ a, a ∈ l ↔ P a

/-- Every thread but those in `off` is in the queue its record names, and in no other. -/
structure LocatedExcept (off : Int → Prop) (s : EeThreadScheduler) : Prop where
  ids : ∀ {i th}, ¬ off i → s.thread? i = some th → 0 < i ∧ th.generation ≠ 0
  ready : ∀ p, Lists (fun h => ¬ off h.id ∧ s.Holds (·.InReady p) h) (s.readyQueues p)
  wait : ∀ k, Lists (fun h => ¬ off h.id ∧ s.Holds (·.InWait k) h) (s.waitQueue k)
  current : ∀ i, s.currentThreadId = some i ↔
    ¬ off i ∧ ∃ th, s.thread? i = some th ∧ th.state = .Running

abbrev Located (s : EeThreadScheduler) : Prop := LocatedExcept (fun _ => False) s

theorem Wf.located (w : Wf s) : Located s where
  ids := w.ids
  ready p := ⟨(w.ready p).nodup, (w.ready p).mem_iff⟩
  wait k := ⟨(w.wait k).nodup, (w.wait k).mem_iff⟩
  current := w.current

/-! ## Reading it -/

theorem Located.mem_ready (w : Located s) : h ∈ s.readyQueues p ↔ s.Holds (·.InReady p) h := by
  rw [(w.ready p).mem_iff]
  simp

theorem Located.mem_wait (w : Located s) : h ∈ s.waitQueue k ↔ s.Holds (·.InWait k) h := by
  rw [(w.wait k).mem_iff]
  simp

theorem Located.findThread_of_holds (w : Located s) {Q : ThreadRecord → Prop} (hh : s.Holds Q h) :
    ∃ th, s.findThread h = some th ∧ Q th := by
  obtain ⟨th, ht, hg, hq⟩ := hh
  refine ⟨th, findThread_eq_some.mpr ⟨?_, ht, hg⟩, hq⟩
  obtain ⟨hi, hgen⟩ := w.ids not_false ht
  unfold EeSchedulerThreadHandle.valid
  rw [Bool.and_eq_true, decide_eq_true_eq, bne_iff_ne, ← hg]
  exact ⟨hi, hgen⟩

theorem Located.current_running (w : Located s) (hc : s.currentThreadId = some i) :
    ∃ th, s.thread? i = some th ∧ th.state = .Running :=
  ((w.current i).mp hc).2

theorem Located.current_state (w : Located s) (hc : s.currentThreadId = some i)
    (ht : s.thread? i = some th) : th.state = .Running := by
  obtain ⟨t, ht', hr⟩ := w.current_running hc
  obtain rfl : th = t := Option.some.inj (ht.symm.trans ht')
  exact hr

theorem Located.running_current (w : Located s) (ht : s.thread? i = some th)
    (hr : th.state = .Running) : s.currentThreadId = some i :=
  (w.current i).mpr ⟨not_false, th, ht, hr⟩

theorem Located.removeReady_eq (w : Located s) (hf : s.findThread h = some th)
    (hr : th.state = .Ready) :
    s.removeReady h th.priority =
      some { s with
        readyQueues := Function.update s.readyQueues th.priority
          ((s.readyQueues th.priority).erase h) } := by
  obtain ⟨-, ht, hg⟩ := findThread_eq_some.mp hf
  unfold removeReady
  rw [if_pos (w.mem_ready.mpr ⟨th, ht, hg, hr, rfl⟩)]

theorem lookup_of_mem_waitQueue (hm : h ∈ s.waitQueue k) :
    s.waitQueues.lookup k = some (s.waitQueue k) := by
  unfold waitQueue at hm ⊢
  cases hq : s.waitQueues.lookup k with
  | none => rw [hq] at hm; exact absurd hm List.not_mem_nil
  | some q => rfl

theorem Located.removeWait_eq (w : Located s) (hf : s.findThread h = some th)
    (hst : th.state = .Waiting ∨ th.state = .WaitSuspended) :
    s.removeWait h th.wait = some (s.setWaitQueue th.wait ((s.waitQueue th.wait).erase h)) := by
  obtain ⟨-, ht, hg⟩ := findThread_eq_some.mp hf
  have hm : h ∈ s.waitQueue th.wait := w.mem_wait.mpr ⟨th, ht, hg, hst, rfl⟩
  unfold removeWait
  rw [lookup_of_mem_waitQueue hm]
  exact if_pos hm

theorem Located.waitHead (w : Located s) {rest : List EeSchedulerThreadHandle}
    (hq : s.waitQueues.lookup k = some (h :: rest)) :
    s.waitQueue k = h :: rest ∧ ∃ th, s.findThread h = some th ∧ th.InWait k := by
  have hwq : s.waitQueue k = h :: rest := by unfold waitQueue; rw [hq]; rfl
  have hm : h ∈ s.waitQueue k := by rw [hwq]; exact List.mem_cons_self
  exact ⟨hwq, w.findThread_of_holds (w.mem_wait.mp hm)⟩

/-! ## Selecting the next thread -/

/-- The scheduler after the head `h` of the ready queue of `p`, whose record is `th`, was picked. -/
def picked (s : EeThreadScheduler) (p : Priority) (h : EeSchedulerThreadHandle) (th : ThreadRecord)
    (rest : List EeSchedulerThreadHandle) : EeThreadScheduler :=
  { s with
    readyQueues := Function.update s.readyQueues p rest
    threads := s.threads.insert h.id
      { th with state := .Running, retainCompletedWaitReason := false, queueSequence := 0 }
    currentThreadId := some h.id }

theorem Located.popReady_cons (w : Located s) {rest : List EeSchedulerThreadHandle}
    (hq : s.readyQueues p = h :: rest) :
    ∃ th, s.findThread h = some th ∧ th.InReady p ∧
      s.popReady (s.readyQueues p) = (some (h, th), rest) := by
  obtain ⟨th, hf, hin⟩ :=
    w.findThread_of_holds (w.mem_ready.mp (by rw [hq]; exact List.mem_cons_self))
  refine ⟨th, hf, hin, ?_⟩
  rw [hq, popReady, hf]
  exact if_pos hin.1

theorem Located.takeNextReadyFrom_cases (w : Located s) : ∀ ps : List Priority,
    ((∀ p ∈ ps, s.readyQueues p = []) ∧ s.takeNextReadyFrom ps = (none, s)) ∨
      ∃ qs p rs h th rest, ps = qs ++ p :: rs ∧ (∀ q ∈ qs, s.readyQueues q = []) ∧
        s.readyQueues p = h :: rest ∧ s.findThread h = some th ∧ th.InReady p ∧
        s.takeNextReadyFrom ps = (some h.id, s.picked p h th rest)
  | [] => Or.inl ⟨fun _ hp => absurd hp List.not_mem_nil, rfl⟩
  | p :: ps => by
    cases hq : s.readyQueues p with
    | nil =>
      -- an empty queue is skipped, and writing it back changes nothing
      have hstep : s.takeNextReadyFrom (p :: ps) = s.takeNextReadyFrom ps := by
        rw [takeNextReadyFrom, hq, popReady]
        simp only
        rw [← hq, Function.update_eq_self]
      rw [hstep]
      rcases w.takeNextReadyFrom_cases ps with
        ⟨hall, he⟩ | ⟨qs, p', rs, h, th, rest, rfl, hqs, hrest⟩
      · refine Or.inl ⟨fun q hqm => ?_, he⟩
        rcases List.mem_cons.mp hqm with rfl | hqm
        · exact hq
        · exact hall q hqm
      · refine Or.inr ⟨p :: qs, p', rs, h, th, rest, rfl, fun q hqm => ?_, hrest⟩
        rcases List.mem_cons.mp hqm with rfl | hqm
        · exact hq
        · exact hqs q hqm
    | cons h rest =>
      obtain ⟨th, hf, hin, hpop⟩ := w.popReady_cons hq
      refine Or.inr ⟨[], p, ps, h, th, rest, rfl, fun _ hp => absurd hp List.not_mem_nil, hq, hf,
        hin, ?_⟩
      rw [takeNextReadyFrom, hpop]
      rfl

/-- **What `takeNextReady` does**: nothing if no thread is Ready, else it runs the head of the
first non-empty ready queue. -/
theorem Located.takeNextReady_cases (w : Located s) :
    ((∀ p, s.readyQueues p = []) ∧ s.takeNextReady = (none, s)) ∨
      ∃ p h th rest, (∀ q, q < p → s.readyQueues q = []) ∧ s.readyQueues p = h :: rest ∧
        s.findThread h = some th ∧ th.InReady p ∧
        s.takeNextReady = (some h.id, s.picked p h th rest) := by
  rcases w.takeNextReadyFrom_cases (List.finRange kEeThreadPriorityCount) with
    ⟨hall, he⟩ | ⟨qs, p, rs, h, th, rest, hsplit, hqs, hq, hf, hin, he⟩
  · exact Or.inl ⟨fun p => hall p (List.mem_finRange p), he⟩
  · refine Or.inr ⟨p, h, th, rest, fun q hlt => hqs q ?_, hq, hf, hin, he⟩
    have hsorted : (qs ++ p :: rs).Pairwise (· < ·) :=
      hsplit ▸ List.pairwise_lt_finRange kEeThreadPriorityCount
    have hmem : q ∈ qs ++ p :: rs := hsplit ▸ List.mem_finRange q
    rcases List.mem_append.mp hmem with hm | hm
    · exact hm
    · rcases List.mem_cons.mp hm with rfl | hm
      · exact absurd hlt (lt_irrefl _)
      · have hpr := (List.pairwise_append.mp hsorted).2.1
        exact absurd hlt (lt_asymm ((List.pairwise_cons.mp hpr).1 q hm))

/-! ## Detaching and attaching -/

theorem lists_detach {Q : ThreadRecord → Prop} {l : List EeSchedulerThreadHandle}
    (ht : s.thread? i = some th) (hthreads : s'.thread? = s.thread?)
    (q : Lists (fun h => ¬ False ∧ s.Holds Q h) l) :
    Lists (fun h => ¬ h.id = i ∧ s'.Holds Q h) (l.erase ⟨i, th.generation⟩) where
  nodup := q.nodup.erase _
  mem_iff a := by
    rw [q.nodup.mem_erase_iff, q.mem_iff]
    simp only [Holds, hthreads, not_false_eq_true, true_and]
    constructor
    · rintro ⟨hne, hh⟩
      refine ⟨fun e => hne ?_, hh⟩
      obtain ⟨t, ht', hg, -⟩ := hh
      rw [e, ht] at ht'
      obtain rfl := Option.some.inj ht'
      cases a
      simp only at e hg
      rw [e, hg]
    · rintro ⟨hne, hh⟩
      exact ⟨fun e => hne (by rw [e]), hh⟩

/-- Thread `i` leaves its queue and the CPU. -/
theorem Located.detach (w : Located s) (ht : s.thread? i = some th)
    (hthreads : s'.thread? = s.thread?)
    (hready : ∀ p, s'.readyQueues p = (s.readyQueues p).erase ⟨i, th.generation⟩)
    (hwait : ∀ k, s'.waitQueue k = (s.waitQueue k).erase ⟨i, th.generation⟩)
    (hcur : ∀ j, s'.currentThreadId = some j ↔ s.currentThreadId = some j ∧ j ≠ i) :
    LocatedExcept (· = i) s' where
  ids _ hj := by rw [hthreads] at hj; exact w.ids not_false hj
  ready p := by rw [hready p]; exact lists_detach ht hthreads (w.ready p)
  wait k := by rw [hwait k]; exact lists_detach ht hthreads (w.wait k)
  current j := by
    rw [hcur j, w.current j, hthreads]
    simp only [not_false_eq_true, true_and]
    exact and_comm

theorem Located.erase_ready (w : Located s) (ht : s.thread? i = some th) (hp : ¬ th.InReady p) :
    (s.readyQueues p).erase ⟨i, th.generation⟩ = s.readyQueues p := by
  apply List.erase_of_not_mem
  intro hm
  obtain ⟨t, ht', -, hq⟩ := w.mem_ready.mp hm
  obtain rfl : th = t := Option.some.inj (ht.symm.trans ht')
  exact hp hq

theorem Located.erase_wait (w : Located s) (ht : s.thread? i = some th) (hk : ¬ th.InWait k) :
    (s.waitQueue k).erase ⟨i, th.generation⟩ = s.waitQueue k := by
  apply List.erase_of_not_mem
  intro hm
  obtain ⟨t, ht', -, hq⟩ := w.mem_wait.mp hm
  obtain rfl : th = t := Option.some.inj (ht.symm.trans ht')
  exact hk hq

theorem Located.current_ne (w : Located s) (ht : s.thread? i = some th)
    (hr : th.state ≠ .Running) (j : Int) :
    s.currentThreadId = some j ↔ s.currentThreadId = some j ∧ j ≠ i := by
  refine ⟨fun hc => ⟨hc, ?_⟩, And.left⟩
  rintro rfl
  exact hr (w.current_state hc ht)

theorem Located.detach_idle (w : Located s) (ht : s.thread? i = some th)
    (hst : th.state = .Dormant ∨ th.state = .Suspended) : LocatedExcept (· = i) s := by
  refine w.detach ht rfl (fun p => (w.erase_ready ht ?_).symm)
    (fun k => (w.erase_wait ht ?_).symm) (w.current_ne ht ?_)
  · rintro ⟨hr, -⟩
    rcases hst with e | e <;> rw [e] at hr <;> cases hr
  · rintro ⟨hr, -⟩
    rcases hst with e | e <;> rw [e] at hr <;> rcases hr with hr | hr <;> cases hr
  · rcases hst with e | e <;> rw [e] <;> exact nofun

theorem Located.detach_running (w : Located s) (hc : s.currentThreadId = some i) :
    LocatedExcept (· = i) { s with currentThreadId := none } := by
  obtain ⟨th, ht, hr⟩ := w.current_running hc
  refine w.detach ht rfl (fun p => (w.erase_ready ht ?_).symm)
    (fun k => (w.erase_wait ht ?_).symm) fun j => ?_
  · rintro ⟨e, -⟩
    rw [hr] at e
    cases e
  · rintro ⟨e, -⟩
    rw [hr] at e
    rcases e with e | e <;> cases e
  · simp only [reduceCtorEq, false_iff, not_and, not_not]
    intro hj
    exact Option.some.inj (hj.symm.trans hc)

theorem Located.detach_ready (w : Located s) (ht : s.thread? h.id = some th)
    (hg : th.generation = h.generation) (hr : th.state = .Ready) :
    LocatedExcept (· = h.id) { s with
      readyQueues := Function.update s.readyQueues th.priority
        ((s.readyQueues th.priority).erase h) } := by
  refine w.detach ht rfl (fun p => ?_) (fun k => (w.erase_wait ht ?_).symm) (w.current_ne ht ?_)
  · by_cases hp : p = th.priority
    · subst hp
      rw [hg]
      exact Function.update_self ..
    · rw [w.erase_ready ht fun e => hp e.2.symm]
      exact Function.update_of_ne hp ..
  · rintro ⟨e, -⟩
    rw [hr] at e
    rcases e with e | e <;> cases e
  · rw [hr]
    exact nofun

theorem Located.detach_wait (w : Located s) (ht : s.thread? h.id = some th)
    (hg : th.generation = h.generation) (hst : th.state = .Waiting ∨ th.state = .WaitSuspended) :
    LocatedExcept (· = h.id) (s.setWaitQueue th.wait ((s.waitQueue th.wait).erase h)) := by
  refine w.detach ht rfl (fun p => (w.erase_ready ht ?_).symm) (fun k => ?_) (w.current_ne ht ?_)
  · rintro ⟨e, -⟩
    rcases hst with hs | hs <;> rw [hs] at e <;> cases e
  · rw [waitQueue_setWaitQueue]
    by_cases hk : k = th.wait
    · rw [if_pos hk, hk, hg]
    · rw [if_neg hk, w.erase_wait ht fun e => hk e.2.symm]
  · rcases hst with e | e <;> rw [e] <;> exact nofun

theorem Located.detach_new (w : Located s) (ht : s.thread? i = none) :
    LocatedExcept (· = i) s where
  ids _ hj := w.ids not_false hj
  ready p := ⟨(w.ready p).nodup, fun a => by
    rw [(w.ready p).mem_iff]
    refine ⟨fun ha => ⟨?_, ha.2⟩, fun ha => ⟨not_false, ha.2⟩⟩
    rintro rfl
    obtain ⟨t, ht', -⟩ := ha.2
    rw [ht] at ht'
    cases ht'⟩
  wait k := ⟨(w.wait k).nodup, fun a => by
    rw [(w.wait k).mem_iff]
    refine ⟨fun ha => ⟨?_, ha.2⟩, fun ha => ⟨not_false, ha.2⟩⟩
    rintro rfl
    obtain ⟨t, ht', -⟩ := ha.2
    rw [ht] at ht'
    cases ht'⟩
  current j := by
    rw [w.current j]
    refine ⟨fun ha => ⟨?_, ha.2⟩, fun ha => ⟨not_false, ha.2⟩⟩
    rintro rfl
    obtain ⟨t, ht', -⟩ := ha.2
    rw [ht] at ht'
    cases ht'

theorem lists_attach {Q : ThreadRecord → Prop} [Decidable (Q th')]
    {l l' : List EeSchedulerThreadHandle}
    (hthreads : ∀ j, s'.thread? j = if j = i then some th' else s.thread? j)
    (q : Lists (fun h => ¬ h.id = i ∧ s.Holds Q h) l)
    (hl : l' = if Q th' then l ++ [⟨i, th'.generation⟩] else l) :
    Lists (fun h => ¬ False ∧ s'.Holds Q h) l' := by
  have hself : s'.thread? i = some th' := by rw [hthreads, if_pos rfl]
  have hnew : (⟨i, th'.generation⟩ : EeSchedulerThreadHandle) ∉ l := fun hm =>
    ((q.mem_iff _).mp hm).1 rfl
  have hholds : ∀ a : EeSchedulerThreadHandle,
      s'.Holds Q a ↔ (¬ a.id = i ∧ s.Holds Q a) ∨ (Q th' ∧ a = ⟨i, th'.generation⟩) := by
    intro a
    by_cases ha : a.id = i
    · have heq : th'.generation = a.generation ↔ a = ⟨i, th'.generation⟩ := by
        cases a
        simp only at ha
        simp [ha, eq_comm]
      simp only [Holds, ha, hself, Option.some.injEq, exists_eq_left', not_true, false_and,
        false_or, heq]
      exact and_comm
    · have hne : a ≠ ⟨i, th'.generation⟩ := fun e => ha (by rw [e])
      simp [Holds, hthreads, ha, hne]
  by_cases hQ : Q th'
  · rw [if_pos hQ] at hl
    subst hl
    refine ⟨List.nodup_append.mpr ⟨q.nodup, List.nodup_singleton _, ?_⟩, fun a => ?_⟩
    · rintro a ha b hb rfl
      rw [List.mem_singleton] at hb
      exact hnew (hb ▸ ha)
    · rw [List.mem_append, q.mem_iff, List.mem_singleton, hholds]
      simp [hQ]
  · rw [if_neg hQ] at hl
    subst hl
    refine ⟨q.nodup, fun a => ?_⟩
    rw [q.mem_iff, hholds]
    simp [hQ]

/-- Thread `i` gets the record `th'` and the place it names. -/
theorem LocatedExcept.attach (w : LocatedExcept (· = i) s) (hid : 0 < i)
    (hgen : th'.generation ≠ 0)
    (hthreads : ∀ j, s'.thread? j = if j = i then some th' else s.thread? j)
    (hready : ∀ p, s'.readyQueues p =
      if th'.InReady p then s.readyQueues p ++ [⟨i, th'.generation⟩] else s.readyQueues p)
    (hwait : ∀ k, s'.waitQueue k =
      if th'.InWait k then s.waitQueue k ++ [⟨i, th'.generation⟩] else s.waitQueue k)
    (hcur : ∀ j, s'.currentThreadId = some j ↔
      s.currentThreadId = some j ∨ (j = i ∧ th'.state = .Running)) : Located s' where
  ids := fun {j t} _ hj => by
    rw [hthreads] at hj
    split at hj
    · rename_i e
      obtain rfl := Option.some.inj hj
      exact ⟨e ▸ hid, hgen⟩
    · rename_i e
      exact w.ids e hj
  ready p := lists_attach hthreads (w.ready p) (hready p)
  wait k := lists_attach hthreads (w.wait k) (hwait k)
  current j := by
    rw [hcur j, w.current j, hthreads]
    by_cases e : j = i
    · simp [e]
    · simp [e]

theorem LocatedExcept.attach_idle (w : LocatedExcept (· = i) s) (hid : 0 < i)
    (hgen : th'.generation ≠ 0) (hst : th'.state = .Dormant ∨ th'.state = .Suspended) :
    Located (s.setThread i th') := by
  refine w.attach hid hgen (fun j => thread?_setThread i j) (fun p => ?_) (fun k => ?_) fun j => ?_
  · rw [if_neg]
    · rfl
    rintro ⟨e, -⟩
    rcases hst with hs | hs <;> rw [hs] at e <;> cases e
  · rw [if_neg]
    · rfl
    rintro ⟨e, -⟩
    rcases hst with hs | hs <;> rw [hs] at e <;> rcases e with e | e <;> cases e
  · have hne : th'.state ≠ .Running := by rcases hst with hs | hs <;> rw [hs] <;> exact nofun
    simp [hne]

theorem LocatedExcept.attach_ready (w : LocatedExcept (· = i) s) (hid : 0 < i)
    (hgen : th.generation ≠ 0) : Located (s.enqueueReady i th) := by
  have hgen' : ThreadRecord.generation
      { th with state := .Ready, wait := {}, queueSequence := s.nextQueueSequence } ≠ 0 := hgen
  refine w.attach hid hgen' (fun j => thread?_enqueueReady i j) (fun p => ?_) (fun k => ?_)
    fun j => ?_
  · rw [readyQueues_enqueueReady]
    simp [ThreadRecord.InReady, eq_comm]
  · rw [if_neg]
    · rfl
    rintro ⟨e, -⟩
    rcases e with e | e <;> cases e
  · simp [enqueueReady]

theorem waitQueue_enqueueWait (wait k : EeSchedulerWaitKey) :
    (s.enqueueWait i th wait).waitQueue k =
      if k = wait then s.waitQueue k ++ [⟨i, th.generation⟩] else s.waitQueue k := by
  unfold enqueueWait
  by_cases hk : k = wait
  · subst hk
    simp only [waitQueue, Finmap.lookup_insert, Option.getD_some, if_true]
  · simp only [waitQueue, Finmap.lookup_insert_of_ne _ hk, if_neg hk]

theorem LocatedExcept.attach_wait
    (w : LocatedExcept (· = i) { s with currentThreadId := none }) (hid : 0 < i)
    (hgen : th.generation ≠ 0) (k : EeSchedulerWaitKey) : Located (s.enqueueWait i th k) := by
  have hgen' : ThreadRecord.generation
      { th with state := .Waiting, wait := k, queueSequence := s.nextQueueSequence } ≠ 0 := hgen
  refine w.attach hid hgen' (fun j => thread?_setThread i j) (fun p => ?_) (fun k' => ?_)
    fun j => ?_
  · rw [if_neg]
    · rfl
    rintro ⟨e, -⟩
    cases e
  · rw [waitQueue_enqueueWait]
    simp only [ThreadRecord.InWait, true_or, true_and, eq_comm]
    rfl
  · simp [enqueueWait]

theorem LocatedExcept.attach_running (w : LocatedExcept (· = i) s) (hid : 0 < i)
    (hgen : th'.generation ≠ 0) (hst : th'.state = .Running) (hnone : s.currentThreadId = none) :
    Located { s.setThread i th' with currentThreadId := some i } := by
  refine w.attach hid hgen (fun j => thread?_setThread i j) (fun p => ?_) (fun k => ?_) fun j => ?_
  · rw [if_neg]
    · rfl
    rintro ⟨e, -⟩
    rw [hst] at e
    cases e
  · rw [if_neg]
    · rfl
    rintro ⟨e, -⟩
    rw [hst] at e
    rcases e with e | e <;> cases e
  · simp [hnone, hst, eq_comm]

theorem LocatedExcept.attach_erase (w : LocatedExcept (· = i) s) :
    Located { s with threads := s.threads.erase i } := by
  have hother : ∀ {j}, j ≠ i →
      ({ s with threads := s.threads.erase i } : EeThreadScheduler).thread? j = s.thread? j :=
    fun hj => Finmap.lookup_erase_ne hj
  have hself : ({ s with threads := s.threads.erase i } : EeThreadScheduler).thread? i = none :=
    Finmap.lookup_erase i s.threads
  have hholds : ∀ (Q : ThreadRecord → Prop) (a : EeSchedulerThreadHandle),
      (¬ False ∧ Holds { s with threads := s.threads.erase i } Q a) ↔
        (¬ a.id = i ∧ s.Holds Q a) := by
    intro Q a
    by_cases ha : a.id = i
    · simp [Holds, ha, hself]
    · simp [Holds, ha, hother ha]
  refine ⟨fun {j t} _ hj => ?_, fun p => ⟨(w.ready p).nodup, fun a => ?_⟩,
    fun k => ⟨(w.wait k).nodup, fun a => ?_⟩, fun j => ?_⟩
  · by_cases e : j = i
    · rw [e, hself] at hj
      cases hj
    · exact w.ids e ((hother e).symm.trans hj)
  · exact ((w.ready p).mem_iff a).trans (hholds _ a).symm
  · exact ((w.wait k).mem_iff a).trans (hholds _ a).symm
  · refine (w.current j).trans ?_
    by_cases e : j = i
    · simp [e, hself]
    · simp [e, hother e]

/-- A record changes and keeps its place. -/
theorem Located.update (w : Located s) (ht : s.thread? i = some th)
    (hgen : th'.generation = th.generation) (hready : ∀ p, th'.InReady p ↔ th.InReady p)
    (hwait : ∀ k, th'.InWait k ↔ th.InWait k)
    (hrun : th'.state = .Running ↔ th.state = .Running) : Located (s.setThread i th') := by
  have hself : (s.setThread i th').thread? i = some th' := by rw [thread?_setThread, if_pos rfl]
  have hother : ∀ {j}, j ≠ i → (s.setThread i th').thread? j = s.thread? j := fun hj => by
    rw [thread?_setThread, if_neg hj]
  have hholds : ∀ {Q : ThreadRecord → Prop}, (Q th' ↔ Q th) → ∀ a : EeSchedulerThreadHandle,
      (¬ False ∧ (s.setThread i th').Holds Q a) ↔ (¬ False ∧ s.Holds Q a) := by
    intro Q hQ a
    by_cases ha : a.id = i
    · simp [Holds, ha, hself, ht, hgen, hQ]
    · simp [Holds, hother ha]
  refine ⟨fun {j t} _ hj => ?_, fun p => ⟨(w.ready p).nodup, fun a => ?_⟩,
    fun k => ⟨(w.wait k).nodup, fun a => ?_⟩, fun j => ?_⟩
  · by_cases e : j = i
    · rw [e, hself] at hj
      obtain rfl := Option.some.inj hj
      rw [e, hgen]
      exact w.ids not_false ht
    · exact w.ids not_false ((hother e).symm.trans hj)
  · exact ((w.ready p).mem_iff a).trans (hholds (hready p) a).symm
  · exact ((w.wait k).mem_iff a).trans (hholds (hwait k) a).symm
  · refine (w.current j).trans ?_
    by_cases e : j = i
    · simp [e, hself, ht, hrun]
    · simp [hother e]

/-! ## Selection keeps it -/

theorem Located.located_takeNextReady (w : Located s) (hnone : s.currentThreadId = none) :
    Located s.takeNextReady.2 := by
  rcases w.takeNextReady_cases with ⟨-, he⟩ | ⟨p, h, th, rest, -, hq, hf, hin, he⟩
  · rw [he]
    exact w
  · rw [he]
    obtain ⟨-, ht, hg⟩ := findThread_eq_some.mp hf
    obtain ⟨hid, hgen⟩ := w.ids not_false ht
    have w' := w.detach_ready ht hg hin.1
    rw [hin.2, hq, List.erase_cons_head] at w'
    have hgen' : ThreadRecord.generation
        { th with state := .Running, retainCompletedWaitReason := false, queueSequence := 0 } ≠ 0 :=
      hgen
    exact w'.attach_running hid hgen' rfl hnone

end EeThreadScheduler

end Ps2Recomp
