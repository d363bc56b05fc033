import Mathlib
import Ps2Recomp.SaveState.HleWaits

/-!
# The saved threads

What the loops of the decoder make of the saved threads, for threads of distinct ids: the reader
recovers each (`readSavedThreads_eq`), the normalisation takes the HLE waiters out of their waits if
each has a saved thread that was started (`normalizeHleWaits_eq_ok`), and the registry gets the rest
(`restoreThreadInfos_spec`).

`Registered` is what every runtime keeps of its registry: ids from 1 to 255, a generation that is
not zero and a priority below 128. What is saved of such a registry is read back whole.
-/

namespace Ps2Recomp

/-! ## Guest states -/

/-- The guest state of an HLE waiter is valid again if the thread was started. -/
theorem EeThreadGuestStateSnapshot.withoutWait_isValid {guest : EeThreadGuestStateSnapshot}
    (h : guest.isValid = true) : guest.withoutWait.isValid = guest.started := by
  have hwakeup := wakeupCount_nonneg h
  have hsuspend := suspendCount_nonneg h
  by_cases h0 : guest.suspendCount = 0
  · simp [withoutWait, isValid, statusFits, hasQueue, hasWaitReason, h0, hwakeup]
  · have hpos : 0 < guest.suspendCount := lt_of_le_of_ne hsuspend (Ne.symm h0)
    simp [withoutWait, isValid, statusFits, hasQueue, hasWaitReason, h0, hwakeup, hsuspend, hpos]

/-- Record and guest state of a thread that agree still agree once the decoder settled both. -/
theorem ThreadRecord.Agrees.withoutWait {th : ThreadRecord} {guest : EeThreadGuestStateSnapshot}
    (h : th.Agrees guest) : th.withoutWait.Agrees guest.withoutWait := by
  have hcount := h.suspendCount
  refine ⟨?_, hcount, rfl, rfl⟩
  unfold ThreadRecord.withoutWait EeThreadGuestStateSnapshot.withoutWait
  simp only
  by_cases h0 : th.suspendCount = 0
  · rw [if_neg (not_not.mpr h0), if_neg (by rw [hcount, h0]; simp)]
    rfl
  · rw [if_pos h0, if_pos (by rw [hcount]; exact_mod_cast h0)]
    rfl

/-! ## Saved threads of distinct ids -/

/-- No two saved threads have one id. -/
def DistinctIds (threads : List SavedThread) : Prop := threads.Pairwise fun a b => a.id ≠ b.id

variable {threads : List SavedThread} {id : Int}

theorem DistinctIds.map {f : SavedThread → SavedThread} (hf : ∀ t, (f t).id = t.id)
    (h : DistinctIds threads) : DistinctIds (threads.map f) := by
  unfold DistinctIds
  rw [List.pairwise_map]
  refine h.imp fun {a b} hab => ?_
  rwa [hf, hf]

@[simp] theorem SavedThread.recover_id (t : SavedThread) :
    t.recoverNativeWaitContinuation.id = t.id := by
  unfold SavedThread.recoverNativeWaitContinuation
  simp only
  split <;> rfl

@[simp] theorem SavedThread.recover_guest (t : SavedThread) :
    t.recoverNativeWaitContinuation.guest = t.guest := by
  unfold SavedThread.recoverNativeWaitContinuation
  simp only
  split <;> rfl

@[simp] theorem SavedThread.recover_generation (t : SavedThread) :
    t.recoverNativeWaitContinuation.generation = t.generation := by
  unfold SavedThread.recoverNativeWaitContinuation
  simp only
  split <;> rfl

theorem readSavedThreads_eq {threadIds : List Int} (hread : ∀ t ∈ threads, t.readable = true)
    (hids : DistinctIds threads) (hnew : ∀ t ∈ threads, t.id ∉ threadIds) :
    readSavedThreads threadIds threads =
      .ok (threads.map SavedThread.recoverNativeWaitContinuation) := by
  induction threads generalizing threadIds with
  | nil => rfl
  | cons t rest ih =>
    obtain ⟨hne, hids⟩ := List.pairwise_cons.mp hids
    have hrest : readSavedThreads (t.id :: threadIds) rest =
        .ok (rest.map SavedThread.recoverNativeWaitContinuation) := by
      refine ih (fun u hu => hread u (List.mem_cons_of_mem _ hu)) hids fun u hu => ?_
      rw [List.mem_cons, not_or]
      exact ⟨(hne u hu).symm, hnew u (List.mem_cons_of_mem _ hu)⟩
    unfold readSavedThreads
    rw [hread t List.mem_cons_self, decide_eq_false (hnew t List.mem_cons_self), hrest]
    rfl

theorem find?_id_eq_some (hids : DistinctIds threads) {t : SavedThread} :
    threads.find? (·.id = id) = some t ↔ t ∈ threads ∧ t.id = id := by
  constructor
  · intro h
    exact ⟨List.mem_of_find?_eq_some h, by simpa using List.find?_some h⟩
  · rintro ⟨hm, hid⟩
    induction threads with
    | nil => exact absurd hm List.not_mem_nil
    | cons u rest ih =>
      obtain ⟨hne, hids⟩ := List.pairwise_cons.mp hids
      rcases List.mem_cons.mp hm with rfl | hm
      · exact List.find?_cons_of_pos (by simpa using hid)
      · rw [List.find?_cons_of_neg (by simpa using fun e => hne t hm (e.trans hid.symm))]
        exact ih hids hm

theorem modifyThread_eq_map (hids : DistinctIds threads) (f : SavedThread → SavedThread) :
    modifyThread id f threads = threads.map fun t => if t.id = id then f t else t := by
  induction threads with
  | nil => rfl
  | cons t rest ih =>
    obtain ⟨hne, hids⟩ := List.pairwise_cons.mp hids
    unfold modifyThread
    rw [List.map_cons]
    split
    · rename_i he
      congr 1
      refine (List.map_id' rest).symm.trans (List.map_congr_left fun u hu => ?_)
      rw [if_neg fun e => hne u hu (he.trans e.symm)]
    · rw [ih hids]

/-! ## The normalisation -/

/-- The saved thread after the entries have been normalised. -/
def settleThread (scheduled : List EeSchedulerThreadSnapshot) (t : SavedThread) : SavedThread :=
  if scheduled.any fun source => source.hleWait && source.id == t.id then t.withoutWait else t

@[simp] theorem settleThread_id (scheduled : List EeSchedulerThreadSnapshot) (t : SavedThread) :
    (settleThread scheduled t).id = t.id := by
  unfold settleThread
  split <;> rfl

@[simp] theorem settleThread_generation (scheduled : List EeSchedulerThreadSnapshot)
    (t : SavedThread) : (settleThread scheduled t).generation = t.generation := by
  unfold settleThread
  split <;> rfl

@[simp] theorem settleThread_context (scheduled : List EeSchedulerThreadSnapshot)
    (t : SavedThread) : (settleThread scheduled t).context = t.context := by
  unfold settleThread
  split <;> rfl

/-- The entry has a saved thread that can be taken out of its wait. -/
def HleRecoverable (threads : List SavedThread) (source : EeSchedulerThreadSnapshot) : Prop :=
  ∃ t ∈ threads, t.id = source.id ∧ t.withoutWait.guest.isValid = true

/-- Taking another thread out of its wait changes nothing for an entry. -/
theorem hleRecoverable_map {source : EeSchedulerThreadSnapshot} (hne : id ≠ source.id) :
    HleRecoverable (threads.map fun t => if t.id = id then t.withoutWait else t) source ↔
      HleRecoverable threads source := by
  unfold HleRecoverable
  simp only [List.mem_map, exists_exists_and_eq_and]
  refine exists_congr fun t => and_congr_right fun _ => ?_
  by_cases he : t.id = id
  · have hother : t.id ≠ source.id := fun e => hne (he.symm.trans e)
    rw [if_pos he]
    exact iff_of_false (fun h => hother h.1) fun h => hother h.1
  · rw [if_neg he]

/-- The loop over the rest of the entries does not touch the thread of the first. -/
theorem settleThread_cons {source : EeSchedulerThreadSnapshot}
    {rest : List EeSchedulerThreadSnapshot} (hhle : source.hleWait = true)
    (hne : ∀ other ∈ rest, source.id ≠ other.id) (t : SavedThread) :
    settleThread rest (if t.id = source.id then t.withoutWait else t) =
      settleThread (source :: rest) t := by
  have hcons : settleThread (source :: rest) t =
      if source.id == t.id then t.withoutWait else settleThread rest t := by
    unfold settleThread
    rw [List.any_cons, hhle, Bool.true_and]
    cases source.id == t.id <;> rfl
  rw [hcons]
  by_cases he : t.id = source.id
  · have hno : rest.any (fun other => other.hleWait && other.id == source.id) = false := by
      rw [List.any_eq_false]
      intro other ho
      rw [Bool.and_eq_true, not_and, beq_iff_eq]
      exact fun _ e => hne other ho e.symm
    rw [if_pos he, if_pos (by rw [he]; exact beq_self_eq_true _)]
    unfold settleThread
    rw [show t.withoutWait.id = source.id from he, hno]
    rfl
  · rw [if_neg he, if_neg (by rw [beq_iff_eq]; exact fun e => he e.symm)]

theorem consEntry_eq_ok {source : EeSchedulerThreadSnapshot}
    {rest : Except String (List EeSchedulerThreadSnapshot × List SavedThread)}
    {result : List EeSchedulerThreadSnapshot × List SavedThread} :
    consEntry source rest = .ok result ↔
      ∃ normalized left, rest = .ok (normalized, left) ∧ result = (source :: normalized, left) := by
  cases rest with
  | error message =>
    refine iff_of_false nofun ?_
    rintro ⟨_, _, he, -⟩
    cases he
  | ok pair =>
    constructor
    · rintro ⟨⟩
      exact ⟨pair.1, pair.2, rfl, rfl⟩
    · rintro ⟨normalized, left, he, rfl⟩
      cases he
      rfl

/-- **The normalisation** of entries and saved threads of distinct ids: it takes every HLE waiter
out of its wait, and fails only for one without a saved thread that was started. -/
theorem normalizeHleWaits_eq_ok {scheduled : List EeSchedulerThreadSnapshot}
    (hentries : scheduled.Pairwise fun a b => a.id ≠ b.id) (hids : DistinctIds threads)
    {result : List EeSchedulerThreadSnapshot × List SavedThread} :
    normalizeHleWaits scheduled threads = .ok result ↔
      (∀ source ∈ scheduled, source.hleWait = true → HleRecoverable threads source) ∧
        result = (scheduled.map EeSchedulerThreadSnapshot.settled,
          threads.map (settleThread scheduled)) := by
  induction scheduled generalizing threads result with
  | nil =>
    have hmap : threads.map (settleThread []) = threads := by
      refine (List.map_congr_left fun t _ => ?_).trans (List.map_id' threads)
      rfl
    rw [hmap]
    unfold normalizeHleWaits
    rw [and_iff_right fun _ hm => absurd hm List.not_mem_nil, Except.ok.injEq]
    exact eq_comm
  | cons source rest ih =>
    obtain ⟨hne, hentries⟩ := List.pairwise_cons.mp hentries
    unfold normalizeHleWaits
    cases hhle : source.hleWait with
    | false =>
      have hsettled : source.settled = source := by
        unfold EeSchedulerThreadSnapshot.settled
        rw [hhle]
        rfl
      have hthreads : threads.map (settleThread (source :: rest)) =
          threads.map (settleThread rest) := by
        refine List.map_congr_left fun t _ => ?_
        unfold settleThread
        rw [List.any_cons, hhle, Bool.false_and, Bool.false_or]
      have hall : (∀ other ∈ source :: rest, other.hleWait = true → HleRecoverable threads other) ↔
          ∀ other ∈ rest, other.hleWait = true → HleRecoverable threads other := by
        rw [List.forall_mem_cons, hhle]
        simp
      rw [List.map_cons, hsettled, hthreads, hall]
      simp only [Bool.false_eq_true, if_false]
      rw [consEntry_eq_ok]
      constructor
      · rintro ⟨normalized, left, hrest, rfl⟩
        obtain ⟨hok, he⟩ := (ih hentries hids).mp hrest
        obtain ⟨rfl, rfl⟩ := Prod.mk.injEq .. ▸ he
        exact ⟨hok, rfl⟩
      · rintro ⟨hok, rfl⟩
        exact ⟨_, _, (ih hentries hids).mpr ⟨hok, rfl⟩, rfl⟩
    | true =>
      have hsettled : source.settled = source.withoutWait := if_pos hhle
      have hmodified : modifyThread source.id .withoutWait threads =
          threads.map fun t => if t.id = source.id then t.withoutWait else t :=
        modifyThread_eq_map hids _
      have hids' : DistinctIds
          (threads.map fun t => if t.id = source.id then t.withoutWait else t) :=
        hids.map fun t => by
          split <;> rfl
      have hthreads : (threads.map fun t => if t.id = source.id then t.withoutWait else t).map
          (settleThread rest) = threads.map (settleThread (source :: rest)) := by
        rw [List.map_map]
        exact List.map_congr_left fun t _ => settleThread_cons hhle hne t
      have hall : (∀ other ∈ source :: rest, other.hleWait = true → HleRecoverable threads other) ↔
          HleRecoverable threads source ∧ ∀ other ∈ rest, other.hleWait = true →
            HleRecoverable
              (threads.map fun t => if t.id = source.id then t.withoutWait else t) other := by
        rw [List.forall_mem_cons, hhle]
        refine and_congr (by simp) (forall₂_congr fun other ho => ?_)
        rw [hleRecoverable_map (hne other ho)]
      rw [if_pos rfl, List.map_cons, hsettled, hall, hmodified]
      cases hfind : threads.find? (·.id = source.id) with
      | none =>
        refine iff_of_false nofun ?_
        rintro ⟨⟨⟨t, ht, hid, -⟩, -⟩, -⟩
        rw [(find?_id_eq_some hids).mpr ⟨ht, hid⟩] at hfind
        cases hfind
      | some found =>
        obtain ⟨hfound, hfoundId⟩ := (find?_id_eq_some hids).mp hfind
        have hrecoverable : HleRecoverable threads source ↔
            found.withoutWait.guest.isValid = true := by
          constructor
          · rintro ⟨t, ht, hid, hvalid⟩
            have := (find?_id_eq_some hids).mpr ⟨ht, hid⟩
            rw [hfind] at this
            obtain rfl := Option.some.inj this
            exact hvalid
          · exact fun hvalid => ⟨found, hfound, hfoundId, hvalid⟩
        rw [hrecoverable]
        simp only
        cases hvalid : found.withoutWait.guest.isValid with
        | false => exact iff_of_false nofun fun h => Bool.noConfusion h.1.1
        | true =>
          simp only [Bool.not_true, Bool.false_eq_true, if_false, true_and]
          rw [consEntry_eq_ok, ← hthreads]
          constructor
          · rintro ⟨normalized, left, hrest, rfl⟩
            obtain ⟨hok, he⟩ := (ih hentries hids').mp hrest
            obtain ⟨rfl, rfl⟩ := Prod.mk.injEq .. ▸ he
            exact ⟨hok, rfl⟩
          · rintro ⟨hok, rfl⟩
            exact ⟨_, _, (ih hentries hids').mpr ⟨hok, rfl⟩, rfl⟩

/-! ## The registry -/

/-- The registry of saved threads of distinct ids with valid guest states: each has its entry. -/
theorem restoreThreadInfos_spec {registry : Finmap (fun _ : Int => ThreadInfo)}
    (hids : DistinctIds threads) (hvalid : ∀ t ∈ threads, t.guest.isValid = true)
    (hnew : ∀ t ∈ threads, registry.lookup t.id = none) :
    ∃ restored, restoreThreadInfos registry threads = .ok restored ∧
      (∀ i, (∀ t ∈ threads, t.id ≠ i) → restored.lookup i = registry.lookup i) ∧
      ∀ t ∈ threads, ∀ guest : EeThreadGuestState, guest.state = t.guest →
        restored.lookup t.id = some (t.info guest) := by
  induction threads generalizing registry with
  | nil => exact ⟨registry, rfl, fun _ _ => rfl, fun t ht => absurd ht List.not_mem_nil⟩
  | cons t rest ih =>
    obtain ⟨hne, hids⟩ := List.pairwise_cons.mp hids
    have hguest : EeThreadGuestState.restore t.guest =
        some ⟨t.guest, hvalid t List.mem_cons_self⟩ := EeThreadGuestState.restore_eq_some.mpr rfl
    have hnone := hnew t List.mem_cons_self
    obtain ⟨restored, he, hother, hmem⟩ := @ih
      (registry.insert t.id (t.info ⟨t.guest, hvalid t List.mem_cons_self⟩)) hids
      (fun u hu => hvalid u (List.mem_cons_of_mem _ hu)) fun u hu => by
        rw [Finmap.lookup_insert_of_ne _ (hne u hu).symm]
        exact hnew u (List.mem_cons_of_mem _ hu)
    refine ⟨restored, ?_, fun i hi => ?_, fun u hu guest hg => ?_⟩
    · unfold restoreThreadInfos
      rw [hguest, hnone]
      exact he
    · rw [hother i fun u hu => hi u (List.mem_cons_of_mem _ hu),
        Finmap.lookup_insert_of_ne _ (hi t List.mem_cons_self).symm]
    · rcases List.mem_cons.mp hu with rfl | hu
      · rw [hother _ fun v hv => (hne v hv).symm, Finmap.lookup_insert]
        cases guest
        cases hg
        rfl
      · exact hmem u hu guest hg

namespace PS2Runtime

variable {Sections : Type} {runtime : PS2Runtime Sections} {i : Int} {info : ThreadInfo}

/-- `m_eeThreadRuntimeState->threads.find(threadId)`. -/
abbrev info? (runtime : PS2Runtime Sections) (threadId : Int) : Option ThreadInfo :=
  runtime.threadState.threads.lookup threadId

theorem registered_iff {generation : Nat} :
    runtime.registered i generation = true ↔
      ∃ info, runtime.info? i = some info ∧ info.generation = generation := by
  unfold registered info?
  cases runtime.threadState.threads.lookup i with
  | none => simp
  | some info => simp

theorem mem_savedThreads {t : SavedThread} :
    t ∈ runtime.savedThreads ↔ ∃ i info, runtime.info? i = some info ∧
      runtime.savedThread i info = t := by
  unfold savedThreads
  simp only [List.mem_filterMap, Finset.mem_sort, Option.map_eq_some_iff]
  constructor
  · rintro ⟨i, -, info, hi, he⟩
    exact ⟨i, info, hi, he⟩
  · rintro ⟨i, info, hi, he⟩
    exact ⟨i, Finmap.mem_keys.mpr (Finmap.mem_of_lookup_eq_some hi), info, hi, he⟩

theorem savedThreads_distinctIds (runtime : PS2Runtime Sections) :
    DistinctIds runtime.savedThreads := by
  unfold savedThreads DistinctIds
  rw [List.pairwise_filterMap]
  refine (runtime.threadState.threads.keys.sort_nodup (· ≤ ·)).imp ?_
  intro a b hab t ht t' ht'
  obtain ⟨info, -, rfl⟩ := Option.map_eq_some_iff.mp ht
  obtain ⟨info', -, rfl⟩ := Option.map_eq_some_iff.mp ht'
  exact hab

theorem savedThreads_length_le (runtime : PS2Runtime Sections) :
    runtime.savedThreads.length ≤ runtime.threadState.threads.keys.card := by
  unfold savedThreads
  refine (List.length_filterMap_le _ _).trans ?_
  rw [Finset.length_sort]

/-- What a runtime keeps of its registry. -/
structure Registered (runtime : PS2Runtime Sections) : Prop where
  ids : ∀ {i info}, runtime.info? i = some info → 1 ≤ i ∧ i ≤ 0xFF
  generations : ∀ {i info}, runtime.info? i = some info → info.generation ≠ 0
  priorities : ∀ {i info}, runtime.info? i = some info → info.priority < 128

namespace Registered

variable (reg : runtime.Registered)

include reg

theorem keys_subset : runtime.threadState.threads.keys ⊆ Finset.Icc (1 : Int) 0xFF := by
  intro i hi
  obtain ⟨info, hinfo⟩ := Finmap.mem_iff.mp (Finmap.mem_keys.mp hi)
  rw [Finset.mem_Icc]
  exact reg.ids hinfo

theorem card_keys_le : runtime.threadState.threads.keys.card ≤ kMaximumSavedThreads :=
  (Finset.card_le_card reg.keys_subset).trans (by rw [Int.card_Icc]; decide)

theorem length_savedThreads : runtime.savedThreads.length ≤ kMaximumSavedThreads :=
  runtime.savedThreads_length_le.trans reg.card_keys_le

theorem readable {t : SavedThread} (ht : t ∈ runtime.savedThreads) : t.readable = true := by
  obtain ⟨i, info, hi, rfl⟩ := mem_savedThreads.mp ht
  have hid := (reg.ids hi).1
  have hgen := reg.generations hi
  have hprio := reg.priorities hi
  simp only [SavedThread.readable, Bool.and_eq_true, decide_eq_true_eq, bne_iff_ne]
  exact ⟨⟨⟨hid, hgen⟩, hprio⟩, info.guestState.valid⟩

/-- **Saved threads are read back**, each recovered. -/
theorem readSavedThreads : readSavedThreads [] runtime.savedThreads =
    .ok (runtime.savedThreads.map SavedThread.recoverNativeWaitContinuation) :=
  readSavedThreads_eq (fun _ ht => reg.readable ht) runtime.savedThreads_distinctIds
    fun _ _ => List.not_mem_nil

/-- A scheduler whose threads are all registered has no more records than can be saved. -/
theorem length_snapshot {scheduler : EeThreadScheduler}
    (hall : ∀ i th, scheduler.thread? i = some th → runtime.registered i th.generation = true) :
    scheduler.snapshot.threads.length ≤ kMaximumSavedThreads := by
  have hsub : scheduler.threads.keys ⊆ runtime.threadState.threads.keys := by
    intro i hi
    obtain ⟨th, ht⟩ := Finmap.mem_iff.mp (Finmap.mem_keys.mp hi)
    obtain ⟨info, hinfo, -⟩ := registered_iff.mp (hall i th ht)
    exact Finmap.mem_keys.mpr (Finmap.mem_of_lookup_eq_some hinfo)
  refine le_trans ?_ ((Finset.card_le_card hsub).trans reg.card_keys_le)
  unfold EeThreadScheduler.snapshot
  refine (List.length_filterMap_le _ _).trans ?_
  rw [Finset.length_sort]

end Registered

end PS2Runtime

end Ps2Recomp
