import Ps2Recomp.SaveState.ThreadImage

/-!
# Loading what was saved

When the decoder accepts the payload of a runtime (`Acceptable`, `saveAndLoad_isOk_iff`), and what
it then makes of the runtime and of the scheduler (`LoadedFrom`, `Settled`).

`LoadsBack` is what a save state is for: the payload is accepted, and the scheduler restored is the
one saved with the HLE waiters taken out of their waits, every thread of which still has a guest
state that describes it. `loadsBack_iff` says when that is so.
-/

namespace Ps2Recomp

open EeThreadScheduler

namespace EeThreadScheduler

/-- `restore` returns true exactly for a snapshot that has a candidate. -/
theorem restore_eq_true_iff {s : EeThreadScheduler} {state : EeThreadSchedulerSnapshot} :
    (s.restore state).1 = true ↔ ∃ c, restoreCandidate state = some c := by
  unfold restore
  cases restoreCandidate state with
  | none => simp
  | some c => simp

end EeThreadScheduler

namespace PS2Runtime

variable {Sections : Type} {checkSections : Sections → Except String Unit}
  {runtime loaded : PS2Runtime Sections} {scheduler : EeThreadScheduler}

/-! ## What the decoder accepts -/

/-- The decoder accepts the payload of this runtime and scheduler. -/
structure Acceptable (checkSections : Sections → Except String Unit)
    (runtime : PS2Runtime Sections) (scheduler : EeThreadScheduler) : Prop where
  counter : scheduler.nextQueueSequence ≠ 0
  settles : ∀ i th, scheduler.thread? i = some th → th.hleWait = true → th.Settles
  started : ∀ i th, scheduler.thread? i = some th → th.hleWait = true →
    ∃ info, runtime.info? i = some info ∧ info.guestState.state.started = true
  registered : ∀ i th, scheduler.thread? i = some th → runtime.registered i th.generation = true
  main : (runtime.info? 1).isSome = true
  sections : checkSections runtime.sections = .ok ()

/-- `Acceptable` of one record, computed. -/
def acceptableThread (runtime : PS2Runtime Sections) (i : Int) (th : ThreadRecord) : Bool :=
  (!th.hleWait || (decide (th.state = .Ready ∨ th.state = .Waiting ∨ th.state = .Suspended) &&
    (runtime.info? i).any (·.guestState.state.started))) && runtime.registered i th.generation

theorem acceptableThread_iff {i : Int} {th : ThreadRecord} :
    runtime.acceptableThread i th = true ↔
      (th.hleWait = true → th.Settles ∧
        ∃ info, runtime.info? i = some info ∧ info.guestState.state.started = true) ∧
      runtime.registered i th.generation = true := by
  unfold acceptableThread ThreadRecord.Settles
  rw [Bool.and_eq_true, Bool.or_eq_true, Bool.and_eq_true, decide_eq_true_eq, Option.any_eq_true,
    Bool.not_eq_true', ← Bool.not_eq_true, ← imp_iff_not_or]

instance [DecidableEq (Except String Unit)] :
    Decidable (Acceptable checkSections runtime scheduler) :=
  decidable_of_iff
    (scheduler.nextQueueSequence ≠ 0 ∧
      (∀ i ∈ scheduler.threads.keys,
        (scheduler.thread? i).all (runtime.acceptableThread i) = true) ∧
      (runtime.info? 1).isSome = true ∧ checkSections runtime.sections = .ok ())
    (by
      have hthreads : (∀ i ∈ scheduler.threads.keys,
          (scheduler.thread? i).all (runtime.acceptableThread i) = true) ↔
            ∀ i th, scheduler.thread? i = some th → runtime.acceptableThread i th = true := by
        constructor
        · intro h i th ht
          have hi := h i (Finmap.mem_keys.mpr (Finmap.mem_of_lookup_eq_some ht))
          rwa [ht, Option.all_some] at hi
        · intro h i hi
          obtain ⟨th, ht⟩ := Finmap.mem_iff.mp (Finmap.mem_keys.mp hi)
          rw [show scheduler.thread? i = some th from ht, Option.all_some]
          exact h i th ht
      rw [hthreads]
      constructor
      · rintro ⟨hn, h, hmain, hsections⟩
        exact ⟨hn, fun i th ht hhle => ((acceptableThread_iff.mp (h i th ht)).1 hhle).1,
          fun i th ht hhle => ((acceptableThread_iff.mp (h i th ht)).1 hhle).2,
          fun i th ht => (acceptableThread_iff.mp (h i th ht)).2, hmain, hsections⟩
      · rintro ⟨hn, hsettles, hstarted, hregistered, hmain, hsections⟩
        exact ⟨hn, fun i th ht => acceptableThread_iff.mpr
          ⟨fun hhle => ⟨hsettles i th ht hhle, hstarted i th ht hhle⟩, hregistered i th ht⟩,
          hmain, hsections⟩)

/-- The saved threads after the loops of the decoder. -/
def recoveredThreads (runtime : PS2Runtime Sections) (scheduler : EeThreadScheduler) :
    List SavedThread :=
  (runtime.savedThreads.map SavedThread.recoverNativeWaitContinuation).map
    (settleThread scheduler.snapshot.threads)

/-- One of them. -/
def recoveredThread (runtime : PS2Runtime Sections) (scheduler : EeThreadScheduler) (i : Int)
    (info : ThreadInfo) : SavedThread :=
  settleThread scheduler.snapshot.threads (runtime.savedThread i info).recoverNativeWaitContinuation

theorem mem_recoveredThreads {t : SavedThread} :
    t ∈ runtime.recoveredThreads scheduler ↔ ∃ i info, runtime.info? i = some info ∧
      runtime.recoveredThread scheduler i info = t := by
  unfold recoveredThreads
  simp only [List.mem_map, mem_savedThreads]
  constructor
  · rintro ⟨_, ⟨_, ⟨i, info, hi, rfl⟩, rfl⟩, rfl⟩
    exact ⟨i, info, hi, rfl⟩
  · rintro ⟨i, info, hi, rfl⟩
    exact ⟨_, ⟨_, ⟨i, info, hi, rfl⟩, rfl⟩, rfl⟩

theorem recoveredThread_id (i : Int) (info : ThreadInfo) :
    (runtime.recoveredThread scheduler i info).id = i := by
  unfold recoveredThread
  rw [settleThread_id, SavedThread.recover_id]
  rfl

theorem recoveredThread_generation (i : Int) (info : ThreadInfo) :
    (runtime.recoveredThread scheduler i info).generation = info.generation := by
  unfold recoveredThread
  rw [settleThread_generation, SavedThread.recover_generation]
  rfl

theorem recoveredThread_priority (i : Int) (info : ThreadInfo) :
    (runtime.recoveredThread scheduler i info).priority = info.priority := by
  unfold recoveredThread settleThread SavedThread.recoverNativeWaitContinuation
  simp only
  split <;> split <;> rfl

theorem recoveredThread_guest {i : Int} (info : ThreadInfo) :
    (runtime.recoveredThread scheduler i info).guest =
      if (scheduler.thread? i).any ThreadRecord.hleWait then info.guestState.state.withoutWait
      else info.guestState.state := by
  have hany : (scheduler.snapshot.threads.any fun source => source.hleWait && source.id == i) =
      (scheduler.thread? i).any ThreadRecord.hleWait := by
    rw [Bool.eq_iff_iff, List.any_eq_true, Option.any_eq_true]
    constructor
    · rintro ⟨source, hm, hsource⟩
      obtain ⟨j, th, ht, rfl⟩ := mem_snapshot.mp hm
      rw [Bool.and_eq_true, beq_iff_eq] at hsource
      obtain rfl : j = i := hsource.2
      exact ⟨th, ht, hsource.1⟩
    · rintro ⟨th, ht, hhle⟩
      refine ⟨snapshotOf i th, snapshotOf_mem_snapshot.mpr ht, ?_⟩
      rw [Bool.and_eq_true, beq_iff_eq]
      exact ⟨hhle, rfl⟩
  unfold recoveredThread settleThread
  rw [SavedThread.recover_id, show (runtime.savedThread i info).id = i from rfl, hany]
  split
  · change ((runtime.savedThread i info).recoverNativeWaitContinuation.guest).withoutWait = _
    rw [SavedThread.recover_guest]
    rfl
  · rw [SavedThread.recover_guest]
    rfl

theorem recoveredThreads_distinctIds : DistinctIds (runtime.recoveredThreads scheduler) :=
  (runtime.savedThreads_distinctIds.map fun t => t.recover_id).map fun t => settleThread_id _ t

/-- The entry of an HLE waiter can be recovered if its thread was started. -/
theorem hleRecoverable_iff {i : Int} {th : ThreadRecord} :
    HleRecoverable (runtime.savedThreads.map SavedThread.recoverNativeWaitContinuation)
        (snapshotOf i th) ↔
      ∃ info, runtime.info? i = some info ∧ info.guestState.state.started = true := by
  unfold HleRecoverable
  simp only [List.mem_map, mem_savedThreads]
  have hvalid : ∀ info,
      (runtime.savedThread i info).recoverNativeWaitContinuation.withoutWait.guest.isValid =
        info.guestState.state.started := by
    intro info
    change ((runtime.savedThread i info).recoverNativeWaitContinuation.guest).withoutWait.isValid =
      _
    rw [SavedThread.recover_guest]
    exact EeThreadGuestStateSnapshot.withoutWait_isValid info.guestState.valid
  constructor
  · rintro ⟨_, ⟨_, ⟨j, info, hj, rfl⟩, rfl⟩, hid, hv⟩
    rw [SavedThread.recover_id] at hid
    obtain rfl : j = i := hid
    exact ⟨info, hj, (hvalid info).symm.trans hv⟩
  · rintro ⟨info, hi, hstarted⟩
    refine ⟨_, ⟨_, ⟨i, info, hi, rfl⟩, rfl⟩, ?_, (hvalid info).trans hstarted⟩
    rw [SavedThread.recover_id]
    rfl

theorem normalizeHleWaits_saved {result : List EeSchedulerThreadSnapshot × List SavedThread} :
    normalizeHleWaits scheduler.snapshot.threads
        (runtime.savedThreads.map SavedThread.recoverNativeWaitContinuation) = .ok result ↔
      (∀ i th, scheduler.thread? i = some th → th.hleWait = true →
        ∃ info, runtime.info? i = some info ∧ info.guestState.state.started = true) ∧
      result = (scheduler.snapshot.settled.threads, runtime.recoveredThreads scheduler) := by
  rw [normalizeHleWaits_eq_ok (snapshot_ids scheduler)
    (runtime.savedThreads_distinctIds.map fun t => t.recover_id)]
  refine and_congr ⟨fun h i th ht hhle => ?_, fun h source hm hhle => ?_⟩ Iff.rfl
  · exact hleRecoverable_iff.mp (h _ (snapshotOf_mem_snapshot.mpr ht) hhle)
  · obtain ⟨i, th, ht, rfl⟩ := mem_snapshot.mp hm
    exact hleRecoverable_iff.mpr (h i th ht hhle)

theorem recoveredThreads_any_main :
    (runtime.recoveredThreads scheduler).any (·.id = 1) = (runtime.info? 1).isSome := by
  rw [Bool.eq_iff_iff, List.any_eq_true, Option.isSome_iff_exists]
  constructor
  · rintro ⟨t, ht, hid⟩
    obtain ⟨i, info, hi, rfl⟩ := mem_recoveredThreads.mp ht
    rw [recoveredThread_id, decide_eq_true_eq] at hid
    exact ⟨info, hid ▸ hi⟩
  · rintro ⟨info, hi⟩
    refine ⟨_, mem_recoveredThreads.mpr ⟨1, info, hi, rfl⟩, ?_⟩
    rw [recoveredThread_id]
    rfl

/-- The decoder finds every scheduled thread in the registry. -/
theorem recoveredThreads_match :
    (scheduler.snapshot.settled.threads.all fun thread =>
        (runtime.recoveredThreads scheduler).any fun saved =>
          saved.id = thread.id && saved.generation = thread.generation) = true ↔
      ∀ i th, scheduler.thread? i = some th → runtime.registered i th.generation = true := by
  rw [List.all_eq_true]
  have hany : ∀ (i : Int) (th : ThreadRecord),
      ((runtime.recoveredThreads scheduler).any fun saved =>
        saved.id = i && saved.generation = th.generation) = true ↔
        runtime.registered i th.generation = true := by
    intro i th
    rw [List.any_eq_true, registered_iff]
    simp only [Bool.and_eq_true, decide_eq_true_eq]
    constructor
    · rintro ⟨t, ht, hid, hgen⟩
      obtain ⟨j, info, hj, rfl⟩ := mem_recoveredThreads.mp ht
      rw [recoveredThread_id] at hid
      rw [recoveredThread_generation] at hgen
      exact ⟨info, hid ▸ hj, hgen⟩
    · rintro ⟨info, hi, hgen⟩
      exact ⟨_, mem_recoveredThreads.mpr ⟨i, info, hi, rfl⟩, recoveredThread_id i info,
        (recoveredThread_generation i info).trans hgen⟩
  constructor
  · intro h i th ht
    have hm := h _ (mem_snapshot_settled.mpr ⟨i, th, ht, rfl⟩)
    simp only [snapshotOf, ThreadRecord.settled_generation] at hm
    exact (hany i th).mp hm
  · intro h source hm
    obtain ⟨i, th, ht, rfl⟩ := mem_snapshot_settled.mp hm
    simp only [snapshotOf, ThreadRecord.settled_generation]
    exact (hany i th).mpr (h i th ht)

@[simp] theorem corePayload_threads (state : EeThreadSchedulerSnapshot) :
    (runtime.corePayload state).threads = runtime.savedThreads := rfl

@[simp] theorem corePayload_scheduler (state : EeThreadSchedulerSnapshot) :
    (runtime.corePayload state).scheduler = state := rfl

@[simp] theorem corePayload_sections (state : EeThreadSchedulerSnapshot) :
    (runtime.corePayload state).sections = runtime.sections := rfl

def checkedPayload (runtime : PS2Runtime Sections) (scheduler : EeThreadScheduler) :
    RuntimeCorePayload Sections :=
  { runtime.corePayload scheduler.snapshot.settled with
    threads := runtime.recoveredThreads scheduler }

/-- **What the decoder accepts**, and what it makes of it. -/
theorem checkRuntimeCore_eq_ok (w : scheduler.Wf) (reg : runtime.Registered)
    {checked : RuntimeCorePayload Sections} :
    checkRuntimeCore checkSections (runtime.corePayload scheduler.snapshot) = .ok checked ↔
      Acceptable checkSections runtime scheduler ∧
        checked = runtime.checkedPayload scheduler := by
  unfold checkRuntimeCore
  constructor
  · intro h
    split at h
    · cases h
    rename_i hheader
    rw [not_or, not_or, Bool.not_eq_false] at hheader
    obtain ⟨c, hc⟩ := restore_eq_true_iff.mp hheader.2.1
    have hn : scheduler.nextQueueSequence ≠ 0 := (restoreCandidate_next hc).1
    rw [corePayload_threads, reg.readSavedThreads] at h
    simp only at h
    split at h
    · cases h
    rename_i scheduled threads hnormalized
    obtain ⟨hstarted, he⟩ := normalizeHleWaits_saved.mp hnormalized
    obtain ⟨rfl, rfl⟩ := Prod.mk.injEq .. ▸ he
    split at h
    · cases h
    rename_i hsettled
    rw [Bool.not_eq_false] at hsettled
    split at h
    · cases h
    rename_i hmain
    rw [Bool.not_eq_true', Bool.not_eq_false, recoveredThreads_any_main] at hmain
    split at h
    · cases h
    rename_i hmatch
    rw [Bool.not_eq_true', Bool.not_eq_false] at hmatch
    split at h
    · cases h
    rename_i hsections
    refine ⟨⟨hn, ?_, hstarted, recoveredThreads_match.mp hmatch, hmain, hsections⟩, ?_⟩
    · exact (w.settled_accepted_iff hn).mp (restore_eq_true_iff.mp hsettled)
    · exact (Except.ok.inj h).symm
  · rintro ⟨acc, rfl⟩
    have hheader : ¬ (kMaximumSavedThreads < scheduler.snapshot.threads.length ∨
        (EeThreadScheduler.restore {} scheduler.snapshot).1 = false ∨
        kMaximumSavedThreads < runtime.savedThreads.length) := by
      rw [not_or, not_or, Bool.not_eq_false]
      exact ⟨not_lt.mpr (reg.length_snapshot acc.registered),
        restore_eq_true_iff.mpr ⟨_, w.restoreCandidate_snapshot acc.counter⟩,
        not_lt.mpr reg.length_savedThreads⟩
    have hsettled : (EeThreadScheduler.restore {} scheduler.snapshot.settled).1 = true :=
      restore_eq_true_iff.mpr ((w.settled_accepted_iff acc.counter).mpr acc.settles)
    rw [corePayload_threads, corePayload_scheduler, if_neg hheader, reg.readSavedThreads]
    simp only
    rw [normalizeHleWaits_saved.mpr ⟨acc.started, rfl⟩]
    simp only
    change (if (EeThreadScheduler.restore {} scheduler.snapshot.settled).1 = false then _ else _) = _
    rw [hsettled, recoveredThreads_any_main, acc.main, recoveredThreads_match.mpr acc.registered,
      corePayload_sections, acc.sections]
    rfl

/-! ## What the decoder makes of it -/

/-- The runtime a load makes: the registry has the recovered threads. -/
structure LoadedFrom (runtime : PS2Runtime Sections) (scheduler : EeThreadScheduler)
    (loaded : PS2Runtime Sections) : Prop where
  cpuContext : loaded.cpuContext = runtime.cpuContext
  sections : loaded.sections = runtime.sections
  unknown : ∀ {i}, runtime.info? i = none → loaded.info? i = none
  info : ∀ {i info}, runtime.info? i = some info → ∃ guest : EeThreadGuestState,
    guest.state = (runtime.recoveredThread scheduler i info).guest ∧
      loaded.info? i = some ((runtime.recoveredThread scheduler i info).info guest)

theorem Acceptable.guest_valid (acc : Acceptable checkSections runtime scheduler) {i : Int}
    {info : ThreadInfo} (hi : runtime.info? i = some info) :
    (runtime.recoveredThread scheduler i info).guest.isValid = true := by
  rw [recoveredThread_guest]
  split
  · rename_i hany
    obtain ⟨th, ht, hhle⟩ := (Option.any_eq_true ..).mp hany
    obtain ⟨info', hi', hstarted⟩ := acc.started i th ht hhle
    obtain rfl := Option.some.inj (hi.symm.trans hi')
    rw [EeThreadGuestStateSnapshot.withoutWait_isValid info.guestState.valid, hstarted]
  · exact info.guestState.valid

/-- **An acceptable payload is decoded.** -/
theorem Acceptable.decode (acc : Acceptable checkSections runtime scheduler) (w : scheduler.Wf)
    (reg : runtime.Registered) :
    ∃ loaded, decodeRuntimeCoreSaveState checkSections
        (runtime.corePayload scheduler.snapshot) = .ok loaded ∧
      loaded.pendingRestoredEeScheduler = some scheduler.snapshot.settled ∧
      LoadedFrom runtime scheduler loaded := by
  have hvalid : ∀ t ∈ runtime.recoveredThreads scheduler, t.guest.isValid = true := by
    intro t ht
    obtain ⟨i, info, hi, rfl⟩ := mem_recoveredThreads.mp ht
    exact acc.guest_valid hi
  have hempty : ∀ t ∈ runtime.recoveredThreads scheduler,
      (∅ : Finmap fun _ : Int => ThreadInfo).lookup t.id = none := fun _ _ => Finmap.lookup_empty _
  obtain ⟨restored, hrestored, hother, hmem⟩ :=
    restoreThreadInfos_spec recoveredThreads_distinctIds hvalid hempty
  unfold decodeRuntimeCoreSaveState
  rw [(checkRuntimeCore_eq_ok w reg).mpr ⟨acc, rfl⟩]
  simp only
  rw [show (runtime.checkedPayload scheduler).threads = runtime.recoveredThreads scheduler from rfl,
    hrestored]
  refine ⟨_, rfl, rfl, rfl, rfl, fun {i} hi => ?_, fun {i info} hi => ?_⟩
  · refine (hother i fun t ht hid => ?_).trans (Finmap.lookup_empty _)
    obtain ⟨j, info, hj, rfl⟩ := mem_recoveredThreads.mp ht
    rw [recoveredThread_id] at hid
    rw [← hid, hj] at hi
    cases hi
  · refine ⟨⟨_, acc.guest_valid hi⟩, rfl, ?_⟩
    have hlookup := hmem _ (mem_recoveredThreads.mpr ⟨i, info, hi, rfl⟩)
      ⟨_, acc.guest_valid hi⟩ rfl
    rwa [recoveredThread_id] at hlookup

theorem LoadedFrom.registered (h : LoadedFrom runtime scheduler loaded) {i : Int} {g : Nat}
    (hreg : runtime.registered i g = true) : loaded.registered i g = true := by
  obtain ⟨info, hi, hg⟩ := registered_iff.mp hreg
  obtain ⟨guest, -, hloaded⟩ := h.info hi
  exact registered_iff.mpr ⟨_, hloaded, (recoveredThread_generation i info).trans hg⟩

theorem encode_eq_ok (reg : runtime.Registered) (state : EeThreadSchedulerSnapshot) :
    runtime.encodeRuntimeCoreSaveState state = .ok (runtime.corePayload state) :=
  if_neg (not_lt.mpr reg.length_savedThreads)

/-- What a save, a load and a start leave. -/
structure Restored (runtime : PS2Runtime Sections) (scheduler : EeThreadScheduler)
    (result : RestoredRuntime Sections) : Prop where
  loaded : LoadedFrom runtime scheduler result.runtime
  seeded : restoreCandidate scheduler.snapshot.settled = some result.scheduler
  continuations : result.continuations =
    scheduler.snapshot.settled.threads.filterMap result.runtime.restoredContinuation

/-- **An acceptable payload is loaded and started.** -/
theorem Acceptable.saveAndLoad (acc : Acceptable checkSections runtime scheduler)
    (w : scheduler.Wf) (reg : runtime.Registered) :
    ∃ result, runtime.saveAndLoad checkSections scheduler = .ok result ∧
      Restored runtime scheduler result := by
  obtain ⟨loaded, hdecode, hpending, hloaded⟩ := acc.decode w reg
  obtain ⟨c, hc⟩ := (w.settled_accepted_iff acc.counter).mpr acc.settles
  have hregistered : (scheduler.snapshot.settled.threads.all fun saved =>
      loaded.registered saved.id saved.generation) = true := by
    rw [List.all_eq_true]
    intro source hm
    obtain ⟨i, th, ht, rfl⟩ := mem_snapshot_settled.mp hm
    refine hloaded.registered ?_
    simp only [snapshotOf, ThreadRecord.settled_generation]
    exact acc.registered i th ht
  unfold PS2Runtime.saveAndLoad
  rw [encode_eq_ok reg]
  simp only
  rw [hdecode]
  simp only
  rw [hpending]
  simp only
  unfold startRestored
  rw [hregistered, hc]
  exact ⟨_, rfl, ⟨hloaded.1, hloaded.2, hloaded.3, hloaded.4⟩, hc, rfl⟩

/-- **A payload is loaded exactly if it is acceptable.** -/
theorem acceptable_of_saveAndLoad (w : scheduler.Wf) (reg : runtime.Registered)
    {result : RestoredRuntime Sections}
    (h : runtime.saveAndLoad checkSections scheduler = .ok result) :
    Acceptable checkSections runtime scheduler := by
  unfold PS2Runtime.saveAndLoad at h
  rw [encode_eq_ok reg] at h
  simp only at h
  split at h
  · cases h
  rename_i loaded hdecode
  unfold decodeRuntimeCoreSaveState at hdecode
  split at hdecode
  · cases hdecode
  rename_i checked hchecked
  exact ((checkRuntimeCore_eq_ok w reg).mp hchecked).1

theorem restored_of_saveAndLoad (w : scheduler.Wf) (reg : runtime.Registered)
    {result : RestoredRuntime Sections}
    (h : runtime.saveAndLoad checkSections scheduler = .ok result) :
    Restored runtime scheduler result := by
  obtain ⟨result', h', hrestored⟩ := (acceptable_of_saveAndLoad w reg h).saveAndLoad w reg
  obtain rfl := Except.ok.inj (h.symm.trans h')
  exact hrestored

/-! ## What a save state is for -/

/-- The payload is accepted; the scheduler restored is the one saved without its HLE waits; and a
thread whose guest state described its record has one that describes its new record. -/
def LoadsBack (checkSections : Sections → Except String Unit) (runtime : PS2Runtime Sections)
    (scheduler : EeThreadScheduler) : Prop :=
  ∃ result, runtime.saveAndLoad checkSections scheduler = .ok result ∧
    Settled scheduler result.scheduler ∧
    ∀ i th info, scheduler.thread? i = some th → runtime.info? i = some info →
      th.Agrees info.guestState.state → ∃ th' info', result.scheduler.thread? i = some th' ∧
        result.runtime.info? i = some info' ∧ th'.Agrees info'.guestState.state

/-- The condition: no wrapped counter, registry and scheduler of one mind, and every HLE waiter
Ready, Suspended, or Waiting on its HLE semaphore without being suspended. -/
structure Loadable (checkSections : Sections → Except String Unit) (runtime : PS2Runtime Sections)
    (scheduler : EeThreadScheduler) : Prop where
  counter : scheduler.nextQueueSequence ≠ 0
  waiters : ∀ i th, scheduler.thread? i = some th → th.hleWait = true →
    th.state = .Ready ∨ th.state = .Suspended ∨
      (th.state = .Waiting ∧ th.wait.kind = .HleSemaphore)
  started : ∀ i th, scheduler.thread? i = some th → th.hleWait = true →
    ∃ info, runtime.info? i = some info ∧ info.guestState.state.started = true
  registered : ∀ i th, scheduler.thread? i = some th → runtime.registered i th.generation = true
  main : (runtime.info? 1).isSome = true
  sections : checkSections runtime.sections = .ok ()

theorem Loadable.acceptable (h : Loadable checkSections runtime scheduler) :
    Acceptable checkSections runtime scheduler where
  counter := h.counter
  settles i th ht hhle := by
    rcases h.waiters i th ht hhle with e | e | e
    · exact Or.inl e
    · exact Or.inr (Or.inr e)
    · exact Or.inr (Or.inl e.1)
  started := h.started
  registered := h.registered
  main := h.main
  sections := h.sections

/-- The guest state still describes its thread. -/
theorem Restored.agrees {result : RestoredRuntime Sections}
    (h : Restored runtime scheduler result) {i : Int} {th : ThreadRecord} {info : ThreadInfo}
    (ht : scheduler.thread? i = some th) (hi : runtime.info? i = some info)
    (hagrees : th.Agrees info.guestState.state) :
    ∃ th' info', result.scheduler.thread? i = some th' ∧ result.runtime.info? i = some info' ∧
      th'.Agrees info'.guestState.state := by
  obtain ⟨guest, hguest, hinfo⟩ := h.loaded.info hi
  refine ⟨th.settled, _, settled_thread h.seeded ht, hinfo, ?_⟩
  change th.settled.Agrees guest.state
  rw [hguest, recoveredThread_guest, ht, Option.any_some]
  cases hhle : th.hleWait with
  | false =>
    rw [ThreadRecord.settled_of_not_hleWait hhle]
    exact hagrees
  | true =>
    rw [ThreadRecord.settled_of_hleWait hhle]
    exact hagrees.withoutWait

/-- **A save state loads back exactly if the condition holds.** -/
theorem loadsBack_iff (w : scheduler.Wf) (reg : runtime.Registered) :
    LoadsBack checkSections runtime scheduler ↔ Loadable checkSections runtime scheduler := by
  constructor
  · rintro ⟨result, hresult, hsettled, -⟩
    have acc := acceptable_of_saveAndLoad w reg hresult
    refine ⟨acc.counter, fun i th ht hhle => ?_, acc.started, acc.registered, acc.main,
      acc.sections⟩
    rcases acc.settles i th ht hhle with e | e | e
    · exact Or.inl e
    · refine Or.inr (Or.inr ⟨e, ?_⟩)
      by_contra hk
      -- its wait queue would have lost it
      have hm : (⟨i, th.generation⟩ : EeSchedulerThreadHandle) ∈ scheduler.waitQueue th.wait :=
        w.mem_wait.mpr ⟨th, ht, rfl, Or.inl e, rfl⟩
      rw [← hsettled.wait _ hk] at hm
      have hr := (restored_of_saveAndLoad w reg hresult).seeded
      obtain ⟨th', ht', -, -, hno⟩ :=
        (settled_holds_inWait hr).mp ((wf_restoreCandidate hr).mem_wait.mp hm)
      obtain rfl := Option.some.inj (ht.symm.trans ht')
      rw [hhle] at hno
      cases hno
    · exact Or.inr (Or.inl e)
  · intro h
    obtain ⟨result, hresult, hrestored⟩ := h.acceptable.saveAndLoad w reg
    refine ⟨result, hresult, w.settled hrestored.seeded fun i th ht hhle hst => ?_,
      fun i th info ht hi hagrees => hrestored.agrees ht hi hagrees⟩
    rcases h.waiters i th ht hhle with e | e | e
    · rw [e] at hst
      cases hst
    · rw [e] at hst
      cases hst
    · exact e.2

end PS2Runtime

end Ps2Recomp
