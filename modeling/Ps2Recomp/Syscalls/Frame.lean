import Ps2Recomp.Syscalls.GuestWait
import Ps2Recomp.Syscalls.System

/-!
# What a step leaves of a waiting thread

`Waits sid acquired info` describes the `ThreadInfo` of a thread that its `WaitSema` call has
blocked: it is still linked to the semaphore's queue and has no completion, or it is linked to no
queue and its completion is Satisfied exactly if the call `acquired`.

`Frame own k k'` is what every step but a signal leaves of the objects there were: the waiting
threads stay as `Waits` describes them, except the thread `own` that makes the step for itself, and
a deleted semaphore stays deleted. The reason is the same for every step: a completion is stored
only together with an accepted `releaseWait`, which takes a thread off exactly the queue it names,
and only a signal stores Satisfied for a semaphore's queue (`frame_mirrorRelease`).
-/

namespace Ps2Recomp.Syscalls

open EeThreadGuestState

variable {k k' k'' : KernelState} {own : Option ObjectRef} {info sema flag : ObjectRef}
  {sid : Int} {acquired : Bool}

/-- A registry names objects that exist, and a thread's object under its own id. -/
structure Registered (k : KernelState) : Prop where
  threads : ∀ {threadId info}, k.threads.lookup threadId = some info →
    info < k.nextObject ∧ (k.threadInfo info).threadId = threadId
  semas : ∀ {sid sema}, k.semas.lookup sid = some sema → sema < k.nextObject ∧ 0 ≤ sid

/-- The thread is blocked on the semaphore, or its completion is there and says whether it was
Satisfied. -/
structure Waits (sid : Int) (acquired : Bool) (info : ThreadInfo) : Prop where
  dormant : info.guestState.isDormant = false
  wait : (info.guestState.isLinkedTo .Semaphore sid = true ∧ info.pendingWaitCompletion = .None ∧
      acquired = false) ∨
    (info.guestState.state.waitQueue = .None ∧
      (acquired = true ↔ info.pendingWaitCompletion = .Satisfied))

theorem Waits.of_keepsWait {value value' : ThreadInfo} (h : Waits sid acquired value)
    (hguest : KeepsWait value.guestState value'.guestState)
    (hpending : value'.pendingWaitCompletion = value.pendingWaitCompletion) :
    Waits sid acquired value' := by
  refine ⟨hguest.dormant h.dormant, ?_⟩
  unfold isLinkedTo
  rw [hguest.waitQueue, hguest.waitQueueId, hpending]
  exact h.wait

/-- A thread whose wait has ended accepts no release. -/
theorem Waits.linked_of_releaseWait {value : ThreadInfo} {guest' : EeThreadGuestState}
    {queue : EeThreadWaitQueue} {waitType waitId : Int} {retain : Bool}
    (h : Waits sid acquired value)
    (hrelease : value.guestState.releaseWait queue waitType waitId retain = (true, guest')) :
    queue = .Semaphore ∧ acquired = false ∧ value.pendingWaitCompletion = .None := by
  obtain ⟨-, hlinked, hq, -⟩ := releaseWait_spec hrelease
  unfold isLinkedTo at hlinked
  rw [Bool.and_eq_true, beq_iff_eq, beq_iff_eq] at hlinked
  rcases h.wait with ⟨hsema, hpending, hacq⟩ | ⟨hnone, -⟩
  · unfold isLinkedTo at hsema
    rw [Bool.and_eq_true, beq_iff_eq, beq_iff_eq] at hsema
    exact ⟨hlinked.1.symm.trans hsema.1, hacq, hpending⟩
  · exact absurd (hlinked.1.symm.trans hnone) hq

/-- What a step of thread `own` leaves of the objects there were. -/
structure Frame (own : Option ObjectRef) (k k' : KernelState) : Prop where
  objects : k.nextObject ≤ k'.nextObject
  registered : Registered k → Registered k'
  threadId : ∀ {info}, info < k.nextObject →
    (k'.threadInfo info).threadId = (k.threadInfo info).threadId
  waits : ∀ {info}, info < k.nextObject → own ≠ some info → ∀ {sid acquired},
    Waits sid acquired (k.threadInfo info) → Waits sid acquired (k'.threadInfo info)
  deleted : ∀ {sema}, sema < k.nextObject → (k.semaInfo sema).deleted = true →
    (k'.semaInfo sema).deleted = true

namespace Frame

theorem refl (own : Option ObjectRef) (k : KernelState) : Frame own k k where
  objects := Nat.le_refl _
  registered := id
  threadId _ := rfl
  waits _ _ := id
  deleted _ := id

theorem trans (h : Frame own k k') (h' : Frame own k' k'') : Frame own k k'' where
  objects := Nat.le_trans h.objects h'.objects
  registered := h'.registered ∘ h.registered
  threadId hi := (h'.threadId (Nat.lt_of_lt_of_le hi h.objects)).trans (h.threadId hi)
  waits hi hown _ _ hw :=
    h'.waits (Nat.lt_of_lt_of_le hi h.objects) hown (h.waits hi hown hw)
  deleted hi hd := h'.deleted (Nat.lt_of_lt_of_le hi h.objects) (h.deleted hi hd)

/-- A step of no thread in particular is a step of any. -/
theorem of_none (h : Frame none k k') : Frame own k k' where
  objects := h.objects
  registered := h.registered
  threadId := h.threadId
  waits hi _ := h.waits hi nofun
  deleted := h.deleted

theorem of_snd {α : Type} {p : α × KernelState} {a : α} (h : p = (a, k'))
    (hframe : Frame own k p.2) : Frame own k k' := by
  rw [h] at hframe
  exact hframe

end Frame

/-! ## The primitive updates -/

/-- Only the scheduler, the ids to hand out and the event flags change. -/
theorem frame_of_eq (hobjects : k'.nextObject = k.nextObject) (hthreads : k'.threads = k.threads)
    (hinfo : k'.threadInfo = k.threadInfo) (hsemas : k'.semas = k.semas)
    (hsema : k'.semaInfo = k.semaInfo) : Frame own k k' where
  objects := Nat.le_of_eq hobjects.symm
  registered h := by
    constructor
    · rw [hthreads, hinfo, hobjects]
      exact h.threads
    · rw [hsemas, hobjects]
      exact h.semas
  threadId _ := by rw [hinfo]
  waits _ _ := by
    rw [hinfo]
    exact id
  deleted _ := by
    rw [hsema]
    exact id

theorem frame_setScheduler (scheduler : EeThreadScheduler) :
    Frame own k (k.setScheduler scheduler) := frame_of_eq rfl rfl rfl rfl rfl

theorem frame_setEventFlagInfo (flag : ObjectRef) (value : EventFlagInfo) :
    Frame own k (k.setEventFlagInfo flag value) := frame_of_eq rfl rfl rfl rfl rfl

theorem frame_setSemaInfo {value : SemaInfo}
    (hdeleted : (k.semaInfo sema).deleted = true → value.deleted = true) :
    Frame own k (k.setSemaInfo sema value) where
  objects := Nat.le_refl _
  registered h := ⟨h.threads, h.semas⟩
  threadId _ := rfl
  waits _ _ := id
  deleted {r} _ hd := by
    rw [KernelState.setSemaInfo_semaInfo, Function.update_apply]
    split
    · rename_i hr
      rw [hr] at hd
      exact hdeleted hd
    · exact hd

theorem frame_setThreadInfo {value : ThreadInfo}
    (hid : value.threadId = (k.threadInfo info).threadId)
    (hwaits : own ≠ some info → ∀ {sid acquired}, Waits sid acquired (k.threadInfo info) →
      Waits sid acquired value) : Frame own k (k.setThreadInfo info value) := by
  have hids : ∀ r, ((k.setThreadInfo info value).threadInfo r).threadId =
      (k.threadInfo r).threadId := by
    intro r
    rw [KernelState.setThreadInfo_threadInfo, Function.update_apply]
    split
    · rename_i hr
      rw [hid, hr]
    · rfl
  refine ⟨Nat.le_refl _, fun h => ⟨fun hl => ?_, h.semas⟩, fun _ => hids _, ?_, fun _ => id⟩
  · rw [hids]
    exact h.threads hl
  · intro r _ hown sid acquired hw
    rw [KernelState.setThreadInfo_threadInfo, Function.update_apply]
    split
    · rename_i hr
      rw [hr] at hown hw
      exact hwaits hown hw
    · exact hw

/-- A thread changes its own object. -/
theorem frame_own {value : ThreadInfo} (hid : value.threadId = (k.threadInfo info).threadId) :
    Frame (some info) k (k.setThreadInfo info value) :=
  frame_setThreadInfo hid fun hown => absurd rfl hown

theorem frame_setGuestState {guest : EeThreadGuestState}
    (hguest : KeepsWait (k.threadInfo info).guestState guest) :
    Frame own k (k.setGuestState info guest) :=
  frame_setThreadInfo rfl fun _ _ _ hw => hw.of_keepsWait hguest rfl

theorem frame_setFields {value : ThreadInfo} (hid : value.threadId = (k.threadInfo info).threadId)
    (hguest : value.guestState = (k.threadInfo info).guestState)
    (hpending : value.pendingWaitCompletion = (k.threadInfo info).pendingWaitCompletion) :
    Frame own k (k.setThreadInfo info value) :=
  frame_setThreadInfo hid fun _ _ _ hw =>
    hw.of_keepsWait (by rw [hguest]; exact .refl _) hpending

/-- **A completion** is stored with the release of the queue it completes. -/
theorem frame_mirrorRelease {queue : EeThreadWaitQueue} {waitType waitId : Int} {retain : Bool}
    {completion : EeSchedulerWaitCompletion} {message : String}
    (h : k.mirrorRelease info queue waitType waitId retain completion message = .ok k')
    (hcompletion : queue = .Semaphore → completion ≠ .Satisfied) : Frame own k k' := by
  unfold KernelState.mirrorRelease at h
  split at h
  · cases h
  · rename_i guest' hrelease
    cases h
    refine frame_setThreadInfo rfl fun _ sid acquired hw => ?_
    obtain ⟨hqueue, hacq, -⟩ := hw.linked_of_releaseWait hrelease
    obtain ⟨-, -, -, hnone, hdormant⟩ := releaseWait_spec hrelease
    refine ⟨hdormant, .inr ⟨hnone, ?_⟩⟩
    rw [hacq]
    exact ⟨nofun, fun hsat => absurd hsat (hcompletion hqueue)⟩

theorem mirrorRelease_semaInfo {queue : EeThreadWaitQueue} {waitType waitId : Int} {retain : Bool}
    {completion : EeSchedulerWaitCompletion} {message : String}
    (h : k.mirrorRelease info queue waitType waitId retain completion message = .ok k') :
    k'.semaInfo = k.semaInfo := by
  unfold KernelState.mirrorRelease at h
  split at h
  · cases h
  · cases h
    rfl

theorem frame_mirrorBlock {queue : EeThreadWaitQueue} {waitType waitId : Int} {message : String}
    (h : k.mirrorBlock info queue waitType waitId message = .ok k') : Frame (some info) k k' := by
  unfold KernelState.mirrorBlock at h
  split at h
  · cases h
  · cases h
    exact frame_own rfl

/-! ## Registration -/

theorem registerThread_threadId (threadId : Int) (value : ThreadInfo) :
    ((k.registerThread threadId value).threadInfo k.nextObject).threadId = threadId := by
  unfold KernelState.registerThread
  dsimp only
  rw [Function.update_self]

theorem frame_registerThread (threadId : Int) (value : ThreadInfo) :
    Frame own k (k.registerThread threadId value) := by
  have hold : ∀ {r}, r < k.nextObject →
      (k.registerThread threadId value).threadInfo r = k.threadInfo r := fun hr =>
    Function.update_of_ne (Nat.ne_of_lt hr) ..
  refine ⟨Nat.le_succ _, fun h => ⟨fun {t r} hl => ?_, fun hl => ?_⟩,
    fun hr => by rw [hold hr], fun hr _ _ _ => by rw [hold hr]; exact id, fun _ => id⟩
  · change (k.threads.insert threadId k.nextObject).lookup t = some r at hl
    rcases eq_or_ne t threadId with rfl | hne
    · rw [Finmap.lookup_insert] at hl
      cases hl
      exact ⟨Nat.lt_succ_self _, registerThread_threadId t value⟩
    · rw [Finmap.lookup_insert_of_ne _ hne] at hl
      obtain ⟨hlt, hid⟩ := h.threads hl
      refine ⟨Nat.lt_succ_of_lt hlt, ?_⟩
      rw [hold hlt]
      exact hid
  · obtain ⟨hlt, hpos⟩ := h.semas hl
    exact ⟨Nat.lt_succ_of_lt hlt, hpos⟩

theorem frame_ensureCurrentThreadInfo (threadId : Int) :
    Frame own k (k.ensureCurrentThreadInfo threadId).2 := by
  unfold KernelState.ensureCurrentThreadInfo
  split
  · exact .refl own k
  · have hallocate : Frame own k k.allocateThreadGeneration.2 := frame_of_eq rfl rfl rfl rfl rfl
    exact hallocate.trans (frame_registerThread threadId _)

/-- The object of the current thread exists and bears its id. -/
theorem ensureCurrentThreadInfo_spec (h : Registered k) (threadId : Int) :
    (k.ensureCurrentThreadInfo threadId).1 < (k.ensureCurrentThreadInfo threadId).2.nextObject ∧
      ((k.ensureCurrentThreadInfo threadId).2.threadInfo
        (k.ensureCurrentThreadInfo threadId).1).threadId = threadId := by
  unfold KernelState.ensureCurrentThreadInfo
  split
  · rename_i info hl
    exact h.threads hl
  · refine ⟨Nat.lt_succ_self _, ?_⟩
    exact registerThread_threadId threadId _

theorem frame_eraseThread (threadId : Int) : Frame own k (k.eraseThread threadId) := by
  refine ⟨Nat.le_refl _, fun h => ⟨fun {t r} hl => ?_, h.semas⟩, fun _ => rfl, fun _ _ => id,
    fun _ => id⟩
  change (k.threads.erase threadId).lookup t = some r at hl
  rcases eq_or_ne t threadId with rfl | hne
  · rw [Finmap.lookup_erase] at hl
    cases hl
  · rw [Finmap.lookup_erase_ne hne] at hl
    exact h.threads hl

theorem frame_allocateThreadGeneration : Frame own k k.allocateThreadGeneration.2 :=
  frame_of_eq rfl rfl rfl rfl rfl

theorem frame_takeThreadId : Frame own k k.takeThreadId.2 := frame_of_eq rfl rfl rfl rfl rfl

theorem frame_findThreadId (attempts : Nat) : Frame own k (k.findThreadId attempts).2 := by
  induction attempts generalizing k with
  | zero => exact .refl own k
  | succ attempts ih =>
    unfold KernelState.findThreadId
    split
    rename_i candidate k₁ htake
    have h₁ : Frame own k k₁ := Frame.of_snd htake frame_takeThreadId
    split
    · exact h₁
    · exact h₁.trans ih

theorem frame_createThread (priority : Int) : Frame own k (k.createThread priority).2 := by
  unfold KernelState.createThread
  split
  rename_i generation k₁ hgeneration
  have h₁ : Frame own k k₁ := Frame.of_snd hgeneration frame_allocateThreadGeneration
  split
  · rename_i k₂ hfind
    exact h₁.trans (Frame.of_snd hfind (frame_findThreadId 0xFE))
  · rename_i id k₂ hfind
    exact (h₁.trans (Frame.of_snd hfind (frame_findThreadId 0xFE))).trans
      (frame_registerThread id _)

theorem frame_takeSemaId : Frame own k k.takeSemaId.2 := frame_of_eq rfl rfl rfl rfl rfl

theorem KernelState.takeSemaId_nonneg (k : KernelState) : 0 ≤ k.takeSemaId.1 := by
  unfold KernelState.takeSemaId
  dsimp only
  split <;> omega

theorem frame_findSemaId (attempts : Nat) : Frame own k (k.findSemaId attempts).2 := by
  induction attempts generalizing k with
  | zero => exact .refl own k
  | succ attempts ih =>
    unfold KernelState.findSemaId
    split
    rename_i candidate k₁ htake
    have h₁ : Frame own k k₁ := Frame.of_snd htake frame_takeSemaId
    split
    · exact h₁
    · exact h₁.trans ih

theorem findSemaId_nonneg {id : Int} (attempts : Nat)
    (h : (k.findSemaId attempts).1 = some id) : 0 ≤ id := by
  induction attempts generalizing k with
  | zero => cases h
  | succ attempts ih =>
    unfold KernelState.findSemaId at h
    split at h
    rename_i candidate k₁ htake
    split at h
    · have hpos := k.takeSemaId_nonneg
      rw [htake] at hpos
      exact Option.some.inj h ▸ hpos
    · exact ih h

/-- A new semaphore is registered under an id that is not negative. -/
theorem frame_registerSema (hid : 0 ≤ sid) (value : SemaInfo) :
    Frame own k
      { k with
        semas := k.semas.insert sid k.nextObject
        semaInfo := Function.update k.semaInfo k.nextObject value
        nextObject := k.nextObject + 1 } := by
  refine ⟨Nat.le_succ _, fun h => ⟨fun hl => ?_, fun {i r} hl => ?_⟩, fun _ => rfl,
    fun _ _ _ _ => id, fun {r} hr hd => ?_⟩
  · obtain ⟨hlt, hthread⟩ := h.threads hl
    exact ⟨Nat.lt_succ_of_lt hlt, hthread⟩
  · change (k.semas.insert sid k.nextObject).lookup i = some r at hl
    rcases eq_or_ne i sid with rfl | hne
    · rw [Finmap.lookup_insert] at hl
      cases hl
      exact ⟨Nat.lt_succ_self _, hid⟩
    · rw [Finmap.lookup_insert_of_ne _ hne] at hl
      obtain ⟨hlt, hpos⟩ := h.semas hl
      exact ⟨Nat.lt_succ_of_lt hlt, hpos⟩
  · change (Function.update k.semaInfo k.nextObject value r).deleted = true
    rwa [Function.update_of_ne (Nat.ne_of_lt hr)]

theorem frame_createSema (init max : Int) : Frame own k (k.createSema init max).2 := by
  have hframe : Frame own k (k.findSemaId 0x7FFF).2 := frame_findSemaId 0x7FFF
  unfold KernelState.createSema
  split
  · rename_i k₁ hfind
    exact Frame.of_snd hfind hframe
  · rename_i id k₁ hfind
    have hid : 0 ≤ id := findSemaId_nonneg 0x7FFF (congrArg Prod.fst hfind)
    exact (Frame.of_snd hfind hframe).trans (frame_registerSema hid _)

/-! ## Semaphores -/

theorem frame_pollSema (sid : Int) : Frame own k (k.pollSema sid).2 := by
  unfold KernelState.pollSema
  split
  · exact .refl own k
  · dsimp only
    split
    · exact frame_setSemaInfo id
    · exact .refl own k

theorem frame_deleteSemaWaiter {threadId : Int} (h : k.deleteSemaWaiter sema threadId = .ok k') :
    Frame own k k' := by
  unfold KernelState.deleteSemaWaiter at h
  split at h
  · cases h
  · split at h
    · cases h
    · rename_i scheduler hrelease
      split at h
      · cases h
      · dsimp only at h
        split at h
        · cases h
        · rename_i k₁ hmirror
          have h₁ : Frame own _ k₁ := frame_mirrorRelease hmirror fun _ => nofun
          have hsema : k₁.semaInfo = k.semaInfo := (mirrorRelease_semaInfo hmirror).trans rfl
          split at h
          · cases h
          · cases h
            refine ((frame_setScheduler scheduler).trans h₁).trans (frame_setSemaInfo ?_)
            rw [hsema]
            exact id

theorem frame_deleteSemaWaiters {waiters : List Int}
    (h : k.deleteSemaWaiters sema waiters = .ok k') : Frame own k k' := by
  induction waiters generalizing k with
  | nil =>
    cases h
    exact .refl own _
  | cons threadId rest ih =>
    unfold KernelState.deleteSemaWaiters at h
    split at h
    · cases h
    · rename_i k₁ hwaiter
      exact (frame_deleteSemaWaiter hwaiter).trans (ih h)

theorem frame_eraseSema (sid next : Int) :
    Frame own k { k with semas := k.semas.erase sid, nextSemaId := next } := by
  refine ⟨Nat.le_refl _, fun h => ⟨h.threads, fun {i r} hl => ?_⟩, fun _ => rfl, fun _ _ _ _ => id,
    fun _ => id⟩
  change (k.semas.erase sid).lookup i = some r at hl
  rcases eq_or_ne i sid with rfl | hne
  · rw [Finmap.lookup_erase] at hl
    cases hl
  · rw [Finmap.lookup_erase_ne hne] at hl
    exact h.semas hl

theorem frame_deleteSema {ret : Int} (h : k.deleteSema sema = .ok (ret, k')) : Frame own k k' := by
  unfold KernelState.deleteSema at h
  dsimp only at h
  split at h
  · cases h
    exact .refl own k
  · split at h
    · cases h
    · rename_i k₁ hwaiters
      split at h
      · cases h
      · cases h
        exact ((frame_eraseSema _ _).trans (frame_setSemaInfo fun _ => rfl)).trans
          (frame_deleteSemaWaiters hwaiters)

/-! ## Event flags -/

theorem frame_createEventFlag (attr initBits : BitVec 32) :
    Frame own k (k.createEventFlag attr initBits).2 where
  objects := Nat.le_succ _
  registered h := by
    refine ⟨fun hl => ?_, fun hl => ?_⟩
    · obtain ⟨hlt, hthread⟩ := h.threads hl
      exact ⟨Nat.lt_succ_of_lt hlt, hthread⟩
    · obtain ⟨hlt, hpos⟩ := h.semas hl
      exact ⟨Nat.lt_succ_of_lt hlt, hpos⟩
  threadId _ := rfl
  waits _ _ := id
  deleted _ := id

theorem frame_clearEventFlag (eid : Int) (bits : BitVec 32) :
    Frame own k (k.clearEventFlag eid bits).2 := by
  unfold KernelState.clearEventFlag
  split
  · exact .refl own k
  · exact frame_setEventFlagInfo _ _

theorem frame_pollEventFlag (eid : Int) (waitBits mode : BitVec 32) :
    Frame own k (k.pollEventFlag eid waitBits mode).2 := by
  unfold KernelState.pollEventFlag
  split
  · exact .refl own k
  · split
    · exact .refl own k
    · dsimp only
      split
      · exact .refl own k
      · split
        · exact .refl own k
        · exact frame_setEventFlagInfo _ _

theorem frame_detachEventWaiter {threadId : Int} {completion : EeSchedulerWaitCompletion}
    {resultBits : BitVec 32} {missing diverged : String}
    (h : k.detachEventWaiter flag threadId completion resultBits missing diverged = .ok k') :
    Frame own k k' := by
  unfold KernelState.detachEventWaiter at h
  split at h
  · cases h
  · dsimp only at h
    split at h
    · cases h
    · rename_i waiter _ _ k₁ hmirror
      have h₁ : Frame own k k₁ := frame_mirrorRelease hmirror nofun
      have h₂ : Frame own k₁ (k₁.setThreadInfo waiter
          { k₁.threadInfo waiter with pendingEventFlagResultBits := resultBits }) :=
        frame_setFields rfl rfl rfl
      split at h
      · cases h
      · cases h
        exact (h₁.trans h₂).trans (frame_setEventFlagInfo _ _)

theorem frame_satisfyEventWaiter {threadId : Int} {request : SchedulerWaiter}
    (h : k.satisfyEventWaiter flag threadId request = .ok k') : Frame own k k' := by
  unfold KernelState.satisfyEventWaiter at h
  split at h
  · cases h
  · split at h
    · cases h
    · split at h
      · cases h
      · rename_i scheduler _
        exact ((frame_setScheduler scheduler).trans (frame_setEventFlagInfo _ _)).trans
          (frame_detachEventWaiter h)

theorem frame_setEventFlagWaiters {waiters : List Int}
    (h : k.setEventFlagWaiters flag waiters = .ok k') : Frame own k k' := by
  induction waiters generalizing k with
  | nil =>
    cases h
    exact .refl own _
  | cons threadId rest ih =>
    unfold KernelState.setEventFlagWaiters at h
    split at h
    · cases h
    · split at h
      · exact ih h
      · split at h
        · cases h
        · rename_i k₁ hwaiter
          exact (frame_satisfyEventWaiter hwaiter).trans (ih h)

theorem frame_setEventFlag {bits : BitVec 32} {ret : Int}
    (h : k.setEventFlag flag bits = .ok (ret, k')) : Frame own k k' := by
  unfold KernelState.setEventFlag at h
  dsimp only at h
  split at h
  · cases h
    exact .refl own k
  · split at h
    · cases h
    · rename_i k₁ hwaiters
      split at h
      · cases h
      · cases h
        exact (frame_setEventFlagInfo _ _).trans (frame_setEventFlagWaiters hwaiters)

theorem frame_deleteEventFlagWaiter {threadId : Int}
    (h : k.deleteEventFlagWaiter flag threadId = .ok k') : Frame own k k' := by
  unfold KernelState.deleteEventFlagWaiter at h
  split at h
  · split at h
    · cases h
    · split at h
      · cases h
      · rename_i scheduler _
        exact (frame_setScheduler scheduler).trans (frame_detachEventWaiter h)
  · cases h

theorem frame_deleteEventFlagWaiters {waiters : List Int}
    (h : k.deleteEventFlagWaiters flag waiters = .ok k') : Frame own k k' := by
  induction waiters generalizing k with
  | nil =>
    cases h
    exact .refl own _
  | cons threadId rest ih =>
    unfold KernelState.deleteEventFlagWaiters at h
    split at h
    · cases h
    · rename_i k₁ hwaiter
      exact (frame_deleteEventFlagWaiter hwaiter).trans (ih h)

theorem frame_deleteEventFlag {ret : Int} (h : k.deleteEventFlag flag = .ok (ret, k')) :
    Frame own k k' := by
  unfold KernelState.deleteEventFlag at h
  dsimp only at h
  split at h
  · cases h
    exact .refl own k
  · split at h
    · cases h
    · rename_i k₁ hwaiters
      split at h
      · cases h
      · cases h
        refine Frame.trans ?_ (frame_deleteEventFlagWaiters hwaiters)
        exact frame_of_eq rfl rfl rfl rfl rfl

end Ps2Recomp.Syscalls
