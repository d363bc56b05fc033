import Ps2Recomp.Syscalls.StepFrame

/-!
# What `WaitSema` returns, and what it acquired

The result of `WaitSema` is decided when its caller runs again. A call that was blocked reads the
completion kept in its `ThreadInfo`, which says what happened to the wait (`Waits`). A call that was
not blocked reads `deleted` instead, and that flag may have been set since its transition took a
count: then the call returns `KE_ERROR` although it acquired the semaphore (`wait_not_truthful`).

`Truthful` is the law for one return: the id exactly if the call acquired, an error exactly if not.
`truthful_of_run` proves it of every return of every run in which

* no semaphore is deleted between the application of a transition that took a count and the moment
  its caller runs again;
* no call passes as its id the number that is the error code for an unknown semaphore, which is also
  what the call returns;
* no interrupt callback waits, or exits, in the name of a thread that is inside `WaitSema`.
-/

namespace Ps2Recomp.Syscalls

open Machine

variable {k k' : KernelState} {w : World} {sema : ObjectRef} {threadId : Int}
  {pending : PendingCall} {call : WaitSema.Call}

/-! ## The law -/

/-- The call returned its id exactly if it acquired, and an error exactly if it did not. -/
def WaitReturn.Truthful (r : WaitReturn) : Prop :=
  (r.ret = r.sid ↔ r.acquired = true) ∧ (r.ret < 0 ↔ r.acquired = false)

instance (r : WaitReturn) : Decidable r.Truthful := inferInstanceAs (Decidable (_ ∧ _))

theorem truthful_acquired {sid : Int} (h : 0 ≤ sid) : WaitReturn.Truthful ⟨sid, sid, true⟩ := by
  refine ⟨iff_of_true rfl rfl, iff_of_false ?_ nofun⟩
  exact not_lt.mpr h

/-- A call that acquired nothing returned an error other than its id. -/
theorem truthful_refused {sid ret : Int} (hret : ret < 0) (hne : ret ≠ sid) :
    WaitReturn.Truthful ⟨sid, ret, false⟩ :=
  ⟨iff_of_false hne nofun, iff_of_true hret rfl⟩

/-! ## The steps of a call -/

theorem enter_spec {sid : Int} {entry : WaitSema.Entry} (hreg : Registered k)
    (h : WaitSema.enter k threadId sid = (entry, k')) :
    Frame none k k' ∧ (∀ {ret}, entry = .returns ret → ret = KE_UNKNOWN_SEMID) ∧
      ∀ {call}, entry = .published call → call.sid = sid ∧ 0 ≤ sid ∧ call.sema < k'.nextObject ∧
        call.info < k'.nextObject ∧ (k'.threadInfo call.info).threadId = threadId ∧
        call.info = (k.ensureCurrentThreadInfo threadId).1 ∧ call.transition = {} := by
  unfold WaitSema.enter at h
  split at h
  · obtain ⟨rfl, rfl⟩ := Prod.mk.inj h
    exact ⟨.refl _ _, fun he => (WaitSema.Entry.returns.inj he).symm, nofun⟩
  · rename_i sema hlookup
    obtain ⟨hsema, hsid⟩ := hreg.semas hlookup
    have hframe : Frame none k (k.ensureCurrentThreadInfo threadId).2 :=
      frame_ensureCurrentThreadInfo threadId
    obtain ⟨hinfo, howner⟩ := ensureCurrentThreadInfo_spec hreg threadId
    dsimp only at h
    split at h
    · obtain ⟨rfl, rfl⟩ := Prod.mk.inj h
      exact ⟨hframe, nofun, nofun⟩
    · obtain ⟨rfl, rfl⟩ := Prod.mk.inj h
      refine ⟨hframe, nofun, ?_⟩
      rintro _ ⟨⟩
      exact ⟨rfl, hsid, Nat.lt_of_lt_of_le hsema hframe.objects, hinfo, howner, rfl, rfl⟩

/-- The transition took a count unless the semaphore was deleted; when it blocked, the caller waits
and has acquired nothing. -/
structure Applied (k k' : KernelState) (call : WaitSema.Call)
    (transition : WaitSema.WaitTransition) : Prop where
  frame : Frame (some call.info) k k'
  applied : transition.applied = true
  blocked : transition.blocked = true →
    World.decremented call.sema k k' = false ∧ Waits call.sid false (k'.threadInfo call.info) ∧
      (k'.threadInfo call.info).pendingWaitCompletion = .None
  direct : transition.blocked = false →
    (World.decremented call.sema k k' = true ↔ (k'.semaInfo call.sema).deleted = false)

theorem block_spec (h : WaitSema.block k call = .ok k')
    (hpending : (k.threadInfo call.info).pendingWaitCompletion = .None) :
    Frame (some call.info) k k' ∧ (k'.semaInfo call.sema).count = (k.semaInfo call.sema).count ∧
      Waits call.sid false (k'.threadInfo call.info) ∧
      (k'.threadInfo call.info).pendingWaitCompletion = .None := by
  unfold WaitSema.block at h
  dsimp only at h
  split at h
  · cases h
  · split at h
    · cases h
    · rename_i k₁ hmirror
      cases h
      refine ⟨((frame_setScheduler _).trans (frame_mirrorBlock hmirror)).trans
        (frame_setSemaInfo id), ?_⟩
      unfold KernelState.mirrorBlock at hmirror
      split at hmirror
      · cases hmirror
      · rename_i guest hguest
        cases hmirror
        obtain ⟨hlinked, hon⟩ := EeThreadGuestState.block_spec hguest (by simp [
          EeThreadGuestStateSnapshot.queueMatchesReason])
        have hdormant : guest.isDormant = false := by
          refine EeThreadGuestState.not_dormant_of_waiting ?_
          unfold EeThreadGuestState.isWaitingOn at hon
          simp only [Bool.and_eq_true] at hon
          exact hon.1.1
        refine ⟨?_, ?_, ?_⟩
        · simp
        · rw [KernelState.setSemaInfo_threadInfo, KernelState.setThreadInfo_threadInfo,
            Function.update_self]
          exact ⟨hdormant, .inl ⟨hlinked, hpending, rfl⟩⟩
        · rw [KernelState.setSemaInfo_threadInfo, KernelState.setThreadInfo_threadInfo,
            Function.update_self]
          exact hpending

theorem apply_spec {transition : WaitSema.WaitTransition}
    (h : WaitSema.apply k call = .ok (transition, k')) : Applied k k' call transition := by
  have hcleared : Frame (some call.info) k (WaitSema.cleared k call.info) := frame_own rfl
  have hpending : ((WaitSema.cleared k call.info).threadInfo call.info).pendingWaitCompletion =
      .None := by
    unfold WaitSema.cleared
    rw [KernelState.setThreadInfo_threadInfo, Function.update_self]
  unfold WaitSema.apply at h
  split at h
  · cases h
  · dsimp only at h
    split at h
    · rename_i hdeleted
      cases h
      refine ⟨hcleared, rfl, nofun, fun _ => iff_of_false ?_ ?_⟩
      · simp [World.decremented, WaitSema.cleared]
      · rw [hdeleted]
        exact nofun
    · rename_i hdeleted
      split at h
      · rename_i hcount
        cases h
        refine ⟨hcleared.trans (frame_setSemaInfo id), rfl, nofun, fun _ => iff_of_true ?_ ?_⟩
        · simp [World.decremented, WaitSema.cleared]
        · simpa using hdeleted
      · split at h
        · cases h
        · rename_i k₁ hblock
          cases h
          obtain ⟨hframe, hcount, hwaits, hnone⟩ := block_spec hblock hpending
          refine ⟨hcleared.trans hframe, rfl, fun _ => ⟨?_, hwaits, hnone⟩, nofun⟩
          unfold World.decremented
          rw [hcount]
          simp [WaitSema.cleared]

/-- A caller that runs again leaves the frame of its own step, and returns `WaitSema.result`. -/
theorem resume_spec {ret : Option Int} (h : WaitSema.resume k call = .ok (ret, k')) :
    Frame (some call.info) k k' ∧ call.transition.applied = true ∧
      ∀ {value}, ret = some value → value = WaitSema.result k call := by
  have htaken : Frame (some call.info) k
      (if call.transition.blocked = true then WaitSema.taken k call else k) := by
    split
    · exact frame_own rfl
    · exact .refl _ k
  unfold WaitSema.resume at h
  split at h
  · cases h
  · rename_i happlied
    have happlied' : call.transition.applied = true := by simpa using happlied
    split at h
    · cases h
      exact ⟨.refl _ _, happlied', nofun⟩
    · split at h
      · cases h
      · rename_i hreturn
        cases h
        exact ⟨htaken.trans (frame_returnToGuest hreturn), happlied', nofun⟩
      · rename_i hreturn
        cases h
        exact ⟨htaken.trans (frame_returnToGuest hreturn), happlied',
          fun he => (Option.some.inj he).symm⟩

/-! ## Signals -/

/-- **A signal** completes the wait of at most one thread, as Satisfied. -/
theorem signalSema_spec {ret : Int} (h : k.signalSema sema = .ok (ret, k')) :
    ∃ woken : Option ObjectRef, Frame woken k k' ∧
      (∀ {info}, woken ≠ some info → k'.threadInfo info = k.threadInfo info) ∧
      ∀ {info}, woken = some info →
        (k'.threadInfo info).pendingWaitCompletion = .Satisfied ∧
        ∀ {sid acquired}, Waits sid acquired (k.threadInfo info) →
          (k.threadInfo info).pendingWaitCompletion = .None ∧
            Waits sid true (k'.threadInfo info) := by
  unfold KernelState.signalSema at h
  dsimp only at h
  split at h
  · cases h
    exact ⟨none, .refl _ _, fun _ => rfl, nofun⟩
  · split at h
    · cases h
      exact ⟨none, .refl _ _, fun _ => rfl, nofun⟩
    · split at h
      · rename_i woken scheduler _
        split at h
        · cases h
        · rename_i k₁ hwoken
          cases h
          unfold KernelState.signalWoken at hwoken
          dsimp only at hwoken
          split at hwoken
          · cases hwoken
          · rename_i waiter _
            split at hwoken
            · cases hwoken
            · rename_i k₂ hmirror
              split at hwoken
              · cases hwoken
              · cases hwoken
                unfold KernelState.mirrorRelease at hmirror
                split at hmirror
                · cases hmirror
                · rename_i guest hrelease
                  cases hmirror
                  obtain ⟨-, -, -, hnone, hdormant⟩ := EeThreadGuestState.releaseWait_spec hrelease
                  refine ⟨some waiter, ?_, ?_, ?_⟩
                  · refine Frame.trans ?_ (frame_setSemaInfo id)
                    refine (frame_setScheduler scheduler).trans ?_
                    exact frame_own rfl
                  · intro info hne
                    exact Function.update_of_ne (fun he => hne (congrArg some he.symm)) ..
                  · rintro _ ⟨⟩
                    rw [KernelState.setSemaInfo_threadInfo, KernelState.setThreadInfo_threadInfo,
                      Function.update_self]
                    refine ⟨rfl, fun hw => ⟨(hw.linked_of_releaseWait hrelease).2.2, hdormant, ?_⟩⟩
                    exact .inr ⟨hnone, iff_of_true rfl rfl⟩
      · split at h
        · cases h
        · cases h
          exact ⟨none, (frame_setScheduler _).trans (frame_setSemaInfo id), fun _ => rfl, nofun⟩

/-! ## The invariant -/

/-- What holds of a call in progress. -/
structure CallOk (k : KernelState) (threadId : Int) (pending : PendingCall) : Prop where
  sid : 0 ≤ pending.call.sid
  sema : pending.call.sema < k.nextObject
  info : pending.call.info < k.nextObject
  owner : (k.threadInfo pending.call.info).threadId = threadId
  /-- A transition that neither blocked nor acquired found the semaphore deleted. -/
  direct : pending.call.transition.applied = true → pending.call.transition.blocked = false →
    pending.acquired = false → (k.semaInfo pending.call.sema).deleted = true
  blocked : pending.call.transition.applied = true → pending.call.transition.blocked = true →
    Waits pending.call.sid pending.acquired (k.threadInfo pending.call.info)

structure World.Ok (w : World) : Prop where
  registered : Registered w.kernel
  calls : ∀ {threadId pending}, w.calls threadId = some pending → CallOk w.kernel threadId pending
  returns : ∀ r ∈ w.returns, r.Truthful

theorem Applied.callOk {transition : WaitSema.WaitTransition}
    (h : Applied k k' call transition) (hsid : 0 ≤ call.sid) (hsema : call.sema < k.nextObject)
    (hinfo : call.info < k.nextObject) (howner : (k.threadInfo call.info).threadId = threadId) :
    CallOk k' threadId
      ⟨{ call with transition := transition }, World.decremented call.sema k k'⟩ where
  sid := hsid
  sema := Nat.lt_of_lt_of_le hsema h.frame.objects
  info := Nat.lt_of_lt_of_le hinfo h.frame.objects
  owner := (h.frame.threadId hinfo).trans howner
  direct _ hb hq := by
    have hno : World.decremented call.sema k k' = false := hq
    by_contra hd
    rw [Bool.not_eq_true] at hd
    rw [(h.direct hb).mpr hd] at hno
    exact absurd hno nofun
  blocked _ hb := by
    obtain ⟨hno, hwaits, -⟩ := h.blocked hb
    dsimp only
    rw [hno]
    exact hwaits

theorem ok_empty : World.Ok {} where
  registered := ⟨fun hl => absurd hl (by simp), fun hl => absurd hl (by simp)⟩
  calls h := absurd h nofun
  returns := nofun

/-- A step that is not the calling thread's keeps its call. -/
theorem CallOk.frame {own : Option ObjectRef} (h : CallOk k threadId pending)
    (hframe : Frame own k k')
    (hown : pending.call.transition.applied = true → own ≠ some pending.call.info) :
    CallOk k' threadId pending where
  sid := h.sid
  sema := Nat.lt_of_lt_of_le h.sema hframe.objects
  info := Nat.lt_of_lt_of_le h.info hframe.objects
  owner := (hframe.threadId h.info).trans h.owner
  direct ha hb hq := hframe.deleted h.sema (h.direct ha hb hq)
  blocked ha hb := hframe.waits h.info (hown ha) (h.blocked ha hb)

/-- Two threads have different objects. -/
theorem CallOk.info_ne {threadId' : Int} {info : ObjectRef} (h : CallOk k threadId pending)
    (hinfo : (k.threadInfo info).threadId = threadId') (hne : threadId ≠ threadId') :
    (some info) ≠ some pending.call.info := by
  rintro ⟨⟩
  exact hne (h.owner.symm.trans hinfo)

/-- A thread inside `WaitSema` is not the one that made the step. -/
theorem World.Ok.own_ne (h : w.Ok) {info : ObjectRef} (hwaits : w.waits info = false)
    (hc : w.calls threadId = some pending) (ha : pending.call.transition.applied = true) :
    some info ≠ some pending.call.info := by
  rintro ⟨⟩
  unfold World.waits at hwaits
  rw [(h.calls hc).owner, hc] at hwaits
  simp [ha] at hwaits

theorem World.Ok.returned (h : w.Ok) {r : WaitReturn} (hr : r.Truthful) :
    ∀ r' ∈ w.returns ++ [r], r'.Truthful := by
  intro r' hmem
  rw [List.mem_append, List.mem_singleton] at hmem
  rcases hmem with hmem | rfl
  · exact h.returns r' hmem
  · exact hr

/-- The steps that make no call and end none. -/
theorem World.Ok.frame {own : Option ObjectRef} (h : w.Ok) (hframe : Frame own w.kernel k')
    (hown : ∀ {info}, own = some info → w.waits info = false) {returns : List WaitReturn}
    (hreturns : ∀ r ∈ returns, r.Truthful) {failure : Option String} :
    World.Ok ⟨k', w.calls, returns, failure⟩ where
  registered := hframe.registered h.registered
  calls {t p} hc := (h.calls hc).frame hframe fun ha he => by
    exact h.own_ne (hown he) hc ha rfl
  returns := hreturns

theorem World.Ok.fail (h : w.Ok) (message : String) :
    World.Ok { w with failure := some message } := ⟨h.registered, h.calls, h.returns⟩

/-- A step of the thread `threadId`, which changes its call. -/
theorem World.Ok.setCall {own : Option ObjectRef} (h : w.Ok) (hframe : Frame own w.kernel k')
    (hown : ∀ {info}, own = some info → (w.kernel.threadInfo info).threadId = threadId)
    {next : Option PendingCall} (hnext : ∀ {p}, next = some p → CallOk k' threadId p)
    {returns : List WaitReturn} (hreturns : ∀ r ∈ returns, r.Truthful) {failure : Option String} :
    World.Ok (World.setCall ⟨k', w.calls, returns, failure⟩ threadId next) where
  registered := hframe.registered h.registered
  calls {t p} hc := by
    change Function.update w.calls threadId next t = some p at hc
    rcases eq_or_ne t threadId with rfl | hne
    · rw [Function.update_self] at hc
      exact hnext hc
    · rw [Function.update_of_ne hne] at hc
      refine (h.calls hc).frame hframe fun _ he => ?_
      exact (h.calls hc).info_ne (hown he) hne rfl
  returns := hreturns

/-! ## The steps -/

namespace World

/-- The call of the thread took a count, and its semaphore has been deleted since. -/
def tookDeleted (w : World) (threadId : Int) : Bool :=
  (w.calls threadId).any fun pending =>
    !pending.call.transition.blocked && pending.acquired &&
      (w.kernel.semaInfo pending.call.sema).deleted

/-- What a step must not do for `WaitSema` to keep its law. -/
def Undisturbed (w : World) : Action → Prop
  | .waitSema _ sid _ => sid ≠ KE_UNKNOWN_SEMID
  | .resumeWaitSema threadId => w.tookDeleted threadId = false
  | .callbackWaitSema threadId sid =>
    sid ≠ KE_UNKNOWN_SEMID ∧ w.waits (w.kernel.ensureCurrentThreadInfo threadId).1 = false
  | .other op => op.own.any w.waits = false
  | _ => True

instance (w : World) : ∀ a, Decidable (w.Undisturbed a)
  | .waitSema .. => inferInstanceAs (Decidable (_ ≠ _))
  | .resumeWaitSema _ => inferInstanceAs (Decidable (_ = _))
  | .callbackWaitSema .. => inferInstanceAs (Decidable (_ ∧ _))
  | .other _ => inferInstanceAs (Decidable (_ = _))
  | .applyWaitSema _ | .strayWaitSema _ | .signalSema _ | .terminateThread _ =>
    inferInstanceAs (Decidable True)

theorem Ok.enterWaitSema (h : w.Ok) {sid : Int} (hsid : sid ≠ KE_UNKNOWN_SEMID)
    (accepted : Bool) : (w.enterWaitSema threadId sid accepted).Ok := by
  unfold World.enterWaitSema
  split
  · exact h
  · split
    · rename_i ret k he
      obtain ⟨hframe, hret, -⟩ := enter_spec h.registered he
      obtain rfl := hret rfl
      exact h.frame hframe nofun (h.returned (truthful_refused (by decide) hsid.symm))
    · rename_i k he
      exact h.frame (enter_spec h.registered he).1 nofun h.returns
    · rename_i call k he
      obtain ⟨hframe, -, hcall⟩ := enter_spec h.registered he
      obtain ⟨rfl, hpos, hsema, hinfo, howner, -, htransition⟩ := hcall rfl
      split
      · refine h.setCall hframe nofun ?_ h.returns
        rintro _ ⟨⟩
        refine ⟨hpos, hsema, hinfo, howner, ?_, ?_⟩
        · intro ha
          rw [htransition] at ha
          exact absurd ha nofun
        · intro ha
          rw [htransition] at ha
          exact absurd ha nofun
      · refine h.frame hframe nofun (h.returned (truthful_refused (by decide) ?_))
        intro he
        rw [← he] at hpos
        exact absurd hpos (by decide)

theorem Ok.applyWaitSema (h : w.Ok) (threadId : Int) : (w.applyWaitSema threadId).Ok := by
  unfold World.applyWaitSema
  split
  · exact h
  · rename_i pending hc
    have hcall := h.calls hc
    split
    · exact h
    · split
      · exact h.fail _
      · rename_i transition k happly
        have happlied := apply_spec happly
        refine h.setCall happlied.frame ?_ ?_ h.returns
        · rintro _ ⟨⟩
          exact hcall.owner
        · rintro _ ⟨⟩
          exact happlied.callOk hcall.sid hcall.sema hcall.info hcall.owner

/-- The result of a call, when the semaphore of one that took a count is still there. -/
theorem truthful_result (hcall : CallOk k threadId pending)
    (happlied : pending.call.transition.applied = true)
    (htook : pending.call.transition.blocked = false → pending.acquired = true →
      (k.semaInfo pending.call.sema).deleted = false) :
    WaitReturn.Truthful
      ⟨pending.call.sid, WaitSema.result k pending.call, pending.acquired⟩ := by
  have hpos := hcall.sid
  have herror : KE_ERROR ≠ pending.call.sid := by
    intro he
    rw [← he] at hpos
    exact absurd hpos (by decide)
  unfold WaitSema.result
  cases hb : pending.call.transition.blocked with
  | true =>
    rw [if_pos rfl]
    rcases (hcall.blocked happlied hb).wait with ⟨-, hnone, hq⟩ | ⟨-, hiff⟩
    · rw [hnone, if_neg (by decide), hq]
      exact truthful_refused (by decide) herror
    · cases hq : pending.acquired with
      | true =>
        rw [if_pos (hiff.mp hq)]
        exact truthful_acquired hpos
      | false =>
        have hno : ¬(k.threadInfo pending.call.info).pendingWaitCompletion = .Satisfied := by
          intro he
          exact absurd (hiff.mpr he) (by rw [hq]; exact Bool.false_ne_true)
        rw [if_neg hno]
        exact truthful_refused (by decide) herror
  | false =>
    rw [if_neg Bool.false_ne_true]
    cases hq : pending.acquired with
    | true =>
      rw [htook hb hq, if_neg Bool.false_ne_true]
      exact truthful_acquired hpos
    | false =>
      rw [hcall.direct happlied hb hq, if_pos rfl]
      exact truthful_refused (by decide) herror

/-- A dispatch changes the scheduler only. -/
theorem dispatched_eq (w : World) (threadId : Int) :
    ∃ scheduler, w.dispatched threadId = w.kernel.setScheduler scheduler := by
  unfold World.dispatched
  split
  · exact ⟨_, rfl⟩
  · exact ⟨w.kernel.scheduler, rfl⟩

theorem Ok.resumeWaitSema (h : w.Ok) (htook : w.tookDeleted threadId = false) :
    (w.resumeWaitSema threadId).Ok := by
  unfold World.resumeWaitSema
  split
  · exact h
  · rename_i pending hc
    have hcall := h.calls hc
    have hown : ∀ {info}, some pending.call.info = some info →
        (w.kernel.threadInfo info).threadId = threadId := by
      rintro _ ⟨⟩
      exact hcall.owner
    obtain ⟨scheduler, hdispatched⟩ := w.dispatched_eq threadId
    split
    · exact h
    · rw [hdispatched]
      split
      · exact h.fail _
      · rename_i k hresume
        exact h.setCall ((frame_setScheduler scheduler).trans (resume_spec hresume).1) hown
          (fun he => by cases he) h.returns
      · rename_i ret k hresume
        obtain ⟨hframe, happlied, hret⟩ := resume_spec hresume
        obtain rfl := hret rfl
        refine h.setCall ((frame_setScheduler scheduler).trans hframe) hown
          (fun he => by cases he) (h.returned ?_)
        have hdispatch : Frame none w.kernel (w.kernel.setScheduler scheduler) :=
          frame_setScheduler scheduler
        refine truthful_result (hcall.frame hdispatch fun _ => nofun) happlied ?_
        intro hb hq
        unfold World.tookDeleted at htook
        rw [hc] at htook
        simpa [hb, hq] using htook

/-- A callback's call is made, applied and resumed at once. -/
theorem Ok.callbackWaitSema (h : w.Ok) {sid : Int} (hsid : sid ≠ KE_UNKNOWN_SEMID)
    (hwaits : w.waits (w.kernel.ensureCurrentThreadInfo threadId).1 = false) :
    (w.callbackWaitSema threadId sid).Ok := by
  unfold World.callbackWaitSema
  split
  · rename_i ret k he
    obtain ⟨hframe, hret, -⟩ := enter_spec h.registered he
    obtain rfl := hret rfl
    exact h.frame hframe nofun (h.returned (truthful_refused (by decide) hsid.symm))
  · rename_i k he
    exact h.frame (enter_spec h.registered he).1 nofun h.returns
  · rename_i call k he
    obtain ⟨hframe, -, hcall⟩ := enter_spec h.registered he
    obtain ⟨rfl, hpos, hsema, hinfo, howner, hobject, -⟩ := hcall rfl
    have hown : ∀ {info}, some call.info = some info → w.waits info = false := by
      rintro _ ⟨⟩
      rw [hobject]
      exact hwaits
    split
    · exact h.fail _
    · rename_i transition k₁ happly
      have happlied := apply_spec happly
      have hentered : Frame (some call.info) w.kernel k₁ := hframe.of_none.trans happlied.frame
      split
      · exact h.fail _
      · rename_i k₂ hresume
        exact h.frame (hentered.trans (resume_spec hresume).1) hown h.returns
      · rename_i ret k₂ hresume
        obtain ⟨hframe₂, -, hret⟩ := resume_spec hresume
        obtain rfl := hret rfl
        have hok := happlied.callOk hpos hsema hinfo howner
        exact h.frame (hentered.trans hframe₂) hown (h.returned
          (truthful_result hok happlied.applied fun hb hq => (happlied.direct hb).mp hq))

theorem Ok.signalSema (h : w.Ok) (sema : ObjectRef) : (w.signalSema sema).Ok := by
  unfold World.signalSema
  split
  · exact h.fail _
  · rename_i ret k hsignal
    obtain ⟨woken, hframe, hsame, hwoken⟩ := signalSema_spec hsignal
    refine ⟨hframe.registered h.registered, fun {t p} hc => ?_, h.returns⟩
    obtain ⟨pending, hpending, rfl⟩ := Option.map_eq_some_iff.mp hc
    have hcall := h.calls hpending
    refine ⟨hcall.sid, Nat.lt_of_lt_of_le hcall.sema hframe.objects,
      Nat.lt_of_lt_of_le hcall.info hframe.objects, (hframe.threadId hcall.info).trans hcall.owner,
      fun ha hb hq => ?_, fun ha hb => ?_⟩
    · rw [Bool.or_eq_false_iff] at hq
      exact hframe.deleted hcall.sema (hcall.direct ha hb hq.1)
    · have hw := hcall.blocked ha hb
      by_cases he : woken = some pending.call.info
      · obtain ⟨hsatisfied, hlinked⟩ := hwoken he
        obtain ⟨hnone, hw'⟩ := hlinked hw
        have hq : (pending.acquired || satisfied pending.call w.kernel k) = true := by
          unfold satisfied
          rw [hb, hsatisfied, hnone]
          exact Bool.or_true _
        dsimp only
        rw [hq]
        exact hw'
      · have hq : satisfied pending.call w.kernel k = false := by
          unfold satisfied
          rw [hsame he]
          cases (w.kernel.threadInfo pending.call.info).pendingWaitCompletion <;> simp
        dsimp only
        rw [hq, Bool.or_false, hsame he]
        exact hw

theorem Ok.terminateThread (h : w.Ok) (wait : WaitedOn) : (w.terminateThread wait).Ok := by
  unfold World.terminateThread
  split
  · exact h.fail _
  · rename_i k hterminate
    refine h.setCall (frame_terminateThread hterminate).1 ?_ (fun he => by cases he) h.returns
    rintro _ ⟨⟩
    rfl
  · rename_i disposition k hne hterminate
    have hk : k = w.kernel := (frame_terminateThread hterminate).2 hne
    rw [hk]
    exact h

/-- **Every undisturbed step** keeps the invariant. -/
theorem Ok.step (w : World) (a : Action) (h : w.Ok) (ha : w.Undisturbed a) : (w.step a).Ok := by
  unfold World.step
  split
  · exact h
  · cases a with
    | waitSema threadId sid accepted => exact h.enterWaitSema ha accepted
    | applyWaitSema threadId => exact h.applyWaitSema threadId
    | resumeWaitSema threadId => exact h.resumeWaitSema ha
    | strayWaitSema call =>
      dsimp only
      split
      · exact h
      · rename_i hwaits
        unfold World.commit
        split
        · rename_i k happly
          obtain ⟨transition, happly⟩ := Transition.of_state happly
          refine h.frame (apply_spec happly).frame ?_ h.returns
          rintro _ ⟨⟩
          simpa using hwaits
        · exact h.fail _
    | callbackWaitSema threadId sid => exact h.callbackWaitSema ha.1 ha.2
    | signalSema sema => exact h.signalSema sema
    | terminateThread wait => exact h.terminateThread wait
    | other op =>
      dsimp only
      unfold World.commit
      split
      · rename_i k hrun
        refine h.frame (frame_run hrun) ?_ h.returns
        intro info he
        have hown : op.own.any w.waits = false := ha
        rw [he] at hown
        exact hown
      · exact h.fail _

end World

/-! ## The law over runs -/

/-- **`WaitSema` tells the truth** along every undisturbed run. -/
theorem truthful_of_run {actions : List Action}
    (hrun : Along World.step World.Undisturbed {} actions) :
    ∀ r ∈ (run World.step {} actions).returns, r.Truthful :=
  (invariant World.Ok.step ok_empty hrun).returns

/-- Thread 1 runs; thread 2, of a higher priority, has started and sleeps; there is a semaphore
with one count. -/
def twoThreads : List Action :=
  [.other (.ensureCurrentThreadInfo 1), .other (.scheduler (.addRunningThread 1 1 5)),
    .other (.createThread 3), .other (.addCreatedThread 1 3), .other (.createSema 1 1),
    .other (.startThread 2), .other (.startScheduled 1 3),
    .other (.scheduler (.reschedule .HigherPriorityOnly)), .other (.sleepThread 1)]

/-- Thread 1 takes the count; before it runs again thread 2 takes its place. -/
def preempted : List Action :=
  [.waitSema 1 0 true, .applyWaitSema 1, .other (.wakeupThread 1),
    .other (.scheduler (.reschedule .HigherPriorityOnly)),
    .other (.scheduler (.consumeWaitCompletion ⟨2, 2⟩)), .other (.resumeSleep 1 true)]

/-- Thread 1 runs again once thread 2 sleeps. Its second call finds no count, blocks, and is
satisfied by a signal. -/
def resumed : List Action :=
  [.other (.sleepThread 1), .resumeWaitSema 1, .waitSema 1 0 true, .applyWaitSema 1,
    .signalSema 2, .other (.scheduler .selectNextThread), .resumeWaitSema 1]

theorem truthful_of_resumed :
    ⟨0, 0, true⟩ ∈ (run World.step {} (twoThreads ++ preempted ++ resumed)).returns ∧
      WaitReturn.Truthful ⟨0, 0, true⟩ := by
  have hrun : Along World.step World.Undisturbed {} (twoThreads ++ preempted ++ resumed) := by
    decide +kernel
  have hmem : ⟨0, 0, true⟩ ∈ (run World.step {} (twoThreads ++ preempted ++ resumed)).returns := by
    decide +kernel
  exact ⟨hmem, truthful_of_run hrun _ hmem⟩

/-- Both calls of that run return the id. -/
example : (run World.step {} (twoThreads ++ preempted ++ resumed)).returns =
    [⟨0, 0, true⟩, ⟨0, 0, true⟩] := by decide +kernel

/-- **Deleted in between.** Thread 2 deletes the semaphore before thread 1 runs again: the call that
took the count returns `KE_ERROR`. -/
theorem wait_not_truthful :
    ¬ ∀ actions : List Action, ∀ r ∈ (run World.step {} actions).returns, r.Truthful := by
  intro h
  have hbad := h (twoThreads ++ preempted ++ [.other (.deleteSema 2)] ++ resumed)
    ⟨0, KE_ERROR, true⟩ (by decide +kernel)
  revert hbad
  decide

end Ps2Recomp.Syscalls
