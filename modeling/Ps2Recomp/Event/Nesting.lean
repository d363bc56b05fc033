import Ps2Recomp.Event.Order

/-!
# Calls from inside a visitor

`EventNest` is the scheduler with the visitor invocations that have not returned, innermost first. A
visitor is arbitrary code: from inside it any member function may be called, `serviceDue` with
another visitor among them, until it returns or throws. So every list of actions is a run.

`serviceDue` refuses to be entered while `m_servicing` is set. `reset` and an accepted `restore`
clear that flag, also from inside a visitor; `cleared` records that. No visitor starts while another
one runs, and every `serviceDue` of a visitor is rejected, exactly in the runs in which no
`serviceDue` follows such a call within the same service (`lawful_iff_undisturbed`).

`exists_run_serviceDue` connects the actions to `serviceDue` of `Event.Scheduler`, whose visitors
only schedule and cancel.
-/

namespace Ps2Recomp

open EeEventScheduler Machine

/-- A visitor invocation of a `serviceDue(now)` that had serviced so many events before it. -/
structure VisitorInvocation where
  now : EeTick
  serviced : Nat

structure EventNest where
  scheduler : EeEventScheduler
  /-- The innermost one first. -/
  running : List VisitorInvocation := []
  /-- The events handed to visitors. -/
  delivered : List EeEventService := []
  /-- What the calls of `serviceDue` returned. -/
  results : List EeEventServiceResult := []
  /-- A visitor that runs, or an earlier one of the same service, has called `reset`, or `restore`
  with a snapshot that was accepted. -/
  cleared : Bool := false

inductive NestAction where
  | call (c : EventCall)
  | reset
  | restore (state : EeEventSchedulerSnapshot)
  | serviceDue (now : EeTick)
  /-- The innermost visitor returns. -/
  | visitorReturns
  /-- It throws, and `serviceDue` throws on. -/
  | visitorThrows

namespace EventNest

variable (w : EventNest)

/-- The lines of `serviceDue` after the loop. -/
def endService (outer : List VisitorInvocation) (now : EeTick) (serviced : Nat) : EventNest :=
  let s := { w.scheduler with servicing := false }
  if s.deadlineDue now then
    { w with
      scheduler :=
        { s with
          statistics :=
            { s.statistics with serviceLimitHits := s.statistics.serviceLimitHits + 1 } }
      running := outer
      results := w.results ++
        [{ serviced := serviced, limitExceeded := true, offendingSource := s.nextDueSource now }]
      cleared := w.cleared && !outer.isEmpty }
  else
    { w with
      scheduler := s
      running := outer
      results := w.results ++ [{ serviced := serviced }]
      cleared := w.cleared && !outer.isEmpty }

/-- The loop of `serviceDue` from its test to the next visitor invocation. -/
def nextService (outer : List VisitorInvocation) (now : EeTick) (serviced : Nat) : EventNest :=
  if serviced < kMaximumServicesPerBoundary then
    match w.scheduler.takeNextDue now with
    | (none, s) => endService { w with scheduler := s } outer now serviced
    | (some service, s) =>
      { w with
        scheduler := s
        running := ⟨now, serviced⟩ :: outer
        delivered := w.delivered ++ [service] }
  else w.endService outer now serviced

/-- `serviceDue`, to its first visitor invocation. -/
def serviceDue (now : EeTick) : EventNest :=
  if w.scheduler.servicing then
    { w with
      results := w.results ++
        [{ reentrantServiceRejected := true, offendingSource := w.scheduler.nextDueSource now }] }
  else
    { w with scheduler := { w.scheduler with servicing := true, serviceTick := now } }.nextService
      w.running now 0

/-- The handler of `serviceDue`, which throws on. -/
def abandonService (outer : List VisitorInvocation) : EventNest :=
  { w with
    scheduler := { w.scheduler with servicing := false }
    running := outer
    cleared := w.cleared && !outer.isEmpty }

/-- The loop goes on after the innermost visitor. -/
def visitorReturns : EventNest :=
  match w.running with
  | [] => w
  | visitor :: outer => w.nextService outer visitor.now (visitor.serviced + 1)

def visitorThrows : EventNest :=
  match w.running with
  | [] => w
  | _ :: outer => w.abandonService outer

def step (w : EventNest) : NestAction → EventNest
  | .call c => { w with scheduler := c.run w.scheduler }
  | .reset => { w with scheduler := w.scheduler.reset, cleared := !w.running.isEmpty }
  | .restore state =>
    { w with
      scheduler := (w.scheduler.restore state).2
      cleared := if (w.scheduler.restore state).1 then !w.running.isEmpty else w.cleared }
  | .serviceDue now => w.serviceDue now
  | .visitorReturns => w.visitorReturns
  | .visitorThrows => w.visitorThrows

/-- At most one visitor runs, and `serviceDue` called by it is rejected: nothing is delivered, and
nothing else changes. -/
structure Lawful (w : EventNest) (a : NestAction) : Prop where
  alone : (w.step a).running.length ≤ 1
  rejected : ∀ now, a = .serviceDue now → w.running ≠ [] →
    w.step a = { w with results := w.results ++ [{
      reentrantServiceRejected := true, offendingSource := w.scheduler.nextDueSource now }] }

/-- No visitor calls `serviceDue` after `reset` or an accepted `restore` within the same service. -/
def Undisturbed (w : EventNest) (a : NestAction) : Prop :=
  w.cleared = true → ∀ now, a ≠ .serviceDue now

/-! ## The flag -/

/-- The flag is set while a visitor runs, unless it was cleared. -/
structure Guarded (w : EventNest) : Prop where
  alone : w.running.length ≤ 1
  flag : w.scheduler.servicing = (!w.running.isEmpty && !w.cleared)
  cleared : w.cleared = true → w.running ≠ []

variable {w} {a : NestAction} {outer : List VisitorInvocation} {now : EeTick} {serviced : Nat}

theorem takeNextDue_servicing (s : EeEventScheduler) (now : EeTick) :
    (s.takeNextDue now).2.servicing = s.servicing := by
  unfold takeNextDue
  split
  · rfl
  · split
    · rfl
    · dsimp only
      split <;> rfl

/-- A restore that is refused changes nothing. -/
theorem restore_cases (s : EeEventScheduler) (state : EeEventSchedulerSnapshot) :
    ((s.restore state).1 = true ∧ (s.restore state).2.servicing = false) ∨
      ((s.restore state).1 = false ∧ (s.restore state).2 = s) := by
  unfold EeEventScheduler.restore
  split
  · exact .inl ⟨rfl, rfl⟩
  · exact .inr ⟨rfl, rfl⟩

theorem guarded_endService (houter : outer = []) : (w.endService outer now serviced).Guarded := by
  subst houter
  unfold endService
  dsimp only
  split
  · exact ⟨Nat.zero_le _, rfl, by simp⟩
  · exact ⟨Nat.zero_le _, rfl, by simp⟩

/-- The next visitor of a service that is not inside another one. -/
theorem guarded_nextService (hflag : w.scheduler.servicing = !w.cleared) :
    (w.nextService [] now serviced).Guarded := by
  unfold nextService
  split
  · split
    · exact guarded_endService rfl
    · rename_i service s hs
      have hservicing : s.servicing = w.scheduler.servicing := by
        rw [← takeNextDue_servicing w.scheduler now, hs]
      exact ⟨Nat.le_refl 1, hservicing.trans hflag, fun _ => List.cons_ne_nil _ _⟩
  · exact guarded_endService rfl

/-- A `serviceDue` that is entered from a visitor is not rejected. -/
theorem not_rejected (hflag : w.scheduler.servicing = false) (now : EeTick)
    (halone : (w.serviceDue now).running.length ≤ 1) (hrunning : w.running ≠ []) :
    (w.serviceDue now).results ≠ w.results ++ [{
      reentrantServiceRejected := true, offendingSource := w.scheduler.nextDueSource now }] := by
  unfold serviceDue at halone ⊢
  rw [hflag, if_neg Bool.false_ne_true] at halone ⊢
  unfold nextService at halone ⊢
  rw [if_pos (by decide)] at halone ⊢
  have hresults : ∀ w' : EventNest, w'.results = w.results →
      (w'.endService w.running now 0).results ≠ w.results ++ [{
        reentrantServiceRejected := true, offendingSource := w.scheduler.nextDueSource now }] := by
    intro w' hw' h
    unfold endService at h
    dsimp only at h
    rw [hw'] at h
    split at h
    · cases List.append_cancel_left h
    · cases List.append_cancel_left h
  split
  · exact hresults _ rfl
  · rename_i service s hs
    rw [hs] at halone
    have hpos := List.length_pos_iff.2 hrunning
    change w.running.length + 1 ≤ 1 at halone
    omega

/-- While no visitor runs `serviceDue` is entered; while one runs the flag is set. -/
theorem guarded_serviceDue (hg : w.Guarded) (hcleared : w.cleared = false) (now : EeTick) :
    (w.serviceDue now).Guarded := by
  have hflag := hg.flag
  rw [hcleared, Bool.not_false, Bool.and_true] at hflag
  unfold serviceDue
  cases hrunning : w.running with
  | nil =>
    rw [hrunning, List.isEmpty_nil, Bool.not_true] at hflag
    rw [hflag, if_neg Bool.false_ne_true]
    refine guarded_nextService ?_
    change true = !w.cleared
    rw [hcleared, Bool.not_false]
  | cons visitor outer =>
    rw [hrunning, List.isEmpty_cons, Bool.not_false] at hflag
    rw [hflag, if_pos rfl]
    exact ⟨hrunning ▸ hg.alone, hrunning ▸ hg.flag, hrunning ▸ hg.cleared⟩

theorem guarded_step (hg : w.Guarded) (h : Undisturbed w a) : (w.step a).Guarded := by
  cases a with
  | call c => exact ⟨hg.alone, (call_servicing c).trans hg.flag, hg.cleared⟩
  | reset =>
    refine ⟨hg.alone, ?_, fun hcleared => ?_⟩
    · change false = _
      rw [step, Bool.not_not, Bool.not_and_self]
    · rintro hnil
      change (!w.running.isEmpty) = true at hcleared
      rw [show w.running = [] from hnil] at hcleared
      cases hcleared
  | restore state =>
    rcases restore_cases w.scheduler state with ⟨haccepted, hservicing⟩ | ⟨hrefused, hsame⟩
    · refine ⟨hg.alone, ?_, fun hcleared => ?_⟩
      · change (w.scheduler.restore state).2.servicing =
          (!w.running.isEmpty && !(if (w.scheduler.restore state).1 then _ else _))
        rw [hservicing, haccepted, if_pos rfl, Bool.not_not, Bool.not_and_self]
      · rintro hnil
        change (if (w.scheduler.restore state).1 then !w.running.isEmpty else _) = true at hcleared
        rw [haccepted, if_pos rfl, show w.running = [] from hnil] at hcleared
        cases hcleared
    · have hw : w.step (.restore state) = w := by
        change { w with
          scheduler := (w.scheduler.restore state).2
          cleared := if (w.scheduler.restore state).1 then !w.running.isEmpty else w.cleared } = w
        rw [hrefused, hsame, if_neg Bool.false_ne_true]
      rw [hw]
      exact hg
  | serviceDue now =>
    have hcleared : w.cleared = false := by
      rw [← Bool.not_eq_true]
      exact fun hcleared => h hcleared now rfl
    exact guarded_serviceDue hg hcleared now
  | visitorReturns =>
    change w.visitorReturns.Guarded
    unfold visitorReturns
    split
    · exact hg
    · rename_i visitor outer hrunning
      have halone := hg.alone
      rw [hrunning, List.length_cons] at halone
      obtain rfl : outer = [] := List.length_eq_zero_iff.1 (by omega)
      have hflag := hg.flag
      rw [hrunning] at hflag
      exact guarded_nextService (by simpa using hflag)
  | visitorThrows =>
    change w.visitorThrows.Guarded
    unfold visitorThrows
    split
    · exact hg
    · rename_i visitor outer hrunning
      have halone := hg.alone
      rw [hrunning, List.length_cons] at halone
      obtain rfl : outer = [] := List.length_eq_zero_iff.1 (by omega)
      exact ⟨Nat.zero_le _, rfl, by simp [abandonService]⟩

/-- **The guard holds** for a step exactly if it does not come after the flag was cleared. -/
theorem lawful_iff (hg : w.Guarded) : Lawful w a ↔ Undisturbed w a := by
  constructor
  · rintro hl hcleared now rfl
    have hrunning := hg.cleared hcleared
    have hflag : w.scheduler.servicing = false := by
      rw [hg.flag, hcleared, Bool.not_true, Bool.and_false]
    exact not_rejected hflag now hl.alone hrunning
      (congrArg EventNest.results (hl.rejected now rfl hrunning))
  · intro h
    refine ⟨(guarded_step hg h).alone, ?_⟩
    rintro now rfl hrunning
    have hcleared : w.cleared = false := by
      rw [← Bool.not_eq_true]
      exact fun hcleared => h hcleared now rfl
    have hflag : w.scheduler.servicing = true := by
      rw [hg.flag, hcleared, Bool.not_false, Bool.and_true, Bool.not_eq_true',
        List.isEmpty_eq_false_iff]
      exact hrunning
    change w.serviceDue now = _
    unfold serviceDue
    rw [if_pos hflag]

theorem guarded_new : EventNest.Guarded { scheduler := .new } :=
  ⟨Nat.zero_le _, rfl, nofun⟩

/-- **`serviceDue` is never re-entered**, exactly in the runs without a `serviceDue` after a `reset`
or an accepted `restore` of the same service. -/
theorem lawful_iff_undisturbed (actions : List NestAction) :
    Along step Lawful { scheduler := .new } actions ↔
      Along step Undisturbed { scheduler := .new } actions :=
  along_iff (R := fun w w' => w = w' ∧ w.Guarded)
    (by
      rintro w _ a ⟨rfl, hg⟩
      exact lawful_iff hg)
    (by
      rintro w _ a ⟨rfl, hg⟩ hl
      exact ⟨rfl, guarded_step hg ((lawful_iff hg).1 hl)⟩)
    ⟨rfl, guarded_new⟩

/-- **A visitor that resets** the scheduler, schedules and calls `serviceDue`: the second visitor
starts inside the first. -/
theorem reset_reenters :
    ¬ ∀ actions : List NestAction, Along step Lawful { scheduler := .new } actions := by
  intro h
  have hlast := (h [.call (.scheduleAbsolute .VSync 0), .serviceDue 0, .reset,
    .call (.scheduleAbsolute .VSync 0), .serviceDue 0]).2.2.2.2.1.alone
  revert hlast
  decide

/-! ## Visitors that only schedule and cancel -/

theorem run_calls (w : EventNest) (calls : List EventCall) :
    run step w (calls.map .call) =
      { w with scheduler := calls.foldl EventCall.run w.scheduler } := by
  induction calls generalizing w with
  | nil => rfl
  | cons c calls ih =>
    rw [List.map_cons, run_cons, ih]
    rfl

/-- The nest after a `serviceDue` whose loop ran as `r`. -/
def finished (w : EventNest) (outer : List VisitorInvocation) (before : List EeEventService)
    (now : EeTick) (r : ServiceRun) : EventNest :=
  { w with
    scheduler := (r.finish now).2
    running := outer
    delivered := before ++ r.deliveries.reverse.map (·.service)
    results := w.results ++ (r.finish now).1.toList
    cleared := w.cleared && !outer.isEmpty }

theorem endService_eq {before : List EeEventService} {done : List Delivery}
    (hdelivered : w.delivered = before ++ done.reverse.map (·.service)) :
    w.endService outer now done.length =
      w.finished outer before now ⟨w.scheduler, done, false⟩ := by
  unfold endService finished ServiceRun.finish
  rw [← hdelivered]
  dsimp only
  rw [if_neg Bool.false_ne_true]
  split
  · rfl
  · rfl

theorem exists_run_nextService (outer : List VisitorInvocation) (before : List EeEventService)
    (now : EeTick) (visitor : Visitor) (allowed : Nat) (w : EventNest) (done : List Delivery)
    (hallowed : done.length + allowed = kMaximumServicesPerBoundary)
    (hdelivered : w.delivered = before ++ done.reverse.map (·.service)) :
    ∃ actions, run step (w.nextService outer now done.length) actions =
      w.finished outer before now (serviceLoop now visitor w.scheduler done allowed) := by
  induction allowed generalizing w done with
  | zero =>
    refine ⟨[], ?_⟩
    unfold nextService serviceLoop
    rw [if_neg (by omega)]
    exact endService_eq hdelivered
  | succ allowed ih =>
    unfold nextService serviceLoop
    rw [if_pos (by omega)]
    rcases hs : w.scheduler.takeNextDue now with ⟨_ | service, s⟩
    · exact ⟨[], endService_eq (w := { w with scheduler := s }) hdelivered⟩
    · -- the visitor makes its calls, and then returns to the loop or throws
      dsimp only
      generalize hhanded : (⟨w.scheduler, service, s⟩ : Delivery) :: done = handed
      have hlength : handed.length = done.length + 1 := by rw [← hhanded, List.length_cons]
      have hservices : w.delivered ++ [service] = before ++ handed.reverse.map (·.service) := by
        rw [← hhanded, hdelivered, List.reverse_cons, List.map_append, List.append_assoc]
        rfl
      by_cases hthrows : (visitor handed).2 = true
      · refine ⟨(visitor handed).1.map .call ++ [.visitorThrows], ?_⟩
        rw [run_append, run_calls, if_pos hthrows]
        unfold finished ServiceRun.finish
        dsimp only
        rw [if_pos rfl, ← hservices, Option.toList_none, List.append_nil]
        rfl
      · rw [if_neg hthrows]
        obtain ⟨actions, hactions⟩ := ih
          { w with
            scheduler := (visitor handed).1.foldl EventCall.run s
            delivered := w.delivered ++ [service] } handed (by omega) hservices
        refine ⟨(visitor handed).1.map .call ++ .visitorReturns :: actions, ?_⟩
        rw [run_append, run_calls, run_cons]
        rw [hlength] at hactions
        exact hactions

end EventNest

end Ps2Recomp
