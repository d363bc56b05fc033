import Ps2Recomp.Gs.RouterOrder

/-!
# GS backend router: runs

Whatever the accelerated backend answers, and however submissions, flushes, accesses of the CPU and
changes of the mode follow each other, the router hands over every accepted command once, in the
order of the submissions, to a backend while the other one is without work
(`router_keeps_program_order`). With that the backends together execute the commands in program
order, as one queue would (`HandOver.Exclusive.executed_append_queue`).
-/

namespace Ps2Recomp

open HandOver (queue handed executed Exclusive)

namespace GsBackendRouter

variable {r r' s : GsBackendRouter} {accelerated : Option IGsRasterBackend}
  {accepted commands : List GsDrawCommand} {command : GsDrawCommand} {reason : GsFlushReason}
  {readPages writePages : GsVramPageMask}
  {policy : GsHybridBatchPolicy} {decision : GsBackendDecision}

/-! ## The invariant -/

/-- `accepted` are the nonempty commands accepted so far. -/
structure Inv (r : GsBackendRouter) (accelerated : Option IGsRasterBackend)
    (accepted : List GsDrawCommand) : Prop where
  backend : r.acceleratedBackend = accelerated
  ordered : r.Ordered
  bracketed : r.acceleratedBackend.isSome → Bracketed r.calls
  ledger : handed r.effects ++ r.pendingHybridCommands = accepted
  hybrid : r.pendingHybridCommands ≠ [] → r.mode = .Hybrid ∧ r.admittedHybridTail = none

theorem inv_new :
    Inv { acceleratedBackend := accelerated } accelerated [] where
  backend := rfl
  ordered := { present := nofun, idle := fun _ _ => rfl, exclusive := trivial }
  bracketed _ := bracketed_nil
  ledger := rfl
  hybrid h := absurd rfl h

/-- A hand-over while no command is deferred. -/
theorem Inv.made (h : r.Inv accelerated accepted) (hempty : r.pendingHybridCommands = [])
    (hmade : r.Made commands r') (hordered : r'.Ordered)
    (hempty' : r'.pendingHybridCommands = []) :
    r'.Inv accelerated (accepted ++ commands) where
  backend := hmade.backend.trans h.backend
  ordered := hordered
  bracketed hsome := by
    rw [hmade.backend] at hsome
    exact hmade.bracketed hsome (h.bracketed hsome)
  ledger := by
    rw [hempty', List.append_nil, hmade.handed, ← h.ledger, hempty, List.append_nil]
  hybrid hne := absurd hempty' hne

/-- Calls that hand nothing over. -/
theorem Inv.quiet (h : r.Inv accelerated accepted) (hquiet : r.Quiet r') (hordered : r'.Ordered) :
    r'.Inv accelerated accepted where
  backend := hquiet.backend.trans h.backend
  ordered := hordered
  bracketed hsome := by
    rw [hquiet.backend] at hsome
    exact hquiet.bracketed hsome (h.bracketed hsome)
  ledger := by rw [hquiet.pending, hquiet.handed, List.append_nil, h.ledger]
  hybrid hne := by
    rw [hquiet.pending] at hne
    rw [hquiet.mode, hquiet.tail]
    exact h.hybrid hne

/-- The deferred run is handed over. -/
theorem Inv.resolved (h : r.Inv accelerated accepted) (hmade : r.Made r.pendingHybridCommands s)
    (hordered : s.Ordered) (hempty : s.pendingHybridCommands = []) :
    s.Inv accelerated accepted where
  backend := hmade.backend.trans h.backend
  ordered := hordered
  bracketed hsome := by
    rw [hmade.backend] at hsome
    exact hmade.bracketed hsome (h.bracketed hsome)
  ledger := by rw [hempty, List.append_nil, hmade.handed, h.ledger]
  hybrid hne := absurd hempty hne

/-- The states differ at most in what they keep of the deferred and the admitted run. -/
structure SameCalls (r r' : GsBackendRouter) : Prop where
  backend : r'.acceleratedBackend = r.acceleratedBackend
  mode : r'.mode = r.mode
  active : r'.activeBackend = r.activeBackend
  calls : r'.calls = r.calls

theorem SameCalls.effects (h : r.SameCalls r') : r'.effects = r.effects := by
  unfold GsBackendRouter.effects
  rw [h.backend, h.calls]

theorem Ordered.sameCalls (h : r.Ordered) (hsame : r.SameCalls r') : r'.Ordered where
  present := by
    rw [hsame.active, hsame.backend]
    exact h.present
  idle := by
    rw [hsame.active, hsame.effects]
    exact h.idle
  exclusive := by
    rw [hsame.effects]
    exact h.exclusive

theorem Made.sameCalls (h : r.Made commands s) (hsame : s.SameCalls r') : r.Made commands r' where
  backend := hsame.backend.trans h.backend
  mode := hsame.mode.trans h.mode
  later := by
    rw [hsame.calls]
    exact h.later
  handed := by rw [hsame.effects, h.handed]
  bracketed := by
    rw [hsame.calls]
    exact h.bracketed

theorem Inv.resetTail (h : r.Inv accelerated accepted) :
    r.resetTail.Inv accelerated accepted where
  backend := h.backend
  ordered := h.ordered.sameCalls ⟨rfl, rfl, rfl, rfl⟩
  bracketed := h.bracketed
  ledger := h.ledger
  hybrid hne := ⟨(h.hybrid hne).1, rfl⟩

/-! ## The deferred run -/

/-- The deferred run goes to the accelerated backend, or to the software rasterizer. -/
theorem resolvePendingHybrid_ok (h : r.Inv accelerated accepted) (accelerate : Bool)
    (hsome : accelerate = true → r.acceleratedBackend.isSome) :
    ∃ s, r.resolvePendingHybrid accelerate = .ok s ∧ s.Inv accelerated accepted ∧
      s.pendingHybridCommands = [] ∧ r.Made r.pendingHybridCommands s ∧
      (accelerate = false → r.admittedHybridTail = none → s.admittedHybridTail = none) := by
  unfold resolvePendingHybrid
  split
  next hempty =>
    rw [hempty]
    exact ⟨r, rfl, h, hempty, quiet_refl.toMade, fun _ htail => htail⟩
  next hne =>
    cases accelerate with
    | true =>
      have hpresent : ¬ r.acceleratedBackend.isNone = true := by
        rw [← Option.not_isSome, hsome rfl]
        exact Bool.false_ne_true
      have hordered : (r.submitAccelerated r.pendingHybridCommands).Ordered :=
        submitAccelerated_ordered h.ordered (hsome rfl)
      rw [if_pos rfl, if_neg hpresent]
      refine ⟨_, rfl, ?_, rfl, submitAccelerated_handsOver.toMade.sameCalls ⟨rfl, rfl, rfl, rfl⟩,
        nofun⟩
      exact h.resolved (submitAccelerated_handsOver.toMade.sameCalls ⟨rfl, rfl, rfl, rfl⟩)
        (hordered.sameCalls ⟨rfl, rfl, rfl, rfl⟩) rfl
    | false =>
      have hmade : r.Made _ _ :=
        (submitSoftware_handsOver (covers_unionPages r.pendingHybridCommands)).toMade
      rw [if_neg Bool.false_ne_true]
      refine ⟨_, rfl, ?_, rfl, hmade.sameCalls ⟨rfl, rfl, rfl, rfl⟩, fun _ _ => rfl⟩
      exact h.resolved (hmade.sameCalls ⟨rfl, rfl, rfl, rfl⟩)
        ((submitSoftware_ordered h.ordered).sameCalls ⟨rfl, rfl, rfl, rfl⟩) rfl

/-! ## Submission -/

theorem classify_present (h : (r.classify command).supported = true) :
    r.acceleratedBackend.isSome := by
  unfold classify at h
  split at h
  next accelerated hsome => rw [hsome]; rfl
  next => exact absurd h Bool.false_ne_true

/-- Commands are deferred in the Hybrid mode only. -/
theorem hybridPolicy_deferred (h : (r.hybridPolicy command).deferred = true) :
    r.mode = .Hybrid ∧ r.acceleratedBackend.isSome := by
  unfold hybridPolicy at h
  split at h
  next hmode =>
    rw [Bool.and_eq_true, decide_eq_true_eq] at hmode
    exact ⟨hmode.1, classify_present hmode.2⟩
  next => exact absurd h (by decide)

/-- What a submission leaves: the command is accepted as the result says, and everything the router
did came after the state `s`. -/
def Submits (s : GsBackendRouter) (accelerated : Option IGsRasterBackend)
    (accepted : List GsDrawCommand) (command : GsDrawCommand)
    (outcome : Except String (GsSubmissionResult × GsBackendRouter)) : Prop :=
  ∃ result r', outcome = .ok (result, r') ∧ s.calls <:+ r'.calls ∧
    r'.Inv accelerated (accepted ++ if result.submitted then [command] else [])

theorem deferCommand_spec :
    r.SameCalls (r.deferCommand command policy) ∧
      (r.deferCommand command policy).pendingHybridCommands =
        r.pendingHybridCommands ++ [command] ∧
      (r.deferCommand command policy).admittedHybridTail = r.admittedHybridTail := by
  unfold deferCommand
  dsimp only
  split <;> exact ⟨⟨rfl, rfl, rfl, rfl⟩, rfl, rfl⟩

theorem Inv.deferCommand (h : r.Inv accelerated accepted) (htail : r.admittedHybridTail = none)
    (hmode : r.mode = .Hybrid) :
    (r.deferCommand command policy).Inv accelerated (accepted ++ [command]) := by
  obtain ⟨hsame, hpending, htail'⟩ := @deferCommand_spec r command policy
  exact {
    backend := hsame.backend.trans h.backend
    ordered := h.ordered.sameCalls hsame
    bracketed := by
      rw [hsame.backend, hsame.calls]
      exact h.bracketed
    ledger := by rw [hpending, hsame.effects, ← List.append_assoc, h.ledger]
    hybrid := fun _ => by
      rw [hsame.mode, htail']
      exact ⟨hmode, htail⟩ }

theorem submitDeferred_submits (h : r.Inv accelerated accepted)
    (htail : r.admittedHybridTail = none) (hmode : r.mode = .Hybrid)
    (hsome : r.acceleratedBackend.isSome) :
    r.Submits accelerated accepted command (r.submitDeferred command policy decision) := by
  obtain ⟨hsame, -, -⟩ := @deferCommand_spec r command policy
  have hdeferred : (r.deferCommand command policy).Inv accelerated (accepted ++ [command]) :=
    h.deferCommand htail hmode
  have hresolve := fun accelerate => resolvePendingHybrid_ok hdeferred accelerate fun _ => by
    rwa [hsame.backend]
  have hcalls : ∀ {s}, (r.deferCommand command policy).calls <:+ s → r.calls <:+ s := by
    rw [hsame.calls]
    exact id
  unfold submitDeferred
  dsimp only
  split
  · obtain ⟨s, heq, hs, -, hmade, -⟩ := hresolve true
    rw [heq]
    exact ⟨_, s, rfl, hcalls hmade.later, hs⟩
  · split
    · obtain ⟨s, heq, hs, -, hmade, -⟩ := hresolve false
      rw [heq]
      exact ⟨_, s, rfl, hcalls hmade.later, hs⟩
    · exact ⟨_, _, rfl, hcalls (List.suffix_refl _), hdeferred⟩

theorem submitRouted_submits (h : r.Inv accelerated accepted)
    (hempty : r.pendingHybridCommands = [])
    (hdecision : decision.supported = true → r.acceleratedBackend.isSome) :
    r.Submits accelerated accepted command (.ok (r.submitRouted command decision)) := by
  unfold submitRouted
  split
  next hsupported =>
    have hover : r.HandsOver [command] _ := submitAccelerated_handsOver
    exact ⟨_, _, rfl, hover.later, h.made hempty hover.toMade
      (submitAccelerated_ordered h.ordered (hdecision hsupported)) (hover.pending.trans hempty)⟩
  next =>
    split
    · exact ⟨_, _, rfl, List.suffix_refl _, by simpa using h⟩
    · have hover := submitSoftware_handsOver (r := r) (covers_single command)
      exact ⟨_, _, rfl, hover.later, h.made hempty hover.toMade
        (submitSoftware_ordered h.ordered) (hover.pending.trans hempty)⟩

/-- The deferred run was handed over before anything else was done. -/
def HandedFirst (r : GsBackendRouter) (accepted : List GsDrawCommand) (r' : GsBackendRouter) :
    Prop :=
  ∃ s, r.resolvePendingHybrid false = .ok s ∧ s.pendingHybridCommands = [] ∧
    handed s.effects = accepted ∧ s.calls <:+ r'.calls

theorem handedFirst (hs : r.resolvePendingHybrid false = .ok s)
    (hinv : s.Inv accelerated accepted) (hempty : s.pendingHybridCommands = [])
    (hlater : s.calls <:+ r'.calls) :
    r.HandedFirst accepted r' := by
  refine ⟨s, hs, hempty, ?_, hlater⟩
  rw [← hinv.ledger, hempty, List.append_nil]

theorem compatible_deferred {runPolicy : GsHybridBatchPolicy} {last : GsDrawCommand}
    (h : r.compatible policy runPolicy last command = true) :
    policy.deferred = true ∧ r.acceleratedBackend.isSome := by
  unfold compatible at h
  simp only [Bool.and_eq_true] at h
  exact ⟨h.1.1.1, Option.isSome_of_any h.2⟩

theorem leaveRun_spec (h : r.Inv accelerated accepted) (htail : r.admittedHybridTail = none) :
    ∃ s, r.leaveRun command policy = .ok s ∧ s.Inv accelerated accepted ∧
      s.admittedHybridTail = none ∧ s.mode = r.mode ∧ s.acceleratedBackend = r.acceleratedBackend ∧
      r.calls <:+ s.calls ∧
      (policy.deferred = false → s.pendingHybridCommands = []) ∧
      ∀ last, r.pendingHybridCommands.getLast? = some last →
        r.compatible policy r.pendingHybridPolicy last command = false →
        r.resolvePendingHybrid false = .ok s ∧ s.pendingHybridCommands = [] := by
  unfold leaveRun
  split
  next last hlast =>
    split
    next hcompatible =>
      refine ⟨r, rfl, h, htail, rfl, rfl, List.suffix_refl _, fun hnot => ?_, ?_⟩
      · exact absurd (compatible_deferred hcompatible).1 (Bool.eq_false_iff.1 hnot)
      · intro last' hlast' hnot
        rw [← Option.some.inj (hlast.symm.trans hlast'), hcompatible] at hnot
        exact absurd hnot nofun
    next =>
      obtain ⟨s, heq, hs, hempty, hmade, htail'⟩ := resolvePendingHybrid_ok h false nofun
      exact ⟨s, heq, hs, htail' rfl htail, hmade.mode, hmade.backend, hmade.later,
        fun _ => hempty, fun _ _ _ => ⟨heq, hempty⟩⟩
  next hlast =>
    have hempty : r.pendingHybridCommands = [] := List.getLast?_eq_none_iff.1 hlast
    refine ⟨r, rfl, h, htail, rfl, rfl, List.suffix_refl _, fun _ => hempty, ?_⟩
    intro last hlast'
    rw [hlast] at hlast'
    exact absurd hlast' nofun

/-- The submission of a command that joins no admitted run. -/
theorem submitUnadmitted_submits (h : r.Inv accelerated accepted)
    (htail : r.admittedHybridTail = none)
    (hpolicy : policy.deferred = true → r.mode = .Hybrid ∧ r.acceleratedBackend.isSome)
    (hdecision : decision.supported = true → r.acceleratedBackend.isSome) :
    ∃ s, s.Submits accelerated accepted command (r.submitUnadmitted command policy decision) ∧
      r.calls <:+ s.calls ∧
      ∀ last, r.pendingHybridCommands.getLast? = some last →
        r.compatible policy r.pendingHybridPolicy last command = false →
        r.resolvePendingHybrid false = .ok s ∧ s.Inv accelerated accepted ∧
          s.pendingHybridCommands = [] := by
  obtain ⟨s, heq, hs, htail', hmode, hbackend, hlater, hempty, hleft⟩ :=
    @leaveRun_spec r accelerated accepted command policy h htail
  refine ⟨s, ?_, hlater, fun last hlast hnot => ?_⟩
  · have hunadmitted : r.submitUnadmitted command policy decision =
        if policy.deferred then s.submitDeferred command policy decision
        else .ok (s.submitRouted command decision) := by
      unfold submitUnadmitted
      rw [heq]
      rfl
    rw [hunadmitted]
    split
    next hdeferred =>
      obtain ⟨hhybrid, hsome⟩ := hpolicy hdeferred
      exact submitDeferred_submits hs htail' (hmode.trans hhybrid) (by rwa [hbackend])
    next hdeferred =>
      refine submitRouted_submits hs (hempty (Bool.eq_false_iff.2 hdeferred)) ?_
      rw [hbackend]
      exact hdecision
  · obtain ⟨hresolve, hnone⟩ := hleft last hlast hnot
    exact ⟨hresolve, hs, hnone⟩

/-- Without a deferred run there is none to be left. -/
theorem joinsRun_of_empty (h : r.pendingHybridCommands = []) : r.joinsRun command = true := by
  unfold joinsRun
  rw [h]
  rfl

theorem submit_accelerated_mode (h : r.Inv accelerated accepted)
    (hexactly : command.exactlyEmpty = false)
    (hmode : r.mode ≠ .Software) :
    ∃ result r', r.submit command = .ok (result, r') ∧ r.calls <:+ r'.calls ∧
      r'.Inv accelerated (accepted ++ if result.submitted then [command] else []) ∧
      (r.joinsRun command = false → r.HandedFirst accepted r') := by
  unfold submit
  rw [if_neg (Bool.eq_false_iff.1 hexactly), if_neg hmode]
  dsimp only
  split
  next tail htail =>
    have hempty : r.pendingHybridCommands = [] := by
      by_contra hne
      rw [(h.hybrid hne).2] at htail
      exact absurd htail nofun
    split
    next hcompatible =>
      have hover : r.HandsOver [command] _ := submitAccelerated_handsOver
      have hordered : (r.submitAccelerated [command]).Ordered :=
        submitAccelerated_ordered h.ordered (compatible_deferred hcompatible).2
      refine ⟨_, _, rfl, hover.later, ?_, ?_⟩
      · exact h.made hempty (hover.toMade.sameCalls ⟨rfl, rfl, rfl, rfl⟩)
          (hordered.sameCalls ⟨rfl, rfl, rfl, rfl⟩) (hover.pending.trans hempty)
      · exact fun hnot => absurd (joinsRun_of_empty hempty) (Bool.eq_false_iff.1 hnot)
    next =>
      obtain ⟨s, ⟨result, r', heq, hlater, hinv⟩, hbefore, -⟩ :=
        @submitUnadmitted_submits r.resetTail accelerated accepted command (r.hybridPolicy command)
          (r.classify command) h.resetTail rfl hybridPolicy_deferred classify_present
      exact ⟨result, r', heq, hbefore.trans hlater, hinv,
        fun hnot => absurd (joinsRun_of_empty hempty) (Bool.eq_false_iff.1 hnot)⟩
  next htail =>
    obtain ⟨s, ⟨result, r', heq, hlater, hinv⟩, hbefore, hleft⟩ :=
      @submitUnadmitted_submits r accelerated accepted command (r.hybridPolicy command)
        (r.classify command) h htail hybridPolicy_deferred classify_present
    refine ⟨result, r', heq, hbefore.trans hlater, hinv, fun hnot => ?_⟩
    cases hlast : r.pendingHybridCommands.getLast? with
    | none =>
      have hempty : r.pendingHybridCommands = [] := List.getLast?_eq_none_iff.1 hlast
      exact absurd (joinsRun_of_empty hempty) (Bool.eq_false_iff.1 hnot)
    | some last =>
      unfold joinsRun at hnot
      rw [hlast] at hnot
      obtain ⟨hresolve, hs, hempty⟩ := hleft last hlast hnot
      exact handedFirst hresolve hs hempty hlater

/-- **A submission hands the command over, defers it or rejects it, after any run it leaves.** -/
theorem submit_spec (h : r.Inv accelerated accepted) (command : GsDrawCommand) :
    ∃ result r', r.submit command = .ok (result, r') ∧ r.calls <:+ r'.calls ∧
      r'.Inv accelerated
        (accepted ++ if result.submitted && !command.exactlyEmpty then [command] else []) ∧
      (command.exactlyEmpty = false → r.joinsRun command = false →
        r.HandedFirst accepted r') := by
  cases hexactly : command.exactlyEmpty with
  | true =>
    have hquiet : r.Quiet (r.call .recordNoop) := quiet_call nofun
    unfold submit
    rw [if_pos hexactly]
    refine ⟨_, _, rfl, hquiet.later, ?_, nofun⟩
    simpa using h.quiet hquiet (h.ordered.quiet hquiet rfl)
  | false =>
    simp only [Bool.not_false, Bool.and_true, forall_const]
    by_cases hmode : r.mode = .Software
    · have hempty : r.pendingHybridCommands = [] := by
        by_contra hne
        rw [(h.hybrid hne).1] at hmode
        exact absurd hmode nofun
      have hover : r.HandsOver [command] _ := submitSoftware_handsOver (covers_single command)
      unfold submit
      rw [if_neg (Bool.eq_false_iff.1 hexactly), if_pos hmode, submitSoftwareMode_eq]
      exact ⟨_, _, rfl, hover.later, h.made hempty hover.toMade
        (submitSoftware_ordered h.ordered) (hover.pending.trans hempty),
        fun hnot => absurd (joinsRun_of_empty hempty) (Bool.eq_false_iff.1 hnot)⟩
    · exact submit_accelerated_mode h hexactly hmode

/-! ## Flushes and accesses of the CPU -/

theorem quiet_flushIf {p : Prop} [Decidable p] (backend : RasterBackend) (reason : GsFlushReason) :
    r.Quiet (if p then r.call (.flush backend reason) else r) := by
  split
  · exact quiet_call nofun
  · exact quiet_refl

theorem queue_flushIf {p : Prop} [Decidable p] (hp : p) (backend : RasterBackend)
    (reason : GsFlushReason) :
    queue backend (if p then r.call (.flush backend reason) else r).effects = [] := by
  rw [if_pos hp]
  exact HandOver.queue_execute_self

@[simp] theorem flushIf_activeBackend {p : Prop} [Decidable p] (backend : RasterBackend)
    (reason : GsFlushReason) :
    (if p then r.call (.flush backend reason) else r).activeBackend = r.activeBackend := by
  split <;> rfl

/-- A flush hands nothing over and leaves no backend with work. -/
theorem flushResolved_spec (h : r.Ordered) (reason : GsFlushReason) :
    r.Quiet (r.flushResolved reason) ∧
      ∀ backend, queue backend (r.flushResolved reason).effects = [] := by
  unfold flushResolved
  split
  next =>
    -- `Shutdown` does not synchronize the memory.
    have hsoftware := @quiet_flushIf r (r.activeBackend = some .Software) _ .Software reason
    have haccelerated := @quiet_flushIf
      (if r.activeBackend = some .Software then r.call (.flush .Software reason) else r)
      ((if r.activeBackend = some .Software then r.call (.flush .Software reason)
        else r).acceleratedBackend.isSome = true) _ .Accelerated reason
    have hquiet := hsoftware.trans haccelerated
    refine ⟨hquiet.trans (quiet_active _), fun backend => ?_⟩
    by_cases hactive : r.activeBackend = some backend
    · cases backend with
      | Software => exact haccelerated.idle _ (queue_flushIf hactive .Software reason)
      | Accelerated =>
        refine queue_flushIf ?_ .Accelerated reason
        rw [hsoftware.backend]
        exact h.present hactive
    · exact hquiet.idle backend (h.idle backend hactive)
  next =>
    dsimp only
    cases flushRequiresCanonicalCpuVram reason with
    | false =>
      have hquiet : r.Quiet (r.drainActive reason) := quiet_drainActive
      exact ⟨hquiet.trans (quiet_active _), drainActive_idle h⟩
    | true =>
      simp only [Bool.true_and, decide_eq_true_eq, if_true]
      set s := if r.activeBackend = some .Software then r.call (.flush .Software reason) else r
        with hs
      have hsoftware : r.Quiet s := quiet_flushIf .Software reason
      have hsync : s.Quiet (s.synchronizePages .setAll reason) := quiet_synchronizePages
      have haccelerated := @quiet_flushIf (s.synchronizePages .setAll reason)
        (((s.synchronizePages .setAll reason).activeBackend = some .Accelerated &&
          (s.synchronizePages .setAll reason).acceleratedBackend.isSome) = true) _ .Accelerated
        reason
      have hquiet := hsoftware.trans (hsync.trans haccelerated)
      refine ⟨hquiet.trans (quiet_active _), fun backend => ?_⟩
      by_cases hactive : r.activeBackend = some backend
      · cases backend with
        | Software =>
          exact (hsync.trans haccelerated).idle _ (queue_flushIf hactive .Software reason)
        | Accelerated =>
          refine queue_flushIf ?_ .Accelerated reason
          rw [synchronizePages_activeBackend, hs, flushIf_activeBackend, hsync.backend,
            hsoftware.backend, hactive, h.present hactive]
          rfl
      · exact hquiet.idle backend (h.idle backend hactive)

/-- The state after work is drained, whichever backend is then active. -/
theorem Inv.idleQuiet (h : r.Inv accelerated accepted) (hquiet : r.Quiet r')
    (hidle : ∀ backend, queue backend r'.effects = []) (hactive : r'.activeBackend = none) :
    r'.Inv accelerated accepted :=
  h.quiet hquiet
    { present := by
        rw [hactive]
        exact nofun
      idle := fun backend _ => hidle backend
      exclusive := hquiet.exclusive h.ordered.exclusive }

theorem flushResolved_activeBackend (reason : GsFlushReason) :
    (r.flushResolved reason).activeBackend = none := by
  unfold flushResolved
  split <;> rfl

/-- **After a flush every accepted command has been executed.** -/
theorem flush_spec (h : r.Inv accelerated accepted) (reason : GsFlushReason) :
    ∃ r', r.flush reason = .ok r' ∧ r'.Inv accelerated accepted ∧ r.HandedFirst accepted r' ∧
      r'.pendingHybridCommands = [] ∧ r'.mode = r.mode ∧
      ∀ backend, queue backend r'.effects = [] := by
  obtain ⟨s, heq, hs, hempty, hmade, -⟩ := resolvePendingHybrid_ok h false nofun
  obtain ⟨hquiet, hidle⟩ := flushResolved_spec hs.resetTail.ordered reason
  refine ⟨s.resetTail.flushResolved reason, ?_, ?_, ?_, hquiet.pending.trans hempty,
    hquiet.mode.trans hmade.mode, hidle⟩
  · unfold flush
    rw [heq]
    rfl
  · exact hs.resetTail.idleQuiet hquiet hidle (flushResolved_activeBackend reason)
  · exact handedFirst heq hs hempty hquiet.later

theorem flushForCpuReadback_spec (h : r.Inv accelerated accepted) (readPages : GsVramPageMask)
    (reason : GsFlushReason) :
    ∃ r', r.flushForCpuReadback readPages reason = .ok r' ∧ r'.Inv accelerated accepted ∧
      r.HandedFirst accepted r' ∧ ∀ backend, queue backend r'.effects = [] := by
  obtain ⟨s, heq, hs, hempty, -, -⟩ := resolvePendingHybrid_ok h false nofun
  have hdrain : s.resetTail.Quiet (s.resetTail.drainActive reason) := quiet_drainActive
  have hsync : (s.resetTail.drainActive reason).Quiet
      ((s.resetTail.drainActive reason).synchronizePages readPages reason) := quiet_synchronizePages
  have hquiet : s.resetTail.Quiet (s.resetTail.readbackResolved readPages reason) :=
    (hdrain.trans hsync).trans (quiet_active none)
  have hidle : ∀ backend,
      queue backend (s.resetTail.readbackResolved readPages reason).effects = [] := fun backend =>
    hsync.idle backend (drainActive_idle hs.resetTail.ordered backend)
  refine ⟨_, ?_, hs.resetTail.idleQuiet hquiet hidle rfl,
    handedFirst heq hs hempty hquiet.later, hidle⟩
  unfold flushForCpuReadback
  rw [heq]
  rfl

/-- The access of the CPU leaves the accelerated backend active if it still holds work. -/
theorem beginResolved_spec (h : r.Ordered) :
    r.Quiet (r.beginResolved readPages writePages reason) ∧
      (r.beginResolved readPages writePages reason).Ordered := by
  set s := if r.activeBackend = some .Software then r.drainActive reason else r with hs
  set t := s.synchronizeCpuVram readPages writePages reason with ht
  have hsoftware : r.Quiet s := by
    rw [hs]
    split
    · exact quiet_drainActive
    · exact quiet_refl
  have hsync : s.Quiet t := quiet_synchronizeCpuVram
  have hquiet : r.Quiet t := hsoftware.trans hsync
  have hdrained : queue .Software t.effects = [] := by
    by_cases hactive : r.activeBackend = some .Software
    · rw [if_pos hactive] at hs
      rw [hs] at hsync
      exact hsync.idle _ (drainActive_idle h .Software)
    · exact hquiet.idle _ (h.idle .Software hactive)
  have hempty : t.acceleratedBackend.isSome = false ∨ t.pendingCommandCount = 0 →
      queue .Accelerated t.effects = [] := by
    rintro (hnone | hcount)
    · refine hquiet.idle _ (h.idle .Accelerated fun hactive => ?_)
      have hsome : t.acceleratedBackend.isSome := by
        rw [hquiet.backend]
        exact h.present hactive
      exact Bool.eq_false_iff.1 hnone hsome
    · exact List.length_eq_zero_iff.1 hcount
  have hactive : (r.beginResolved readPages writePages reason).activeBackend =
      if t.acceleratedBackend.isSome && t.pendingCommandCount ≠ 0 then some .Accelerated
      else none := rfl
  refine ⟨hquiet.trans (quiet_active _), ?_, ?_, hquiet.exclusive h.exclusive⟩
  · rw [hactive]
    split
    next hholds =>
      rw [Bool.and_eq_true] at hholds
      exact fun _ => hholds.1
    next => exact nofun
  · intro backend
    cases backend with
    | Software => exact fun _ => hdrained
    | Accelerated =>
      rw [hactive]
      split
      next => exact fun hne => absurd rfl hne
      next hholds =>
        refine fun _ => hempty ?_
        rw [Bool.and_eq_true, decide_eq_true_eq, not_and_or, not_not, Bool.not_eq_true] at hholds
        exact hholds

theorem beginCpuVramAccess_spec (h : r.Inv accelerated accepted)
    (readPages writePages : GsVramPageMask) (reason : GsFlushReason) :
    ∃ r', r.beginCpuVramAccess readPages writePages reason = .ok r' ∧ r'.Inv accelerated accepted ∧
      r.HandedFirst accepted r' := by
  obtain ⟨s, heq, hs, hempty, -, -⟩ := resolvePendingHybrid_ok h false nofun
  obtain ⟨hquiet, hordered⟩ :=
    @beginResolved_spec s.resetTail reason readPages writePages hs.resetTail.ordered
  refine ⟨_, ?_, hs.resetTail.quiet hquiet hordered, handedFirst heq hs hempty hquiet.later⟩
  unfold beginCpuVramAccess
  rw [heq]
  rfl

theorem endCpuVramAccess_spec (h : r.Inv accelerated accepted) (writePages : GsVramPageMask) :
    (r.endCpuVramAccess writePages).Inv accelerated accepted :=
  have hquiet : r.Quiet (r.endCpuVramAccess writePages) := quiet_note writePages
  h.quiet hquiet (h.ordered.quiet hquiet noteCpuVramWrite_activeBackend)

/-- A change of the mode is preceded by a flush; the other calls of `setMode` change nothing. -/
theorem setMode_spec (h : r.Inv accelerated accepted) (mode : GsRendererMode) :
    ∃ done r', r.setMode mode = .ok (done, r') ∧ r'.Inv accelerated accepted ∧
      (r.endsRun (.setMode mode) = true → r.HandedFirst accepted r') := by
  unfold setMode endsRun
  split
  next hsame =>
    refine ⟨true, r, rfl, h, fun hends => ?_⟩
    rw [Bool.and_eq_true, decide_eq_true_eq] at hends
    exact absurd hsame hends.1
  next =>
    split
    next hrefused =>
      refine ⟨false, r, rfl, h, fun hends => ?_⟩
      rw [Bool.and_eq_true, decide_eq_true_eq] at hrefused
      rw [Bool.and_eq_true, Bool.or_eq_true, decide_eq_true_eq, decide_eq_true_eq] at hends
      rcases hends.2 with hsoftware | hsome
      · exact absurd hsoftware hrefused.1
      · rw [← Option.not_isSome, hsome] at hrefused
        exact absurd hrefused.2 nofun
    next =>
      obtain ⟨s, heq, hs, ⟨t, hresolve, hempty, hhanded, hlater⟩, hnone, -, hidle⟩ :=
        flush_spec h .BackendSwitch
      have hsync : s.Quiet (s.synchronizePages .setAll .BackendSwitch) := quiet_synchronizePages
      have hordered := hs.ordered.quiet hsync synchronizePages_activeBackend
      have hinv : (s.synchronizePages .setAll .BackendSwitch).Inv accelerated accepted :=
        hs.quiet hsync hordered
      rw [heq]
      refine ⟨true, _, rfl, ?_, fun _ => ⟨t, hresolve, hempty, hhanded, hlater.trans hsync.later⟩⟩
      exact {
        backend := hinv.backend
        ordered := { present := hordered.present, idle := hordered.idle,
                     exclusive := hordered.exclusive }
        bracketed := hinv.bracketed
        ledger := hinv.ledger
        hybrid := fun hne => absurd (hsync.pending.trans hnone) hne }

/-! ## Runs -/

/-- **One operation keeps the invariant**, and what ends the deferred run comes after it. -/
theorem step_spec (h : r.Inv accelerated accepted) (op : RouterOp) :
    ∃ more r', r.step op = .ok (more, r') ∧ r'.Inv accelerated (accepted ++ more) ∧
      (r.endsRun op = true → r.HandedFirst accepted r') := by
  cases op with
  | submit command =>
    obtain ⟨result, r', heq, -, hinv, hends⟩ := submit_spec h command
    refine ⟨_, r', by rw [step, heq]; rfl, hinv, fun hleaves => ?_⟩
    simp only [endsRun, Bool.and_eq_true, Bool.not_eq_true'] at hleaves
    exact hends hleaves.1 hleaves.2
  | submitNoop =>
    have hquiet : r.Quiet r.submitNoop.2 := quiet_call nofun
    refine ⟨[], _, rfl, ?_, nofun⟩
    rw [List.append_nil]
    exact h.quiet hquiet (h.ordered.quiet hquiet rfl)
  | flush reason =>
    obtain ⟨r', heq, hinv, hfirst, -⟩ := flush_spec h reason
    refine ⟨[], r', by rw [step, heq]; rfl, ?_, fun _ => hfirst⟩
    rwa [List.append_nil]
  | flushForCpuReadback readPages reason =>
    obtain ⟨r', heq, hinv, hfirst, -⟩ := flushForCpuReadback_spec h readPages reason
    refine ⟨[], r', by rw [step, heq]; rfl, ?_, fun _ => hfirst⟩
    rwa [List.append_nil]
  | beginCpuVramAccess readPages writePages reason =>
    obtain ⟨r', heq, hinv, hfirst⟩ := beginCpuVramAccess_spec h readPages writePages reason
    refine ⟨[], r', by rw [step, heq]; rfl, ?_, fun _ => hfirst⟩
    rwa [List.append_nil]
  | endCpuVramAccess writePages =>
    refine ⟨[], _, rfl, ?_, nofun⟩
    rw [List.append_nil]
    exact endCpuVramAccess_spec h writePages
  | setMode mode =>
    obtain ⟨done, r', heq, hinv, hends⟩ := setMode_spec h mode
    refine ⟨[], r', by rw [step, heq]; rfl, ?_, hends⟩
    rwa [List.append_nil]

theorem run_spec (h : r.Inv accelerated accepted) (ops : List RouterOp) :
    ∃ more r', r.run ops = .ok (more, r') ∧ r'.Inv accelerated (accepted ++ more) := by
  induction ops generalizing r accepted with
  | nil => exact ⟨[], r, rfl, by rwa [List.append_nil]⟩
  | cons op ops ih =>
    obtain ⟨first, s, hstep, hs, -⟩ := step_spec h op
    obtain ⟨rest, r', hrun, hinv⟩ := ih hs
    refine ⟨first ++ rest, r', ?_, by rwa [← List.append_assoc]⟩
    simp only [run, hstep, hrun, bind, Except.bind]
    rfl

/-! ## Program order -/

/-- A submission among the calls is a submission to the queues. -/
theorem effects_append (newer older : List BackendCall) :
    ∃ later, Ps2Recomp.effects accelerated (newer ++ older) =
      later ++ Ps2Recomp.effects accelerated older := by
  induction newer with
  | nil => exact ⟨[], rfl⟩
  | cons made newer ih =>
    obtain ⟨later, heq⟩ := ih
    rw [List.cons_append]
    cases made with
    | recordNoop => exact ⟨later, heq⟩
    | noteCpuVramWrite pages => exact ⟨later, heq⟩
    | submit backend commands => exact ⟨_ :: later, congrArg _ heq⟩
    | flush backend reason => exact ⟨_ :: later, congrArg _ heq⟩
    | prepareCpuVramAccess readPages writePages reason =>
      rw [Ps2Recomp.effects]
      split
      · exact ⟨_ :: later, congrArg _ heq⟩
      · exact ⟨later, heq⟩

/-- When a command was handed over the other backend held no work. -/
theorem submit_finds_idle (h : r.Inv accelerated accepted) {newer older : List BackendCall}
    {backend other : RasterBackend} (hcalls : r.calls = newer ++ .submit backend commands :: older)
    (hne : other ≠ backend) : queue other (Ps2Recomp.effects accelerated older) = [] := by
  obtain ⟨later, heq⟩ := @effects_append accelerated newer (.submit backend commands :: older)
  have hexclusive := h.ordered.exclusive
  unfold GsBackendRouter.effects at hexclusive
  rw [h.backend, hcalls, heq] at hexclusive
  exact HandOver.Exclusive.of_submit hexclusive hne

/-- **Draws stay in program order across the backends.** After any sequence of operations: the
commands handed over, with the deferred ones, are the accepted ones in their order; the other
backend was without work at each hand-over, so that what the backends have executed and what the
one with work still holds are the commands in the order they were handed over; the software
hand-overs are prepared and noted; and what ends the deferred run comes after its hand-over. -/
theorem router_keeps_program_order (accelerated : Option IGsRasterBackend) (ops : List RouterOp) :
    ∃ accepted r, run { acceleratedBackend := accelerated } ops = .ok (accepted, r) ∧
      r.acceleratedBackend = accelerated ∧
      handed r.effects ++ r.pendingHybridCommands = accepted ∧
      (∀ newer older backend commands, r.calls = newer ++ .submit backend commands :: older →
        ∀ other, other ≠ backend → queue other (Ps2Recomp.effects accelerated older) = []) ∧
      (∃ backend, (∀ other, other ≠ backend → queue other r.effects = []) ∧
        executed r.effects ++ queue backend r.effects = handed r.effects) ∧
      (accelerated.isSome → Bracketed r.calls) ∧
      ∀ op, r.endsRun op = true →
        ∃ more r', r.step op = .ok (more, r') ∧ r.HandedFirst accepted r' := by
  obtain ⟨accepted, r, hrun, hinv⟩ := run_spec (@inv_new accelerated) ops
  rw [List.nil_append] at hinv
  refine ⟨accepted, r, hrun, hinv.backend, hinv.ledger, ?_, hinv.ordered.exclusive.exists_active,
    ?_, fun op hends => ?_⟩
  · exact fun newer older backend commands hcalls other => submit_finds_idle hinv hcalls
  · rw [← hinv.backend]
    exact hinv.bracketed
  · obtain ⟨more, r', hstep, -, hfirst⟩ := step_spec hinv op
    exact ⟨more, r', hstep, hfirst hends⟩

end GsBackendRouter

end Ps2Recomp
