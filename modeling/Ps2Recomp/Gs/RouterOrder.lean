import Ps2Recomp.Gs.Router

/-!
# GS backend router: what the calls keep

`Ordered` is the invariant on the queues: only the active backend may hold work. The router changes
the active backend by draining it first (`transitionTo_ordered`), so that a hand-over never finds
the other queue filled (`submitSoftware_ordered`, `submitAccelerated_ordered`).

`Made r commands r'` says that the calls made between `r` and `r'` hand over `commands`, and that
the software hand-overs among them are bracketed by a preparation and a note of their pages
(`Bracketed`). `Quiet` is the case of calls that hand nothing over.
-/

namespace Ps2Recomp

open HandOver (queue handed executed Exclusive)

variable {calls older : List BackendCall} {commands : List GsDrawCommand}

/-! ## Bracketed hand-overs -/

/-- The call right before prepares all the pages that the commands read or write. -/
def Prepared (older : List BackendCall) (commands : List GsDrawCommand) : Prop :=
  ∀ command ∈ commands, ∀ page,
    (command.resources.readPages.test page = true ∨
      command.resources.writePages.test page = true) →
    ∃ readPages writePages reason earlier,
      older = .prepareCpuVramAccess readPages writePages reason :: earlier ∧
      (readPages.test page = true ∨ writePages.test page = true)

/-- The call right after marks all the pages that the commands write. -/
def Noted (newer : List BackendCall) (commands : List GsDrawCommand) : Prop :=
  ∃ pages later, newer = later ++ [.noteCpuVramWrite pages] ∧
    ∀ command ∈ commands, ∀ page,
      command.resources.writePages.test page = true → pages.test page = true

/-- Every software hand-over is prepared and noted. -/
def Bracketed (calls : List BackendCall) : Prop :=
  ∀ newer older commands, calls = newer ++ .submit .Software commands :: older →
    Prepared older commands ∧ Noted newer commands

theorem bracketed_nil : Bracketed [] := fun newer _ _ h =>
  absurd h (by simp)

theorem Noted.cons {newer : List BackendCall} (h : Noted newer commands) (made : BackendCall) :
    Noted (made :: newer) commands := by
  obtain ⟨pages, later, rfl, hpages⟩ := h
  exact ⟨pages, made :: later, rfl, hpages⟩

theorem Bracketed.cons {made : BackendCall} (h : Bracketed calls)
    (hmade : ∀ commands, made ≠ .submit .Software commands) : Bracketed (made :: calls) := by
  intro newer older commands heq
  cases newer with
  | nil =>
    rw [List.nil_append, List.cons.injEq] at heq
    exact absurd heq.1 (hmade commands)
  | cons first newer =>
    rw [List.cons_append, List.cons.injEq] at heq
    obtain ⟨hprepared, hnoted⟩ := h newer older commands heq.2
    exact ⟨hprepared, hnoted.cons first⟩

theorem Bracketed.handOver {pages : GsVramPageMask} (h : Bracketed older)
    (hprepared : Prepared older commands)
    (hpages : ∀ command ∈ commands, ∀ page,
      command.resources.writePages.test page = true → pages.test page = true) :
    Bracketed (.noteCpuVramWrite pages :: .submit .Software commands :: older) := by
  intro newer earlier others heq
  cases newer with
  | nil => exact absurd heq (by simp)
  | cons note newer =>
    rw [List.cons_append, List.cons.injEq] at heq
    obtain ⟨rfl, heq⟩ := heq
    cases newer with
    | nil =>
      obtain ⟨hcommands, rfl⟩ := List.cons.inj heq
      rw [BackendCall.submit.injEq] at hcommands
      rw [← hcommands.2]
      exact ⟨hprepared, pages, [], rfl, hpages⟩
    | cons first newer =>
      rw [List.cons_append, List.cons.injEq] at heq
      obtain ⟨hothers, hnoted⟩ := h newer earlier others heq.2
      exact ⟨hothers, (hnoted.cons first).cons _⟩

/-! ## The queues -/

namespace GsBackendRouter

theorem test_unionPages (pages : GsDrawCommand → GsVramPageMask) {page : Nat} :
    (unionPages pages commands).test page = true ↔
      ∃ command ∈ commands, (pages command).test page = true := by
  rw [unionPages, GsVramPageMask.test_foldl (fun command => (pages command).test page = true)
    (fun _ _ => GsVramPageMask.test_unionWith), GsVramPageMask.test_empty]
  simp only [Bool.false_eq_true, false_or]

variable {r r' r'' : GsBackendRouter} {backend : RasterBackend} {reason : GsFlushReason}
  {readPages writePages : GsVramPageMask} {others : List GsDrawCommand}

/-- Only the active backend may hold work, and every hand-over found the other one empty. -/
structure Ordered (r : GsBackendRouter) : Prop where
  present : r.activeBackend = some .Accelerated → r.acceleratedBackend.isSome
  idle : ∀ backend, r.activeBackend ≠ some backend → queue backend r.effects = []
  exclusive : Exclusive r.effects

/-- The calls from `r` to `r'` hand over `commands`. -/
structure Made (r : GsBackendRouter) (commands : List GsDrawCommand) (r' : GsBackendRouter) :
    Prop where
  backend : r'.acceleratedBackend = r.acceleratedBackend
  mode : r'.mode = r.mode
  later : r.calls <:+ r'.calls
  handed : handed r'.effects = handed r.effects ++ commands
  bracketed : r.acceleratedBackend.isSome → Bracketed r.calls → Bracketed r'.calls

/-- ... and leave the deferred and the admitted run as they are. -/
structure HandsOver (r : GsBackendRouter) (commands : List GsDrawCommand) (r' : GsBackendRouter) :
    Prop extends Made r commands r' where
  pending : r'.pendingHybridCommands = r.pendingHybridCommands
  tail : r'.admittedHybridTail = r.admittedHybridTail

/-- The calls from `r` to `r'` hand nothing over. -/
structure Quiet (r r' : GsBackendRouter) : Prop extends HandsOver r [] r' where
  idle : ∀ backend, queue backend r.effects = [] → queue backend r'.effects = []
  exclusive : Exclusive r.effects → Exclusive r'.effects

theorem Made.trans (h : r.Made commands r') (h' : r'.Made others r'') :
    r.Made (commands ++ others) r'' where
  backend := h'.backend.trans h.backend
  mode := h'.mode.trans h.mode
  later := h.later.trans h'.later
  handed := by rw [h'.handed, h.handed, List.append_assoc]
  bracketed hsome hcalls := h'.bracketed (by rw [h.backend, hsome]) (h.bracketed hsome hcalls)

theorem HandsOver.trans (h : r.HandsOver commands r') (h' : r'.HandsOver others r'') :
    r.HandsOver (commands ++ others) r'' where
  toMade := h.toMade.trans h'.toMade
  pending := h'.pending.trans h.pending
  tail := h'.tail.trans h.tail

theorem Quiet.trans (h : r.Quiet r') (h' : r'.Quiet r'') : r.Quiet r'' where
  toHandsOver := h.toHandsOver.trans h'.toHandsOver
  idle backend hidle := h'.idle backend (h.idle backend hidle)
  exclusive hexclusive := h'.exclusive (h.exclusive hexclusive)

theorem quiet_refl : r.Quiet r where
  backend := rfl
  mode := rfl
  later := List.suffix_refl _
  handed := (List.append_nil _).symm
  bracketed _ h := h
  pending := rfl
  tail := rfl
  idle _ h := h
  exclusive h := h

/-- Making a backend active is no call. -/
theorem quiet_active (active : Option RasterBackend) :
    r.Quiet { r with activeBackend := active } :=
  { @quiet_refl r with }

theorem Ordered.quiet (h : r.Ordered) (hquiet : r.Quiet r')
    (hactive : r'.activeBackend = r.activeBackend) : r'.Ordered where
  present := by
    rw [hactive, hquiet.backend]
    exact h.present
  idle backend := by
    rw [hactive]
    exact fun hne => hquiet.idle backend (h.idle backend hne)
  exclusive := hquiet.exclusive h.exclusive

/-- Once no backend holds work any of them may be active. -/
theorem Ordered.withActive (h : r.Ordered) (hidle : ∀ backend, queue backend r.effects = [])
    (active : Option RasterBackend)
    (hpresent : active = some .Accelerated → r.acceleratedBackend.isSome) :
    { r with activeBackend := active }.Ordered where
  present := hpresent
  idle backend _ := hidle backend
  exclusive := h.exclusive

/-! ## Calls that hand nothing over -/

/-- A call that is no submission executes one queue or nothing. -/
theorem effects_call {made : BackendCall}
    (hmade : ∀ backend commands, made ≠ .submit backend commands) :
    (r.call made).effects = r.effects ∨
      ∃ backend, (r.call made).effects = .execute backend :: r.effects := by
  cases made with
  | submit backend commands => exact absurd rfl (hmade backend commands)
  | flush backend reason => exact Or.inr ⟨backend, rfl⟩
  | recordNoop => exact Or.inl rfl
  | noteCpuVramWrite pages => exact Or.inl rfl
  | prepareCpuVramAccess readPages writePages reason =>
    unfold effects call
    dsimp only
    rw [Ps2Recomp.effects]
    split
    · exact Or.inr ⟨.Accelerated, rfl⟩
    · exact Or.inl rfl

theorem quiet_call {made : BackendCall}
    (hmade : ∀ backend commands, made ≠ .submit backend commands) :
    r.Quiet (r.call made) where
  backend := rfl
  mode := rfl
  later := List.suffix_cons _ _
  handed := by
    rw [List.append_nil]
    rcases @effects_call r _ hmade with h | ⟨backend, h⟩ <;> rw [h]
    rfl
  bracketed _ h := h.cons fun commands => hmade .Software commands
  pending := rfl
  tail := rfl
  idle _ hidle := by
    rcases @effects_call r _ hmade with h | ⟨backend, h⟩ <;> rw [h]
    · exact hidle
    · exact HandOver.queue_execute_eq_nil hidle
  exclusive hexclusive := by
    rcases @effects_call r _ hmade with h | ⟨backend, h⟩ <;> rw [h] <;> exact hexclusive

theorem quiet_note (pages : GsVramPageMask) : r.Quiet (r.noteCpuVramWrite pages) := by
  unfold noteCpuVramWrite
  split
  · exact quiet_call nofun
  · exact quiet_refl

theorem quiet_synchronizeCpuVram :
    r.Quiet (r.synchronizeCpuVram readPages writePages reason) := by
  unfold synchronizeCpuVram
  split
  · exact quiet_call nofun
  · exact quiet_refl

theorem quiet_synchronizePages {pages : GsVramPageMask} :
    r.Quiet (r.synchronizePages pages reason) := by
  unfold synchronizePages
  split
  · exact quiet_call nofun
  · exact quiet_refl

@[simp] theorem synchronizeCpuVram_activeBackend :
    (r.synchronizeCpuVram readPages writePages reason).activeBackend = r.activeBackend := by
  unfold synchronizeCpuVram
  split <;> rfl

@[simp] theorem synchronizePages_activeBackend {pages : GsVramPageMask} :
    (r.synchronizePages pages reason).activeBackend = r.activeBackend := by
  unfold synchronizePages
  split <;> rfl

@[simp] theorem noteCpuVramWrite_activeBackend {pages : GsVramPageMask} :
    (r.noteCpuVramWrite pages).activeBackend = r.activeBackend := by
  unfold noteCpuVramWrite
  split <;> rfl

theorem noteCpuVramWrite_calls {pages : GsVramPageMask} (hsome : r.acceleratedBackend.isSome) :
    (r.noteCpuVramWrite pages).calls = .noteCpuVramWrite pages :: r.calls := by
  unfold noteCpuVramWrite
  rw [if_pos hsome]
  rfl

@[simp] theorem drainActive_activeBackend :
    (r.drainActive reason).activeBackend = r.activeBackend := by
  unfold drainActive
  split
  · rfl
  · split <;> rfl
  · rfl

theorem quiet_drainActive : r.Quiet (r.drainActive reason) := by
  unfold drainActive
  split
  · exact quiet_call nofun
  · split
    · exact quiet_call nofun
    · exact quiet_refl
  · exact quiet_refl

/-- After a drain no backend holds work. -/
theorem drainActive_idle (h : r.Ordered) (backend : RasterBackend) :
    queue backend (r.drainActive reason).effects = [] := by
  by_cases hactive : r.activeBackend = some backend
  · have hdrain : r.drainActive reason = r.call (.flush backend reason) := by
      unfold drainActive
      rw [hactive]
      cases backend with
      | Software => rfl
      | Accelerated => exact if_pos (h.present hactive)
    rw [hdrain]
    exact HandOver.queue_execute_self
  · exact quiet_drainActive.idle backend (h.idle backend hactive)

theorem quiet_transitionTo : r.Quiet (r.transitionTo backend) := by
  unfold transitionTo
  split
  · exact quiet_active _
  · exact quiet_drainActive.trans (quiet_active _)

@[simp] theorem transitionTo_activeBackend :
    (r.transitionTo backend).activeBackend = some backend := by
  unfold transitionTo
  split <;> rfl

/-- **A change of the active backend leaves the other one without work.** -/
theorem transitionTo_ordered (h : r.Ordered)
    (hpresent : backend = .Accelerated → r.acceleratedBackend.isSome) :
    (r.transitionTo backend).Ordered := by
  have hpresent' : some backend = some .Accelerated → r.acceleratedBackend.isSome :=
    fun heq => hpresent (Option.some.inj heq)
  unfold transitionTo
  split
  next hactive =>
    rcases hactive with hactive | hactive
    · refine h.withActive (fun other => h.idle other ?_) _ hpresent'
      rw [hactive]
      exact nofun
    · rw [← hactive]
      exact h
  next =>
    have hquiet : r.Quiet (r.drainActive .BackendSwitch) := quiet_drainActive
    refine (h.quiet hquiet drainActive_activeBackend).withActive (drainActive_idle h) _ ?_
    rw [hquiet.backend]
    exact hpresent'

/-! ## Hand-overs -/

theorem submit_ordered (h : r.Ordered) (hactive : r.activeBackend = some backend) :
    (r.call (.submit backend commands)).Ordered where
  present := h.present
  idle other hother := by
    have hne : backend ≠ other := fun heq => hother (by rw [← heq]; exact hactive)
    exact (HandOver.queue_submit_of_ne hne).trans (h.idle other hother)
  exclusive := ⟨fun other hother => h.idle other fun heq =>
    hother (Option.some.inj (heq.symm.trans hactive)), h.exclusive⟩

theorem submitAccelerated_ordered (h : r.Ordered) (hsome : r.acceleratedBackend.isSome) :
    (r.submitAccelerated commands).Ordered := by
  have htransition : (r.transitionTo .Accelerated).Ordered :=
    transitionTo_ordered h fun _ => hsome
  exact (submit_ordered htransition transitionTo_activeBackend).quiet (quiet_active _)
    transitionTo_activeBackend.symm

theorem submitAccelerated_handsOver : r.HandsOver commands (r.submitAccelerated commands) := by
  have htransition : r.Quiet (r.transitionTo .Accelerated) := quiet_transitionTo
  have hsubmit : (r.transitionTo .Accelerated).HandsOver commands (r.submitAccelerated commands) :=
    { backend := rfl
      mode := rfl
      later := List.suffix_cons _ _
      handed := rfl
      bracketed := fun _ h => h.cons fun _ => nofun
      pending := rfl
      tail := rfl }
  exact htransition.toHandsOver.trans hsubmit

/-- The masks cover what the commands read and write. -/
structure Covers (readPages writePages : GsVramPageMask) (commands : List GsDrawCommand) :
    Prop where
  reads : ∀ command ∈ commands, ∀ page,
    command.resources.readPages.test page = true → readPages.test page = true
  writes : ∀ command ∈ commands, ∀ page,
    command.resources.writePages.test page = true → writePages.test page = true

theorem covers_single (command : GsDrawCommand) :
    Covers command.resources.readPages command.resources.writePages [command] where
  reads other hother page h := by rwa [List.mem_singleton.1 hother] at h
  writes other hother page h := by rwa [List.mem_singleton.1 hother] at h

theorem covers_unionPages (commands : List GsDrawCommand) :
    Covers (unionPages (·.resources.readPages) commands)
      (unionPages (·.resources.writePages) commands) commands where
  reads command hcommand _ h := (test_unionPages _).2 ⟨command, hcommand, h⟩
  writes command hcommand _ h := (test_unionPages _).2 ⟨command, hcommand, h⟩

/-- With an accelerated backend the synchronization prepares all the pages of the commands. -/
theorem synchronizeCpuVram_prepared (hsome : r.acceleratedBackend.isSome)
    (hcovers : Covers readPages writePages commands) :
    Prepared (r.synchronizeCpuVram readPages writePages reason).calls commands := by
  intro command hcommand page hpage
  have htest : readPages.test page = true ∨ writePages.test page = true :=
    hpage.imp (hcovers.reads command hcommand page) (hcovers.writes command hcommand page)
  have hany : (readPages.any || writePages.any) = true := by
    rw [Bool.or_eq_true, GsVramPageMask.any_eq_true, GsVramPageMask.any_eq_true]
    exact htest.imp (fun h => ⟨page, h⟩) (fun h => ⟨page, h⟩)
  unfold synchronizeCpuVram
  rw [hsome, hany]
  exact ⟨readPages, writePages, reason, r.calls, rfl, htest⟩

theorem submitSoftware_ordered (h : r.Ordered) :
    (r.submitSoftware commands readPages writePages).Ordered := by
  have htransition : (r.transitionTo .Software).Ordered := transitionTo_ordered h nofun
  have hactive : ((r.transitionTo .Software).synchronizeCpuVram readPages writePages
      .BackendSwitch).activeBackend = some .Software := by
    rw [synchronizeCpuVram_activeBackend, transitionTo_activeBackend]
  have hsubmit := @submit_ordered commands _ _
    (htransition.quiet quiet_synchronizeCpuVram synchronizeCpuVram_activeBackend) hactive
  have hnote := hsubmit.quiet (quiet_note writePages) noteCpuVramWrite_activeBackend
  refine hnote.quiet (quiet_active _) ?_
  rw [noteCpuVramWrite_activeBackend]
  exact hactive.symm

theorem submitSoftware_handsOver (hcovers : Covers readPages writePages commands) :
    r.HandsOver commands (r.submitSoftware commands readPages writePages) := by
  let s := (r.transitionTo .Software).synchronizeCpuVram readPages writePages .BackendSwitch
  have hquiet : r.Quiet s := quiet_transitionTo.trans quiet_synchronizeCpuVram
  have hsubmit : s.HandsOver commands (r.submitSoftware commands readPages writePages) := by
    have hsubmitted : (s.call (.submit .Software commands)).Quiet
        (r.submitSoftware commands readPages writePages) :=
      (quiet_note writePages).trans (quiet_active _)
    exact {
      backend := hsubmitted.backend
      mode := hsubmitted.mode
      later := (List.suffix_cons _ _).trans hsubmitted.later
      handed := hsubmitted.handed.trans (List.append_nil _)
      bracketed := fun hsome h => by
        have hprepared : Prepared s.calls commands := by
          refine synchronizeCpuVram_prepared ?_ hcovers
          rwa [hquiet.backend, ← quiet_transitionTo.backend] at hsome
        have hcalls : (r.submitSoftware commands readPages writePages).calls =
            .noteCpuVramWrite writePages :: .submit .Software commands :: s.calls := by
          exact noteCpuVramWrite_calls (r := s.call (.submit .Software commands)) hsome
        rw [hcalls]
        exact h.handOver hprepared hcovers.writes
      pending := hsubmitted.pending
      tail := hsubmitted.tail }
  exact hquiet.toHandsOver.trans hsubmit

theorem submitSoftwareMode_eq (command : GsDrawCommand) :
    r.submitSoftwareMode command =
      r.submitSoftware [command] command.resources.readPages command.resources.writePages := by
  have htransition : (r.transitionTo .Software).acceleratedBackend = r.acceleratedBackend :=
    quiet_transitionTo.backend
  have hsync : ((r.transitionTo .Software).synchronizeCpuVram command.resources.readPages
      command.resources.writePages .BackendSwitch).acceleratedBackend = r.acceleratedBackend :=
    (quiet_transitionTo.trans quiet_synchronizeCpuVram).backend
  unfold submitSoftwareMode submitSoftware noteCpuVramWrite
  dsimp only [call]
  rw [htransition, hsync]
  split
  · rfl
  next hnone =>
    unfold synchronizeCpuVram
    simp [htransition, hnone]

end GsBackendRouter

end Ps2Recomp
