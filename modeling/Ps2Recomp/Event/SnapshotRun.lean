import Ps2Recomp.Event.Conservation

/-!
# Snapshots of an event scheduler that has run

Whatever was called before, and also in the middle of a `serviceDue`, `restore` accepts what
`snapshot` returned and rebuilds the scheduler from it.
-/

namespace Ps2Recomp.EeEventScheduler

open Machine

/-- The pending slots have numbers of their own, up to the last one given out. -/
def Numbered (slots : EventIndex → EventSlot) (last : Fin uint64Count) : Prop :=
  ∀ i, (slots i).pending = true → (slots i).generation ≠ 0 ∧ (slots i).sequence ≠ 0 ∧
    (slots i).sequence ≤ last ∧
      ∀ j < i, (slots j).pending = true → (slots j).sequence ≠ (slots i).sequence

/-- A scheduler that its snapshot describes. -/
structure Saveable (s : EeEventScheduler) : Prop where
  numbered : Numbered s.slots s.nextSequence
  cache : s.recomputeNext = s

variable {s : EeEventScheduler} {slots : EventIndex → EventSlot} {last : Fin uint64Count}

theorem Numbered.ended (h : Numbered slots last) (i : EventIndex) {target : EventSlot}
    (htarget : target.pending = false) : Numbered (Function.update slots i target) last := by
  unfold Numbered at *
  grind [Function.update_apply]

theorem Numbered.scheduled (h : Numbered slots last) (hlast : last.val + 1 < uint64Count)
    (i : EventIndex) (deadline : EeTick) (generation : Fin uint64Count) :
    Numbered (Function.update slots i ⟨deadline, nextNonzero generation, nextNonzero last, true⟩)
      (nextNonzero last) := by
  have hnonzero : ∀ value, nextNonzero value ≠ 0 := by
    unfold nextNonzero
    grind
  have hnext : last < nextNonzero last := Fin.lt_def.2 (by rw [nextNonzero_val hlast]; omega)
  unfold Numbered at *
  grind [Function.update_apply]

theorem Saveable.call (h : s.Saveable) (hlast : s.nextSequence.val + 1 < uint64Count)
    (c : EventCall) : (c.run s).Saveable := by
  have hschedule : ∀ source deadline, (s.scheduleAbsolute source deadline).2.Saveable := by
    intro source deadline
    unfold scheduleAbsolute
    split
    · exact h
    · exact ⟨h.numbered.scheduled hlast _ _ _, rfl⟩
  have hcancel : ∀ source, (s.cancel source).2.Saveable := by
    intro source
    unfold cancel
    dsimp only
    split
    · exact h
    · split
      · exact h
      · exact ⟨h.numbered.ended _ rfl, rfl⟩
  cases c with
  | scheduleAbsolute source deadline => exact hschedule source deadline
  | scheduleAfter source now delay => exact hschedule source _
  | cancel source => exact hcancel source
  | cancelToken token =>
    change (s.cancelToken token).2.Saveable
    rcases cancelToken_cases s token with heq | heq <;> rw [heq]
    · exact h
    · exact hcancel token.source

theorem Saveable.take (h : s.Saveable) (now : EeTick) : (s.takeNextDue now).2.Saveable := by
  unfold takeNextDue
  dsimp only
  split
  · exact h
  · split
    · exact ⟨h.numbered, rfl⟩
    · split
      · exact ⟨h.numbered, rfl⟩
      · exact ⟨h.numbered.ended _ rfl, rfl⟩

/-- The members that a snapshot leaves out, and the statistics. -/
theorem Saveable.frame (h : s.Saveable) (statistics : EeEventSchedulerStatistics)
    (serviceTick : EeTick) (servicing : Bool) :
    Saveable { s with statistics, serviceTick, servicing } :=
  ⟨h.numbered, congrArg (fun t => { t with statistics, serviceTick, servicing }) h.cache⟩

/-- An act, or a `restore` of any snapshot. -/
def actOrRestore (s : EeEventScheduler) : EventAct ⊕ EeEventSchedulerSnapshot → EeEventScheduler
  | .inl act => act.run s
  | .inr state => (s.restore state).2

/-- The last sequence number has not been given out. -/
def Unexhausted (s : EeEventScheduler) (_ : EventAct ⊕ EeEventSchedulerSnapshot) : Prop :=
  s.nextSequence.val + 1 < uint64Count

theorem saveable_step (s : EeEventScheduler) (step : EventAct ⊕ EeEventSchedulerSnapshot)
    (h : s.Saveable) (hlast : Unexhausted s step) : (actOrRestore s step).Saveable := by
  rcases step with (c | - | now | now | limitHit) | state
  · exact h.call hlast c
  · exact ⟨fun _ => nofun, rfl⟩
  · exact h.frame _ _ _
  · exact h.take now
  · exact h.frame _ _ _
  · change (s.restore state).2.Saveable
    unfold restore
    split
    · rename_i haccepted
      exact ⟨fun i => (haccepted i).2, rfl⟩
    · exact h

/-- **A snapshot restores the scheduler**, whenever it is taken. -/
theorem restore_snapshot_of_acts {steps : List (EventAct ⊕ EeEventSchedulerSnapshot)}
    (h : Along actOrRestore Unexhausted new steps) (other : EeEventScheduler) :
    let s := run actOrRestore new steps
    other.restore s.snapshot = (true, { s with serviceTick := 0, servicing := false }) := by
  intro s
  have hs : s.Saveable := invariant saveable_step ⟨fun _ => nofun, rfl⟩ h
  have haccepted : ∀ i, restorable s.snapshot i := fun i => ⟨rfl, hs.numbered i⟩
  unfold restore
  rw [if_pos haccepted]
  exact congrArg (fun t => (true, { t with serviceTick := 0, servicing := false })) hs.cache

/-- A snapshot taken by a visitor that has put its event off. -/
theorem restore_snapshot_in_service :
    let s := run actOrRestore new [.inl (.call (.scheduleAbsolute .VSync 3)), .inl (.begin 5),
      .inl (.take 5), .inl (.call (.scheduleAbsolute .VSync 9))]
    new.restore s.snapshot = (true, { s with serviceTick := 0, servicing := false }) :=
  restore_snapshot_of_acts (by unfold Unexhausted; decide +kernel) new

end Ps2Recomp.EeEventScheduler
