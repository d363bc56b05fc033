import Ps2Recomp.Vu.ExecutionEpoch

/-!
# Execution epochs are invisible

Demanded one after another, cycle counts lead the unit from state to state with one result each:
`Machine.run` and `Machine.outputs` of `advanceSlice`. `Inv` ties the epoch to that. The entries of
the local journal continue the baseline slice by slice (`Chained`), the consumed ones come first,
and what the EE has been answered is what its demands give from the state before the epoch, which
they lead to the last consumed entry.

An extension is one slice with its prefix if the prefix left the unit active (`Splits`). If it did
not, the second part reports an inactive unit and its exit reason covers the real one
(`inactive_front_extended`).
-/

namespace Ps2Recomp

open Machine

variable {σ π : Type} {vu : Vu1Advance σ π}

/-! ## Slices -/

/-- One advance does what two in a row do. -/
structure Vu1Advanced.Joins (first second whole : Vu1Advanced σ π) : Prop where
  unit : whole.unit = second.unit
  executedCycles : whole.executedCycles.val = first.executedCycles.val + second.executedCycles.val
  reason : whole.reason = second.reason
  activeBefore : whole.activeBefore = first.activeBefore
  activeAfter : whole.activeAfter = second.activeAfter
  completed : whole.completed = second.completed
  path1Packets : whole.path1Packets = first.path1Packets ++ second.path1Packets

/-- An advance that leaves the unit active, and the one after it, are one advance. -/
def Vu1Advance.Splits (vu : Vu1Advance σ π) : Prop :=
  ∀ unit a b, a ≠ 0 → b ≠ 0 → a + b ≤ uint32Max → vu.isActive (vu.advance unit a).unit = true →
    (vu.advance unit a).Joins (vu.advance (vu.advance unit a).unit b) (vu.advance unit (a + b))

namespace Vu1Advance

variable {captureState : Bool} {unit : σ} {a b : ℕ}

/-- The unit after a slice. -/
def next (vu : Vu1Advance σ π) (captureState : Bool) (unit : σ) (cycles : ℕ) : σ :=
  (vu.advanceSlice captureState unit cycles).1

def slice (vu : Vu1Advance σ π) (captureState : Bool) (unit : σ) (cycles : ℕ) :
    Vu1SliceResult σ π :=
  (vu.advanceSlice captureState unit cycles).2

/-- **A slice that leaves the unit active can be extended.** -/
theorem Splits.extend (hsplits : vu.Splits) (ha : a ≠ 0) (hb : b ≠ 0) (hab : a + b ≤ uint32Max)
    (hactive : vu.isActive (vu.next captureState unit a) = true) :
    vu.next captureState unit (a + b) = vu.next captureState (vu.next captureState unit a) b ∧
    vu.slice captureState unit (a + b) = (vu.slice captureState unit a).extend
      (vu.slice captureState (vu.next captureState unit a) b) (a + b) := by
  have hjoins := hsplits unit a b ha hb hab hactive
  refine ⟨hjoins.unit, ?_⟩
  simp only [slice, next, advanceSlice, Vu1SliceResult.extend, hjoins.unit, hjoins.reason,
    hjoins.activeBefore, hjoins.activeAfter, hjoins.completed, hjoins.path1Packets,
    hjoins.executedCycles]
  rfl

theorem Splits.executedCycles_le (hsplits : vu.Splits) (ha : a ≠ 0) (hb : b ≠ 0)
    (hab : a + b ≤ uint32Max) (hactive : vu.isActive (vu.next captureState unit a) = true) :
    (vu.slice captureState unit a).run.executedCycles ≤ uint32Max -
      (vu.slice captureState (vu.next captureState unit a) b).run.executedCycles := by
  have hsum := (hsplits unit a b ha hb hab hactive).executedCycles
  have hbound := (vu.advance unit (a + b)).executedCycles.isLt
  change (vu.advance unit a).executedCycles.val ≤
    uint32Max - (vu.advance (vu.advance unit a).unit b).executedCycles.val
  omega

end Vu1Advance

namespace Vu1ExecutionEpoch

variable {s : Vu1ExecutionEpoch σ π} {unit : σ} {p q : Vu1EpochProcessor σ}
  {l : LocalCheckpoint σ} {locals gone fresh : List (LocalCheckpoint σ)}
  {objects objects' : List (Vu1EpochCheckpoint σ π)} {captureState : Bool} {sequence : ℕ}

/-! ## The journal -/

/-- The entry is the slice from `unit` on. -/
structure Records (vu : Vu1Advance σ π) (captureState : Bool) (sequence : ℕ) (unit : σ)
    (l : LocalCheckpoint σ) (checkpoint : Vu1EpochCheckpoint σ π) : Prop where
  cycles : checkpoint.cycles ≠ 0 ∧ checkpoint.cycles ≤ uint32Max
  next : l.processor.unit = vu.next captureState unit checkpoint.cycles
  result : checkpoint.result = vu.slice captureState unit checkpoint.cycles
  active : checkpoint.active = vu.isActive l.processor.unit
  sequence : l.processor.nextSequence = sequence + 1

/-- Each entry is the slice from the one before it on; only the last can have ended the program. -/
def Chained (vu : Vu1Advance σ π) (captureState : Bool) (sequence : ℕ)
    (objects : List (Vu1EpochCheckpoint σ π)) :
    Vu1EpochProcessor σ → List (LocalCheckpoint σ) → Prop
  | _, [] => True
  | p, l :: rest =>
    (∃ checkpoint ∈ objects[l.shared]?,
      Records vu captureState sequence p.unit l checkpoint ∧
        (rest = [] ∨ checkpoint.active = true)) ∧
      Chained vu captureState sequence objects l.processor rest

/-- The processor after the entries. -/
def lastProcessor (p : Vu1EpochProcessor σ) (locals : List (LocalCheckpoint σ)) :
    Vu1EpochProcessor σ :=
  locals.foldl (fun _ l => l.processor) p

@[simp] theorem lastProcessor_nil : lastProcessor p [] = p := rfl

@[simp] theorem lastProcessor_cons : lastProcessor p (l :: locals) =
    lastProcessor l.processor locals := rfl

@[simp] theorem lastProcessor_append : lastProcessor p (gone ++ fresh) =
    lastProcessor (lastProcessor p gone) fresh := List.foldl_append

theorem Chained.append :
    Chained vu captureState sequence objects p (gone ++ fresh) →
      Chained vu captureState sequence objects (lastProcessor p gone) fresh := by
  induction gone generalizing p with
  | nil => exact id
  | cons l rest ih => exact fun h => ih h.2

theorem Chained.left (h : Chained vu captureState sequence objects p (gone ++ fresh)) :
    Chained vu captureState sequence objects p gone := by
  induction gone generalizing p with
  | nil => trivial
  | cons l rest ih =>
    obtain ⟨⟨checkpoint, hmem, hrecords, hrest⟩, htail⟩ := h
    refine ⟨⟨checkpoint, hmem, hrecords, ?_⟩, ih htail⟩
    exact hrest.imp_left fun hnil => (List.append_eq_nil_iff.1 hnil).1

/-- The last entry has left the unit active. -/
def LastActive (vu : Vu1Advance σ π) (p : Vu1EpochProcessor σ)
    (locals : List (LocalCheckpoint σ)) : Prop :=
  locals = [] ∨ vu.isActive (lastProcessor p locals).unit = true

theorem Chained.snoc (h : Chained vu captureState sequence objects p locals)
    (hactive : LastActive vu p locals)
    (hlast : ∃ checkpoint ∈ objects[l.shared]?,
      Records vu captureState sequence (lastProcessor p locals).unit l checkpoint) :
    Chained vu captureState sequence objects p (locals ++ [l]) := by
  induction locals generalizing p with
  | nil =>
    obtain ⟨checkpoint, hmem, hrecords⟩ := hlast
    exact ⟨⟨checkpoint, hmem, hrecords, Or.inl rfl⟩, trivial⟩
  | cons m rest ih =>
    obtain ⟨⟨checkpoint, hmem, hrecords, hrest⟩, htail⟩ := h
    have hactive' := hactive.resolve_left (List.cons_ne_nil _ _)
    refine ⟨⟨checkpoint, hmem, hrecords, Or.inr ?_⟩, ih htail (Or.inr hactive') hlast⟩
    rcases hrest with rfl | hrest
    · rw [hrecords.active]
      exact hactive'
    · exact hrest

/-- The entries are the same up to the mark that they are consumed. -/
def SameEntries (objects objects' : List (Vu1EpochCheckpoint σ π)) : Prop :=
  ∀ (id : ℕ) (checkpoint : Vu1EpochCheckpoint σ π), objects[id]? = some checkpoint →
    ∃ consumed, objects'[id]? = some { checkpoint with consumed := consumed }

theorem Chained.same (hsame : SameEntries objects objects')
    (h : Chained vu captureState sequence objects p locals) :
    Chained vu captureState sequence objects' p locals := by
  induction locals generalizing p with
  | nil => trivial
  | cons l rest ih =>
    obtain ⟨⟨checkpoint, hmem, hrecords, hrest⟩, htail⟩ := h
    obtain ⟨consumed, hmem'⟩ := hsame _ _ hmem
    exact ⟨⟨_, hmem', ⟨hrecords.cycles, hrecords.next, hrecords.result, hrecords.active,
      hrecords.sequence⟩, hrest⟩, ih htail⟩

theorem sameEntries_append {checkpoint : Vu1EpochCheckpoint σ π} :
    SameEntries objects (objects ++ [checkpoint]) := by
  intro id c hc
  refine ⟨c.consumed, ?_⟩
  rw [List.getElem?_append_left (List.getElem?_eq_some_iff.1 hc).1, hc]

theorem sameEntries_consume {id : ℕ} :
    SameEntries objects (objects.modify id fun c => { c with consumed := true }) := by
  intro i c hc
  by_cases hi : id = i
  · exact ⟨true, by rw [hi, List.getElem?_modify_eq, hc]; rfl⟩
  · exact ⟨c.consumed, by rw [List.getElem?_modify_ne _ _ hi, hc]⟩

/-- **The worker takes over exactly what is consumed, and never finds another order.** -/
theorem absorb_append (hchained : Chained vu captureState sequence s.objects p (gone ++ fresh))
    (hgone : ∀ l ∈ gone, s.isConsumed l.shared = true)
    (hfresh : ∀ l ∈ fresh, s.isConsumed l.shared = false) :
    s.absorb (gone ++ fresh) ((gone ++ fresh).map (·.shared)) p =
        .remaining fresh (fresh.map (·.shared)) (lastProcessor p gone) ∨
      fresh = [] ∧ s.absorb (gone ++ fresh) ((gone ++ fresh).map (·.shared)) p =
        .inactive (lastProcessor p gone) := by
  induction gone generalizing p with
  | nil =>
    cases fresh with
    | nil => exact Or.inl rfl
    | cons l rest =>
      obtain ⟨⟨checkpoint, hmem, -⟩, -⟩ := hchained
      have hconsumed : checkpoint.consumed = false := by
        have hl := hfresh l List.mem_cons_self
        rw [isConsumed, hmem] at hl
        exact hl
      refine Or.inl ?_
      simp [absorb, Option.mem_def.1 hmem, hconsumed]
  | cons l rest ih =>
    obtain ⟨⟨checkpoint, hmem, hrecords, hrest⟩, htail⟩ := hchained
    have hconsumed : checkpoint.consumed = true := by
      have hl := hgone l List.mem_cons_self
      rw [isConsumed, hmem] at hl
      exact hl
    have ih' := ih htail fun m hm => hgone m (List.mem_cons_of_mem _ hm)
    cases hactive : checkpoint.active with
    | true =>
      simpa [absorb, Option.mem_def.1 hmem, hconsumed, hactive] using ih'
    | false =>
      have hend : rest ++ fresh = [] := by
        rcases hrest with hrest | hrest
        · exact hrest
        · rw [hactive] at hrest
          cases hrest
      obtain ⟨rfl, rfl⟩ := List.append_eq_nil_iff.1 hend
      refine Or.inr ⟨rfl, ?_⟩
      simp [absorb, Option.mem_def.1 hmem, hconsumed, hactive]

/-! ## The invariant -/

/-- What the EE has been answered is what its demands give, and the journal continues it. -/
structure Core (vu : Vu1Advance σ π) (unit : σ) (s : Vu1ExecutionEpoch σ π) : Prop where
  valid : s.options.Valid
  sequence : s.sequence ≠ uint64Max.val
  demanded : s.demandedCycles ≠ 0 ∧ s.demandedCycles ≤ uint32Max
  failure : s.failure = none
  baseline : s.baseline.nextSequence = s.sequence + 1
  journal : s.journal = s.localJournal.map (·.shared)
  chained : Chained vu s.options.captureState s.sequence s.objects s.baseline s.localJournal
  nodup : s.journal.Nodup
  consumed : ∃ gone fresh, s.localJournal = gone ++ fresh ∧
    (∀ l ∈ gone, s.isConsumed l.shared = true) ∧ (∀ l ∈ fresh, s.isConsumed l.shared = false) ∧
    run (vu.next s.options.captureState) unit (s.answers.map (·.exactCycles)) =
      (lastProcessor s.baseline gone).unit
  answered : ∀ a ∈ s.answers,
    a.checkpoint.cycles = a.exactCycles ∧ a.checkpoint.revision = a.demandRevision
  results : s.answers.map (·.checkpoint.result) =
    outputs (vu.next s.options.captureState) (vu.slice s.options.captureState) unit
      (s.answers.map (·.exactCycles))

/-- The processor stands after the last entry, and accepts the epoch's command. -/
structure Poised (s : Vu1ExecutionEpoch σ π) : Prop where
  unit : s.processor.unit = (lastProcessor s.baseline s.localJournal).unit
  accepts : s.acceptsSequence = true
  initial : s.initialExecution = true → s.localJournal = []

/-- What the worker is about to do fits. -/
def Phase (vu : Vu1Advance σ π) (unit : σ) (s : Vu1ExecutionEpoch σ π) : Prop :=
  match s.action with
  | .Start =>
    s.processor = ⟨unit, s.sequence⟩ ∧ s.baseline.unit = unit ∧ s.localJournal = [] ∧
      s.answers = [] ∧ s.initialExecution = true
  | .Decide =>
    s.Poised ∧ (s.reachedInactive = false → LastActive vu s.baseline s.localJournal)
  | .Produce cycles _ =>
    s.Poised ∧ LastActive vu s.baseline s.localJournal ∧ cycles ≠ 0 ∧ cycles ≤ uint32Max
  | .Extend extension _ discarded =>
    s.localJournal = [] ∧ ∃ e checkpoint, extension = some e ∧
      s.objects[e.frontier.shared]? = some checkpoint ∧
      Records vu s.options.captureState s.sequence s.baseline.unit e.frontier checkpoint ∧
      checkpoint.consumed = false ∧ checkpoint.cycles < e.exactCycles ∧
      e.exactCycles ≤ uint32Max ∧ (discarded = 0 → s.processor = e.frontier.processor)
  | .Rebase => s.localJournal = []
  | .Stop => s.localJournal = []
  | .Finished => s.localJournal = [] ∧ s.processor = s.baseline

structure Inv (vu : Vu1Advance σ π) (unit : σ) (s : Vu1ExecutionEpoch σ π) : Prop where
  core : s.Core vu unit
  phase : s.Phase vu unit

theorem inv_create {options : Vu1ExecutionEpochOptions} (hvalid : options.Valid)
    (hsequence : sequence ≠ uint64Max.val) :
    (create options sequence unit : Vu1ExecutionEpoch σ π).Inv vu unit where
  core :=
    { valid := hvalid
      sequence := hsequence
      demanded := hvalid.initial
      failure := rfl
      baseline := rfl
      journal := rfl
      chained := trivial
      nodup := List.nodup_nil
      consumed := ⟨[], [], rfl, nofun, nofun, rfl⟩
      answered := fun _ hm => absurd hm List.not_mem_nil
      results := rfl }
  phase := ⟨rfl, rfl, rfl, rfl, rfl⟩

/-! ## The EE -/

theorem firstReady_append (hchained : Chained vu captureState sequence s.objects p (gone ++ fresh))
    (hjournal : s.journal = (gone ++ fresh).map (·.shared))
    (hgone : ∀ l ∈ gone, s.isConsumed l.shared = true)
    (hfresh : ∀ l ∈ fresh, s.isConsumed l.shared = false) :
    (fresh = [] ∧ s.firstReady = none) ∨ ∃ l rest checkpoint, fresh = l :: rest ∧
      s.objects[l.shared]? = some checkpoint ∧ s.firstReady = some (l.shared, checkpoint) := by
  unfold firstReady
  rw [hjournal]
  clear hjournal
  induction gone generalizing p with
  | nil =>
    cases fresh with
    | nil => exact Or.inl ⟨rfl, rfl⟩
    | cons l rest =>
      obtain ⟨⟨checkpoint, hmem, -⟩, -⟩ := hchained
      have hconsumed : checkpoint.consumed = false := by
        have hl := hfresh l List.mem_cons_self
        rw [isConsumed, hmem] at hl
        exact hl
      refine Or.inr ⟨l, rest, checkpoint, rfl, hmem, ?_⟩
      simp [Option.mem_def.1 hmem, hconsumed]
  | cons l rest ih =>
    obtain ⟨⟨checkpoint, hmem, -⟩, htail⟩ := hchained
    have hconsumed : checkpoint.consumed = true := by
      have hl := hgone l List.mem_cons_self
      rw [isConsumed, hmem] at hl
      exact hl
    have ih' := ih htail fun m hm => hgone m (List.mem_cons_of_mem _ hm)
    simpa [Option.mem_def.1 hmem, hconsumed] using ih'

/-- **The EE does not disturb the worker**: it can consume nothing while the local journal is
empty. -/
theorem Phase.frame (hphase : s.Phase vu unit) {objects : List (Vu1EpochCheckpoint σ π)}
    {demandRevision demandedCycles : ℕ} {stopRequested : Bool} {waiting : Option ℕ}
    {answers : List (Vu1EpochAnswer σ π)}
    (hkept : s.localJournal = [] → objects = s.objects ∧ answers = s.answers) :
    ({ s with objects, demandRevision, demandedCycles, stopRequested, waiting, answers } :
      Vu1ExecutionEpoch σ π).Phase vu unit := by
  unfold Phase at hphase ⊢
  dsimp only
  cases haction : s.action with
  | Start =>
    rw [haction] at hphase
    obtain ⟨hprocessor, hbaseline, hlocal, hanswers, hinitial⟩ := hphase
    exact ⟨hprocessor, hbaseline, hlocal, (hkept hlocal).2.trans hanswers, hinitial⟩
  | Decide =>
    rw [haction] at hphase
    exact ⟨⟨hphase.1.unit, hphase.1.accepts, hphase.1.initial⟩, hphase.2⟩
  | Produce cycles revision =>
    rw [haction] at hphase
    exact ⟨⟨hphase.1.unit, hphase.1.accepts, hphase.1.initial⟩, hphase.2⟩
  | Extend extension revision discarded =>
    rw [haction] at hphase
    rw [(hkept hphase.1).1]
    exact hphase
  | Rebase =>
    rw [haction] at hphase
    exact hphase
  | Stop =>
    rw [haction] at hphase
    exact hphase
  | Finished =>
    rw [haction] at hphase
    exact hphase

theorem Inv.waitExecutionEpochCheckpoint (h : s.Inv vu unit) {exactCycles : CycleCount} :
    (s.waitExecutionEpochCheckpoint exactCycles).Inv vu unit := by
  obtain ⟨hcore, hphase⟩ := h
  unfold Vu1ExecutionEpoch.waitExecutionEpochCheckpoint
  split
  next => exact ⟨hcore, hphase⟩
  next hcall =>
    push Not at hcall
    split
    next =>
      split
      next => exact ⟨hcore, hphase⟩
      next =>
        exact ⟨{ hcore with demanded := ⟨hcall.2, Nat.le_of_lt_succ exactCycles.isLt⟩ },
          hphase.frame fun _ => ⟨rfl, rfl⟩⟩
    next => exact ⟨{ hcore with }, hphase.frame fun _ => ⟨rfl, rfl⟩⟩

/-- The front entry is handed to the EE: the demand is one more step of the unit. -/
theorem Core.consume (hcore : s.Core vu unit) {rest : List (LocalCheckpoint σ)}
    {checkpoint : Vu1EpochCheckpoint σ π} (hlocal : s.localJournal = gone ++ l :: rest)
    (hgone : ∀ l ∈ gone, s.isConsumed l.shared = true)
    (hrest : ∀ m ∈ rest, s.isConsumed m.shared = false)
    (hrun : run (vu.next s.options.captureState) unit (s.answers.map (·.exactCycles)) =
      (lastProcessor s.baseline gone).unit)
    (hmem : s.objects[l.shared]? = some checkpoint)
    (hrevision : checkpoint.revision = s.demandRevision) :
    ({ s with
      objects := s.objects.modify l.shared fun c => { c with consumed := true }
      demandedCycles := s.options.followupCycles
      waiting := none
      answers := s.answers ++ [⟨checkpoint.cycles, checkpoint, s.demandRevision⟩] } :
        Vu1ExecutionEpoch σ π).Core vu unit := by
  have hchained := hcore.chained
  have hnodup := hcore.nodup
  rw [hlocal] at hchained
  rw [hcore.journal, hlocal, List.map_append, List.map_cons] at hnodup
  have hconsumed : ∀ id, id ≠ l.shared →
      ((s.objects.modify l.shared fun c => { c with consumed := true })[id]?).any (·.consumed) =
        s.isConsumed id := by
    intro id hid
    rw [List.getElem?_modify_ne _ _ hid.symm, isConsumed]
  obtain ⟨⟨c, hc, hrecords, -⟩, -⟩ := hchained.append
  obtain rfl : checkpoint = c := Option.some.inj (hmem.symm.trans hc)
  refine
    { hcore with
      demanded := hcore.valid.followup
      chained := hcore.chained.same sameEntries_consume
      consumed := ⟨gone ++ [l], rest, ?_, ?_, ?_, ?_⟩
      answered := ?_
      results := ?_ }
  · rw [hlocal, List.append_assoc, List.singleton_append]
  · intro m hm
    rcases List.mem_append.1 hm with hm | hm
    · by_cases hml : m.shared = l.shared
      · rw [isConsumed, hml, List.getElem?_modify_eq, hmem]
        rfl
      · exact (hconsumed _ hml).trans (hgone m hm)
    · rw [isConsumed, List.mem_singleton.1 hm, List.getElem?_modify_eq, hmem]
      rfl
  · intro m hm
    refine (hconsumed _ fun hml => ?_).trans (hrest m hm)
    have hnot := (List.nodup_cons.1 (List.nodup_append.1 hnodup).2.1).1
    rw [← hml] at hnot
    exact hnot (List.mem_map_of_mem hm)
  · rw [List.map_append, run_append, hrun, lastProcessor_append]
    exact hrecords.next.symm
  · intro a ha
    rcases List.mem_append.1 ha with ha | ha
    · exact hcore.answered a ha
    · rw [List.mem_singleton.1 ha]
      exact ⟨rfl, hrevision⟩
  · rw [List.map_append, List.map_append, outputs_append, hcore.results, hrun]
    exact congrArg _ (congrArg (fun r => [r]) hrecords.result)

theorem Inv.wake (h : s.Inv vu unit) : s.wake.Inv vu unit := by
  obtain ⟨hcore, hphase⟩ := h
  have hidle : ({ s with waiting := none } : Vu1ExecutionEpoch σ π).Inv vu unit :=
    ⟨{ hcore with }, hphase.frame fun _ => ⟨rfl, rfl⟩⟩
  unfold Vu1ExecutionEpoch.wake
  split
  next => exact ⟨hcore, hphase⟩
  next exactCycles hwaiting =>
    split
    next => exact hidle
    next =>
      obtain ⟨gone, fresh, hlocal, hgone, hfresh, hrun⟩ := hcore.consumed
      have hchained := hcore.chained
      have hjournal := hcore.journal
      rw [hlocal] at hchained hjournal
      rcases firstReady_append hchained hjournal hgone hfresh with
        ⟨-, hready⟩ | ⟨l, rest, checkpoint, rfl, hmem, hready⟩
      · simp only [hready]
        split
        next => exact hidle
        next => exact ⟨hcore, hphase⟩
      · simp only [hready]
        split
        next hmatch =>
          obtain ⟨rfl, hrevision⟩ := hmatch
          have hrest : ∀ m ∈ rest, s.isConsumed m.shared = false :=
            fun m hm => hfresh m (List.mem_cons_of_mem _ hm)
          refine ⟨hcore.consume hlocal hgone hrest hrun hmem hrevision,
            hphase.frame fun hempty => ?_⟩
          rw [hlocal] at hempty
          exact absurd hempty (List.append_ne_nil_of_right_ne_nil _ (List.cons_ne_nil _ _))
        next =>
          split
          next => exact hidle
          next => exact ⟨hcore, hphase⟩

theorem Inv.stopExecutionEpoch (h : s.Inv vu unit) :
    ({ s with stopRequested := true } : Vu1ExecutionEpoch σ π).Inv vu unit :=
  ⟨{ h.core with }, h.phase.frame fun _ => ⟨rfl, rfl⟩⟩

/-! ## The worker -/

theorem Chained.nextSequence (h : Chained vu captureState sequence objects p locals)
    (hp : p.nextSequence = sequence + 1) :
    (lastProcessor p locals).nextSequence = sequence + 1 := by
  induction locals generalizing p with
  | nil => exact hp
  | cons l rest ih =>
    obtain ⟨⟨checkpoint, -, hrecords, -⟩, htail⟩ := h
    exact ih htail hrecords.sequence

theorem Chained.shared_lt (h : Chained vu captureState sequence objects p locals) :
    ∀ l ∈ locals, l.shared < objects.length := by
  induction locals generalizing p with
  | nil => exact nofun
  | cons m rest ih =>
    obtain ⟨⟨checkpoint, hmem, -, -⟩, htail⟩ := h
    intro l hl
    rcases List.mem_cons.1 hl with rfl | hl
    · exact (List.getElem?_eq_some_iff.1 hmem).1
    · exact ih htail l hl

/-- Consumed entries become the baseline. -/
theorem Core.retain (hcore : s.Core vu unit) (hlocal : s.localJournal = gone ++ fresh)
    (hfresh : ∀ l ∈ fresh, s.isConsumed l.shared = false)
    (hrun : run (vu.next s.options.captureState) unit (s.answers.map (·.exactCycles)) =
      (lastProcessor s.baseline gone).unit) :
    ({ s with
      baseline := lastProcessor s.baseline gone
      journal := fresh.map (·.shared)
      localJournal := fresh } : Vu1ExecutionEpoch σ π).Core vu unit := by
  have hchained := hcore.chained
  have hnodup := hcore.nodup
  rw [hlocal] at hchained
  rw [hcore.journal, hlocal, List.map_append] at hnodup
  exact
    { hcore with
      baseline := hchained.left.nextSequence hcore.baseline
      journal := rfl
      chained := hchained.append
      nodup := (List.nodup_append.1 hnodup).2.1
      consumed := ⟨[], fresh, rfl, nofun, hfresh, hrun⟩ }

/-- What is not consumed may be dropped. -/
theorem Core.discard (hcore : s.Core vu unit)
    (hrun : run (vu.next s.options.captureState) unit (s.answers.map (·.exactCycles)) =
      s.baseline.unit) :
    ({ s with journal := [], localJournal := [] } : Vu1ExecutionEpoch σ π).Core vu unit :=
  { hcore with
    journal := rfl
    chained := trivial
    nodup := List.nodup_nil
    consumed := ⟨[], [], rfl, nofun, nofun, hrun⟩ }

/-- After the first slice the processor is exactly the last entry's. -/
theorem Poised.processor (hcore : s.Core vu unit) (hpoised : s.Poised)
    (hinitial : s.initialExecution = false) :
    s.processor = lastProcessor s.baseline s.localJournal := by
  have haccepts := hpoised.accepts
  rw [acceptsSequence, hinitial] at haccepts
  simp only [Bool.false_eq_true, if_false, Bool.and_eq_true, beq_iff_eq] at haccepts
  have hsequence := hcore.chained.nextSequence hcore.baseline
  have hunit := hpoised.unit
  cases hprocessor : s.processor with
  | mk u n =>
    rw [hprocessor] at haccepts hunit
    cases hlast : lastProcessor s.baseline s.localJournal with
    | mk u' n' =>
      rw [hlast] at hsequence hunit
      rw [Vu1EpochProcessor.mk.injEq]
      exact ⟨hunit, haccepts.2.trans hsequence.symm⟩

theorem LastActive.right (h : LastActive vu p (gone ++ fresh)) :
    LastActive vu (lastProcessor p gone) fresh := by
  rcases h with h | h
  · exact Or.inl (List.append_eq_nil_iff.1 h).2
  · rw [lastProcessor_append] at h
    exact Or.inr h

/-- What the worker keeps of its phase when consumed entries become the baseline. -/
theorem Poised.retain (hpoised : s.Poised) (hlocal : s.localJournal = gone ++ fresh) :
    ({ s with
      baseline := lastProcessor s.baseline gone
      journal := fresh.map (·.shared)
      localJournal := fresh } : Vu1ExecutionEpoch σ π).Poised where
  unit := by
    rw [hpoised.unit, hlocal, lastProcessor_append]
  accepts := hpoised.accepts
  initial := by
    intro h
    exact (List.append_eq_nil_iff.1 (hlocal.symm.trans (hpoised.initial h))).2

theorem Inv.decide (h : s.Inv vu unit) (haction : s.action = .Decide) : s.decide.Inv vu unit := by
  obtain ⟨hcore, hphase⟩ := h
  unfold Phase at hphase
  rw [haction] at hphase
  obtain ⟨hpoised, hreached⟩ := hphase
  obtain ⟨gone, fresh, hlocal, hgone, hfresh, hrun⟩ := hcore.consumed
  have hchained := hcore.chained
  rw [hlocal] at hchained
  have hkept := hcore.retain hlocal hfresh hrun
  have hdropped := hkept.discard hrun
  have hpoised' := hpoised.retain hlocal
  rw [hlocal] at hreached
  unfold Vu1ExecutionEpoch.decide
  rw [hcore.journal, hlocal]
  rcases absorb_append hchained hgone hfresh with habsorb | ⟨rfl, habsorb⟩
  · rw [habsorb]
    dsimp only
    split
    next => exact ⟨{ hdropped with }, rfl⟩
    next =>
      split
      next hrevision =>
        cases hfresh' : fresh with
        | nil => exact ⟨{ hdropped with }, rfl⟩
        | cons front rest =>
          subst hfresh'
          obtain ⟨⟨checkpoint, hmem, hrecords, hrest⟩, -⟩ := hchained.append
          dsimp only
          split
          next hextend =>
            rw [Option.mem_def.1 hmem] at hextend
            simp only [Option.any_some, Bool.and_eq_true, Bool.not_eq_true',
              decide_eq_true_eq] at hextend
            refine ⟨{ hdropped with }, rfl, _, checkpoint, rfl, hmem, hrecords, hextend.1.1,
              hextend.2, hcore.demanded.2, fun hnone => ?_⟩
            obtain rfl := List.eq_nil_of_length_eq_zero hnone
            have hinitial : s.initialExecution = false := by
              cases hi : s.initialExecution with
              | false => rfl
              | true =>
                exact absurd (hpoised'.initial hi) (List.cons_ne_nil _ _)
            exact hpoised'.processor hkept hinitial
          next => exact ⟨{ hdropped with }, rfl⟩
      next =>
        split
        next hproduce =>
          simp only [Bool.and_eq_true, Bool.not_eq_true', decide_eq_true_eq] at hproduce
          refine ⟨{ hkept with }, ⟨hpoised'.unit, hpoised'.accepts, hpoised'.initial⟩,
            (hreached hproduce.1).right, ?_⟩
          split
          next => exact hcore.demanded
          next => exact hcore.valid.followup
        next =>
          refine ⟨hkept, ?_⟩
          unfold Phase
          simp only [haction]
          exact ⟨⟨hpoised'.unit, hpoised'.accepts, hpoised'.initial⟩, fun h => (hreached h).right⟩
  · rw [habsorb]
    exact ⟨{ hdropped with }, rfl⟩

/-- A new entry that is the next slice keeps the invariant. -/
theorem Core.publish (hcore : s.Core vu unit) {processor : Vu1EpochProcessor σ}
    {revision cycles : ℕ} {active : Bool} {result : Vu1SliceResult σ π}
    (hactive : LastActive vu s.baseline s.localJournal)
    (hrecords : Records vu s.options.captureState s.sequence
      (lastProcessor s.baseline s.localJournal).unit ⟨s.objects.length, processor⟩
      { revision, cycles, active, result }) :
    (({ s with processor, initialExecution := false } : Vu1ExecutionEpoch σ π).publish revision
      cycles active result).Inv vu unit := by
  obtain ⟨gone, fresh, hlocal, hgone, hfresh, hrun⟩ := hcore.consumed
  have hlt := hcore.chained.shared_lt
  have hold : ∀ l ∈ s.localJournal,
      ((s.objects ++ [({ revision, cycles, active, result } : Vu1EpochCheckpoint σ π)])[
        l.shared]?).any (·.consumed) = s.isConsumed l.shared := by
    intro l hl
    rw [isConsumed, List.getElem?_append_left (hlt l hl)]
  have hnew : (s.objects ++ [({ revision, cycles, active, result } : Vu1EpochCheckpoint σ π)])[
      s.objects.length]? = some { revision, cycles, active, result } := by
    rw [List.getElem?_append_right le_rfl, Nat.sub_self]
    rfl
  refine ⟨{ hcore with
    journal := ?_
    chained := (hcore.chained.same sameEntries_append).snoc hactive ⟨_, hnew, hrecords⟩
    nodup := ?_
    consumed := ⟨gone, fresh ++ [⟨s.objects.length, processor⟩], ?_, ?_, ?_, hrun⟩ }, ?_⟩
  · rw [Vu1ExecutionEpoch.publish, hcore.journal, List.map_append]
    rfl
  · refine List.nodup_append.2 ⟨hcore.nodup, List.nodup_singleton _, fun i hi j hj => ?_⟩
    rw [hcore.journal] at hi
    obtain ⟨l, hl, rfl⟩ := List.mem_map.1 hi
    rw [List.mem_singleton.1 hj]
    exact Nat.ne_of_lt (hlt l hl)
  · rw [Vu1ExecutionEpoch.publish, hlocal, List.append_assoc]
  · intro l hl
    exact (hold l (hlocal ▸ List.mem_append_left _ hl)).trans (hgone l hl)
  · intro l hl
    rcases List.mem_append.1 hl with hl | hl
    · exact (hold l (hlocal ▸ List.mem_append_right _ hl)).trans (hfresh l hl)
    · rw [List.mem_singleton.1 hl, isConsumed, Vu1ExecutionEpoch.publish, hnew]
      rfl
  · refine ⟨⟨?_, ?_, nofun⟩, fun hreached => Or.inr ?_⟩
    · rw [Vu1ExecutionEpoch.publish, lastProcessor_append]
      rfl
    · have hsequence : processor.nextSequence = s.sequence + 1 := hrecords.sequence
      simp [Vu1ExecutionEpoch.publish, acceptsSequence, hcore.sequence, hsequence]
    · rw [Vu1ExecutionEpoch.publish, lastProcessor_append]
      have hactive' : active = true := by
        simpa [Vu1ExecutionEpoch.publish] using hreached
      exact hrecords.active.symm.trans hactive'

theorem Inv.produce (h : s.Inv vu unit) {cycles revision : ℕ}
    (haction : s.action = .Produce cycles revision) :
    (s.produce vu cycles revision).Inv vu unit := by
  obtain ⟨hcore, hphase⟩ := h
  unfold Phase at hphase
  rw [haction] at hphase
  obtain ⟨hpoised, hactive, hcycles⟩ := hphase
  unfold Vu1ExecutionEpoch.produce
  rw [if_neg hcycles.1, hpoised.accepts]
  simp only [Bool.not_true, Bool.false_eq_true, if_false]
  exact hcore.publish hactive
    { cycles := hcycles
      next := by
        rw [← hpoised.unit]
        rfl
      result := by
        rw [← hpoised.unit]
        rfl
      active := rfl
      sequence := rfl }

/-- If the worker is about to extend a front, then one that has left the unit active. -/
def extendsActive (s : Vu1ExecutionEpoch σ π) : Bool :=
  match s.action with
  | .Extend (some extension) _ _ => (s.objects[extension.frontier.shared]?).all (·.active)
  | _ => true

theorem Inv.extend (h : s.Inv vu unit) (hsplits : vu.Splits)
    {extension : Option (PositiveDemandExtension σ)} {revision discarded : ℕ}
    (haction : s.action = .Extend extension revision discarded) (hguard : s.extendsActive = true) :
    (s.extend vu extension revision discarded).Inv vu unit := by
  obtain ⟨hcore, hphase⟩ := h
  unfold Phase at hphase
  unfold extendsActive at hguard
  rw [haction] at hphase hguard
  obtain ⟨hlocal, e, checkpoint, rfl, hmem, hrecords, hconsumed, hlt, hle, hprocessor⟩ := hphase
  simp only [hmem, Option.all_some] at hguard
  have hfront : vu.isActive (vu.next s.options.captureState s.baseline.unit checkpoint.cycles) =
      true := by
    rw [← hrecords.next, ← hrecords.active, hguard]
  have hsum : checkpoint.cycles + (e.exactCycles - checkpoint.cycles) = e.exactCycles := by omega
  have hmissing : e.exactCycles - checkpoint.cycles ≠ 0 := by omega
  obtain ⟨hnext, hslice⟩ := hsplits.extend hrecords.cycles.1 hmissing (by omega) hfront
  have hexecuted := hsplits.executedCycles_le hrecords.cycles.1 hmissing (by omega) hfront
  rw [hsum, ← hrecords.next, ← hrecords.result] at hslice
  rw [hsum, ← hrecords.next] at hnext
  rw [← hrecords.next, ← hrecords.result] at hexecuted
  have hrestored : (if discarded ≠ 0 then { s with processor := e.frontier.processor } else s) =
      { s with processor := e.frontier.processor } := by
    split
    next => rfl
    next hzero => rw [← hprocessor (not_not.1 hzero)]
  have hrequested : checkpoint.result.run.requestedCycles = checkpoint.cycles := by
    rw [hrecords.result]
    rfl
  have haccepts : ({ s with
      processor := e.frontier.processor
      initialExecution := false } : Vu1ExecutionEpoch σ π).acceptsSequence = true := by
    simp [acceptsSequence, hcore.sequence, hrecords.sequence]
  unfold Vu1ExecutionEpoch.extend
  dsimp only
  rw [hmem]
  dsimp only
  rw [if_neg (by simp [hrecords.cycles.1, hconsumed, hlt]), if_neg (not_not.2 hrequested),
    hrestored, if_neg]
  · exact hcore.publish (Or.inl hlocal)
      { cycles := ⟨Nat.ne_zero_of_lt hlt, hle⟩
        next := by
          rw [hlocal]
          exact hnext.symm
        result := by
          rw [hlocal]
          exact hslice.symm
        active := rfl
        sequence := hrecords.sequence }
  · rw [haccepts]
    simp only [Bool.not_true, Bool.false_eq_true, false_or, not_lt]
    exact hexecuted

theorem Inv.work (h : s.Inv vu unit) (hsplits : vu.Splits) (hguard : s.extendsActive = true) :
    (s.work vu).Inv vu unit := by
  obtain ⟨hcore, hphase⟩ := id h
  unfold Phase at hphase
  unfold Vu1ExecutionEpoch.work
  cases haction : s.action with
  | Start =>
    rw [haction] at hphase
    obtain ⟨hprocessor, hbaseline, hlocal, hanswers, hinitial⟩ := hphase
    refine ⟨{ hcore with
      baseline := rfl
      chained := ?_
      consumed := ⟨[], [], hlocal, nofun, nofun, ?_⟩ }, ⟨?_, ?_, fun _ => hlocal⟩,
      fun _ => Or.inl hlocal⟩
    · rw [hlocal]
      trivial
    · rw [hanswers, hprocessor]
      rfl
    · rw [hlocal]
      rfl
    · simp [acceptsSequence, hinitial, hprocessor, hcore.sequence]
  | Decide => exact h.decide haction
  | Produce cycles revision => exact h.produce haction
  | Extend extension revision discarded => exact h.extend hsplits haction hguard
  | Rebase =>
    rw [haction] at hphase
    refine ⟨{ hcore with }, ⟨?_, ?_, nofun⟩, fun _ => Or.inl hphase⟩
    · rw [hphase]
      rfl
    · simp [acceptsSequence, hcore.sequence, hcore.baseline]
  | Stop =>
    rw [haction] at hphase
    exact ⟨{ hcore with }, hphase, rfl⟩
  | Finished => exact h

/-- A step of the worker does not extend a front that has gone inactive. -/
def Guard (s : Vu1ExecutionEpoch σ π) (input : Vu1EpochInput) : Prop :=
  input = .work → s.extendsActive = true

instance (s : Vu1ExecutionEpoch σ π) (input : Vu1EpochInput) : Decidable (s.Guard input) :=
  inferInstanceAs (Decidable (_ → _))

theorem step_inv (hsplits : vu.Splits) {input : Vu1EpochInput} (h : s.Inv vu unit)
    (hguard : s.Guard input) : (s.step vu input).Inv vu unit := by
  cases input with
  | waitExecutionEpochCheckpoint exactCycles => exact h.waitExecutionEpochCheckpoint
  | wake => exact h.wake
  | stopExecutionEpoch => exact h.stopExecutionEpoch
  | work => exact h.work hsplits (hguard rfl)

/-- The epoch keeps its options and its sequence number. -/
theorem step_options (vu : Vu1Advance σ π) (s : Vu1ExecutionEpoch σ π) (input : Vu1EpochInput) :
    (s.step vu input).options = s.options ∧ (s.step vu input).sequence = s.sequence := by
  cases input with
  | waitExecutionEpochCheckpoint exactCycles =>
    simp only [step, Vu1ExecutionEpoch.waitExecutionEpochCheckpoint]
    repeat' split
    all_goals exact ⟨rfl, rfl⟩
  | wake =>
    simp only [step, Vu1ExecutionEpoch.wake]
    repeat' split
    all_goals exact ⟨rfl, rfl⟩
  | stopExecutionEpoch => exact ⟨rfl, rfl⟩
  | work =>
    simp only [step, Vu1ExecutionEpoch.work]
    cases s.action with
    | Decide =>
      simp only [Vu1ExecutionEpoch.decide]
      repeat' split
      all_goals exact ⟨rfl, rfl⟩
    | Produce cycles revision =>
      simp only [Vu1ExecutionEpoch.produce]
      repeat' split
      all_goals exact ⟨rfl, rfl⟩
    | Extend extension revision discarded =>
      simp only [Vu1ExecutionEpoch.extend]
      repeat' split
      all_goals exact ⟨rfl, rfl⟩
    | _ => exact ⟨rfl, rfl⟩

/-- The cycle counts of the waits that were answered. -/
def demands (s : Vu1ExecutionEpoch σ π) : List ℕ :=
  s.answers.map (·.exactCycles)

/-- A program that takes as many cycles as the unit says and then sends a packet. -/
def countdown : Vu1Advance ℕ String where
  advance unit maximumCycles :=
    if unit = 0 then
      { unit := 0
        executedCycles := 0
        reason := .Inactive
        activeBefore := false
        activeAfter := false
        completed := false
        path1Packets := [] }
    else
      { unit := unit - maximumCycles
        executedCycles := ⟨min (min unit maximumCycles) uint32Max, by omega⟩
        reason := if unit ≤ maximumCycles then .ProgramEnded else .CycleBudget
        activeBefore := true
        activeAfter := maximumCycles < unit
        completed := unit ≤ maximumCycles
        path1Packets := if unit ≤ maximumCycles then ["drawn"] else [] }
  isActive unit := unit ≠ 0

theorem countdown_splits : countdown.Splits := by
  intro unit a b ha hb hab hactive
  have hlt : a < unit := by
    by_contra hle
    have hzero : unit - a = 0 := by omega
    by_cases hunit : unit = 0 <;> simp [countdown, hunit, hzero] at hactive
  have hunit : unit ≠ 0 := by omega
  have hrest : unit - a ≠ 0 := by omega
  have hle : (unit ≤ a + b) = (unit - a ≤ b) := by
    rw [eq_iff_iff]
    omega
  have hlt' : (a + b < unit) = (b < unit - a) := by
    rw [eq_iff_iff]
    omega
  exact
    { unit := by simp [countdown, hunit, hrest, Nat.sub_sub]
      executedCycles := by
        simp only [countdown, hunit, hrest, if_false]
        omega
      reason := by simp [countdown, hunit, hrest, hle]
      activeBefore := by simp [countdown, hunit]
      activeAfter := by simp [countdown, hunit, hrest, hlt']
      completed := by simp [countdown, hunit, hrest, hle]
      path1Packets := by simp [countdown, hunit, hrest, hle, not_le.2 hlt] }

/-- The EE asks for 16 cycles, then for 24 more, and stops. -/
def demandedRun : List Vu1EpochInput :=
  [.work, .work, .work, .waitExecutionEpochCheckpoint 16, .wake, .work, .work,
    .waitExecutionEpochCheckpoint 24, .work, .work, .work, .wake, .stopExecutionEpoch, .work, .work]

end Vu1ExecutionEpoch

end Ps2Recomp
