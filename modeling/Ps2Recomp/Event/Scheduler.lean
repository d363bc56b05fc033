import Ps2Recomp.Timing

/-!
# The EE event scheduler

Model of `EeEventScheduler` (`ee_event_scheduler.h`, `ee_event_scheduler.cpp`): one slot per event
source, and the earliest pending deadline cached beside the table.

* `m_slots` is a function from `Fin kEeEventSourceCount`. `slot` turns a source into an index;
  `EeEventSource::Count`, a value of the enumeration that names no slot, has none.
* The visitor of `serviceDue` is arbitrary code with state of its own. What it does when it is
  handed an event is a function of everything it has been handed in this `serviceDue` so far
  (`Delivery`, newest first): the calls it makes on the scheduler, and whether it then throws.
  Calls whose arguments depend on the answers to earlier calls are covered, since the scheduler it
  was handed determines those answers.
* `serviceDue` returns `none` where the C++ rethrows the visitor's exception.
-/

namespace Ps2Recomp

/-! ## Types -/

inductive EeEventSource where
  | Cop0Performance
  | VSync
  | EeCounters
  | Cop0Timer
  | DmacCompletion
  | DmacVif1
  | DmacGif
  | HleSif1
  | DmacVif0
  | DmacFromIpu
  | DmacToIpu
  | DmacFromScratchpad
  | DmacToScratchpad
  | VifVu0Finish
  | VifVu1Finish
  | Count
  deriving DecidableEq, Repr

/-- `kEeEventSourceCount`. -/
abbrev kEeEventSourceCount : Nat := 15

/-- An index into `m_slots`. -/
abbrev EventIndex := Fin kEeEventSourceCount

/-- `eeEventSourceIndex`. -/
def eeEventSourceIndex : EeEventSource → Nat
  | .Cop0Performance => 0
  | .VSync => 1
  | .EeCounters => 2
  | .Cop0Timer => 3
  | .DmacCompletion => 4
  | .DmacVif1 => 5
  | .DmacGif => 6
  | .HleSif1 => 7
  | .DmacVif0 => 8
  | .DmacFromIpu => 9
  | .DmacToIpu => 10
  | .DmacFromScratchpad => 11
  | .DmacToScratchpad => 12
  | .VifVu0Finish => 13
  | .VifVu1Finish => 14
  | .Count => 15

/-- `slot`: the index of the source's slot. `Count` is out of range. -/
def EeEventSource.slot (source : EeEventSource) : Option EventIndex :=
  if h : eeEventSourceIndex source < kEeEventSourceCount then some ⟨_, h⟩ else none

/-- `static_cast<EeEventSource>(index)`. -/
def EeEventSource.ofIndex (index : EventIndex) : EeEventSource :=
  match index with
  | 0 => .Cop0Performance
  | 1 => .VSync
  | 2 => .EeCounters
  | 3 => .Cop0Timer
  | 4 => .DmacCompletion
  | 5 => .DmacVif1
  | 6 => .DmacGif
  | 7 => .HleSif1
  | 8 => .DmacVif0
  | 9 => .DmacFromIpu
  | 10 => .DmacToIpu
  | 11 => .DmacFromScratchpad
  | 12 => .DmacToScratchpad
  | 13 => .VifVu0Finish
  | 14 => .VifVu1Finish

@[simp] theorem EeEventSource.slot_ofIndex (index : EventIndex) :
    (EeEventSource.ofIndex index).slot = some index := by
  revert index
  decide

@[simp] theorem eeEventSourceIndex_ofIndex (index : EventIndex) :
    eeEventSourceIndex (EeEventSource.ofIndex index) = index.val := by
  revert index
  decide

structure EeEventToken where
  source : EeEventSource := .Cop0Performance
  generation : Fin uint64Count := 0
  deriving DecidableEq, Repr

structure EeEventService where
  source : EeEventSource := .Cop0Performance
  scheduledTick : EeTick := 0
  serviceTick : EeTick := 0
  latenessTicks : EeTickDelta := 0
  generation : Fin uint64Count := 0
  sequence : Fin uint64Count := 0
  deriving DecidableEq, Repr

structure EeEventServiceResult where
  serviced : Nat := 0
  limitExceeded : Bool := false
  reentrantServiceRejected : Bool := false
  offendingSource : Option EeEventSource := none
  deriving DecidableEq, Repr

structure EeEventSchedulerStatistics where
  scheduled : Fin uint64Count := 0
  replaced : Fin uint64Count := 0
  cancelled : Fin uint64Count := 0
  serviced : Fin uint64Count := 0
  late : Fin uint64Count := 0
  sameTickReschedules : Fin uint64Count := 0
  serviceLimitHits : Fin uint64Count := 0
  deriving DecidableEq, Repr

structure EeEventSlotSnapshot where
  source : EeEventSource := .Cop0Performance
  deadline : EeTick := 0
  generation : Fin uint64Count := 0
  sequence : Fin uint64Count := 0
  pending : Bool := false
  deriving DecidableEq, Repr

structure EeEventSchedulerSnapshot where
  slots : EventIndex → EeEventSlotSnapshot := fun _ => {}
  nextSequence : Fin uint64Count := 0
  statistics : EeEventSchedulerStatistics := {}

/-- `EeEventScheduler::Slot`. -/
structure EventSlot where
  deadline : EeTick := 0
  generation : Fin uint64Count := 0
  sequence : Fin uint64Count := 0
  pending : Bool := false
  deriving DecidableEq, Repr

/-- The members of `EeEventScheduler`. -/
structure EeEventScheduler where
  slots : EventIndex → EventSlot := fun _ => {}
  nextDeadline : EeTick := 0
  nextSource : EeEventSource := .Cop0Performance
  hasPending : Bool := false
  nextSequence : Fin uint64Count := 0
  statistics : EeEventSchedulerStatistics := {}
  serviceTick : EeTick := 0
  servicing : Bool := false

namespace EeEventScheduler

variable (s : EeEventScheduler)

/-! ## The cached minimum -/

/-- The cache while `recomputeNext` runs over the slots. -/
structure NextEvent where
  hasPending : Bool := false
  nextDeadline : EeTick := uint64Max
  nextSource : EeEventSource := .Cop0Performance

/-- The body of the loop of `recomputeNext`. -/
def NextEvent.visit (next : NextEvent) (index : EventIndex) (candidate : EventSlot) : NextEvent :=
  if !candidate.pending then next
  else if !next.hasPending ∨ candidate.deadline < next.nextDeadline ∨
      (candidate.deadline = next.nextDeadline ∧
        index.val < eeEventSourceIndex next.nextSource) then
    ⟨true, candidate.deadline, .ofIndex index⟩
  else next

/-- `recomputeNext`. -/
def recomputeNext : EeEventScheduler :=
  let next : NextEvent := (List.finRange kEeEventSourceCount).foldl
    (fun next index => next.visit index (s.slots index)) {}
  { s with
    hasPending := next.hasPending
    nextDeadline := next.nextDeadline
    nextSource := next.nextSource }

/-- The constructor. -/
def new : EeEventScheduler := recomputeNext {}

/-- `deadlineDue`. -/
def deadlineDue (now : EeTick) : Bool := s.hasPending && decide (s.nextDeadline ≤ now)

/-- `nextDueSource`. -/
def nextDueSource (now : EeTick) : Option EeEventSource :=
  if !s.deadlineDue now then none else some s.nextSource

/-! ## Scheduling and cancelling -/

/-- `nextNonzero`. -/
def nextNonzero (value : Fin uint64Count) : Fin uint64Count :=
  if value + 1 = 0 then 1 else value + 1

/-- Write a slot back. -/
def setSlot (index : EventIndex) (target : EventSlot) : EeEventScheduler :=
  { s with slots := Function.update s.slots index target }

/-- `scheduleAbsolute`. -/
def scheduleAbsolute (source : EeEventSource) (deadline : EeTick) :
    EeEventToken × EeEventScheduler :=
  match source.slot with
  | none => (⟨source, 0⟩, s)
  | some index =>
    let target := s.slots index
    let generation := nextNonzero target.generation
    let nextSequence := nextNonzero s.nextSequence
    let statistics :=
      { s.statistics with
        replaced := if target.pending then s.statistics.replaced + 1 else s.statistics.replaced
        scheduled := s.statistics.scheduled + 1
        sameTickReschedules :=
          if s.servicing ∧ deadline ≤ s.serviceTick then s.statistics.sameTickReschedules + 1
          else s.statistics.sameTickReschedules }
    (⟨source, generation⟩,
      { s.setSlot index
          { deadline := deadline
            generation := generation
            sequence := nextSequence
            pending := true } with
        nextSequence := nextSequence
        statistics := statistics }.recomputeNext)

/-- `scheduleAfter`. -/
def scheduleAfter (source : EeEventSource) (now : EeTick) (delay : EeTickDelta) :
    EeEventToken × EeEventScheduler :=
  s.scheduleAbsolute source (saturatingAdd now delay)

/-- `cancel(EeEventSource)`. -/
def cancel (source : EeEventSource) : Bool × EeEventScheduler :=
  match source.slot with
  | none => (false, s)
  | some index =>
    let target := s.slots index
    if !target.pending then (false, s)
    else
      (true,
        { s.setSlot index
            { target with pending := false, generation := nextNonzero target.generation } with
          statistics :=
            { s.statistics with cancelled := s.statistics.cancelled + 1 } }.recomputeNext)

/-- `cancel(EeEventToken)`. -/
def cancelToken (token : EeEventToken) : Bool × EeEventScheduler :=
  match token.source.slot with
  | none => (false, s)
  | some index =>
    let target := s.slots index
    if !target.pending ∨ target.generation ≠ token.generation then (false, s)
    else s.cancel token.source

/-- `reset`. -/
def reset : EeEventScheduler :=
  { s with
    slots := fun index =>
      { deadline := 0
        generation := nextNonzero (s.slots index).generation
        sequence := 0
        pending := false }
    nextSequence := 0
    statistics := {}
    serviceTick := 0
    servicing := false }.recomputeNext

/-! ## Snapshots -/

/-- `snapshot`. -/
def snapshot : EeEventSchedulerSnapshot :=
  { slots := fun index =>
      { source := .ofIndex index
        deadline := (s.slots index).deadline
        generation := (s.slots index).generation
        sequence := (s.slots index).sequence
        pending := (s.slots index).pending }
    nextSequence := s.nextSequence
    statistics := s.statistics }

/-- The checks of `restore` on one slot. The sequences already in `pendingSequences` are those of
the pending slots before it. -/
def restorable (state : EeEventSchedulerSnapshot) (index : EventIndex) : Prop :=
  let source := state.slots index
  source.source = .ofIndex index ∧
    (source.pending → source.generation ≠ 0 ∧ source.sequence ≠ 0 ∧
      source.sequence ≤ state.nextSequence ∧
      ∀ before < index, (state.slots before).pending →
        (state.slots before).sequence ≠ source.sequence)

instance (state : EeEventSchedulerSnapshot) (index : EventIndex) :
    Decidable (restorable state index) :=
  inferInstanceAs (Decidable (_ ∧ _))

/-- `restore`. -/
def restore (state : EeEventSchedulerSnapshot) : Bool × EeEventScheduler :=
  if ∀ index, restorable state index then
    (true,
      { s with
        slots := fun index =>
          { deadline := (state.slots index).deadline
            generation := (state.slots index).generation
            sequence := (state.slots index).sequence
            pending := (state.slots index).pending }
        nextSequence := state.nextSequence
        statistics := state.statistics
        serviceTick := 0
        servicing := false }.recomputeNext)
  else (false, s)

/-! ## Servicing -/

/-- What `takeNextDue` hands out for a slot. -/
def serviceOf (source : EeEventSource) (now : EeTick) (target : EventSlot) : EeEventService :=
  { source := source
    scheduledTick := target.deadline
    serviceTick := now
    latenessTicks := elapsedEeTicks target.deadline now
    generation := target.generation
    sequence := target.sequence }

/-- `takeNextDue`. -/
def takeNextDue (now : EeTick) : Option EeEventService × EeEventScheduler :=
  match s.nextDueSource now with
  | none => (none, s)
  | some source =>
    match source.slot with
    | none => (none, s.recomputeNext)
    | some index =>
      let target := s.slots index
      if !target.pending then (none, s.recomputeNext)
      else
        let service := serviceOf source now target
        let s' := (s.setSlot index { target with pending := false }).recomputeNext
        (some service,
          { s' with
            statistics :=
              { s'.statistics with
                serviced := s'.statistics.serviced + 1
                late :=
                  if service.latenessTicks ≠ 0 then s'.statistics.late + 1
                  else s'.statistics.late } })

end EeEventScheduler

/-- A call a visitor can make. -/
inductive EventCall where
  | scheduleAbsolute (source : EeEventSource) (deadline : EeTick)
  | scheduleAfter (source : EeEventSource) (now : EeTick) (delay : EeTickDelta)
  | cancel (source : EeEventSource)
  | cancelToken (token : EeEventToken)
  deriving DecidableEq, Repr

/-- The scheduler after a call. -/
def EventCall.run (s : EeEventScheduler) : EventCall → EeEventScheduler
  | .scheduleAbsolute source deadline => (s.scheduleAbsolute source deadline).2
  | .scheduleAfter source now delay => (s.scheduleAfter source now delay).2
  | .cancel source => (s.cancel source).2
  | .cancelToken token => (s.cancelToken token).2

/-- One event handed to the visitor: the scheduler the event was taken from, the event, and the
scheduler the visitor finds. -/
structure Delivery where
  before : EeEventScheduler
  service : EeEventService
  handed : EeEventScheduler

/-- A visitor: what it does when the head of the list is handed to it, the rest having been handed
to it before, and whether it then throws. -/
abbrev Visitor := List Delivery → List EventCall × Bool

namespace EeEventScheduler

variable (s : EeEventScheduler)

/-- `kMaximumServicesPerBoundary`. -/
abbrev kMaximumServicesPerBoundary : Nat := 1024

/-- What a run of the loop of `serviceDue` leaves: the scheduler, the deliveries newest first, and
whether the visitor threw. -/
structure ServiceRun where
  scheduler : EeEventScheduler
  deliveries : List Delivery
  threw : Bool

/-- The loop of `serviceDue`, with the number of services still allowed. -/
def serviceLoop (now : EeTick) (visitor : Visitor) (s : EeEventScheduler) (done : List Delivery) :
    Nat → ServiceRun
  | 0 => ⟨s, done, false⟩
  | allowed + 1 =>
    match s.takeNextDue now with
    | (none, s') => ⟨s', done, false⟩
    | (some service, s') =>
      let done := ⟨s, service, s'⟩ :: done
      let s'' := (visitor done).1.foldl EventCall.run s'
      if (visitor done).2 then ⟨s'', done, true⟩ else serviceLoop now visitor s'' done allowed

/-- The loop of `serviceDue` from its start. -/
def serviceRun (now : EeTick) (visitor : Visitor) : ServiceRun :=
  serviceLoop now visitor { s with servicing := true, serviceTick := now } []
    kMaximumServicesPerBoundary

/-- The lines of `serviceDue` after the loop. -/
def ServiceRun.finish (now : EeTick) (run : ServiceRun) :
    Option EeEventServiceResult × EeEventScheduler :=
  let s' := { run.scheduler with servicing := false }
  if run.threw then (none, s')
  else if s'.deadlineDue now then
    (some
      { serviced := run.deliveries.length
        limitExceeded := true
        offendingSource := s'.nextDueSource now },
      { s' with
        statistics :=
          { s'.statistics with serviceLimitHits := s'.statistics.serviceLimitHits + 1 } })
  else (some { serviced := run.deliveries.length }, s')

/-- `serviceDue`. -/
def serviceDue (now : EeTick) (visitor : Visitor) :
    Option EeEventServiceResult × EeEventScheduler :=
  if s.servicing then
    (some { reentrantServiceRejected := true, offendingSource := s.nextDueSource now }, s)
  else (s.serviceRun now visitor).finish now

end EeEventScheduler

/-! ## Operations -/

/-- One operation of the scheduler's owner. -/
inductive EventOp where
  | call (c : EventCall)
  | reset
  | restore (state : EeEventSchedulerSnapshot)
  | serviceDue (now : EeTick) (visitor : Visitor)

/-- The scheduler after an operation. -/
def EventOp.run (s : EeEventScheduler) : EventOp → EeEventScheduler
  | .call c => c.run s
  | .reset => s.reset
  | .restore state => (s.restore state).2
  | .serviceDue now visitor => (s.serviceDue now visitor).2

end Ps2Recomp
