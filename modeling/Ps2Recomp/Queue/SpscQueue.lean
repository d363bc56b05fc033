import Ps2Recomp.Lib.BoundedFifo

/-!
# The single-producer single-consumer queue (`ps2_spsc_queue.h`)

`BoundedSpscQueue` is the ring of `capacity + 1` slots with its two cursors. One thread runs
`tryEmplace`, one runs `tryPop`; each call is cut at its accesses to what the other thread may
touch: the loads of the cursors, the test, the filling and the emptying of a slot, the store of the
cursor. `Emplacing` and `Popping` are where the two threads stand, with the copies of the cursors
they loaded, and `System.step` lets one thread make its next access, so that the runs of the machine
are the interleavings.

Positions are `Fin (capacity + 1)`: the constructor refuses a capacity of `SIZE_MAX`
(`storageCapacity`), so `++position` does not wrap. The values are taken to be moved without an
exception; their construction in the slot may throw (`Action.emplaceThrows`).
-/

namespace Ps2Recomp

open Ring

local instance (priority := 2000) neZero_storage (n : ℕ) : NeZero (n + 1) := neZero_slots n

/-- The cursors and the slots; an empty slot is an `std::optional` without a value. -/
structure BoundedSpscQueue (T : Type*) (capacity : ℕ) where
  slots : Fin (capacity + 1) → Option T := fun _ => none
  producer : Fin (capacity + 1) := 0
  consumer : Fin (capacity + 1) := 0

namespace BoundedSpscQueue

variable {T : Type*} {n : ℕ}

/-- What the constructor throws: `std::invalid_argument` or `std::length_error`, with its text. -/
inductive SpscError where
  | invalidArgument (what : String)
  | lengthError (what : String)
  deriving DecidableEq, Repr

/-- `std::numeric_limits<size_t>::max()`. -/
def sizeMax : ℕ := 2 ^ 64 - 1

def storageCapacity (capacity : ℕ) : Except SpscError ℕ :=
  if capacity = 0 then
    throw (.invalidArgument "SPSC queue capacity must be non-zero")
  else if capacity = sizeMax then
    throw (.lengthError "SPSC queue capacity cannot be represented")
  else
    return capacity + 1

def construct (T : Type*) (capacity : ℕ) : Except SpscError (BoundedSpscQueue T capacity) :=
  (storageCapacity capacity).map fun _ => {}

/-! ## Queries -/

def empty (q : BoundedSpscQueue T n) : Bool := q.consumer == q.producer

def full (q : BoundedSpscQueue T n) : Bool := advance q.producer == q.consumer

def size (q : BoundedSpscQueue T n) : ℕ :=
  if q.consumer ≤ q.producer then q.producer - q.consumer
  else n + 1 - q.consumer + q.producer

/-! ## The two threads -/

/-- Where the producer stands in `tryEmplace`. -/
inductive Emplacing (T : Type*) (n : ℕ) where
  | idle
  | loadedProducer (value : T) (producer : Fin (n + 1))
  | hasRoom (value : T) (producer next : Fin (n + 1))
  | slotEmpty (value : T) (producer next : Fin (n + 1))
  | emplaced (value : T) (next : Fin (n + 1))

/-- Where the consumer stands in `tryPop`. -/
inductive Popping (T : Type*) (n : ℕ) where
  | idle
  | loadedConsumer (consumer : Fin (n + 1))
  | published (consumer : Fin (n + 1))
  | slotFull (consumer : Fin (n + 1))
  | moved (consumer : Fin (n + 1)) (value : Option T)
  | reset (consumer : Fin (n + 1)) (value : Option T)

structure System (T : Type*) (n : ℕ) where
  queue : BoundedSpscQueue T n
  emplacing : Emplacing T n := .idle
  popping : Popping T n := .idle

/-- What a step reports: nothing yet, the answer of the call it ends, or what it throws. -/
inductive Outcome (T : Type*) where
  | running
  | emplaced (v : T)
  | refused
  | popped (v : T)
  | nothing
  | constructorThrew
  | occupiedSlot
  | emptyPublishedSlot
  deriving DecidableEq, Repr

/-- A thread makes its next access. An idle producer begins a call with the value given. -/
inductive Action (T : Type*) where
  | tryEmplace (value : T)
  | emplaceThrows
  | tryPop
  deriving DecidableEq, Repr

namespace System

/-- The next access of `tryEmplace`. -/
def tryEmplace (s : System T n) (value : T) : System T n × Outcome T :=
  match s.emplacing with
  | .idle => ({ s with emplacing := .loadedProducer value s.queue.producer }, .running)
  | .loadedProducer value producer =>
    let next := advance producer
    if next = s.queue.consumer then ({ s with emplacing := .idle }, .refused)
    else ({ s with emplacing := .hasRoom value producer next }, .running)
  | .hasRoom value producer next =>
    if (s.queue.slots producer).isSome then ({ s with emplacing := .idle }, .occupiedSlot)
    else ({ s with emplacing := .slotEmpty value producer next }, .running)
  | .slotEmpty value producer next =>
    ({ s with
        queue := { s.queue with slots := Function.update s.queue.slots producer (some value) }
        emplacing := .emplaced value next }, .running)
  | .emplaced value next =>
    ({ s with queue := { s.queue with producer := next }, emplacing := .idle }, .emplaced value)

/-- The constructor of the value throws: the slot stays empty. -/
def emplaceThrows (s : System T n) : System T n × Outcome T :=
  match s.emplacing with
  | .slotEmpty _ _ _ => ({ s with emplacing := .idle }, .constructorThrew)
  | _ => (s, .running)

/-- The next access of `tryPop`. A slot whose value was moved out still has a value until it is
reset; nobody reads it. -/
def tryPop (s : System T n) : System T n × Outcome T :=
  match s.popping with
  | .idle => ({ s with popping := .loadedConsumer s.queue.consumer }, .running)
  | .loadedConsumer consumer =>
    if consumer = s.queue.producer then ({ s with popping := .idle }, .nothing)
    else ({ s with popping := .published consumer }, .running)
  | .published consumer =>
    if (s.queue.slots consumer).isSome then ({ s with popping := .slotFull consumer }, .running)
    else ({ s with popping := .idle }, .emptyPublishedSlot)
  | .slotFull consumer =>
    ({ s with popping := .moved consumer (s.queue.slots consumer) }, .running)
  | .moved consumer value =>
    ({ s with
        queue := { s.queue with slots := Function.update s.queue.slots consumer none }
        popping := .reset consumer value }, .running)
  | .reset consumer value =>
    ({ s with queue := { s.queue with consumer := advance consumer }, popping := .idle },
      value.elim .nothing .popped)

def act (s : System T n) : Action T → System T n × Outcome T
  | .tryEmplace value => s.tryEmplace value
  | .emplaceThrows => s.emplaceThrows
  | .tryPop => s.tryPop

def step (s : System T n) (a : Action T) : System T n := (s.act a).1

def outcome (s : System T n) (a : Action T) : Outcome T := (s.act a).2

/-- The number of slots that hold a value. -/
def stored (s : System T n) : ℕ := (List.finRange (n + 1)).countP fun i => (s.queue.slots i).isSome

end System

/-- The values whose `tryEmplace` returned true. -/
def pushed (outcomes : List (Outcome T)) : List T :=
  outcomes.flatMap fun
    | .emplaced v => [v]
    | _ => []

/-- The values that `tryPop` returned. -/
def popped (outcomes : List (Outcome T)) : List T :=
  outcomes.flatMap fun
    | .popped v => [v]
    | _ => []

end BoundedSpscQueue

end Ps2Recomp
