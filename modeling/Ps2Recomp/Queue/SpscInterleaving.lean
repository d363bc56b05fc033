import Ps2Recomp.Queue.SpscQueue

/-!
# Every interleaving of the queue is a bounded fifo

`Tracks s c xs` says that the queue holds `xs` and that `c` values were taken before: the cursors are
the positions of `c` and of `c + xs.length`, every slot holds what it should (`entry`), and the copies
in the hands of the two threads are still good. The consumer's cursor may have moved on since the
producer read it; this only makes room, and the same holds the other way round.

Each step reports a step of `BoundedFifo` (`act_tracks`), so each run is a path of it (`run_path`).
-/

namespace Ps2Recomp

open Ring Machine

namespace BoundedSpscQueue

variable {T : Type*} {n : ℕ}

/-! ## The invariant -/

/-- The value in the slot the producer has filled and not published. -/
def Emplacing.written : Emplacing T n → Option T
  | .emplaced value _ => some value
  | _ => none

/-- The consumer has emptied the slot of the oldest entry. -/
def Popping.hasReset : Popping T n → Bool
  | .reset _ _ => true
  | _ => false

/-- What the producer knows. -/
def Emplacing.Ok (q : BoundedSpscQueue T n) (xs : List T) : Emplacing T n → Prop
  | .idle => True
  | .loadedProducer _ producer => producer = q.producer
  | .hasRoom _ producer next => producer = q.producer ∧ next = advance q.producer ∧ xs.length < n
  | .slotEmpty _ producer next => producer = q.producer ∧ next = advance q.producer ∧ xs.length < n
  | .emplaced _ next => next = advance q.producer ∧ xs.length < n

/-- What the consumer knows. -/
def Popping.Ok (q : BoundedSpscQueue T n) (xs : List T) : Popping T n → Prop
  | .idle => True
  | .loadedConsumer consumer => consumer = q.consumer
  | .published consumer => consumer = q.consumer ∧ xs ≠ []
  | .slotFull consumer => consumer = q.consumer ∧ xs ≠ []
  | .moved consumer value => consumer = q.consumer ∧ xs.head? = value ∧ xs ≠ []
  | .reset consumer value => consumer = q.consumer ∧ xs.head? = value ∧ xs ≠ []

/-- What the slot `i` places after the consumer's holds. -/
def System.entry (s : System T n) (xs : List T) (i : ℕ) : Option T :=
  if i = 0 ∧ s.popping.hasReset then none else (xs ++ s.emplacing.written.toList)[i]?

/-- The queue holds `xs` after `c` values were taken. -/
structure Tracks (s : System T n) (c : ℕ) (xs : List T) : Prop where
  consumer_eq : s.queue.consumer = position n c
  producer_eq : s.queue.producer = position n (c + xs.length)
  length_le : xs.length ≤ n
  slots_eq : ∀ i ≤ n, s.queue.slots (position n (c + i)) = s.entry xs i
  emplacing_ok : s.emplacing.Ok s.queue xs
  popping_ok : s.popping.Ok s.queue xs

variable {s : System T n} {c : ℕ} {xs : List T}

theorem tracks_start : Tracks ({ queue := {} } : System T n) 0 [] where
  consumer_eq := rfl
  producer_eq := rfl
  length_le := n.zero_le
  slots_eq i _ := by simp [System.entry, Emplacing.written, Popping.hasReset]
  emplacing_ok := trivial
  popping_ok := trivial

namespace Tracks

/-- The next slot of the producer is the consumer's exactly if the queue is full. -/
theorem full_iff (h : Tracks s c xs) : s.queue.full = true ↔ xs.length = n := by
  rw [full, beq_iff_eq, h.producer_eq, h.consumer_eq, advance_position]
  constructor
  · intro heq
    by_contra hne
    have hlt : xs.length + 1 ≤ n := Nat.lt_of_le_of_ne h.length_le hne
    have := position_injOn (k := c) hlt n.zero_le (by simpa [Nat.add_assoc] using heq)
    omega
  · intro hlen
    rw [hlen, Nat.add_assoc, position_wrap]

theorem empty_iff (h : Tracks s c xs) : s.queue.empty = true ↔ xs = [] := by
  rw [empty, beq_iff_eq, h.producer_eq, h.consumer_eq, ← List.length_eq_zero_iff]
  constructor
  · intro heq
    exact (position_injOn (k := c) n.zero_le h.length_le (by simpa using heq)).symm
  · intro hlen
    rw [hlen]
    rfl

/-- The size that a query by cursors answers. -/
theorem size_eq (h : Tracks s c xs) : s.queue.size = xs.length := by
  have hc : s.queue.consumer.val = c % (n + 1) := by rw [h.consumer_eq]; rfl
  have hp : s.queue.producer.val = (c % (n + 1) + xs.length) % (n + 1) := by
    rw [h.producer_eq, Nat.mod_add_mod]; rfl
  have hlt : c % (n + 1) < n + 1 := Nat.mod_lt _ n.succ_pos
  have hlen := h.length_le
  simp only [size, Fin.le_def, hc, hp]
  rcases Nat.lt_or_ge (c % (n + 1) + xs.length) (n + 1) with hfit | hwrap
  · rw [Nat.mod_eq_of_lt hfit, if_pos (Nat.le_add_right ..)]
    omega
  · have hmod : (c % (n + 1) + xs.length) % (n + 1) = c % (n + 1) + xs.length - (n + 1) := by
      rw [Nat.mod_eq_sub_mod hwrap, Nat.mod_eq_of_lt (by omega)]
    rw [hmod, if_neg (by omega)]
    omega

theorem producer_slot (h : Tracks s c xs) :
    s.queue.slots s.queue.producer = s.entry xs xs.length := by
  rw [h.producer_eq, h.slots_eq _ h.length_le]

theorem consumer_slot (h : Tracks s c xs) : s.queue.slots s.queue.consumer = s.entry xs 0 := by
  rw [h.consumer_eq]
  exact h.slots_eq 0 n.zero_le

end Tracks

/-! ## One step -/

/-- The step of the fifo that an outcome reports; what throws a `logic_error` is none. -/
def Outcome.event : Outcome T → Option (BoundedFifo.Event T)
  | .running => some .silent
  | .emplaced v => some (.put v)
  | .refused => some .full
  | .popped v => some (.take v)
  | .nothing => some .empty
  | .constructorThrew => some .silent
  | .occupiedSlot => none
  | .emptyPublishedSlot => none

/-- A step of the fifo with its event, after which the system tracks the new contents. -/
def Simulated (xs : List T) (after : System T n × Outcome T) : Prop :=
  ∃ e c' xs', after.2.event = some e ∧ BoundedFifo.Step n xs e xs' ∧ Tracks after.1 c' xs'

/-- A step that changes neither the queue nor what the slots should hold. -/
theorem Tracks.silent (h : Tracks s c xs) {s' : System T n} {o : Outcome T}
    (ho : o.event = some .silent) (hq : s'.queue = s.queue)
    (hw : s'.emplacing.written = s.emplacing.written)
    (hr : s'.popping.hasReset = s.popping.hasReset) (he : s'.emplacing.Ok s.queue xs)
    (hp : s'.popping.Ok s.queue xs) : Simulated xs (s', o) := by
  refine ⟨_, c, xs, ho, .silent xs, ?_⟩
  constructor
  · rw [hq, h.consumer_eq]
  · rw [hq, h.producer_eq]
  · exact h.length_le
  · intro i hi
    rw [hq, h.slots_eq i hi, System.entry, System.entry, hw, hr]
  · rwa [hq]
  · rwa [hq]

/-- The producer fills its slot, which nobody sees yet. -/
theorem Tracks.fill (h : Tracks s c xs) {value : T} {next : Fin (n + 1)}
    (hw : s.emplacing.written = none) (hnext : next = advance s.queue.producer)
    (hroom : xs.length < n) :
    Tracks
      { s with
        queue :=
          { s.queue with slots := Function.update s.queue.slots s.queue.producer (some value) }
        emplacing := .emplaced value next } c xs where
  consumer_eq := h.consumer_eq
  producer_eq := h.producer_eq
  length_le := h.length_le
  slots_eq i hi := by
    simp only [System.entry, Emplacing.written, Option.toList_some]
    by_cases hlast : i = xs.length
    · have hfresh : ¬ (xs.length = 0 ∧ s.popping.hasReset = true) := by
        rintro ⟨hlen, hreset⟩
        have hp := h.popping_ok
        cases hpop : s.popping with
        | reset consumer v =>
          rw [hpop] at hp
          exact hp.2.2 (List.length_eq_zero_iff.1 hlen)
        | _ => simp [hpop, Popping.hasReset] at hreset
      rw [hlast, ← h.producer_eq, Function.update_self, if_neg hfresh]
      simp
    · have hne : position n (c + i) ≠ s.queue.producer := by
        rw [h.producer_eq]
        exact fun heq => hlast (position_injOn hi h.length_le heq)
      rw [Function.update_of_ne hne, h.slots_eq i hi, System.entry, hw]
      rcases Nat.lt_or_gt_of_ne hlast with hlt | hgt
      · rw [List.getElem?_append_left hlt, List.getElem?_append_left hlt]
      · rw [List.getElem?_eq_none (by simp; omega), List.getElem?_eq_none (by simp; omega)]
  emplacing_ok := ⟨hnext, hroom⟩
  popping_ok := h.popping_ok

theorem head?_append_of_ne_nil {ys : List T} (hne : xs ≠ []) : (xs ++ ys).head? = xs.head? := by
  obtain ⟨x, rest, rfl⟩ := List.exists_cons_of_ne_nil hne
  rfl

/-- What the consumer knows stays true as the producer publishes. -/
theorem Popping.Ok.append {q : BoundedSpscQueue T n} {p : Popping T n} (h : p.Ok q xs) {v : T}
    {next : Fin (n + 1)} : p.Ok { q with producer := next } (xs ++ [v]) := by
  cases p with
  | idle => trivial
  | loadedConsumer consumer => exact h
  | published consumer => exact ⟨h.1, by simp⟩
  | slotFull consumer => exact ⟨h.1, by simp⟩
  | moved consumer value => exact ⟨h.1, (head?_append_of_ne_nil h.2.2).trans h.2.1, by simp⟩
  | reset consumer value => exact ⟨h.1, (head?_append_of_ne_nil h.2.2).trans h.2.1, by simp⟩

/-- The producer publishes the slot it has filled. -/
theorem Tracks.publish (h : Tracks s c xs) {value : T} {next : Fin (n + 1)}
    (he : s.emplacing = .emplaced value next) :
    Tracks
      { s with queue := { s.queue with producer := next }, emplacing := .idle } c
      (xs ++ [value]) := by
  have hok := h.emplacing_ok
  rw [he] at hok
  obtain ⟨hnext, hroom⟩ := hok
  constructor
  · exact h.consumer_eq
  · simp [hnext, h.producer_eq, Nat.add_assoc]
  · simpa using Nat.succ_le_of_lt hroom
  · intro i hi
    simp [h.slots_eq i hi, System.entry, Emplacing.written, he]
  · trivial
  · exact h.popping_ok.append

theorem Tracks.tryEmplace (h : Tracks s c xs) (value : T) : Simulated xs (s.tryEmplace value) := by
  have hok := h.emplacing_ok
  have hp := h.popping_ok
  unfold System.tryEmplace
  cases he : s.emplacing with
  | idle => exact h.silent rfl rfl (by simp [he, Emplacing.written]) rfl rfl hp
  | loadedProducer value producer =>
    rw [he] at hok
    have hproducer : producer = s.queue.producer := hok
    subst hproducer
    dsimp only
    split
    next hfull =>
      -- no room: the queue is full as the consumer's cursor is read
      have hlen : xs.length = n := h.full_iff.1 (beq_iff_eq.2 hfull)
      refine ⟨.full, c, xs, rfl, .full hlen, ?_⟩
      exact ⟨h.consumer_eq, h.producer_eq, h.length_le, fun i hi => by
        rw [h.slots_eq i hi]; simp [System.entry, Emplacing.written, he], trivial, hp⟩
    next hfull =>
      have hlen : xs.length < n :=
        Nat.lt_of_le_of_ne h.length_le fun hlen => hfull (beq_iff_eq.1 (h.full_iff.2 hlen))
      exact h.silent rfl rfl (by simp [he, Emplacing.written]) rfl ⟨rfl, rfl, hlen⟩ hp
  | hasRoom value producer next =>
    rw [he] at hok
    obtain ⟨hproducer, hnext, hroom⟩ := hok
    have hslot : s.queue.slots producer = none := by
      rw [hproducer, h.producer_slot]
      simp [System.entry, Emplacing.written, he]
    simp only [hslot, Option.isSome_none, Bool.false_eq_true, if_false]
    exact h.silent rfl rfl (by simp [he, Emplacing.written]) rfl ⟨hproducer, hnext, hroom⟩ hp
  | slotEmpty value producer next =>
    rw [he] at hok
    obtain ⟨rfl, hnext, hroom⟩ := hok
    exact ⟨.silent, c, xs, rfl, .silent xs, h.fill (by simp [he, Emplacing.written]) hnext hroom⟩
  | emplaced value next =>
    rw [he] at hok
    exact ⟨.put value, c, xs ++ [value], rfl, .put value hok.2, h.publish he⟩

theorem Tracks.emplaceThrows (h : Tracks s c xs) : Simulated xs s.emplaceThrows := by
  unfold System.emplaceThrows
  split
  next he => exact h.silent rfl rfl (by simp [he, Emplacing.written]) rfl trivial h.popping_ok
  next => exact h.silent rfl rfl rfl rfl h.emplacing_ok h.popping_ok

/-- The consumer's slot holds the oldest entry until the consumer empties it. -/
theorem Tracks.oldest_slot (h : Tracks s c xs) (hr : s.popping.hasReset = false) (hne : xs ≠ []) :
    s.queue.slots s.queue.consumer = xs.head? := by
  rw [h.consumer_slot, System.entry, hr, if_neg (by simp), ← List.head?_eq_getElem?,
    head?_append_of_ne_nil hne]

/-- The consumer empties the slot of the oldest entry. -/
theorem Tracks.drain (h : Tracks s c xs) {value : Option T}
    (hr : s.popping.hasReset = false) (hhead : xs.head? = value) (hne : xs ≠ []) :
    Tracks
      { s with
        queue := { s.queue with slots := Function.update s.queue.slots s.queue.consumer none }
        popping := .reset s.queue.consumer value } c xs where
  consumer_eq := h.consumer_eq
  producer_eq := h.producer_eq
  length_le := h.length_le
  slots_eq i hi := by
    simp only [System.entry, Popping.hasReset, and_true]
    by_cases hfirst : i = 0
    · rw [hfirst, if_pos rfl, h.consumer_eq]
      exact Function.update_self ..
    · have hother : position n (c + i) ≠ s.queue.consumer := by
        rw [h.consumer_eq]
        exact fun heq => hfirst (position_injOn (j := 0) hi n.zero_le heq)
      rw [Function.update_of_ne hother, h.slots_eq i hi, System.entry, hr, if_neg hfirst,
        if_neg (by simp)]
  emplacing_ok := h.emplacing_ok
  popping_ok := ⟨rfl, hhead, hne⟩

/-- What the producer knows stays true as the consumer takes an entry. -/
theorem Emplacing.Ok.tail {q : BoundedSpscQueue T n} {e : Emplacing T n} {v : T}
    (h : e.Ok q (v :: xs)) {next : Fin (n + 1)} : e.Ok { q with consumer := next } xs := by
  cases e with
  | idle => trivial
  | loadedProducer value producer => exact h
  | hasRoom value producer next => exact ⟨h.1, h.2.1, (Nat.lt_succ_self _).trans h.2.2⟩
  | slotEmpty value producer next => exact ⟨h.1, h.2.1, (Nat.lt_succ_self _).trans h.2.2⟩
  | emplaced value next => exact ⟨h.1, (Nat.lt_succ_self _).trans h.2⟩

/-- The consumer moves its cursor past the slot it has emptied. -/
theorem Tracks.release {v : T} (h : Tracks s c (v :: xs)) (hr : s.popping.hasReset = true) :
    Tracks
      { s with
        queue := { s.queue with consumer := advance s.queue.consumer }
        popping := .idle } (c + 1) xs where
  consumer_eq := by simp [h.consumer_eq]
  producer_eq := by simp [h.producer_eq, Nat.add_assoc, Nat.add_comm 1]
  length_le := (Nat.le_succ _).trans h.length_le
  slots_eq i hi := by
    show s.queue.slots (position n (c + 1 + i)) = _
    simp only [System.entry, Popping.hasReset, Bool.false_eq_true, and_false, if_false]
    rcases Nat.lt_or_eq_of_le hi with hlt | hlast
    · rw [Nat.add_assoc, Nat.add_comm 1, h.slots_eq (i + 1) hlt, System.entry, if_neg (by simp)]
      rfl
    · -- the last slot is the one just emptied
      have hlen := h.length_le
      have hroom : (xs ++ s.emplacing.written.toList).length ≤ i := by
        have hok := h.emplacing_ok
        rw [List.length_append]
        cases he : s.emplacing with
        | emplaced value next =>
          rw [he] at hok
          have hlt := hok.2
          simp only [Emplacing.written, Option.toList_some, List.length_cons,
            List.length_nil] at hlt ⊢
          omega
        | _ =>
          simp only [Emplacing.written, Option.toList_none, List.length_cons,
            List.length_nil] at hlen ⊢
          omega
      have hfirst := h.slots_eq 0 n.zero_le
      rw [System.entry, if_pos ⟨rfl, hr⟩, Nat.add_zero] at hfirst
      rw [List.getElem?_eq_none hroom, hlast, Nat.add_assoc, Nat.add_comm 1, position_wrap, hfirst]
  emplacing_ok := h.emplacing_ok.tail
  popping_ok := trivial

theorem Tracks.tryPop (h : Tracks s c xs) : Simulated xs s.tryPop := by
  have hok := h.popping_ok
  have he := h.emplacing_ok
  unfold System.tryPop
  cases hpop : s.popping with
  | idle => exact h.silent rfl rfl rfl (by simp [hpop, Popping.hasReset]) he rfl
  | loadedConsumer consumer =>
    rw [hpop] at hok
    have hconsumer : consumer = s.queue.consumer := hok
    subst hconsumer
    dsimp only
    split
    next hempty =>
      -- nothing is published as the producer's cursor is read
      have hnil : xs = [] := h.empty_iff.1 (beq_iff_eq.2 hempty)
      subst hnil
      refine ⟨.empty, c, [], rfl, .empty, ?_⟩
      exact ⟨h.consumer_eq, h.producer_eq, h.length_le, fun i hi => by
        rw [h.slots_eq i hi]; simp [System.entry, Popping.hasReset, hpop], he, trivial⟩
    next hempty =>
      have hne : xs ≠ [] := fun hnil => hempty (beq_iff_eq.1 (h.empty_iff.2 hnil))
      exact h.silent rfl rfl rfl (by simp [hpop, Popping.hasReset]) he ⟨rfl, hne⟩
  | published consumer =>
    rw [hpop] at hok
    obtain ⟨hconsumer, hne⟩ := hok
    have hslot : s.queue.slots consumer = xs.head? := by
      rw [hconsumer, h.oldest_slot (by rw [hpop]; rfl) hne]
    dsimp only
    rw [if_pos (by rw [hslot, List.isSome_head?]; exact hne)]
    exact h.silent rfl rfl rfl (by simp [hpop, Popping.hasReset]) he ⟨hconsumer, hne⟩
  | slotFull consumer =>
    rw [hpop] at hok
    obtain ⟨hconsumer, hne⟩ := hok
    have hslot : s.queue.slots consumer = xs.head? := by
      rw [hconsumer, h.oldest_slot (by rw [hpop]; rfl) hne]
    exact h.silent rfl rfl rfl (by simp [hpop, Popping.hasReset]) he ⟨hconsumer, hslot.symm, hne⟩
  | moved consumer value =>
    rw [hpop] at hok
    obtain ⟨rfl, hhead, hne⟩ := hok
    exact ⟨.silent, c, xs, rfl, .silent xs,
      h.drain (by rw [hpop]; rfl) hhead hne⟩
  | reset consumer value =>
    rw [hpop] at hok
    obtain ⟨rfl, hhead, hne⟩ := hok
    obtain ⟨v, rest, rfl⟩ := List.exists_cons_of_ne_nil hne
    subst hhead
    exact ⟨.take v, c + 1, rest, rfl, .take v rest, h.release (by rw [hpop]; rfl)⟩

/-- **A step of the threads is a step of the fifo.** -/
theorem Tracks.act (h : Tracks s c xs) (a : Action T) : Simulated xs (s.act a) := by
  cases a with
  | tryEmplace value => exact h.tryEmplace value
  | emplaceThrows => exact h.emplaceThrows
  | tryPop => exact h.tryPop

/-- One slot is always empty. -/
theorem Tracks.stored_le (h : Tracks s c xs) : s.stored ≤ n := by
  have hlast : s.queue.slots (position n (c + n)) = none := by
    have hroom : (xs ++ s.emplacing.written.toList).length ≤ n := by
      have hok := h.emplacing_ok
      rw [List.length_append]
      cases he : s.emplacing with
      | emplaced value next =>
        rw [he] at hok
        exact hok.2
      | _ => exact h.length_le
    rw [h.slots_eq n le_rfl, System.entry, List.getElem?_eq_none hroom, ite_self]
  have hlt : s.stored < (List.finRange (n + 1)).length := by
    refine Nat.lt_of_le_of_ne List.countP_le_length fun hall => ?_
    have hsome := List.countP_eq_length.1 hall (position n (c + n)) (List.mem_finRange _)
    rw [hlast] at hsome
    exact absurd hsome (by simp)
  rw [List.length_finRange] at hlt
  exact Nat.le_of_lt_succ hlt

/-! ## Runs -/

/-- A step of the fifo, labelled with what the thread reports. -/
def Reports (n : ℕ) (xs : List T) (o : Outcome T) (ys : List T) : Prop :=
  ∃ e, o.event = some e ∧ BoundedFifo.Step n xs e ys

theorem run_tracks (actions : List (Action T)) :
    let start : System T n := { queue := {} }
    ∃ c xs, Path (Reports n) [] (outputs System.step System.outcome start actions) xs ∧
      Tracks (run System.step start actions) c xs := by
  have hstep : ∀ (s : System T n) (xs : List T) (a : Action T), (∃ c, Tracks s c xs) → True →
      ∃ xs', Reports n xs (s.outcome a) xs' ∧ ∃ c, Tracks (s.step a) c xs' := by
    rintro s xs a ⟨c, h⟩ -
    obtain ⟨e, c', xs', he, hfifo, htracks⟩ := h.act a
    exact ⟨xs', ⟨e, he, hfifo⟩, c', htracks⟩
  obtain ⟨xs, hpath, c, h⟩ := simulates_related hstep ⟨0, tracks_start⟩
    (along_of_forall fun _ _ _ => trivial)
  exact ⟨c, xs, hpath, h⟩

/-- The events that a path of reports stands for. -/
theorem exists_events {ys : List T} {outcomes : List (Outcome T)}
    (h : Path (Reports n) xs outcomes ys) :
    ∃ events, outcomes.map Outcome.event = events.map some ∧
      Path (BoundedFifo.Step n) xs events ys := by
  induction h with
  | nil => exact ⟨[], rfl, .nil _⟩
  | cons head tail ih =>
    obtain ⟨e, he, hstep⟩ := head
    obtain ⟨events, hevents, hpath⟩ := ih
    exact ⟨e :: events, by rw [List.map_cons, List.map_cons, he, hevents], .cons hstep hpath⟩

theorem pushed_eq_puts {outcomes : List (Outcome T)} {events : List (BoundedFifo.Event T)}
    (h : outcomes.map Outcome.event = events.map some) :
    pushed outcomes = BoundedFifo.puts events ∧ popped outcomes = BoundedFifo.takes events := by
  induction outcomes generalizing events with
  | nil =>
    obtain rfl : events = [] := List.map_eq_nil_iff.1 h.symm
    exact ⟨rfl, rfl⟩
  | cons o outcomes ih =>
    cases events with
    | nil => simp at h
    | cons e events =>
      rw [List.map_cons, List.map_cons, List.cons.injEq] at h
      obtain ⟨hpush, hpop⟩ := ih h.2
      unfold pushed popped BoundedFifo.puts BoundedFifo.takes at *
      rw [List.flatMap_cons, List.flatMap_cons, List.flatMap_cons, List.flatMap_cons, hpush, hpop]
      have he := h.1
      cases o <;> simp only [Outcome.event, Option.some.injEq, reduceCtorEq] at he <;>
        subst he <;> exact ⟨rfl, rfl⟩

/-- **The queue is a bounded fifo in every interleaving.** -/
theorem interleaving_is_fifo {q : BoundedSpscQueue T n} (hq : construct T n = .ok q)
    (actions : List (Action T)) :
    let start : System T n := { queue := q }
    let outcomes := outputs System.step System.outcome start actions
    let s := run System.step start actions
    popped outcomes <+: pushed outcomes ∧
      (∀ p, (popped outcomes).countP p ≤ (pushed outcomes).countP p) ∧
      s.stored ≤ n ∧ s.queue.size ≤ n ∧
      (∀ a, s.outcome a = .refused →
        s.queue.size = n ∧ (pushed outcomes).length = (popped outcomes).length + n) ∧
      (∀ a, s.outcome a = .nothing → s.queue.size = 0 ∧ pushed outcomes = popped outcomes) ∧
      ∀ a, s.outcome a ≠ .occupiedSlot ∧ s.outcome a ≠ .emptyPublishedSlot := by
  intro start outcomes s
  have hstart : start = { queue := {} } := by
    have hempty : q = {} := by
      unfold construct storageCapacity at hq
      split at hq
      · exact absurd hq (by simp [Except.map, throw, throwThe, MonadExceptOf.throw])
      · split at hq
        · exact absurd hq (by simp [Except.map, throw, throwThe, MonadExceptOf.throw])
        · exact (Except.ok.inj hq).symm
    rw [← hempty]
  obtain ⟨c, xs, hpath, h⟩ := run_tracks (n := n) actions
  rw [← hstart] at hpath h
  obtain ⟨events, hevents, hfifo⟩ := exists_events hpath
  obtain ⟨hputs, htakes⟩ := pushed_eq_puts hevents
  have hall : pushed outcomes = popped outcomes ++ xs := by
    rw [hputs, htakes, ← BoundedFifo.puts_eq hfifo, List.nil_append]
  have hsub : popped outcomes <+: pushed outcomes := ⟨xs, hall.symm⟩
  refine ⟨hsub, fun p => hsub.sublist.countP_le, h.stored_le, ?_, ?_, ?_, ?_⟩
  · rw [h.size_eq]
    exact h.length_le
  · intro a ha
    obtain ⟨e, -, xs', he, hstep, -⟩ := h.act a
    have he : some BoundedFifo.Event.full = some e := by
      rw [← he]
      exact (congrArg Outcome.event ha).symm
    obtain rfl := Option.some.inj he
    cases hstep with
    | full hlen => exact ⟨by rw [h.size_eq, hlen], by rw [hall, List.length_append, hlen]⟩
  · intro a ha
    obtain ⟨e, -, xs', he, hstep, -⟩ := h.act a
    have he : some BoundedFifo.Event.empty = some e := by
      rw [← he]
      exact (congrArg Outcome.event ha).symm
    obtain rfl := Option.some.inj he
    cases hstep with
    | empty => exact ⟨by rw [h.size_eq, List.length_nil], by rw [hall, List.append_nil]⟩
  · intro a
    obtain ⟨e, -, xs', he, -⟩ := h.act a
    constructor
    · intro ha
      rw [show (s.act a).2 = .occupiedSlot from ha] at he
      exact absurd he (by simp [Outcome.event])
    · intro ha
      rw [show (s.act a).2 = .emptyPublishedSlot from ha] at he
      exact absurd he (by simp [Outcome.event])

/-- A capacity of one: the second call is refused until the value is popped. -/
theorem interleaving_is_fifo_one :
    let start : System ℕ 1 := { queue := {} }
    let actions : List (Action ℕ) :=
      List.replicate 7 (.tryEmplace 5) ++ List.replicate 6 .tryPop ++
        List.replicate 5 (.tryEmplace 8)
    let outcomes := outputs System.step System.outcome start actions
    Outcome.refused ∈ outcomes ∧ pushed outcomes = [5, 8] ∧
      popped outcomes <+: pushed outcomes := by
  refine ⟨by decide, by decide, ?_⟩
  exact (interleaving_is_fifo (T := ℕ) (n := 1) (q := {}) rfl _).1

end BoundedSpscQueue

end Ps2Recomp
