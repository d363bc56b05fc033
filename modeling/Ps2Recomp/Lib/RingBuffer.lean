import Ps2Recomp.Lib.Machine
import Mathlib.Data.List.Infix
import Mathlib.Data.List.TakeDrop
import Mathlib.Data.Nat.ModEq

/-!
# Ring buffers

A queue of at most `n` values in a ring of `n` slots, with a read index, a write index and a count.
`read` takes what is there, up to a number; `write` takes of the offered values what there is room
for. On a well-formed ring they take from the front of its contents and append to them .

`Step n` is what such a queue does to its contents, one value at a time. Between two clears the
values that leave are the first ones of those that entered (`left_prefix_entered`).
-/

/-- Indices and the count are below and at most the number of slots. -/
structure RingBuffer (T : Type*) where
  slots : ℕ → T
  readIndex : ℕ := 0
  writeIndex : ℕ := 0
  count : ℕ := 0

namespace RingBuffer

variable {n : ℕ} {T : Type*} {b : RingBuffer T}

/-- The values in the ring, oldest first. -/
def contents (n : ℕ) (b : RingBuffer T) : List T :=
  (List.range b.count).map fun i => b.slots ((b.readIndex + i) % n)

structure WellFormed (n : ℕ) (b : RingBuffer T) : Prop where
  read_lt : b.readIndex < n
  write_eq : b.writeIndex = (b.readIndex + b.count) % n
  count_le : b.count ≤ n

@[simp] theorem length_contents : (b.contents n).length = b.count := by
  rw [contents, List.length_map, List.length_range]

/-- **The count is the distance** from the read to the write index. -/
theorem WellFormed.count_mod (h : b.WellFormed n) :
    b.count % n = (b.writeIndex + n - b.readIndex) % n := by
  have hread := h.read_lt
  have hcount := h.count_le
  rw [h.write_eq]
  rcases Nat.lt_or_ge (b.readIndex + b.count) n with hlt | hge
  · rw [Nat.mod_eq_of_lt hlt, show b.readIndex + b.count + n - b.readIndex = b.count + n by omega,
      Nat.add_mod_right]
  · rw [Nat.mod_eq_sub_mod hge, Nat.mod_eq_of_lt (show b.readIndex + b.count - n < n by omega),
      show b.readIndex + b.count - n + n - b.readIndex = b.count by omega]

/-- The indices meet where the ring is empty or full, and the count tells which. -/
theorem WellFormed.read_eq_write_iff (h : b.WellFormed n) :
    b.readIndex = b.writeIndex ↔ b.count = 0 ∨ b.count = n := by
  have hread := h.read_lt
  have hcount := h.count_le
  rw [h.write_eq]
  rcases Nat.lt_or_ge (b.readIndex + b.count) n with hlt | hge
  · rw [Nat.mod_eq_of_lt hlt]
    omega
  · rw [Nat.mod_eq_sub_mod hge, Nat.mod_eq_of_lt (show b.readIndex + b.count - n < n by omega)]
    omega

/-- The count is the distance of the indices, and where they are equal it is 0 or all. -/
theorem wellFormed_iff (hread : b.readIndex < n) (hwrite : b.writeIndex < n)
    (hcount : b.count ≤ n) :
    b.WellFormed n ↔ b.count % n = (b.writeIndex + n - b.readIndex) % n := by
  constructor
  · exact WellFormed.count_mod
  · intro h
    refine ⟨hread, ?_, hcount⟩
    rcases Nat.lt_or_ge b.writeIndex b.readIndex with hlt | hge
    · rw [Nat.mod_eq_of_lt (show b.writeIndex + n - b.readIndex < n by omega)] at h
      rcases hcount.lt_or_eq with hless | heq
      · rw [Nat.mod_eq_of_lt hless] at h
        rw [show b.readIndex + b.count = b.writeIndex + n by omega, Nat.add_mod_right,
          Nat.mod_eq_of_lt hwrite]
      · rw [heq, Nat.mod_self] at h
        omega
    · rw [show b.writeIndex + n - b.readIndex = b.writeIndex - b.readIndex + n by omega,
        Nat.add_mod_right, Nat.mod_eq_of_lt (show b.writeIndex - b.readIndex < n by omega)] at h
      rcases hcount.lt_or_eq with hless | heq
      · rw [Nat.mod_eq_of_lt hless] at h
        rw [show b.readIndex + b.count = b.writeIndex by omega, Nat.mod_eq_of_lt hwrite]
      · rw [heq, Nat.mod_self] at h
        rw [heq, Nat.add_mod_right, Nat.mod_eq_of_lt hread]
        omega

/-! ## Reading -/

/-- The loop of a read: the values, and the ring with the count as it was. -/
def readSlots (n : ℕ) : ℕ → RingBuffer T → List T × RingBuffer T
  | 0, b => ([], b)
  | accepted + 1, b =>
    let rest := readSlots n accepted { b with readIndex := (b.readIndex + 1) % n }
    (b.slots b.readIndex :: rest.1, rest.2)

/-- Take what is there, up to the number asked for. -/
def read (n : ℕ) (b : RingBuffer T) (requested : ℕ) : List T × RingBuffer T :=
  let accepted := min requested b.count
  let taken := readSlots n accepted b
  (taken.1, { taken.2 with count := b.count - accepted })

theorem length_readSlots (accepted : ℕ) (b : RingBuffer T) :
    (readSlots n accepted b).1.length = accepted := by
  induction accepted generalizing b with
  | zero => rfl
  | succ accepted ih => rw [readSlots, List.length_cons, ih]

theorem length_read (b : RingBuffer T) (requested : ℕ) :
    (b.read n requested).1.length = min requested b.count :=
  length_readSlots _ b

theorem readSlots_eq (accepted : ℕ) (hread : b.readIndex < n) :
    readSlots n accepted b =
      ((List.range accepted).map fun i => b.slots ((b.readIndex + i) % n),
        { b with readIndex := (b.readIndex + accepted) % n }) := by
  induction accepted generalizing b with
  | zero =>
    rw [readSlots, Nat.add_zero, Nat.mod_eq_of_lt hread]
    rfl
  | succ accepted ih =>
    have hnext : ∀ i, ((b.readIndex + 1) % n + i) % n = (b.readIndex + (i + 1)) % n := by
      intro i
      rw [Nat.mod_add_mod, Nat.add_assoc, Nat.add_comm 1 i]
    have hlt : (b.readIndex + 1) % n < n := Nat.mod_lt _ (Nat.zero_lt_of_lt hread)
    simp only [readSlots, ih (b := { b with readIndex := (b.readIndex + 1) % n }) hlt, hnext]
    have hfirst : (b.readIndex + 0) % n = b.readIndex := Nat.mod_eq_of_lt hread
    rw [List.range_succ_eq_map, List.map_cons, List.map_map, hfirst]
    rfl

theorem read_fst (h : b.WellFormed n) (requested : ℕ) :
    (b.read n requested).1 = (b.contents n).take requested := by
  change (readSlots n (min requested b.count) b).1 = _
  rw [readSlots_eq _ h.read_lt, contents, ← List.map_take, List.take_range]

theorem contents_read (h : b.WellFormed n) (requested : ℕ) :
    (b.read n requested).2.contents n = (b.contents n).drop requested := by
  change contents n { (readSlots n (min requested b.count) b).2 with count := _ } = _
  rw [readSlots_eq _ h.read_lt]
  refine List.ext_getElem ?_ fun i hi hi' => ?_
  · rw [length_contents, List.length_drop, length_contents]
    dsimp only
    omega
  · rw [length_contents] at hi
    dsimp only at hi
    simp only [contents, List.getElem_map, List.getElem_range, List.getElem_drop]
    rw [Nat.mod_add_mod, Nat.add_assoc, Nat.min_eq_left (by omega)]

theorem WellFormed.read (h : b.WellFormed n) (requested : ℕ) :
    (b.read n requested).2.WellFormed n := by
  change WellFormed n { (readSlots n (min requested b.count) b).2 with count := _ }
  rw [readSlots_eq _ h.read_lt]
  have hcount := h.count_le
  exact
    { read_lt := Nat.mod_lt _ (Nat.zero_lt_of_lt h.read_lt)
      write_eq := by
        dsimp only
        rw [Nat.mod_add_mod, Nat.add_assoc, Nat.add_sub_cancel' (Nat.min_le_right _ _), h.write_eq]
      count_le := by
        dsimp only
        omega }

/-! ## Writing -/

/-- The loop of a write, with the count as it was. -/
def writeSlots (n : ℕ) : List T → RingBuffer T → RingBuffer T
  | [], b => b
  | value :: rest, b =>
    writeSlots n rest
      { b with
        slots := fun index => if index = b.writeIndex then value else b.slots index
        writeIndex := (b.writeIndex + 1) % n }

/-- Take of the values what there is room for; how many that is comes first. -/
def write (n : ℕ) (b : RingBuffer T) (values : List T) : ℕ × RingBuffer T :=
  let available := n - min b.count n
  let accepted := min values.length available
  let written := writeSlots n (values.take accepted) b
  (accepted, { written with count := b.count + accepted })

/-- A value more. -/
def push (n : ℕ) (b : RingBuffer T) (value : T) : RingBuffer T where
  slots index := if index = b.writeIndex then value else b.slots index
  readIndex := b.readIndex
  writeIndex := (b.writeIndex + 1) % n
  count := b.count + 1

theorem WellFormed.push (h : b.WellFormed n) (hroom : b.count < n) (value : T) :
    (b.push n value).WellFormed n where
  read_lt := h.read_lt
  write_eq := by
    change (b.writeIndex + 1) % n = (b.readIndex + (b.count + 1)) % n
    rw [h.write_eq, Nat.mod_add_mod, Nat.add_assoc]
  count_le := hroom

theorem contents_push (h : b.WellFormed n) (hroom : b.count < n) (value : T) :
    (b.push n value).contents n = b.contents n ++ [value] := by
  change (List.range (b.count + 1)).map (fun i => (b.push n value).slots ((b.readIndex + i) % n)) = _
  rw [List.range_succ, List.map_append, List.map_singleton]
  congr 1
  · refine List.map_congr_left fun i hi => ?_
    have hlt := List.mem_range.1 hi
    -- the slot that is written is none of those in use
    have hother : (b.readIndex + i) % n ≠ b.writeIndex := by
      intro heq
      have hmod : i % n = b.count % n := Nat.ModEq.add_left_cancel' b.readIndex (heq.trans h.write_eq)
      rw [Nat.mod_eq_of_lt (hlt.trans hroom), Nat.mod_eq_of_lt hroom] at hmod
      exact hlt.ne hmod
    exact if_neg hother
  · congr 1
    exact if_pos h.write_eq.symm

theorem foldl_push_count (values : List T) (b : RingBuffer T) (count : ℕ) :
    values.foldl (push n) { b with count } =
      { values.foldl (push n) b with count := count + values.length } := by
  induction values generalizing b count with
  | nil => rfl
  | cons value rest ih =>
    rw [List.foldl_cons, List.foldl_cons, List.length_cons]
    have hpushed : push n { b with count } value = { push n b value with count := count + 1 } := rfl
    rw [hpushed, ih, Nat.add_assoc, Nat.add_comm 1]

theorem writeSlots_eq (values : List T) (b : RingBuffer T) :
    writeSlots n values b = { values.foldl (push n) b with count := b.count } := by
  induction values generalizing b with
  | nil => rfl
  | cons value rest ih =>
    have hcount := foldl_push_count (n := n) rest (b.push n value) b.count
    rw [writeSlots, ih, List.foldl_cons]
    exact congrArg (fun b' : RingBuffer T => { b' with count := b.count }) hcount

theorem foldl_push_spec {values : List T} (h : b.WellFormed n)
    (hroom : b.count + values.length ≤ n) :
    (values.foldl (push n) b).WellFormed n ∧
      (values.foldl (push n) b).contents n = b.contents n ++ values := by
  induction values generalizing b with
  | nil => exact ⟨h, (List.append_nil _).symm⟩
  | cons value rest ih =>
    rw [List.length_cons] at hroom
    have hone : b.count < n := by omega
    obtain ⟨hpushed, hcontents⟩ := ih (h.push hone value) (by change b.count + 1 + _ ≤ n; omega)
    refine ⟨hpushed, ?_⟩
    rw [List.foldl_cons, hcontents, contents_push h hone, List.append_assoc, List.singleton_append]

/-- What a write takes. -/
def accepted (n : ℕ) (b : RingBuffer T) (values : List T) : List T :=
  values.take (b.write n values).1

theorem write_snd (b : RingBuffer T) (values : List T) :
    (b.write n values).2 = (b.accepted n values).foldl (push n) b := by
  have hlength : (b.accepted n values).length = (b.write n values).1 := by
    change (values.take (min values.length _)).length = _
    rw [List.length_take_of_le (Nat.min_le_left _ _)]
    rfl
  change { writeSlots n (b.accepted n values) b with count := b.count + (b.write n values).1 } = _
  rw [writeSlots_eq, ← hlength]
  exact (foldl_push_count _ b b.count).symm

theorem count_accepted_le (h : b.WellFormed n) (values : List T) :
    b.count + (b.accepted n values).length ≤ n := by
  have hcount := h.count_le
  change b.count + (values.take (min values.length (n - min b.count n))).length ≤ n
  rw [List.length_take]
  omega

theorem WellFormed.write (h : b.WellFormed n) (values : List T) :
    (b.write n values).2.WellFormed n := by
  rw [write_snd]
  exact (foldl_push_spec h (count_accepted_le h values)).1

theorem contents_write (h : b.WellFormed n) (values : List T) :
    (b.write n values).2.contents n = b.contents n ++ b.accepted n values := by
  rw [write_snd]
  exact (foldl_push_spec h (count_accepted_le h values)).2

/-! ## The queue -/

inductive Event (T : Type*) where
  | entered (value : T)
  | left (value : T)
  | cleared
  deriving DecidableEq, Repr

/-- A step of a queue of capacity `n` from its contents to its contents. -/
inductive Step (n : ℕ) : List T → Event T → List T → Prop
  | entered {xs : List T} (value : T) (h : xs.length < n) : Step n xs (.entered value) (xs ++ [value])
  | left (value : T) (xs : List T) : Step n (value :: xs) (.left value) xs
  | cleared (xs : List T) : Step n xs .cleared []

/-- The values that entered, the first one first. -/
def entered (events : List (Event T)) : List T :=
  events.filterMap fun
    | .entered value => some value
    | _ => none

/-- The values that left. -/
def left (events : List (Event T)) : List T :=
  events.filterMap fun
    | .left value => some value
    | _ => none

open Machine (Path)

theorem path_entered {xs values : List T} (h : xs.length + values.length ≤ n) :
    Path (Step n) xs (values.map .entered) (xs ++ values) := by
  induction values generalizing xs with
  | nil =>
    rw [List.append_nil]
    exact Path.nil xs
  | cons value rest ih =>
    rw [List.length_cons] at h
    have hlength : (xs ++ [value]).length + rest.length ≤ n := by
      rw [List.length_append, List.length_singleton]
      omega
    have hrest := ih hlength
    rw [List.append_assoc, List.singleton_append] at hrest
    exact Path.cons (Step.entered value (by omega)) hrest

theorem path_left (values xs : List T) : Path (Step n) (values ++ xs) (values.map .left) xs := by
  induction values with
  | nil => exact Path.nil xs
  | cons value rest ih => exact Path.cons (Step.left value _) ih

/-- Without a clear nothing is lost and the order is kept. -/
theorem append_entered {xs ys : List T} {events : List (Event T)} (h : Path (Step n) xs events ys)
    (hclear : .cleared ∉ events) : xs ++ entered events = left events ++ ys := by
  induction h with
  | nil => exact List.append_nil _
  | cons head tail ih =>
    have ih := ih fun hmem => hclear (List.mem_cons_of_mem _ hmem)
    cases head with
    | entered value h =>
      rw [List.append_assoc, List.singleton_append] at ih
      exact ih
    | left value xs => exact congrArg (value :: ·) ih
    | cleared => exact absurd List.mem_cons_self hclear

theorem path_append {xs zs : List T} {events more : List (Event T)} :
    Path (Step n) xs (events ++ more) zs ↔
      ∃ ys, Path (Step n) xs events ys ∧ Path (Step n) ys more zs := by
  constructor
  · intro h
    induction events generalizing xs with
    | nil => exact ⟨xs, Path.nil xs, h⟩
    | cons event rest ih =>
      obtain ⟨_, head, tail⟩ := h.of_cons
      obtain ⟨ys, hrest, hmore⟩ := ih tail
      exact ⟨ys, Path.cons head hrest, hmore⟩
  · rintro ⟨ys, hevents, hmore⟩
    induction hevents with
    | nil => exact hmore
    | cons head _ ih => exact Path.cons head (ih hmore)

theorem nil_of_cleared {xs ys : List T} {events : List (Event T)} (h : Path (Step n) xs events ys)
    (hlast : events.getLast? = some .cleared) : ys = [] := by
  obtain ⟨init, rfl⟩ := List.getLast?_eq_some_iff.1 hlast
  obtain ⟨_, -, hclear⟩ := path_append.1 h
  obtain ⟨_, hhead, htail⟩ := hclear.of_cons
  cases hhead
  cases htail
  rfl

/-- **Between two clears** the values that leave are the first ones of those that entered. -/
theorem left_prefix_entered {ys : List T} {before between after : List (Event T)}
    (h : Path (Step n) [] (before ++ between ++ after) ys)
    (hbefore : before = [] ∨ before.getLast? = some .cleared) (hclear : .cleared ∉ between) :
    left between <+: entered between := by
  obtain ⟨zs, hfront, -⟩ := path_append.1 h
  obtain ⟨xs, hfirst, hbetween⟩ := path_append.1 hfront
  have hempty : xs = [] := by
    rcases hbefore with rfl | hlast
    · cases hfirst
      rfl
    · exact nil_of_cleared hfirst hlast
  have hkept := append_entered hbetween hclear
  rw [hempty, List.nil_append] at hkept
  exact ⟨zs, hkept.symm⟩

end RingBuffer
