import Ps2Recomp.Lib.Machine
import Mathlib.Data.Fin.Basic
import Mathlib.Data.List.Count
import Mathlib.Data.Nat.ModEq

/-!
# Bounded queues and the ring they are kept in

`BoundedFifo.Step n` is what a queue of capacity `n` does to its contents, with the event it reports:
it is refused a value only when it holds `n`, and finds nothing to take only when it holds none.
Along a path of such steps the values taken are the first ones put in (`puts_eq`).

`Ring.position n` places an unbounded count on `n + 1` slots. Counts that differ by at most `n`
have different slots (`position_injOn`), so the two ends of a queue of at most `n` entries tell empty
from full.
-/

/-! ## The queue -/

namespace BoundedFifo

variable {T : Type*} {n : ℕ}

inductive Event (T : Type*) where
  | put (v : T)
  | full
  | take (v : T)
  | empty
  | silent
  deriving DecidableEq, Repr

/-- A step of a queue of capacity `n` from its contents to its contents, oldest value first. -/
inductive Step (n : ℕ) : List T → Event T → List T → Prop
  | put {xs : List T} (v : T) (h : xs.length < n) : Step n xs (.put v) (xs ++ [v])
  | full {xs : List T} (h : xs.length = n) : Step n xs .full xs
  | take (v : T) (xs : List T) : Step n (v :: xs) (.take v) xs
  | empty : Step n [] .empty []
  | silent (xs : List T) : Step n xs .silent xs

def Event.puts : Event T → List T
  | .put v => [v]
  | _ => []

def Event.takes : Event T → List T
  | .take v => [v]
  | _ => []

/-- The values put in, the first one first. -/
def puts (events : List (Event T)) : List T := events.flatMap Event.puts

/-- The values taken out. -/
def takes (events : List (Event T)) : List T := events.flatMap Event.takes

/-- **First in, first out.** -/
theorem puts_eq {xs ys : List T} {events : List (Event T)}
    (h : Machine.Path (Step n) xs events ys) : xs ++ puts events = takes events ++ ys := by
  induction h with
  | nil => simp [puts, takes]
  | cons head tail ih =>
    simp only [puts, takes, List.flatMap_cons] at ih ⊢
    cases head with
    | put v h => simpa [Event.puts, Event.takes] using ih
    | take v xs => simpa [Event.puts, Event.takes] using ih
    | full h => exact ih
    | empty => exact ih
    | silent xs => exact ih

end BoundedFifo

/-! ## The ring -/

namespace Ring

variable {n : ℕ}

local instance (priority := 2000) neZero_slots (n : ℕ) : NeZero (n + 1) := ⟨Nat.succ_ne_zero n⟩

/-- The slot of the `k`-th entry. -/
def position (n k : ℕ) : Fin (n + 1) := Fin.ofNat (n + 1) k

/-- The next slot, the first one after the last. -/
def advance (i : Fin (n + 1)) : Fin (n + 1) :=
  if h : i.val + 1 = n + 1 then ⟨0, n.succ_pos⟩ else ⟨i.val + 1, by omega⟩

theorem position_eq_iff {a b : ℕ} : position n a = position n b ↔ a ≡ b [MOD n + 1] := by
  rw [Fin.ext_iff]
  rfl

@[simp] theorem advance_position (k : ℕ) : advance (position n k) = position n (k + 1) := by
  apply Fin.ext
  have hval : (position n k).val = k % (n + 1) := rfl
  have hnext : (position n (k + 1)).val = (k % (n + 1) + 1) % (n + 1) :=
    (Nat.mod_add_mod k (n + 1) 1).symm
  have hlt : k % (n + 1) < n + 1 := Nat.mod_lt _ n.succ_pos
  rw [hnext, ← hval]
  unfold advance
  split
  next h => rw [h, Nat.mod_self]
  next h => exact (Nat.mod_eq_of_lt (by omega)).symm

/-- A count and the same count a whole ring later. -/
theorem position_wrap (k : ℕ) : position n (k + (n + 1)) = position n k :=
  position_eq_iff.2 (Nat.add_modEq_right ..)

/-- **Counts less than a ring apart have different slots.** -/
theorem position_injOn {k i j : ℕ} (hi : i ≤ n) (hj : j ≤ n)
    (h : position n (k + i) = position n (k + j)) : i = j := by
  have hmod : i ≡ j [MOD n + 1] := Nat.ModEq.add_left_cancel' k (position_eq_iff.1 h)
  exact Nat.ModEq.eq_of_lt_of_lt hmod (Nat.lt_succ_of_le hi) (Nat.lt_succ_of_le hj)

end Ring
