import Mathlib.Order.Basic

/-!
# Machines that consume a stream

A machine takes its input from the front of a buffer, a command at a time. A step consumes some
symbols, or there is none: the first command is not complete, or the machine is stopped. `run`
takes steps as long as it can. More input changes no step that could be taken, so input can be
appended before a run or in the middle of it (`run_append`).

When a run stops, the outside is left with a suspended state, and the next piece of input finds the
machine resumed. If neither is noticed by the machine (`Suspension`), the pieces that the stream
comes in do not matter (`feed_feed`).
-/

namespace StreamMachine

/-- A buffer of symbols that is appended to at its end and dropped from its front. -/
class Buffer (β : Type*) (α : outParam Type*) where
  size : β → Nat
  append : β → List α → β
  drop : β → Nat → β
  size_append : ∀ x piece, size (append x piece) = size x + piece.length
  size_drop : ∀ x n, size (drop x n) = size x - n
  drop_zero : ∀ x, drop x 0 = x
  drop_drop : ∀ x n m, drop (drop x n) m = drop x (n + m)
  append_append : ∀ x piece piece', append (append x piece) piece' = append x (piece ++ piece')
  drop_append : ∀ x n piece, n ≤ size x → drop (append x piece) n = append (drop x n) piece

open Buffer

variable {σ τ β α : Type*} [Buffer β α]

/-- A step consumes a positive number of symbols that are in the buffer. -/
structure Machine (σ β : Type*) {α : Type*} [Buffer β α] where
  step : σ → β → Option (Nat × σ)
  pos : ∀ {s x n s'}, step s x = some (n, s') → 0 < n
  fits : ∀ {s x n s'}, step s x = some (n, s') → n ≤ size x
  stable : ∀ {s x r} (piece : List α), step s x = some r → step s (append x piece) = some r

namespace Machine

variable (M : Machine σ β)

/-- Take steps as long as there are any. -/
def run (s : σ) (x : β) : σ × β :=
  match _h : M.step s x with
  | none => (s, x)
  | some (n, s') => run s' (drop x n)
termination_by size x
decreasing_by
  have hpos := M.pos _h
  have hfits := M.fits _h
  rw [size_drop]
  omega

variable {M} {s s' : σ} {x : β} {n : Nat} {piece piece' : List α}

theorem run_of_none (h : M.step s x = none) : M.run s x = (s, x) := by
  rw [run]
  split
  · rfl
  · next hsome =>
    rw [h] at hsome
    cases hsome

theorem run_of_some (h : M.step s x = some (n, s')) : M.run s x = M.run s' (drop x n) := by
  rw [run]
  split
  · next hnone =>
    rw [h] at hnone
    cases hnone
  · next hsome =>
    rw [h] at hsome
    cases hsome
    rfl

/-- Induction along the steps of a run. -/
theorem run_induction (M : Machine σ β) {motive : σ → β → Prop}
    (none : ∀ s x, M.step s x = none → motive s x)
    (some : ∀ s x n s', M.step s x = some (n, s') → motive s' (drop x n) → motive s x)
    (s : σ) (x : β) : motive s x := by
  induction s, x using run.induct M with
  | case1 s x h => exact none s x h
  | case2 s x n s' h ih => exact some s x n s' h ih

theorem step_run : M.step (M.run s x).1 (M.run s x).2 = none := by
  induction s, x using run_induction M with
  | none s x h => rwa [run_of_none h]
  | some s x n s' h ih => rwa [run_of_some h]

theorem size_run : size (M.run s x).2 ≤ size x := by
  induction s, x using run_induction M with
  | none s x h => exact Nat.le_of_eq (congrArg (fun stopped => size stopped.2) (run_of_none h))
  | some s x n s' h ih =>
    rw [size_drop] at ih
    calc size (M.run s x).2
        = size (M.run s' (drop x n)).2 := by rw [run_of_some h]
      _ ≤ size x - n := ih
      _ ≤ size x := Nat.sub_le _ _

/-- **Input may arrive in the middle of a run.** -/
theorem run_append (s : σ) (x : β) (piece : List α) :
    M.run s (append x piece) = M.run (M.run s x).1 (append (M.run s x).2 piece) := by
  induction s, x using run_induction M with
  | none s x h => rw [run_of_none h]
  | some s x n s' h ih =>
    rw [run_of_some h, run_of_some (M.stable piece h), drop_append x n piece (M.fits h), ih]

/-- What becomes of the state when a run stops, and when the next one starts. The machine goes on
as if it had not been stopped, and stopping twice is stopping once. -/
structure Suspension (M : Machine σ β) (τ : Type*) where
  suspend : σ → β → τ
  resume : τ → σ
  step_resume : ∀ {s x} (piece : List α), M.step s x = none →
    M.step (resume (suspend s x)) (append x piece) = M.step s (append x piece)
  suspend_resume : ∀ {s x} (piece : List α), M.step s x = none →
    suspend (resume (suspend s x)) (append x piece) = suspend s (append x piece)

namespace Suspension

variable (S : Suspension M τ)

/-- A piece of input arrives: the machine runs on. -/
def feed (outside : τ × β) (piece : List α) : τ × β :=
  let stopped := M.run (S.resume outside.1) (append outside.2 piece)
  (S.suspend stopped.1 stopped.2, stopped.2)

/-- The run that goes on after a stop. -/
theorem feed_suspend (h : M.step s x = none) (piece : List α) :
    S.feed (S.suspend s x, x) piece =
      (S.suspend (M.run s (append x piece)).1 (M.run s (append x piece)).2,
        (M.run s (append x piece)).2) := by
  have hstep := S.step_resume piece h
  unfold feed
  dsimp only
  cases hnext : M.step s (append x piece) with
  | none =>
    rw [run_of_none hnext, run_of_none (hstep.trans hnext)]
    exact congrArg (·, append x piece) (S.suspend_resume piece h)
  | some next =>
    obtain ⟨n, s'⟩ := next
    rw [run_of_some hnext, run_of_some (hstep.trans hnext)]

/-- **Two pieces are as good as one.** -/
theorem feed_feed (outside : τ × β) (piece piece' : List α) :
    S.feed (S.feed outside piece) piece' = S.feed outside (piece ++ piece') := by
  rw [feed.eq_def S outside piece]
  dsimp only
  rw [S.feed_suspend step_run, ← run_append, append_append]
  rfl

end Suspension

end Machine

end StreamMachine
