import Mathlib.Logic.Nonempty

/-!
# Work handed over to several ordered queues

A producer hands items over to queues, one submission at a time, and each queue executes what it
holds, in its order, when it is told to. A history lists what happened, the newest first.

The queues together need not execute the items in the order they were handed over: two of them may
hold work at once. They do if the producer is exclusive, that is if it submits to a queue only while
all the others are empty (`executed_append_queue`).
-/

namespace HandOver

variable {κ α : Type*}

inductive Step (κ α : Type*)
  | submit (queue : κ) (items : List α)
  | execute (queue : κ)

/-- All the items handed over, in the order of the submissions. -/
def handed : List (Step κ α) → List α
  | [] => []
  | .submit _ items :: older => handed older ++ items
  | .execute _ :: older => handed older

variable [DecidableEq κ]

/-- What a queue holds and has not executed. -/
def queue (k : κ) : List (Step κ α) → List α
  | [] => []
  | .submit j items :: older => if j = k then queue k older ++ items else queue k older
  | .execute j :: older => if j = k then [] else queue k older

/-- All the items executed, in the order of their execution. -/
def executed : List (Step κ α) → List α
  | [] => []
  | .submit _ _ :: older => executed older
  | .execute k :: older => executed older ++ queue k older

/-- Every submission found all the other queues empty. -/
def Exclusive : List (Step κ α) → Prop
  | [] => True
  | .submit k _ :: older => (∀ j, j ≠ k → queue j older = []) ∧ Exclusive older
  | .execute _ :: older => Exclusive older

variable {history older : List (Step κ α)} {k j : κ} {items : List α}

@[simp] theorem queue_submit_self :
    queue k (.submit k items :: older) = queue k older ++ items := if_pos rfl

theorem queue_submit_of_ne (h : j ≠ k) : queue k (.submit j items :: older) = queue k older :=
  if_neg h

@[simp] theorem queue_execute_self : queue k (.execute k :: older) = [] := if_pos rfl

theorem queue_execute_of_ne (h : j ≠ k) : queue k (.execute j :: older) = queue k older := if_neg h

theorem queue_execute_eq_nil (h : queue k older = []) : queue k (.execute j :: older) = [] := by
  by_cases hjk : j = k
  · rw [hjk, queue_execute_self]
  · rw [queue_execute_of_ne hjk, h]

theorem Exclusive.of_submit {newer : List (Step κ α)}
    (h : Exclusive (newer ++ .submit k items :: older)) (hj : j ≠ k) : queue j older = [] := by
  induction newer with
  | nil => exact h.1 j hj
  | cons step newer ih =>
    cases step with
    | submit i items => exact ih h.2
    | execute i => exact ih h

/-- Under an exclusive producer at most one queue holds work, and it holds what comes last. -/
theorem Exclusive.exists_active [Nonempty κ] (h : Exclusive history) :
    ∃ k, (∀ j, j ≠ k → queue j history = []) ∧
      executed history ++ queue k history = handed history := by
  induction history with
  | nil =>
    obtain ⟨k⟩ := ‹Nonempty κ›
    exact ⟨k, fun _ _ => rfl, rfl⟩
  | cons step older ih =>
    cases step with
    | submit k items =>
      obtain ⟨active, hidle, heq⟩ := ih h.2
      refine ⟨k, fun j hj => (queue_submit_of_ne (Ne.symm hj)).trans (h.1 j hj), ?_⟩
      have hlast : executed older ++ queue k older = handed older := by
        by_cases hk : k = active
        · rw [hk, heq]
        · rw [hidle k hk, ← heq, h.1 active (Ne.symm hk)]
      rw [queue_submit_self, executed, handed, ← List.append_assoc, hlast]
    | execute k =>
      obtain ⟨active, hidle, heq⟩ := ih h
      refine ⟨active, fun j hj => queue_execute_eq_nil (hidle j hj), ?_⟩
      by_cases hk : k = active
      · rw [hk, queue_execute_self, executed, handed, List.append_nil, heq]
      · rw [queue_execute_of_ne hk, executed, handed, hidle k hk, List.append_nil, heq]

end HandOver
