import Ps2Recomp.Lib.Machine

/-!
# The life of a waiter

The thread is `free`, `waiting` on a key, or `completed`: its wait has ended with a completion that
it has not picked up yet. It can wait only while free, its wait ends with a completion for the key
it waits on, and picking the completion up frees it. Retiring it (terminating it, say) frees it too.

The results are about event sequences of any length (`Machine.Path`).
-/

namespace WaitProtocol

open Machine

variable {κ γ : Type*} {key : γ → κ}

/-- Where a thread stands. -/
inductive Phase (κ γ : Type*) where
  | free
  | waiting (k : κ)
  | completed (c : γ)

/-- What can happen to a thread. -/
inductive Event (κ γ : Type*) where
  | blocked (k : κ)
  | completed (c : γ)
  | consumed (c : γ)
  | retired
  deriving DecidableEq

/-- The steps of the protocol; a step without an event changes nothing. -/
inductive Step (key : γ → κ) : Phase κ γ → Option (Event κ γ) → Phase κ γ → Prop
  | idle (p : Phase κ γ) : Step key p none p
  | block (k : κ) : Step key .free (some (.blocked k)) (.waiting k)
  | complete (c : γ) : Step key (.waiting (key c)) (some (.completed c)) (.completed c)
  | consume (c : γ) : Step key (.completed c) (some (.consumed c)) .free
  | retire (p : Phase κ γ) : Step key p (some .retired) .free

/-- The waits among the events. -/
def blocks (es : List (Option (Event κ γ))) : List κ :=
  es.filterMap fun
    | some (.blocked k) => some k
    | _ => none

/-- The completions among the events. -/
def completions (es : List (Option (Event κ γ))) : List γ :=
  es.filterMap fun
    | some (.completed c) => some c
    | _ => none

/-- The completions picked up. -/
def consumptions (es : List (Option (Event κ γ))) : List γ :=
  es.filterMap fun
    | some (.consumed c) => some c
    | _ => none

variable {p q : Phase κ γ} {es : List (Option (Event κ γ))} {k : κ} {c : γ}

/-- A phase in which a completion waits to be picked up. -/
def Phase.IsCompleted : Phase κ γ → Prop
  | .completed _ => True
  | _ => False

/-- Without a wait, no completion: only `blocked` leads to `waiting`. -/
theorem completions_eq_nil (hpath : Path (Step key) p es q) (hp : ∀ k, p ≠ .waiting k)
    (hb : blocks es = []) : completions es = [] := by
  induction hpath with
  | nil => rfl
  | cons head tail ih =>
    cases head with
    | idle => exact ih hp hb
    | block k => exact absurd hb (List.cons_ne_nil _ _)
    | complete c => exact absurd rfl (hp (key c))
    | consume => exact ih nofun hb
    | retire => exact ih nofun hb

/-- **A wait ends by exactly one completion**, for the key waited on, unless the thread is
retired. -/
theorem completed_once (hpath : Path (Step key) (.waiting k) es q) (hq : ∀ k, q ≠ .waiting k)
    (hb : blocks es = []) (hr : some Event.retired ∉ es) :
    ∃ c, completions es = [c] ∧ key c = k := by
  generalize hp : Phase.waiting k = p at hpath
  induction hpath with
  | nil => exact absurd hp.symm (hq k)
  | cons head tail ih =>
    subst hp
    cases head with
    | idle => exact ih hq hb (fun hm => hr (List.mem_cons_of_mem _ hm)) rfl
    | complete c =>
      exact ⟨c, congrArg (c :: ·) (completions_eq_nil tail nofun hb), rfl⟩
    | retire => exact absurd List.mem_cons_self hr

/-- Without a completion, nothing is picked up. -/
theorem consumptions_eq_nil (hpath : Path (Step key) p es q) (hp : ¬ p.IsCompleted)
    (hc : completions es = []) : consumptions es = [] := by
  induction hpath with
  | nil => rfl
  | cons head tail ih =>
    cases head with
    | idle => exact ih hp hc
    | block => exact ih not_false hc
    | complete => exact absurd hc (List.cons_ne_nil _ _)
    | consume => exact absurd trivial hp
    | retire => exact ih not_false hc

/-- **A completion is picked up at most once**, unaltered. -/
theorem consumed_once (hpath : Path (Step key) (.completed c) es q) (hc : completions es = []) :
    consumptions es = [] ∨ consumptions es = [c] := by
  generalize hp : Phase.completed c = p at hpath
  induction hpath with
  | nil => exact Or.inl rfl
  | cons head tail ih =>
    subst hp
    cases head with
    | idle => exact ih hc rfl
    | consume =>
      have hnil := consumptions_eq_nil tail not_false hc
      exact Or.inr (congrArg (c :: ·) hnil)
    | retire =>
      have hnil := consumptions_eq_nil tail not_false hc
      exact Or.inl hnil

/-- **A completion not picked up stays as it was**, and the thread does not wait. -/
theorem completed_stays (hpath : Path (Step key) (.completed c) es q)
    (hc : consumptions es = []) (hr : some Event.retired ∉ es) :
    q = .completed c ∧ ∀ e ∈ es, e = none := by
  generalize hp : Phase.completed c = p at hpath
  induction hpath with
  | nil =>
    subst hp
    exact ⟨rfl, fun _ hm => absurd hm List.not_mem_nil⟩
  | cons head tail ih =>
    subst hp
    cases head with
    | idle =>
      obtain ⟨hq, hall⟩ := ih hc (fun hm => hr (List.mem_cons_of_mem _ hm)) rfl
      exact ⟨hq, fun e hm => (List.mem_cons.mp hm).elim id (hall e)⟩
    | consume => exact absurd hc (List.cons_ne_nil _ _)
    | retire => exact absurd List.mem_cons_self hr

end WaitProtocol
