import Mathlib.Logic.Basic

/-!
# Deterministic machines and their runs

A machine is a step function. `run` is the state after a list of inputs, and `Along guard` says
that every step of the run satisfies `guard`, a condition on the state the step starts from and
its input. `invariant` is the induction principle: what the start satisfies and every guarded step
keeps, the end satisfies.

`outputs` are the events the steps emit. A machine simulates a transition relation with labelled
steps if each step, seen through an abstraction `f`, is a step of the relation with the event
emitted as its label(`simulates`).
-/

namespace Machine

variable {σ α : Type*} {step : σ → α → σ} {guard guard' : σ → α → Prop} {s : σ}

/-- The state after the inputs. -/
def run (step : σ → α → σ) (s : σ) (inputs : List α) : σ := inputs.foldl step s

/-- Every step of the run satisfies `guard`. -/
def Along (step : σ → α → σ) (guard : σ → α → Prop) : σ → List α → Prop
  | _, [] => True
  | s, a :: rest => guard s a ∧ Along step guard (step s a) rest

instance [∀ s a, Decidable (guard s a)] :
    ∀ (s : σ) (inputs : List α), Decidable (Along step guard s inputs)
  | _, [] => inferInstanceAs (Decidable True)
  | s, a :: rest =>
    have : Decidable (Along step guard (step s a) rest) := instDecidableAlong (step s a) rest
    inferInstanceAs (Decidable (_ ∧ _))

@[simp] theorem run_nil : run step s [] = s := rfl

@[simp] theorem run_cons (a : α) (rest : List α) :
    run step s (a :: rest) = run step (step s a) rest := rfl

theorem run_append (before after : List α) :
    run step s (before ++ after) = run step (run step s before) after := List.foldl_append

theorem along_append {before after : List α} :
    Along step guard s (before ++ after) ↔
      Along step guard s before ∧ Along step guard (run step s before) after := by
  induction before generalizing s with
  | nil => exact (and_iff_right trivial).symm
  | cons a before ih =>
    rw [List.cons_append, Along, Along, run_cons, ih, and_assoc]

theorem along_of_forall {inputs : List α} (h : ∀ a ∈ inputs, ∀ s, guard s a) :
    Along step guard s inputs := by
  induction inputs generalizing s with
  | nil => trivial
  | cons a rest ih =>
    exact ⟨h a List.mem_cons_self s, ih fun b hb => h b (List.mem_cons_of_mem _ hb)⟩

/-- **The invariant rule.** -/
theorem invariant {I : σ → Prop} (hstep : ∀ s a, I s → guard s a → I (step s a))
    {inputs : List α} (h0 : I s) (hrun : Along step guard s inputs) : I (run step s inputs) := by
  induction inputs generalizing s with
  | nil => exact h0
  | cons a rest ih => exact ih (hstep s a h0 hrun.1) hrun.2

/-! ## Simulation -/

variable {ε τ : Type*} {out : σ → α → ε}

/-- The events emitted along a run. -/
def outputs (step : σ → α → σ) (out : σ → α → ε) : σ → List α → List ε
  | _, [] => []
  | s, a :: rest => out s a :: outputs step out (step s a) rest

/-- **Guards that agree** while two runs stay related hold along both runs or along neither. -/
theorem along_iff {step' : τ → α → τ} {guard' : τ → α → Prop} {R : σ → τ → Prop}
    (hguard : ∀ s t a, R s t → (guard s a ↔ guard' t a))
    (hstep : ∀ s t a, R s t → guard s a → R (step s a) (step' t a))
    {inputs : List α} {t : τ} (h0 : R s t) :
    Along step guard s inputs ↔ Along step' guard' t inputs := by
  induction inputs generalizing s t with
  | nil => exact Iff.rfl
  | cons a rest ih =>
    rw [Along, Along, ← hguard s t a h0]
    exact and_congr_right fun ha => ih (hstep s t a h0 ha)

theorem outputs_append (before after : List α) :
    outputs step out s (before ++ after) =
      outputs step out s before ++ outputs step out (run step s before) after := by
  induction before generalizing s with
  | nil => rfl
  | cons a before ih => rw [List.cons_append, outputs, outputs, run_cons, ih, List.cons_append]

/-- `R` leads from `p` to `q` with the labels in order. -/
inductive Path (R : τ → ε → τ → Prop) : τ → List ε → τ → Prop
  | nil (p : τ) : Path R p [] p
  | cons {p q r : τ} {e : ε} {es : List ε} (head : R p e q) (tail : Path R q es r) :
      Path R p (e :: es) r

theorem Path.of_cons {R : τ → ε → τ → Prop} {p r : τ} {e : ε} {es : List ε}
    (h : Path R p (e :: es) r) : ∃ q, R p e q ∧ Path R q es r := by
  cases h with
  | cons head tail => exact ⟨_, head, tail⟩

theorem Path.snoc {R : τ → ε → τ → Prop} {p q r : τ} {es : List ε} {e : ε} (hpath : Path R p es q)
    (hlast : R q e r) : Path R p (es ++ [e]) r := by
  induction hpath with
  | nil p => exact Path.cons hlast (Path.nil r)
  | cons head _ ih => exact Path.cons head (ih hlast)

/-- **A machine that is matched step by step by `R` is matched along its runs.** -/
theorem simulates_related {R : τ → ε → τ → Prop} {I : σ → τ → Prop}
    (hstep : ∀ s t a, I s t → guard s a → ∃ t', R t (out s a) t' ∧ I (step s a) t')
    {inputs : List α} {t : τ} (h0 : I s t) (hrun : Along step guard s inputs) :
    ∃ t', Path R t (outputs step out s inputs) t' ∧ I (run step s inputs) t' := by
  induction inputs generalizing s t with
  | nil => exact ⟨t, Path.nil _, h0⟩
  | cons a rest ih =>
    obtain ⟨t', hR, hI⟩ := hstep s t a h0 hrun.1
    obtain ⟨t'', hpath, hI'⟩ := ih hI hrun.2
    exact ⟨t'', Path.cons hR hpath, hI'⟩

/-- **A run of a machine that simulates `R` step by step is a path of `R`.** -/
theorem simulates {R : τ → ε → τ → Prop} {f : σ → τ} {I : σ → Prop}
    (hstep : ∀ s a, I s → guard s a → I (step s a) ∧ R (f s) (out s a) (f (step s a)))
    {inputs : List α} (h0 : I s) (hrun : Along step guard s inputs) :
    Path R (f s) (outputs step out s inputs) (f (run step s inputs)) := by
  induction inputs generalizing s with
  | nil => exact Path.nil _
  | cons a rest ih =>
    obtain ⟨hI, hR⟩ := hstep s a h0 hrun.1
    exact Path.cons hR (ih hI hrun.2)

end Machine
