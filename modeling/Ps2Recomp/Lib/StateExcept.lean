import Mathlib.Logic.Basic

/-!
# Rules for computations with a state and exceptions

A computation that returns is taken apart at its binds (`bind_eq_ok`, `bind_eq_error`). Two
computations that agree on the states of an invariant that they keep (`AgreeOn`) can be exchanged,
piece by piece.
-/

namespace StateExcept

variable {ε σ α β : Type} {x y : EStateM ε σ α} {f g : α → EStateM ε σ β} {s s' : σ}

theorem bind_eq_ok {b : β} :
    (x >>= f) s = .ok b s' ↔ ∃ a s₁, x s = .ok a s₁ ∧ f a s₁ = .ok b s' := by
  change EStateM.bind x f s = _ ↔ _
  unfold EStateM.bind
  cases x s with
  | ok a s₁ =>
    constructor
    · exact fun h => ⟨a, s₁, rfl, h⟩
    · rintro ⟨a, s₁, heq, h⟩
      cases heq
      exact h
  | error e s₁ =>
    constructor
    · intro h
      cases h
    · rintro ⟨a, s₁, heq, -⟩
      cases heq

theorem bind_of_ok {a : α} {s₁ : σ} (h : x s = .ok a s₁) : (x >>= f) s = f a s₁ := by
  change EStateM.bind x f s = _
  unfold EStateM.bind
  rw [h]

theorem bind_congr_ok (h : ∀ a s₁, x s = .ok a s₁ → f a s₁ = g a s₁) :
    (x >>= f) s = (x >>= g) s := by
  change EStateM.bind x f s = EStateM.bind x g s
  unfold EStateM.bind
  cases hx : x s with
  | ok a s₁ => exact h a s₁ hx
  | error e s₁ => rfl

theorem bind_congr_left (h : x s = y s) : (x >>= f) s = (y >>= f) s := by
  change EStateM.bind x f s = EStateM.bind y f s
  unfold EStateM.bind
  rw [h]

theorem pure_eq_ok {a b : α} : (pure a : EStateM ε σ α) s = .ok b s' ↔ a = b ∧ s = s' := by
  change EStateM.Result.ok a s = .ok b s' ↔ _
  constructor
  · intro h
    cases h
    exact ⟨rfl, rfl⟩
  · rintro ⟨rfl, rfl⟩
    rfl

theorem get_eq_ok {a : σ} : (get : EStateM ε σ σ) s = .ok a s' ↔ s = a ∧ s = s' := by
  change EStateM.Result.ok s s = .ok a s' ↔ _
  constructor
  · intro h
    cases h
    exact ⟨rfl, rfl⟩
  · rintro ⟨rfl, rfl⟩
    rfl

theorem get_bind {f : σ → EStateM ε σ β} : ((get : EStateM ε σ σ) >>= f) s = f s s := rfl

theorem modify_bind {update : σ → σ} {f : Unit → EStateM ε σ β} :
    (modify update >>= f) s = f () (update s) := rfl

theorem modifyGet_bind {update : σ → α × σ} :
    (modifyGet update >>= f) s = f (update s).1 (update s).2 := rfl

theorem throw_ne_ok {e : ε} {a : α} : (throw e : EStateM ε σ α) s ≠ .ok a s' := by
  rintro ⟨⟩

/-- What is caught is thrown again, after `handler`. -/
theorem tryCatch_eq_ok {handler : ε → EStateM ε σ α} {a : α}
    (hthrows : ∀ e s a s', handler e s ≠ .ok a s') :
    (tryCatch x handler) s = .ok a s' ↔ x s = .ok a s' := by
  change EStateM.tryCatch x handler s = _ ↔ _
  unfold EStateM.tryCatch
  cases x s with
  | ok b s₁ => exact Iff.rfl
  | error e s₁ =>
    constructor
    · exact fun h => absurd h (hthrows _ _ _ _)
    · rintro ⟨⟩

/-! ## Agreement -/

def endState : EStateM.Result ε σ α → σ
  | .ok _ s => s
  | .error _ s => s

/-- The state a computation that throws leaves. -/
def errorState : EStateM.Result ε σ α → Option σ
  | .ok _ _ => none
  | .error _ s => some s

/-- The same from every state of the invariant, and back to one. -/
def AgreeOn (I : σ → Prop) (x y : EStateM ε σ α) : Prop :=
  ∀ s, I s → x s = y s ∧ I (endState (x s))

variable {I : σ → Prop}

namespace AgreeOn

/-- A computation that keeps the invariant. -/
theorem refl (h : ∀ s, I s → I (endState (x s))) : AgreeOn I x x := fun s hs => ⟨rfl, h s hs⟩

theorem pure (a : α) : AgreeOn I (Pure.pure a : EStateM ε σ α) (Pure.pure a) := refl fun _ hs => hs

theorem throw (e : ε) : AgreeOn I (MonadExcept.throw e : EStateM ε σ α) (MonadExcept.throw e) :=
  refl fun _ hs => hs

theorem get : AgreeOn I (MonadState.get : EStateM ε σ σ) MonadState.get := refl fun _ hs => hs

theorem bind (hx : AgreeOn I x y) (hf : ∀ a, AgreeOn I (f a) (g a)) :
    AgreeOn I (x >>= f) (y >>= g) := by
  intro s hs
  obtain ⟨heq, hend⟩ := hx s hs
  change EStateM.bind x f s = EStateM.bind y g s ∧ I (endState (EStateM.bind x f s))
  unfold EStateM.bind
  rw [← heq]
  cases hresult : x s with
  | ok a s₁ =>
    rw [hresult] at hend
    exact hf a s₁ hend
  | error e s₁ =>
    rw [hresult] at hend
    exact ⟨rfl, hend⟩

theorem ite {p : Prop} [Decidable p] {x' y' : EStateM ε σ α} (h : AgreeOn I x y)
    (h' : AgreeOn I x' y') : AgreeOn I (if p then x else x') (if p then y else y') := by
  split
  · exact h
  · exact h'

theorem tryCatch {handler : ε → EStateM ε σ α} (h : AgreeOn I x y) {s : σ} (hs : I s) :
    (MonadExcept.tryCatch x handler) s = (MonadExcept.tryCatch y handler) s := by
  change EStateM.tryCatch x handler s = EStateM.tryCatch y handler s
  unfold EStateM.tryCatch
  rw [(h s hs).1]

end AgreeOn

end StateExcept
