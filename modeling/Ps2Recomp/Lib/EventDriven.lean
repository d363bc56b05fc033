import Mathlib.Algebra.Order.Ring.Nat

/-!
# Systems that generate their own edges

A system knows the time of its next edge. To advance it to a time is to process the edges up to
there, each after catching up with it, and to catch up with the time itself (`Advances`). Edges at
`limit` are never processed. `Ready t s` says that `s` has not caught up past `t`.

An advance is made of segments: a state, and the time it catches up with. A segment `Splits` if it
makes no difference to catch up with a time in between first. If the segments of an advance do, the
advance can be chopped anywhere (`Advances.chop`).
-/

namespace EventDriven

variable {σ ε : Type*}

structure System (σ ε : Type*) where
  limit : Nat
  next : σ → Nat
  sync : Nat → σ → σ × ε
  /-- Process the next edge, in a state that has caught up with it. -/
  edge : Nat → σ → σ × ε
  Ready : Nat → σ → Prop
  next_sync (t : Nat) (s : σ) : next (sync t s).1 = next s
  ready_mono {t t' : Nat} {s : σ} : Ready t s → t ≤ t' → Ready t' s
  ready_edge {s : σ} : Ready (next s) s → Ready (next s) (edge (next s) (sync (next s) s).1).1
  next_edge {s : σ} : next s < limit → next s ≤ next (edge (next s) (sync (next s) s).1).1

variable (S : System σ ε)

/-- The next edge is one to process on the way to `b`. -/
def System.Due (b : Nat) (s : σ) : Prop := S.next s ≤ b ∧ S.next s < S.limit

/-- The state after the next edge. -/
def System.pass (s : σ) : σ × ε := S.edge (S.next s) (S.sync (S.next s) s).1

theorem ready_pass {S : System σ ε} {t : Nat} {s : σ} (hready : S.Ready t s) (ht : t ≤ S.next s) :
    S.Ready (S.next s) (S.pass s).1 := S.ready_edge (S.ready_mono hready ht)

variable [AddMonoid ε]

/-- Advancing to `b` from a state, with the segments on the way, the state reached and the sum of
the results. -/
inductive Advances (b : Nat) : σ → List (Nat × σ) → σ → ε → Prop
  | stop {s : σ} (h : ¬ S.Due b s) : Advances b s [(b, s)] (S.sync b s).1 (S.sync b s).2
  | edge {s s' : σ} {segments : List (Nat × σ)} {r : ε} (h : S.Due b s)
      (rest : Advances b (S.pass s).1 segments s' r) :
      Advances b s ((S.next s, s) :: segments) s'
        ((S.sync (S.next s) s).2 + (S.pass s).2 + r)

/-- Catching up with `t` may be done in two steps. -/
def System.Splits (t : Nat) (s : σ) : Prop :=
  ∀ a ≤ t, S.Ready a s → (S.sync t (S.sync a s).1).1 = (S.sync t s).1 ∧
    (S.sync t s).2 = (S.sync a s).2 + (S.sync t (S.sync a s).1).2

variable {S} {a b t : Nat} {s s₁ s' : σ} {r r₁ : ε} {segments segments₁ : List (Nat × σ)}

/-- A state that was caught up with a time before the next edge. -/
theorem pass_sync (hsplit : S.Splits (S.next s) s) (ha : a ≤ S.next s) (hready : S.Ready a s) :
    S.pass (S.sync a s).1 = S.pass s := by
  unfold System.pass
  rw [S.next_sync, (hsplit a ha hready).1]

/-- **An advance whose segments split can be chopped anywhere.** The induction is on the advance to
the place of the chop. -/
theorem Advances.chop (ha : Advances S a s segments₁ s₁ r₁) (hb : Advances S b s segments s' r)
    (hab : a ≤ b) (hready : S.Ready t s) (hta : t ≤ a) (htn : t ≤ S.next s)
    (hsplit : ∀ p ∈ segments, S.Splits p.1 p.2) :
    ∃ segments₂ r₂, Advances S b s₁ segments₂ s' r₂ ∧ r = r₁ + r₂ := by
  induction ha generalizing t segments r with
  | stop hnot =>
    rename_i s
    have hready := S.ready_mono hready hta
    cases hb with
    | stop hnot' =>
      obtain ⟨hs, hr⟩ := hsplit _ List.mem_cons_self a hab hready
      have hstop : ¬ S.Due b (S.sync a s).1 := by
        unfold System.Due
        rw [S.next_sync]
        exact hnot'
      exact ⟨_, _, hs ▸ Advances.stop hstop, hr⟩
    | edge hdue rest =>
      have han : a ≤ S.next s := by
        by_contra hlt
        exact hnot ⟨le_of_not_ge hlt, hdue.2⟩
      have hseg := hsplit _ List.mem_cons_self
      have hdue' : S.Due b (S.sync a s).1 := by
        unfold System.Due
        rw [S.next_sync]
        exact hdue
      have hpass := pass_sync hseg han hready
      rw [← hpass] at rest
      refine ⟨_, _, Advances.edge hdue' rest, ?_⟩
      rw [S.next_sync, hpass, (hseg a han hready).2, add_assoc, add_assoc, add_assoc]
  | edge hdue _ ih =>
    cases hb with
    | stop hnot => exact absurd ⟨hdue.1.trans hab, hdue.2⟩ hnot
    | edge _ rest =>
      obtain ⟨segments₂, r₂, hadv, hr⟩ := ih rest (ready_pass hready htn) hdue.1
        (S.next_edge hdue.2) fun p hp => hsplit p (List.mem_cons_of_mem _ hp)
      refine ⟨segments₂, r₂, hadv, ?_⟩
      rw [hr, add_assoc, add_assoc, add_assoc]

theorem Advances.unique {segments' : List (Nat × σ)} {s'' : σ} {r' : ε}
    (h : Advances S b s segments s' r) (h' : Advances S b s segments' s'' r') :
    s' = s'' ∧ r = r' := by
  induction h generalizing segments' r' with
  | stop hnot =>
    cases h' with
    | stop _ => exact ⟨rfl, rfl⟩
    | edge hdue _ => exact absurd hdue hnot
  | edge hdue _ ih =>
    cases h' with
    | stop hnot => exact absurd hdue hnot
    | edge _ rest =>
      obtain ⟨hs, hr⟩ := ih rest
      exact ⟨hs, hr ▸ rfl⟩

/-- **The rule for what an advance returns.** `I t s` is what is known of a state reached at time
`t`, and `P` what is to be shown of the results. -/
theorem Advances.results {I : Nat → σ → Prop} {P : ε → Prop}
    (hadd : ∀ {r r' : ε}, P r → P r' → P (r + r'))
    (hsync : ∀ {t t' : Nat} {s : σ}, I t s → t ≤ t' → t' ≤ b → (t' ≤ S.next s ∨ ¬ S.Due b s) →
      P (S.sync t' s).2)
    (hpass : ∀ {t : Nat} {s : σ}, I t s → t ≤ S.next s → S.Due b s →
      P (S.pass s).2 ∧ I (S.next s) (S.pass s).1)
    (h : Advances S b s segments s' r) (h0 : I t s) (htb : t ≤ b) (htn : t ≤ S.next s) : P r := by
  induction h generalizing t with
  | stop hnot => exact hsync h0 htb le_rfl (Or.inr hnot)
  | edge hdue _ ih =>
    obtain ⟨hP, hI⟩ := hpass h0 htn hdue
    exact hadd (hadd (hsync h0 htn hdue.1 (Or.inl le_rfl)) hP)
      (ih hI hdue.1 (S.next_edge hdue.2))

end EventDriven
