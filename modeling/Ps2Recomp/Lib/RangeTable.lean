import Mathlib.Data.List.Perm.Basic
import Mathlib.Order.Lattice

/-!
# Tables of half-open ranges

The entries of a table have ranges `[lo, hi)`. In a `Partition` no range is empty and no two meet, so
a point is in one of them at most (`countP_covers_eq_one`), and an entry is found by where it starts.
Two changes keep that: an entry loses an end of its range, and an entry is added where none is.
-/

namespace RangeTable

variable {P α : Type*} [LinearOrder α] (lo hi : P → α)

/-- The point is in the range. -/
def Covers (p : P) (a : α) : Prop := lo p ≤ a ∧ a < hi p

instance (p : P) (a : α) : Decidable (Covers lo hi p a) := inferInstanceAs (Decidable (_ ∧ _))

/-- One range ends where the other one starts, or before. -/
def Apart (p q : P) : Prop := hi p ≤ lo q ∨ hi q ≤ lo p

instance (p q : P) : Decidable (Apart lo hi p q) := inferInstanceAs (Decidable (_ ∨ _))

structure Partition (ps : List P) : Prop where
  nonempty : ∀ p ∈ ps, lo p < hi p
  apart : ps.Pairwise (Apart lo hi)

variable {lo hi} {ps qs : List P} {p q : P} {a : α}

theorem Apart.symm (h : Apart lo hi p q) : Apart lo hi q p := Or.symm h

theorem Apart.not_covers (h : Apart lo hi p q) (hp : Covers lo hi p a) : ¬Covers lo hi q a := by
  rintro ⟨hlo, hhi⟩
  rcases h with h | h
  · exact absurd (lt_of_lt_of_le hp.2 h) (not_lt.2 hlo)
  · exact absurd (lt_of_lt_of_le hhi h) (not_lt.2 hp.1)

namespace Partition

theorem perm (h : Partition lo hi ps) (hperm : ps.Perm qs) : Partition lo hi qs where
  nonempty p hp := h.nonempty p (hperm.mem_iff.2 hp)
  apart := h.apart.perm hperm Apart.symm

/-- A point is in one range at most. -/
theorem countP_covers_le_one (h : Partition lo hi ps) (a : α) :
    (ps.countP fun p => Covers lo hi p a) ≤ 1 := by
  obtain ⟨-, hapart⟩ := h
  induction ps with
  | nil => exact Nat.zero_le 1
  | cons p rest ih =>
    obtain ⟨hp, hrest⟩ := List.pairwise_cons.1 hapart
    rw [List.countP_cons]
    by_cases hcovers : Covers lo hi p a
    · have hnone : (rest.countP fun q => Covers lo hi q a) = 0 := by
        rw [List.countP_eq_zero]
        intro q hq
        rw [decide_eq_true_eq]
        exact (hp q hq).not_covers hcovers
      rw [hnone]
      split <;> omega
    · rw [if_neg (by rwa [decide_eq_true_eq])]
      exact ih hrest

theorem countP_covers_eq_one (h : Partition lo hi ps) (hp : p ∈ ps) (hcovers : Covers lo hi p a) :
    (ps.countP fun p => Covers lo hi p a) = 1 := by
  refine Nat.le_antisymm (h.countP_covers_le_one a) ?_
  exact List.countP_pos_iff.2 ⟨p, hp, decide_eq_true hcovers⟩

/-- A point where a range starts is the start of no other. -/
theorem countP_start_eq_one (h : Partition lo hi ps) (hp : p ∈ ps) (hstart : lo p = a) :
    (ps.countP fun p => lo p = a) = 1 := by
  have hle : (ps.countP fun q => lo q = a) ≤ ps.countP fun q => Covers lo hi q a := by
    refine List.countP_mono_left fun q hq heq => ?_
    rw [decide_eq_true_eq] at heq ⊢
    exact ⟨le_of_eq heq, heq ▸ h.nonempty q hq⟩
  refine Nat.le_antisymm (Nat.le_trans hle (h.countP_covers_le_one a)) ?_
  exact List.countP_pos_iff.2 ⟨p, hp, decide_eq_true hstart⟩

/-- An entry is added. -/
theorem concat (h : Partition lo hi ps) (hlt : lo q < hi q) (hapart : ∀ p ∈ ps, Apart lo hi p q) :
    Partition lo hi (ps ++ [q]) where
  nonempty p hp := by
    rcases List.mem_append.1 hp with hp | hp
    · exact h.nonempty p hp
    · obtain rfl := List.mem_singleton.1 hp
      exact hlt
  apart := by
    rw [List.pairwise_append]
    refine ⟨h.apart, List.pairwise_singleton _ _, fun p hp q' hq' => ?_⟩
    obtain rfl := List.mem_singleton.1 hq'
    exact hapart p hp

/-- An entry loses its range from a point of it on, and another one takes that. -/
theorem split {i : ℕ} {p' : P} (h : Partition lo hi ps) (hi? : ps[i]? = some p)
    (hafter : lo p < a) (hbefore : a < hi p) (hlo' : lo p' = lo p) (hhi' : hi p' = a)
    (hlo : lo q = a) (hhi : hi q = hi p) : Partition lo hi (ps.set i p' ++ [q]) := by
  have hlt : i < ps.length := (List.getElem?_eq_some_iff.1 hi?).1
  have hat : ps[i] = p := (List.getElem?_eq_some_iff.1 hi?).2
  have hparts : ps = ps.take i ++ p :: ps.drop (i + 1) := by
    rw [← hat, List.getElem_cons_drop, List.take_append_drop]
  have hfront : Partition lo hi (p :: (ps.take i ++ ps.drop (i + 1))) :=
    h.perm ((List.Perm.of_eq hparts).trans List.perm_middle)
  obtain ⟨hp, hrest⟩ := List.pairwise_cons.1 hfront.apart
  have hcut : Partition lo hi (p' :: (ps.take i ++ ps.drop (i + 1))) :=
    { nonempty := by
        intro r hr
        rcases List.mem_cons.1 hr with rfl | hr
        · rw [hlo', hhi']
          exact hafter
        · exact hfront.nonempty r (List.mem_cons_of_mem p hr)
      apart := by
        refine List.pairwise_cons.2 ⟨fun r hr => ?_, hrest⟩
        rcases hp r hr with hr | hr
        · exact .inl (by rw [hhi']; exact le_trans (le_of_lt hbefore) hr)
        · exact .inr (by rw [hlo']; exact hr) }
  have hset : Partition lo hi (ps.set i p') := by
    rw [List.set_eq_take_append_cons_drop, if_pos hlt]
    exact hcut.perm List.perm_middle.symm
  refine hset.concat (by rw [hlo, hhi]; exact hbefore) fun r hr => ?_
  rw [List.set_eq_take_append_cons_drop, if_pos hlt] at hr
  rcases List.mem_cons.1 (List.perm_middle.mem_iff.1 hr) with rfl | hr
  · exact .inl (by rw [hhi', hlo])
  · rcases hp r hr with hr | hr
    · exact .inr (by rw [hhi]; exact hr)
    · exact .inl (by rw [hlo]; exact le_trans hr (le_of_lt hafter))

end Partition

theorem covers_split {i : ℕ} {p' : P} {b : α} (hi? : ps[i]? = some p) (hlo' : lo p' = lo p)
    (hhi' : hi p' = a) (hlo : lo q = a) (hhi : hi q = hi p) {r : P} (hr : r ∈ ps)
    (hcovers : Covers lo hi r b) : ∃ r ∈ ps.set i p' ++ [q], Covers lo hi r b := by
  have hlt : i < ps.length := (List.getElem?_eq_some_iff.1 hi?).1
  have hmem : p' ∈ ps.set i p' := List.mem_set hlt p'
  obtain ⟨j, hj⟩ := List.mem_iff_getElem?.1 hr
  by_cases hij : i = j
  · subst hij
    obtain rfl : p = r := Option.some.inj (hi?.symm.trans hj)
    rcases lt_or_ge b a with hb | hb
    · exact ⟨p', List.mem_append_left _ hmem, by rw [hlo']; exact hcovers.1, by rw [hhi']; exact hb⟩
    · refine ⟨q, List.mem_append_right _ (List.mem_singleton_self q), by rw [hlo]; exact hb, ?_⟩
      rw [hhi]
      exact hcovers.2
  · have hkept : (ps.set i p')[j]? = some r := (List.getElem?_set_ne hij).trans hj
    exact ⟨r, List.mem_append_left _ (List.mem_of_getElem? hkept), hcovers⟩

end RangeTable
