import Mathlib.Data.List.Basic
import Mathlib.Order.Basic

/-!
# Stable sorting with a comparator

A sort that is handed a comparator `less` owes a result only where `less` is a strict weak ordering
on the list it sorts (`StrictWeakOn`). There the result is a permutation with no inversion, and what
already stood in order keeps its order (`IsStableSort`). `StableSorter` is that contract: it says
nothing about other lists, so a result proved for every stable sorter is one that no implementation
can break, and where `less` is not a strict weak ordering nothing can be proved
(`exists_stableSorter`).
-/

namespace StableSort

variable {α : Type*} {less : α → α → Bool} {l l' : List α}

/-- `less` is a strict weak ordering on the members of `l`. -/
structure StrictWeakOn (less : α → α → Bool) (l : List α) : Prop where
  irrefl : ∀ a ∈ l, less a a = false
  trans : ∀ a ∈ l, ∀ b ∈ l, ∀ c ∈ l, less a b = true → less b c = true → less a c = true
  incomparable : ∀ a ∈ l, ∀ b ∈ l, ∀ c ∈ l, less a b = false → less b a = false →
    less b c = false → less c b = false → less a c = false ∧ less c a = false

/-- `l'` is `l` sorted, and everything that was in order already is still in that order. -/
structure IsStableSort (less : α → α → Bool) (l l' : List α) : Prop where
  perm : l'.Perm l
  sorted : l'.Pairwise fun a b => less b a = false
  stable : ∀ c : List α, c.Sublist l → (c.Pairwise fun a b => less b a = false) → c.Sublist l'

/-- What a stable sort promises. -/
def StableSorter (sort : (α → α → Bool) → List α → List α) : Prop :=
  ∀ less l, StrictWeakOn less l → IsStableSort less l (sort less l)

theorem strictWeakOn_of_rank (rank : α → Nat)
    (h : ∀ a ∈ l, ∀ b ∈ l, (less a b = true ↔ rank a < rank b)) : StrictWeakOn less l where
  irrefl a ha := by
    rw [← Bool.not_eq_true, h a ha a ha]
    exact Nat.lt_irrefl _
  trans a ha b hb c hc hab hbc := by
    rw [h a ha b hb] at hab
    rw [h b hb c hc] at hbc
    rw [h a ha c hc]
    exact Nat.lt_trans hab hbc
  incomparable a ha b hb c hc hab hba hbc hcb := by
    rw [← Bool.not_eq_true, h a ha b hb] at hab
    rw [← Bool.not_eq_true, h b hb a ha] at hba
    rw [← Bool.not_eq_true, h b hb c hc] at hbc
    rw [← Bool.not_eq_true, h c hc b hb] at hcb
    rw [← Bool.not_eq_true, ← Bool.not_eq_true, h a ha c hc, h c hc a ha]
    omega

namespace StrictWeakOn

variable (h : StrictWeakOn less l)

include h

theorem asymm {a b : α} (ha : a ∈ l) (hb : b ∈ l) (hab : less a b = true) : less b a = false := by
  rw [← Bool.not_eq_true]
  intro hba
  have haa := h.trans a ha b hb a ha hab hba
  rw [h.irrefl a ha] at haa
  exact Bool.false_ne_true haa

theorem le_trans {a b c : α} (ha : a ∈ l) (hb : b ∈ l) (hc : c ∈ l) (hab : less b a = false)
    (hbc : less c b = false) : less c a = false := by
  rw [← Bool.not_eq_true]
  intro hca
  rcases Bool.eq_false_or_eq_true (less a b) with hlt | hab'
  · have hcb := h.trans c hc a ha b hb hca hlt
    rw [hbc] at hcb
    exact Bool.false_ne_true hcb
  rcases Bool.eq_false_or_eq_true (less b c) with hlt | hbc'
  · have hba := h.trans b hb c hc a ha hlt hca
    rw [hab] at hba
    exact Bool.false_ne_true hba
  have hac := (h.incomparable a ha b hb c hc hab' hab hbc' hbc).2
  rw [hca] at hac
  exact Bool.false_ne_true hac.symm

end StrictWeakOn

/-- The members of a class without an order among them keep their order. -/
theorem IsStableSort.filter_eq (h : IsStableSort less l l') (p : α → Bool)
    (hp : ∀ a ∈ l, ∀ b ∈ l, p a = true → p b = true → less a b = false) :
    l'.filter p = l.filter p := by
  have hpair : (l.filter p).Pairwise fun a b => less b a = false := by
    rw [List.pairwise_iff_forall_sublist]
    intro a b hab
    have ha := List.mem_filter.mp (hab.subset List.mem_cons_self)
    have hb := List.mem_filter.mp (hab.subset (List.mem_cons_of_mem a List.mem_cons_self))
    exact hp b hb.1 a ha.1 hb.2 ha.2
  have hsub : (l.filter p).Sublist (l'.filter p) := by
    have := (h.stable (l.filter p) List.filter_sublist hpair).filter p
    simpa only [List.filter_filter, Bool.and_self] using this
  exact (hsub.eq_of_length (h.perm.symm.filter p).length_eq).symm

/-! ## Stable sorts exist -/

def mergeSortBy (less : α → α → Bool) (l : List α) : List α :=
  (l.attach.mergeSort fun a b => !less b.1 a.1).map Subtype.val

theorem isStableSort_mergeSortBy (h : StrictWeakOn less l) :
    IsStableSort less l (mergeSortBy less l) := by
  have htrans : ∀ a b c : { x // x ∈ l }, (!less b.1 a.1) = true → (!less c.1 b.1) = true →
      (!less c.1 a.1) = true := by
    simp only [Bool.not_eq_true']
    exact fun a b c => h.le_trans a.2 b.2 c.2
  have htotal : ∀ a b : { x // x ∈ l }, ((!less b.1 a.1) || !less a.1 b.1) = true := by
    intro a b
    rcases Bool.eq_false_or_eq_true (less b.1 a.1) with hlt | hle
    · rw [h.asymm b.2 a.2 hlt, Bool.not_false, Bool.or_true]
    · rw [hle, Bool.not_false, Bool.true_or]
  refine ⟨?_, ?_, fun c hc hpair => ?_⟩
  · have := (List.mergeSort_perm l.attach fun a b => !less b.1 a.1).map Subtype.val
    rwa [List.attach_map_subtype_val] at this
  · rw [mergeSortBy, List.pairwise_map]
    refine (List.pairwise_mergeSort htrans htotal l.attach).imp fun {a b} hab => ?_
    rwa [Bool.not_eq_true'] at hab
  · rw [← List.attach_map_subtype_val l, List.sublist_map_iff] at hc
    obtain ⟨c', hsub, rfl⟩ := hc
    have hsorted : c'.Pairwise fun a b => (!less b.1 a.1) = true := by
      rw [List.pairwise_map] at hpair
      exact hpair.imp fun hab => by rw [hab, Bool.not_false]
    exact (List.sublist_mergeSort htrans htotal hsorted hsub).map Subtype.val

theorem stableSorter_mergeSortBy : StableSorter (α := α) mergeSortBy :=
  fun _ _ h => isStableSort_mergeSortBy h

/-- Where the comparator is not a strict weak ordering, a stable sort may return anything. -/
theorem exists_stableSorter (h : ¬ StrictWeakOn less l) (out : List α) :
    ∃ sort, StableSorter sort ∧ sort less l = out := by
  classical
  refine ⟨fun less' l' => if less' = less ∧ l' = l then out else mergeSortBy less' l', ?_, ?_⟩
  · intro less' l' hweak
    by_cases heq : less' = less ∧ l' = l
    · obtain ⟨rfl, rfl⟩ := heq
      exact absurd hweak h
    · simp only [if_neg heq]
      exact isStableSort_mergeSortBy hweak
  · simp only [and_self, if_true]

end StableSort
