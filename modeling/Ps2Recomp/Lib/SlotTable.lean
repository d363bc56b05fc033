import Mathlib.Data.Set.Function
import Mathlib.Data.List.Nodup
import Mathlib.Data.List.Pairwise
import Mathlib.Algebra.BigOperators.Group.List.Basic
import Mathlib.Algebra.Order.Ring.Nat

/-!
# A table of slots with an index by key

A table is a list of slots, each empty or with an entry. An index lists for keys the slots where
their entries are. `Indexed` says that it lists exactly the entries, no two with the same key, where
`same` is an equivalence of keys: finding a key finds the entry with that key (`find_iff`), and the
index is in bijection with the occupied slots (`bijOn`).

`total f` sums a measure over the entries.
-/

namespace SlotTable

variable {P K : Type*} {key : P → K} {same : K → K → Bool} {slots : List (Option P)}
  {index : List (K × ℕ)} {i j : ℕ} {p q : P} {k : K}

def entryAt (slots : List (Option P)) (i : ℕ) : Option P := slots[i]?.join

theorem entryAt_eq_some : entryAt slots i = some p ↔ slots[i]? = some (some p) := by
  rw [entryAt, Option.join_eq_some_iff]

theorem entryAt_set (h : i < slots.length) (o : Option P) (j : ℕ) :
    entryAt (slots.set i o) j = if i = j then o else entryAt slots j := by
  unfold entryAt
  rw [List.getElem?_set]
  split
  next hij =>
    subst hij
    simp
  next => rfl

/-- A new slot at the end, still empty, holds nothing. -/
theorem entryAt_append_none (slots : List (Option P)) (i : ℕ) :
    entryAt (slots ++ [none]) i = entryAt slots i := by
  unfold entryAt
  rcases Nat.lt_trichotomy i slots.length with h | rfl | h
  · rw [List.getElem?_append_left h]
  · simp
  · rw [List.getElem?_eq_none (by simp; omega), List.getElem?_eq_none h.le]

theorem lt_length_of_entryAt (h : entryAt slots i = some p) : i < slots.length :=
  (List.getElem?_eq_some_iff.1 (entryAt_eq_some.1 h)).1

/-! ## Measures -/

/-- The sum of a measure over the entries. -/
def total (f : P → ℕ) (slots : List (Option P)) : ℕ := (slots.map fun o => o.elim 0 f).sum

theorem total_append_none (f : P → ℕ) (slots : List (Option P)) :
    total f (slots ++ [none]) = total f slots := by
  simp [total]

theorem total_set (f : P → ℕ) {o : Option P} (h : slots[i]? = some o) (o' : Option P) :
    total f (slots.set i o') + o.elim 0 f = total f slots + o'.elim 0 f := by
  unfold total
  induction slots generalizing i with
  | nil => simp at h
  | cons s slots ih =>
    cases i with
    | zero =>
      obtain rfl : s = o := by simpa using h
      simp only [List.set_cons_zero, List.map_cons, List.sum_cons]
      omega
    | succ i =>
      have := ih (by simpa using h)
      simp only [List.set_cons_succ, List.map_cons, List.sum_cons]
      omega

/-! ## The index -/

/-- The slot that the index gives for a key. -/
def find (same : K → K → Bool) (index : List (K × ℕ)) (k : K) : Option ℕ :=
  (index.find? fun e => same e.1 k).map (·.2)

/-- The index lists the entries of the table. -/
structure Indexed (key : P → K) (same : K → K → Bool) (slots : List (Option P))
    (index : List (K × ℕ)) : Prop where
  mem_iff : ∀ k i, (k, i) ∈ index ↔ ∃ p, entryAt slots i = some p ∧ key p = k
  distinct : index.Pairwise fun e e' => same e.1 e'.1 = false

namespace Indexed

theorem nil : Indexed key same ([] : List (Option P)) [] where
  mem_iff k i := by simp [entryAt]
  distinct := List.Pairwise.nil

theorem grow (h : Indexed key same slots index) : Indexed key same (slots ++ [none]) index where
  mem_iff k i := by rw [h.mem_iff, entryAt_append_none]
  distinct := h.distinct

theorem nodup (h : Indexed key same slots index) (hsame : Equivalence fun a b => same a b = true) :
    index.Nodup :=
  h.distinct.imp fun hne heq => by
    subst heq
    exact absurd (hsame.refl _) (by rw [hne]; exact Bool.false_ne_true)

/-- Two entries with the same key are in the same slot. -/
theorem injective (h : Indexed key same slots index)
    (hsame : Equivalence fun a b => same a b = true) (hp : entryAt slots i = some p)
    (hq : entryAt slots j = some q) (hkey : same (key p) (key q) = true) : i = j := by
  have hi : (key p, i) ∈ index := (h.mem_iff _ _).2 ⟨p, hp, rfl⟩
  have hj : (key q, j) ∈ index := (h.mem_iff _ _).2 ⟨q, hq, rfl⟩
  by_contra hne
  have _hsymm : Std.Symm fun e e' : K × ℕ => same e.1 e'.1 = false :=
    ⟨fun a b hab => by
      rw [← Bool.not_eq_true] at hab ⊢
      exact fun hba => hab (hsame.symm hba)⟩
  have hfalse := h.distinct.forall hi hj fun heq => hne (congrArg Prod.snd heq)
  exact absurd hkey (by simp [hfalse])

/-- **Finding a key finds its entry.** -/
theorem find_iff (h : Indexed key same slots index)
    (hsame : Equivalence fun a b => same a b = true) :
    find same index k = some i ↔ ∃ p, entryAt slots i = some p ∧ same (key p) k = true := by
  have hkey : ∀ {e : K × ℕ}, (index.find? fun e => same e.1 k) = some e → same e.1 k = true :=
    fun hfind => (List.find?_eq_some_iff_append.1 hfind).1
  unfold find
  rw [Option.map_eq_some_iff]
  constructor
  · rintro ⟨⟨k', j⟩, hfind, rfl⟩
    obtain ⟨p, hp, rfl⟩ := (h.mem_iff _ _).1 (List.mem_of_find?_eq_some hfind)
    exact ⟨p, hp, hkey hfind⟩
  · rintro ⟨p, hp, hk⟩
    have hmem : (key p, i) ∈ index := (h.mem_iff _ _).2 ⟨p, hp, rfl⟩
    have hsome : (index.find? fun e => same e.1 k).isSome :=
      List.find?_isSome.2 ⟨(key p, i), hmem, hk⟩
    obtain ⟨⟨k', j⟩, hfind⟩ := Option.isSome_iff_exists.1 hsome
    obtain ⟨q, hq, rfl⟩ := (h.mem_iff _ _).1 (List.mem_of_find?_eq_some hfind)
    exact ⟨_, hfind, h.injective hsame hq hp (hsame.trans (hkey hfind) (hsame.symm hk))⟩

theorem find_none_iff (h : Indexed key same slots index)
    (hsame : Equivalence fun a b => same a b = true) :
    find same index k = none ↔ ∀ i p, entryAt slots i = some p → same (key p) k = false := by
  rw [Option.eq_none_iff_forall_ne_some]
  constructor
  · intro hnone i p hp
    rw [← Bool.not_eq_true]
    exact fun hkey => hnone i ((h.find_iff hsame).2 ⟨p, hp, hkey⟩)
  · intro hall i hfind
    obtain ⟨p, hp, hkey⟩ := (h.find_iff hsame).1 hfind
    rw [hall i p hp] at hkey
    exact Bool.false_ne_true hkey

/-- **The index is in bijection with the occupied slots.** -/
theorem bijOn (h : Indexed key same slots index) :
    Set.BijOn Prod.snd {e | e ∈ index} {i | (entryAt slots i).isSome} := by
  refine ⟨?_, ?_, ?_⟩
  · rintro ⟨k, i⟩ he
    obtain ⟨p, hp, -⟩ := (h.mem_iff k i).1 he
    exact Option.isSome_iff_exists.2 ⟨p, hp⟩
  · rintro ⟨k, i⟩ he ⟨k', i'⟩ he' (rfl : i = i')
    obtain ⟨p, hp, rfl⟩ := (h.mem_iff k i).1 he
    obtain ⟨q, hq, rfl⟩ := (h.mem_iff k' i).1 he'
    rw [Option.some.inj (hp.symm.trans hq)]
  · intro i hi
    obtain ⟨p, hp⟩ := Option.isSome_iff_exists.1 hi
    exact ⟨(key p, i), (h.mem_iff _ _).2 ⟨p, hp, rfl⟩, rfl⟩

/-- Empty a slot and drop the key of its entry from the index. -/
theorem remove (h : Indexed key same slots index) (hsame : Equivalence fun a b => same a b = true)
    (hp : entryAt slots i = some p) :
    Indexed key same (slots.set i none) (index.filter fun e => !same e.1 (key p)) where
  mem_iff k j := by
    rw [List.mem_filter, h.mem_iff, entryAt_set (lt_length_of_entryAt hp)]
    constructor
    · rintro ⟨⟨q, hq, rfl⟩, hne⟩
      refine ⟨q, ?_, rfl⟩
      rw [if_neg]
      · exact hq
      · rintro rfl
        rw [Option.some.inj (hq.symm.trans hp)] at hne
        simp [hsame.refl (key p)] at hne
    · rintro ⟨q, hq, rfl⟩
      split at hq
      · cases hq
      next hij =>
        refine ⟨⟨q, hq, rfl⟩, ?_⟩
        rw [Bool.not_eq_true', ← Bool.not_eq_true]
        exact fun hkey => hij (h.injective hsame hq hp hkey).symm
  distinct := h.distinct.filter _

/-- Fill an empty slot with an entry whose key is new, and list it. -/
theorem put (h : Indexed key same slots index) (hsame : Equivalence fun a b => same a b = true)
    (hempty : slots[i]? = some none) (hnew : find same index (key p) = none) :
    Indexed key same (slots.set i (some p)) ((key p, i) :: index) where
  mem_iff k j := by
    have hlt : i < slots.length := (List.getElem?_eq_some_iff.1 hempty).1
    have hnone : entryAt slots i = none := by rw [entryAt, hempty, Option.join_some]
    rw [List.mem_cons, h.mem_iff, entryAt_set hlt]
    constructor
    · rintro (heq | ⟨q, hq, rfl⟩)
      · obtain ⟨rfl, rfl⟩ := Prod.mk.inj heq
        exact ⟨p, by rw [if_pos rfl], rfl⟩
      · refine ⟨q, ?_, rfl⟩
        rw [if_neg]
        · exact hq
        · rintro rfl
          rw [hnone] at hq
          cases hq
    · rintro ⟨q, hq, rfl⟩
      split at hq
      next hij =>
        obtain rfl := Option.some.inj hq
        exact .inl (by rw [hij])
      next => exact .inr ⟨q, hq, rfl⟩
  distinct := by
    refine List.Pairwise.cons ?_ h.distinct
    rintro ⟨k, j⟩ hmem
    obtain ⟨q, hq, rfl⟩ := (h.mem_iff k j).1 hmem
    rw [← Bool.not_eq_true]
    intro hkey
    have hfalse := (h.find_none_iff hsame).1 hnew j q hq
    exact absurd (hsame.symm hkey) (by simp [hfalse])

end Indexed

end SlotTable
