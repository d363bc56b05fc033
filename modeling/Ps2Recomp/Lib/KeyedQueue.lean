import Mathlib.Data.List.Basic
import Mathlib.Data.List.Sort
import Mathlib.Order.Basic

/-!
# Queues determined by a key

A FIFO queue whose members each carry the stamp they were given on entry holds its members in
stamp order. `IsQueue key P l` says that of a list: `l` has exactly the elements satisfying `P`,
in strictly increasing order of `key`. The pair `(key, P)` then determines the list
(`IsQueue.unique`), which is what lets a queue be rebuilt from its members' stamps alone.
-/

namespace KeyedQueue

variable {α κ : Type*} [LinearOrder κ]

/-- `l` lists the elements satisfying `P` in strictly increasing order of `key`. -/
structure IsQueue (key : α → κ) (P : α → Prop) (l : List α) : Prop where
  sorted : l.Pairwise fun a b => key a < key b
  mem_iff : ∀ a, a ∈ l ↔ P a

variable {key key' : α → κ} {P P' : α → Prop} {l l' : List α}

theorem isQueue_nil (h : ∀ a, ¬ P a) : IsQueue key P [] where
  sorted := List.Pairwise.nil
  mem_iff a := ⟨fun ha => absurd ha List.not_mem_nil, fun ha => absurd ha (h a)⟩

theorem IsQueue.nodup (q : IsQueue key P l) : l.Nodup :=
  q.sorted.imp fun h e => absurd (e ▸ h) (lt_irrefl _)

/-- Only the members' keys matter. -/
theorem IsQueue.congr (q : IsQueue key P l) (hP : ∀ a, P' a ↔ P a)
    (hkey : ∀ a, P a → key' a = key a) : IsQueue key' P' l where
  sorted := by
    refine q.sorted.imp_of_mem fun {a b} ha hb h => ?_
    rw [hkey a ((q.mem_iff a).mp ha), hkey b ((q.mem_iff b).mp hb)]
    exact h
  mem_iff a := (q.mem_iff a).trans (hP a).symm

/-- Push an element with a key above every member's. -/
theorem IsQueue.push (q : IsQueue key P l) {x : α} (hx : ∀ a, P a → key a < key x) :
    IsQueue key (fun a => P a ∨ a = x) (l ++ [x]) where
  sorted := by
    rw [List.pairwise_append]
    refine ⟨q.sorted, List.pairwise_singleton _ _, fun a ha b hb => ?_⟩
    rw [List.mem_singleton.mp hb]
    exact hx a ((q.mem_iff a).mp ha)
  mem_iff a := by rw [List.mem_append, List.mem_singleton, q.mem_iff]

theorem IsQueue.erase [DecidableEq α] (q : IsQueue key P l) (x : α) :
    IsQueue key (fun a => P a ∧ a ≠ x) (l.erase x) where
  sorted := q.sorted.sublist List.erase_sublist
  mem_iff a := by
    rw [q.nodup.mem_erase_iff, q.mem_iff, and_comm]

/-- The key and the membership determine the queue. -/
theorem IsQueue.unique (q : IsQueue key P l) (q' : IsQueue key P l') : l = l' := by
  have hperm : l.Perm l' :=
    (List.perm_ext_iff_of_nodup q.nodup q'.nodup).mpr fun a => (q.mem_iff a).trans (q'.mem_iff a).symm
  exact List.Perm.eq_of_pairwise (fun a b _ _ hab hba => absurd hba (lt_asymm hab))
    q.sorted q'.sorted hperm

/-- The elements of a list in strictly increasing order of their stamps that pass a test, named by
`f`, are the queue of those names. -/
theorem isQueue_map_filter {β : Type*} {stamp : β → κ} {l : List β} {f : β → α} (p : β → Bool)
    (hl : l.Pairwise fun a b => stamp a < stamp b) (hkey : ∀ b ∈ l, key (f b) = stamp b)
    (hP : ∀ a, P a ↔ ∃ b ∈ l, p b = true ∧ f b = a) : IsQueue key P ((l.filter p).map f) where
  sorted := by
    rw [List.pairwise_map]
    refine (hl.filter p).imp_of_mem fun {a b} ha hb h => ?_
    rw [hkey a (List.mem_of_mem_filter ha), hkey b (List.mem_of_mem_filter hb)]
    exact h
  mem_iff a := by
    rw [hP, List.mem_map]
    simp only [List.mem_filter, and_assoc]

/-- In strictly increasing order of the key, the key determines the element. -/
theorem key_injOn {l : List α} (hl : l.Pairwise fun a b => key a < key b) :
    ∀ a ∈ l, ∀ b ∈ l, key a = key b → a = b := by
  induction hl with
  | nil => exact fun a ha => absurd ha List.not_mem_nil
  | cons hx _ ih =>
    intro a ha b hb hab
    rcases List.mem_cons.mp ha with rfl | ha' <;> rcases List.mem_cons.mp hb with rfl | hb'
    · rfl
    · exact absurd hab (ne_of_lt (hx b hb'))
    · exact absurd hab.symm (ne_of_lt (hx a ha'))
    · exact ih a ha' b hb' hab

end KeyedQueue
