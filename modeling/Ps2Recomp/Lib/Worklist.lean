import Mathlib.Data.Finset.Card
import Mathlib.Logic.Relation
import Mathlib.Algebra.Order.Ring.Nat

/-!
# A worklist that marks more than it expands

The search takes the last item of its worklist, marks it together with other items, and appends the
successors that are not marked. An item that is marked when it is taken is dropped, and one that was
marked beside another has never been expanded: its successors are not followed. `Explored` says what
is known of the items that were expanded, and `run_isSome` that the search ends: it gives up when
`limit` items are marked.
-/

namespace Worklist

/-- What the expansion of an item marks, the successors it appends and what it has found. -/
structure Expansion (α γ : Type*) where
  marks : List α
  successors : List α
  label : γ

/-- The head of `pending` is the item to take. -/
structure State (α β : Type*) where
  pending : List α
  visited : Finset α
  noted : β

variable {α β γ : Type*} [DecidableEq α]

/-- The state after an item has been expanded. -/
def State.expanded (s : State α β) (rest : List α) (note : Expansion α γ → β → β)
    (expansion : Expansion α γ) : State α β :=
  let visited := s.visited ∪ expansion.marks.toFinset
  { pending := (expansion.successors.filter (· ∉ visited)).reverse ++ rest
    visited
    noted := note expansion s.noted }

/-- The search: `none` if the fuel runs out, `some none` if it gives up. -/
def run (expand : α → Option (Expansion α γ)) (note : Expansion α γ → β → β) (limit : ℕ) :
    ℕ → State α β → Option (Option (State α β))
  | 0, _ => none
  | fuel + 1, s =>
    match s.pending with
    | [] => some (some s)
    | item :: rest =>
      if item ∈ s.visited then run expand note limit fuel { s with pending := rest }
      else if limit ≤ s.visited.card then some none
      else
        match expand item with
        | none => some none
        | some expansion => run expand note limit fuel (s.expanded rest note expansion)

/-- The items that are expanded one after another lead to each other. -/
def Leads (expand : α → Option (Expansion α γ)) (item next : α) : Prop :=
  ∃ expansion, expand item = some expansion ∧ next ∈ expansion.successors

/-- Every item is among its own marks, and has at most `width` successors. -/
structure Marking (expand : α → Option (Expansion α γ)) (width : ℕ) : Prop where
  marks_self : ∀ item expansion, expand item = some expansion → item ∈ expansion.marks
  width : ∀ item expansion, expand item = some expansion → expansion.successors.length ≤ width

variable {expand : α → Option (Expansion α γ)} {note : Expansion α γ → β → β} {limit width : ℕ}
  {s : State α β} {start item : α} {rest : List α} {expansion : Expansion α γ}

/-! ## The search ends -/

/-- What a step uses up: the marks still to be made, or an item. -/
def State.potential (s : State α β) (limit width : ℕ) : ℕ :=
  width * (limit - s.visited.card) + s.pending.length

theorem potential_expanded (hmarks : Marking expand width) (hexpand : expand item = some expansion)
    (hnew : item ∉ s.visited) (hlimit : s.visited.card < limit) (hpending : s.pending = item :: rest) :
    (s.expanded rest note expansion).potential limit width < s.potential limit width := by
  have hgrows : s.visited.card < (s.visited ∪ expansion.marks.toFinset).card := by
    refine Finset.card_lt_card (Finset.ssubset_iff_subset_ne.mpr ⟨Finset.subset_union_left, ?_⟩)
    intro heq
    have hself := hmarks.marks_self item expansion hexpand
    exact hnew (heq ▸ Finset.mem_union_right _ (List.mem_toFinset.mpr hself))
  have hfew : (expansion.successors.filter
      (· ∉ s.visited ∪ expansion.marks.toFinset)).length ≤ width :=
    (List.length_filter_le _ _).trans (hmarks.width item expansion hexpand)
  have hroom : limit - (s.visited ∪ expansion.marks.toFinset).card + 1 ≤ limit - s.visited.card := by
    omega
  have hscaled := Nat.mul_le_mul_left width hroom
  rw [Nat.mul_add, Nat.mul_one] at hscaled
  simp only [State.potential, State.expanded, hpending, List.length_append, List.length_reverse,
    List.length_cons]
  omega

/-- **With fuel for the marks and the items** the search ends. -/
theorem run_isSome (hmarks : Marking expand width) {fuel : ℕ}
    (hfuel : s.potential limit width < fuel) : (run expand note limit fuel s).isSome := by
  induction fuel generalizing s with
  | zero => exact absurd hfuel (Nat.not_lt_zero _)
  | succ fuel ih =>
    rw [run]
    cases hpending : s.pending with
    | nil => rfl
    | cons item rest =>
      dsimp only
      split
      case isTrue hmarked =>
        apply ih
        simp only [State.potential, hpending, List.length_cons] at hfuel ⊢
        omega
      case isFalse hnew =>
        split
        case isTrue => rfl
        case isFalse hroom =>
          cases hexpand : expand item with
          | none => rfl
          | some expansion =>
            apply ih
            have hless : (s.expanded rest note expansion).potential limit width <
                s.potential limit width :=
              potential_expanded hmarks hexpand hnew (Nat.lt_of_not_le hroom) hpending
            omega

/-- More fuel changes nothing. -/
theorem run_mono {fuel more : ℕ} {result : Option (State α β)} (hle : fuel ≤ more)
    (h : run expand note limit fuel s = some result) :
    run expand note limit more s = some result := by
  induction fuel generalizing s more with
  | zero => exact absurd h (by simp [run])
  | succ fuel ih =>
    obtain ⟨more, rfl⟩ : ∃ rest, more = rest + 1 := ⟨more - 1, by omega⟩
    have hle' : fuel ≤ more := Nat.le_of_succ_le_succ hle
    rw [run] at h ⊢
    cases hpending : s.pending with
    | nil => simpa only [hpending] using h
    | cons item rest =>
      simp only [hpending] at h ⊢
      split
      case isTrue hmarked => exact ih hle' (by simpa only [hmarked, if_true] using h)
      case isFalse hnew =>
        rw [if_neg hnew] at h
        split
        case isTrue hfull => simpa only [hfull, if_true] using h
        case isFalse hroom =>
          rw [if_neg hroom] at h
          cases hexpand : expand item with
          | none => simpa only [hexpand] using h
          | some expansion =>
            simp only [hexpand] at h
            exact ih hle' h

/-! ## What it has explored -/

/-- The items of `done` are those that were expanded, the last one first. -/
structure Explored (expand : α → Option (Expansion α γ)) (note : Expansion α γ → β → β) (start : α)
    (noted : β) (s : State α β) (done : List α) : Prop where
  visited : ∀ x, x ∈ s.visited ↔
    ∃ item ∈ done, ∃ expansion, expand item = some expansion ∧ x ∈ expansion.marks
  successors : ∀ item ∈ done, ∃ expansion, expand item = some expansion ∧
    ∀ next ∈ expansion.successors, next ∈ s.visited ∨ next ∈ s.pending
  reached : ∀ item, item ∈ done ∨ item ∈ s.pending →
    Relation.ReflTransGen (Leads expand) start item
  start : start ∈ s.visited ∨ start ∈ s.pending
  noted : s.noted = (done.filterMap expand).foldr note noted

omit [DecidableEq α] in
theorem explored_start (start : α) (noted : β) :
    Explored expand note start noted { pending := [start], visited := ∅, noted } [] where
  visited x := by simp
  successors item h := absurd h List.not_mem_nil
  reached item h := by
    obtain h | h := h
    · exact absurd h List.not_mem_nil
    · rw [List.mem_singleton.mp h]
  start := .inr (List.mem_singleton.mpr rfl)
  noted := rfl

variable {noted : β} {done : List α}

omit [DecidableEq α] in
theorem Explored.dropped (h : Explored expand note start noted s done)
    (hpending : s.pending = item :: rest) (hmarked : item ∈ s.visited) :
    Explored expand note start noted { s with pending := rest } done where
  visited := h.visited
  successors x hx := by
    obtain ⟨expansion, hexpand, hnext⟩ := h.successors x hx
    refine ⟨expansion, hexpand, fun next hmem => ?_⟩
    obtain hvisited | hin := hnext next hmem
    · exact .inl hvisited
    · rw [hpending] at hin
      obtain rfl | hrest := List.mem_cons.mp hin
      · exact .inl hmarked
      · exact .inr hrest
  reached x hx := by
    refine h.reached x (hx.imp_right fun hin => ?_)
    rw [hpending]
    exact List.mem_cons_of_mem item hin
  start := by
    obtain hvisited | hin := h.start
    · exact .inl hvisited
    · rw [hpending] at hin
      obtain rfl | hrest := List.mem_cons.mp hin
      · exact .inl hmarked
      · exact .inr hrest
  noted := h.noted

theorem Explored.expanded (h : Explored expand note start noted s done)
    (hmarks : Marking expand width) (hpending : s.pending = item :: rest)
    (hexpand : expand item = some expansion) :
    Explored expand note start noted (s.expanded rest note expansion) (item :: done) := by
  have hself : item ∈ s.visited ∪ expansion.marks.toFinset :=
    Finset.mem_union_right _ (List.mem_toFinset.mpr (hmarks.marks_self item expansion hexpand))
  have hkept : ∀ x, x ∈ s.visited ∨ x ∈ s.pending →
      x ∈ (s.expanded rest note expansion).visited ∨
        x ∈ (s.expanded rest note expansion).pending := by
    intro x hx
    obtain hvisited | hin := hx
    · exact .inl (Finset.mem_union_left _ hvisited)
    · rw [hpending] at hin
      obtain rfl | hrest := List.mem_cons.mp hin
      · exact .inl hself
      · exact .inr (List.mem_append_right _ hrest)
  have hitem : Relation.ReflTransGen (Leads expand) start item :=
    h.reached item (.inr (hpending ▸ List.mem_cons_self))
  refine ⟨fun x => ?_, fun x hx => ?_, fun x hx => ?_, hkept start h.start, ?_⟩
  · rw [State.expanded, Finset.mem_union, List.mem_toFinset, h.visited x]
    constructor
    · rintro (⟨owner, hmem, hmarked⟩ | hmarked)
      · exact ⟨owner, List.mem_cons_of_mem item hmem, hmarked⟩
      · exact ⟨item, List.mem_cons_self, expansion, hexpand, hmarked⟩
    · rintro ⟨owner, hmem, e, he, hmarked⟩
      obtain rfl | hdone := List.mem_cons.mp hmem
      · rw [hexpand, Option.some_inj] at he
        exact .inr (he ▸ hmarked)
      · exact .inl ⟨owner, hdone, e, he, hmarked⟩
  · obtain rfl | hdone := List.mem_cons.mp hx
    · refine ⟨expansion, hexpand, fun next hmem => ?_⟩
      by_cases hvisited : next ∈ s.visited ∪ expansion.marks.toFinset
      · exact .inl hvisited
      · have hfilter : next ∈ expansion.successors.filter
            (· ∉ s.visited ∪ expansion.marks.toFinset) :=
          List.mem_filter.mpr ⟨hmem, decide_eq_true hvisited⟩
        exact .inr (List.mem_append_left _ (List.mem_reverse.mpr hfilter))
    · obtain ⟨e, he, hnext⟩ := h.successors x hdone
      exact ⟨e, he, fun next hmem => hkept next (hnext next hmem)⟩
  · obtain hmem | hin := hx
    · obtain rfl | hdone := List.mem_cons.mp hmem
      · exact hitem
      · exact h.reached x (.inl hdone)
    · obtain hnew | hrest := List.mem_append.mp hin
      · have hnext := (List.mem_filter.mp (List.mem_reverse.mp hnew)).1
        exact hitem.tail ⟨expansion, hexpand, hnext⟩
      · exact h.reached x (.inr (hpending ▸ List.mem_cons_of_mem item hrest))
  · rw [State.expanded, List.filterMap_cons, hexpand, List.foldr_cons, ← h.noted]

/-- **A search that ends** has explored from its start, and has nothing left to take. -/
theorem explored_of_run (hmarks : Marking expand width) {fuel : ℕ} {final : State α β}
    (h : Explored expand note start noted s done)
    (hrun : run expand note limit fuel s = some (some final)) :
    final.pending = [] ∧ ∃ done, Explored expand note start noted final done := by
  induction fuel generalizing s done with
  | zero => exact absurd hrun (by simp [run])
  | succ fuel ih =>
    rw [run] at hrun
    cases hpending : s.pending with
    | nil =>
      simp only [hpending, Option.some_inj] at hrun
      exact hrun ▸ ⟨hpending, done, h⟩
    | cons item rest =>
      simp only [hpending] at hrun
      split at hrun
      case isTrue hmarked => exact ih (h.dropped hpending hmarked) hrun
      case isFalse hnew =>
        split at hrun
        case isTrue => exact absurd hrun (by simp)
        case isFalse =>
          cases hexpand : expand item with
          | none => exact absurd hrun (by simp [hexpand])
          | some expansion =>
            simp only [hexpand] at hrun
            exact ih (h.expanded hmarks hpending hexpand) hrun

end Worklist
