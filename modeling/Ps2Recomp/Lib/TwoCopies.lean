import Mathlib.Data.List.Infix

/-!
# A cell kept in two copies

A cell has two copies. A write goes to one of them; a transfer makes one copy equal to the other. A
copy is the list of the writes it carries, newest first, so that a transfer from a stale copy loses
writes and a write to a stale copy splits them.

`Marked` relates a cell to a claim about which copies are current. A mark is kept as long as no
operation starts from a copy that the mark says is stale: `Marked.write`, `Marked.transfer`.
-/

namespace TwoCopies

variable {V : Type*}

inductive Side where
  | left
  | right
  deriving DecidableEq, Repr

def Side.other : Side → Side
  | .left => .right
  | .right => .left

@[simp] theorem Side.other_other (side : Side) : side.other.other = side := by cases side <;> rfl

@[simp] theorem Side.other_ne (side : Side) : side.other ≠ side := by cases side <;> decide

theorem Side.eq_or_eq_other (side side' : Side) : side' = side ∨ side' = side.other := by
  cases side <;> cases side' <;> decide

/-- A cell: its copies and every write made to it, newest first. -/
structure Cell (V : Type*) where
  copies : Side → List V := fun _ => []
  written : List V := []

namespace Cell

/-- A write of `v` to one copy. -/
def write (c : Cell V) (side : Side) (v : V) : Cell V where
  copies := Function.update c.copies side (v :: c.copies side)
  written := v :: c.written

/-- Copy one side over the other. -/
def transfer (c : Cell V) (side : Side) : Cell V :=
  { c with copies := Function.update c.copies side.other (c.copies side) }

/-- The copy holds the most recent write. -/
def Holds (c : Cell V) (side : Side) : Prop := (c.copies side).head? = c.written.head?

@[simp] theorem write_same (c : Cell V) (side : Side) (v : V) :
    (c.write side v).copies side = v :: c.copies side := Function.update_self ..

@[simp] theorem write_other (c : Cell V) (side : Side) (v : V) :
    (c.write side v).copies side.other = c.copies side.other :=
  Function.update_of_ne (Side.other_ne side) ..

@[simp] theorem transfer_same (c : Cell V) (side : Side) :
    (c.transfer side).copies side = c.copies side :=
  Function.update_of_ne (Side.other_ne side).symm ..

@[simp] theorem transfer_other (c : Cell V) (side : Side) :
    (c.transfer side).copies side.other = c.copies side := Function.update_self ..

end Cell

/-- Which copies are current. -/
inductive Mark where
  | both
  | only (side : Side)
  deriving DecidableEq, Repr

/-- The mark permits reading the copy of `side`. -/
def Mark.Permits (m : Mark) (side : Side) : Prop := m ≠ .only side.other

instance (m : Mark) (side : Side) : Decidable (m.Permits side) :=
  inferInstanceAs (Decidable (m ≠ _))

/-- The mark is right about the cell: a copy it permits carries every write, the other one lacks
some. -/
structure Marked (c : Cell V) (m : Mark) : Prop where
  nodup : c.written.Nodup
  current {side : Side} : m.Permits side → c.copies side = c.written
  stale {side : Side} : ¬ m.Permits side →
    c.copies side <:+ c.written ∧ c.copies side ≠ c.written

variable {c : Cell V} {m : Mark} {side : Side} {v : V}

theorem marked_empty : Marked ({} : Cell V) .both where
  nodup := List.nodup_nil
  current _ := rfl
  stale h := absurd (by simp [Mark.Permits]) h

theorem Mark.not_permits : ¬ m.Permits side ↔ m = .only side.other := by
  rw [Mark.Permits, not_not]

/-- Some copy is always current. -/
theorem Mark.permits_or_other (m : Mark) (side : Side) : m.Permits side ∨ m.Permits side.other := by
  by_contra h
  push Not at h
  rw [not_permits, not_permits] at h
  have hsame : Mark.only side.other = Mark.only side.other.other := h.1.symm.trans h.2
  rw [Mark.only.injEq, Side.other_other] at hsame
  exact Side.other_ne side hsame

namespace Marked

/-- A proper suffix of the writes does not start with the newest one. -/
theorem head_ne_of_suffix {l writes : List V} (hnodup : writes.Nodup) (hsuffix : l <:+ writes)
    (hne : l ≠ writes) : l.head? ≠ writes.head? := by
  cases writes with
  | nil => exact absurd (List.suffix_nil.1 hsuffix) hne
  | cons w ws =>
    have hl : l <:+ ws := (List.suffix_cons_iff.1 hsuffix).resolve_left hne
    intro hhead
    have hw : w ∈ l := List.mem_of_mem_head? (by simp [hhead])
    exact (List.nodup_cons.1 hnodup).1 (hl.subset hw)

/-- **A copy holds the most recent write exactly if the mark permits it.** -/
theorem holds_iff (h : Marked c m) : c.Holds side ↔ m.Permits side := by
  constructor
  · intro hholds
    by_contra hstale
    obtain ⟨hsuffix, hne⟩ := h.stale hstale
    exact head_ne_of_suffix h.nodup hsuffix hne hholds
  · intro hcurrent
    rw [Cell.Holds, h.current hcurrent]

theorem both_iff (h : Marked c m) : m = .both ↔ c.Holds .left ∧ c.Holds .right := by
  rw [h.holds_iff, h.holds_iff]
  rcases m with _ | (_ | _) <;> simp [Mark.Permits, Side.other]

theorem only_iff (h : Marked c m) : m = .only side ↔ c.Holds side ∧ ¬ c.Holds side.other := by
  rw [h.holds_iff, h.holds_iff]
  rcases m with _ | (_ | _) <;> cases side <;> simp [Mark.Permits, Side.other]

/-- Some copy carries every write. -/
theorem exists_complete (h : Marked c m) : ∃ side, c.copies side = c.written :=
  (m.permits_or_other .left).elim (fun hp => ⟨_, h.current hp⟩) (fun hp => ⟨_, h.current hp⟩)

/-- **A write to a current copy makes it the only current one.** -/
theorem write (h : Marked c m) (hside : m.Permits side) (hfresh : v ∉ c.written) :
    Marked (c.write side v) (.only side) where
  nodup := List.nodup_cons.2 ⟨hfresh, h.nodup⟩
  current {side'} hp := by
    obtain rfl | rfl := Side.eq_or_eq_other side side'
    · rw [Cell.write_same, h.current hside]
      rfl
    · exact absurd hp (by simp [Mark.Permits])
  stale {side'} hp := by
    obtain rfl | rfl := Side.eq_or_eq_other side side'
    · exact absurd (by simpa [Mark.Permits] using (Side.other_ne side').symm) hp
    · have hsuffix : c.copies side.other <:+ c.written := by
        by_cases hother : m.Permits side.other
        · rw [h.current hother]
        · exact (h.stale hother).1
      rw [Cell.write_other]
      refine ⟨hsuffix.trans (List.suffix_cons v _), fun heq => ?_⟩
      have hlen := hsuffix.length_le
      rw [heq] at hlen
      simp only [Cell.write, List.length_cons] at hlen
      omega

/-- **A transfer from a current copy makes both current.** -/
theorem transfer (h : Marked c m) (hside : m.Permits side) : Marked (c.transfer side) .both where
  nodup := h.nodup
  current {side'} _ := by
    obtain rfl | rfl := Side.eq_or_eq_other side side'
    · rw [Cell.transfer_same]
      exact h.current hside
    · rw [Cell.transfer_other]
      exact h.current hside
  stale hp := absurd (by simp [Mark.Permits]) hp

end Marked

/-! ## No copy of the newest write is lost -/

/-- A write takes nothing away from a copy. -/
theorem Cell.suffix_write (c : Cell V) (side side' : Side) (v : V) :
    c.copies side' <:+ (c.write side v).copies side' := by
  obtain rfl | rfl := Side.eq_or_eq_other side side'
  · rw [write_same]
    exact List.suffix_cons v _
  · rw [write_other]

/-- A permitted transfer leaves the only current copy alone. -/
theorem Cell.transfer_only (hside : m.Permits side) {side' : Side} (honly : m = .only side') :
    (c.transfer side).copies side' = c.copies side' := by
  obtain rfl | rfl := Side.eq_or_eq_other side side'
  · exact transfer_same c _
  · exact absurd honly hside

end TwoCopies
