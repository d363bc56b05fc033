import Mathlib.Data.Nat.Notation
import Mathlib.Logic.Function.Basic

/-!
# Lines that carry the generation they were filled in

A cache that is dropped all at once marks every line with the generation it was filled in; a line
counts only while that generation is the current one. `Tagged tag Good now` says that no line is
from the future and that every current line is good. Filling a line with a good one keeps it
(`update`), and so does advancing the generation, whatever "good" means from then on (`advance`):
no line is current then.
-/

variable {ι β : Type*} {lines : ι → β} {tag : β → ℕ} {Good Good' : β → Prop} {now next : ℕ}

/-- Every current line is good, and no line is tagged with a later generation. -/
structure Tagged (lines : ι → β) (tag : β → ℕ) (Good : β → Prop) (now : ℕ) : Prop where
  tag_le : ∀ i, tag (lines i) ≤ now
  good : ∀ i, tag (lines i) = now → Good (lines i)

namespace Tagged

theorem update [DecidableEq ι] (h : Tagged lines tag Good now) {i : ι} {line : β}
    (htag : tag line ≤ now) (hgood : Good line) :
    Tagged (Function.update lines i line) tag Good now where
  tag_le j := by
    by_cases hj : j = i
    · rw [hj, Function.update_self]
      exact htag
    · rw [Function.update_of_ne hj]
      exact h.tag_le j
  good j := by
    by_cases hj : j = i
    · rw [hj, Function.update_self]
      exact fun _ => hgood
    · rw [Function.update_of_ne hj]
      exact h.good j

theorem advance (h : Tagged lines tag Good now) (hnext : now < next) :
    Tagged lines tag Good' next where
  tag_le i := Nat.le_of_lt (Nat.lt_of_le_of_lt (h.tag_le i) hnext)
  good i hi := absurd (h.tag_le i) (by omega)

theorem of_forall_lt (h : ∀ i, tag (lines i) < now) : Tagged lines tag Good now where
  tag_le i := Nat.le_of_lt (h i)
  good i hi := absurd (h i) (by omega)

end Tagged
