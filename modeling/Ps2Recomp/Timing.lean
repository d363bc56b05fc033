import Mathlib.Algebra.Group.Fin.Basic
import Mathlib.Algebra.Order.Ring.Nat
import Mathlib.Data.List.FinRange
import Mathlib.Order.Fin.Basic

/-!
# Machine integers and ticks

`uint64_t` values are elements of `Fin (2 ^ 64)`, so that additions and increments wrap as they do
in the source. `EeTick` and `EeTickDelta` (`ee_timing.h`) wrap one `uint64_t` each, with the
saturating helpers that the timing code uses on them.
-/

namespace Ps2Recomp

/-- The number of `uint64_t` values. -/
abbrev uint64Count : Nat := 2 ^ 64

instance : NeZero uint64Count := ⟨by decide⟩

/-- `numeric_limits<uint32_t>::max()`. -/
abbrev uint32Max : Nat := 2 ^ 32 - 1

/-- `numeric_limits<uint64_t>::max()`. -/
def uint64Max : Fin uint64Count := Fin.last _

abbrev EeTick := Fin uint64Count

abbrev EeTickDelta := Fin uint64Count

/-- `saturatingAdd`. -/
def saturatingAdd (tick : EeTick) (delta : EeTickDelta) : EeTick :=
  if uint64Max - tick < delta then uint64Max else tick + delta

/-- `elapsedEeTicks`. -/
def elapsedEeTicks (earlier later : EeTick) : EeTickDelta :=
  if earlier ≤ later then later - earlier else 0

end Ps2Recomp
