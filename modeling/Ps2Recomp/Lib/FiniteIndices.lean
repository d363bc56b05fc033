import Mathlib.Algebra.Order.Ring.Nat

/-! # The sizes of the finite index types -/

/-- The lanes of a quadword, the packets of a chain. -/
instance neZero_four : NeZero 4 := ⟨by decide⟩

/-- The integer registers of a vector unit, the bytes of a quadword. -/
instance neZero_sixteen : NeZero 16 := ⟨by decide⟩

/-- The registers of a machine. -/
instance neZero_thirtyTwo : NeZero 32 := ⟨by decide⟩
