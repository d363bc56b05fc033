import Mathlib.Data.List.Basic

/-!
# Assembling packets from a stream of units

A stream is cut into units, each recognised from its front alone (`Cutter`), and a packet is a run
of units up to one that is marked as the last. A packet is tagged if one of its units is.
`Assembly` is how far the assembly of a stream has come: the packets that are complete, the units
of the packet under way, and what is not cut yet; `scan` cuts as long as it can.

The result is that pieces do not matter (`scan_feed`): feeding a stream piece by piece, scanning
after each, is scanning it at once.
-/

namespace StreamAssembly

variable {α : Type*}

/-- How to cut the first unit off a stream: its size, whether it is the last of its packet, and
whether it is tagged. `none` means that the first unit is not complete; more input does not change
an answer. -/
structure Cutter (α : Type*) where
  next : List α → Option (Nat × Bool × Bool)
  pos : ∀ {input size last tagged}, next input = some (size, last, tagged) → 0 < size
  fits : ∀ {input size last tagged}, next input = some (size, last, tagged) → size ≤ input.length
  stable : ∀ {input answer} (more : List α), next input = some answer →
    next (input ++ more) = some answer

/-- How far the assembly has come. A packet comes with its tag. -/
structure Assembly (α : Type*) where
  packets : List (List α × Bool) := []
  current : List α := []
  tagged : Bool := false
  rest : List α := []

namespace Assembly

/-- The first `size` symbols of the rest are cut off. -/
def cut (a : Assembly α) (size : Nat) (last tagged : Bool) : Assembly α :=
  if last then
    { packets := a.packets ++ [(a.current ++ a.rest.take size, a.tagged || tagged)]
      current := []
      tagged := false
      rest := a.rest.drop size }
  else
    { packets := a.packets
      current := a.current ++ a.rest.take size
      tagged := a.tagged || tagged
      rest := a.rest.drop size }

/-- More of the stream arrives. -/
def feed (a : Assembly α) (piece : List α) : Assembly α := { a with rest := a.rest ++ piece }

/-- All that has arrived. -/
def contents (a : Assembly α) : List α :=
  (a.packets.map Prod.fst).flatten ++ a.current ++ a.rest

@[simp] theorem rest_cut (a : Assembly α) (size : Nat) (last tagged : Bool) :
    (a.cut size last tagged).rest = a.rest.drop size := by
  cases last <;> rfl

theorem contents_cut (a : Assembly α) (size : Nat) (last tagged : Bool) :
    (a.cut size last tagged).contents = a.contents := by
  cases last <;> simp [cut, contents]

theorem cut_feed {a : Assembly α} {size : Nat} (last tagged : Bool) (piece : List α)
    (h : size ≤ a.rest.length) :
    (a.feed piece).cut size last tagged = (a.cut size last tagged).feed piece := by
  have htake : (a.rest ++ piece).take size = a.rest.take size := List.take_append_of_le_length h
  have hdrop : (a.rest ++ piece).drop size = a.rest.drop size ++ piece :=
    List.drop_append_of_le_length h
  cases last <;> simp [cut, feed, htake, hdrop]

end Assembly

variable (cutter : Cutter α)

/-- Cut off units as long as the first one is complete. -/
def scan (a : Assembly α) : Assembly α :=
  match _h : cutter.next a.rest with
  | none => a
  | some (size, last, tagged) => scan (a.cut size last tagged)
termination_by a.rest.length
decreasing_by
  have hpos := cutter.pos _h
  have hfits := cutter.fits _h
  rw [Assembly.rest_cut, List.length_drop]
  omega

variable {cutter} {a : Assembly α}

theorem scan_of_none (h : cutter.next a.rest = none) : scan cutter a = a := by
  rw [scan]
  split
  · rfl
  · next hsome =>
    rw [h] at hsome
    cases hsome

theorem scan_of_some {size : Nat} {last tagged : Bool}
    (h : cutter.next a.rest = some (size, last, tagged)) :
    scan cutter a = scan cutter (a.cut size last tagged) := by
  rw [scan]
  split
  · next hnone =>
    rw [h] at hnone
    cases hnone
  · next hsome =>
    rw [h] at hsome
    cases hsome
    rfl

/-- Induction along the units of the rest. -/
theorem scan_induction (cutter : Cutter α) {motive : Assembly α → Prop}
    (none : ∀ a, cutter.next a.rest = none → motive a)
    (some : ∀ a size last tagged, cutter.next a.rest = some (size, last, tagged) →
      motive (a.cut size last tagged) → motive a) (a : Assembly α) : motive a := by
  induction a using scan.induct cutter with
  | case1 a h => exact none a h
  | case2 a size last tagged h ih => exact some a size last tagged h ih

/-- Nothing is lost. -/
theorem contents_scan : (scan cutter a).contents = a.contents := by
  induction a using scan_induction cutter with
  | none a h => rw [scan_of_none h]
  | some a size last tagged h ih => rw [scan_of_some h, ih, Assembly.contents_cut]

/-- **A scan on the way changes nothing.** -/
theorem scan_feed (piece : List α) :
    scan cutter ((scan cutter a).feed piece) = scan cutter (a.feed piece) := by
  induction a using scan_induction cutter with
  | none a h => rw [scan_of_none h]
  | some a size last tagged h ih =>
    rw [scan_of_some h, ih, ← Assembly.cut_feed last tagged piece (cutter.fits h)]
    exact (scan_of_some (cutter.stable piece h)).symm

/-! ## The packet under way -/

/-- Without a unit of it, the packet under way has no tag. -/
def Assembly.Clean (a : Assembly α) : Prop := a.current = [] → a.tagged = false

theorem clean_cut {size : Nat} {last tagged : Bool}
    (h : cutter.next a.rest = some (size, last, tagged)) : (a.cut size last tagged).Clean := by
  have hpos := cutter.pos h
  have hfits := cutter.fits h
  cases last with
  | true => exact fun _ => rfl
  | false =>
    intro hnil
    have hlength := congrArg List.length hnil
    simp only [Assembly.cut, Bool.false_eq_true, if_false, List.length_append, List.length_take,
      List.length_nil] at hlength
    omega

theorem clean_scan (h : a.Clean) : (scan cutter a).Clean := by
  induction a using scan_induction cutter with
  | none a hnone => rwa [scan_of_none hnone]
  | some a size last tagged hsome ih =>
    rw [scan_of_some hsome]
    exact ih (clean_cut hsome)

end StreamAssembly
