import Mathlib.Data.List.Sort
import Ps2Recomp.Lib.RangeTable

/-!
# The function table (`types.h`, `ps2_recompiler.cpp`)

`MaterializeAddressQualifiedFunctions` makes every address that the configuration names the start of
a function: it splits the function that the address is inside, or starts a new one in a gap of a code
section. A table of ranges that are not empty and do not meet stays one
(`materializeAddressQualifiedFunctions_partition`), for addresses in any order.

An exception is an error with its text. The members of `Function` that are empty at this point are
left out.
-/

namespace Ps2Recomp.Recompiler

structure Function where
  name : String
  start : BitVec 32
  endAddress : BitVec 32
  isRecompiled : Bool := false
  isStub : Bool := false
  isSkipped : Bool := false
  deriving DecidableEq, Repr

/-- `data` is null where there is none. -/
structure Section where
  address : BitVec 32
  size : BitVec 32
  isCode : Bool := false
  data : Option (ℕ → BitVec 8) := none

namespace Function

def lo (function : Function) : ℕ := function.start.toNat
def hi (function : Function) : ℕ := function.endAddress.toNat

end Function

/-- `std::hex`. -/
def hex (address : BitVec 32) : String := String.ofList (Nat.toDigits 16 address.toNat)

/-! ## Materializing -/

/-- The index of the function that has the address behind its start; the one with the highest start,
the first of several. -/
def containing (functions : List Function) (address : BitVec 32) : Option (ℕ × Function) :=
  functions.zipIdx.foldl
    (fun (containing : Option (ℕ × Function)) it =>
      if it.1.start < address ∧ address < it.1.endAddress ∧
          (∀ best ∈ containing, it.1.start > best.2.start) then some (it.2, it.1)
      else containing)
    none

/-- The first code section with the address. -/
def findSection (sections : List Section) (address : BitVec 32) : Option Section :=
  sections.find? fun candidate =>
    candidate.isCode && address ≥ candidate.address &&
      address.toNat < candidate.address.toNat + candidate.size.toNat

/-- Where a function in a gap ends: with the section, or where the next function starts. -/
def gapEnd (functions : List Function) (found : Section) (address : BitVec 32) : BitVec 32 :=
  let sectionEnd := found.address.toNat + found.size.toNat
  let limit := if sectionEnd > 0xFFFFFFFF then 0xFFFFFFFF#32 else BitVec.ofNat 32 sectionEnd
  functions.foldl
    (fun limit function =>
      if function.start > address ∧ function.start < limit then function.start else limit)
    limit

def configuredFunction (address : BitVec 32) (configuredName : String) (endAddress : BitVec 32) :
    Function :=
  { name := if configuredName ≠ "" then configuredName else "entry_" ++ hex address
    start := address
    endAddress }

/-- The functions after one configured entry, and whether it made one. -/
def materializeEntry (sections : List Section) (functions : List Function) (address : BitVec 32)
    (configuredName : String) : Except String (List Function × Bool) :=
  if address &&& 3#32 ≠ 0 then
    .error ("Address-qualified function selector is unaligned: 0x" ++ hex address)
  else if functions.any fun function => function.start = address then .ok (functions, false)
  else
    let found : Except String (List Function × BitVec 32) :=
      match containing functions address with
      | some (index, function) =>
        .ok (functions.set index { function with endAddress := address }, function.endAddress)
      | none =>
        match findSection sections address with
        | none =>
          .error ("Address-qualified function selector 0x" ++ hex address ++
            " is outside executable sections")
        | some found => .ok (functions, gapEnd functions found address)
    match found with
    | .error message => .error message
    | .ok (functions, endAddress) =>
      if endAddress ≤ address then
        .error ("Address-qualified function selector 0x" ++ hex address ++
          " has no executable range")
      else .ok (functions ++ [configuredFunction address configuredName endAddress], true)

/-- The loop over the configured entries. -/
def materializeEntries (sections : List Section) :
    List (BitVec 32 × String) → List Function → ℕ → Except String (List Function × ℕ)
  | [], functions, materializedCount => .ok (functions, materializedCount)
  | (address, configuredName) :: rest, functions, materializedCount =>
    match materializeEntry sections functions address configuredName with
    | .error message => .error message
    | .ok (functions, materialized) =>
      materializeEntries sections rest functions (materializedCount + materialized.toNat)

/-- `right` is not before `left` in the order of `std::sort`. -/
def Function.StartsBefore (left right : Function) : Prop :=
  if left.start ≠ right.start then left.start < right.start else left.endAddress ≤ right.endAddress

instance (left right : Function) : Decidable (left.StartsBefore right) :=
  inferInstanceAs (Decidable (ite _ _ _))

/-- `MaterializeAddressQualifiedFunctions`: the functions, and how many were made. -/
def materializeAddressQualifiedFunctions (functions : List Function)
    (configuredEntries : List (BitVec 32 × String)) (sections : List Section) :
    Except String (List Function × ℕ) :=
  match materializeEntries sections configuredEntries functions 0 with
  | .error message => .error message
  | .ok (functions, materializedCount) =>
    .ok (functions.insertionSort Function.StartsBefore, materializedCount)

/-! ## Where an entry falls -/

section Entries

open RangeTable (Covers Apart Partition)

variable {functions functions' : List Function} {address : BitVec 32} {sections : List Section}

/-- The address is behind the start of the function. -/
def Function.Inside (function : Function) (address : BitVec 32) : Prop :=
  function.start < address ∧ address < function.endAddress

/-- What the scan of `containing` has after some functions, from what it had before. -/
theorem containing_scan (its : List (Function × ℕ)) (best : Option (ℕ × Function)) :
    let found := its.foldl
      (fun (containing : Option (ℕ × Function)) it =>
        if it.1.start < address ∧ address < it.1.endAddress ∧
            (∀ best ∈ containing, it.1.start > best.2.start) then some (it.2, it.1)
        else containing)
      best
    (found = best ∨ ∃ it ∈ its, it.1.Inside address ∧ found = some (it.2, it.1)) ∧
      (found = none → best = none ∧ ∀ it ∈ its, ¬it.1.Inside address) := by
  induction its generalizing best with
  | nil => exact ⟨.inl rfl, fun h => ⟨h, fun it hit => absurd hit List.not_mem_nil⟩⟩
  | cons it rest ih =>
    rw [List.foldl_cons]
    split
    · rename_i htaken
      obtain ⟨hfound, hnone⟩ := ih (some (it.2, it.1))
      refine ⟨.inr ?_, fun h => absurd (hnone h).1 (Option.some_ne_none _)⟩
      rcases hfound with hfound | ⟨other, hmem, hinside, hfound⟩
      · exact ⟨it, List.mem_cons_self, ⟨htaken.1, htaken.2.1⟩, hfound⟩
      · exact ⟨other, List.mem_cons_of_mem it hmem, hinside, hfound⟩
    · rename_i htaken
      obtain ⟨hfound, hnone⟩ := ih best
      constructor
      · rcases hfound with hfound | ⟨other, hmem, hinside, hfound⟩
        · exact .inl hfound
        · exact .inr ⟨other, List.mem_cons_of_mem it hmem, hinside, hfound⟩
      · intro h
        obtain ⟨hbest, hrest⟩ := hnone h
        refine ⟨hbest, fun other hmem => ?_⟩
        rcases List.mem_cons.1 hmem with rfl | hmem
        · exact fun hinside => htaken ⟨hinside.1, hinside.2, by simp [hbest]⟩
        · exact hrest other hmem

theorem containing_eq_some {index : ℕ} {function : Function}
    (h : containing functions address = some (index, function)) :
    functions[index]? = some function ∧ function.Inside address := by
  rcases (containing_scan functions.zipIdx none).1 with hnone | ⟨it, hmem, hinside, hfound⟩
  · cases h.symm.trans hnone
  · cases h.symm.trans hfound
    exact ⟨List.mem_zipIdx_iff_getElem?.1 hmem, hinside⟩

theorem not_inside_of_containing (h : containing functions address = none) :
    ∀ function ∈ functions, ¬function.Inside address := by
  intro function hmem
  obtain ⟨index, hindex⟩ := List.mem_iff_getElem?.1 hmem
  have hnone := ((containing_scan functions.zipIdx none).2 h).2
  exact hnone (function, index) (List.mem_zipIdx_iff_getElem?.2 hindex)

theorem gapEnd_le {found : Section} {function : Function} (hmem : function ∈ functions)
    (hafter : address < function.start) : gapEnd functions found address ≤ function.start := by
  unfold gapEnd
  dsimp only
  generalize (if found.address.toNat + found.size.toNat > 0xFFFFFFFF then 0xFFFFFFFF#32
    else BitVec.ofNat 32 (found.address.toNat + found.size.toNat)) = limit
  have hfold : ∀ (functions : List Function) (limit : BitVec 32),
      let ended := functions.foldl
        (fun limit function =>
          if function.start > address ∧ function.start < limit then function.start else limit)
        limit
      ended ≤ limit ∧ ∀ function ∈ functions, address < function.start → ended ≤ function.start := by
    intro functions
    induction functions with
    | nil => exact fun limit => ⟨BitVec.le_refl _, fun f hf => absurd hf List.not_mem_nil⟩
    | cons first rest ih =>
      intro limit
      rw [List.foldl_cons]
      obtain ⟨hle, hrest⟩ :=
        ih (if first.start > address ∧ first.start < limit then first.start else limit)
      refine ⟨?_, fun f hf hafter => ?_⟩
      · refine BitVec.le_trans hle ?_
        split <;> bv_omega
      · rcases List.mem_cons.1 hf with rfl | hf
        · refine BitVec.le_trans hle ?_
          split <;> bv_omega
        · exact hrest f hf hafter
  exact (hfold functions limit).2 function hmem hafter

/-- What one configured entry does to a table. -/
structure Materialized (functions functions' : List Function) (address : BitVec 32) : Prop where
  partition : Partition Function.lo Function.hi functions'
  covers : ∀ a, ∀ function ∈ functions, Covers Function.lo Function.hi function a →
    ∃ function' ∈ functions', Covers Function.lo Function.hi function' a
  starts : ∀ function ∈ functions, ∃ function' ∈ functions', function'.start = function.start
  starts_here : ∃ function' ∈ functions', function'.start = address

theorem materializeEntry_materialized {configuredName : String} {made : Bool}
    (hpartition : Partition Function.lo Function.hi functions)
    (h : materializeEntry sections functions address configuredName = .ok (functions', made)) :
    Materialized functions functions' address := by
  unfold materializeEntry at h
  split at h
  · cases h
  split at h
  · rename_i hstarts
    cases h
    obtain ⟨function, hmem, hstart⟩ := List.any_eq_true.1 hstarts
    exact ⟨hpartition, fun a f hf hcovers => ⟨f, hf, hcovers⟩, fun f hf => ⟨f, hf, rfl⟩,
      function, hmem, of_decide_eq_true hstart⟩
  rename_i hstarts
  have hstarts : ∀ function ∈ functions, function.start ≠ address := by
    intro function hmem heq
    exact hstarts (List.any_eq_true.2 ⟨function, hmem, decide_eq_true heq⟩)
  dsimp only at h
  cases hcontaining : containing functions address with
  | some it =>
    obtain ⟨index, function⟩ := it
    obtain ⟨hindex, hinside⟩ := containing_eq_some hcontaining
    rw [hcontaining] at h
    dsimp only at h
    split at h
    · cases h
    cases h
    have hlt : function.lo < address.toNat ∧ address.toNat < function.hi := hinside
    refine ⟨hpartition.split hindex hlt.1 hlt.2 rfl rfl rfl rfl, ?_, ?_, ?_⟩
    · exact fun a f hf hcovers => RangeTable.covers_split hindex rfl rfl rfl rfl hf hcovers
    · intro f hf
      obtain ⟨j, hj⟩ := List.mem_iff_getElem?.1 hf
      by_cases hij : index = j
      · subst hij
        obtain rfl : function = f := Option.some.inj (hindex.symm.trans hj)
        have hmem := List.mem_set (List.getElem?_eq_some_iff.1 hindex).1
          { function with endAddress := address }
        exact ⟨_, List.mem_append_left _ hmem, rfl⟩
      · have hkept : (functions.set index { function with endAddress := address })[j]? = some f :=
          (List.getElem?_set_ne hij).trans hj
        exact ⟨f, List.mem_append_left _ (List.mem_of_getElem? hkept), rfl⟩
    · exact ⟨_, List.mem_append_right _ (List.mem_singleton_self _), rfl⟩
  | none =>
    have hnot := not_inside_of_containing hcontaining
    rw [hcontaining] at h
    dsimp only at h
    cases hsection : findSection sections address with
    | none =>
      rw [hsection] at h
      cases h
    | some found =>
      rw [hsection] at h
      dsimp only at h
      split at h
      · cases h
      rename_i hend
      cases h
      refine ⟨hpartition.concat (BitVec.not_le.1 hend) fun f hf => ?_, ?_, ?_, ?_⟩
      · have hne := hstarts f hf
        have hnot := hnot f hf
        have hnonempty := hpartition.nonempty f hf
        rcases lt_or_ge address.toNat f.start.toNat with hafter | hbefore
        · exact .inr (gapEnd_le hf hafter)
        · refine .inl ?_
          change f.endAddress ≤ address
          unfold Function.Inside at hnot
          bv_omega
      · exact fun a f hf hcovers => ⟨f, List.mem_append_left _ hf, hcovers⟩
      · exact fun f hf => ⟨f, List.mem_append_left _ hf, rfl⟩
      · exact ⟨_, List.mem_append_right _ (List.mem_singleton_self _), rfl⟩

/-- A table after all configured entries. -/
theorem materializeEntries_materialized {entries : List (BitVec 32 × String)} {count count' : ℕ}
    (hpartition : Partition Function.lo Function.hi functions)
    (h : materializeEntries sections entries functions count = .ok (functions', count')) :
    Partition Function.lo Function.hi functions' ∧
      (∀ a, ∀ function ∈ functions, Covers Function.lo Function.hi function a →
        ∃ function' ∈ functions', Covers Function.lo Function.hi function' a) ∧
      (∀ function ∈ functions, ∃ function' ∈ functions', function'.start = function.start) ∧
      ∀ entry ∈ entries, ∃ function' ∈ functions', function'.start = entry.1 := by
  induction entries generalizing functions count with
  | nil =>
    cases h
    exact ⟨hpartition, fun a f hf hcovers => ⟨f, hf, hcovers⟩, fun f hf => ⟨f, hf, rfl⟩,
      fun entry hentry => absurd hentry List.not_mem_nil⟩
  | cons entry rest ih =>
    obtain ⟨address, configuredName⟩ := entry
    unfold materializeEntries at h
    cases hentry : materializeEntry sections functions address configuredName with
    | error message =>
      rw [hentry] at h
      cases h
    | ok materialized =>
      obtain ⟨after, made⟩ := materialized
      rw [hentry] at h
      have hone := materializeEntry_materialized hpartition hentry
      obtain ⟨hafter, hcovers, hstarts, hrest⟩ := ih hone.partition h
      refine ⟨hafter, fun a f hf ha => ?_, fun f hf => ?_, fun entry hmem => ?_⟩
      · obtain ⟨g, hg, hga⟩ := hone.covers a f hf ha
        exact hcovers a g hg hga
      · obtain ⟨g, hg, hstart⟩ := hone.starts f hf
        obtain ⟨k, hk, hkstart⟩ := hstarts g hg
        exact ⟨k, hk, hkstart.trans hstart⟩
      · rcases List.mem_cons.1 hmem with rfl | hmem
        · obtain ⟨g, hg, hstart⟩ := hone.starts_here
          obtain ⟨k, hk, hkstart⟩ := hstarts g hg
          exact ⟨k, hk, hkstart.trans hstart⟩
        · exact hrest entry hmem

end Entries

/-! ## The sorted table -/

instance : Std.Total Function.StartsBefore where
  total left right := by
    unfold Function.StartsBefore
    by_cases h : left.start = right.start
    · rw [if_neg (not_not.2 h), if_neg (not_not.2 h.symm)]
      exact BitVec.le_total _ _
    · rw [if_pos h, if_pos (Ne.symm h)]
      bv_omega

instance : IsTrans Function Function.StartsBefore where
  trans a b c := by
    unfold Function.StartsBefore
    intro hab hbc
    split at hab <;> split at hbc <;> split <;> bv_omega

section Table

open RangeTable (Covers Partition)

variable {functions result : List Function} {entries : List (BitVec 32 × String)}
  {sections : List Section} {count : ℕ}

/-- In a table with no empty range and no two that meet, the starts increase after the sort. -/
theorem sorted_starts (h : Partition Function.lo Function.hi functions) :
    (functions.insertionSort Function.StartsBefore).Pairwise
      fun left right => left.start < right.start := by
  have hperm := List.perm_insertionSort Function.StartsBefore functions
  have hsorted := List.pairwise_insertionSort Function.StartsBefore functions
  have hpartition := h.perm hperm.symm
  refine (hsorted.and hpartition.apart).imp_of_mem fun {left right} hleft hright hboth => ?_
  obtain ⟨hbefore, hapart⟩ := hboth
  have hne : left.start ≠ right.start := by
    intro heq
    have hleft := hpartition.nonempty left hleft
    have hright := hpartition.nonempty right hright
    unfold RangeTable.Apart at hapart
    unfold Function.lo Function.hi at hapart hleft hright
    rw [heq] at hapart hleft
    omega
  unfold Function.StartsBefore at hbefore
  rwa [if_pos hne] at hbefore

/-- **The function table stays a partition**: sorted by start, with ranges that are not empty and do
not meet, over every address that it had, and with each configured address as one start. -/
theorem materializeAddressQualifiedFunctions_partition
    (hnonempty : ∀ function ∈ functions, function.start < function.endAddress)
    (hdisjoint : functions.Pairwise (RangeTable.Apart Function.lo Function.hi))
    (h : materializeAddressQualifiedFunctions functions entries sections = .ok (result, count)) :
    (result.Pairwise fun left right => left.start < right.start) ∧
      Partition Function.lo Function.hi result ∧
      (∀ a, ∀ function ∈ functions, Covers Function.lo Function.hi function a →
        (result.countP fun function => Covers Function.lo Function.hi function a) = 1) ∧
      ∀ entry ∈ entries, (result.countP fun function => function.start = entry.1) = 1 := by
  unfold materializeAddressQualifiedFunctions at h
  split at h
  · cases h
  rename_i after made hentries
  cases h
  obtain ⟨hpartition, hcovers, -, hstarts⟩ :=
    materializeEntries_materialized ⟨hnonempty, hdisjoint⟩ hentries
  have hperm := List.perm_insertionSort Function.StartsBefore after
  refine ⟨sorted_starts hpartition, hpartition.perm hperm.symm, fun a f hf ha => ?_,
    fun entry hentry => ?_⟩
  · obtain ⟨g, hg, hga⟩ := hcovers a f hf ha
    rw [hperm.countP_eq]
    exact hpartition.countP_covers_eq_one hg hga
  · obtain ⟨g, hg, hstart⟩ := hstarts entry hentry
    have hone := hpartition.countP_start_eq_one hg (congrArg BitVec.toNat hstart)
    rw [hperm.countP_eq, ← hone]
    refine List.countP_congr fun f _ => ?_
    rw [decide_eq_true_eq, decide_eq_true_eq]
    exact ⟨congrArg BitVec.toNat, BitVec.eq_of_toNat_eq⟩

/-- One function is split, another one starts in the gap behind it. -/
theorem materializeAddressQualifiedFunctions_partition_split :
    ∃ result : List Function, result.map (fun function => (function.name, function.start)) =
        [("main", 0x1000#32), ("entry_1008", 0x1008#32), ("tail", 0x1020#32)] ∧
      Partition Function.lo Function.hi result := by
  let sections : List Section := [{ address := 0x1000#32, size := 0x40#32, isCode := true }]
  let result : List Function :=
    [{ name := "main", start := 0x1000#32, endAddress := 0x1008#32 },
      { name := "entry_1008", start := 0x1008#32, endAddress := 0x1010#32 },
      { name := "tail", start := 0x1020#32, endAddress := 0x1040#32 }]
  have h : materializeAddressQualifiedFunctions
      [{ name := "main", start := 0x1000#32, endAddress := 0x1010#32 }]
      [(0x1008#32, ""), (0x1020#32, "tail")] sections = .ok (result, 2) := by decide +kernel
  exact ⟨result, rfl,
    (materializeAddressQualifiedFunctions_partition (by decide) (by decide) h).2.1⟩

/-- A function with an empty range meets no other and stays as it is. -/
theorem materializeAddressQualifiedFunctions_empty :
    ∃ functions result : List Function, ∃ count,
      functions.Pairwise (RangeTable.Apart Function.lo Function.hi) ∧
      materializeAddressQualifiedFunctions functions [] [] = .ok (result, count) ∧
      ¬∀ function ∈ result, function.start < function.endAddress := by
  let function : Function := { name := "empty", start := 8#32, endAddress := 8#32 }
  have hempty : ¬∀ f ∈ [function], f.start < f.endAddress := by decide
  exact ⟨[function], [function], 0, List.pairwise_singleton _ _, rfl, hempty⟩

end Table

end Ps2Recomp.Recompiler
