import Ps2Recomp.Recomp.FunctionTable

/-!
# Functions from symbols (`elf_parser.cpp`)

`ElfParser::extractFunctions` lists the functions of an ELF file: those that its symbols name, and
extra ones from debug information, a map, or calls. A symbol with a size and an extra function with a
name give an end that is authoritative for its start (`authoritativeEndByStart`), and a function that
starts inside the authoritative range before it is left out.

The filter looks at the closest range only, so where ranges are nested an address-like name can stay
that starts inside a named function. Nothing else can be wrong with the list
(`extractFunctions_wellFormed_iff`).
-/

namespace Ps2Recomp.Recompiler

structure Symbol where
  name : String
  address : BitVec 32
  size : BitVec 32 := 0
  isFunction : Bool := false
  isImported : Bool := false
  deriving DecidableEq, Repr

/-- The members of `ElfParser` that `extractFunctions` reads. -/
structure ElfParser where
  symbols : List Symbol
  extraFunctions : List Function := []
  sections : List Section
  hasLoadedGhidraMap : Bool := false
  ghidraMapStarts : List (BitVec 32) := []

/-! ## Names and sections -/

def isAutoGeneratedName (name : String) : Bool :=
  ["sub_", "FUN_", "LAB_", "DAT_"].any fun start => start.toList.isPrefixOf name.toList

/-- `hasAutoName`: no name counts as one. -/
def hasAutoName (name : String) : Bool := name = "" || isAutoGeneratedName name

/-- The end of a section wraps. -/
def Section.contains (candidate : Section) (address : BitVec 32) : Bool :=
  address ≥ candidate.address && address < candidate.address + candidate.size

def findSectionByAddress (sections : List Section) (address : BitVec 32) : Option Section :=
  sections.find? fun candidate => candidate.contains address

def findCodeSectionByAddress (sections : List Section) (address : BitVec 32) : Option Section :=
  sections.find? fun candidate => candidate.isCode && candidate.contains address

def hasAnyExecutableSection (sections : List Section) : Bool :=
  sections.any fun candidate => candidate.isCode

def findFunctionSectionByAddress (sections : List Section) (address : BitVec 32) :
    Option Section :=
  match findCodeSectionByAddress sections address with
  | some codeSection => some codeSection
  | none =>
    -- stripped files may have no executable section flags
    if !hasAnyExecutableSection sections then findSectionByAddress sections address else none

/-- A sum as a 32-bit address, at most the last one. -/
def saturate (sum : ℕ) : BitVec 32 :=
  if sum > 0xFFFFFFFF then 0xFFFFFFFF#32 else BitVec.ofNat 32 sum

def clampFunctionEndToSection (found : Section) (start requestedEnd : BitVec 32) : BitVec 32 :=
  let sectionEnd64 := found.address.toNat + found.size.toNat
  let sectionEnd := saturate sectionEnd64
  let ended := if requestedEnd = 0 ∨ requestedEnd > sectionEnd then sectionEnd else requestedEnd
  if ended ≤ start then
    let minimumEnd64 := start.toNat + 4
    if minimumEnd64 ≤ sectionEnd64 then BitVec.ofNat 32 minimumEnd64 else sectionEnd
  else ended

/-! ## Authoritative ranges -/

/-- The end that comes with a start: `emplace`, and the greater end where there was one. -/
def emplaceMax (range : BitVec 32 × BitVec 32) :
    List (BitVec 32 × BitVec 32) → List (BitVec 32 × BitVec 32)
  | [] => [range]
  | (start, ended) :: rest =>
    if start = range.1 then (start, if range.2 > ended then range.2 else ended) :: rest
    else (start, ended) :: emplaceMax range rest

namespace ElfParser

variable (parser : ElfParser)

def symbolRange (symbol : Symbol) : Option (BitVec 32 × BitVec 32) :=
  if !symbol.isFunction || symbol.isImported || symbol.size = 0 then none
  else if parser.hasLoadedGhidraMap && isAutoGeneratedName symbol.name &&
      !parser.ghidraMapStarts.contains symbol.address then none
  else
    match findFunctionSectionByAddress parser.sections symbol.address with
    | none => none
    | some functionSection =>
      let symbolEnd := saturate (symbol.address.toNat + symbol.size.toNat)
      let symbolEnd := clampFunctionEndToSection functionSection symbol.address symbolEnd
      if symbolEnd ≤ symbol.address then none else some (symbol.address, symbolEnd)

/-- The authoritative range that an extra function gives. -/
def extraRange (extra : Function) : Option (BitVec 32 × BitVec 32) :=
  let fromGhidraMap := parser.hasLoadedGhidraMap && parser.ghidraMapStarts.contains extra.start
  if extra.start = 0 ∨ extra.endAddress ≤ extra.start ∨ extra.name = "" ∨
      (isAutoGeneratedName extra.name && !fromGhidraMap) then none
  else
    match findFunctionSectionByAddress parser.sections extra.start with
    | none => none
    | some functionSection =>
      let clampedEnd := clampFunctionEndToSection functionSection extra.start extra.endAddress
      if clampedEnd ≤ extra.start then none else some (extra.start, clampedEnd)

/-- All authoritative ranges that the file gives; one start may have several. -/
def givenRanges : List (BitVec 32 × BitVec 32) :=
  parser.symbols.filterMap parser.symbolRange ++ parser.extraFunctions.filterMap parser.extraRange

def authoritativeEndByStart : List (BitVec 32 × BitVec 32) :=
  parser.givenRanges.foldl (fun ends range => emplaceMax range ends) []

def authoritativeEnd (start : BitVec 32) : Option (BitVec 32) :=
  parser.authoritativeEndByStart.lookup start

def authoritativeRanges : List (BitVec 32 × BitVec 32) :=
  parser.authoritativeEndByStart.insertionSort fun a b => a.1 ≤ b.1

/-- The range before `std::upper_bound`, if there is one. -/
def rangeBefore (startAddress : BitVec 32) : Option (BitVec 32 × BitVec 32) :=
  (parser.authoritativeRanges.takeWhile fun range => range.1 ≤ startAddress).getLast?

def isInsideAuthoritativeRange (startAddress : BitVec 32) : Bool :=
  match parser.rangeBefore startAddress with
  | none => false
  | some range => startAddress > range.1 && startAddress < range.2

/-! ## Listing -/

def mergeName (existing new : String) : String :=
  if new ≠ "" ∧ (existing = "" ∨ (isAutoGeneratedName existing ∧ !isAutoGeneratedName new)) then new
  else existing

def mergeFunction (functionSection : Section) (existing new : Function) : Function :=
  { existing with
    name := mergeName existing.name new.name
    endAddress :=
      match parser.authoritativeEnd existing.start with
      | some ended => clampFunctionEndToSection functionSection existing.start ended
      | none => if new.endAddress > existing.endAddress then new.endAddress else existing.endAddress
    isStub := existing.isStub || new.isStub
    isSkipped := existing.isSkipped || new.isSkipped }

def insertFunction (functionSection : Section) (new : Function) : Function :=
  match parser.authoritativeEnd new.start with
  | some ended =>
    { new with endAddress := clampFunctionEndToSection functionSection new.start ended }
  | none => new

def addOrMerge (functions : List Function) (newFunction : Function) : List Function :=
  if newFunction.start = 0 then functions
  else
    match findFunctionSectionByAddress parser.sections newFunction.start with
    | none => functions
    | some functionSection =>
      let hasOwnAuthoritativeRange := (parser.authoritativeEnd newFunction.start).isSome
      if parser.isInsideAuthoritativeRange newFunction.start &&
          (!hasOwnAuthoritativeRange || hasAutoName newFunction.name) then functions
      else
        match functions.findIdx? fun function => function.start = newFunction.start with
        | none => functions ++ [parser.insertFunction functionSection newFunction]
        | some index =>
          functions.modify index fun existing =>
            parser.mergeFunction functionSection existing newFunction

def symbolFunction (symbol : Symbol) : Function :=
  { name := symbol.name
    start := symbol.address
    endAddress :=
      if symbol.size > 0 then saturate (symbol.address.toNat + symbol.size.toNat) else 0 }

/-- What `addOrMerge` is called with, in order. -/
def candidates : List Function :=
  (parser.symbols.filter fun symbol =>
    symbol.isFunction && !symbol.isImported &&
      (findFunctionSectionByAddress parser.sections symbol.address).isSome).map symbolFunction ++
    parser.extraFunctions

/-- The end of a listed function before `next`. -/
def finalEnd (function : Function) (next : Option Function) : BitVec 32 :=
  match parser.authoritativeEnd function.start with
  | some ended => ended
  | none =>
    if function.endAddress > function.start then function.endAddress
    else
      let functionSection := findFunctionSectionByAddress parser.sections function.start
      let sectionEnd := match functionSection with
        | some functionSection => functionSection.address + functionSection.size
        | none => function.start + 4
      let nextStart := match next with
        | some next =>
          if next.start > function.start ∧ functionSection.isSome ∧ next.start < sectionEnd then
            next.start
          else sectionEnd
        | none => sectionEnd
      if nextStart > function.start then nextStart else function.start + 4

/-- The last loop. -/
def finalEnds : List Function → List Function
  | [] => []
  | function :: rest =>
    { function with endAddress := parser.finalEnd function rest.head? } :: finalEnds rest

def extractFunctions : List Function :=
  let functions := parser.candidates.foldl parser.addOrMerge []
  parser.finalEnds (functions.insertionSort fun a b => a.start ≤ b.start)

/-! ## What the ranges are -/

/-- The greatest end that the file gives for the start. -/
def Authoritative (start ended : BitVec 32) : Prop :=
  (start, ended) ∈ parser.givenRanges ∧
    ∀ other, (start, other) ∈ parser.givenRanges → other ≤ ended

/-- The address is inside the authoritative range that starts closest to it. -/
def InsideClosest (address : BitVec 32) : Prop :=
  ∃ start ended, parser.Authoritative start ended ∧ start < address ∧ address < ended ∧
    ∀ other otherEnd, parser.Authoritative other otherEnd → other ≤ address → other ≤ start

end ElfParser

theorem lookup_cons_pair (key value start : BitVec 32) (rest : List (BitVec 32 × BitVec 32)) :
    ((key, value) :: rest).lookup start = if start = key then some value else rest.lookup start := by
  rw [List.lookup_cons]
  by_cases h : start = key
  · rw [if_pos h, beq_iff_eq.2 h]
  · rw [if_neg h, beq_eq_false_iff_ne.2 h]

theorem lookup_emplaceMax (range : BitVec 32 × BitVec 32) (ends : List (BitVec 32 × BitVec 32))
    (start : BitVec 32) :
    (emplaceMax range ends).lookup start =
      if start = range.1 then
        some ((ends.lookup start).elim range.2 fun ended =>
          if range.2 > ended then range.2 else ended)
      else ends.lookup start := by
  obtain ⟨newKey, value⟩ := range
  induction ends with
  | nil =>
    unfold emplaceMax
    rw [lookup_cons_pair]
    rfl
  | cons first rest ih =>
    obtain ⟨key, ended⟩ := first
    unfold emplaceMax
    dsimp only
    split
    · rename_i hkey
      subst hkey
      rw [lookup_cons_pair, lookup_cons_pair]
      by_cases h : start = key
      · rw [if_pos h, if_pos h, if_pos h]
        rfl
      · rw [if_neg h, if_neg h, if_neg h]
    · rename_i hkey
      rw [lookup_cons_pair, lookup_cons_pair, ih]
      by_cases h : start = key
      · rw [if_pos h, if_pos h, if_neg fun heq => hkey (h.symm.trans heq)]
      · rw [if_neg h, if_neg h]

theorem keys_emplaceMax {range : BitVec 32 × BitVec 32} {ends : List (BitVec 32 × BitVec 32)}
    (h : (ends.map Prod.fst).Nodup) :
    ((emplaceMax range ends).map Prod.fst).Nodup ∧
      ∀ key ∈ (emplaceMax range ends).map Prod.fst, key = range.1 ∨ key ∈ ends.map Prod.fst := by
  induction ends with
  | nil => simp [emplaceMax]
  | cons first rest ih =>
    obtain ⟨key, ended⟩ := first
    obtain ⟨hkey, hrest⟩ := List.nodup_cons.1 h
    obtain ⟨hnodup, hkeys⟩ := ih hrest
    unfold emplaceMax
    split
    · exact ⟨h, fun other hother => .inr hother⟩
    · rename_i hne
      refine ⟨List.nodup_cons.2 ⟨fun hmem => ?_, hnodup⟩, fun other hother => ?_⟩
      · rcases hkeys key hmem with heq | hmem
        · exact hne heq
        · exact hkey hmem
      · rcases List.mem_cons.1 hother with rfl | hother
        · exact .inr List.mem_cons_self
        · exact (hkeys other hother).imp_right (List.mem_cons_of_mem _)

theorem lookup_eq_some_iff {ends : List (BitVec 32 × BitVec 32)} (h : (ends.map Prod.fst).Nodup)
    {start ended : BitVec 32} : ends.lookup start = some ended ↔ (start, ended) ∈ ends := by
  induction ends with
  | nil => simp
  | cons first rest ih =>
    obtain ⟨key, value⟩ := first
    obtain ⟨hkey, hrest⟩ := List.nodup_cons.1 h
    by_cases heq : start = key
    · subst heq
      have hnot : (start, ended) ∉ rest := fun hmem =>
        hkey (List.mem_map.2 ⟨(start, ended), hmem, rfl⟩)
      simp [hnot, eq_comm]
    · simp [lookup_cons_pair, heq, ih hrest]

namespace ElfParser

/-- The ends after some ranges, from the ends before. -/
theorem lookup_foldl_emplaceMax (given ends : List (BitVec 32 × BitVec 32))
    (start ended : BitVec 32) :
    (given.foldl (fun ends range => emplaceMax range ends) ends).lookup start = some ended ↔
      (ends.lookup start = some ended ∨ (start, ended) ∈ given) ∧
        (∀ other, ends.lookup start = some other → other ≤ ended) ∧
        ∀ other, (start, other) ∈ given → other ≤ ended := by
  induction given generalizing ends with
  | nil =>
    constructor
    · intro h
      refine ⟨.inl h, fun other hother => ?_, fun other hother => absurd hother List.not_mem_nil⟩
      obtain rfl := Option.some.inj (h.symm.trans hother)
      exact BitVec.le_refl _
    · rintro ⟨h | h, -⟩
      · exact h
      · exact absurd h List.not_mem_nil
  | cons range rest ih =>
    obtain ⟨key, value⟩ := range
    rw [List.foldl_cons, ih, lookup_emplaceMax]
    by_cases h : start = key
    · subst h
      cases hlookup : ends.lookup start with
      | none =>
        simp only [if_true, Option.elim_none, Option.some.injEq, List.mem_cons, Prod.mk.injEq,
          true_and, reduceCtorEq, false_or, false_implies, implies_true]
        constructor
        · rintro ⟨hended, hvalue, hrest⟩
          refine ⟨hended.imp_left Eq.symm, fun other hother => ?_⟩
          rcases hother with rfl | hother
          · exact hvalue _ rfl
          · exact hrest other hother
        · rintro ⟨hended, hall⟩
          exact ⟨hended.imp_left Eq.symm, fun other hother => hall other (.inl hother.symm),
            fun other hother => hall other (.inr hother)⟩
      | some existing =>
        simp only [if_true, Option.elim_some, Option.some.injEq, List.mem_cons, Prod.mk.injEq,
          true_and, forall_eq']
        constructor
        · rintro ⟨hended, hmax, hrest⟩
          have hboth : value ≤ ended ∧ existing ≤ ended := by
            split at hmax <;> bv_omega
          refine ⟨?_, hboth.2, fun other hother => ?_⟩
          · rcases hended with hended | hended
            · split at hended
              · exact .inr (.inl hended.symm)
              · exact .inl hended
            · exact .inr (.inr hended)
          · rcases hother with rfl | hother
            · exact hboth.1
            · exact hrest other hother
        · rintro ⟨hended, hexisting, hall⟩
          have hvalue := hall value (.inl rfl)
          refine ⟨?_, ?_, fun other hother => hall other (.inr hother)⟩
          · rcases hended with rfl | rfl | hended
            · refine .inl (if_neg ?_)
              bv_omega
            · refine .inl ?_
              split
              · rfl
              · bv_omega
            · exact .inr hended
          · split <;> assumption
    · simp [h]

variable (parser : ElfParser)

theorem keys_nodup : (parser.authoritativeEndByStart.map Prod.fst).Nodup := by
  have hfold : ∀ (given ends : List (BitVec 32 × BitVec 32)), (ends.map Prod.fst).Nodup →
      ((given.foldl (fun ends range => emplaceMax range ends) ends).map Prod.fst).Nodup := by
    intro given
    induction given with
    | nil => exact fun ends h => h
    | cons range rest ih => exact fun ends h => ih _ (keys_emplaceMax h).1
  exact hfold parser.givenRanges [] List.nodup_nil

variable {parser} {start ended address : BitVec 32}

theorem authoritativeEnd_iff :
    parser.authoritativeEnd start = some ended ↔ parser.Authoritative start ended := by
  unfold authoritativeEnd authoritativeEndByStart Authoritative
  rw [lookup_foldl_emplaceMax]
  simp

theorem mem_authoritativeRanges :
    (start, ended) ∈ parser.authoritativeRanges ↔ parser.Authoritative start ended := by
  unfold authoritativeRanges
  rw [List.mem_insertionSort, ← lookup_eq_some_iff parser.keys_nodup]
  exact authoritativeEnd_iff

/-- A range is authoritative for a start in a section, and it is not empty. -/
theorem Authoritative.valid (h : parser.Authoritative start ended) :
    start < ended ∧ (findFunctionSectionByAddress parser.sections start).isSome := by
  have hgiven := h.1
  unfold givenRanges at hgiven
  rcases List.mem_append.1 hgiven with hgiven | hgiven
  · obtain ⟨symbol, -, hrange⟩ := List.mem_filterMap.1 hgiven
    unfold symbolRange at hrange
    split at hrange
    · cases hrange
    split at hrange
    · cases hrange
    split at hrange
    · cases hrange
    rename_i functionSection hsection
    dsimp only at hrange
    split at hrange
    · cases hrange
    rename_i hend
    cases hrange
    exact ⟨BitVec.not_le.1 hend, by rw [hsection]; rfl⟩
  · obtain ⟨extra, -, hrange⟩ := List.mem_filterMap.1 hgiven
    unfold extraRange at hrange
    dsimp only at hrange
    split at hrange
    · cases hrange
    split at hrange
    · cases hrange
    rename_i functionSection hsection
    split at hrange
    · cases hrange
    rename_i hend
    cases hrange
    exact ⟨BitVec.not_le.1 hend, by rw [hsection]; rfl⟩

theorem authoritativeRanges_sorted :
    parser.authoritativeRanges.Pairwise fun a b => a.1 ≤ b.1 := by
  let byStart (a b : BitVec 32 × BitVec 32) : Prop := a.1 ≤ b.1
  have htotal : Std.Total byStart := ⟨fun a b => BitVec.le_total a.1 b.1⟩
  have htrans : IsTrans _ byStart := ⟨fun a b c hab hbc => BitVec.le_trans hab hbc⟩
  exact List.pairwise_insertionSort byStart parser.authoritativeEndByStart

/-- A range before an address is one that starts closest to it. -/
theorem rangeBefore_spec (ranges : List (BitVec 32 × BitVec 32)) (address : BitVec 32)
    (hsorted : ranges.Pairwise fun a b => a.1 ≤ b.1) :
    ((ranges.takeWhile fun range => range.1 ≤ address).getLast? = none →
      ∀ range ∈ ranges, ¬range.1 ≤ address) ∧
    ∀ range, (ranges.takeWhile fun range => range.1 ≤ address).getLast? = some range →
      range ∈ ranges ∧ range.1 ≤ address ∧ ∀ other ∈ ranges, other.1 ≤ address → other.1 ≤ range.1 := by
  induction ranges with
  | nil => simp
  | cons first rest ih =>
    obtain ⟨hfirst, hrest⟩ := List.pairwise_cons.1 hsorted
    obtain ⟨hnone, hsome⟩ := ih hrest
    by_cases h : first.1 ≤ address
    · rw [List.takeWhile_cons, if_pos (decide_eq_true h), List.getLast?_cons]
      refine ⟨fun hcontra => absurd hcontra (Option.some_ne_none _), fun range hrange => ?_⟩
      cases hlast : (rest.takeWhile fun range => range.1 ≤ address).getLast? with
      | none =>
        rw [hlast] at hrange
        obtain rfl : first = range := Option.some.inj hrange
        refine ⟨List.mem_cons_self, h, fun other hother hle => ?_⟩
        rcases List.mem_cons.1 hother with rfl | hother
        · exact BitVec.le_refl _
        · exact absurd hle (hnone hlast other hother)
      | some last =>
        rw [hlast] at hrange
        obtain rfl : last = range := Option.some.inj hrange
        obtain ⟨hmem, hle, hclosest⟩ := hsome last hlast
        refine ⟨List.mem_cons_of_mem first hmem, hle, fun other hother hother' => ?_⟩
        rcases List.mem_cons.1 hother with rfl | hother
        · exact hfirst last hmem
        · exact hclosest other hother hother'
    · rw [List.takeWhile_cons, if_neg (by rwa [decide_eq_true_eq])]
      refine ⟨fun _ range hrange hle => ?_, fun range hrange => absurd hrange (by simp)⟩
      rcases List.mem_cons.1 hrange with rfl | hrange
      · exact h hle
      · exact h (BitVec.le_trans (hfirst range hrange) hle)

/-- **The filter looks at the closest range.** -/
theorem isInsideAuthoritativeRange_iff :
    parser.isInsideAuthoritativeRange address = true ↔ parser.InsideClosest address := by
  obtain ⟨hnone, hsome⟩ :=
    rangeBefore_spec parser.authoritativeRanges address authoritativeRanges_sorted
  unfold isInsideAuthoritativeRange rangeBefore
  cases hlast : (parser.authoritativeRanges.takeWhile fun range => range.1 ≤ address).getLast? with
  | none =>
    constructor
    · rintro ⟨⟩
    · rintro ⟨start, ended, hrange, hlt, -⟩
      exact absurd (BitVec.le_of_lt hlt) (hnone hlast _ (mem_authoritativeRanges.2 hrange))
  | some range =>
    obtain ⟨hmem, hle, hclosest⟩ := hsome range hlast
    simp only [Bool.and_eq_true, decide_eq_true_eq]
    constructor
    · rintro ⟨hafter, hbefore⟩
      refine ⟨range.1, range.2, mem_authoritativeRanges.1 hmem, hafter, hbefore, ?_⟩
      exact fun other otherEnd hother hle => hclosest _ (mem_authoritativeRanges.2 hother) hle
    · rintro ⟨start, ended, hrange, hafter, hbefore, hall⟩
      have hle' := hclosest _ (mem_authoritativeRanges.2 hrange) (BitVec.le_of_lt hafter)
      have hge := hall range.1 range.2 (mem_authoritativeRanges.1 hmem) hle
      have hstart : start = range.1 := BitVec.le_antisymm hle' hge
      subst hstart
      have hends := authoritativeEnd_iff.2 hrange
      rw [authoritativeEnd_iff.2 (mem_authoritativeRanges.1 hmem)] at hends
      obtain rfl : range.2 = ended := Option.some.inj hends
      exact ⟨hafter, hbefore⟩

/-- A start with a range of its own is inside no closest one. -/
theorem not_inside_of_authoritative (h : parser.Authoritative address ended) :
    parser.isInsideAuthoritativeRange address = false := by
  rw [← Bool.not_eq_true, isInsideAuthoritativeRange_iff]
  rintro ⟨start, -, -, hlt, -, hall⟩
  have hle := hall address ended h (BitVec.le_refl _)
  bv_omega

/-! ## What is listed -/

/-- The starts that `addOrMerge` takes, whatever the name: a start of its own is inside none. -/
def Takes (parser : ElfParser) (start : BitVec 32) : Prop :=
  start ≠ 0 ∧ (findFunctionSectionByAddress parser.sections start).isSome = true ∧
    parser.isInsideAuthoritativeRange start = false

theorem hasAutoName_mergeName (existing new : String) :
    hasAutoName (mergeName existing new) = (hasAutoName existing && hasAutoName new) := by
  unfold mergeName hasAutoName
  by_cases hnew : new = ""
  · simp [hnew]
  · by_cases hexisting : existing = ""
    · simp [hnew, hexisting]
    · cases hauto : isAutoGeneratedName existing <;> cases hautoNew : isAutoGeneratedName new <;>
        simp [hnew, hexisting, hauto, hautoNew]

theorem mergeName_eq_empty (existing new : String) :
    mergeName existing new = "" ↔ existing = "" ∧ new = "" := by
  unfold mergeName
  by_cases hnew : new = ""
  · simp [hnew]
  · by_cases hexisting : existing = ""
    · simp [hnew, hexisting]
    · split <;> simp [hnew, hexisting]

/-- The list after some candidates: which starts it has, and what kind of name each has. -/
structure Merged (parser : ElfParser) (candidates functions : List Function) : Prop where
  nodup : (functions.map fun function => function.start).Nodup
  takes : ∀ function ∈ functions, parser.Takes function.start
  candidate : ∀ function ∈ functions, ∃ other ∈ candidates, other.start = function.start
  listed : ∀ other ∈ candidates, parser.Takes other.start →
    ∃ function ∈ functions, function.start = other.start
  autoName : ∀ function ∈ functions, (hasAutoName function.name = true ↔
    ∀ other ∈ candidates, other.start = function.start → hasAutoName other.name = true)
  noName : ∀ function ∈ functions, (function.name = "" ↔
    ∀ other ∈ candidates, other.start = function.start → other.name = "")

theorem addOrMerge_of_not_takes {functions : List Function} {new : Function}
    (h : ¬parser.Takes new.start) : parser.addOrMerge functions new = functions := by
  unfold addOrMerge
  split
  · rfl
  rename_i hzero
  split
  · rfl
  rename_i functionSection hsection
  have hinside : parser.isInsideAuthoritativeRange new.start = true := by
    rw [← Bool.not_eq_false]
    exact fun houtside => h ⟨hzero, by rw [hsection]; rfl, houtside⟩
  have hnone : parser.authoritativeEnd new.start = none := by
    rw [Option.eq_none_iff_forall_ne_some]
    intro ended hended
    rw [not_inside_of_authoritative (authoritativeEnd_iff.1 hended)] at hinside
    cases hinside
  dsimp only
  rw [hinside, hnone]
  rfl

theorem addOrMerge_of_takes {functions : List Function} {new : Function}
    (h : parser.Takes new.start) :
    ∃ functionSection, parser.addOrMerge functions new =
      match functions.findIdx? fun function => function.start = new.start with
      | none => functions ++ [parser.insertFunction functionSection new]
      | some index =>
        functions.modify index fun existing => parser.mergeFunction functionSection existing new := by
  obtain ⟨hzero, hsome, houtside⟩ := h
  obtain ⟨functionSection, hsection⟩ := Option.isSome_iff_exists.1 hsome
  refine ⟨functionSection, ?_⟩
  unfold addOrMerge
  rw [if_neg hzero, hsection]
  dsimp only
  rw [houtside, Bool.false_and, if_neg Bool.false_ne_true]

theorem insertFunction_kept (functionSection : Section) (new : Function) :
    (parser.insertFunction functionSection new).start = new.start ∧
      (parser.insertFunction functionSection new).name = new.name := by
  unfold insertFunction
  split <;> exact ⟨rfl, rfl⟩

/-- A start that stands once is changed at its index. -/
theorem modify_eq_map {functions : List Function} {start : BitVec 32} {index : ℕ}
    (hnodup : (functions.map fun function => function.start).Nodup)
    (h : (functions.findIdx? fun function => function.start = start) = some index)
    (change : Function → Function) :
    functions.modify index change =
      functions.map fun function => if function.start = start then change function else function := by
  induction functions generalizing index with
  | nil => cases h
  | cons first rest ih =>
    obtain ⟨hfirst, hrest⟩ := List.nodup_cons.1 hnodup
    rw [List.findIdx?_cons] at h
    by_cases hstart : first.start = start
    · rw [decide_eq_true hstart, if_pos rfl] at h
      obtain rfl : 0 = index := Option.some.inj h
      have hsame : rest.map (fun function =>
          if function.start = start then change function else function) = rest := by
        refine (List.map_congr_left fun function hmem => ?_).trans (List.map_id rest)
        refine if_neg fun heq => hfirst ?_
        exact List.mem_map.2 ⟨function, hmem, heq.trans hstart.symm⟩
      rw [List.map_cons, if_pos hstart, hsame]
      rfl
    · rw [decide_eq_false hstart, if_neg Bool.false_ne_true] at h
      obtain ⟨k, hk, rfl⟩ := Option.map_eq_some_iff.1 h
      rw [List.map_cons, if_neg hstart, ← ih hrest hk]
      rfl

theorem forall_mem_concat {P : Function → Prop} {functions : List Function} {new : Function} :
    (∀ function ∈ functions ++ [new], P function) ↔ (∀ function ∈ functions, P function) ∧ P new := by
  simp [or_imp, forall_and]

/-- A function with a new start. -/
theorem Merged.insert {candidates functions : List Function} {new inserted : Function}
    (h : Merged parser candidates functions) (htakes : parser.Takes new.start)
    (hnew : ∀ function ∈ functions, function.start ≠ new.start)
    (hkept : inserted.start = new.start ∧ inserted.name = new.name) :
    Merged parser (candidates ++ [new]) (functions ++ [inserted]) := by
  have hother (other : Function) (hother : other ∈ candidates) : other.start ≠ new.start := by
    intro heq
    obtain ⟨function, hmem, hstart⟩ := h.listed other hother (heq ▸ htakes)
    exact hnew function hmem (hstart.trans heq)
  exact
    { nodup := by
        rw [List.map_append]
        refine h.nodup.append (List.nodup_singleton _) fun start hstart hnew' => ?_
        obtain ⟨function, hmem, rfl⟩ := List.mem_map.1 hstart
        exact hnew function hmem ((List.mem_singleton.1 hnew').trans hkept.1)
      takes := forall_mem_concat.2 ⟨h.takes, hkept.1 ▸ htakes⟩
      candidate := by
        refine forall_mem_concat.2 ⟨fun function hmem => ?_, new, ?_, hkept.1.symm⟩
        · obtain ⟨other, hother, hstart⟩ := h.candidate function hmem
          exact ⟨other, List.mem_append_left _ hother, hstart⟩
        · exact List.mem_append_right _ (List.mem_singleton_self new)
      listed := by
        refine forall_mem_concat.2 ⟨fun other hother htaken => ?_, fun _ => ?_⟩
        · obtain ⟨function, hmem, hstart⟩ := h.listed other hother htaken
          exact ⟨function, List.mem_append_left _ hmem, hstart⟩
        · exact ⟨inserted, List.mem_append_right _ (List.mem_singleton_self _), hkept.1⟩
      autoName := by
        refine forall_mem_concat.2 ⟨fun function hmem => ?_, ?_⟩
        · rw [h.autoName function hmem, forall_mem_concat]
          exact ⟨fun hall => ⟨hall, fun heq => absurd heq.symm (hnew function hmem)⟩, And.left⟩
        · rw [hkept.1, hkept.2, forall_mem_concat]
          exact ⟨fun hauto => ⟨fun other hmem heq => absurd heq (hother other hmem), fun _ => hauto⟩,
            fun hall => hall.2 rfl⟩
      noName := by
        refine forall_mem_concat.2 ⟨fun function hmem => ?_, ?_⟩
        · rw [h.noName function hmem, forall_mem_concat]
          exact ⟨fun hall => ⟨hall, fun heq => absurd heq.symm (hnew function hmem)⟩, And.left⟩
        · rw [hkept.1, hkept.2, forall_mem_concat]
          exact ⟨fun hnone => ⟨fun other hmem heq => absurd heq (hother other hmem), fun _ => hnone⟩,
            fun hall => hall.2 rfl⟩ }

/-- A function is merged into the one with its start. -/
theorem Merged.merge {candidates functions : List Function} {new : Function}
    {change : Function → Function} (h : Merged parser candidates functions)
    (hold : ∃ function ∈ functions, function.start = new.start)
    (hchange : ∀ function, (change function).start = function.start ∧
      (change function).name = mergeName function.name new.name) :
    Merged parser (candidates ++ [new])
      (functions.map fun function =>
        if function.start = new.start then change function else function) := by
  have hstart (function : Function) :
      (if function.start = new.start then change function else function).start =
        function.start := by
    split
    · exact (hchange function).1
    · rfl
  exact
    { nodup := by
        rw [List.map_map]
        exact (List.map_congr_left fun function _ => hstart function) ▸ h.nodup
      takes := List.forall_mem_map.2 fun function hmem => by
        rw [hstart]
        exact h.takes function hmem
      candidate := List.forall_mem_map.2 fun function hmem => by
        obtain ⟨other, hother, heq⟩ := h.candidate function hmem
        exact ⟨other, List.mem_append_left _ hother, heq.trans (hstart function).symm⟩
      listed := by
        have hlisted (start : BitVec 32) (hfound : ∃ function ∈ functions, function.start = start) :
            ∃ function ∈ functions.map fun function =>
              if function.start = new.start then change function else function,
              function.start = start := by
          obtain ⟨function, hmem, rfl⟩ := hfound
          exact ⟨_, List.mem_map_of_mem hmem, hstart function⟩
        exact forall_mem_concat.2
          ⟨fun other hother htaken => hlisted _ (h.listed other hother htaken),
            fun _ => hlisted _ hold⟩
      autoName := List.forall_mem_map.2 fun function hmem => by
        rw [hstart, forall_mem_concat, ← h.autoName function hmem]
        split
        · rename_i heq
          rw [(hchange function).2, hasAutoName_mergeName, Bool.and_eq_true]
          exact ⟨fun hboth => ⟨hboth.1, fun _ => hboth.2⟩, fun hall => ⟨hall.1, hall.2 heq.symm⟩⟩
        · rename_i hne
          exact ⟨fun hauto => ⟨hauto, fun heq => absurd heq.symm hne⟩, And.left⟩
      noName := List.forall_mem_map.2 fun function hmem => by
        rw [hstart, forall_mem_concat, ← h.noName function hmem]
        split
        · rename_i heq
          rw [(hchange function).2, mergeName_eq_empty]
          exact ⟨fun hboth => ⟨hboth.1, fun _ => hboth.2⟩, fun hall => ⟨hall.1, hall.2 heq.symm⟩⟩
        · rename_i hne
          exact ⟨fun hnone => ⟨hnone, fun heq => absurd heq.symm hne⟩, And.left⟩ }

theorem Merged.addOrMerge {candidates functions : List Function}
    (h : Merged parser candidates functions) (new : Function) :
    Merged parser (candidates ++ [new]) (parser.addOrMerge functions new) := by
  by_cases htakes : parser.Takes new.start
  · obtain ⟨functionSection, hadd⟩ := addOrMerge_of_takes htakes
    rw [hadd]
    cases hfind : functions.findIdx? fun function => function.start = new.start with
    | none =>
      refine h.insert htakes (fun function hmem heq => ?_) (insertFunction_kept functionSection new)
      have hnot := List.findIdx?_eq_none_iff.1 hfind function hmem
      rw [decide_eq_false_iff_not] at hnot
      exact hnot heq
    | some index =>
      obtain ⟨hlt, hat, -⟩ := List.findIdx?_eq_some_iff_getElem.1 hfind
      dsimp only
      rw [modify_eq_map h.nodup hfind]
      refine h.merge ⟨functions[index], List.getElem_mem hlt, of_decide_eq_true hat⟩ ?_
      exact fun function => ⟨rfl, rfl⟩
  · -- a start that is not taken is the start of none of the listed functions
    rw [addOrMerge_of_not_takes htakes]
    have hne (function : Function) (hmem : function ∈ functions) : new.start ≠ function.start :=
      fun heq => htakes (heq ▸ h.takes function hmem)
    exact
      { nodup := h.nodup
        takes := h.takes
        candidate := fun function hmem => by
          obtain ⟨other, hother, hstart⟩ := h.candidate function hmem
          exact ⟨other, List.mem_append_left _ hother, hstart⟩
        listed := fun other hother hother' => by
          rcases List.mem_append.1 hother with hother | hother
          · exact h.listed other hother hother'
          · obtain rfl := List.mem_singleton.1 hother
            exact absurd hother' htakes
        autoName := fun function hmem => by
          rw [h.autoName function hmem, forall_mem_concat]
          exact ⟨fun hall => ⟨hall, fun heq => absurd heq (hne function hmem)⟩, And.left⟩
        noName := fun function hmem => by
          rw [h.noName function hmem, forall_mem_concat]
          exact ⟨fun hall => ⟨hall, fun heq => absurd heq (hne function hmem)⟩, And.left⟩ }

theorem merged_candidates (parser : ElfParser) :
    Merged parser parser.candidates (parser.candidates.foldl parser.addOrMerge []) := by
  have hfold : ∀ (rest candidates functions : List Function), Merged parser candidates functions →
      Merged parser (candidates ++ rest) (rest.foldl parser.addOrMerge functions) := by
    intro rest
    induction rest with
    | nil => exact fun candidates functions h => (List.append_nil candidates).symm ▸ h
    | cons new rest ih =>
      intro candidates functions h
      have hrest := ih _ _ (h.addOrMerge new)
      rwa [List.append_assoc] at hrest
  have hnil : Merged parser [] [] :=
    { nodup := List.nodup_nil
      takes := fun function h => absurd h List.not_mem_nil
      candidate := fun function h => absurd h List.not_mem_nil
      listed := fun function h => absurd h List.not_mem_nil
      autoName := fun function h => absurd h List.not_mem_nil
      noName := fun function h => absurd h List.not_mem_nil }
  exact hfold parser.candidates [] [] hnil

/-! ## Ends -/

theorem contains_of_findFunctionSection {sections : List Section} {found : Section}
    (h : findFunctionSectionByAddress sections address = some found) :
    found.contains address = true := by
  unfold findFunctionSectionByAddress at h
  split at h
  · rename_i codeSection hcode
    cases h
    have hfound := List.find?_some hcode
    rw [Bool.and_eq_true] at hfound
    exact hfound.2
  · split at h
    · unfold findSectionByAddress at h
      have hfound := List.find?_some h
      exact hfound
    · cases h

theorem finalEnd_of_authoritative {function : Function}
    (h : parser.Authoritative function.start ended) (next : Option Function) :
    parser.finalEnd function next = ended := by
  unfold finalEnd
  rw [authoritativeEnd_iff.2 h]

/-- An end is behind its start: a section that was found does not wrap there. -/
theorem lt_finalEnd {function : Function}
    (h : (findFunctionSectionByAddress parser.sections function.start).isSome = true)
    (next : Option Function) : function.start < parser.finalEnd function next := by
  unfold finalEnd
  split
  · rename_i ended hended
    exact (authoritativeEnd_iff.1 hended).valid.1
  split
  · assumption
  obtain ⟨found, hfound⟩ := Option.isSome_iff_exists.1 h
  have hcontains := contains_of_findFunctionSection hfound
  unfold Section.contains at hcontains
  rw [Bool.and_eq_true, decide_eq_true_eq, decide_eq_true_eq] at hcontains
  rw [hfound]
  cases next with
  | none =>
    dsimp only
    rw [if_pos hcontains.2]
    exact hcontains.2
  | some next =>
    dsimp only
    by_cases hcandidate : next.start > function.start ∧ (some found).isSome = true ∧
        next.start < found.address + found.size
    · rw [if_pos hcandidate, if_pos hcandidate.1]
      exact hcandidate.1
    · rw [if_neg hcandidate, if_pos hcontains.2]
      exact hcontains.2

theorem mem_finalEnds {functions : List Function} {function : Function} :
    function ∈ parser.finalEnds functions →
      ∃ listed ∈ functions, ∃ next,
        function = { listed with endAddress := parser.finalEnd listed next } := by
  induction functions with
  | nil => exact fun h => absurd h List.not_mem_nil
  | cons first rest ih =>
    intro h
    rcases List.mem_cons.1 h with rfl | h
    · exact ⟨first, List.mem_cons_self, rest.head?, rfl⟩
    · obtain ⟨listed, hmem, next, heq⟩ := ih h
      exact ⟨listed, List.mem_cons_of_mem first hmem, next, heq⟩

theorem exists_mem_finalEnds {functions : List Function} {listed : Function}
    (h : listed ∈ functions) :
    ∃ next, { listed with endAddress := parser.finalEnd listed next } ∈
      parser.finalEnds functions := by
  induction functions with
  | nil => exact absurd h List.not_mem_nil
  | cons first rest ih =>
    rcases List.mem_cons.1 h with rfl | h
    · exact ⟨rest.head?, List.mem_cons_self⟩
    · obtain ⟨next, hmem⟩ := ih h
      exact ⟨next, List.mem_cons_of_mem _ hmem⟩

theorem map_start_finalEnds (functions : List Function) :
    (parser.finalEnds functions).map (fun function => function.start) =
      functions.map fun function => function.start := by
  induction functions with
  | nil => rfl
  | cons first rest ih => exact congrArg (first.start :: ·) ih

/-! ## Well-formed lists -/

/-- The function has a name that is not like an address, and an authoritative size. -/
def HasAuthoritativeNameAndSize (parser : ElfParser) (function : Function) : Prop :=
  hasAutoName function.name = false ∧ ∃ ended, parser.Authoritative function.start ended

/-- What an extracted list is to be. -/
structure WellFormed (parser : ElfParser) (functions : List Function) : Prop where
  starts : functions.Pairwise fun left right => left.start < right.start
  ends : ∀ function ∈ functions, function.start < function.endAddress
  autoNamed : ∀ function ∈ functions, isAutoGeneratedName function.name = true →
    ∀ named ∈ functions, parser.HasAuthoritativeNameAndSize named →
      ¬(named.start < function.start ∧ function.start < named.endAddress)

/-- All names that the file gives the start are like addresses or empty, and one is like an
address. -/
def AutoNamedAt (parser : ElfParser) (start : BitVec 32) : Prop :=
  (∀ candidate ∈ parser.candidates, candidate.start = start → hasAutoName candidate.name = true) ∧
    ∃ candidate ∈ parser.candidates, candidate.start = start ∧ candidate.name ≠ ""

/-- A name that the file gives the start is not like an address. -/
def NamedAt (parser : ElfParser) (start : BitVec 32) : Prop :=
  ∃ candidate ∈ parser.candidates, candidate.start = start ∧ hasAutoName candidate.name = false

/-- Where an address-like name starts inside a named authoritative range, the closest authoritative
range has it inside too. -/
def NestingHidesNothing (parser : ElfParser) : Prop :=
  ∀ start ended address, start ≠ 0 → parser.NamedAt start → parser.Authoritative start ended →
    parser.AutoNamedAt address → (findFunctionSectionByAddress parser.sections address).isSome →
    start < address → address < ended → parser.InsideClosest address

theorem mem_extractFunctions {function : Function} (h : function ∈ parser.extractFunctions) :
    ∃ listed ∈ parser.candidates.foldl parser.addOrMerge [], ∃ next,
      function = { listed with endAddress := parser.finalEnd listed next } := by
  obtain ⟨listed, hmem, next, heq⟩ := mem_finalEnds h
  exact ⟨listed, (List.mem_insertionSort _).1 hmem, next, heq⟩

theorem exists_mem_extractFunctions {listed : Function}
    (h : listed ∈ parser.candidates.foldl parser.addOrMerge []) :
    ∃ next, { listed with endAddress := parser.finalEnd listed next } ∈ parser.extractFunctions :=
  exists_mem_finalEnds ((List.mem_insertionSort _).2 h)

theorem extractFunctions_starts (parser : ElfParser) :
    parser.extractFunctions.Pairwise fun left right => left.start < right.start := by
  let functions := parser.candidates.foldl parser.addOrMerge []
  let byStart (a b : Function) : Prop := a.start ≤ b.start
  have htotal : Std.Total byStart := ⟨fun a b => BitVec.le_total a.start b.start⟩
  have htrans : IsTrans _ byStart := ⟨fun a b c hab hbc => BitVec.le_trans hab hbc⟩
  have hsorted := List.pairwise_insertionSort byStart functions
  have hnodup : ((functions.insertionSort byStart).map fun function => function.start).Nodup :=
    ((List.perm_insertionSort byStart functions).map _).nodup_iff.2
      parser.merged_candidates.nodup
  have hstrict : (functions.insertionSort byStart).Pairwise
      fun left right => left.start < right.start := by
    refine (hsorted.and (List.pairwise_map.1 hnodup)).imp fun {left right} hboth => ?_
    have hle : left.start ≤ right.start := hboth.1
    have hne : left.start ≠ right.start := hboth.2
    bv_omega
  have hmap := List.pairwise_map.2 hstrict
  rw [← map_start_finalEnds] at hmap
  exact List.pairwise_map.1 hmap

/-- **Extraction gives a well-formed list exactly where nesting hides nothing.** The starts increase
and the ends are behind them in any case. -/
theorem extractFunctions_wellFormed_iff (parser : ElfParser) :
    parser.WellFormed parser.extractFunctions ↔ parser.NestingHidesNothing := by
  have hmerged := parser.merged_candidates
  constructor
  · intro hwf start ended address hzero hnamed hrange hauto hsection hafter hbefore
    rw [← isInsideAuthoritativeRange_iff, ← Bool.not_eq_false]
    intro houtside
    -- both starts are listed, the address with its address-like name
    obtain ⟨hall, candidate, hcandidate, hcandidateStart, hname⟩ := hauto
    have htakes : parser.Takes address := ⟨by bv_omega, hsection, houtside⟩
    obtain ⟨function, hmem, hfunction⟩ :=
      hmerged.listed candidate hcandidate (hcandidateStart ▸ htakes)
    have hfunction : function.start = address := hfunction.trans hcandidateStart
    have hautoName : hasAutoName function.name = true :=
      (hmerged.autoName function hmem).2 fun other hother heq => hall other hother (heq.trans hfunction)
    have hsome : function.name ≠ "" := fun hempty =>
      hname ((hmerged.noName function hmem).1 hempty candidate hcandidate
        (hcandidateStart.trans hfunction.symm))
    have hgenerated : isAutoGeneratedName function.name = true := by
      simpa [hasAutoName, hsome] using hautoName
    obtain ⟨outer, houter, houterStart, houterName⟩ := hnamed
    have htakesStart : parser.Takes start :=
      ⟨hzero, hrange.valid.2, not_inside_of_authoritative hrange⟩
    obtain ⟨named, hmemNamed, hnamed⟩ := hmerged.listed outer houter (houterStart ▸ htakesStart)
    have hnamed : named.start = start := hnamed.trans houterStart
    have hnamedName : hasAutoName named.name = false := by
      rw [← Bool.not_eq_true, hmerged.autoName named hmemNamed]
      intro hall
      have hauto := hall outer houter (houterStart.trans hnamed.symm)
      rw [houterName] at hauto
      cases hauto
    obtain ⟨next, hlisted⟩ := exists_mem_extractFunctions hmem
    obtain ⟨nextNamed, hlistedNamed⟩ := exists_mem_extractFunctions hmemNamed
    refine hwf.autoNamed _ hlisted hgenerated _ hlistedNamed
      ⟨hnamedName, ended, hnamed ▸ hrange⟩ ?_
    dsimp only
    rw [finalEnd_of_authoritative (hnamed ▸ hrange), hnamed, hfunction]
    exact ⟨hafter, hbefore⟩
  · intro hnesting
    refine ⟨extractFunctions_starts parser, fun function hmem => ?_, ?_⟩
    · obtain ⟨listed, hlisted, next, rfl⟩ := mem_extractFunctions hmem
      exact lt_finalEnd (hmerged.takes listed hlisted).2.1 next
    intro function hmem hgenerated named hmemNamed hauthoritative hinside
    obtain ⟨listed, hlisted, next, rfl⟩ := mem_extractFunctions hmem
    obtain ⟨outer, houter, nextNamed, rfl⟩ := mem_extractFunctions hmemNamed
    obtain ⟨hname, ended, hrange⟩ := hauthoritative
    dsimp only at hgenerated hname hrange hinside
    rw [finalEnd_of_authoritative hrange] at hinside
    have hsome : listed.name ≠ "" := by
      intro hempty
      rw [hempty] at hgenerated
      exact absurd hgenerated (by decide)
    have hautoNamed : parser.AutoNamedAt listed.start := by
      have hauto : hasAutoName listed.name = true := by
        unfold hasAutoName
        rw [hgenerated, Bool.or_true]
      refine ⟨(hmerged.autoName listed hlisted).1 hauto, ?_⟩
      by_contra hnone
      refine hsome ((hmerged.noName listed hlisted).2 fun other hother heq => ?_)
      by_contra hother'
      exact hnone ⟨other, hother, heq, hother'⟩
    have hnamedAt : parser.NamedAt outer.start := by
      by_contra hnone
      rw [← Bool.not_eq_true, hmerged.autoName outer houter] at hname
      refine hname fun other hother heq => ?_
      rw [← Bool.not_eq_false]
      exact fun hnot => hnone ⟨other, hother, heq, hnot⟩
    have htakes := hmerged.takes listed hlisted
    have hclosest := hnesting outer.start ended listed.start (hmerged.takes outer houter).1 hnamedAt
      hrange hautoNamed htakes.2.1 hinside.1 hinside.2
    rw [← isInsideAuthoritativeRange_iff, htakes.2.2] at hclosest
    cases hclosest

/-- A label of the linker behind a nested function: it is inside the outer one only. -/
def nestedSymbols : ElfParser where
  symbols :=
    [{ name := "main", address := 0x1000#32, size := 0x100#32, isFunction := true },
      { name := "inner", address := 0x1010#32, size := 8#32, isFunction := true },
      { name := "LAB_00001080", address := 0x1080#32, isFunction := true }]
  sections := [{ address := 0x1000#32, size := 0x1000#32, isCode := true }]

/-- An address-like name starts inside a named function. -/
theorem extractFunctions_nestedSymbols :
    ¬nestedSymbols.WellFormed nestedSymbols.extractFunctions := by
  have hextracted : nestedSymbols.extractFunctions =
      [{ name := "main", start := 0x1000#32, endAddress := 0x1100#32 },
        { name := "inner", start := 0x1010#32, endAddress := 0x1018#32 },
        { name := "LAB_00001080", start := 0x1080#32, endAddress := 0x2000#32 }] := by
    decide +kernel
  intro hwf
  rw [hextracted] at hwf
  refine hwf.autoNamed { name := "LAB_00001080", start := 0x1080#32, endAddress := 0x2000#32 }
    (by simp) (by decide +kernel) { name := "main", start := 0x1000#32, endAddress := 0x1100#32 }
    (by simp) ⟨by decide +kernel, 0x1100#32, ?_⟩ (by decide)
  rw [← authoritativeEnd_iff]
  decide +kernel

end ElfParser

end Ps2Recomp.Recompiler
