import Mathlib.Algebra.Order.Ring.Nat
import Mathlib.Data.Finset.Card
import Mathlib.Data.Fintype.Basic

/-!
# Slots with one job each

A service keeps one slot per source. Scheduling a job in a slot returns a token and replaces the
job there, if any; a job can be cancelled or serviced, and a reset drops them all. The book is the
list of what happened, newest first. `live book i` is the token of the job slot `i` holds.

`Valid book` says what such a service must keep to: it cancels and services only jobs it holds, and
never returns a token twice for one slot. Then nothing is lost (`conservation`), and a job is
serviced at most once (`serviced_once`).
-/

namespace SlotBook

variable {ι τ : Type*} [DecidableEq ι]

/-- What can happen. -/
inductive Record (ι τ : Type*) where
  | scheduled (i : ι) (t : τ)
  | cancelled (i : ι)
  | serviced (i : ι) (t : τ)
  | reset
  deriving DecidableEq

/-- The record ends whatever job slot `i` holds. -/
def Record.ends (i : ι) : Record ι τ → Bool
  | .scheduled j _ => j = i
  | .cancelled j => j = i
  | .serviced j _ => j = i
  | .reset => true

/-- The token of the job slot `i` holds. -/
def live (i : ι) : List (Record ι τ) → Option τ
  | [] => none
  | .scheduled j t :: past => if j = i then some t else live i past
  | .cancelled j :: past => if j = i then none else live i past
  | .serviced j _ :: past => if j = i then none else live i past
  | .reset :: _ => none

/-- Jobs scheduled, replaced, cancelled and serviced since the last reset. -/
structure Counts where
  scheduled : Nat := 0
  replaced : Nat := 0
  cancelled : Nat := 0
  serviced : Nat := 0
  deriving DecidableEq

def counts : List (Record ι τ) → Counts
  | [] => {}
  | .scheduled i _ :: past =>
    { counts past with
      scheduled := (counts past).scheduled + 1
      replaced :=
        if (live i past).isSome then (counts past).replaced + 1 else (counts past).replaced }
  | .cancelled _ :: past => { counts past with cancelled := (counts past).cancelled + 1 }
  | .serviced _ _ :: past => { counts past with serviced := (counts past).serviced + 1 }
  | .reset :: _ => {}

/-- Only jobs that are held are cancelled or serviced, and no slot returns a token twice. -/
def Valid : List (Record ι τ) → Prop
  | [] => True
  | .scheduled i t :: past => .scheduled i t ∉ past ∧ Valid past
  | .cancelled i :: past => (live i past).isSome ∧ Valid past
  | .serviced i t :: past => live i past = some t ∧ Valid past
  | .reset :: past => Valid past

variable {i : ι} {t : τ} {r : Record ι τ} {book past : List (Record ι τ)}

theorem Valid.tail (hv : Valid (r :: past)) : Valid past := by
  cases r with
  | scheduled i t => exact hv.2
  | cancelled i => exact hv.2
  | serviced i t => exact hv.2
  | reset => exact hv

/-- A record that does not end the job of a slot leaves it. -/
theorem live_cons_of_not_ends (he : r.ends i = false) : live i (r :: past) = live i past := by
  cases r with
  | scheduled j t => exact if_neg (of_decide_eq_false he)
  | cancelled j => exact if_neg (of_decide_eq_false he)
  | serviced j t => exact if_neg (of_decide_eq_false he)
  | reset => cases he

theorem live_cons_of_ends (he : r.ends i = true) (hr : ∀ t, r ≠ .scheduled i t) :
    live i (r :: past) = none := by
  cases r with
  | scheduled j t => exact absurd (of_decide_eq_true he ▸ rfl) (hr t)
  | cancelled j => exact if_pos (of_decide_eq_true he)
  | serviced j t => exact if_pos (of_decide_eq_true he)
  | reset => rfl

/-- **The job a slot holds** is the one scheduled there last, if nothing ended it since. -/
theorem live_eq_some_iff : live i book = some t ↔
    ∃ after before, book = after ++ .scheduled i t :: before ∧ ∀ r ∈ after, r.ends i = false := by
  induction book with
  | nil => simp [live]
  | cons r past ih =>
    constructor
    · intro hl
      cases he : r.ends i with
      | false =>
        rw [live_cons_of_not_ends he] at hl
        obtain ⟨after, before, rfl, hall⟩ := ih.mp hl
        refine ⟨r :: after, before, rfl, fun r' hm => ?_⟩
        rcases List.mem_cons.mp hm with rfl | hm
        · exact he
        · exact hall r' hm
      | true =>
        by_cases hr : ∃ t', r = .scheduled i t'
        · obtain ⟨t', rfl⟩ := hr
          rw [live, if_pos rfl] at hl
          obtain rfl := Option.some.inj hl
          exact ⟨[], past, rfl, fun _ hm => absurd hm List.not_mem_nil⟩
        · rw [live_cons_of_ends he (not_exists.mp hr)] at hl
          cases hl
    · rintro ⟨after, before, heq, hall⟩
      cases after with
      | nil =>
        obtain ⟨rfl, rfl⟩ := List.cons.inj heq
        exact if_pos rfl
      | cons r' after =>
        obtain ⟨rfl, rfl⟩ := List.cons.inj heq
        rw [live_cons_of_not_ends (hall _ List.mem_cons_self)]
        exact ih.mpr ⟨after, before, rfl, fun r hm => hall r (List.mem_cons_of_mem _ hm)⟩

/-- In a valid book a token names one scheduling of its slot. -/
theorem Valid.scheduled_unique (hv : Valid book) {after before : List (Record ι τ)}
    (hb : book = after ++ .scheduled i t :: before) :
    .scheduled i t ∉ after ∧ .scheduled i t ∉ before := by
  induction after generalizing book with
  | nil =>
    rw [hb] at hv
    exact ⟨List.not_mem_nil, hv.1⟩
  | cons r after ih =>
    rw [hb, List.cons_append] at hv
    obtain ⟨hafter, hbefore⟩ := ih hv.tail rfl
    refine ⟨fun hm => ?_, hbefore⟩
    rcases List.mem_cons.mp hm with rfl | hm
    · exact hv.1 (List.mem_append_right _ List.mem_cons_self)
    · exact hafter hm

/-- **A token is live exactly if nothing has ended its job since.** -/
theorem Valid.live_iff_not_ended (hv : Valid book) {after before : List (Record ι τ)}
    (hb : book = after ++ .scheduled i t :: before) :
    live i book = some t ↔ ∀ r ∈ after, r.ends i = false := by
  constructor
  · intro hl
    obtain ⟨after', before', hb', hall⟩ := live_eq_some_iff.mp hl
    obtain ⟨hnot, -⟩ := hv.scheduled_unique hb
    obtain ⟨-, hnot'⟩ := hv.scheduled_unique hb'
    rw [hb] at hb'
    rcases List.append_eq_append_iff.mp hb' with ⟨m, rfl, hm⟩ | ⟨m, rfl, hm⟩
    · cases m with
      | nil => exact fun r hr => hall r (List.mem_append_left _ hr)
      | cons x m =>
        rw [List.cons_append] at hm
        obtain ⟨rfl, -⟩ := List.cons.inj hm
        exact fun r hr => hall r (List.mem_append_left _ hr)
    · cases m with
      | nil =>
        rw [List.append_nil]
        exact hall
      | cons x m =>
        rw [List.cons_append] at hm
        obtain ⟨rfl, -⟩ := List.cons.inj hm
        exact absurd (List.mem_append_right _ List.mem_cons_self) hnot
  · exact fun hall => live_eq_some_iff.mpr ⟨after, before, hb, hall⟩

/-- After a job was serviced its token is not live. -/
theorem Valid.not_live_of_serviced (hv : Valid book) (hm : .serviced i t ∈ book) :
    live i book ≠ some t := by
  obtain ⟨after, past, rfl⟩ := List.append_of_mem hm
  have hpast : live i past = some t ∧ Valid past := by
    clear hm
    induction after with
    | nil => exact hv
    | cons r after ih => exact ih hv.tail
  obtain ⟨m, before, rfl, -⟩ := live_eq_some_iff.mp hpast.1
  intro hl
  have hsplit : after ++ .serviced i t :: (m ++ .scheduled i t :: before) =
      (after ++ .serviced i t :: m) ++ .scheduled i t :: before := by simp
  have hends := (hv.live_iff_not_ended hsplit).mp hl (.serviced i t)
    (List.mem_append_right _ List.mem_cons_self)
  simp [Record.ends] at hends

/-- **A job is serviced at most once.** -/
theorem Valid.serviced_once [DecidableEq τ] (hv : Valid book) (i : ι) (t : τ) :
    book.count (.serviced i t) ≤ 1 := by
  induction book with
  | nil => exact Nat.zero_le 1
  | cons r past ih =>
    rw [List.count_cons]
    split
    · rename_i hr
      rw [beq_iff_eq] at hr
      subst hr
      have hnot : .serviced i t ∉ past := fun hm => hv.2.not_live_of_serviced hm hv.1
      rw [List.count_eq_zero_of_not_mem hnot]
    · exact ih hv.tail

/-- The slots that hold a job. -/
def held [Fintype ι] (book : List (Record ι τ)) : Finset ι :=
  Finset.univ.filter fun i => (live i book).isSome

variable [Fintype ι]

theorem mem_held : i ∈ held book ↔ (live i book).isSome := by
  unfold held
  rw [Finset.mem_filter]
  exact and_iff_right (Finset.mem_univ i)

theorem held_scheduled (i : ι) (t : τ) (past : List (Record ι τ)) :
    held (.scheduled i t :: past) = insert i (held past) := by
  ext j
  rw [Finset.mem_insert, mem_held, mem_held, live]
  split
  · rename_i hij
    exact iff_of_true rfl (Or.inl hij.symm)
  · rename_i hij
    rw [or_iff_right (Ne.symm hij)]

theorem held_erase {r : Record ι τ}
    (hr : ∀ j, live j (r :: past) = if i = j then none else live j past) :
    held (r :: past) = (held past).erase i := by
  ext j
  rw [Finset.mem_erase, mem_held, mem_held, hr]
  split
  · rename_i hij
    exact iff_of_false Bool.false_ne_true fun h => h.1 hij.symm
  · rename_i hij
    rw [and_iff_right (Ne.symm hij)]

/-- **Nothing is lost**: every job scheduled since the last reset was replaced, cancelled or
serviced, or is still held. -/
theorem Valid.conservation (hv : Valid book) :
    (counts book).scheduled = (counts book).replaced + (counts book).cancelled +
      (counts book).serviced + (held book).card := by
  induction book with
  | nil =>
    have hnone : held ([] : List (Record ι τ)) = ∅ :=
      Finset.filter_eq_empty_iff.mpr fun _ _ => Bool.false_ne_true
    rw [hnone]
    rfl
  | cons r past ih =>
    have ih := ih hv.tail
    cases r with
    | scheduled i t =>
      rw [held_scheduled, counts]
      by_cases hi : i ∈ held past
      · rw [Finset.insert_eq_of_mem hi, if_pos (mem_held.mp hi)]
        simp only
        omega
      · rw [Finset.card_insert_of_notMem hi, if_neg (mt mem_held.mpr hi)]
        simp only
        omega
    | cancelled i =>
      have hi : i ∈ held past := mem_held.mpr hv.1
      rw [held_erase fun _ => rfl, Finset.card_erase_of_mem hi, counts]
      have hpos := Finset.card_pos.mpr ⟨i, hi⟩
      simp only
      omega
    | serviced i t =>
      have hi : i ∈ held past := mem_held.mpr (hv.1 ▸ rfl)
      rw [held_erase fun _ => rfl, Finset.card_erase_of_mem hi, counts]
      have hpos := Finset.card_pos.mpr ⟨i, hi⟩
      simp only
      omega
    | reset =>
      have hnone : held (.reset :: past : List (Record ι τ)) = ∅ :=
        Finset.filter_eq_empty_iff.mpr fun _ _ => Bool.false_ne_true
      rw [hnone]
      rfl

end SlotBook
