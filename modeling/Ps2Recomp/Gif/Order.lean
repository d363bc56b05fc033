import Ps2Recomp.Gif.Assembly
import Ps2Recomp.Lib.StableSort

/-!
# GIF drain order: the comparator

`drainsBefore` orders packets by path, with one exception: a PATH3 IMAGE packet comes before a
PATH2 DIRECTHL packet. The exception makes a cycle with the plain packets of the two paths: a plain
PATH2 packet comes before the image, the image before the DIRECTHL, and plain and DIRECTHL are
incomparable. So the comparator is a strict weak ordering exactly on the queues that do not have
all three kinds (`Unmixed`, `strictWeakOn_iff`). There a stable sort gives the order that is meant
(`DrainOrder`).
-/

namespace Ps2Recomp

open StableSort

/-- The queue has no DIRECTHL packet, or no IMAGE packet on PATH3, or on PATH2 and PATH3 nothing
else. -/
def Unmixed (queue : List GifArbiterPacket) : Prop :=
  (∀ a ∈ queue, a.path2DirectHl = false) ∨ (∀ a ∈ queue, a.path3Image = false) ∨
    ∀ a ∈ queue, a.pathId = .Path1 ∨ a.path2DirectHl = true ∨ a.path3Image = true

instance (queue : List GifArbiterPacket) : Decidable (Unmixed queue) :=
  inferInstanceAs (Decidable (_ ∨ _ ∨ _))

/-- What the order of a drain is meant to be. -/
structure DrainOrder (queue out : List GifArbiterPacket) : Prop where
  perm : out.Perm queue
  /-- The packets of a path keep their order. -/
  samePath : ∀ path, out.filter (·.pathId = path) = queue.filter (·.pathId = path)
  /-- No DIRECTHL packet comes before an IMAGE packet on PATH3. -/
  noPreempt : out.Pairwise fun a b => ¬ (a.path2DirectHl = true ∧ b.path3Image = true)
  /-- Otherwise the lower path comes first. -/
  byPath : out.Pairwise fun a b =>
    pathPriority a.pathId ≤ pathPriority b.pathId ∨
      a.path3Image = true ∧ b.path2DirectHl = true

variable {a b : GifArbiterPacket} {queue out : List GifArbiterPacket}

@[simp] theorem pathPriority_path1 : pathPriority .Path1 = 1 := rfl

@[simp] theorem pathPriority_path2 : pathPriority .Path2 = 2 := rfl

@[simp] theorem pathPriority_path3 : pathPriority .Path3 = 3 := rfl

/-- No packet has both flags. -/
theorem directHl_of_image (ha : a.WellFlagged) (himage : a.path3Image = true) :
    a.path2DirectHl = false := by
  by_contra h
  have hpath := ha.directHl (by simpa using h)
  rw [ha.image himage] at hpath
  cases hpath

theorem drainsBefore_of_image (hb : b.WellFlagged) (himage : a.path3Image = true)
    (hdirect : b.path2DirectHl = true) : drainsBefore a b = true := by
  have hb' : b.path3Image = false := by
    by_contra h
    have hnot := directHl_of_image hb (by simpa using h)
    rw [hdirect] at hnot
    cases hnot
  simp [drainsBefore, himage, hdirect, hb']

theorem drainsBefore_of_plain (h : ¬ (a.path3Image = true ∧ b.path2DirectHl = true))
    (h' : ¬ (a.path2DirectHl = true ∧ b.path3Image = true)) :
    drainsBefore a b = decide (pathPriority a.pathId < pathPriority b.pathId) := by
  unfold drainsBefore
  rw [if_neg fun hc => h hc.2, if_neg fun hc => h' hc.2]

/-- The rank that the comparator follows on an unmixed queue with DIRECTHL and IMAGE packets. -/
def specialRank (packet : GifArbiterPacket) : Nat :=
  if packet.path3Image then 1 else if packet.path2DirectHl then 2 else 0

/-- On a queue without plain PATH2 and PATH3 packets the flags determine the path. -/
theorem kind_path (ha : a.WellFlagged)
    (ha' : a.pathId = .Path1 ∨ a.path2DirectHl = true ∨ a.path3Image = true) :
    a.pathId = if a.path2DirectHl then .Path2 else if a.path3Image then .Path3 else .Path1 := by
  split
  · next hdirect => exact ha.directHl hdirect
  · split
    · next himage => exact ha.image himage
    · next hdirect himage => exact ha'.resolve_right fun h => h.elim hdirect himage

theorem specialRank_iff (ha : a.WellFlagged) (hb : b.WellFlagged)
    (ha' : a.pathId = .Path1 ∨ a.path2DirectHl = true ∨ a.path3Image = true)
    (hb' : b.pathId = .Path1 ∨ b.path2DirectHl = true ∨ b.path3Image = true) :
    drainsBefore a b = true ↔ specialRank a < specialRank b := by
  have hpa := kind_path ha ha'
  have hpb := kind_path hb hb'
  have hboth : a.path3Image = true → a.path2DirectHl = false := directHl_of_image ha
  have hboth' : b.path3Image = true → b.path2DirectHl = false := directHl_of_image hb
  clear ha ha' hb hb'
  rcases Bool.eq_false_or_eq_true a.path3Image with hai | hai <;>
    rcases Bool.eq_false_or_eq_true b.path3Image with hbi | hbi <;>
    rcases Bool.eq_false_or_eq_true a.path2DirectHl with had | had <;>
    rcases Bool.eq_false_or_eq_true b.path2DirectHl with hbd | hbd <;>
    simp_all [drainsBefore, specialRank]

/-- **The comparator is a strict weak ordering exactly on the unmixed queues.** -/
theorem strictWeakOn_iff (hflags : ∀ packet ∈ queue, packet.WellFlagged) :
    StrictWeakOn drainsBefore queue ↔ Unmixed queue := by
  constructor
  · intro hweak
    by_contra hmixed
    simp only [Unmixed, not_or, not_forall, Bool.not_eq_false] at hmixed
    obtain ⟨⟨direct, hdirect, hd⟩, ⟨image, himage, hi⟩, plain, hplain, hpath, hnd, hni⟩ := hmixed
    have hfd := hflags direct hdirect
    have hfi := hflags image himage
    have hdPath := hfd.directHl hd
    have hiPath := hfi.image hi
    have himageFirst : drainsBefore image direct = true := drainsBefore_of_image hfd hi hd
    rcases hp : plain.pathId with _ | _ | _
    · exact hpath hp
    · -- plain PATH2 before the image, the image before DIRECTHL, yet plain and DIRECTHL are equal
      have hfirst : drainsBefore plain image = true := by
        rw [drainsBefore_of_plain (fun h => hni h.1) (fun h => hnd h.1), hp, hiPath]
        decide
      have hlast := hweak.trans plain hplain image himage direct hdirect hfirst himageFirst
      rw [drainsBefore_of_plain (fun h => hni h.1) (fun h => hnd h.1), hp, hdPath] at hlast
      exact absurd hlast (by decide)
    · -- the image before DIRECTHL, DIRECTHL before plain PATH3, yet image and plain are equal
      have hfirst : drainsBefore direct plain = true := by
        rw [drainsBefore_of_plain (fun h => hnd h.2) (fun h => hni h.2), hp, hdPath]
        decide
      have hlast := hweak.trans image himage direct hdirect plain hplain himageFirst hfirst
      rw [drainsBefore_of_plain (fun h => hnd h.2) (fun h => hni h.2), hp, hiPath] at hlast
      exact absurd hlast (by decide)
  · rintro (hnone | hnone | hall)
    · refine strictWeakOn_of_rank (fun packet => pathPriority packet.pathId) fun a ha b hb => ?_
      rw [drainsBefore_of_plain (by simp [hnone b hb]) (by simp [hnone a ha]), decide_eq_true_eq]
    · refine strictWeakOn_of_rank (fun packet => pathPriority packet.pathId) fun a ha b hb => ?_
      rw [drainsBefore_of_plain (by simp [hnone a ha]) (by simp [hnone b hb]), decide_eq_true_eq]
    · exact strictWeakOn_of_rank specialRank fun a ha b hb =>
        specialRank_iff (hflags a ha) (hflags b hb) (hall a ha) (hall b hb)

/-- Packets of one path are incomparable. -/
theorem drainsBefore_samePath (ha : a.WellFlagged) (hb : b.WellFlagged)
    (hpath : a.pathId = b.pathId) : drainsBefore a b = false := by
  have hcross : ∀ {a b : GifArbiterPacket}, a.WellFlagged → b.WellFlagged → a.pathId = b.pathId →
      ¬ (a.path3Image = true ∧ b.path2DirectHl = true) := by
    rintro a b ha hb hpath ⟨himage, hdirect⟩
    rw [ha.image himage, hb.directHl hdirect] at hpath
    cases hpath
  rw [drainsBefore_of_plain (hcross ha hb hpath)
    fun h => hcross hb ha hpath.symm ⟨h.2, h.1⟩, hpath]
  simp

/-- On an unmixed queue, a stable sort gives the order that is meant. -/
theorem drainOrder_of_stable (hflags : ∀ packet ∈ queue, packet.WellFlagged)
    (h : IsStableSort drainsBefore queue out) : DrainOrder queue out where
  perm := h.perm
  samePath path := h.filter_eq _ fun a ha b hb hpa hpb =>
    drainsBefore_samePath (hflags a ha) (hflags b hb)
      ((of_decide_eq_true hpa).trans (of_decide_eq_true hpb).symm)
  noPreempt := by
    refine h.sorted.imp_of_mem fun {a b} ha hb hle hcross => ?_
    have hwin := drainsBefore_of_image (hflags a (h.perm.mem_iff.mp ha)) hcross.2 hcross.1
    rw [hle] at hwin
    cases hwin
  byPath := by
    refine h.sorted.imp_of_mem fun {a b} ha hb hle => ?_
    by_cases hcross : b.path3Image = true ∧ a.path2DirectHl = true
    · have hwin := drainsBefore_of_image (hflags a (h.perm.mem_iff.mp ha)) hcross.1 hcross.2
      rw [hle] at hwin
      cases hwin
    by_cases hcross' : a.path3Image = true ∧ b.path2DirectHl = true
    · exact Or.inr hcross'
    rw [drainsBefore_of_plain hcross fun h => hcross' ⟨h.2, h.1⟩, decide_eq_false_iff_not,
      not_lt] at hle
    exact Or.inl hle

end Ps2Recomp
