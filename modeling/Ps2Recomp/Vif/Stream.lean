import Ps2Recomp.Lib.StreamMachine
import Mathlib.Algebra.Order.Ring.Nat

/-!
# VIF1: the deferred stream

The bytes that VIF1 has received and not consumed (`m_vif1DeferredData`), with the segments that
tell where each byte lay in its source quadword (`m_vif1DeferredSegments`). A segment is a run of
consecutive source bytes and knows the offset of its first one. The sizes are `size_t`.

`Vif1Stream` carries what the operations maintain: the segments cover the data, and the next byte
follows the last segment. Appending merges into the last segment whatever was consumed in between,
so the stream is a `StreamMachine.Buffer`.
-/

namespace Ps2Recomp

structure Vif1StreamSegment where
  byteCount : Nat
  firstByteOffset : Nat
  deriving DecidableEq

namespace Vif1StreamSegment

/-- The offset that follows the segment. -/
def nextOffset (segment : Vif1StreamSegment) : Nat :=
  (segment.firstByteOffset + segment.byteCount) % 16

/-- The number of bytes that the segments cover. -/
def total (segments : List Vif1StreamSegment) : Nat := (segments.map byteCount).sum

/-- The segments of `appendVif1Stream`. -/
def appendVif1Stream (sizeBytes startOffset : Nat) :
    List Vif1StreamSegment → List Vif1StreamSegment
  | [] => [{ byteCount := sizeBytes, firstByteOffset := startOffset }]
  | [tail] =>
      if tail.nextOffset = startOffset then
        [{ tail with byteCount := tail.byteCount + sizeBytes }]
      else [tail, { byteCount := sizeBytes, firstByteOffset := startOffset }]
  | segment :: rest => segment :: appendVif1Stream sizeBytes startOffset rest

def consumeVif1StreamSegments (sizeBytes : Nat) :
    List Vif1StreamSegment → List Vif1StreamSegment
  | [] => []
  | segment :: rest =>
      if sizeBytes = 0 then segment :: rest
      else if sizeBytes < segment.byteCount then
        { firstByteOffset := (segment.firstByteOffset + sizeBytes) % 16
          byteCount := segment.byteCount - sizeBytes } :: rest
      else consumeVif1StreamSegments (sizeBytes - segment.byteCount) rest

/-- `vif1StreamByteOffset`: the offset of a position in its source quadword. -/
def byteOffset (nextByteOffset position : Nat) : List Vif1StreamSegment → Nat
  | [] => nextByteOffset
  | segment :: rest =>
      if position < segment.byteCount then (segment.firstByteOffset + position) % 16
      else byteOffset nextByteOffset (position - segment.byteCount) rest

/-- The offset that follows the last segment, `nextByteOffset` without segments. -/
def endOffset (nextByteOffset : Nat) : List Vif1StreamSegment → Nat
  | [] => nextByteOffset
  | [tail] => tail.nextOffset
  | _ :: rest => endOffset nextByteOffset rest

variable {segments : List Vif1StreamSegment} {size size' start next position : Nat}

@[simp] theorem total_nil : total [] = 0 := rfl

@[simp] theorem total_cons (segment : Vif1StreamSegment) :
    total (segment :: segments) = segment.byteCount + total segments := rfl

@[simp] theorem consume_zero : consumeVif1StreamSegments 0 segments = segments := by
  cases segments <;> rfl

theorem consume_of_lt {segment : Vif1StreamSegment} (hsize : size ≠ 0)
    (h : size < segment.byteCount) :
    consumeVif1StreamSegments size (segment :: segments) =
      { firstByteOffset := (segment.firstByteOffset + size) % 16
        byteCount := segment.byteCount - size } :: segments := by
  rw [consumeVif1StreamSegments, if_neg hsize, if_pos h]

theorem consume_of_le {segment : Vif1StreamSegment} (hsize : size ≠ 0)
    (h : segment.byteCount ≤ size) :
    consumeVif1StreamSegments size (segment :: segments) =
      consumeVif1StreamSegments (size - segment.byteCount) segments := by
  rw [consumeVif1StreamSegments, if_neg hsize, if_neg (Nat.not_lt.2 h)]

/-- Consuming part of a segment leaves what follows it. -/
theorem nextOffset_advance {segment : Vif1StreamSegment} (h : size ≤ segment.byteCount) :
    nextOffset { firstByteOffset := (segment.firstByteOffset + size) % 16
                 byteCount := segment.byteCount - size } = segment.nextOffset := by
  unfold nextOffset
  dsimp only
  omega

theorem append_ne_nil : appendVif1Stream size start segments ≠ [] := by
  match segments with
  | [] => exact List.cons_ne_nil _ _
  | [tail] =>
    unfold appendVif1Stream
    split <;> exact List.cons_ne_nil _ _
  | _ :: _ :: _ => exact List.cons_ne_nil _ _

/-- Appending goes past a segment that is not the last. -/
theorem append_cons (segment : Vif1StreamSegment) (h : segments ≠ []) :
    appendVif1Stream size start (segment :: segments) =
      segment :: appendVif1Stream size start segments := by
  cases segments with
  | nil => exact absurd rfl h
  | cons segment' rest => rfl

/-- Bytes that follow the last segment are merged into it. -/
theorem append_single {tail : Vif1StreamSegment} (h : tail.nextOffset = start) :
    appendVif1Stream size start [tail] = [{ tail with byteCount := tail.byteCount + size }] :=
  if_pos h

theorem endOffset_cons (segment : Vif1StreamSegment) (h : segments ≠ []) :
    endOffset next (segment :: segments) = endOffset next segments := by
  cases segments with
  | nil => exact absurd rfl h
  | cons segment' rest => rfl

theorem total_append :
    total (appendVif1Stream size start segments) = total segments + size := by
  induction segments with
  | nil => simp [appendVif1Stream]
  | cons segment rest ih =>
    cases rest with
    | nil =>
      unfold appendVif1Stream
      split <;> simp
    | cons segment' rest =>
      rw [append_cons segment (List.cons_ne_nil _ _), total_cons, ih, total_cons segment,
        Nat.add_assoc]

theorem total_consume :
    total (consumeVif1StreamSegments size segments) = total segments - size := by
  induction segments generalizing size with
  | nil => simp [consumeVif1StreamSegments]
  | cons segment rest ih =>
    by_cases hsize : size = 0
    · rw [hsize, consume_zero, Nat.sub_zero]
    · by_cases hlt : size < segment.byteCount
      · rw [consume_of_lt hsize hlt, total_cons, total_cons]
        dsimp only
        omega
      · rw [consume_of_le hsize (Nat.not_lt.1 hlt), ih, total_cons]
        omega

theorem consume_consume :
    consumeVif1StreamSegments size' (consumeVif1StreamSegments size segments) =
      consumeVif1StreamSegments (size + size') segments := by
  induction segments generalizing size with
  | nil => simp [consumeVif1StreamSegments]
  | cons segment rest ih =>
    by_cases hsize : size = 0
    · rw [hsize, consume_zero, Nat.zero_add]
    by_cases hsize' : size' = 0
    · rw [hsize', consume_zero, Nat.add_zero]
    by_cases hlt : size < segment.byteCount
    · rw [consume_of_lt hsize hlt]
      by_cases hsum : size + size' < segment.byteCount
      · rw [consume_of_lt hsize' (by dsimp only; omega), consume_of_lt (by omega) hsum]
        dsimp only
        rw [Nat.mod_add_mod, Nat.add_assoc, Nat.sub_sub]
      · rw [consume_of_le hsize' (by dsimp only; omega), consume_of_le (by omega) (by omega)]
        dsimp only
        congr 1
        omega
    · have hle : segment.byteCount ≤ size := Nat.not_lt.1 hlt
      rw [consume_of_le hsize hle, ih, consume_of_le (by omega) (by omega)]
      congr 1
      omega

/-- What is consumed does not change what follows the last segment. -/
theorem endOffset_consume (h : endOffset next segments = next) :
    endOffset next (consumeVif1StreamSegments size segments) = next := by
  induction segments generalizing size with
  | nil => rfl
  | cons segment rest ih =>
    by_cases hsize : size = 0
    · rwa [hsize, consume_zero]
    by_cases hlt : size < segment.byteCount
    · rw [consume_of_lt hsize hlt]
      cases rest with
      | nil => exact (nextOffset_advance (Nat.le_of_lt hlt)).trans h
      | cons segment' rest => exact h
    · rw [consume_of_le hsize (Nat.not_lt.1 hlt)]
      cases rest with
      | nil => rfl
      | cons segment' rest => exact ih h

/-- Extending a segment moves what follows it. -/
theorem nextOffset_extend {tail : Vif1StreamSegment} (h : tail.nextOffset = start) :
    nextOffset { tail with byteCount := tail.byteCount + size } = (start + size) % 16 := by
  rw [← h]
  unfold nextOffset
  dsimp only
  omega

theorem endOffset_append (h : endOffset start segments = start) :
    endOffset next (appendVif1Stream size start segments) = (start + size) % 16 := by
  induction segments with
  | nil => rfl
  | cons segment rest ih =>
    by_cases hrest : rest = []
    · subst hrest
      rw [append_single h]
      exact nextOffset_extend h
    · rw [append_cons segment hrest, endOffset_cons segment append_ne_nil]
      exact ih ((endOffset_cons segment hrest).symm.trans h)

/-- **Two pieces that follow each other are one.** -/
theorem append_append (h : endOffset start segments = start) :
    appendVif1Stream size' ((start + size) % 16) (appendVif1Stream size start segments) =
      appendVif1Stream (size + size') start segments := by
  induction segments with
  | nil => exact append_single rfl
  | cons segment rest ih =>
    by_cases hrest : rest = []
    · subst hrest
      rw [append_single h, append_single h, append_single (nextOffset_extend h)]
      dsimp only
      rw [Nat.add_assoc]
    · rw [append_cons segment hrest, append_cons segment append_ne_nil, append_cons segment hrest,
        ih ((endOffset_cons segment hrest).symm.trans h)]

/-- **What is appended does not depend on what was consumed before.** -/
theorem consume_append (h : endOffset start segments = start) (hsize : size ≠ 0)
    (hfits : size' ≤ total segments) :
    consumeVif1StreamSegments size' (appendVif1Stream size start segments) =
      appendVif1Stream size start (consumeVif1StreamSegments size' segments) := by
  induction segments generalizing size' with
  | nil =>
    have hzero : size' = 0 := Nat.le_zero.1 hfits
    rw [hzero, consume_zero, consume_zero]
  | cons segment rest ih =>
    by_cases hzero : size' = 0
    · rw [hzero, consume_zero, consume_zero]
    by_cases hrest : rest = []
    · subst hrest
      rw [total_cons, total_nil, Nat.add_zero] at hfits
      rw [append_single h, consume_of_lt hzero (by dsimp only; omega)]
      rcases Nat.lt_or_ge size' segment.byteCount with hlt | hge
      · rw [consume_of_lt hzero hlt, append_single ((nextOffset_advance hfits).trans h)]
        dsimp only
        congr 2
        omega
      · have hall : size' = segment.byteCount := Nat.le_antisymm hfits hge
        have hnext : (segment.firstByteOffset + size') % 16 = start := by
          rw [hall]
          exact h
        rw [consume_of_le hzero hge, hnext, hall, Nat.sub_self, consume_zero, appendVif1Stream]
        dsimp only
        rw [Nat.add_sub_cancel_left]
    · rw [append_cons segment hrest]
      by_cases hlt : size' < segment.byteCount
      · rw [consume_of_lt hzero hlt, consume_of_lt hzero hlt, append_cons _ hrest]
      · have hge : segment.byteCount ≤ size' := Nat.not_lt.1 hlt
        rw [consume_of_le hzero hge, consume_of_le hzero hge]
        rw [total_cons] at hfits
        exact ih ((endOffset_cons segment hrest).symm.trans h) (by omega)

theorem byteOffset_of_lt {segment : Vif1StreamSegment} (h : position < segment.byteCount) :
    byteOffset next position (segment :: segments) =
      (segment.firstByteOffset + position) % 16 := if_pos h

theorem byteOffset_of_le {segment : Vif1StreamSegment} (h : segment.byteCount ≤ position) :
    byteOffset next position (segment :: segments) =
      byteOffset next (position - segment.byteCount) segments := if_neg (Nat.not_lt.2 h)

/-- The offset of a byte, or of the end, does not depend on what is appended. -/
theorem byteOffset_append (h : endOffset start segments = start) (haligned : start < 16)
    (hsize : size ≠ 0) (hposition : position ≤ total segments) :
    byteOffset next position (appendVif1Stream size start segments) =
      byteOffset start position segments := by
  induction segments generalizing position with
  | nil =>
    have hzero : position = 0 := Nat.le_zero.1 hposition
    have hlt : position < size := by omega
    rw [appendVif1Stream, byteOffset_of_lt hlt, hzero]
    exact Nat.mod_eq_of_lt haligned
  | cons segment rest ih =>
    by_cases hrest : rest = []
    · subst hrest
      rw [total_cons, total_nil, Nat.add_zero] at hposition
      rw [append_single h]
      rw [byteOffset_of_lt (by dsimp only; omega)]
      dsimp only
      by_cases hlt : position < segment.byteCount
      · rw [byteOffset_of_lt hlt]
      · have hall : position = segment.byteCount := by omega
        rw [byteOffset_of_le (Nat.not_lt.1 hlt), hall]
        exact h
    · rw [append_cons segment hrest]
      by_cases hlt : position < segment.byteCount
      · rw [byteOffset_of_lt hlt, byteOffset_of_lt hlt]
      · rw [total_cons] at hposition
        rw [byteOffset_of_le (Nat.not_lt.1 hlt), byteOffset_of_le (Nat.not_lt.1 hlt)]
        exact ih ((endOffset_cons segment hrest).symm.trans h) (by omega)

theorem byteOffset_consume :
    byteOffset next position (consumeVif1StreamSegments size segments) =
      byteOffset next (size + position) segments := by
  induction segments generalizing size with
  | nil => rfl
  | cons segment rest ih =>
    by_cases hsize : size = 0
    · rw [hsize, consume_zero, Nat.zero_add]
    by_cases hlt : size < segment.byteCount
    · rw [consume_of_lt hsize hlt]
      by_cases hin : size + position < segment.byteCount
      · rw [byteOffset_of_lt hin, byteOffset_of_lt (by dsimp only; omega)]
        dsimp only
        rw [Nat.mod_add_mod, Nat.add_assoc]
      · have hrest : (Vif1StreamSegment.mk (segment.byteCount - size)
            ((segment.firstByteOffset + size) % 16)).byteCount ≤ position := by
          dsimp only
          omega
        rw [byteOffset_of_le hrest, byteOffset_of_le (by omega)]
        congr 1
        dsimp only
        omega
    · rw [consume_of_le hsize (Nat.not_lt.1 hlt), ih, byteOffset_of_le (by omega)]
      congr 1
      omega

end Vif1StreamSegment

open Vif1StreamSegment (total endOffset)

/-- The deferred data of VIF1 with its segments. -/
@[ext] structure Vif1Stream where
  data : List UInt8 := []
  segments : List Vif1StreamSegment := []
  nextByteOffset : Nat := 0
  covers : total segments = data.length := by rfl
  aligned : nextByteOffset < 16 := by decide
  ends : endOffset nextByteOffset segments = nextByteOffset := by rfl

namespace Vif1Stream

variable {x : Vif1Stream} {piece piece' : List UInt8} {n position : Nat}

/-- `appendVif1Stream` without an offset of its own: the bytes follow those before. -/
def append (x : Vif1Stream) (piece : List UInt8) : Vif1Stream :=
  if piece = [] then x
  else
    { data := x.data ++ piece
      segments := Vif1StreamSegment.appendVif1Stream piece.length x.nextByteOffset x.segments
      nextByteOffset := (x.nextByteOffset + piece.length) % 16
      covers := by rw [Vif1StreamSegment.total_append, x.covers, List.length_append]
      aligned := Nat.mod_lt _ (by decide)
      ends := Vif1StreamSegment.endOffset_append x.ends }

/-- What the end of `processVif1Stream` does to the stream once `n` bytes are consumed. -/
def drop (x : Vif1Stream) (n : Nat) : Vif1Stream where
  data := x.data.drop n
  segments := Vif1StreamSegment.consumeVif1StreamSegments n x.segments
  nextByteOffset := x.nextByteOffset
  covers := by rw [Vif1StreamSegment.total_consume, x.covers, List.length_drop]
  aligned := x.aligned
  ends := Vif1StreamSegment.endOffset_consume x.ends

def byteOffset (x : Vif1Stream) (position : Nat) : Nat :=
  Vif1StreamSegment.byteOffset x.nextByteOffset position x.segments

@[simp] theorem drop_data : (x.drop n).data = x.data.drop n := rfl

theorem drop_segments :
    (x.drop n).segments = Vif1StreamSegment.consumeVif1StreamSegments n x.segments := rfl

theorem append_nil : x.append [] = x := if_pos rfl

theorem append_of_ne_nil (h : piece ≠ []) :
    (x.append piece).data = x.data ++ piece ∧
      (x.append piece).segments =
        Vif1StreamSegment.appendVif1Stream piece.length x.nextByteOffset x.segments ∧
      (x.append piece).nextByteOffset = (x.nextByteOffset + piece.length) % 16 := by
  unfold append
  rw [if_neg h]
  exact ⟨rfl, rfl, rfl⟩

@[simp] theorem append_data : (x.append piece).data = x.data ++ piece := by
  by_cases h : piece = []
  · rw [h, append_nil, List.append_nil]
  · exact (append_of_ne_nil h).1

theorem append_append (x : Vif1Stream) (piece piece' : List UInt8) :
    (x.append piece).append piece' = x.append (piece ++ piece') := by
  by_cases h : piece = []
  · rw [h, append_nil, List.nil_append]
  by_cases h' : piece' = []
  · rw [h', append_nil, List.append_nil]
  obtain ⟨hdata, hsegments, hnext⟩ := @append_of_ne_nil x piece h
  obtain ⟨hdata', hsegments', hnext'⟩ := @append_of_ne_nil (x.append piece) piece' h'
  obtain ⟨hdata'', hsegments'', hnext''⟩ :=
    @append_of_ne_nil x (piece ++ piece') (List.append_ne_nil_of_left_ne_nil h _)
  apply Vif1Stream.ext
  · rw [hdata', hdata, hdata'', List.append_assoc]
  · rw [hsegments', hsegments, hsegments'', hnext, Vif1StreamSegment.append_append x.ends,
      List.length_append]
  · rw [hnext', hnext, hnext'', Nat.mod_add_mod, List.length_append, Nat.add_assoc]

theorem drop_append (x : Vif1Stream) (n : Nat) (piece : List UInt8) (h : n ≤ x.data.length) :
    (x.append piece).drop n = (x.drop n).append piece := by
  by_cases hpiece : piece = []
  · rw [hpiece, append_nil, append_nil]
  obtain ⟨hdata, hsegments, hnext⟩ := @append_of_ne_nil x piece hpiece
  obtain ⟨hdata', hsegments', hnext'⟩ := @append_of_ne_nil (x.drop n) piece hpiece
  apply Vif1Stream.ext
  · rw [hdata', drop_data, drop_data, hdata, List.drop_append_of_le_length h]
  · have hsize : piece.length ≠ 0 := fun hzero => hpiece (List.length_eq_zero_iff.1 hzero)
    rw [hsegments', drop_segments, drop_segments, hsegments]
    exact Vif1StreamSegment.consume_append x.ends hsize (by rwa [x.covers])
  · rw [hnext']
    exact hnext

theorem drop_drop (x : Vif1Stream) (n m : Nat) : (x.drop n).drop m = x.drop (n + m) :=
  Vif1Stream.ext List.drop_drop Vif1StreamSegment.consume_consume rfl

instance : StreamMachine.Buffer Vif1Stream UInt8 where
  size x := x.data.length
  append := append
  drop := drop
  size_append x piece := by rw [append_data, List.length_append]
  size_drop x n := List.length_drop
  drop_zero x := Vif1Stream.ext rfl Vif1StreamSegment.consume_zero rfl
  drop_drop := drop_drop
  append_append := append_append
  drop_append := drop_append

/-- The alignment of a byte, or of the end, does not depend on what is appended. -/
theorem byteOffset_append (h : position ≤ x.data.length) (piece : List UInt8) :
    (x.append piece).byteOffset position = x.byteOffset position := by
  by_cases hpiece : piece = []
  · rw [hpiece, append_nil]
  · have hsize : piece.length ≠ 0 := fun hzero => hpiece (List.length_eq_zero_iff.1 hzero)
    unfold byteOffset
    rw [(append_of_ne_nil hpiece).2.1]
    exact Vif1StreamSegment.byteOffset_append x.ends x.aligned hsize (by rwa [x.covers])

theorem byteOffset_drop (x : Vif1Stream) (n position : Nat) :
    (x.drop n).byteOffset position = x.byteOffset (n + position) :=
  Vif1StreamSegment.byteOffset_consume

end Vif1Stream

end Ps2Recomp
