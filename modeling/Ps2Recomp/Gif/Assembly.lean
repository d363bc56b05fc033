import Ps2Recomp.Gif.Arbiter
import Ps2Recomp.Lib.StreamAssembly

/-!
# GIF packet assembly: one submission

What the loop of `submit` does to a path, seen as the assembly of a stream of tags
(`StreamAssembly`): `gifCutter` cuts a tag with its data, EOP ends a packet, and an IMAGE tag on
PATH3 tags it. `view` reads the assembly off a path's stream and the packets cut so far.

`parse_spec` says that the loop is a scan, that the packets it queues are the slices of the buffer
that the scan completes, one behind the other (`Tiled`), and that no flag is set on the wrong path.
-/

namespace Ps2Recomp

open ByteCodec (Bytes ofBytes)
open StreamAssembly (Cutter Assembly scan scan_of_none scan_of_some)

/-! ## Tags -/

theorem gifPayloadBytes_le (tagLo : Nat) : gifPayloadBytes tagLo ≤ 0x7FFF * 16 * 16 := by
  have hnloop : tagLo &&& 0x7FFF ≤ 0x7FFF := Nat.and_le_right
  have hnreg : (if (tagLo >>> 60) &&& 0xF = 0 then 16 else (tagLo >>> 60) &&& 0xF) ≤ 16 := by
    have : (tagLo >>> 60) &&& 0xF ≤ 0xF := Nat.and_le_right
    split <;> omega
  have hmul := Nat.mul_le_mul hnloop hnreg
  simp only [gifPayloadBytes]
  generalize (if (tagLo >>> 60) &&& 0xF = 0 then 16 else (tagLo >>> 60) &&& 0xF) = nreg at *
  split_ifs <;> omega

/-- No tag is malformed: the largest fits. -/
theorem gifTagOf_eq (tagLo : Nat) :
    gifTagOf tagLo = some (16 + gifPayloadBytes tagLo, decide ((tagLo >>> 15) &&& 1 ≠ 0),
      (tagLo >>> 58) &&& 0x3 = 2 || (tagLo >>> 58) &&& 0x3 = 3) := by
  have hle := gifPayloadBytes_le tagLo
  have hmax : kMaxBufferedGifPathBytes = 64 * 1024 * 1024 := rfl
  simp only [gifTagOf]
  rw [if_neg (by omega)]

theorem gifTagSize_eq_none {data : Bytes} : gifTagSize data = none ↔ data.length < 16 := by
  unfold gifTagSize
  split
  · simp [*]
  · rw [gifTagOf_eq]
    simp [*]

theorem gifTagSize_append {data : Bytes} {tag : Nat × Bool × Bool} (more : Bytes)
    (h : gifTagSize data = some tag) : gifTagSize (data ++ more) = some tag := by
  unfold gifTagSize at h ⊢
  split at h
  · cases h
  · next hlen =>
    have htake : (data ++ more).take 8 = data.take 8 :=
      List.take_append_of_le_length (by omega)
    rw [if_neg (by rw [List.length_append]; omega), htake]
    exact h

/-- The first tag of a path's stream with its data. -/
def nextTag (path : GifPathId) (input : Bytes) : Option (Nat × Bool × Bool) :=
  match gifTagSize input with
  | none => none
  | some (size, eop, image) =>
    if size ≤ input.length then some (size, eop, path = .Path3 && image) else none

theorem nextTag_eq_some {path : GifPathId} {input : Bytes} {size : Nat} {last tagged : Bool} :
    nextTag path input = some (size, last, tagged) ↔
      ∃ image, gifTagSize input = some (size, last, image) ∧ size ≤ input.length ∧
        tagged = (path = .Path3 && image) := by
  unfold nextTag
  constructor
  · intro h
    split at h
    · cases h
    · next size' eop image heq =>
      split at h
      · next hle =>
        cases h
        exact ⟨image, heq, hle, rfl⟩
      · cases h
  · rintro ⟨image, heq, hle, rfl⟩
    simp only [heq, if_pos hle]

/-- How the stream of a path is cut. -/
def gifCutter (path : GifPathId) : Cutter UInt8 where
  next := nextTag path
  pos h := by
    obtain ⟨image, heq, -, -⟩ := nextTag_eq_some.mp h
    have := gifTagSize_size heq
    omega
  fits h := by
    obtain ⟨image, -, hle, -⟩ := nextTag_eq_some.mp h
    exact hle
  stable {input answer} more h := by
    obtain ⟨size, last, tagged⟩ := answer
    obtain ⟨image, heq, hle, htag⟩ := nextTag_eq_some.mp h
    refine nextTag_eq_some.mpr ⟨image, gifTagSize_append more heq, ?_, htag⟩
    rw [List.length_append]
    omega

/-! ## A path's stream as an assembly -/

/-- The bytes and the tag of a queued packet. -/
def GifArbiterPacket.slice (data : Bytes) (packet : GifArbiterPacket) : Bytes × Bool :=
  ((data.drop packet.offset).take packet.size, packet.path3Image)

/-- How far the assembly of a path's stream has come, after the packets given. -/
def PathStream.view (stream : PathStream) (path : GifPathId) (packets : List (Bytes × Bool)) :
    Assembly UInt8 where
  packets := packets
  current := (stream.data.drop stream.packetStart).take (stream.parseOffset - stream.packetStart)
  tagged := path = .Path3 && stream.packetContainsImage
  rest := stream.data.drop stream.parseOffset

structure PathStream.Ordered (stream : PathStream) : Prop where
  start_le : stream.packetStart ≤ stream.parseOffset
  parse_le : stream.parseOffset ≤ stream.data.length

/-- The packets lie one behind the other, from `start` to `stop`. -/
def Tiled : Nat → List GifArbiterPacket → Nat → Prop
  | start, [], stop => start = stop
  | start, packet :: rest, stop =>
    packet.offset = start ∧ 0 < packet.size ∧ Tiled (start + packet.size) rest stop

theorem Tiled.le {start stop : Nat} {packets : List GifArbiterPacket}
    (h : Tiled start packets stop) : start ≤ stop := by
  induction packets generalizing start with
  | nil => exact le_of_eq h
  | cons packet rest ih =>
    have := ih h.2.2
    omega

theorem Tiled.append {start middle stop : Nat} {packets packets' : List GifArbiterPacket}
    (h : Tiled start packets middle) (h' : Tiled middle packets' stop) :
    Tiled start (packets ++ packets') stop := by
  induction packets generalizing start with
  | nil => exact h ▸ h'
  | cons packet rest ih => exact ⟨h.1, h.2.1, ih h.2.2⟩

/-- Each packet of a tiling lies inside. -/
theorem Tiled.mem_le {start stop : Nat} {packets : List GifArbiterPacket}
    (h : Tiled start packets stop) {packet : GifArbiterPacket} (hmem : packet ∈ packets) :
    start ≤ packet.offset ∧ 0 < packet.size ∧ packet.offset + packet.size ≤ stop := by
  induction packets generalizing start with
  | nil => exact absurd hmem List.not_mem_nil
  | cons first rest ih =>
    obtain ⟨hoffset, hsize, hrest⟩ := h
    rcases List.mem_cons.mp hmem with rfl | hmem
    · exact ⟨by omega, hsize, by have := hrest.le; omega⟩
    · have := ih hrest hmem
      omega

/-- A flag stands only on the path it is meant for. -/
structure GifArbiterPacket.WellFlagged (packet : GifArbiterPacket) : Prop where
  directHl : packet.path2DirectHl = true → packet.pathId = .Path2
  image : packet.path3Image = true → packet.pathId = .Path3

/-! ## One tag -/

section Tag

variable {stream : PathStream} {path : GifPathId} {packets : List (Bytes × Bool)} {size : Nat}
  {image direct : Bool}

theorem take_drop_add (data : Bytes) (start middle size : Nat) (h : start ≤ middle) :
    (data.drop start).take (middle + size - start) =
      (data.drop start).take (middle - start) ++ (data.drop middle).take size := by
  have hdrop : data.drop middle = (data.drop start).drop (middle - start) := by
    rw [List.drop_drop]
    congr 1
    omega
  rw [hdrop, show middle + size - start = (middle - start) + size by omega, List.take_add]

/-- A tag in the middle of a packet. -/
theorem view_pastTag (h : stream.Ordered) :
    (stream.pastTag (stream.parseOffset + size) image).view path packets =
      (stream.view path packets).cut size false (path = .Path3 && image) := by
  simp only [PathStream.view, PathStream.pastTag, Assembly.cut, Bool.false_eq_true, if_false,
    take_drop_add _ _ _ size h.start_le, List.drop_drop, Bool.and_or_distrib_left]

/-- The last tag of a packet. -/
theorem view_pastPacket (h : stream.Ordered) :
    ((stream.pastTag (stream.parseOffset + size) image).pastPacket (stream.parseOffset + size)
        direct).view path
      (packets ++ [((stream.pastTag (stream.parseOffset + size) image).completedPacket path
        (stream.parseOffset + size)).slice stream.data]) =
      (stream.view path packets).cut size true (path = .Path3 && image) := by
  simp only [PathStream.view, PathStream.pastTag, PathStream.pastPacket,
    PathStream.completedPacket, GifArbiterPacket.slice, Assembly.cut, if_true,
    take_drop_add _ _ _ size h.start_le, List.drop_drop, Bool.and_or_distrib_left, Nat.sub_self,
    List.take_zero, Bool.and_false]

theorem wellFlagged_completedPacket (offset : Nat) :
    (stream.completedPacket path offset).WellFlagged where
  directHl h := by
    simp only [PathStream.completedPacket, Bool.and_eq_true, decide_eq_true_eq] at h
    exact h.1
  image h := by
    simp only [PathStream.completedPacket, Bool.and_eq_true, decide_eq_true_eq] at h
    exact h.1

end Tag

/-! ## The loop -/

/-- What the loop of `submit` does, from one state of the stream to another. -/
structure Parsed (path : GifPathId) (stream stream' : PathStream) (new : List GifArbiterPacket) :
    Prop where
  data_eq : stream'.data = stream.data
  ordered : stream'.Ordered
  onPath : ∀ packet ∈ new, packet.pathId = path
  flags : ∀ packet ∈ new, packet.WellFlagged
  tiled : Tiled stream.packetStart new stream'.packetStart
  view_eq : ∀ packets, stream'.view path (packets ++ new.map (·.slice stream.data)) =
    scan (gifCutter path) (stream.view path packets)

section Loop

variable {path : GifPathId} {direct image : Bool} {stream stream' : PathStream}
  {queue new : List GifArbiterPacket} {size : Nat} {last tagged : Bool}

/-- The loop stops where no complete tag is left. -/
theorem parse_of_none (hnone : nextTag path (stream.data.drop stream.parseOffset) = none) :
    stream.parse path direct stream.parseOffset queue = (stream, queue) := by
  rw [PathStream.parse]
  split
  · next hlen =>
    split
    · next htag =>
      rw [gifTagSize_eq_none, List.length_drop] at htag
      omega
    · next tagBytes eop image htag =>
      rw [if_pos]
      by_contra hfits
      simp only [nextTag, htag, List.length_drop] at hnone
      rw [if_pos (by omega)] at hnone
      cases hnone
  · rfl

/-- The loop goes on past a complete tag. -/
theorem parse_of_some (htag : gifTagSize (stream.data.drop stream.parseOffset) =
      some (size, last, image)) (hfits : stream.parseOffset + size ≤ stream.data.length) :
    stream.parse path direct stream.parseOffset queue =
      let next := stream.pastTag (stream.parseOffset + size) image
      if last then
        (next.pastPacket next.parseOffset direct).parse path direct next.parseOffset
          (queue ++ [next.completedPacket path next.parseOffset])
      else next.parse path direct next.parseOffset queue := by
  have hsize := gifTagSize_size htag
  rw [PathStream.parse, if_pos (by omega)]
  split
  · next hnone =>
    rw [htag] at hnone
    cases hnone
  · next hsome =>
    rw [htag] at hsome
    cases hsome
    rw [if_neg (by omega)]
    cases last <;> rfl

theorem parsed_of_none (h : stream.Ordered)
    (hnone : nextTag path (stream.data.drop stream.parseOffset) = none) :
    Parsed path stream stream [] where
  data_eq := rfl
  ordered := h
  onPath _ hmem := absurd hmem List.not_mem_nil
  flags _ hmem := absurd hmem List.not_mem_nil
  tiled := rfl
  view_eq packets := by
    have hscan : scan (gifCutter path) (stream.view path packets) = stream.view path packets :=
      scan_of_none hnone
    rw [hscan, List.map_nil, List.append_nil]

/-- A tag in the middle of a packet, then the rest of the loop. -/
theorem Parsed.tag (h : stream.Ordered)
    (hnext : nextTag path (stream.data.drop stream.parseOffset) =
      some (size, false, path = .Path3 && image))
    (hrest : Parsed path (stream.pastTag (stream.parseOffset + size) image) stream' new) :
    Parsed path stream stream' new where
  data_eq := hrest.data_eq
  ordered := hrest.ordered
  onPath := hrest.onPath
  flags := hrest.flags
  tiled := hrest.tiled
  view_eq packets := by
    have hscan : scan (gifCutter path) (stream.view path packets) = _ := scan_of_some hnext
    rw [hscan, ← view_pastTag h]
    exact hrest.view_eq packets

/-- The last tag of a packet, then the rest of the loop. -/
theorem Parsed.packet (h : stream.Ordered) (hpos : 0 < size)
    (hnext : nextTag path (stream.data.drop stream.parseOffset) =
      some (size, true, path = .Path3 && image))
    (hrest : Parsed path ((stream.pastTag (stream.parseOffset + size) image).pastPacket
      (stream.parseOffset + size) direct) stream' new) :
    Parsed path stream stream'
      ((stream.pastTag (stream.parseOffset + size) image).completedPacket path
        (stream.parseOffset + size) :: new) where
  data_eq := hrest.data_eq
  ordered := hrest.ordered
  onPath packet hmem := by
    rcases List.mem_cons.mp hmem with rfl | hmem
    · rfl
    · exact hrest.onPath packet hmem
  flags packet hmem := by
    rcases List.mem_cons.mp hmem with rfl | hmem
    · exact wellFlagged_completedPacket _
    · exact hrest.flags packet hmem
  tiled := by
    have hstart := h.start_le
    have hstop : stream.packetStart + (stream.parseOffset + size - stream.packetStart) =
        stream.parseOffset + size := by omega
    refine ⟨rfl, ?_, ?_⟩
    · simp only [PathStream.completedPacket, PathStream.pastTag]
      omega
    · simp only [PathStream.completedPacket, PathStream.pastTag, hstop]
      exact hrest.tiled
  view_eq packets := by
    have hscan : scan (gifCutter path) (stream.view path packets) = _ := scan_of_some hnext
    have hview := @view_pastPacket stream path packets size image direct h
    rw [hscan, ← hview, List.map_cons, List.append_cons]
    exact hrest.view_eq _

end Loop

/-- **The loop of `submit` is a scan.** -/
theorem parse_spec (path : GifPathId) (direct : Bool) (stream : PathStream)
    (queue : List GifArbiterPacket) (h : stream.Ordered) :
    ∃ new, (stream.parse path direct stream.parseOffset queue).2 = queue ++ new ∧
      Parsed path stream (stream.parse path direct stream.parseOffset queue).1 new := by
  -- the loop comes closer to the end of the buffer
  induction hleft : stream.data.length - stream.parseOffset using Nat.strong_induction_on
    generalizing stream queue with
  | _ left ih =>
  rcases hnext : nextTag path (stream.data.drop stream.parseOffset) with _ | ⟨size, last, tagged⟩
  · rw [parse_of_none hnext]
    exact ⟨[], (List.append_nil _).symm, parsed_of_none h hnext⟩
  obtain ⟨image, htag, hle, rfl⟩ := nextTag_eq_some.mp hnext
  have hsize := gifTagSize_size htag
  rw [List.length_drop] at hle
  have hstart := h.start_le
  rw [parse_of_some htag (by omega)]
  cases last with
  | false =>
    obtain ⟨new, hqueue, hparsed⟩ := ih (stream.data.length - (stream.parseOffset + size)) (by omega)
      (stream.pastTag (stream.parseOffset + size) image) queue
      ⟨by simp only [PathStream.pastTag]; omega, by simp only [PathStream.pastTag]; omega⟩ rfl
    exact ⟨new, hqueue, hparsed.tag h hnext⟩
  | true =>
    obtain ⟨new, hqueue, hparsed⟩ := ih (stream.data.length - (stream.parseOffset + size)) (by omega)
      ((stream.pastTag (stream.parseOffset + size) image).pastPacket (stream.parseOffset + size)
        direct)
      (queue ++ [(stream.pastTag (stream.parseOffset + size) image).completedPacket path
        (stream.parseOffset + size)])
      ⟨by simp only [PathStream.pastPacket, PathStream.pastTag]; omega,
        by simp only [PathStream.pastPacket, PathStream.pastTag]; omega⟩ rfl
    exact ⟨_, hqueue.trans (List.append_assoc _ _ _), hparsed.packet h (by omega) hnext⟩

end Ps2Recomp
