import Ps2Recomp.Lib.ByteCodec
import Mathlib.Logic.Function.Basic
import Ps2Recomp.Lib.FiniteIndices

/-!
# The GIF arbiter

Model of `GifArbiter` (`ps2_gif_arbiter.cpp`, `ps2_gif_arbiter.h`): each path collects its bytes and
cuts them into packets, and a drain batch takes the complete packets of all paths in the order they
are to be processed.

* `m_pathStreams`, `m_recycledStorage` and a batch's `storage` are functions from `Fin 4`; index 0
  belongs to no path.
* A vector is the list of its elements. Where the source compares capacities, the answer is a
  parameter of the model (`larger`), so every allocator is covered.
* `std::stable_sort` is a parameter, `stableSort`.
* Offsets are natural numbers. `parseOffset -= consumed` does not go below zero: that is part of
  what is proved.

The callbacks, `drain`, which calls them on a batch and recycles it, `reset` and the recycled packet
vector, which only saves an allocation, are left out.
-/

namespace Ps2Recomp

open ByteCodec (Bytes ofBytes)

/-! ## Types -/

inductive GifPathId where
  | Path1
  | Path2
  | Path3
  deriving DecidableEq, Repr

/-- `static_cast<size_t>(pathId)`. -/
def GifPathId.index : GifPathId → Fin 4
  | .Path1 => 1
  | .Path2 => 2
  | .Path3 => 3

structure GifArbiterPacket where
  pathId : GifPathId
  path2DirectHl : Bool := false
  path3Image : Bool := false
  offset : Nat := 0
  size : Nat := 0
  deriving DecidableEq, Repr

structure GifArbiterDrainBatch.Packet where
  pathId : GifPathId := .Path3
  path2DirectHl : Bool := false
  path3Image : Bool := false
  storageIndex : Fin 4 := 0
  offset : Nat := 0
  size : Nat := 0
  deriving DecidableEq, Repr

structure GifArbiterDrainBatch where
  storage : Fin 4 → Bytes := fun _ => []
  packets : List GifArbiterDrainBatch.Packet := []

def GifArbiterDrainBatch.packetBytes (batch : GifArbiterDrainBatch)
    (packet : GifArbiterDrainBatch.Packet) : Bytes :=
  let bytes := batch.storage packet.storageIndex
  if packet.offset > bytes.length ∨ packet.size > bytes.length - packet.offset then []
  else (bytes.drop packet.offset).take packet.size

structure PathStream where
  data : Bytes := []
  packetStart : Nat := 0
  parseOffset : Nat := 0
  path2DirectHl : Bool := false
  packetContainsImage : Bool := false
  deriving DecidableEq, Repr

structure GifArbiter where
  queue : List GifArbiterPacket := []
  pathStreams : Fin 4 → PathStream := fun _ => {}
  recycledStorage : Fin 4 → Bytes := fun _ => []
  path1Reservations : List Nat := []
  nextPath1ReservationToken : Nat := 1

/-! ## Tags -/

def kMaxBufferedGifPathBytes : Nat := 64 * 1024 * 1024

/-- `payloadBytes` of `gifTagSize`. `& ~15` is rounding down to a multiple of 16. -/
def gifPayloadBytes (tagLo : Nat) : Nat :=
  let nloop := tagLo &&& 0x7FFF
  let flg := (tagLo >>> 58) &&& 0x3
  let nreg := if (tagLo >>> 60) &&& 0xF = 0 then 16 else (tagLo >>> 60) &&& 0xF
  if flg = 0 then nloop * nreg * 16
  else if flg = 1 then (nloop * nreg * 8 + 15) / 16 * 16
  else nloop * 16

/-- What `gifTagSize` says of a tag, from its low 64 bits: the size of the tag with its data, EOP,
and whether it is an image. -/
def gifTagOf (tagLo : Nat) : Option (Nat × Bool × Bool) :=
  let flg := (tagLo >>> 58) &&& 0x3
  let totalBytes := 16 + gifPayloadBytes tagLo
  if totalBytes > kMaxBufferedGifPathBytes then none
  else some (totalBytes, (tagLo >>> 15) &&& 1 ≠ 0, flg = 2 || flg = 3)

/-- `gifTagSize`; `data` is what is available. -/
def gifTagSize (data : Bytes) : Option (Nat × Bool × Bool) :=
  if data.length < 16 then none else gifTagOf (ofBytes (data.take 8))

/-! ## Collecting packets -/

/-- The lambda of `submit`: forget the packet under way. -/
def PathStream.dropIncompletePacket (stream : PathStream) : PathStream :=
  { data := stream.data.take stream.packetStart
    packetStart := stream.packetStart
    parseOffset := stream.packetStart
    path2DirectHl := false
    packetContainsImage := false }

/-- The packet that ends at `offset`. -/
def PathStream.completedPacket (stream : PathStream) (pathId : GifPathId) (offset : Nat) :
    GifArbiterPacket where
  pathId := pathId
  path2DirectHl := pathId = .Path2 && stream.path2DirectHl
  path3Image := pathId = .Path3 && stream.packetContainsImage
  offset := stream.packetStart
  size := offset - stream.packetStart

/-- The stream after the tag up to `offset`, which is an image or not. -/
def PathStream.pastTag (stream : PathStream) (offset : Nat) (image : Bool) : PathStream :=
  { stream with
    packetContainsImage := stream.packetContainsImage || image
    parseOffset := offset }

/-- The stream after the packet that ends at `offset`. -/
def PathStream.pastPacket (stream : PathStream) (offset : Nat) (path2DirectHl : Bool) :
    PathStream :=
  { stream with
    packetStart := offset
    packetContainsImage := false
    path2DirectHl := if offset < stream.data.length then path2DirectHl else false }

theorem gifTagOf_size {tagLo size : Nat} {eop image : Bool}
    (h : gifTagOf tagLo = some (size, eop, image)) : 16 ≤ size := by
  simp only [gifTagOf] at h
  split at h
  · cases h
  · cases h
    omega

theorem gifTagSize_size {data : Bytes} {size : Nat} {eop image : Bool}
    (h : gifTagSize data = some (size, eop, image)) : 16 ≤ size := by
  unfold gifTagSize at h
  split at h
  · cases h
  · exact gifTagOf_size h

/-- The loop of `submit`, with the packets it queues. -/
def PathStream.parse (stream : PathStream) (pathId : GifPathId) (path2DirectHl : Bool)
    (offset : Nat) (queue : List GifArbiterPacket) : PathStream × List GifArbiterPacket :=
  if offset + 16 ≤ stream.data.length then
    match _h : gifTagSize (stream.data.drop offset) with
    | none => (stream.dropIncompletePacket, queue)
    | some (tagBytes, eop, image) =>
      if tagBytes > stream.data.length - offset then (stream, queue)
      else
        let next := stream.pastTag (offset + tagBytes) image
        if !eop then next.parse pathId path2DirectHl (offset + tagBytes) queue
        else
          (next.pastPacket (offset + tagBytes) path2DirectHl).parse pathId path2DirectHl
            (offset + tagBytes) (queue ++ [next.completedPacket pathId (offset + tagBytes)])
  else (stream, queue)
termination_by stream.data.length - offset
decreasing_by
  all_goals
    have hsize := gifTagSize_size _h
    simp only [PathStream.pastPacket, PathStream.pastTag]
    omega

/-- `submit`. `larger` says whether the recycled vector has the larger capacity. -/
def GifArbiter.submit (s : GifArbiter) (pathId : GifPathId) (data : Bytes) (path2DirectHl : Bool)
    (larger : Bool) : GifArbiter :=
  if data = [] then s
  else
    let pathIndex := pathId.index
    let old := s.pathStreams pathIndex
    let swap := old.data.isEmpty && larger
    let stream := if swap then { old with data := [] } else old
    let recycledStorage :=
      if swap then Function.update s.recycledStorage pathIndex old.data else s.recycledStorage
    let stream :=
      { stream with
        path2DirectHl :=
          if stream.packetStart = stream.data.length then path2DirectHl
          else stream.path2DirectHl || path2DirectHl }
    if data.length > kMaxBufferedGifPathBytes ∨
        stream.data.length > kMaxBufferedGifPathBytes - data.length then
      { s with
        pathStreams := Function.update s.pathStreams pathIndex stream.dropIncompletePacket
        recycledStorage := recycledStorage }
    else
      let stream := { stream with data := stream.data ++ data }
      let parsed := stream.parse pathId path2DirectHl stream.parseOffset s.queue
      { s with
        queue := parsed.2
        pathStreams := Function.update s.pathStreams pathIndex parsed.1
        recycledStorage := recycledStorage }

/-! ## Reservations -/

/-- `reservePath1`; `none` where it throws. -/
def GifArbiter.reservePath1 (s : GifArbiter) : Option (Nat × GifArbiter) :=
  if s.nextPath1ReservationToken = 0 ∨ s.nextPath1ReservationToken = 2 ^ 64 - 1 then none
  else
    some (s.nextPath1ReservationToken,
      { s with
        path1Reservations := s.path1Reservations ++ [s.nextPath1ReservationToken]
        nextPath1ReservationToken := s.nextPath1ReservationToken + 1 })

def GifArbiter.releasePath1 (s : GifArbiter) (token : Nat) : Bool × GifArbiter :=
  if token = 0 ∨ token ∉ s.path1Reservations then (false, s)
  else (true, { s with path1Reservations := s.path1Reservations.erase token })

/-! ## Drain batches -/

def pathPriority (id : GifPathId) : Nat := id.index.val

/-- The comparator that `takeDrainBatch` hands to `std::stable_sort`. -/
def drainsBefore (a b : GifArbiterPacket) : Bool :=
  if (a.path2DirectHl ≠ b.path2DirectHl ∨ a.path3Image ≠ b.path3Image) ∧
      a.path3Image ∧ b.path2DirectHl then true
  else if (a.path2DirectHl ≠ b.path2DirectHl ∨ a.path3Image ≠ b.path3Image) ∧
      a.path2DirectHl ∧ b.path3Image then false
  else decide (pathPriority a.pathId < pathPriority b.pathId)

/-- `consumedByPath[pathIndex]`. -/
def consumedByPath (queue : List GifArbiterPacket) (pathIndex : Fin 4) : Nat :=
  queue.foldl (fun consumed packet =>
    if packet.pathId.index = pathIndex then max consumed (packet.offset + packet.size)
    else consumed) 0

/-- The prefix of a stream that goes into the batch. -/
def PathStream.takenStorage (stream : PathStream) (consumed : Nat) : Bytes :=
  if consumed = 0 ∨ consumed > stream.data.length then []
  else if consumed = stream.data.length then stream.data
  else stream.data.take consumed

/-- The stream that stays behind. -/
def PathStream.rebase (stream : PathStream) (consumed : Nat) : PathStream :=
  if consumed = 0 ∨ consumed > stream.data.length then stream
  else
    let data := if consumed = stream.data.length then [] else stream.data.drop consumed
    { data := data
      packetStart := 0
      parseOffset := stream.parseOffset - consumed
      path2DirectHl := if data.isEmpty then false else stream.path2DirectHl
      packetContainsImage := if data.isEmpty then false else stream.packetContainsImage }

/-- The packet of the batch for a packet of the queue, unless it does not lie in the storage. -/
def ownedPacket (storage : Fin 4 → Bytes) (packet : GifArbiterPacket) :
    Option GifArbiterDrainBatch.Packet :=
  let pathIndex := packet.pathId.index
  if packet.size ≠ 0 ∧ packet.offset ≤ (storage pathIndex).length ∧
      packet.size ≤ (storage pathIndex).length - packet.offset then
    some
      { pathId := packet.pathId
        path2DirectHl := packet.path2DirectHl
        path3Image := packet.path3Image
        storageIndex := pathIndex
        offset := packet.offset
        size := packet.size }
  else none

variable (stableSort : (GifArbiterPacket → GifArbiterPacket → Bool) → List GifArbiterPacket →
  List GifArbiterPacket)

def GifArbiter.takeDrainBatch (s : GifArbiter) : GifArbiterDrainBatch × GifArbiter :=
  if s.queue = [] ∨ s.path1Reservations ≠ [] then ({}, s)
  else
    let queue := stableSort drainsBefore s.queue
    let storage := fun i => (s.pathStreams i).takenStorage (consumedByPath queue i)
    ({ storage := storage
       packets := queue.filterMap (ownedPacket storage) },
      { s with
        queue := []
        pathStreams := fun i => (s.pathStreams i).rebase (consumedByPath queue i) })

/-- `recycleDrainBatch`. `larger` says for each index whether the returned vector has a larger
capacity than the stream's, and than the recycled one's. -/
def GifArbiter.recycleDrainBatch (s : GifArbiter) (batch : GifArbiterDrainBatch)
    (larger : Fin 4 → Bool × Bool) : GifArbiter :=
  let returned := fun i => (batch.storage i).take 0
  let toStream := fun i =>
    (s.pathStreams i).data.isEmpty && (s.pathStreams i).packetStart = 0 &&
      (s.pathStreams i).parseOffset = 0 && (larger i).1
  { s with
    pathStreams := fun i =>
      if toStream i then { s.pathStreams i with data := returned i } else s.pathStreams i
    recycledStorage := fun i =>
      if !toStream i && (larger i).2 then returned i else s.recycledStorage i }

end Ps2Recomp
