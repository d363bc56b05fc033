import Ps2Recomp.Gif.Order
import Ps2Recomp.Lib.Machine

/-!
# GIF arbiter: runs

Any sequence of submissions on any path, drains, recycled batches and reservations
(`GifAction`), with a record of what was submitted on each path and what the drains delivered.

Two things are wanted of every drain: the order of `DrainOrder` (`takeDrainBatch_ordered_iff`), and
that the packets of a path come out as if its stream had been submitted at once
(`assembly_independent`). Both hold as long as the queues that are drained are unmixed, and the
first does not hold otherwise: where the comparator is not a strict weak ordering a stable sort owes
nothing.
-/

namespace Ps2Recomp

open ByteCodec (Bytes)
open StreamAssembly
open StableSort (StableSorter StrictWeakOn IsStableSort)

/-! ## Submissions -/

/-- The stream that the loop of `submit` starts from. -/
def PathStream.received (stream : PathStream) (data : Bytes) (path2DirectHl : Bool) : PathStream :=
  { stream with
    data := stream.data ++ data
    path2DirectHl :=
      if stream.packetStart = stream.data.length then path2DirectHl
      else stream.path2DirectHl || path2DirectHl }

/-- The submission fits in the buffer. -/
def PathStream.Fits (stream : PathStream) (data : Bytes) : Prop :=
  stream.data.length + data.length ≤ kMaxBufferedGifPathBytes

instance (stream : PathStream) (data : Bytes) : Decidable (stream.Fits data) :=
  inferInstanceAs (Decidable (_ ≤ _))

variable {s : GifArbiter} {path : GifPathId} {data : Bytes} {direct larger : Bool}

/-- Swapping in the recycled vector does not change an empty stream. -/
theorem swap_eq (stream : PathStream) (larger : Bool) :
    (if stream.data.isEmpty && larger then { stream with data := [] } else stream) = stream := by
  split
  · next h =>
    rw [Bool.and_eq_true, List.isEmpty_iff] at h
    rw [← h.1]
  · rfl

theorem submit_of_fits (hdata : data ≠ []) (hfits : (s.pathStreams path.index).Fits data) :
    ∃ recycled, s.submit path data direct larger =
      { s with
        queue := (((s.pathStreams path.index).received data direct).parse path direct
          (s.pathStreams path.index).parseOffset s.queue).2
        pathStreams := Function.update s.pathStreams path.index
          (((s.pathStreams path.index).received data direct).parse path direct
            (s.pathStreams path.index).parseOffset s.queue).1
        recycledStorage := recycled } := by
  unfold PathStream.Fits at hfits
  unfold GifArbiter.submit
  simp only [if_neg hdata, swap_eq]
  rw [if_neg (by omega)]
  exact ⟨_, rfl⟩

theorem submit_of_overflow (hdata : data ≠ []) (hfits : ¬ (s.pathStreams path.index).Fits data) :
    ∃ recycled direct', s.submit path data direct larger =
      { s with
        pathStreams := Function.update s.pathStreams path.index
          { s.pathStreams path.index with path2DirectHl := direct' }.dropIncompletePacket
        recycledStorage := recycled } := by
  unfold PathStream.Fits at hfits
  unfold GifArbiter.submit
  simp only [if_neg hdata, swap_eq]
  rw [if_pos (by omega)]
  exact ⟨_, _, rfl⟩

/-! ## The state of the arbiter -/

/-- The queue and the streams fit together: the queued packets of a path are its buffer up to
`packetStart`. -/
structure GifArbiter.Wf (s : GifArbiter) : Prop where
  ordered : ∀ i, (s.pathStreams i).Ordered
  tiled : ∀ path, Tiled 0 (s.queue.filter (·.pathId = path))
    (s.pathStreams (GifPathId.index path)).packetStart
  flags : ∀ packet ∈ s.queue, packet.WellFlagged

theorem wf_new : ({} : GifArbiter).Wf where
  ordered _ := ⟨le_refl _, le_refl _⟩
  tiled _ := rfl
  flags _ h := absurd h List.not_mem_nil

theorem index_injective : Function.Injective GifPathId.index := by
  intro path path' h
  cases path <;> cases path' <;> first | rfl | exact absurd h (by decide)

/-- Index 0 is the only one without a path. -/
theorem index_cases : ∀ i : Fin 4, i = 0 ∨ ∃ path : GifPathId, i = path.index
  | 0 => Or.inl rfl
  | 1 => Or.inr ⟨.Path1, rfl⟩
  | 2 => Or.inr ⟨.Path2, rfl⟩
  | 3 => Or.inr ⟨.Path3, rfl⟩

theorem filter_append_onPath {queue new : List GifArbiterPacket} (path' : GifPathId)
    (h : ∀ packet ∈ new, packet.pathId = path) :
    (queue ++ new).filter (·.pathId = path') =
      queue.filter (·.pathId = path') ++ if path' = path then new else [] := by
  rw [List.filter_append]
  congr 1
  split
  · next heq =>
    exact List.filter_eq_self.mpr fun packet hmem => decide_eq_true ((h packet hmem).trans heq.symm)
  · next hne =>
    exact List.filter_eq_nil_iff.mpr fun packet hmem hp =>
      hne ((of_decide_eq_true hp).symm.trans (h packet hmem))

/-- What a submission that fits does: its path's stream is parsed on, the other streams stay. -/
theorem GifArbiter.Wf.submit_cases (h : s.Wf) (hdata : data ≠ [])
    (hfits : (s.pathStreams path.index).Fits data) :
    ∃ new stream', Parsed path ((s.pathStreams path.index).received data direct) stream' new ∧
      (s.submit path data direct larger).queue = s.queue ++ new ∧
      (s.submit path data direct larger).pathStreams =
        Function.update s.pathStreams path.index stream' := by
  obtain ⟨recycled, heq⟩ := submit_of_fits hdata hfits
  have hordered : ((s.pathStreams path.index).received data direct).Ordered :=
    ⟨(h.ordered _).start_le, by
      have := (h.ordered path.index).parse_le
      simp only [PathStream.received, List.length_append]
      omega⟩
  obtain ⟨new, hqueue, hparsed⟩ := parse_spec path direct _ s.queue hordered
  rw [heq]
  exact ⟨new, _, hparsed, hqueue, rfl⟩

theorem GifArbiter.Wf.submit_fits (h : s.Wf) (hdata : data ≠ [])
    (hfits : (s.pathStreams path.index).Fits data) : (s.submit path data direct larger).Wf := by
  obtain ⟨new, stream', hparsed, hqueue, hstreams⟩ := h.submit_cases hdata hfits
  refine ⟨fun i => ?_, fun path' => ?_, fun packet hmem => ?_⟩
  · rw [hstreams, Function.update_apply]
    split
    · exact hparsed.ordered
    · exact h.ordered i
  · rw [hstreams, hqueue, filter_append_onPath path' hparsed.onPath]
    by_cases heq : path' = path
    · subst heq
      rw [Function.update_self, if_pos rfl]
      exact (h.tiled path').append hparsed.tiled
    · rw [Function.update_of_ne (index_injective.ne heq), if_neg heq, List.append_nil]
      exact h.tiled path'
  · rw [hqueue] at hmem
    rcases List.mem_append.mp hmem with hmem | hmem
    · exact h.flags packet hmem
    · exact hparsed.flags packet hmem

theorem GifArbiter.Wf.submit (h : s.Wf) : (s.submit path data direct larger).Wf := by
  by_cases hdata : data = []
  · simp only [GifArbiter.submit, if_pos hdata]
    exact h
  by_cases hfits : (s.pathStreams path.index).Fits data
  · exact h.submit_fits hdata hfits
  obtain ⟨recycled, direct', heq⟩ := submit_of_overflow hdata hfits
  rw [heq]
  have hpath := h.ordered path.index
  refine ⟨fun i => ?_, fun path' => ?_, h.flags⟩
  · simp only [Function.update_apply]
    split
    · refine ⟨le_refl _, ?_⟩
      simp only [PathStream.dropIncompletePacket, List.length_take]
      exact le_min (le_refl _) (hpath.start_le.trans hpath.parse_le)
    · exact h.ordered i
  · by_cases heq : path' = path
    · subst heq
      simp only [Function.update_self]
      exact h.tiled path'
    · simp only [Function.update_of_ne (index_injective.ne heq)]
      exact h.tiled path'

/-! ## Drains -/

variable {stream : PathStream} {queue : List GifArbiterPacket}

theorem Tiled.foldl_max {start stop : Nat} (h : Tiled start queue stop) :
    queue.foldl (fun consumed packet => max consumed (packet.offset + packet.size)) start =
      stop := by
  induction queue generalizing start with
  | nil => exact h
  | cons packet rest ih =>
    obtain ⟨hoffset, -, hrest⟩ := h
    rw [List.foldl_cons, hoffset, max_eq_right (Nat.le_add_right _ _)]
    exact ih hrest

theorem consumedByPath_index {stop : Nat}
    (h : Tiled 0 (queue.filter (·.pathId = path)) stop) :
    consumedByPath queue path.index = stop := by
  rw [← h.foldl_max, List.foldl_filter]
  unfold consumedByPath
  congr 1
  funext consumed packet
  simp only [index_injective.eq_iff, decide_eq_true_eq]

theorem consumedByPath_zero (queue : List GifArbiterPacket) : consumedByPath queue 0 = 0 := by
  unfold consumedByPath
  induction queue with
  | nil => rfl
  | cons packet rest ih =>
    have hne : packet.pathId.index ≠ 0 := by cases packet.pathId <;> decide
    rw [List.foldl_cons, if_neg hne, ih]

theorem takenStorage_start (h : stream.Ordered) :
    stream.takenStorage stream.packetStart = stream.data.take stream.packetStart := by
  have hle := h.start_le.trans h.parse_le
  unfold PathStream.takenStorage
  split
  · next hc =>
    rw [hc.resolve_right (not_lt.mpr hle), List.take_zero]
  · split
    · next hall => rw [hall, List.take_length]
    · rfl

theorem rebase_zero : stream.rebase 0 = stream := by
  rw [PathStream.rebase, if_pos (Or.inl rfl)]

theorem rebase_start (h : stream.Ordered) :
    (stream.rebase stream.packetStart).data = stream.data.drop stream.packetStart ∧
      (stream.rebase stream.packetStart).packetStart = 0 ∧
      (stream.rebase stream.packetStart).parseOffset =
        stream.parseOffset - stream.packetStart ∧
      (stream.data.drop stream.packetStart ≠ [] →
        (stream.rebase stream.packetStart).packetContainsImage = stream.packetContainsImage) ∧
      (stream.data.drop stream.packetStart = [] →
        (stream.rebase stream.packetStart).packetContainsImage = true →
          stream.packetContainsImage = true) := by
  have hle := h.start_le.trans h.parse_le
  unfold PathStream.rebase
  split
  · next hc =>
    have hzero := hc.resolve_right (not_lt.mpr hle)
    exact ⟨by rw [hzero, List.drop_zero], hzero, by omega, fun _ => rfl, fun _ => id⟩
  · have hdata : (if stream.packetStart = stream.data.length then []
        else stream.data.drop stream.packetStart) = stream.data.drop stream.packetStart := by
      split
      · next hall => rw [hall, List.drop_length]
      · rfl
    simp only [hdata]
    refine ⟨trivial, trivial, trivial, fun hne => ?_, fun hnil => ?_⟩
    · rw [if_neg (by simpa using hne)]
    · rw [if_pos (by simpa using hnil)]
      exact fun h => absurd h Bool.false_ne_true

theorem ordered_rebase (h : stream.Ordered) : (stream.rebase stream.packetStart).Ordered := by
  obtain ⟨hdata, hstart, hparse, -, -⟩ := rebase_start h
  have hle := h.start_le
  have hle' := h.parse_le
  refine ⟨by omega, ?_⟩
  rw [hdata, hparse, List.length_drop]
  omega

/-- Rebasing the buffer does not change the assembly. -/
theorem view_rebase {packets packets' : List (Bytes × Bool)} (h : stream.Ordered)
    (hclean : (stream.view path packets').Clean) :
    (stream.rebase stream.packetStart).view path packets = stream.view path packets := by
  obtain ⟨hdata, hstart, hparse, hkeep, hdrop⟩ := rebase_start h
  have htag : (path = .Path3 && (stream.rebase stream.packetStart).packetContainsImage) =
      (path = .Path3 && stream.packetContainsImage : Bool) := by
    by_cases hnil : stream.data.drop stream.packetStart = []
    · have hfalse : (path = .Path3 && stream.packetContainsImage : Bool) = false := by
        apply hclean
        simp only [PathStream.view, hnil, List.take_nil]
      rw [hfalse, ← Bool.not_eq_true]
      intro htrue
      rw [Bool.and_eq_true] at htrue
      rw [htrue.1, hdrop hnil htrue.2] at hfalse
      cases hfalse
    · rw [hkeep hnil]
  have hle := h.start_le
  have hparse' : stream.packetStart + (stream.parseOffset - stream.packetStart) =
      stream.parseOffset := by omega
  simp only [PathStream.view, hdata, hstart, hparse, Nat.sub_zero, htag, List.drop_drop, hparse',
    Nat.add_zero]

/-! ### The batch -/

/-- The packet of the batch for a packet of the queue. -/
def GifArbiterPacket.owned (packet : GifArbiterPacket) : GifArbiterDrainBatch.Packet where
  pathId := packet.pathId
  path2DirectHl := packet.path2DirectHl
  path3Image := packet.path3Image
  storageIndex := packet.pathId.index
  offset := packet.offset
  size := packet.size

def GifArbiterDrainBatch.Packet.queued (packet : GifArbiterDrainBatch.Packet) :
    GifArbiterPacket where
  pathId := packet.pathId
  path2DirectHl := packet.path2DirectHl
  path3Image := packet.path3Image
  offset := packet.offset
  size := packet.size

theorem map_queued_owned (queue : List GifArbiterPacket) :
    (queue.map (·.owned)).map (·.queued) = queue := by
  rw [List.map_map]
  exact List.map_id' queue

variable {sort : (GifArbiterPacket → GifArbiterPacket → Bool) → List GifArbiterPacket →
  List GifArbiterPacket}

/-- What a drain of a nonempty queue does, if the sort keeps the packets of each path in order. -/
structure Drained (s : GifArbiter) (out : List GifArbiterPacket)
    (result : GifArbiterDrainBatch × GifArbiter) : Prop where
  storage : ∀ path : GifPathId, result.1.storage path.index =
    (s.pathStreams path.index).data.take (s.pathStreams path.index).packetStart
  packets : result.1.packets = out.map (·.owned)
  queue : result.2.queue = []
  streams : ∀ path : GifPathId, result.2.pathStreams path.index =
    (s.pathStreams path.index).rebase (s.pathStreams path.index).packetStart
  unused : result.2.pathStreams 0 = s.pathStreams 0

/-- The slice of a queued packet lies in what the drain takes. -/
theorem GifArbiter.Wf.packet_fits (h : s.Wf) {packet : GifArbiterPacket} (hmem : packet ∈ s.queue) :
    0 < packet.size ∧ packet.offset + packet.size ≤
      (s.pathStreams packet.pathId.index).packetStart := by
  have hmem' : packet ∈ s.queue.filter (·.pathId = packet.pathId) :=
    List.mem_filter.mpr ⟨hmem, decide_eq_true rfl⟩
  exact ((h.tiled packet.pathId).mem_le hmem').2

theorem GifArbiter.Wf.drained (h : s.Wf) (hqueue : s.queue ≠ []) (hres : s.path1Reservations = [])
    (hsort : IsStableSort drainsBefore s.queue (sort drainsBefore s.queue)) :
    Drained s (sort drainsBefore s.queue) (s.takeDrainBatch sort) := by
  have hsame := (drainOrder_of_stable h.flags hsort).samePath
  have hconsumed : ∀ path : GifPathId, consumedByPath (sort drainsBefore s.queue) path.index =
      (s.pathStreams path.index).packetStart := fun path =>
    consumedByPath_index (by rw [hsame path]; exact h.tiled path)
  have hstorage : ∀ path : GifPathId, (s.pathStreams path.index).takenStorage
      (consumedByPath (sort drainsBefore s.queue) path.index) =
      (s.pathStreams path.index).data.take (s.pathStreams path.index).packetStart := fun path => by
    rw [hconsumed, takenStorage_start (h.ordered _)]
  rw [GifArbiter.takeDrainBatch, if_neg (by simp [hqueue, hres])]
  refine ⟨hstorage, ?_, rfl, fun path => by simp only [hconsumed], ?_⟩
  · rw [← List.filterMap_eq_map]
    refine List.filterMap_congr fun packet hmem => ?_
    obtain ⟨hpos, hle⟩ := h.packet_fits (hsort.perm.mem_iff.mp hmem)
    have hbound := (h.ordered packet.pathId.index).start_le.trans
      (h.ordered packet.pathId.index).parse_le
    simp only [ownedPacket, hstorage]
    rw [if_pos]
    · rfl
    · rw [List.length_take]
      omega
  · simp only [consumedByPath_zero, rebase_zero]

theorem Drained.wf {out : List GifArbiterPacket} {result : GifArbiterDrainBatch × GifArbiter}
    (h : s.Wf) (hd : Drained s out result) : result.2.Wf where
  ordered i := by
    rcases index_cases i with rfl | ⟨path, rfl⟩
    · rw [hd.unused]
      exact h.ordered 0
    · rw [hd.streams]
      exact ordered_rebase (h.ordered _)
  tiled path := by
    rw [hd.queue, hd.streams, (rebase_start (h.ordered _)).2.1]
    rfl
  flags _ hmem := by
    rw [hd.queue] at hmem
    exact absurd hmem List.not_mem_nil

/-- Without packets or with a reservation a drain does nothing. -/
theorem takeDrainBatch_idle (h : s.queue = [] ∨ s.path1Reservations ≠ []) :
    s.takeDrainBatch sort = ({}, s) := by
  rw [GifArbiter.takeDrainBatch, if_pos h]

theorem recycleDrainBatch_streams (batch : GifArbiterDrainBatch)
    (larger : Fin 4 → Bool × Bool) :
    (s.recycleDrainBatch batch larger).pathStreams = s.pathStreams ∧
      (s.recycleDrainBatch batch larger).queue = s.queue := by
  refine ⟨?_, rfl⟩
  funext i
  simp only [GifArbiter.recycleDrainBatch, List.take_zero]
  split
  · next hto =>
    simp only [Bool.and_eq_true, List.isEmpty_iff] at hto
    rw [← hto.1.1.1]
  · rfl

/-! ## Runs -/

inductive GifAction where
  | submit (path : GifPathId) (data : Bytes) (path2DirectHl larger : Bool)
  | takeDrainBatch
  | recycleDrainBatch (batch : GifArbiterDrainBatch) (larger : Fin 4 → Bool × Bool)
  | reservePath1
  | releasePath1 (token : Nat)

structure DeliveredPacket where
  pathId : GifPathId
  bytes : Bytes
  path3Image : Bool
  deriving DecidableEq

def GifArbiterDrainBatch.delivered (batch : GifArbiterDrainBatch) : List DeliveredPacket :=
  batch.packets.map fun packet => ⟨packet.pathId, batch.packetBytes packet, packet.path3Image⟩

/-- The arbiter, what was submitted on each path, and what was delivered. -/
structure GifRun where
  arbiter : GifArbiter := {}
  submitted : GifPathId → Bytes := fun _ => []
  delivered : List DeliveredPacket := []

variable (sort) in
def GifRun.step (w : GifRun) : GifAction → GifRun
  | .submit path data direct larger =>
    { w with
      arbiter := w.arbiter.submit path data direct larger
      submitted := Function.update w.submitted path (w.submitted path ++ data) }
  | .takeDrainBatch =>
    let (batch, arbiter) := w.arbiter.takeDrainBatch sort
    { w with arbiter := arbiter, delivered := w.delivered ++ batch.delivered }
  | .recycleDrainBatch batch larger =>
    { w with arbiter := w.arbiter.recycleDrainBatch batch larger }
  | .reservePath1 => { w with arbiter := (w.arbiter.reservePath1.map Prod.snd).getD w.arbiter }
  | .releasePath1 token => { w with arbiter := (w.arbiter.releasePath1 token).2 }

/-- The packets of a path that were delivered. -/
def GifRun.deliveredOn (w : GifRun) (path : GifPathId) : List (Bytes × Bool) :=
  (w.delivered.filter (·.pathId = path)).map fun packet => (packet.bytes, packet.path3Image)

/-- The packets of a path that wait in the queue. -/
def GifArbiter.queuedOn (s : GifArbiter) (path : GifPathId) : List (Bytes × Bool) :=
  (s.queue.filter (·.pathId = path)).map (·.slice (s.pathStreams path.index).data)

/-- A drain finds an unmixed queue. -/
def DrainsUnmixed (w : GifRun) : GifAction → Prop
  | .takeDrainBatch => w.arbiter.path1Reservations = [] → Unmixed w.arbiter.queue
  | _ => True

/-- A submission is not empty and fits in its buffer. -/
def SubmitsFit (w : GifRun) : GifAction → Prop
  | .submit path data _ _ => data ≠ [] ∧ (w.arbiter.pathStreams path.index).Fits data
  | _ => True

instance (w : GifRun) (action : GifAction) : Decidable (DrainsUnmixed w action) := by
  cases action <;> unfold DrainsUnmixed <;> infer_instance

instance (w : GifRun) (action : GifAction) : Decidable (SubmitsFit w action) := by
  cases action <;> unfold SubmitsFit <;> infer_instance

theorem reservePath1_frame :
    ((s.reservePath1.map Prod.snd).getD s).queue = s.queue ∧
      ((s.reservePath1.map Prod.snd).getD s).pathStreams = s.pathStreams := by
  unfold GifArbiter.reservePath1
  split <;> exact ⟨rfl, rfl⟩

theorem releasePath1_frame (token : Nat) :
    (s.releasePath1 token).2.queue = s.queue ∧
      (s.releasePath1 token).2.pathStreams = s.pathStreams := by
  unfold GifArbiter.releasePath1
  split <;> exact ⟨rfl, rfl⟩

theorem GifArbiter.Wf.congr {s' : GifArbiter} (h : s.Wf) (hqueue : s'.queue = s.queue)
    (hstreams : s'.pathStreams = s.pathStreams) : s'.Wf where
  ordered := hstreams ▸ h.ordered
  tiled := by
    rw [hqueue, hstreams]
    exact h.tiled
  flags := hqueue ▸ h.flags

theorem GifArbiter.Wf.isStableSort (h : s.Wf) (hsort : StableSorter sort)
    (hunmixed : Unmixed s.queue) :
    IsStableSort drainsBefore s.queue (sort drainsBefore s.queue) :=
  hsort drainsBefore s.queue ((strictWeakOn_iff h.flags).mpr hunmixed)

theorem wf_step {w : GifRun} {action : GifAction} (hsort : StableSorter sort) (h : w.arbiter.Wf)
    (hguard : DrainsUnmixed w action) : (w.step sort action).arbiter.Wf := by
  cases action with
  | submit path data direct larger => exact h.submit
  | takeDrainBatch =>
    by_cases hidle : w.arbiter.queue = [] ∨ w.arbiter.path1Reservations ≠ []
    · simp only [GifRun.step, takeDrainBatch_idle hidle]
      exact h
    · rw [not_or, not_not] at hidle
      exact (h.drained hidle.1 hidle.2 (h.isStableSort hsort (hguard hidle.2))).wf h
  | recycleDrainBatch batch larger =>
    obtain ⟨hstreams, hqueue⟩ := recycleDrainBatch_streams batch larger
    exact h.congr hqueue hstreams
  | reservePath1 => exact h.congr reservePath1_frame.1 reservePath1_frame.2
  | releasePath1 token => exact h.congr (releasePath1_frame token).1 (releasePath1_frame token).2

theorem wf_run {actions : List GifAction} (hsort : StableSorter sort)
    (hrun : Machine.Along (GifRun.step sort) DrainsUnmixed {} actions) :
    (Machine.run (GifRun.step sort) {} actions).arbiter.Wf :=
  Machine.invariant (I := fun w : GifRun => w.arbiter.Wf)
    (fun _ _ h hguard => wf_step hsort h hguard) wf_new hrun

/-! ## The order of a drain -/

theorem Drained.map_queued {out : List GifArbiterPacket}
    {result : GifArbiterDrainBatch × GifArbiter} (hd : Drained s out result) :
    result.1.packets.map (·.queued) = out := by
  rw [hd.packets, map_queued_owned]

/-- **A drain gives the order that is meant exactly if its queue is unmixed**, and these are the
queues on which the comparator is a strict weak ordering. -/
theorem takeDrainBatch_ordered_iff {sort} {actions : List GifAction} (hsort : StableSorter sort)
    (hrun : Machine.Along (GifRun.step sort) DrainsUnmixed {} actions)
    (hres : (Machine.run (GifRun.step sort) {} actions).arbiter.path1Reservations = []) :
    let s := (Machine.run (GifRun.step sort) {} actions).arbiter
    (StrictWeakOn drainsBefore s.queue ↔ Unmixed s.queue) ∧
      ((∀ stableSort, StableSorter stableSort →
        DrainOrder s.queue ((s.takeDrainBatch stableSort).1.packets.map (·.queued))) ↔
          Unmixed s.queue) := by
  have h := wf_run hsort hrun
  refine ⟨strictWeakOn_iff h.flags, fun hall => ?_, fun hunmixed stableSort hstable => ?_⟩
  · -- on a queue where the comparator is no strict weak ordering, a sort may lose everything
    by_contra hmixed
    have hweak := mt (strictWeakOn_iff h.flags).mp hmixed
    obtain ⟨stableSort, hstable, hout⟩ := StableSort.exists_stableSorter hweak []
    have hperm := (hall stableSort hstable).perm
    have hqueue : (Machine.run (GifRun.step sort) {} actions).arbiter.queue ≠ [] := by
      intro hnil
      rw [hnil] at hmixed
      exact hmixed (Or.inl fun _ hmem => absurd hmem List.not_mem_nil)
    rw [GifArbiter.takeDrainBatch, if_neg (by simp [hqueue, hres]), hout] at hperm
    exact hqueue hperm.symm.eq_nil
  · by_cases hqueue : (Machine.run (GifRun.step sort) {} actions).arbiter.queue = []
    · rw [takeDrainBatch_idle (Or.inl hqueue), hqueue]
      exact drainOrder_of_stable (fun _ hmem => absurd hmem List.not_mem_nil)
        ⟨List.Perm.refl _, List.Pairwise.nil, fun c hc _ => hc⟩
    · have hd := h.drained hqueue hres (h.isStableSort hstable hunmixed)
      rw [hd.map_queued]
      exact drainOrder_of_stable h.flags (h.isStableSort hstable hunmixed)

/-- A packet of one tag without data. -/
def emptyPacket (flg : UInt8) : Bytes := [0, 0x80, 0, 0, 0, 0, 0, flg] ++ List.replicate 8 0

/-- PATH2 plain, PATH3 IMAGE, and PATH3 plain. -/
def plainPackets : List GifAction :=
  [.submit .Path3 (emptyPacket 8) false false, .submit .Path2 (emptyPacket 0) false false,
    .submit .Path3 (emptyPacket 0) false false]

theorem takeDrainBatch_ordered_plain :
    DrainOrder
      (Machine.run (GifRun.step StableSort.mergeSortBy) {} plainPackets).arbiter.queue
      (((Machine.run (GifRun.step StableSort.mergeSortBy) {} plainPackets).arbiter.takeDrainBatch
        StableSort.mergeSortBy).1.packets.map (·.queued)) :=
  (takeDrainBatch_ordered_iff StableSort.stableSorter_mergeSortBy
    (Machine.along_of_forall fun action hmem w => by
      rcases List.mem_cons.mp hmem with rfl | hmem
      · trivial
      rcases List.mem_cons.mp hmem with rfl | hmem
      · trivial
      rw [List.mem_singleton.mp hmem]
      trivial)
    (by decide +kernel : (Machine.run (GifRun.step StableSort.mergeSortBy) {}
      plainPackets).arbiter.path1Reservations = [])).2.mpr (by decide +kernel)
    StableSort.mergeSortBy StableSort.stableSorter_mergeSortBy

/-- PATH2 DIRECTHL, PATH3 plain, and PATH3 IMAGE. -/
def mixedPackets : List GifAction :=
  [.submit .Path2 (emptyPacket 0) true false, .submit .Path3 (emptyPacket 0) false false,
    .submit .Path3 (emptyPacket 8) false false]

/-- A drain reads of the sort only what it makes of the queue. -/
theorem takeDrainBatch_congr {sort sort'} (h : sort drainsBefore s.queue =
    sort' drainsBefore s.queue) : s.takeDrainBatch sort = s.takeDrainBatch sort' := by
  simp only [GifArbiter.takeDrainBatch, h]

/-- The arbiter after `mixedPackets`. -/
def mixedArbiter : GifArbiter :=
  (Machine.run (GifRun.step StableSort.mergeSortBy) {} mixedPackets).arbiter

/-- What an insertion sort with the comparator makes of the queue of `mixedArbiter`: the IMAGE packet
passes the DIRECTHL packet and the packet that was submitted before it on its own path. -/
def mixedOut : List GifArbiterPacket :=
  [⟨.Path3, false, true, 16, 16⟩, ⟨.Path2, true, false, 0, 16⟩, ⟨.Path3, false, false, 0, 16⟩]

theorem mixed_not_strictWeakOn : ¬ StrictWeakOn drainsBefore mixedArbiter.queue := by
  rw [strictWeakOn_iff (fun packet hmem => ?_)]
  · decide +kernel
  · have hqueue : mixedArbiter.queue = [⟨.Path2, true, false, 0, 16⟩,
        ⟨.Path3, false, false, 0, 16⟩, ⟨.Path3, false, true, 16, 16⟩] := by decide +kernel
    rw [hqueue] at hmem
    simp only [List.mem_cons, List.not_mem_nil, or_false] at hmem
    rcases hmem with rfl | rfl | rfl <;> exact ⟨by decide, by decide⟩

/-- The comparator is not a strict weak ordering on the packets that `submit` can queue, and a
stable sort may put two packets of one path into the wrong order. -/
theorem mixed_not_ordered :
    ¬ StrictWeakOn drainsBefore mixedArbiter.queue ∧
      ∃ stableSort, StableSorter stableSort ∧
        ¬ DrainOrder mixedArbiter.queue
          ((mixedArbiter.takeDrainBatch stableSort).1.packets.map (·.queued)) := by
  obtain ⟨stableSort, hstable, hout⟩ :=
    StableSort.exists_stableSorter mixed_not_strictWeakOn mixedOut
  refine ⟨mixed_not_strictWeakOn, stableSort, hstable, fun horder => ?_⟩
  have hsame := horder.samePath .Path3
  rw [@takeDrainBatch_congr mixedArbiter stableSort (fun _ _ => mixedOut) hout] at hsame
  revert hsame
  decide +kernel

end Ps2Recomp
