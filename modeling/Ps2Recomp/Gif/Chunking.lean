import Ps2Recomp.Gif.Run

/-!
# GIF packet assembly: independence of chunking

The assembly of a path (`PathStream.view`, after the packets that were delivered or wait in the
queue) is at all times the scan of everything that was submitted on that path (`Tracks`). A
submission feeds the scan, a drain moves packets from the queue to the delivered ones and rebases
the buffer, and nothing else touches it.
-/

namespace Ps2Recomp

open ByteCodec (Bytes)
open StreamAssembly
open StableSort (StableSorter)

variable {sort : (GifArbiterPacket → GifArbiterPacket → Bool) → List GifArbiterPacket →
  List GifArbiterPacket} {w : GifRun} {s : GifArbiter} {path : GifPathId} {data : Bytes}
  {direct larger : Bool}

/-- The assembly of a path, over the whole run. -/
def GifRun.view (w : GifRun) (path : GifPathId) : Assembly UInt8 :=
  (w.arbiter.pathStreams path.index).view path (w.deliveredOn path ++ w.arbiter.queuedOn path)

/-- The scan of everything that was submitted on a path, at once. -/
def GifRun.whole (w : GifRun) (path : GifPathId) : Assembly UInt8 :=
  scan (gifCutter path) { rest := w.submitted path }

/-- The streams are what the submissions make them. -/
structure Tracks (w : GifRun) : Prop where
  wf : w.arbiter.Wf
  view : ∀ path, w.view path = w.whole path

theorem tracks_new : Tracks {} where
  wf := wf_new
  view path := by
    have hnone : (gifCutter path).next ([] : Bytes) = none := by
      cases path <;> decide
    have hview : ({} : GifRun).view path = {} := by
      simp [GifRun.view, PathStream.view, GifRun.deliveredOn, GifArbiter.queuedOn]
    rw [hview]
    exact (@scan_of_none UInt8 (gifCutter path) {} hnone).symm

theorem clean_whole : (w.whole path).Clean := clean_scan fun _ => rfl

/-! ## Submissions -/

theorem view_received {stream : PathStream} {packets : List (Bytes × Bool)} (h : stream.Ordered) :
    (stream.received data direct).view path packets = (stream.view path packets).feed data := by
  have hstart := h.start_le
  have hparse := h.parse_le
  have hcurrent : ((stream.data ++ data).drop stream.packetStart).take
      (stream.parseOffset - stream.packetStart) =
      (stream.data.drop stream.packetStart).take (stream.parseOffset - stream.packetStart) := by
    rw [List.drop_append_of_le_length (by omega), List.take_append_of_le_length]
    rw [List.length_drop]
    omega
  simp only [PathStream.view, PathStream.received, Assembly.feed, hcurrent,
    List.drop_append_of_le_length hparse]

/-- A packet that lies in the buffer is not changed by what comes behind. -/
theorem slice_append {packet : GifArbiterPacket}
    (h : packet.offset + packet.size ≤ data.length) (more : Bytes) :
    packet.slice (data ++ more) = packet.slice data := by
  have htake : ((data ++ more).drop packet.offset).take packet.size =
      (data.drop packet.offset).take packet.size := by
    rw [List.drop_append_of_le_length (by omega), List.take_append_of_le_length]
    rw [List.length_drop]
    omega
  rw [GifArbiterPacket.slice, GifArbiterPacket.slice, htake]

/-- A packet of the queue lies in the buffer of its path. -/
theorem GifArbiter.Wf.packet_le (h : s.Wf) {packet : GifArbiterPacket} (hmem : packet ∈ s.queue)
    (hpath : packet.pathId = path) :
    packet.offset + packet.size ≤ (s.pathStreams path.index).data.length := by
  subst hpath
  obtain ⟨-, hle⟩ := h.packet_fits hmem
  have hordered := h.ordered packet.pathId.index
  exact hle.trans (hordered.start_le.trans hordered.parse_le)

theorem queuedOn_submit (h : s.Wf) {new : List GifArbiterPacket} {stream' : PathStream}
    (hparsed : Parsed path ((s.pathStreams path.index).received data direct) stream' new)
    {s' : GifArbiter} (hqueue : s'.queue = s.queue ++ new)
    (hstreams : s'.pathStreams = Function.update s.pathStreams path.index stream') :
    s'.queuedOn path = s.queuedOn path ++
      new.map (·.slice ((s.pathStreams path.index).received data direct).data) := by
  have hold : ∀ packet ∈ s.queue.filter (·.pathId = path),
      packet.slice ((s.pathStreams path.index).data ++ data) =
        packet.slice (s.pathStreams path.index).data := by
    intro packet hmem
    obtain ⟨hmem, hpath⟩ := List.mem_filter.mp hmem
    exact slice_append (h.packet_le hmem (of_decide_eq_true hpath)) data
  rw [GifArbiter.queuedOn, hqueue, hstreams, Function.update_self, hparsed.data_eq,
    filter_append_onPath path hparsed.onPath, if_pos rfl, List.map_append, GifArbiter.queuedOn]
  congr 1
  exact List.map_congr_left hold

theorem queuedOn_submit_other {new : List GifArbiterPacket} {stream' : PathStream}
    {path' : GifPathId} (hne : path' ≠ path) (honPath : ∀ packet ∈ new, packet.pathId = path)
    {s' : GifArbiter} (hqueue : s'.queue = s.queue ++ new)
    (hstreams : s'.pathStreams = Function.update s.pathStreams path.index stream') :
    s'.queuedOn path' = s.queuedOn path' := by
  rw [GifArbiter.queuedOn, hqueue, hstreams, Function.update_of_ne (index_injective.ne hne),
    filter_append_onPath path' honPath, if_neg hne, List.append_nil, GifArbiter.queuedOn]

theorem tracks_submit (h : Tracks w) (hdata : data ≠ [])
    (hfits : (w.arbiter.pathStreams path.index).Fits data) :
    Tracks (w.step sort (.submit path data direct larger)) where
  wf := h.wf.submit
  view path' := by
    obtain ⟨new, stream', hparsed, hqueue, hstreams⟩ :=
      @GifArbiter.Wf.submit_cases _ _ _ direct larger h.wf hdata hfits
    by_cases heq : path' = path
    · subst heq
      have hfeed : ({ rest := w.submitted path' ++ data } : Assembly UInt8) =
          Assembly.feed { rest := w.submitted path' } data := rfl
      have hview := h.view path'
      rw [GifRun.view, GifRun.whole] at hview
      rw [GifRun.view, GifRun.whole]
      simp only [GifRun.step, Function.update_self]
      rw [hstreams, Function.update_self, queuedOn_submit h.wf hparsed hqueue hstreams,
        ← List.append_assoc]
      -- the loop is a scan of the old assembly with the new data
      calc stream'.view path' _ = scan (gifCutter path')
            (((w.arbiter.pathStreams path'.index).received data direct).view path'
              (w.deliveredOn path' ++ w.arbiter.queuedOn path')) := hparsed.view_eq _
        _ = scan (gifCutter path')
            (((w.arbiter.pathStreams path'.index).view path'
              (w.deliveredOn path' ++ w.arbiter.queuedOn path')).feed data) := by
          rw [view_received (h.wf.ordered _)]
        _ = scan (gifCutter path') { rest := w.submitted path' ++ data } := by
          rw [hview, scan_feed, hfeed]
    · have hview := h.view path'
      rw [GifRun.view, GifRun.whole] at hview ⊢
      simp only [GifRun.step]
      rw [hstreams, Function.update_of_ne (index_injective.ne heq), Function.update_of_ne heq,
        queuedOn_submit_other heq hparsed.onPath hqueue hstreams]
      exact hview

/-! ## Drains -/

/-- A packet of the batch has the bytes it had in the buffer. -/
theorem Drained.packetBytes {out : List GifArbiterPacket}
    {result : GifArbiterDrainBatch × GifArbiter} (h : s.Wf) (hd : Drained s out result)
    {packet : GifArbiterPacket} (hmem : packet ∈ s.queue) (hpath : packet.pathId = path) :
    (result.1.packetBytes packet.owned, packet.path3Image) =
      packet.slice (s.pathStreams path.index).data := by
  subst hpath
  obtain ⟨-, hle⟩ := h.packet_fits hmem
  have hordered := h.ordered packet.pathId.index
  have hbound := hordered.start_le.trans hordered.parse_le
  have hlength : (((s.pathStreams packet.pathId.index).data.take
      (s.pathStreams packet.pathId.index).packetStart)).length =
      (s.pathStreams packet.pathId.index).packetStart := List.length_take_of_le hbound
  simp only [GifArbiterDrainBatch.packetBytes, GifArbiterPacket.owned, hd.storage, hlength,
    GifArbiterPacket.slice]
  rw [if_neg (by omega), List.drop_take, List.take_take, min_eq_left (by omega)]

theorem Drained.delivered_filter {result : GifArbiterDrainBatch × GifArbiter} (h : s.Wf)
    {out : List GifArbiterPacket} (horder : DrainOrder s.queue out) (hd : Drained s out result) :
    (result.1.delivered.filter (·.pathId = path)).map
      (fun packet => (packet.bytes, packet.path3Image)) = s.queuedOn path := by
  rw [GifArbiterDrainBatch.delivered, hd.packets, List.map_map, List.filter_map, List.map_map,
    GifArbiter.queuedOn, ← horder.samePath path]
  refine List.map_congr_left fun packet hmem => ?_
  obtain ⟨hmem, hpath⟩ := List.mem_filter.mp hmem
  exact hd.packetBytes h (horder.perm.mem_iff.mp hmem) (of_decide_eq_true hpath)

theorem tracks_takeDrainBatch (hsort : StableSorter sort) (h : Tracks w)
    (hunmixed : w.arbiter.path1Reservations = [] → Unmixed w.arbiter.queue) :
    Tracks (w.step sort .takeDrainBatch) := by
  by_cases hidle : w.arbiter.queue = [] ∨ w.arbiter.path1Reservations ≠ []
  · have hsame : w.step sort .takeDrainBatch = w := by
      simp only [GifRun.step, takeDrainBatch_idle hidle, GifArbiterDrainBatch.delivered,
        List.map_nil, List.append_nil]
    rw [hsame]
    exact h
  rw [not_or, not_not] at hidle
  have hstable := h.wf.isStableSort hsort (hunmixed hidle.2)
  have hd := h.wf.drained hidle.1 hidle.2 hstable
  refine ⟨hd.wf h.wf, fun path => ?_⟩
  have hqueued : (w.arbiter.takeDrainBatch sort).2.queuedOn path = [] := by
    rw [GifArbiter.queuedOn, hd.queue]
    rfl
  have hdelivered : (w.step sort .takeDrainBatch).deliveredOn path =
      w.deliveredOn path ++ w.arbiter.queuedOn path := by
    rw [← hd.delivered_filter h.wf (drainOrder_of_stable h.wf.flags hstable)]
    simp only [GifRun.step, GifRun.deliveredOn, List.filter_append, List.map_append]
  have hview := h.view path
  rw [GifRun.view] at hview
  rw [GifRun.view, hdelivered]
  simp only [GifRun.step]
  rw [hqueued, List.append_nil, hd.streams, view_rebase (h.wf.ordered _) (hview ▸ clean_whole)]
  exact hview

/-! ## Runs -/

theorem tracks_congr {w' : GifRun} (h : Tracks w) (hqueue : w'.arbiter.queue = w.arbiter.queue)
    (hstreams : w'.arbiter.pathStreams = w.arbiter.pathStreams)
    (hsubmitted : w'.submitted = w.submitted) (hdelivered : w'.delivered = w.delivered) :
    Tracks w' where
  wf := h.wf.congr hqueue hstreams
  view path := by
    have hview := h.view path
    rw [GifRun.view, GifRun.whole, GifRun.deliveredOn, GifArbiter.queuedOn] at hview ⊢
    rw [hqueue, hstreams, hsubmitted, hdelivered]
    exact hview

theorem tracks_step {action : GifAction} (hsort : StableSorter sort) (h : Tracks w)
    (hguard : SubmitsFit w action ∧ DrainsUnmixed w action) : Tracks (w.step sort action) := by
  cases action with
  | submit path data direct larger => exact tracks_submit h hguard.1.1 hguard.1.2
  | takeDrainBatch => exact tracks_takeDrainBatch hsort h hguard.2
  | recycleDrainBatch batch larger =>
    obtain ⟨hstreams, hqueue⟩ := recycleDrainBatch_streams batch larger
    exact tracks_congr h hqueue hstreams rfl rfl
  | reservePath1 => exact tracks_congr h reservePath1_frame.1 reservePath1_frame.2 rfl rfl
  | releasePath1 token =>
    exact tracks_congr h (releasePath1_frame token).1 (releasePath1_frame token).2 rfl rfl

/-- **Assembly does not depend on chunking**, in any run whose drains find unmixed queues: what was
delivered on a path and what waits in the queue are the packets of the stream submitted at once,
the rest of the stream is buffered, and the offsets stay in order. -/
theorem assembly_independent {sort} {actions : List GifAction} (hsort : StableSorter sort)
    (hrun : Machine.Along (GifRun.step sort)
      (fun w action => SubmitsFit w action ∧ DrainsUnmixed w action) {} actions)
    (path : GifPathId) :
    let w := Machine.run (GifRun.step sort) {} actions
    let stream := w.arbiter.pathStreams path.index
    let whole := scan (gifCutter path) { rest := w.submitted path }
    w.deliveredOn path ++ w.arbiter.queuedOn path = whole.packets ∧
      w.submitted path = (whole.packets.map Prod.fst).flatten ++
        stream.data.drop stream.packetStart ∧
      (w.submitted path ≠ [] → (w.submitted path).length ≤ kMaxBufferedGifPathBytes →
        ∀ direct larger, (({} : GifArbiter).submit path (w.submitted path) direct
          larger).queuedOn path = w.deliveredOn path ++ w.arbiter.queuedOn path) ∧
      stream.packetStart ≤ stream.parseOffset ∧ stream.parseOffset ≤ stream.data.length := by
  have h : Tracks (Machine.run (GifRun.step sort) {} actions) :=
    Machine.invariant (fun _ _ h hguard => tracks_step hsort h hguard) tracks_new hrun
  generalize Machine.run (GifRun.step sort) {} actions = w at h ⊢
  have hview : w.view path = scan (gifCutter path) { rest := w.submitted path } := h.view path
  have hordered := h.wf.ordered path.index
  have hpackets := congrArg Assembly.packets hview
  refine ⟨hpackets, ?_, fun hne hle direct larger => ?_, hordered.start_le, hordered.parse_le⟩
  · have hcontents := @contents_scan UInt8 (gifCutter path)
      { rest := w.submitted path }
    have hsplit : (w.arbiter.pathStreams path.index).data.drop
        (w.arbiter.pathStreams path.index).packetStart = (w.view path).current ++
          (w.view path).rest := by
      have hstart := hordered.start_le
      have hparse : (w.arbiter.pathStreams path.index).data.drop
          (w.arbiter.pathStreams path.index).parseOffset =
          ((w.arbiter.pathStreams path.index).data.drop
            (w.arbiter.pathStreams path.index).packetStart).drop
            ((w.arbiter.pathStreams path.index).parseOffset -
              (w.arbiter.pathStreams path.index).packetStart) := by
        rw [List.drop_drop]
        congr 1
        omega
      simp only [GifRun.view, PathStream.view]
      rw [hparse, List.take_append_drop]
    rw [hsplit, hview, ← List.append_assoc]
    simpa [Assembly.contents] using hcontents.symm
  · have honce : Tracks (GifRun.step sort {} (.submit path (w.submitted path) direct larger)) :=
      tracks_submit tracks_new hne (by simpa [PathStream.Fits] using hle)
    have hat := congrArg Assembly.packets (honce.view path)
    simp only [GifRun.view, GifRun.whole, PathStream.view, GifRun.step, Function.update_self,
      GifRun.deliveredOn, List.filter_nil, List.map_nil, List.nil_append] at hat
    exact hat.trans hpackets.symm

/-- Two PATH3 packets in three pieces, with a PATH2 packet and drains between. -/
def piecesOfPackets : List GifAction :=
  [.submit .Path3 [0, 0x80, 0] false false, .takeDrainBatch,
    .submit .Path2 (emptyPacket 0) false false,
    .submit .Path3 ((emptyPacket 8).drop 3 ++ [0, 0x80]) false true,
    .submit .Path3 ((emptyPacket 0).drop 2) false true, .takeDrainBatch]

theorem assembly_independent_pieces :
    let w := Machine.run (GifRun.step StableSort.mergeSortBy) {} piecesOfPackets
    w.deliveredOn .Path3 ++ w.arbiter.queuedOn .Path3 =
      (scan (gifCutter .Path3) { rest := w.submitted .Path3 }).packets :=
  (assembly_independent StableSort.stableSorter_mergeSortBy (by decide +kernel) .Path3).1

/-- The packets of a path can be delivered in another order than they were submitted in. -/
theorem mixed_not_assembled :
    ∃ stableSort, StableSorter stableSort ∧
      Machine.Along (GifRun.step stableSort) SubmitsFit {} (mixedPackets ++ [.takeDrainBatch]) ∧
      let w := Machine.run (GifRun.step stableSort) {} (mixedPackets ++ [.takeDrainBatch])
      w.arbiter.queue = [] ∧
        w.deliveredOn .Path3 = [(emptyPacket 8, true), (emptyPacket 0, false)] ∧
        (scan (gifCutter .Path3) { rest := w.submitted .Path3 }).packets =
          [(emptyPacket 0, false), (emptyPacket 8, true)] := by
  obtain ⟨stableSort, hstable, hout⟩ :=
    StableSort.exists_stableSorter mixed_not_strictWeakOn mixedOut
  have hlast : (mixedArbiter.takeDrainBatch stableSort) =
      mixedArbiter.takeDrainBatch fun _ _ => mixedOut :=
    @takeDrainBatch_congr mixedArbiter stableSort (fun _ _ => mixedOut) hout
  have hrun : Machine.run (GifRun.step stableSort) {} (mixedPackets ++ [.takeDrainBatch]) =
      Machine.run (GifRun.step fun _ _ => mixedOut) {} (mixedPackets ++ [.takeDrainBatch]) := by
    rw [Machine.run_append, Machine.run_append]
    simp only [Machine.run_cons, Machine.run_nil, GifRun.step]
    exact congrArg (fun result : GifArbiterDrainBatch × GifArbiter =>
      ({ arbiter := result.2, submitted := _, delivered := [] ++ result.1.delivered } : GifRun)) hlast
  have halong : Machine.Along (GifRun.step stableSort) SubmitsFit {}
      (mixedPackets ++ [.takeDrainBatch]) := by
    rw [Machine.along_append]
    exact ⟨(by decide +kernel : Machine.Along (GifRun.step fun _ _ => mixedOut) SubmitsFit {}
      mixedPackets), trivial, trivial⟩
  refine ⟨stableSort, hstable, halong, ?_⟩
  rw [hrun]
  decide +kernel

end Ps2Recomp
