import Ps2Recomp.SaveState.Container

/-!
# The save-state container: encoding and decoding are inverse

Both directions rest on the exact codecs of the fields: what `encode` writes `decode` reads, and
`decode` accepts nothing that `encode` would have written otherwise. The chunk loops of the two are
matched chunk by chunk (`decodeChunks_encode`, `encode_of_decodeChunks`); in between,
`checkChunks` gives the total size that the header carries.
-/

namespace Ps2Recomp

namespace SaveState

open ByteCodec

/-! ## Fields -/

theorem exact_u32 : Exact Writer.u32 Reader.u32 (fun _ => True) :=
  (exact_littleEndian 4).map UInt32.ofNat UInt32.toNat UInt32.toNat_lt
    (fun _ => UInt32.ofNat_toNat) (fun _ h => UInt32.toNat_ofNat_of_lt' h)

theorem exact_u64 : Exact Writer.u64 Reader.u64 (fun _ => True) :=
  (exact_littleEndian 8).map UInt64.ofNat UInt64.toNat UInt64.toNat_lt
    (fun _ => UInt64.ofNat_toNat) (fun _ h => UInt64.toNat_ofNat_of_lt' h)

theorem exact_bytes (size : Nat) :
    Exact id (fun reader => Reader.bytes reader size) (fun bytes => bytes.length = size) :=
  exact_raw size

@[simp] theorem u32_append (value : UInt32) (rest : Bytes) :
    Reader.u32 (Writer.u32 value ++ rest) = some (value, rest) :=
  exact_u32.read_write value rest trivial

@[simp] theorem u64_append (value : UInt64) (rest : Bytes) :
    Reader.u64 (Writer.u64 value ++ rest) = some (value, rest) :=
  exact_u64.read_write value rest trivial

theorem u32_eq_some {reader rest : Reader} {value : UInt32} :
    Reader.u32 reader = some (value, rest) ↔ reader = Writer.u32 value ++ rest :=
  ⟨fun h => (exact_u32.write_read reader value rest h).1, fun h => h ▸ u32_append value rest⟩

theorem u64_eq_some {reader rest : Reader} {value : UInt64} :
    Reader.u64 reader = some (value, rest) ↔ reader = Writer.u64 value ++ rest :=
  ⟨fun h => (exact_u64.write_read reader value rest h).1, fun h => h ▸ u64_append value rest⟩

theorem bytes_eq_some {reader rest : Reader} {size : Nat} {bytes : Bytes} :
    Reader.bytes reader size = some (bytes, rest) ↔
      reader = bytes ++ rest ∧ bytes.length = size := by
  constructor
  · exact (exact_bytes size).write_read reader bytes rest
  · rintro ⟨rfl, h⟩
    exact (exact_bytes size).read_write bytes rest h

@[simp] theorem length_u32 (value : UInt32) : (Writer.u32 value).length = 4 :=
  length_littleEndian 4 _

@[simp] theorem length_u64 (value : UInt64) : (Writer.u64 value).length = 8 :=
  length_littleEndian 8 _

/-! ## Headers -/

def ChunkHeader.encode (header : ChunkHeader) : Bytes :=
  Writer.u32 header.id ++ Writer.u32 header.version ++ Writer.u32 header.encodedFlags ++
    Writer.u32 header.reserved ++ Writer.u64 header.payloadSize ++
    Writer.u64 header.encodedChecksum

theorem chunkHeader_eq_some {reader rest : Reader} {header : ChunkHeader} :
    reader.chunkHeader = some (header, rest) ↔ reader = header.encode ++ rest := by
  constructor
  · intro h
    simp only [Reader.chunkHeader, Option.bind_eq_bind, Option.bind_eq_some_iff, Prod.exists,
      u32_eq_some, u64_eq_some] at h
    obtain ⟨_, _, rfl, _, _, rfl, _, _, rfl, _, _, rfl, _, _, rfl, _, _, rfl, h⟩ := h
    cases h
    simp only [ChunkHeader.encode, List.append_assoc]
  · rintro rfl
    simp [Reader.chunkHeader, ChunkHeader.encode]

def Header.encode (header : Header) : Bytes :=
  kMagic ++ Writer.u32 header.containerVersion ++ Writer.u32 header.headerSize ++
    Writer.u32 header.chunkCount ++ Writer.u32 header.flags ++ Writer.u64 header.totalSize

theorem header_eq_some {reader rest : Reader} {header : Header} :
    reader.header = some (header, rest) ↔ reader = header.encode ++ rest := by
  have hmagic : ∀ rest, Reader.bytes (kMagic ++ rest) kMagic.length = some (kMagic, rest) :=
    fun rest => bytes_eq_some.mpr ⟨rfl, rfl⟩
  constructor
  · intro h
    simp only [Reader.header, Option.bind_eq_bind, Option.bind_eq_some_iff, Prod.exists] at h
    obtain ⟨magic, reader1, hread, h⟩ := h
    obtain ⟨rfl, -⟩ := bytes_eq_some.mp hread
    by_cases heq : magic = kMagic
    · subst heq
      simp only [ne_eq, not_true_eq_false, if_false, Option.bind_eq_some_iff, Prod.exists,
        u32_eq_some, u64_eq_some] at h
      obtain ⟨_, _, rfl, _, _, rfl, _, _, rfl, _, _, rfl, _, _, rfl, h⟩ := h
      cases h
      simp only [Header.encode, List.append_assoc]
    · simp [heq] at h
  · rintro rfl
    simp [Reader.header, Header.encode, hmagic]

theorem encodeHeader_eq (chunkCount totalSize : Nat) :
    encodeHeader chunkCount totalSize =
      Header.encode ⟨kContainerVersion, UInt32.ofNat kHeaderSize, UInt32.ofNat chunkCount, 0,
        UInt64.ofNat totalSize⟩ := rfl

@[simp] theorem length_header (header : Header) : header.encode.length = kHeaderSize := by
  simp [Header.encode, kMagic, kHeaderSize]

theorem encodeChunk_eq (chunk : Chunk) :
    encodeChunk chunk =
      ChunkHeader.encode ⟨chunk.id, chunk.version, chunk.flags, 0,
        UInt64.ofNat chunk.payload.length, checksum chunk.payload⟩ ++ chunk.payload := rfl

@[simp] theorem length_encodeChunk (chunk : Chunk) :
    (encodeChunk chunk).length = kChunkHeaderSize + chunk.payload.length := by
  simp only [encodeChunk, List.length_append, length_u32, length_u64, kChunkHeaderSize]

/-! ## One chunk -/

/-- What both `encode` and `decode` check of a chunk. `ids` are those seen. -/
structure ChunkOk (ids : List UInt32) (chunk : Chunk) : Prop where
  flags : chunk.flags &&& ~~~kKnownChunkFlags = 0
  fresh : chunk.id ∉ ids
  size : chunk.payload.length ≤ kMaximumFileSize

theorem toNat_payloadSize {size : Nat} (h : size ≤ kMaximumFileSize) :
    (UInt64.ofNat size).toNat = size :=
  UInt64.toNat_ofNat_of_lt' (lt_of_le_of_lt h (by decide))

theorem decodeChunk_eq_ok {ids : List UInt32} {reader rest : Reader} {chunk : Chunk} :
    decodeChunk ids reader = .ok (chunk, rest) ↔
      reader = encodeChunk chunk ++ rest ∧ ChunkOk ids chunk := by
  constructor
  · intro h
    unfold decodeChunk at h
    split at h
    · cases h
    next header reader1 hheader =>
      rw [chunkHeader_eq_some] at hheader
      split at h
      · cases h
      next hfields =>
        push Not at hfields
        obtain ⟨hreserved, hflags⟩ := hfields
        split at h
        · cases h
        next hfresh =>
          split at h
          · cases h
          next hsize =>
            split at h
            · cases h
            next payload reader2 hpayload =>
              obtain ⟨rfl, hlength⟩ := bytes_eq_some.mp hpayload
              split at h
              · cases h
              next hchecksum =>
                cases h
                rw [not_not] at hchecksum
                refine ⟨?_, hflags, hfresh, not_lt.mp (hlength ▸ hsize)⟩
                rw [encodeChunk_eq, hheader, hlength, hchecksum, UInt64.ofNat_toNat,
                  ← hreserved, List.append_assoc]
  · rintro ⟨rfl, hflags, hfresh, hsize⟩
    have hpayload : Reader.bytes (chunk.payload ++ rest) chunk.payload.length =
        some (chunk.payload, rest) := bytes_eq_some.mpr ⟨rfl, rfl⟩
    unfold decodeChunk
    rw [encodeChunk_eq, List.append_assoc, chunkHeader_eq_some.mpr rfl]
    simp only [ne_eq, not_true_eq_false, hflags, or_self, if_false, hfresh,
      toNat_payloadSize hsize, not_lt.mpr hsize, hpayload]

/-! ## The chunk loops -/

/-- What the loops check of the chunks. -/
def ChunksOk : List UInt32 → List Chunk → Prop
  | _, [] => True
  | ids, chunk :: rest => ChunkOk ids chunk ∧ ChunksOk (chunk.id :: ids) rest

theorem decodeChunks_eq_ok {count : Nat} {ids : List UInt32} {reader rest : Reader}
    {chunks : List Chunk} :
    decodeChunks count ids reader = .ok (chunks, rest) ↔
      reader = chunks.flatMap encodeChunk ++ rest ∧ chunks.length = count ∧
        ChunksOk ids chunks := by
  induction count generalizing ids reader chunks with
  | zero =>
    rw [decodeChunks, List.length_eq_zero_iff]
    constructor
    · intro h
      cases h
      exact ⟨rfl, rfl, trivial⟩
    · rintro ⟨rfl, rfl, -⟩
      rfl
  | succ count ih =>
    constructor
    · intro h
      rw [decodeChunks] at h
      rcases hchunk : decodeChunk ids reader with message | ⟨chunk, reader1⟩
      · rw [hchunk] at h
        cases h
      rw [hchunk] at h
      rcases htail : decodeChunks count (chunk.id :: ids) reader1 with message | ⟨tail, reader2⟩
      · simp only [bind, Except.bind, htail] at h
        cases h
      simp only [bind, Except.bind, htail, pure, Except.pure] at h
      cases h
      obtain ⟨rfl, hok⟩ := decodeChunk_eq_ok.mp hchunk
      obtain ⟨rfl, rfl, htails⟩ := ih.mp htail
      refine ⟨?_, rfl, hok, htails⟩
      rw [List.flatMap_cons, List.append_assoc]
    · rintro ⟨rfl, hlength, hok⟩
      cases chunks with
      | nil => cases hlength
      | cons chunk tail =>
        obtain ⟨hchunk, htail⟩ := hok
        rw [decodeChunks, List.flatMap_cons, List.append_assoc,
          decodeChunk_eq_ok.mpr ⟨rfl, hchunk⟩]
        simp only [bind, Except.bind, ih.mpr ⟨rfl, Nat.succ.inj hlength, htail⟩]
        rfl

theorem checkedAdd_eq_some {total amount sum : Nat} (htotal : total ≤ 2 ^ 64 - 1) :
    checkedAdd total amount = some sum ↔ sum = total + amount ∧ sum ≤ 2 ^ 64 - 1 := by
  unfold checkedAdd
  split
  · constructor
    · intro h
      cases h
    · rintro ⟨rfl, h⟩
      omega
  · constructor
    · intro h
      cases h
      omega
    · rintro ⟨rfl, -⟩
      rfl

/-- The size the check of one chunk goes on with. -/
theorem addChunk_eq {totalSize : Nat} {chunk : Chunk} (htotal : totalSize ≤ kMaximumFileSize) :
    ((checkedAdd totalSize kChunkHeaderSize).bind fun total =>
      checkedAdd total chunk.payload.length) =
      if totalSize + (encodeChunk chunk).length ≤ 2 ^ 64 - 1 then
        some (totalSize + (encodeChunk chunk).length)
      else none := by
  have hmax : kMaximumFileSize + kChunkHeaderSize ≤ 2 ^ 64 - 1 := by decide
  have hfirst : checkedAdd totalSize kChunkHeaderSize = some (totalSize + kChunkHeaderSize) :=
    (checkedAdd_eq_some (by omega)).mpr ⟨rfl, by omega⟩
  rw [hfirst, Option.bind_some, length_encodeChunk, ← Nat.add_assoc, checkedAdd]
  split <;> split <;> first | rfl | omega

theorem checkChunks_eq_ok {ids : List UInt32} {totalSize size : Nat} {chunks : List Chunk}
    (htotal : totalSize ≤ kMaximumFileSize) :
    checkChunks ids totalSize chunks = .ok size ↔
      ChunksOk ids chunks ∧ size = totalSize + (chunks.flatMap encodeChunk).length ∧
        size ≤ kMaximumFileSize := by
  induction chunks generalizing ids totalSize with
  | nil =>
    rw [checkChunks]
    constructor
    · intro h
      cases h
      exact ⟨trivial, rfl, htotal⟩
    · rintro ⟨-, rfl, -⟩
      rfl
  | cons chunk tail ih =>
    have hmax : kMaximumFileSize ≤ 2 ^ 64 - 1 := by decide
    have hlen := length_encodeChunk chunk
    rw [checkChunks, addChunk_eq htotal, List.flatMap_cons, List.length_append, ← Nat.add_assoc]
    constructor
    · intro h
      split at h
      · cases h
      next hfresh =>
        split at h
        · cases h
        next hflags =>
          rw [not_not] at hflags
          split at h
          · cases h
          next next hnext =>
            split at hnext
            · cases hnext
              split at h
              · cases h
              next hle =>
                rw [gt_iff_lt, not_lt] at hle
                obtain ⟨htail, hsize, hbound⟩ := (ih hle).mp h
                exact ⟨⟨⟨hflags, hfresh, by omega⟩, htail⟩, hsize, hbound⟩
            · cases hnext
    · rintro ⟨⟨⟨hflags, hfresh, -⟩, htail⟩, hsize, hbound⟩
      have hle : totalSize + (encodeChunk chunk).length ≤ kMaximumFileSize := by omega
      rw [if_neg hfresh, if_neg (not_not.mpr hflags), if_pos (hle.trans hmax)]
      simp only [gt_iff_lt, not_lt.mpr hle, if_false]
      exact (ih hle).mpr ⟨htail, hsize, hbound⟩

/-! ## Documents -/

/-- The documents that `encode` accepts. -/
structure Document.Valid (document : Document) : Prop where
  count : document.chunks.length ≤ kMaximumChunkCount
  chunks : ChunksOk [] document.chunks
  size : kHeaderSize + (document.chunks.flatMap encodeChunk).length ≤ kMaximumFileSize

def Document.bytes (document : Document) : Bytes :=
  encodeHeader document.chunks.length
      (kHeaderSize + (document.chunks.flatMap encodeChunk).length) ++
    document.chunks.flatMap encodeChunk

theorem encodeDocument_eq_ok {document : Document} {bytes : Bytes} :
    encodeDocument document = .ok bytes ↔ document.Valid ∧ bytes = document.bytes := by
  have hheader : kHeaderSize ≤ kMaximumFileSize := by decide
  unfold encodeDocument
  constructor
  · intro h
    split at h
    · cases h
    next hcount =>
      rcases hcheck : checkChunks [] kHeaderSize document.chunks with message | size
      · rw [hcheck] at h
        cases h
      rw [hcheck] at h
      cases h
      obtain ⟨hchunks, rfl, hsize⟩ := (checkChunks_eq_ok hheader).mp hcheck
      exact ⟨⟨not_lt.mp hcount, hchunks, hsize⟩, rfl⟩
  · rintro ⟨⟨hcount, hchunks, hsize⟩, rfl⟩
    rw [if_neg (not_lt.mpr hcount), (checkChunks_eq_ok hheader).mpr ⟨hchunks, rfl, hsize⟩]
    rfl

theorem length_bytes (document : Document) :
    document.bytes.length = kHeaderSize + (document.chunks.flatMap encodeChunk).length := by
  rw [Document.bytes, List.length_append, encodeHeader_eq, length_header]

theorem decodeDocument_eq_ok {input : Bytes} {document : Document} :
    decodeDocument input = .ok document ↔ document.Valid ∧ input = document.bytes := by
  constructor
  · intro h
    unfold decodeDocument at h
    split at h
    · cases h
    split at h
    · cases h
    next hlong =>
    split at h
    · cases h
    next header reader hheader =>
    rw [header_eq_some] at hheader
    split at h
    · cases h
    next hversion =>
    split at h
    · cases h
    next hfields =>
    push Not at hfields
    obtain ⟨hsize, hflags, htotal⟩ := hfields
    split at h
    · cases h
    next hcount =>
    rcases hchunks : decodeChunks header.chunkCount.toNat [] reader with message | ⟨chunks, rest⟩
    · rw [hchunks] at h
      cases h
    rw [hchunks] at h
    by_cases hrest : rest = []
    · simp only [bind, Except.bind, hrest, ne_eq, not_true_eq_false, if_false, pure,
        Except.pure] at h
      cases h
      obtain ⟨rfl, hlength, hok⟩ := decodeChunks_eq_ok.mp hchunks
      rw [hrest, List.append_nil] at hheader
      have hinput : input.length = kHeaderSize + (chunks.flatMap encodeChunk).length := by
        rw [hheader, List.length_append, length_header]
      refine ⟨⟨by rw [hlength]; omega, hok, by rw [← hinput]; omega⟩, ?_⟩
      rw [Document.bytes, encodeHeader_eq, hlength, ← hinput, ← htotal, UInt32.ofNat_toNat,
        UInt64.ofNat_toNat, ← hsize, UInt32.ofNat_toNat, ← hflags, ← not_not.mp hversion]
      exact hheader
    · simp [bind, Except.bind, hrest] at h
  · rintro ⟨⟨hcount, hchunks, hsize⟩, rfl⟩
    have hlength := length_bytes document
    have htotal : (UInt64.ofNat (kHeaderSize + (document.chunks.flatMap encodeChunk).length)).toNat =
        kHeaderSize + (document.chunks.flatMap encodeChunk).length := toNat_payloadSize hsize
    have hnumber : (UInt32.ofNat document.chunks.length).toNat = document.chunks.length :=
      UInt32.toNat_ofNat_of_lt' (lt_of_le_of_lt hcount (by decide))
    have hread : Reader.header document.bytes =
        some (⟨kContainerVersion, UInt32.ofNat kHeaderSize, UInt32.ofNat document.chunks.length, 0,
          UInt64.ofNat (kHeaderSize + (document.chunks.flatMap encodeChunk).length)⟩,
          document.chunks.flatMap encodeChunk) := by
      rw [header_eq_some, Document.bytes, encodeHeader_eq]
    have hloop : decodeChunks document.chunks.length [] (document.chunks.flatMap encodeChunk) =
        .ok (document.chunks, []) :=
      decodeChunks_eq_ok.mpr ⟨(List.append_nil _).symm, rfl, hchunks⟩
    unfold decodeDocument
    rw [if_neg (by omega), if_neg (by omega), hread]
    simp only [ne_eq, not_true_eq_false, if_false, htotal, hlength, hnumber,
      show (UInt32.ofNat kHeaderSize).toNat = kHeaderSize from rfl, or_self, gt_iff_lt,
      not_lt.mpr hcount, hloop]
    rfl

/-! ## Calls -/

theorem Call.ofExcept_eq_true {α : Type} {result : Except String α} {output value : α}
    {error error' : String} :
    Call.ofExcept result output error = ⟨true, value, error'⟩ ↔
      result = .ok value ∧ error' = error := by
  cases result with
  | error message => simp [Call.ofExcept]
  | ok value' =>
    simp only [Call.ofExcept, Call.mk.injEq, true_and, Except.ok.injEq]
    exact and_congr_right fun _ => eq_comm

theorem Call.output_of_rejected {α : Type} {result : Except String α} {output : α}
    {error : String} (h : (Call.ofExcept result output error).accepted = false) :
    (Call.ofExcept result output error).output = output := by
  cases result with
  | error message => rfl
  | ok value => cases h

/-- **`encode` and `decode` are inverse**: what `encode` produces `decode` reads back, what `decode`
accepts `encode` reproduces byte for byte, and a rejected input leaves the document as it was. -/
theorem encode_decode_inverse :
    (∀ document output error bytes error',
      encode document output error = ⟨true, bytes, error'⟩ →
        ∀ old error, decode bytes old error = ⟨true, document, error⟩) ∧
    (∀ bytes old error document error',
      decode bytes old error = ⟨true, document, error'⟩ →
        ∀ output error, encode document output error = ⟨true, bytes, error⟩) ∧
    ∀ bytes old error, (decode bytes old error).accepted = false →
      (decode bytes old error).output = old := by
  refine ⟨fun document output error bytes error' h old error => ?_,
    fun bytes old error document error' h output error => ?_, fun bytes old error h => ?_⟩
  · obtain ⟨hencode, -⟩ := Call.ofExcept_eq_true.mp h
    have hdecode := decodeDocument_eq_ok.mpr (encodeDocument_eq_ok.mp hencode)
    exact Call.ofExcept_eq_true.mpr ⟨hdecode, rfl⟩
  · obtain ⟨hdecode, -⟩ := Call.ofExcept_eq_true.mp h
    have hencode := encodeDocument_eq_ok.mpr (decodeDocument_eq_ok.mp hdecode)
    exact Call.ofExcept_eq_true.mpr ⟨hencode, rfl⟩
  · exact Call.output_of_rejected h

/-- A document with a required and an empty chunk. -/
def sampleDocument : Document :=
  ⟨[⟨0x50314345, 2, ChunkFlags.Required, [1, 2, 3]⟩, ⟨0, 1, ChunkFlags.None, []⟩]⟩

theorem encode_decode_inverse_sample :
    decode (encode sampleDocument [] "").output ⟨[]⟩ "" = ⟨true, sampleDocument, ""⟩ ∧
      encode (decode (encode sampleDocument [] "").output ⟨[]⟩ "").output [] "" =
        encode sampleDocument [] "" ∧
      (decode [0] sampleDocument "").output = sampleDocument := by
  have hencode : encode sampleDocument [] "" =
      ⟨true, (encode sampleDocument [] "").output, ""⟩ := by decide +kernel
  have hdecode := encode_decode_inverse.1 sampleDocument [] "" _ "" hencode ⟨[]⟩ ""
  have hback := encode_decode_inverse.2.1 _ ⟨[]⟩ "" sampleDocument "" hdecode [] ""
  refine ⟨hdecode, ?_, encode_decode_inverse.2.2 [0] sampleDocument "" (by decide)⟩
  rw [hdecode, hback]

end SaveState

end Ps2Recomp
