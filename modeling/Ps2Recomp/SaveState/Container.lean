import Ps2Recomp.Lib.ByteCodec

/-!
# The save-state container

Model of `encode` and `decode` (`ps2_save_state.cpp`) with the parts of `Writer` and `Reader` they
use: a header of 32 bytes, then for each chunk a header of 32 bytes and the payload, which the
chunk's header names the size and the checksum of.

* A `Reader` is the bytes not read yet. A `Writer` is the bytes written.
* `encode` and `decode` get their output parameter and the error text as they are before the call,
  and return them as they are after it (`Call`).

`ps2_save_state.cpp` also reads and writes files, and `Writer` and `Reader` have more types; that is
left out.
-/

namespace Ps2Recomp

namespace SaveState

open ByteCodec

/-! ## Documents -/

def kContainerVersion : UInt32 := 1

def kMaximumFileSize : Nat := 512 * 1024 * 1024

def kMaximumChunkCount : Nat := 256

/-- `'P', '2', 'X', 'S', 'T', 'A', 'T', 'E'`. -/
def kMagic : Bytes := [0x50, 0x32, 0x58, 0x53, 0x54, 0x41, 0x54, 0x45]

def kHeaderSize : Nat := 32

def kChunkHeaderSize : Nat := 32

def kFnvOffset : UInt64 := 14695981039346656037

def kFnvPrime : UInt64 := 1099511628211

/-- `ChunkFlags`: any value of its underlying type. -/
abbrev ChunkFlags := UInt32

def ChunkFlags.None : ChunkFlags := 0

def ChunkFlags.Required : ChunkFlags := (1 : UInt32) <<< 0

def kKnownChunkFlags : UInt32 := ChunkFlags.Required

structure Chunk where
  id : UInt32 := 0
  version : UInt32 := 0
  flags : ChunkFlags := ChunkFlags.None
  payload : Bytes := []
  deriving DecidableEq, Repr

structure Document where
  chunks : List Chunk := []
  deriving DecidableEq, Repr

def checksum (bytes : Bytes) : UInt64 :=
  bytes.foldl (fun value byte => (value ^^^ byte.toUInt64) * kFnvPrime) kFnvOffset

/-- A call with an output parameter: the `bool` returned, the output and the error text. -/
structure Call (α : Type) where
  accepted : Bool
  output : α
  error : String
  deriving DecidableEq

/-- `setError` and `return false`, or assign the output and `return true`. -/
def Call.ofExcept {α : Type} (result : Except String α) (output : α) (error : String) : Call α :=
  match result with
  | .ok value => ⟨true, value, error⟩
  | .error message => ⟨false, output, message⟩

/-! ## Encoding -/

def Writer.u32 (value : UInt32) : Bytes := littleEndian 4 value.toNat

def Writer.u64 (value : UInt64) : Bytes := littleEndian 8 value.toNat

/-- `checkedAdd`: `total + amount`, unless it does not fit in 64 bits. -/
def checkedAdd (total amount : Nat) : Option Nat :=
  if amount > 2 ^ 64 - 1 - total then none else some (total + amount)

/-- The loop of `encode` that checks the chunks: `ids` are those seen. Returns `totalSize`. -/
def checkChunks : List UInt32 → Nat → List Chunk → Except String Nat
  | _, totalSize, [] => .ok totalSize
  | ids, totalSize, chunk :: rest =>
    if chunk.id ∈ ids then .error "save state contains a duplicate chunk"
    else if chunk.flags &&& ~~~kKnownChunkFlags ≠ 0 then
      .error "save state chunk uses unknown flags"
    else
      match (checkedAdd totalSize kChunkHeaderSize).bind fun total =>
        checkedAdd total chunk.payload.length with
      | none => .error "save state exceeds the maximum file size"
      | some totalSize =>
        if totalSize > kMaximumFileSize then .error "save state exceeds the maximum file size"
        else checkChunks (chunk.id :: ids) totalSize rest

def encodeChunk (chunk : Chunk) : Bytes :=
  Writer.u32 chunk.id ++ Writer.u32 chunk.version ++ Writer.u32 chunk.flags ++ Writer.u32 0 ++
    Writer.u64 (UInt64.ofNat chunk.payload.length) ++ Writer.u64 (checksum chunk.payload) ++
    chunk.payload

def encodeHeader (chunkCount totalSize : Nat) : Bytes :=
  kMagic ++ Writer.u32 kContainerVersion ++ Writer.u32 (UInt32.ofNat kHeaderSize) ++
    Writer.u32 (UInt32.ofNat chunkCount) ++ Writer.u32 0 ++ Writer.u64 (UInt64.ofNat totalSize)

def encodeDocument (document : Document) : Except String Bytes :=
  if document.chunks.length > kMaximumChunkCount then .error "save state has too many chunks"
  else do
    let totalSize ← checkChunks [] kHeaderSize document.chunks
    return encodeHeader document.chunks.length totalSize ++ document.chunks.flatMap encodeChunk

def encode (document : Document) (output : Bytes) (error : String) : Call Bytes :=
  .ofExcept (encodeDocument document) output error

/-! ## Decoding -/

abbrev Reader := Bytes

def Reader.u32 (reader : Reader) : Option (UInt32 × Reader) :=
  (readLittleEndian 4 reader).map fun p => (UInt32.ofNat p.1, p.2)

def Reader.u64 (reader : Reader) : Option (UInt64 × Reader) :=
  (readLittleEndian 8 reader).map fun p => (UInt64.ofNat p.1, p.2)

def Reader.bytes (reader : Reader) (size : Nat) : Option (Bytes × Reader) := readRaw size reader

structure Header where
  containerVersion : UInt32
  headerSize : UInt32
  chunkCount : UInt32
  flags : UInt32
  totalSize : UInt64
  deriving DecidableEq

/-- The header's fields; `none` if the magic is not there or the bytes run out. -/
def Reader.header (reader : Reader) : Option (Header × Reader) := do
  let (magic, reader) ← reader.bytes kMagic.length
  if magic ≠ kMagic then none
  let (containerVersion, reader) ← reader.u32
  let (headerSize, reader) ← reader.u32
  let (chunkCount, reader) ← reader.u32
  let (flags, reader) ← reader.u32
  let (totalSize, reader) ← reader.u64
  return (⟨containerVersion, headerSize, chunkCount, flags, totalSize⟩, reader)

structure ChunkHeader where
  id : UInt32
  version : UInt32
  encodedFlags : UInt32
  reserved : UInt32
  payloadSize : UInt64
  encodedChecksum : UInt64
  deriving DecidableEq

def Reader.chunkHeader (reader : Reader) : Option (ChunkHeader × Reader) := do
  let (id, reader) ← reader.u32
  let (version, reader) ← reader.u32
  let (encodedFlags, reader) ← reader.u32
  let (reserved, reader) ← reader.u32
  let (payloadSize, reader) ← reader.u64
  let (encodedChecksum, reader) ← reader.u64
  return (⟨id, version, encodedFlags, reserved, payloadSize, encodedChecksum⟩, reader)

/-- One round of the loop of `decode`. `ids` are those seen. -/
def decodeChunk (ids : List UInt32) (reader : Reader) : Except String (Chunk × Reader) :=
  match reader.chunkHeader with
  | none => .error "save state chunk header is truncated"
  | some (header, reader) =>
    if header.reserved ≠ 0 ∨ header.encodedFlags &&& ~~~kKnownChunkFlags ≠ 0 then
      .error "save state chunk header is invalid"
    else if header.id ∈ ids then .error "save state contains a duplicate chunk"
    else if header.payloadSize.toNat > kMaximumFileSize then
      .error "save state chunk payload is truncated"
    else
      match reader.bytes header.payloadSize.toNat with
      | none => .error "save state chunk payload is truncated"
      | some (payload, reader) =>
        if checksum payload ≠ header.encodedChecksum then
          .error "save state chunk checksum mismatch"
        else .ok (⟨header.id, header.version, header.encodedFlags, payload⟩, reader)

def decodeChunks : Nat → List UInt32 → Reader → Except String (List Chunk × Reader)
  | 0, _, reader => .ok ([], reader)
  | count + 1, ids, reader => do
    let (chunk, reader) ← decodeChunk ids reader
    let (chunks, reader) ← decodeChunks count (chunk.id :: ids) reader
    return (chunk :: chunks, reader)

def decodeDocument (input : Bytes) : Except String Document :=
  if input.length < kHeaderSize then .error "save state header is truncated"
  else if input.length > kMaximumFileSize then .error "save state exceeds the maximum file size"
  else
    match Reader.header input with
    | none => .error "save state header is invalid"
    | some (header, reader) =>
      if header.containerVersion ≠ kContainerVersion then
        .error "unsupported save state container version"
      else if header.headerSize.toNat ≠ kHeaderSize ∨ header.flags ≠ 0 ∨
          header.totalSize.toNat ≠ input.length then
        .error "save state header fields are inconsistent"
      else if header.chunkCount.toNat > kMaximumChunkCount then
        .error "save state has too many chunks"
      else do
        let (chunks, reader) ← decodeChunks header.chunkCount.toNat [] reader
        if reader ≠ [] then .error "save state contains trailing bytes"
        return ⟨chunks⟩

def decode (input : Bytes) (document : Document) (error : String) : Call Document :=
  .ofExcept (decodeDocument input) document error

end SaveState

end Ps2Recomp
