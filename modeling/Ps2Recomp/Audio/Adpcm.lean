import Mathlib.Algebra.Order.Ring.Nat
import Mathlib.Data.List.Basic

/-!
# SPU ADPCM and VAG files (`ps2_audio_vag.cpp`)

`int32_t` values are integers, and `int32` is where they have to fit: `none` is a signed overflow.
`uint32_t` values are natural numbers, with `% 2 ^ 32` where one may wrap. `reserve` changes nothing
and is left out, and so are null pointers.

Decoding never overflows and is compositional (`decodeBlocks_append`). A VAG file gives the samples
its header asks for, as far as they are there, unless rounding the size up wraps
(`decoding_covers_iff`).
-/

namespace Ps2Recomp

/-- The result of an `int32_t` operation; `none` where it overflows. -/
def int32 (value : Int) : Option Int :=
  if -2 ^ 31 ≤ value ∧ value < 2 ^ 31 then some value else none

theorem int32_eq {v : Int} (hlo : -2 ^ 31 ≤ v) (hhi : v < 2 ^ 31) :
    int32 v = some v := if_pos ⟨hlo, hhi⟩

namespace SpuAdpcm

def clamp16 (v : Int) : Int := if v < -32768 then -32768 else if v > 32767 then 32767 else v

def signExtend4 (nibble : BitVec 8) : Int :=
  let s := nibble &&& 0x0F#8
  if s &&& 8#8 ≠ 0#8 then (s ||| 0xF0#8).toInt else s.toInt

structure DecoderState where
  previous1 : Int := 0
  previous2 : Int := 0
  deriving DecidableEq, Repr

def kPredictors : List (Int × Int) := [(0, 0), (60, 0), (115, -52), (98, -55), (122, -60)]

/-- The body of the loop over the samples of a block. -/
def decodeSample (shift filter : ℕ) (nibble : BitVec 8) (state : DecoderState) :
    Option (DecoderState × Int) := do
  let predictors := kPredictors.getD filter (0, 0)
  let rawSample := signExtend4 nibble
  let shiftedSample := (← int32 (rawSample * 4096)) >>> shift
  let weighted1 ← int32 (predictors.1 * state.previous1)
  let weighted2 ← int32 (predictors.2 * state.previous2)
  let predicted := (← int32 ((← int32 (weighted1 + weighted2)) + 32)) >>> (6 : ℕ)
  let sample := clamp16 (← int32 (shiftedSample + predicted))
  return ({ previous1 := sample, previous2 := state.previous1 }, sample)

/-- The loop over the samples of a block that are left. -/
def decodeSamples (block : List UInt8) (shift filter : ℕ) :
    List ℕ → DecoderState → List Int → Option (DecoderState × List Int)
  | [], state, outPcm => some (state, outPcm)
  | sampleIndex :: rest, state, outPcm => do
    let packed := (block.getD (2 + sampleIndex / 2) 0).toBitVec
    let nibble := if sampleIndex % 2 ≠ 0 then packed >>> 4 else packed &&& 0x0F#8
    let (state, sample) ← decodeSample shift filter nibble state
    decodeSamples block shift filter rest state (outPcm ++ [sample])

/-- The body of the loop over blocks. -/
def decodeBlock (block : List UInt8) (state : DecoderState) (outPcm : List Int) :
    Option (DecoderState × List Int) :=
  let header := (block.getD 0 0).toNat
  let shift := header % 16
  let encodedFilter := header / 16 % 16
  let filter := if encodedFilter < 5 then encodedFilter else 0
  decodeSamples block shift filter (List.range 28) state outPcm

/-- The loop over the blocks that are left. Of `data + blockIndex * 16u` only 16 bytes are read. -/
def decodeLoop (data : List UInt8) :
    List ℕ → DecoderState → List Int → Option (DecoderState × List Int)
  | [], state, outPcm => some (state, outPcm)
  | blockIndex :: rest, state, outPcm => do
    let (state, outPcm) ← decodeBlock ((data.drop (blockIndex * 16)).take 16) state outPcm
    decodeLoop data rest state outPcm

def decodeBlocks (data : List UInt8) (state : DecoderState) (outPcm : List Int) :
    Option (Bool × DecoderState × List Int) :=
  if data.length = 0 ∨ data.length % 16 ≠ 0 then some (false, state, outPcm)
  else do
    let (state, outPcm) ← decodeLoop data (List.range (data.length / 16)) state outPcm
    return (true, state, outPcm)

/-! ## Bounds -/

/-- A value of 16 bits. -/
def Fits16 (value : Int) : Prop := -32768 ≤ value ∧ value ≤ 32767

/-- The history is that of 16-bit samples. -/
structure DecoderState.Narrow (state : DecoderState) : Prop where
  previous1 : Fits16 state.previous1
  previous2 : Fits16 state.previous2

theorem narrow_default : DecoderState.Narrow {} := ⟨⟨by decide, by decide⟩, by decide, by decide⟩

theorem fits16_clamp16 (v : Int) : Fits16 (clamp16 v) := by
  unfold clamp16 Fits16
  split
  · decide
  · split <;> omega

theorem signExtend4_bounds :
    ∀ nibble : BitVec 8, -8 ≤ signExtend4 nibble ∧ signExtend4 nibble ≤ 7 := by decide

/-- An arithmetic shift goes towards zero, but not beyond -1. -/
theorem shiftRight_bounds (bound : Int) {value : Int} (hbound : 0 ≤ bound) (hlo : -bound ≤ value)
    (hhi : value ≤ bound) (shift : ℕ) : -bound ≤ value >>> shift ∧ value >>> shift ≤ bound := by
  have hpos : 0 < 2 ^ shift := Nat.two_pow_pos shift
  rw [Int.shiftRight_eq_div_pow]
  generalize 2 ^ shift = divisor at hpos ⊢
  have hdivisor : (1 : Int) ≤ divisor := Int.ofNat_le.2 hpos
  constructor
  · refine Int.le_ediv_of_mul_le (by omega) ?_
    have hmul : -bound * divisor ≤ -bound * 1 :=
      Int.mul_le_mul_of_nonpos_left (by omega) hdivisor
    omega
  · refine Int.ediv_le_of_le_mul (by omega) ?_
    have hmul : bound * 1 ≤ bound * divisor := Int.mul_le_mul_of_nonneg_left hdivisor hbound
    omega

theorem predictors_bounds (filter : ℕ) :
    (0 ≤ (kPredictors.getD filter (0, 0)).1 ∧ (kPredictors.getD filter (0, 0)).1 ≤ 122) ∧
      -60 ≤ (kPredictors.getD filter (0, 0)).2 ∧ (kPredictors.getD filter (0, 0)).2 ≤ 0 := by
  match filter with
  | 0 | 1 | 2 | 3 | 4 => decide
  | n + 5 =>
    have hnone : kPredictors.getD (n + 5) (0, 0) = (0, 0) := rfl
    rw [hnone]
    decide

variable {state : DecoderState}

/-- **No intermediate value overflows**, and the history stays narrow. -/
theorem decodeSample_spec (h : state.Narrow) (shift filter : ℕ) (nibble : BitVec 8) :
    ∃ sample, Fits16 sample ∧ decodeSample shift filter nibble state =
      some ({ previous1 := sample, previous2 := state.previous1 }, sample) := by
  obtain ⟨⟨hlo1, hhi1⟩, hlo2, hhi2⟩ := h
  obtain ⟨hraw, hraw'⟩ := signExtend4_bounds nibble
  obtain ⟨⟨hp1, hp1'⟩, hp2, hp2'⟩ := predictors_bounds filter
  have hshifted := shiftRight_bounds 32768 (by decide)
    (show -32768 ≤ signExtend4 nibble * 4096 by omega) (by omega) shift
  have hscaled := int32_eq (show -2 ^ 31 ≤ signExtend4 nibble * 4096 by omega) (by omega)
  unfold decodeSample
  dsimp only
  generalize signExtend4 nibble * 4096 = scaled at hshifted hscaled ⊢
  generalize kPredictors.getD filter (0, 0) = predictors at hp1 hp1' hp2 hp2' ⊢
  have hweighted1 : (predictors.1 * state.previous1).natAbs ≤ 122 * 32768 := by
    rw [Int.natAbs_mul]
    exact Nat.mul_le_mul (by omega) (by omega)
  have hweighted2 : (predictors.2 * state.previous2).natAbs ≤ 60 * 32768 := by
    rw [Int.natAbs_mul]
    exact Nat.mul_le_mul (by omega) (by omega)
  generalize predictors.1 * state.previous1 = weighted1 at hweighted1 ⊢
  generalize predictors.2 * state.previous2 = weighted2 at hweighted2 ⊢
  have hpredicted := shiftRight_bounds (182 * 32768 + 32) (by decide)
    (show -(182 * 32768 + 32) ≤ weighted1 + weighted2 + 32 by omega) (by omega) 6
  refine ⟨_, fits16_clamp16 (scaled >>> shift + (weighted1 + weighted2 + 32) >>> (6 : ℕ)), ?_⟩
  rw [hscaled, int32_eq (v := weighted1) (by omega) (by omega),
    int32_eq (v := weighted2) (by omega) (by omega)]
  simp only [Option.bind_eq_bind, Option.bind_some]
  rw [int32_eq (by omega) (by omega), Option.bind_some, int32_eq (by omega) (by omega),
    Option.bind_some, int32_eq (by omega) (by omega)]
  rfl

/-! ## Blocks -/

theorem decodeSamples_spec (block : List UInt8) (shift filter : ℕ) (indices : List ℕ)
    (h : state.Narrow) :
    ∃ state' samples, state'.Narrow ∧ samples.length = indices.length ∧ ∀ outPcm,
      decodeSamples block shift filter indices state outPcm = some (state', outPcm ++ samples) := by
  induction indices generalizing state with
  | nil =>
    refine ⟨state, [], h, rfl, fun outPcm => ?_⟩
    rw [decodeSamples, List.append_nil]
  | cons sampleIndex rest ih =>
    obtain ⟨sample, hsample, hdecode⟩ := decodeSample_spec h shift filter
      (if sampleIndex % 2 ≠ 0 then (block.getD (2 + sampleIndex / 2) 0).toBitVec >>> 4
        else (block.getD (2 + sampleIndex / 2) 0).toBitVec &&& 0x0F#8)
    have hnext : DecoderState.Narrow ⟨sample, state.previous1⟩ := ⟨hsample, h.previous1⟩
    obtain ⟨state', samples, hstate', hlength, hrest⟩ := ih hnext
    refine ⟨state', sample :: samples, hstate', congrArg Nat.succ hlength, fun outPcm => ?_⟩
    rw [decodeSamples]
    dsimp only
    rw [hdecode]
    simp only [Option.bind_eq_bind, Option.bind_some]
    rw [hrest, List.append_assoc]
    rfl

theorem decodeBlock_spec (block : List UInt8) (h : state.Narrow) :
    ∃ state' samples, state'.Narrow ∧ samples.length = 28 ∧ ∀ outPcm,
      decodeBlock block state outPcm = some (state', outPcm ++ samples) :=
  decodeSamples_spec block _ _ (List.range 28) h

theorem decodeLoop_spec (data : List UInt8) (indices : List ℕ) (h : state.Narrow) :
    ∃ state' samples, state'.Narrow ∧ samples.length = 28 * indices.length ∧ ∀ outPcm,
      decodeLoop data indices state outPcm = some (state', outPcm ++ samples) := by
  induction indices generalizing state with
  | nil =>
    refine ⟨state, [], h, rfl, fun outPcm => ?_⟩
    rw [decodeLoop, List.append_nil]
  | cons blockIndex rest ih =>
    obtain ⟨state₁, samples₁, hstate₁, hlength₁, hblock⟩ :=
      decodeBlock_spec ((data.drop (blockIndex * 16)).take 16) h
    obtain ⟨state₂, samples₂, hstate₂, hlength₂, hrest⟩ := ih hstate₁
    refine ⟨state₂, samples₁ ++ samples₂, hstate₂, ?_, fun outPcm => ?_⟩
    · rw [List.length_append, hlength₁, hlength₂, List.length_cons]
      omega
    · rw [decodeLoop, hblock]
      simp only [Option.bind_eq_bind, Option.bind_some]
      rw [hrest, List.append_assoc]

theorem decodeLoop_append (data : List UInt8) (indices indices' : List ℕ) (state : DecoderState)
    (outPcm : List Int) :
    decodeLoop data (indices ++ indices') state outPcm =
      (decodeLoop data indices state outPcm).bind fun result =>
        decodeLoop data indices' result.1 result.2 := by
  induction indices generalizing state outPcm with
  | nil => rfl
  | cons blockIndex rest ih =>
    rw [List.cons_append, decodeLoop, decodeLoop, Option.bind_eq_bind, Option.bind_assoc]
    congr 1
    funext result
    exact ih result.1 result.2

/-- A loop over the same blocks, at other places of other data. -/
theorem decodeLoop_congr {data data' : List UInt8} {f : ℕ → ℕ} {indices : List ℕ}
    (h : ∀ i ∈ indices, (data.drop (f i * 16)).take 16 = (data'.drop (i * 16)).take 16)
    (state : DecoderState) (outPcm : List Int) :
    decodeLoop data (indices.map f) state outPcm = decodeLoop data' indices state outPcm := by
  induction indices generalizing state outPcm with
  | nil => rfl
  | cons blockIndex rest ih =>
    rw [List.map_cons, decodeLoop, decodeLoop, h blockIndex List.mem_cons_self]
    congr 1
    funext result
    exact ih (fun i hi => h i (List.mem_cons_of_mem _ hi)) result.1 result.2

/-- The loop of `decodeBlocks`, also where there is no block. -/
def decodeAll (data : List UInt8) : DecoderState → List Int → Option (DecoderState × List Int) :=
  decodeLoop data (List.range (data.length / 16))

theorem decodeBlocks_eq {data : List UInt8} (haligned : data.length % 16 = 0)
    (state : DecoderState) (outPcm : List Int) :
    decodeBlocks data state outPcm = (decodeAll data state outPcm).map fun result =>
      (decide (data.length ≠ 0), result.1, result.2) := by
  unfold decodeBlocks decodeAll
  by_cases hzero : data.length = 0
  · rw [if_pos (.inl hzero), hzero]
    rfl
  · rw [if_neg (by omega), decide_eq_true hzero]
    cases decodeLoop data (List.range (data.length / 16)) state outPcm <;> rfl

theorem decodeAll_append {a b : List UInt8} (ha : a.length % 16 = 0) (state : DecoderState)
    (outPcm : List Int) :
    decodeAll (a ++ b) state outPcm =
      (decodeAll a state outPcm).bind fun result => decodeAll b result.1 result.2 := by
  have hcount : (a ++ b).length / 16 = a.length / 16 + b.length / 16 := by
    rw [List.length_append]
    omega
  unfold decodeAll
  rw [hcount, List.range_add, decodeLoop_append]
  have hleft : decodeLoop (a ++ b) (List.range (a.length / 16)) state outPcm =
      decodeLoop a (List.range (a.length / 16)) state outPcm := by
    have hsame := @decodeLoop_congr (a ++ b) a id (List.range (a.length / 16)) (fun i hi => by
      have hlt := List.mem_range.1 hi
      rw [id_eq, List.drop_append_of_le_length (by omega), List.take_append_of_le_length]
      rw [List.length_drop]
      omega) state outPcm
    rwa [List.map_id] at hsame
  have hright : ∀ state outPcm, decodeLoop (a ++ b)
        ((List.range (b.length / 16)).map (a.length / 16 + ·)) state outPcm =
      decodeLoop b (List.range (b.length / 16)) state outPcm :=
    decodeLoop_congr fun i _ => by
      have hskip : (a.length / 16 + i) * 16 = a.length + i * 16 := by omega
      rw [hskip, ← List.drop_drop, List.drop_left]
  rw [hleft]
  congr 1
  funext result
  exact hright result.1 result.2

theorem decodeAll_spec (data : List UInt8) (h : state.Narrow) :
    ∃ state' samples, state'.Narrow ∧ samples.length = 28 * (data.length / 16) ∧ ∀ outPcm,
      decodeAll data state outPcm = some (state', outPcm ++ samples) := by
  have hspec := decodeLoop_spec data (List.range (data.length / 16)) h
  rwa [List.length_range] at hspec

/-- Two strings of blocks one after the other, and at once: the same samples and the same state, and
no overflow. -/
def Compositional (a b : List UInt8) (state : DecoderState) (outPcm : List Int) : Prop :=
  ∃ ok₁ ok₂ ok state₁ state₂ samples₁ samples₂,
    decodeBlocks a state outPcm = some (ok₁, state₁, outPcm ++ samples₁) ∧
    decodeBlocks b state₁ (outPcm ++ samples₁) =
      some (ok₂, state₂, outPcm ++ samples₁ ++ samples₂) ∧
    decodeBlocks (a ++ b) state outPcm = some (ok, state₂, outPcm ++ samples₁ ++ samples₂) ∧
    samples₁.length = 28 * (a.length / 16) ∧ samples₂.length = 28 * (b.length / 16) ∧
    state₁.Narrow ∧ state₂.Narrow

/-- **Decoding is compositional.** -/
theorem decodeBlocks_append {a b : List UInt8} (ha : a.length % 16 = 0) (hb : b.length % 16 = 0)
    (h : state.Narrow) (outPcm : List Int) : Compositional a b state outPcm := by
  obtain ⟨state₁, samples₁, hstate₁, hlength₁, hfirst⟩ := decodeAll_spec a h
  obtain ⟨state₂, samples₂, hstate₂, hlength₂, hsecond⟩ := decodeAll_spec b hstate₁
  have hab : (a ++ b).length % 16 = 0 := by
    rw [List.length_append]
    omega
  refine ⟨decide (a.length ≠ 0), decide (b.length ≠ 0), decide ((a ++ b).length ≠ 0), state₁, state₂,
    samples₁, samples₂, ?_, ?_, ?_, hlength₁, hlength₂, hstate₁, hstate₂⟩
  · rw [decodeBlocks_eq ha, hfirst]
    rfl
  · rw [decodeBlocks_eq hb, hsecond]
    rfl
  · rw [decodeBlocks_eq hab, decodeAll_append ha, hfirst, Option.bind_some, hsecond]
    rfl

end SpuAdpcm

namespace Vag

open SpuAdpcm

/-- A big-endian word of the header. -/
def word (data : List UInt8) (offset : ℕ) : ℕ :=
  (data.getD offset 0).toNat * 2 ^ 24 + (data.getD (offset + 1) 0).toNat * 2 ^ 16 +
    (data.getD (offset + 2) 0).toNat * 2 ^ 8 + (data.getD (offset + 3) 0).toNat

/-- A little-endian word of the header. -/
def wordLE (data : List UInt8) (offset : ℕ) : ℕ :=
  (data.getD (offset + 3) 0).toNat * 2 ^ 24 + (data.getD (offset + 2) 0).toNat * 2 ^ 16 +
    (data.getD (offset + 1) 0).toNat * 2 ^ 8 + (data.getD offset 0).toNat

def dataSize (data : List UInt8) : ℕ := word data 0x0c

/-- `(dataSize + 15) / 16`, a `uint32_t` sum. -/
def numBlocks (data : List UInt8) : ℕ := (dataSize data + 15) % 2 ^ 32 / 16

def availableBlocks (data : List UInt8) : ℕ := (data.length - 48) / 16

/-- `decode`: the samples and the rate, or `none` inside where it returns `false`. -/
def decode (data : List UInt8) : Option (Option (List Int × ℕ)) :=
  if data.length < 48 then some none
  else if word data 0 ≠ 0x56414770 ∧ wordLE data 0 ≠ 0x56414770 then some none
  else
    let outSampleRate := if word data 0x10 = 0 then 44100 else word data 0x10
    let blocksToDecode := min (numBlocks data) (availableBlocks data)
    if blocksToDecode = 0 then some (some ([], outSampleRate))
    else do
      let (ok, _, outPcm) ← decodeBlocks ((data.drop 48).take (blocksToDecode * 16)) {} []
      return if ok then some (outPcm, outSampleRate) else none

/-! ## The samples of a file -/

variable {data : List UInt8} {pcm : List Int} {rate : ℕ}

theorem word_lt (data : List UInt8) (offset : ℕ) : word data offset < 2 ^ 32 := by
  have hbyte : ∀ byte : UInt8, byte.toNat < 2 ^ 8 := UInt8.toNat_lt
  have h₀ := hbyte (data.getD offset 0)
  have h₁ := hbyte (data.getD (offset + 1) 0)
  have h₂ := hbyte (data.getD (offset + 2) 0)
  have h₃ := hbyte (data.getD (offset + 3) 0)
  unfold word
  omega

/-- A file with a header is accepted, without overflow. -/
theorem decode_spec (hheader : 48 ≤ data.length)
    (hmagic : word data 0 = 0x56414770 ∨ wordLE data 0 = 0x56414770) :
    ∃ pcm rate, decode data = some (some (pcm, rate)) ∧
      pcm.length = 28 * min (numBlocks data) (availableBlocks data) := by
  unfold decode
  rw [if_neg (by omega), if_neg (by omega)]
  dsimp only
  generalize hcount : min (numBlocks data) (availableBlocks data) = blocksToDecode
  split
  · rename_i hzero
    rw [hzero]
    exact ⟨_, _, rfl, rfl⟩
  · rename_i hblocks
    have hlength : ((data.drop 48).take (blocksToDecode * 16)).length = blocksToDecode * 16 := by
      rw [List.length_take, List.length_drop]
      unfold availableBlocks at hcount
      omega
    obtain ⟨state, samples, -, hsamples, hall⟩ :=
      decodeAll_spec ((data.drop 48).take (blocksToDecode * 16)) narrow_default
    rw [decodeBlocks_eq (by omega), hall, hlength, decide_eq_true (by omega)]
    refine ⟨_, _, rfl, ?_⟩
    rw [List.nil_append, hsamples, hlength]
    omega

theorem length_decode (h : decode data = some (some (pcm, rate))) :
    pcm.length = 28 * min (numBlocks data) (availableBlocks data) := by
  by_cases hheader : 48 ≤ data.length
  · by_cases hmagic : word data 0 = 0x56414770 ∨ wordLE data 0 = 0x56414770
    · obtain ⟨pcm', rate', hdecode, hlength⟩ := decode_spec hheader hmagic
      rw [hdecode] at h
      cases h
      exact hlength
    · unfold decode at h
      rw [if_neg (by omega), if_pos (not_or.1 hmagic)] at h
      cases h
  · unfold decode at h
    rw [if_pos (by omega)] at h
    cases h

/-- The samples are those that the header asks for and the file has. -/
def Covers (data : List UInt8) (pcm : List Int) : Prop :=
  pcm.length = 28 * min ((dataSize data + 15) / 16) ((data.length - 48) / 16)

instance (data : List UInt8) (pcm : List Int) : Decidable (Covers data pcm) :=
  inferInstanceAs (Decidable (_ = _))

/-- **Decoding**: blocks are decoded one by one and without overflow, and a file that is accepted is
covered exactly if rounding up its size does not wrap, or it has no whole block. -/
theorem decoding_covers_iff {a b : List UInt8} {state : DecoderState} (outPcm : List Int)
    (ha : a.length % 16 = 0) (hb : b.length % 16 = 0) (hstate : state.Narrow)
    (haccepted : decode data = some (some (pcm, rate))) :
    Compositional a b state outPcm ∧
      (Covers data pcm ↔ dataSize data ≤ 0xFFFFFFF0 ∨ data.length < 64) := by
  refine ⟨decodeBlocks_append ha hb hstate outPcm, ?_⟩
  have hsize : dataSize data < 2 ^ 32 := word_lt data 0x0c
  have hlength := length_decode haccepted
  unfold numBlocks availableBlocks at hlength
  unfold Covers
  rw [hlength]
  omega

/-- A header with a size and a rate, and so many bytes of blocks. -/
def fileOf (sizeBytes : List UInt8) (blocks : ℕ) : List UInt8 :=
  [0x56, 0x41, 0x47, 0x70, 0, 0, 0, 3, 0, 0, 0, 0] ++ sizeBytes ++ [0, 0, 0x56, 0x22] ++
    List.replicate 28 0 ++ List.replicate (16 * blocks) 0x12

/-- A size that is no multiple of a block, and a block more than it asks for. -/
theorem decoding_covers_rounded : ∃ pcm rate,
    decode (fileOf [0, 0, 0, 17] 3) = some (some (pcm, rate)) ∧
      Covers (fileOf [0, 0, 0, 17] 3) pcm := by
  obtain ⟨pcm, rate, haccepted, -⟩ := @decode_spec (fileOf [0, 0, 0, 17] 3) (by decide) (by decide)
  have hall := @decoding_covers_iff _ _ _ (List.replicate 16 0x12) (List.replicate 32 0x34) {} []
    (by decide) (by decide) narrow_default haccepted
  exact ⟨pcm, rate, haccepted, hall.2.2 (by decide)⟩

/-- **A file that is not covered**: it says that it has nearly 4 GiB, has one block, and gives no
sample. -/
theorem largest_size_not_covered :
    decode (fileOf [0xFF, 0xFF, 0xFF, 0xFF] 1) = some (some ([], 22050)) ∧
      ¬Covers (fileOf [0xFF, 0xFF, 0xFF, 0xFF] 1) [] := by
  decide +kernel

end Vag

end Ps2Recomp
