import Ps2Recomp.Vif.Vif1
import Mathlib.Data.List.FinRange
import Mathlib.Data.Nat.Notation

/-!
# The shortcut of UNPACK is the loop

An unmasked V4 UNPACK that fills consecutive vectors, in mode 0 or 1, is done by
`tryUnpackContiguousV4` and not by the loop over the write cycles. Both store one vector after
another, modulo the size of the data memory (`storeVectors`): the loop because with `cl = wl` write
`i` goes to vector `vuAddr + i` and reads source vector `i`, the shortcut in chunks that end where
the memory does , or by copying the bytes.
-/

namespace Ps2Recomp

open BitMemory (Memory load store)

/-! ## Vectors one after another -/

/-- Store `count` vectors from vector `start` on, modulo the number of vectors in memory. -/
def storeVectors (vectors start : ℕ) (value : ℕ → Lanes) (count : ℕ) (data : Memory) : Memory :=
  (List.range count).foldl
    (fun data i => storeLanes data ((start + i) % vectors * 16) (value i)) data

variable {vectors start vector count : ℕ} {value value' : ℕ → Lanes} {data : Memory}

theorem storeVectors_succ (vectors start : ℕ) (value : ℕ → Lanes) (count : ℕ) (data : Memory) :
    storeVectors vectors start value (count + 1) data =
      storeVectors vectors ((start + 1) % vectors) (fun i => value (i + 1)) count
        (storeLanes data (start % vectors * 16) (value 0)) := by
  unfold storeVectors
  rw [List.range_succ_eq_map, List.foldl_cons, List.foldl_map, Nat.add_zero]
  have hnext : ∀ i, (start + (i + 1)) % vectors = ((start + 1) % vectors + i) % vectors := by
    intro i
    rw [Nat.mod_add_mod, Nat.add_assoc, Nat.add_comm 1 i]
  congr 1
  funext data i
  rw [← hnext]

theorem storeVectors_congr (h : ∀ i < count, value i = value' i) :
    storeVectors vectors start value count data = storeVectors vectors start value' count data := by
  unfold storeVectors
  induction count with
  | zero => rfl
  | succ count ih =>
    rw [List.range_succ, List.foldl_append, List.foldl_append, ih fun i hi => h i (by omega)]
    rw [List.foldl_cons, List.foldl_cons, h count (Nat.lt_succ_self count)]
    rfl

theorem storeVectors_concat (vectors start : ℕ) (value : ℕ → Lanes) (count : ℕ) (data : Memory) :
    storeVectors vectors start value (count + 1) data =
      storeLanes (storeVectors vectors start value count data) ((start + count) % vectors * 16)
        (value count) := by
  unfold storeVectors
  rw [List.range_succ, List.foldl_append]
  rfl

/-! ## The chunks of the shortcut -/

section Chunks

variable (row : Lanes) (width : ℕ) (zeroExtend : Bool) (mode : BitVec 32)

/-- The vector that the shortcut makes of the front of the source. -/
def contiguousVector (source : List UInt8) : Lanes := fun lane =>
  let raw := extend zeroExtend width (component source width lane)
  if mode = 1 then raw + row lane else raw

/-- The inner loop: `chunk` vectors from the offset on. -/
def unpackChunk : ℕ → Memory → ℕ → List UInt8 → Memory × List UInt8
  | 0, destination, _, source => (destination, source)
  | chunk + 1, destination, output, source =>
    unpackChunk chunk
      (storeLanes destination output (contiguousVector row width zeroExtend mode source))
      (output + 16) (source.drop (4 * width))

/-- The outer loop of `tryUnpackContiguousV4`: a chunk ends with the memory. A vector past the end,
where the loop of the source would not end, stores nothing; the caller has none. -/
def unpackChunks (destinationVectors remaining : ℕ) (destination : Memory) (vector : ℕ)
    (source : List UInt8) : Memory :=
  if _h : remaining = 0 ∨ destinationVectors - vector = 0 then destination
  else
    let chunk := min remaining (destinationVectors - vector)
    let unpacked := unpackChunk row width zeroExtend mode chunk destination (vector * 16) source
    unpackChunks destinationVectors (remaining - chunk) unpacked.1 0 unpacked.2
termination_by remaining
decreasing_by omega

theorem unpackChunk_eq (destinationVectors : ℕ) (chunk more : ℕ) (destination : Memory)
    (source : List UInt8) (hvector : vector + chunk ≤ destinationVectors) (hmore : 0 < chunk) :
    unpackContiguous row width zeroExtend mode destinationVectors (chunk + more) destination vector
        source =
      unpackContiguous row width zeroExtend mode destinationVectors more
        (unpackChunk row width zeroExtend mode chunk destination (vector * 16) source).1
        (if vector + chunk = destinationVectors then 0 else vector + chunk)
        (unpackChunk row width zeroExtend mode chunk destination (vector * 16) source).2 := by
  induction chunk generalizing destination vector source with
  | zero => omega
  | succ chunk ih =>
    rw [Nat.add_right_comm, unpackContiguous, unpackChunk]
    have hoffset : vector * 16 + 16 = (vector + 1) * 16 := (Nat.succ_mul vector 16).symm
    rw [hoffset]
    rcases Nat.eq_zero_or_pos chunk with rfl | hpos
    · rw [Nat.zero_add, Nat.zero_add]
      rfl
    · rw [if_neg (by omega), ih _ _ (by omega) hpos]
      rw [show vector + 1 + chunk = vector + (chunk + 1) by omega]
      rfl

/-- **The chunks** store the vectors one after another. -/
theorem unpackChunks_eq {destinationVectors : ℕ} (hpos : 0 < destinationVectors) (remaining : ℕ)
    (destination : Memory) (hvector : vector < destinationVectors) (source : List UInt8) :
    unpackChunks row width zeroExtend mode destinationVectors remaining destination vector source =
      unpackContiguous row width zeroExtend mode destinationVectors remaining destination vector
        source := by
  induction remaining using Nat.strong_induction_on generalizing destination vector source with
  | _ remaining ih =>
    rw [unpackChunks]
    split
    · rename_i hzero
      obtain rfl : remaining = 0 := by omega
      rfl
    · rename_i hsome
      dsimp only
      rw [ih _ (by omega) _ hpos]
      generalize hchunk : min remaining (destinationVectors - vector) = chunk
      have hsplit : remaining = chunk + (remaining - chunk) := by omega
      have hunpacked := unpackChunk_eq row width zeroExtend mode destinationVectors chunk
        (remaining - chunk) destination source (show vector + chunk ≤ _ by omega) (by omega)
      rw [← hsplit] at hunpacked
      rw [hunpacked]
      rcases Nat.eq_zero_or_pos (remaining - chunk) with hnone | hmore
      · rw [hnone]
        rfl
      · rw [if_pos (by omega)]

theorem unpackContiguous_eq {destinationVectors : ℕ} (remaining : ℕ) (destination : Memory)
    (hvector : vector < destinationVectors) (source : List UInt8) :
    unpackContiguous row width zeroExtend mode destinationVectors remaining destination vector
        source =
      storeVectors destinationVectors vector
        (fun i => contiguousVector row width zeroExtend mode (source.drop (i * (4 * width))))
        remaining destination := by
  induction remaining generalizing destination vector source with
  | zero => rfl
  | succ remaining ih =>
    rw [unpackContiguous, storeVectors_succ, Nat.zero_mul, List.drop_zero,
      Nat.mod_eq_of_lt hvector]
    have hnext : (if vector + 1 = destinationVectors then 0 else vector + 1) =
        (vector + 1) % destinationVectors := by
      split
      · rename_i heq
        rw [heq, Nat.mod_self]
      · rw [Nat.mod_eq_of_lt (by omega)]
    rw [hnext, ih _ (Nat.mod_lt _ (by omega))]
    refine storeVectors_congr fun i _ => ?_
    rw [List.drop_drop, Nat.add_comm (4 * width), ← Nat.succ_mul i (4 * width)]

end Chunks

/-! ## The copied bytes -/

theorem littleEndian_lt (bytes : List UInt8) : littleEndian bytes < 256 ^ bytes.length := by
  induction bytes with
  | nil => decide
  | cons byte rest ih =>
    have hbyte := byte.toNat_lt
    rw [littleEndian, List.length_cons, Nat.pow_succ]
    omega

/-- Byte `j` of a little-endian number. -/
theorem littleEndian_byte (bytes : List UInt8) {j : ℕ} (hj : j < bytes.length) :
    UInt8.ofNat (littleEndian bytes >>> (8 * j)) = bytes[j] := by
  induction bytes generalizing j with
  | nil => cases hj
  | cons byte rest ih =>
    have hbyte := byte.toNat_lt
    rw [littleEndian]
    cases j with
    | zero =>
      rw [Nat.mul_zero, Nat.shiftRight_zero, List.getElem_cons_zero, ← UInt8.toNat_inj,
        UInt8.toNat_ofNat']
      omega
    | succ j =>
      rw [Nat.mul_succ, Nat.add_comm (8 * j), Nat.shiftRight_add, Nat.shiftRight_eq_div_pow _ 8,
        List.getElem_cons_succ, ← ih (Nat.lt_of_succ_lt_succ hj)]
      congr 2
      omega

theorem storeLanes_apply (data : Memory) (offset : ℕ) (lanes : Lanes) (address : ℕ) :
    storeLanes data offset lanes address =
      if offset ≤ address ∧ address < offset + 16 then
        UInt8.ofNat ((lanes (Fin.ofNat 4 ((address - offset) / 4))).toNat >>>
          (8 * ((address - offset) % 4)))
      else data address := by
  have hlanes : List.finRange 4 = [0, 1, 2, 3] := by decide
  have hval : ((0 : Fin 4) : ℕ) = 0 ∧ ((1 : Fin 4) : ℕ) = 1 ∧ ((2 : Fin 4) : ℕ) = 2 ∧
      ((3 : Fin 4) : ℕ) = 3 := by decide
  unfold storeLanes store
  rw [hlanes]
  simp only [List.foldl_cons, List.foldl_nil, hval]
  by_cases hin : offset ≤ address ∧ address < offset + 16
  · rw [if_pos hin]
    obtain ⟨i, rfl⟩ := Nat.exists_eq_add_of_le hin.1
    have hbyte : ∀ lane : Fin 4, offset + 4 * lane.val ≤ offset + i ∧
        offset + i < offset + 4 * lane.val + 4 →
        UInt8.ofNat ((lanes lane).toNat >>> (8 * (offset + i - (offset + 4 * lane.val)))) =
          UInt8.ofNat ((lanes (Fin.ofNat 4 ((offset + i - offset) / 4))).toNat >>>
            (8 * ((offset + i - offset) % 4))) := by
      intro lane hlane
      have hindex : Fin.ofNat 4 ((offset + i - offset) / 4) = lane := by
        apply Fin.ext
        rw [Fin.val_ofNat]
        omega
      rw [hindex]
      congr 3
      omega
    split_ifs with h3 h2 h1 h0
    · exact hbyte 3 h3
    · exact hbyte 2 h2
    · exact hbyte 1 h1
    · exact hbyte 0 h0
    · omega
  · rw [if_neg hin, if_neg (by omega), if_neg (by omega), if_neg (by omega), if_neg (by omega)]

/-- A V4-32 vector is stored as its bytes. -/
theorem storeLanes_words (data : Memory) (offset : ℕ) (zeroExtend : Bool) {source : List UInt8}
    (hsource : 16 ≤ source.length) :
    storeLanes data offset (fun lane => extend zeroExtend 4 (component source 4 lane)) =
      writeBytes data offset (source.take 16) := by
  have hword : ∀ raw, extend zeroExtend 4 raw = BitVec.ofNat 32 raw := by
    intro raw
    cases zeroExtend with
    | true => rfl
    | false => exact BitVec.signExtend_eq _
  funext address
  rw [storeLanes_apply]
  unfold writeBytes
  by_cases hin : offset ≤ address ∧ address < offset + 16
  · obtain ⟨i, rfl⟩ := Nat.exists_eq_add_of_le hin.1
    have hi : i < 16 := by omega
    rw [if_pos hin, if_pos hin.1, Nat.add_sub_cancel_left, hword, BitVec.toNat_ofNat,
      List.getElem?_take_of_lt hi, List.getElem?_eq_getElem (by omega), Option.getD_some]
    unfold component
    generalize hbytes : (source.drop ((Fin.ofNat 4 (i / 4)).val * 4)).take 4 = bytes
    have hlane : (Fin.ofNat 4 (i / 4)).val = i / 4 := by
      rw [Fin.val_ofNat]
      omega
    have hlength : bytes.length = 4 := by
      rw [← hbytes, List.length_take, List.length_drop, hlane]
      omega
    have hlt := littleEndian_lt bytes
    rw [hlength] at hlt
    rw [Nat.mod_eq_of_lt (hlt.trans_eq (by decide)), littleEndian_byte bytes (by omega)]
    simp only [← hbytes, List.getElem_take, List.getElem_drop, hlane]
    congr 1
    omega
  · rw [if_neg hin]
    split
    · rw [List.getElem?_eq_none (by rw [List.length_take]; omega), Option.getD_none]
    · rfl

theorem writeBytes_append (data : Memory) (offset : ℕ) (bytes more : List UInt8) :
    writeBytes data offset (bytes ++ more) =
      writeBytes (writeBytes data offset bytes) (offset + bytes.length) more := by
  funext address
  unfold writeBytes
  by_cases hfirst : address < offset + bytes.length
  · rw [if_neg (show ¬offset + bytes.length ≤ address by omega)]
    split
    · rw [List.getElem?_append_left (by omega)]
    · rfl
  · rw [if_pos (show offset ≤ address by omega),
      if_pos (show offset + bytes.length ≤ address by omega),
      List.getElem?_append_right (by omega), Nat.sub_sub]
    rw [if_pos (show offset ≤ address by omega), List.getElem?_eq_none (l := bytes) (by omega)]
    rfl

theorem copyWrappedMicroMemory_nil (data : Memory) (size offset : ℕ) :
    copyWrappedMicroMemory data size offset [] = data := by
  rw [copyWrappedMicroMemory, dif_pos (.inl rfl)]

/-- A copy writes its first bytes and goes on after them. -/
theorem copyWrappedMicroMemory_append (data : Memory) {size offset : ℕ} {bytes : List UInt8}
    (hbytes : bytes ≠ []) (hfits : offset + bytes.length ≤ size) (more : List UInt8) :
    copyWrappedMicroMemory data size offset (bytes ++ more) =
      copyWrappedMicroMemory (writeBytes data offset bytes) size
        (if offset + bytes.length = size then 0 else offset + bytes.length) more := by
  have hpos := List.length_pos_iff.2 hbytes
  rw [copyWrappedMicroMemory, dif_neg]
  · dsimp only
    rw [List.length_append]
    split
    · rename_i hend
      rw [show min (bytes.length + more.length) (size - offset) = bytes.length by omega,
        List.take_left, List.drop_left]
    · rename_i hinside
      rw [show min (bytes.length + more.length) (size - offset) =
        bytes.length + min more.length (size - (offset + bytes.length)) by omega,
        List.take_length_add_append, List.drop_length_add_append, writeBytes_append]
      rcases more with _ | ⟨byte, more⟩
      · rw [List.length_nil, Nat.zero_min, List.take_zero, List.drop_zero,
          copyWrappedMicroMemory_nil, copyWrappedMicroMemory_nil]
        funext address
        unfold writeBytes
        rw [List.getElem?_nil, Option.getD_none, ite_self]
      · rw [copyWrappedMicroMemory.eq_def _ _ (offset + bytes.length), dif_neg]
        rw [not_or]
        exact ⟨List.cons_ne_nil _ _, by omega⟩
  · rw [not_or]
    exact ⟨by simp [hbytes], by omega⟩

/-- **The copy** stores the vectors one after another. -/
theorem copyWrappedMicroMemory_eq (zeroExtend : Bool) (count : ℕ) (data : Memory)
    (hvector : vector < vectors) {source : List UInt8} (hsource : source.length = count * 16) :
    copyWrappedMicroMemory data (vectors * 16) (vector * 16) source =
      storeVectors vectors vector
        (fun i lane => extend zeroExtend 4 (component (source.drop (i * 16)) 4 lane)) count data := by
  induction count generalizing data vector source with
  | zero =>
    obtain rfl : source = [] := List.length_eq_zero_iff.1 (by omega)
    exact copyWrappedMicroMemory_nil _ _ _
  | succ count ih =>
    have htake : (source.take 16).length = 16 := by
      rw [List.length_take]
      omega
    have hnonempty : source.take 16 ≠ [] := List.ne_nil_of_length_pos (by omega)
    have hcopy := copyWrappedMicroMemory_append data hnonempty
      (show vector * 16 + (source.take 16).length ≤ vectors * 16 by omega) (source.drop 16)
    rw [List.take_append_drop] at hcopy
    have hnext : (if vector * 16 + (source.take 16).length = vectors * 16 then 0
        else vector * 16 + (source.take 16).length) = (vector + 1) % vectors * 16 := by
      rw [htake]
      split
      · rw [show vector + 1 = vectors by omega, Nat.mod_self]
      · rw [Nat.mod_eq_of_lt (by omega)]
        omega
    rw [hcopy, hnext, ih _ (Nat.mod_lt _ (by omega)) (by rw [List.length_drop]; omega),
      storeVectors_succ, Nat.mod_eq_of_lt hvector, Nat.zero_mul, List.drop_zero,
      storeLanes_words data _ zeroExtend (by omega)]
    refine storeVectors_congr fun i _ => ?_
    rw [List.drop_drop, Nat.add_comm 16, ← Nat.succ_mul]

/-! ## The loop -/

/-- The vectors of V4-32, V4-16 and V4-8 are whole words. -/
theorem UnpackFormat.bytesPerVector_four {format : UnpackFormat} (hfour : format.vn = 3)
    (hwidth : format.vl ≤ 2) : format.bytesPerVector = 4 * (format.bitsPerComponent / 8) := by
  have hvl : format.vl = 0 ∨ format.vl = 1 ∨ format.vl = 2 := by omega
  unfold bytesPerVector bitsPerVector components bitsPerComponent
  rcases hvl with hvl | hvl | hvl <;> simp [hvl, hfour]

/-- The UNPACKs that the shortcut is for, with the whole payload. -/
structure Unpack.Contiguous (regs : VIFRegisters) (unpack : Unpack) : Prop where
  unmasked : unpack.format.maskEnable = false
  four : unpack.format.vn = 3
  width : unpack.format.vl ≤ 2
  cycles : unpack.cl = unpack.wl
  cycle : 0 < unpack.wl
  mode : regs.mode &&& 3 ≤ 1
  start : unpack.vuAddr < 1024
  sources : unpack.sources = unpack.writes
  bytes : unpack.payload.length = unpack.writes * unpack.format.bytesPerVector

namespace Unpack

def componentBytes (unpack : Unpack) : ℕ := unpack.format.bitsPerComponent / 8

/-- The source from vector `i` on. -/
def sourceVector (unpack : Unpack) (i : ℕ) : List UInt8 :=
  unpack.payload.drop (i * (4 * unpack.componentBytes))

namespace Contiguous

variable {regs : VIFRegisters} {unpack : Unpack} (h : unpack.Contiguous regs)
include h

theorem components_eq : unpack.format.components = 4 := by
  unfold UnpackFormat.components
  rw [h.four]

theorem componentBytes_eq : unpack.componentBytes =
    if unpack.format.vl = 0 then 4 else if unpack.format.vl = 1 then 2 else 1 := by
  have hwidth := h.width
  have hvl : unpack.format.vl = 0 ∨ unpack.format.vl = 1 ∨ unpack.format.vl = 2 := by omega
  unfold componentBytes UnpackFormat.bitsPerComponent
  rcases hvl with hvl | hvl | hvl <;> simp [hvl]

theorem bytesPerVector_eq : unpack.format.bytesPerVector = 4 * unpack.componentBytes :=
  UnpackFormat.bytesPerVector_four h.four h.width

theorem decodeVector_eq {i : ℕ} (hi : i < unpack.writes) (lanes : Lanes)
    (srcIndex : ℕ) : decodeVector unpack.format unpack.zeroExtend (unpack.sourceVector i) lanes
      srcIndex unpack.sourceWordAlignment =
    some fun (lane : Fin 4) => extend unpack.zeroExtend unpack.componentBytes
      (component (unpack.sourceVector i) unpack.componentBytes lane) := by
  have hfour := h.components_eq
  have hlength : 4 * unpack.componentBytes ≤ (unpack.sourceVector i).length := by
    have hbytes := h.bytes
    rw [h.bytesPerVector_eq] at hbytes
    have hnext := Nat.mul_le_mul_right (4 * unpack.componentBytes) (Nat.succ_le_of_lt hi)
    rw [Nat.succ_mul] at hnext
    unfold sourceVector
    rw [List.length_drop]
    omega
  have hzero : zeroW unpack.format srcIndex unpack.sourceWordAlignment = false := by
    unfold zeroW
    rw [hfour]
    rfl
  unfold decodeVector decompress
  rw [if_pos h.width, hzero, hfour, if_neg (by decide), if_neg (by decide), if_neg (by decide),
    Option.map_some]
  congr 1
  funext lane
  rw [if_neg (by simp)]
  have hlane : (lane.val + 1) * unpack.componentBytes ≤ 4 * unpack.componentBytes :=
    Nat.mul_le_mul_right _ (by omega)
  exact if_pos ⟨lane.isLt, hlane.trans hlength⟩

/-- With `cl = wl` write `i` goes to vector `vuAddr + i`. -/
theorem destVec_eq (i : ℕ) :
    unpack.vuAddr + i / unpack.wl * unpack.cl + i % unpack.wl = unpack.vuAddr + i := by
  rw [h.cycles, Nat.add_assoc, Nat.div_add_mod']

theorem writeVector_eq {i : ℕ} (hi : i < unpack.writes) (data : Memory) :
    writeVector regs unpack { data, row := regs.row, srcIndex := i } i =
      { data := storeLanes data ((unpack.vuAddr + i) % 1024 * 16)
          (contiguousVector regs.row unpack.componentBytes unpack.zeroExtend (regs.mode &&& 3)
            (unpack.sourceVector i))
        row := regs.row
        srcIndex := i + 1 } := by
  have hmode := h.mode
  have hwl : unpack.wl ≤ unpack.cl := h.cycles.ge
  have hsource : i < unpack.sources := by
    rw [h.sources]
    exact hi
  have hoffset : ¬(unpack.vuAddr + i) % 1024 * 16 + 16 > PS2_VU1_DATA_SIZE := by
    have hvector := Nat.mod_lt (unpack.vuAddr + i) (show 1024 > 0 by decide)
    unfold PS2_VU1_DATA_SIZE
    omega
  have hspec : ∀ field, maskSpec regs false true (min (i % unpack.wl) 3) field = 0 :=
    fun _ => rfl
  have hnot2 : regs.mode &&& 3 ≠ 2 := by
    intro htwo
    rw [htwo] at hmode
    exact absurd hmode (by decide)
  have hvector : unpack.payload.drop (i * unpack.format.bytesPerVector) = unpack.sourceVector i := by
    rw [h.bytesPerVector_eq]
    rfl
  have hadd : ¬unpack.format.vl = 3 := by
    have hwidth := h.width
    omega
  unfold writeVector
  simp only [hwl, if_true, h.destVec_eq, if_neg hoffset, hsource, decide_true, Bool.true_or,
    Bool.and_self, hvector, h.decodeVector_eq hi, Option.isNone_some, Bool.and_false,
    Bool.false_and, Bool.false_eq_true, if_false, h.unmasked, hspec, hadd, decide_false,
    Bool.not_false, Option.isSome_some, hnot2, Bool.or_false, Bool.true_and]
  congr 1
  congr 1
  funext lane
  unfold contiguousVector
  simp only [decide_eq_true_eq]

/-- **The loop** stores the vectors one after another, and reads one for each. -/
theorem loop_eq (data : Memory) (count : ℕ) (hcount : count ≤ unpack.writes) :
    (List.range count).foldl (writeVector regs unpack) { data, row := regs.row } =
      { data := storeVectors 1024 unpack.vuAddr
          (fun i => contiguousVector regs.row unpack.componentBytes unpack.zeroExtend
            (regs.mode &&& 3) (unpack.sourceVector i)) count data
        row := regs.row
        srcIndex := count } := by
  induction count with
  | zero => rfl
  | succ count ih =>
    rw [List.range_succ, List.foldl_append, ih (by omega), List.foldl_cons, List.foldl_nil,
      h.writeVector_eq hcount, storeVectors_concat]

/-- **The shortcut** stores the same vectors. -/
theorem tryUnpackContiguousV4_eq (data : Memory) :
    tryUnpackContiguousV4 data PS2_VU1_DATA_SIZE unpack.vuAddr unpack.payload unpack.writes
        unpack.format.vl unpack.zeroExtend (regs.mode &&& 3) regs.row =
      some (storeVectors 1024 unpack.vuAddr
        (fun i => contiguousVector regs.row unpack.componentBytes unpack.zeroExtend
          (regs.mode &&& 3) (unpack.sourceVector i)) unpack.writes data) := by
  have hmode : regs.mode &&& 3#32 ≤ 1#32 := h.mode
  have hwidth : ¬unpack.format.vl > 2 := Nat.not_lt.2 h.width
  have hbytes := h.bytes
  rw [h.bytesPerVector_eq] at hbytes
  have hcomponent := h.componentBytes_eq
  have hvectors : PS2_VU1_DATA_SIZE / 16 = 1024 := rfl
  unfold tryUnpackContiguousV4
  rw [if_neg (by simp [hmode, hwidth, PS2_VU1_DATA_SIZE])]
  dsimp only
  rw [hvectors, Nat.mod_eq_of_lt h.start]
  split
  · -- the bytes are the vectors
    rename_i hcopied
    obtain ⟨hvl, hnot1⟩ : unpack.format.vl = 0 ∧ regs.mode &&& 3 ≠ 1 := by simpa using hcopied
    rw [if_pos hvl] at hcomponent
    rw [hcomponent] at hbytes
    rw [List.take_of_length_le hbytes.le,
      show PS2_VU1_DATA_SIZE = 1024 * 16 from rfl,
      copyWrappedMicroMemory_eq unpack.zeroExtend unpack.writes data h.start hbytes]
    unfold contiguousVector sourceVector
    simp only [hcomponent, if_neg hnot1]
  · rw [← hcomponent, unpackContiguous_eq _ _ _ _ _ _ h.start]
    rfl

end Contiguous

end Unpack

/-- The shortcut as the source has it, in chunks that end with the memory. -/
def tryUnpackContiguousV4InChunks (destination : Memory) (destinationSize destinationVector : ℕ)
    (source : List UInt8) (vectorCount componentWidth : ℕ) (zeroExtend : Bool)
    (mode : BitVec 32) (row : Lanes) : Option Memory :=
  if destinationSize < 16 || destinationSize % 16 ≠ 0 || componentWidth > 2 || mode > 1 then none
  else
    let destinationVectors := destinationSize / 16
    let vector := destinationVector % destinationVectors
    if componentWidth = 0 && mode ≠ 1 then
      some (copyWrappedMicroMemory destination destinationSize (vector * 16)
        (source.take (vectorCount * 16)))
    else
      let width := if componentWidth = 0 then 4 else if componentWidth = 1 then 2 else 1
      some (unpackChunks row width zeroExtend mode destinationVectors vectorCount destination
        vector source)

theorem tryUnpackContiguousV4InChunks_eq (destination : Memory)
    (destinationSize destinationVector : ℕ) (source : List UInt8)
    (vectorCount componentWidth : ℕ) (zeroExtend : Bool) (mode : BitVec 32) (row : Lanes) :
    tryUnpackContiguousV4InChunks destination destinationSize destinationVector source vectorCount
        componentWidth zeroExtend mode row =
      tryUnpackContiguousV4 destination destinationSize destinationVector source vectorCount
        componentWidth zeroExtend mode row := by
  unfold tryUnpackContiguousV4InChunks tryUnpackContiguousV4
  split
  · rfl
  · rename_i hsize
    have hlarge : 16 ≤ destinationSize := by
      by_contra hsmall
      exact hsize (by simp [Nat.lt_of_not_le hsmall])
    have hvectors : 0 < destinationSize / 16 := by omega
    dsimp only
    rw [unpackChunks_eq _ _ _ _ hvectors _ _ (Nat.mod_lt _ hvectors)]

namespace Vif1State

variable {regs : VIFRegisters} {code : VifCode} {payload : List UInt8} {sourceByteOffset : ℕ}

theorem contiguous_decodeUnpack
    (hpayload : payload.length = unpackTotalBytes regs (.ofOpcode code.opcode) code.num)
    (hunmasked : (UnpackFormat.ofOpcode code.opcode).maskEnable = false)
    (hfour : (UnpackFormat.ofOpcode code.opcode).vn = 3)
    (hwidth : (UnpackFormat.ofOpcode code.opcode).vl ≤ 2)
    (hcycles : cycleLength regs = writeLength regs) (hmode : regs.mode &&& 3 ≤ 1) :
    (decodeUnpack regs code payload sourceByteOffset).Contiguous regs := by
  have hsources : sourceVectorCount (cycleLength regs) (writeLength regs)
      (writeVectorCount code.num) = writeVectorCount code.num := by
    unfold sourceVectorCount
    rw [if_neg hcycles.not_lt]
  have hvector := UnpackFormat.bytesPerVector_four hfour hwidth
  refine ⟨hunmasked, hfour, hwidth, hcycles, ?_, hmode, ?_, hsources, ?_⟩
  · change 0 < writeLength regs
    unfold writeLength
    dsimp only
    split <;> omega
  · change (if code.imm.testBit 15 then _ else _) < 1024
    split <;> exact Nat.mod_lt _ (by decide)
  · change payload.length = writeVectorCount code.num * _
    rw [hpayload]
    unfold unpackTotalBytes
    change (sourceVectorCount _ _ _ * _ + 3) / 4 * 4 =
      writeVectorCount code.num * (UnpackFormat.ofOpcode code.opcode).bytesPerVector
    rw [hsources, hvector, Nat.mul_left_comm]
    omega

/-- **The shortcut of UNPACK is the loop**: wherever it is taken it leaves the data memory that the
loop leaves, no row register is changed, and both have read the whole payload, past which the
stream goes on. -/
theorem contiguous_eq_loop (regs : VIFRegisters) (code : VifCode) (payload : List UInt8)
    (sourceByteOffset : ℕ) (data : Memory)
    (hpayload : payload.length = unpackTotalBytes regs (.ofOpcode code.opcode) code.num)
    (hunmasked : (UnpackFormat.ofOpcode code.opcode).maskEnable = false)
    (hfour : (UnpackFormat.ofOpcode code.opcode).vn = 3)
    (hwidth : (UnpackFormat.ofOpcode code.opcode).vl ≤ 2)
    (hcycles : cycleLength regs = writeLength regs) (hmode : regs.mode &&& 3 ≤ 1) :
    let unpack := decodeUnpack regs code payload sourceByteOffset
    let loop := unpackVectors regs unpack data
    tryUnpackContiguousV4InChunks data PS2_VU1_DATA_SIZE unpack.vuAddr payload unpack.writes
        unpack.format.vl unpack.zeroExtend (regs.mode &&& 3) regs.row = some loop.data ∧
      loop.row = regs.row ∧
      (unpackInPlace regs unpack data).data = loop.data ∧
      (unpackInPlace regs unpack data).row = loop.row ∧
      loop.srcIndex * unpack.format.bytesPerVector = payload.length ∧
      unpack.writes * (4 * unpack.componentBytes) = payload.length := by
  intro unpack loop
  have h : unpack.Contiguous regs :=
    contiguous_decodeUnpack hpayload hunmasked hfour hwidth hcycles hmode
  have hmode' : regs.mode &&& 3#32 ≤ 1#32 := hmode
  have hshortcut := h.tryUnpackContiguousV4_eq data
  have hloop : loop = _ := h.loop_eq data unpack.writes le_rfl
  have hinPlace : unpackInPlace regs unpack data = { data := loop.data, row := regs.row } := by
    unfold unpackInPlace
    dsimp only
    rw [if_pos (by simp [h.unmasked, h.four, h.width, h.cycles, hmode']), hshortcut, hloop]
  refine ⟨?_, ?_, ?_, ?_, ?_, ?_⟩
  · rw [tryUnpackContiguousV4InChunks_eq, hloop]
    exact hshortcut
  · rw [hloop]
  · rw [hinPlace]
  · rw [hinPlace, hloop]
  · rw [hloop]
    exact h.bytes.symm
  · rw [← h.bytesPerVector_eq]
    exact h.bytes.symm

/-- Two V4-16 vectors of -1 with a row of 5, the second past the end of the memory. -/
theorem contiguous_eq_loop_wrapped :
    let regs : VIFRegisters := { cycle := 0x0101, mode := 1, row := fun _ => 5 }
    let unpack := decodeUnpack regs ⟨0x6D0203FF⟩ (List.replicate 16 0xFF) 0
    (unpackInPlace regs unpack fun _ => 0).data = (unpackVectors regs unpack fun _ => 0).data ∧
      load (unpackInPlace regs unpack fun _ => 0).data 0 4 = 4 := by
  intro regs unpack
  have hloop := contiguous_eq_loop regs ⟨0x6D0203FF⟩ (List.replicate 16 0xFF) 0 (fun _ => 0)
    (by decide) (by decide) (by decide) (by decide) (by decide) (by decide)
  refine ⟨hloop.2.2.1, ?_⟩
  decide +kernel

end Vif1State

end Ps2Recomp
