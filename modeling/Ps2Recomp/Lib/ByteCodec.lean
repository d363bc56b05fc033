import Mathlib.Data.List.Basic
import Mathlib.Data.Nat.Bitwise
import Mathlib.Tactic.Ring

/-!
# Exact codecs over bytes

A writer turns a value into bytes, a reader takes a value from the front of the unread bytes and
returns the rest. `Exact write read valid` says that the two are inverse on the valid values, both
ways: what was written is read back whatever follows, and what is read is valid and was there
exactly as it would be written. So an exact codec has one encoding for each value.
-/

namespace ByteCodec

abbrev Bytes := List UInt8

variable {α : Type*}

/-- `read` takes from the front exactly what `write` produces for valid values. -/
structure Exact (write : α → Bytes) (read : Bytes → Option (α × Bytes)) (valid : α → Prop) :
    Prop where
  read_write : ∀ a rest, valid a → read (write a ++ rest) = some (a, rest)
  write_read : ∀ input a rest, read input = some (a, rest) → input = write a ++ rest ∧ valid a

/-- A codec under a change of representation. -/
theorem Exact.map {β : Type*} {write : α → Bytes} {read : Bytes → Option (α × Bytes)}
    {valid : α → Prop} (h : Exact write read valid) (into : α → β) (back : β → α)
    (hvalid : ∀ b, valid (back b)) (hback : ∀ b, into (back b) = b)
    (hinto : ∀ a, valid a → back (into a) = a) :
    Exact (fun b => write (back b)) (fun input => (read input).map fun p => (into p.1, p.2))
      (fun _ => True) where
  read_write b rest _ := by
    rw [h.read_write (back b) rest (hvalid b), Option.map_some, hback]
  write_read input b rest hread := by
    obtain ⟨⟨a, rest'⟩, ha, hb⟩ := Option.map_eq_some_iff.mp hread
    cases hb
    obtain ⟨hinput, ha⟩ := h.write_read input a rest' ha
    exact ⟨by rw [hinput, hinto a ha], trivial⟩

/-! ## Raw bytes -/

/-- The next `size` bytes. -/
def readRaw (size : Nat) (input : Bytes) : Option (Bytes × Bytes) :=
  if size ≤ input.length then some (input.take size, input.drop size) else none

theorem exact_raw (size : Nat) : Exact id (readRaw size) (fun bytes => bytes.length = size) where
  read_write bytes rest hsize := by
    subst hsize
    simp [readRaw]
  write_read input bytes rest hread := by
    unfold readRaw at hread
    split at hread
    · next hle =>
      cases hread
      exact ⟨(List.take_append_drop size input).symm, List.length_take_of_le hle⟩
    · cases hread

/-! ## Little-endian numbers -/

/-- The low `count` bytes of `value`, lowest first. -/
def littleEndian : Nat → Nat → Bytes
  | 0, _ => []
  | count + 1, value => UInt8.ofNat value :: littleEndian count (value >>> 8)

/-- Read `count` bytes, the first at bit `shift`, into `value`. -/
def readBytesAt : Nat → Nat → Nat → Bytes → Option (Nat × Bytes)
  | 0, _, value, input => some (value, input)
  | _ + 1, _, _, [] => none
  | count + 1, shift, value, byte :: rest =>
    readBytesAt count (shift + 8) (value ||| byte.toNat <<< shift) rest

/-- Read a little-endian number of `count` bytes. -/
def readLittleEndian (count : Nat) (input : Bytes) : Option (Nat × Bytes) :=
  readBytesAt count 0 0 input

@[simp] theorem length_littleEndian (count value : Nat) :
    (littleEndian count value).length = count := by
  induction count generalizing value with
  | zero => rfl
  | succ count ih => rw [littleEndian, List.length_cons, ih]

/-- The number the bytes stand for. -/
def ofBytes : Bytes → Nat
  | [] => 0
  | byte :: rest => byte.toNat + 256 * ofBytes rest

theorem ofBytes_lt (bytes : Bytes) : ofBytes bytes < 256 ^ bytes.length := by
  induction bytes with
  | nil => exact Nat.one_pos
  | cons byte rest ih =>
    have hbyte := UInt8.toNat_lt byte
    rw [ofBytes, List.length_cons, pow_succ]
    omega

theorem ofBytes_littleEndian (count value : Nat) :
    ofBytes (littleEndian count value) = value % 256 ^ count := by
  induction count generalizing value with
  | zero => simp [littleEndian, ofBytes, Nat.mod_one]
  | succ count ih =>
    have hlow : (UInt8.ofNat value).toNat = value % 256 := UInt8.toNat_ofNat'
    have hpow : 256 ^ (count + 1) = 256 * 256 ^ count := pow_succ' 256 count
    rw [littleEndian, ofBytes, ih, Nat.shiftRight_eq_div_pow, hlow, hpow, Nat.mod_mul]

theorem littleEndian_ofBytes (bytes : Bytes) :
    littleEndian bytes.length (ofBytes bytes) = bytes := by
  induction bytes with
  | nil => rfl
  | cons byte rest ih =>
    have hbyte := UInt8.toNat_lt byte
    have hdiv : (byte.toNat + 256 * ofBytes rest) / 2 ^ 8 = ofBytes rest := by omega
    have hlow : UInt8.ofNat (byte.toNat + 256 * ofBytes rest) = byte := by
      apply UInt8.toNat_inj.mp
      rw [UInt8.toNat_ofNat']
      omega
    rw [List.length_cons, ofBytes, littleEndian, Nat.shiftRight_eq_div_pow, hdiv, hlow, ih]

theorem readBytesAt_eq (count shift value : Nat) (hvalue : value < 2 ^ shift) (input : Bytes) :
    readBytesAt count shift value input =
      if count ≤ input.length then
        some (value + 2 ^ shift * ofBytes (input.take count), input.drop count)
      else none := by
  induction count generalizing shift value input with
  | zero => simp [readBytesAt, ofBytes]
  | succ count ih =>
    cases input with
    | nil => simp [readBytesAt]
    | cons byte rest =>
      have hbyte := UInt8.toNat_lt byte
      have hor : value ||| byte.toNat <<< shift = value + 2 ^ shift * byte.toNat := by
        rw [Nat.shiftLeft_eq, Nat.mul_comm, Nat.lor_comm, ← Nat.two_pow_add_eq_or_of_lt hvalue,
          Nat.add_comm]
      have hlt : value + 2 ^ shift * byte.toNat < 2 ^ (shift + 8) := by
        calc value + 2 ^ shift * byte.toNat < 2 ^ shift + 2 ^ shift * byte.toNat := by omega
          _ = 2 ^ shift * (byte.toNat + 1) := by ring
          _ ≤ 2 ^ shift * 2 ^ 8 := Nat.mul_le_mul_left _ hbyte
          _ = 2 ^ (shift + 8) := (pow_add 2 shift 8).symm
      have hsum : value + 2 ^ shift * byte.toNat + 2 ^ (shift + 8) * ofBytes (rest.take count) =
          value + 2 ^ shift * (byte.toNat + 256 * ofBytes (rest.take count)) := by ring
      rw [readBytesAt, hor, ih (shift + 8) _ hlt]
      simp only [List.length_cons, Nat.add_le_add_iff_right, List.take_succ_cons, ofBytes,
        List.drop_succ_cons, hsum]

theorem readLittleEndian_eq (count : Nat) (input : Bytes) :
    readLittleEndian count input =
      if count ≤ input.length then some (ofBytes (input.take count), input.drop count)
      else none := by
  rw [readLittleEndian, readBytesAt_eq count 0 0 Nat.one_pos]
  simp

theorem exact_littleEndian (count : Nat) :
    Exact (littleEndian count) (readLittleEndian count) (fun value => value < 256 ^ count) where
  read_write value rest hvalue := by
    have htake : (littleEndian count value ++ rest).take count = littleEndian count value :=
      List.take_left' (length_littleEndian count value)
    have hdrop : (littleEndian count value ++ rest).drop count = rest :=
      List.drop_left' (length_littleEndian count value)
    rw [readLittleEndian_eq, htake, hdrop, ofBytes_littleEndian, Nat.mod_eq_of_lt hvalue]
    simp
  write_read input value rest hread := by
    rw [readLittleEndian_eq] at hread
    split at hread
    · next hle =>
      cases hread
      have hlength := List.length_take_of_le hle
      have hvalue := ofBytes_lt (input.take count)
      have hbytes := littleEndian_ofBytes (input.take count)
      rw [hlength] at hvalue hbytes
      exact ⟨by rw [hbytes, List.take_append_drop], hvalue⟩
    · cases hread

end ByteCodec
