import Mathlib.Data.Vector.Basic
import Ps2Recomp.Lib.ByteCodec

/-!
# Exact codecs of records

A record is written field after field and read by a reader that binds field after field and then
builds the record. Two such lists are exact when the rules below walk through them together:
`Exact.bind` for a field, `Exact.guard` for a check between two fields, `Exact.pure` at the end.
What is already read is kept in the validity (`fun a => valid a ∧ f a = x`), so that at the end the
record is determined.
-/

namespace ByteCodec

abbrev ByteReader (α : Type) := StateT Bytes Option α

variable {α β : Type}

theorem exact_iff {write : α → Bytes} {read : ByteReader α} {valid : α → Prop} :
    Exact write read valid ↔
      ∀ input a rest, read input = some (a, rest) ↔ input = write a ++ rest ∧ valid a := by
  constructor
  · intro h input a rest
    constructor
    · exact h.write_read input a rest
    · rintro ⟨rfl, ha⟩
      exact h.read_write a rest ha
  · intro h
    exact ⟨fun a rest ha => (h _ a rest).mpr ⟨rfl, ha⟩, fun input a rest => (h input a rest).mp⟩

/-! ## Field after field -/

theorem Exact.pure {valid : α → Prop} {a : α} (h : ∀ b, valid b ↔ b = a) :
    Exact (fun _ => []) (Pure.pure a : ByteReader α) valid := by
  refine exact_iff.mpr fun input b rest => ?_
  have hpure : (Pure.pure a : ByteReader α) input = some (a, input) := rfl
  rw [hpure, h b, Option.some.injEq, Prod.mk.injEq, List.nil_append]
  constructor
  · rintro ⟨rfl, rfl⟩
    exact ⟨rfl, rfl⟩
  · rintro ⟨rfl, rfl⟩
    exact ⟨rfl, rfl⟩

/-- Read the field `f`, then the rest, knowing the field. -/
theorem Exact.bind {write : α → Bytes} {valid : α → Prop} {writeField : β → Bytes}
    {readField : ByteReader β} {validField : β → Prop} {next : β → ByteReader α} {f : α → β}
    (hfield : Exact writeField readField validField) (hvalid : ∀ a, valid a → validField (f a))
    (hnext : ∀ x, validField x → Exact write (next x) (fun a => valid a ∧ f a = x)) :
    Exact (fun a => writeField (f a) ++ write a) (readField >>= next) valid := by
  refine exact_iff.mpr fun input a rest => ?_
  have hbind : (readField >>= next) input = (readField input).bind fun p => next p.1 p.2 := rfl
  rw [hbind, Option.bind_eq_some_iff, List.append_assoc]
  constructor
  · rintro ⟨⟨x, mid⟩, hread, hrest⟩
    obtain ⟨rfl, hx⟩ := hfield.write_read input x mid hread
    obtain ⟨rfl, ha, rfl⟩ := (hnext x hx).write_read mid a rest hrest
    exact ⟨rfl, ha⟩
  · rintro ⟨rfl, ha⟩
    have hx := hvalid a ha
    exact ⟨(f a, write a ++ rest), hfield.read_write (f a) _ hx,
      (hnext (f a) hx).read_write a rest ⟨ha, rfl⟩⟩

/-- A field every value of which is valid. -/
theorem Exact.field {write : α → Bytes} {valid : α → Prop} {writeField : β → Bytes}
    {readField : ByteReader β} {next : β → ByteReader α} {f : α → β}
    (hfield : Exact writeField readField (fun _ => True))
    (hnext : ∀ x, Exact write (next x) (fun a => valid a ∧ f a = x)) :
    Exact (fun a => writeField (f a) ++ write a) (readField >>= next) valid :=
  hfield.bind (fun _ _ => trivial) fun x _ => hnext x

theorem Exact.guard {write : α → Bytes} {valid : α → Prop} {p : Prop} [Decidable p]
    {next : ByteReader α} (hvalid : ∀ a, valid a → p) (hnext : p → Exact write next valid) :
    Exact write (if p then next else failure : ByteReader α) valid := by
  refine exact_iff.mpr fun input a rest => ?_
  by_cases h : p
  · rw [if_pos h]
    exact exact_iff.mp (hnext h) input a rest
  · rw [if_neg h]
    constructor
    · intro hread
      cases hread
    · rintro ⟨-, ha⟩
      exact absurd (hvalid a ha) h

theorem Exact.imp {write : α → Bytes} {read : ByteReader α} {valid valid' : α → Prop}
    (h : Exact write read valid) (heq : ∀ a, valid a ↔ valid' a) : Exact write read valid' := by
  have : valid = valid' := funext fun a => propext (heq a)
  exact this ▸ h

/-! ## Numbers and flags -/

def writeU8 (value : UInt8) : Bytes := [value]

def readU8 : ByteReader UInt8 := fun input =>
  match input with
  | [] => none
  | value :: rest => some (value, rest)

theorem exact_u8 : Exact writeU8 readU8 (fun _ => True) where
  read_write _ _ _ := rfl
  write_read input value rest hread := by
    cases input with
    | nil => cases hread
    | cons byte input =>
      cases hread
      exact ⟨rfl, trivial⟩

def writeBool (value : Bool) : Bytes := writeU8 (if value then 1 else 0)

/-- No byte but 0 and 1 is a flag. -/
def readBool : ByteReader Bool := do
  let encoded ← readU8
  if encoded ≤ 1 then return encoded != 0 else failure

theorem exact_bool : Exact writeBool readBool (fun _ => True) := by
  have hwrite : writeBool = fun value : Bool => writeU8 (if value then 1 else 0) ++ [] := by
    funext value
    exact (List.append_nil _).symm
  rw [hwrite]
  refine exact_u8.field fun encoded => .guard ?_ fun hle => .pure fun value => ?_
  · rintro value ⟨-, rfl⟩
    cases value <;> decide
  · constructor
    · rintro ⟨-, rfl⟩
      cases value <;> rfl
    · rintro rfl
      have hle : encoded.toNat ≤ 1 := hle
      rcases (by omega : encoded.toNat = 0 ∨ encoded.toNat = 1) with h | h
      · obtain rfl : encoded = 0 := UInt8.toNat_inj.mp h
        exact ⟨trivial, rfl⟩
      · obtain rfl : encoded = 1 := UInt8.toNat_inj.mp h
        exact ⟨trivial, rfl⟩

def writeU16 (value : UInt16) : Bytes := littleEndian 2 value.toNat

def readU16 : ByteReader UInt16 := fun input =>
  (readLittleEndian 2 input).map fun p => (UInt16.ofNat p.1, p.2)

theorem exact_u16 : Exact writeU16 readU16 (fun _ => True) :=
  (exact_littleEndian 2).map UInt16.ofNat UInt16.toNat UInt16.toNat_lt
    (fun _ => UInt16.ofNat_toNat) (fun _ h => UInt16.toNat_ofNat_of_lt' h)

def writeU32 (value : UInt32) : Bytes := littleEndian 4 value.toNat

def readU32 : ByteReader UInt32 := fun input =>
  (readLittleEndian 4 input).map fun p => (UInt32.ofNat p.1, p.2)

theorem exact_u32 : Exact writeU32 readU32 (fun _ => True) :=
  (exact_littleEndian 4).map UInt32.ofNat UInt32.toNat UInt32.toNat_lt
    (fun _ => UInt32.ofNat_toNat) (fun _ h => UInt32.toNat_ofNat_of_lt' h)

def writeU64 (value : UInt64) : Bytes := littleEndian 8 value.toNat

def readU64 : ByteReader UInt64 := fun input =>
  (readLittleEndian 8 input).map fun p => (UInt64.ofNat p.1, p.2)

theorem exact_u64 : Exact writeU64 readU64 (fun _ => True) :=
  (exact_littleEndian 8).map UInt64.ofNat UInt64.toNat UInt64.toNat_lt
    (fun _ => UInt64.ofNat_toNat) (fun _ h => UInt64.toNat_ofNat_of_lt' h)

/-! ## Arrays -/

def writeVector {n : ℕ} (write : α → Bytes) (values : List.Vector α n) : Bytes :=
  values.toList.flatMap write

def readVector (read : ByteReader α) : (n : ℕ) → ByteReader (List.Vector α n)
  | 0 => return .nil
  | n + 1 => do
    let value ← read
    let rest ← readVector read n
    return value ::ᵥ rest

theorem Exact.vector {write : α → Bytes} {read : ByteReader α}
    (h : Exact write read (fun _ => True)) (n : ℕ) :
    Exact (writeVector write) (readVector read n) (fun _ => True) := by
  induction n with
  | zero =>
    have hwrite : writeVector (n := 0) write = fun _ => [] := by
      funext values
      rw [values.eq_nil]
      rfl
    rw [hwrite]
    exact .pure fun values => iff_of_true trivial values.eq_nil
  | succ n ih =>
    have hwrite : writeVector (n := n + 1) write =
        fun values => write values.head ++ (writeVector write values.tail ++ []) := by
      funext values
      obtain ⟨value, rest, rfl⟩ := values.exists_eq_cons
      simp [writeVector]
    rw [hwrite]
    refine h.field fun value => ih.field fun rest => .pure fun values => ?_
    constructor
    · rintro ⟨⟨-, rfl⟩, rfl⟩
      exact values.cons_head_tail.symm
    · rintro rfl
      exact ⟨⟨trivial, rfl⟩, rfl⟩

/-- The next `n` bytes. -/
def readBytes (n : ℕ) : ByteReader (List.Vector UInt8 n) := fun input =>
  if h : n ≤ input.length then
    some (⟨input.take n, List.length_take_of_le h⟩, input.drop n)
  else none

theorem exact_bytes (n : ℕ) :
    Exact (fun bytes : List.Vector UInt8 n => bytes.toList) (readBytes n) (fun _ => True) where
  read_write bytes rest _ := by
    have hle : n ≤ (bytes.toList ++ rest).length := by
      rw [List.length_append, bytes.toList_length]
      exact Nat.le_add_right n rest.length
    have htake : (bytes.toList ++ rest).take n = bytes.toList :=
      List.take_left' bytes.toList_length
    have hdrop : (bytes.toList ++ rest).drop n = rest := List.drop_left' bytes.toList_length
    rw [readBytes, dif_pos hle, hdrop]
    congr 2
    exact Subtype.ext htake
  write_read input bytes rest hread := by
    unfold readBytes at hread
    split at hread
    · cases hread
      exact ⟨(List.take_append_drop n input).symm, trivial⟩
    · cases hread

/-! ## Enumerators, counts and lists -/

/-- One of `n` enumerators, by its number. -/
def writeFin {n : ℕ} (value : Fin n) : Bytes := writeU8 (UInt8.ofNat value.val)

def readFin (n : ℕ) : ByteReader (Fin n) := fun input =>
  (readU8 input).bind fun p => if h : p.1.toNat < n then some (⟨p.1.toNat, h⟩, p.2) else none

theorem exact_fin {n : ℕ} (hn : n ≤ 256) :
    Exact (writeFin (n := n)) (readFin n) (fun _ => True) where
  read_write value rest _ := by
    have hbyte : (UInt8.ofNat value.val).toNat = value.val :=
      UInt8.toNat_ofNat_of_lt' (value.isLt.trans_le hn)
    rw [readFin, writeFin, exact_u8.read_write _ _ trivial, Option.bind_some]
    simp only [hbyte, value.isLt, dite_true]
  write_read input value rest hread := by
    obtain ⟨⟨byte, mid⟩, hbyte, hvalue⟩ := Option.bind_eq_some_iff.mp hread
    obtain ⟨rfl, -⟩ := exact_u8.write_read input byte mid hbyte
    split at hvalue
    · cases hvalue
      exact ⟨by rw [writeFin, UInt8.ofNat_toNat], trivial⟩
    · cases hvalue

/-- A count of at most `max`. -/
def readCount (max : ℕ) : ByteReader ℕ := fun input =>
  (readU32 input).bind fun p => if p.1.toNat ≤ max then some (p.1.toNat, p.2) else none

theorem exact_count {max : ℕ} (hmax : max < 2 ^ 32) :
    Exact (fun count => writeU32 (UInt32.ofNat count)) (readCount max) (· ≤ max) where
  read_write count rest hcount := by
    have hword : (UInt32.ofNat count).toNat = count :=
      UInt32.toNat_ofNat_of_lt' (hcount.trans_lt hmax)
    rw [readCount, exact_u32.read_write _ _ trivial, Option.bind_some]
    simp only [hword, hcount, if_true]
  write_read input count rest hread := by
    obtain ⟨⟨word, mid⟩, hword, hcount⟩ := Option.bind_eq_some_iff.mp hread
    obtain ⟨rfl, -⟩ := exact_u32.write_read input word mid hword
    split at hcount
    · next hle =>
      cases hcount
      exact ⟨by rw [UInt32.ofNat_toNat], hle⟩
    · cases hcount

/-- Bytes with their number before them, at most `max` of them. -/
def writeSized (bytes : Bytes) : Bytes := writeU64 (UInt64.ofNat bytes.length) ++ bytes

def readSized (max : ℕ) : ByteReader Bytes := fun input =>
  (readU64 input).bind fun p => if p.1.toNat ≤ max then readRaw p.1.toNat p.2 else none

theorem exact_sized {max : ℕ} (hmax : max < 2 ^ 64) :
    Exact writeSized (readSized max) (fun bytes => bytes.length ≤ max) where
  read_write bytes rest hle := by
    have hsize : (UInt64.ofNat bytes.length).toNat = bytes.length :=
      UInt64.toNat_ofNat_of_lt' (hle.trans_lt hmax)
    rw [readSized, writeSized, List.append_assoc, exact_u64.read_write _ _ trivial,
      Option.bind_some]
    simp only [hsize, hle, if_true]
    exact (exact_raw bytes.length).read_write bytes rest rfl
  write_read input bytes rest hread := by
    obtain ⟨⟨size, mid⟩, hsize, hbytes⟩ := Option.bind_eq_some_iff.mp hread
    obtain ⟨rfl, -⟩ := exact_u64.write_read input size mid hsize
    split at hbytes
    · next hle =>
      obtain ⟨hmid, hlength⟩ := (exact_raw size.toNat).write_read mid bytes rest hbytes
      refine ⟨?_, hlength.le.trans hle⟩
      rw [writeSized, hlength, UInt64.ofNat_toNat, List.append_assoc, hmid]
      rfl
    · cases hbytes

theorem Exact.fail {write : α → Bytes} :
    Exact write (failure : ByteReader α) (fun _ => False) where
  read_write _ _ h := h.elim
  write_read _ _ _ hread := by cases hread

/-- A value and a list after it that depends on the value. -/
theorem Exact.cons {write : α → Bytes} {read : ByteReader α} {valid : α → Prop}
    {tail : α → ByteReader (List α)} {validTail : α → List α → Prop}
    (h : Exact write read valid)
    (htail : ∀ value, valid value →
      Exact (fun values => values.flatMap write) (tail value) (validTail value)) :
    Exact (fun values => values.flatMap write)
      (do
        let value ← read
        let rest ← tail value
        return value :: rest : ByteReader (List α))
      (fun values =>
        ∃ value rest, values = value :: rest ∧ valid value ∧ validTail value rest) := by
  refine exact_iff.mpr fun input values unread => ?_
  have hread : (do
      let value ← read
      let rest ← tail value
      return value :: rest : ByteReader (List α)) input =
        (read input).bind fun p => (tail p.1 p.2).bind fun p' => some (p.1 :: p'.1, p'.2) := rfl
  rw [hread, Option.bind_eq_some_iff]
  constructor
  · rintro ⟨⟨value, mid⟩, hvalue, hbind⟩
    obtain ⟨⟨rest, unread'⟩, hrest, heq⟩ := Option.bind_eq_some_iff.mp hbind
    cases heq
    obtain ⟨rfl, hvalid⟩ := h.write_read input value mid hvalue
    obtain ⟨rfl, hvalidTail⟩ := (htail value hvalid).write_read mid rest unread' hrest
    exact ⟨(List.append_assoc _ _ _).symm, value, rest, rfl, hvalid, hvalidTail⟩
  · rintro ⟨rfl, value, rest, rfl, hvalid, hvalidTail⟩
    have hvalue := h.read_write value (rest.flatMap write ++ unread) hvalid
    have hrest := (htail value hvalid).read_write rest unread hvalidTail
    refine ⟨(value, rest.flatMap write ++ unread), ?_, ?_⟩
    · rw [← hvalue, List.flatMap_cons, List.append_assoc]
    · exact Option.bind_eq_some_iff.mpr ⟨(rest, unread), hrest, rfl⟩

variable {σ : Type}

/-- `n` values, each of which `step` must take, with what it made of those before. -/
def readChecked (read : ByteReader α) (step : σ → α → Option σ) : ℕ → σ → ByteReader (List α)
  | 0, _ => return []
  | n + 1, s => do
    let value ← read
    let rest ← (match step s value with
      | none => failure
      | some s' => readChecked read step n s' : ByteReader (List α))
    return value :: rest

/-- `step` takes the values one after the other. -/
def Taken (step : σ → α → Option σ) : σ → List α → Prop
  | _, [] => True
  | s, value :: rest => ∃ s', step s value = some s' ∧ Taken step s' rest

theorem Exact.checked {write : α → Bytes} {read : ByteReader α} {valid : α → Prop}
    (h : Exact write read valid) (step : σ → α → Option σ) (n : ℕ) (s : σ) :
    Exact (fun values => values.flatMap write) (readChecked read step n s)
      (fun values => values.length = n ∧ (∀ value ∈ values, valid value) ∧
        Taken step s values) := by
  induction n generalizing s with
  | zero =>
    have hwrite : ∀ values : List α, values.length = 0 → values.flatMap write = [] :=
      fun values hlength => by rw [List.length_eq_zero_iff.mp hlength, List.flatMap_nil]
    refine exact_iff.mpr fun input values rest => ?_
    have hread : readChecked read step 0 s input = some ([], input) := rfl
    rw [hread, Option.some.injEq, Prod.mk.injEq]
    constructor
    · rintro ⟨rfl, rfl⟩
      exact ⟨rfl, rfl, fun _ hmem => absurd hmem List.not_mem_nil, trivial⟩
    · rintro ⟨rfl, hlength, -⟩
      exact ⟨(List.length_eq_zero_iff.mp hlength).symm, by rw [hwrite values hlength]; rfl⟩
  | succ n ih =>
    let validTail : α → List α → Prop := fun value rest =>
      ∃ s', step s value = some s' ∧ rest.length = n ∧ (∀ value ∈ rest, valid value) ∧
        Taken step s' rest
    have htail : ∀ value, Exact (fun values => values.flatMap write)
        (match step s value with
          | none => failure
          | some s' => readChecked read step n s' : ByteReader (List α)) (validTail value) := by
      intro value
      cases hstep : step s value with
      | none => exact Exact.fail.imp fun rest => by simp [validTail, hstep]
      | some s' => exact (ih s').imp fun rest => by simp [validTail, hstep]
    refine (h.cons fun value _ => htail value).imp fun values => ?_
    cases values with
    | nil => simp
    | cons value rest =>
      constructor
      · rintro ⟨_, _, heq, hvalid, s', hstep, hlength, hall, htaken⟩
        cases heq
        exact ⟨congrArg (· + 1) hlength, List.forall_mem_cons.mpr ⟨hvalid, hall⟩, s', hstep, htaken⟩
      · rintro ⟨hlength, hall, s', hstep, htaken⟩
        obtain ⟨hvalid, hall⟩ := List.forall_mem_cons.mp hall
        exact ⟨value, rest, rfl, hvalid, s', hstep, Nat.succ.inj hlength, hall, htaken⟩

/-- `n` values. -/
def readList (read : ByteReader α) (n : ℕ) : ByteReader (List α) :=
  readChecked read (fun (_ : Unit) _ => some ()) n ()

theorem taken_always (values : List α) : Taken (fun (_ : Unit) _ => some ()) () values := by
  induction values with
  | nil => trivial
  | cons value rest ih => exact ⟨(), rfl, ih⟩

theorem Exact.list {write : α → Bytes} {read : ByteReader α} {valid : α → Prop}
    (h : Exact write read valid) (n : ℕ) :
    Exact (fun values => values.flatMap write) (readList read n)
      (fun values => values.length = n ∧ ∀ value ∈ values, valid value) :=
  (h.checked _ n ()).imp fun values => by simp [taken_always]

/-- The sum of the sizes may not exceed `max`. -/
def addSize (size : α → ℕ) (max total : ℕ) (value : α) : Option ℕ :=
  if size value ≤ max ∧ total ≤ max - size value then some (total + size value) else none

theorem taken_addSize {size : α → ℕ} {max total : ℕ} (htotal : total ≤ max) (values : List α) :
    Taken (addSize size max) total values ↔ total + (values.map size).sum ≤ max := by
  induction values generalizing total with
  | nil => exact iff_of_true trivial htotal
  | cons value rest ih =>
    rw [List.map_cons, List.sum_cons, ← Nat.add_assoc, Taken]
    by_cases hroom : total + size value ≤ max
    · have hstep : addSize size max total value = some (total + size value) :=
        if_pos (by omega)
      simp [hstep, ih hroom]
    · have hstep : addSize size max total value = none := if_neg (by omega)
      rw [hstep]
      exact iff_of_false (by simp) (by omega)

/-- No key may come twice. -/
def addKey {κ : Type} [DecidableEq κ] (key : α → κ) (keys : List κ) (value : α) :
    Option (List κ) :=
  if key value ∈ keys then none else some (key value :: keys)

theorem taken_addKey {κ : Type} [DecidableEq κ] {key : α → κ} {keys : List κ}
    (values : List α) :
    Taken (addKey key) keys values ↔
      (values.map key).Nodup ∧ ∀ value ∈ values, key value ∉ keys := by
  induction values generalizing keys with
  | nil => exact iff_of_true trivial (by simp)
  | cons value rest ih =>
    rw [List.map_cons, List.nodup_cons, List.forall_mem_cons, Taken]
    by_cases hmem : key value ∈ keys
    · have hstep : addKey key keys value = none := if_pos hmem
      rw [hstep]
      exact iff_of_false (by simp) (by simp [hmem])
    · have hstep : addKey key keys value = some (key value :: keys) := if_neg hmem
      rw [hstep]
      constructor
      · rintro ⟨keys', heq, htaken⟩
        cases heq
        obtain ⟨hnodup, hnew⟩ := ih.mp htaken
        refine ⟨⟨fun hkey => ?_, hnodup⟩, hmem, fun other hother hold => ?_⟩
        · obtain ⟨other, hother, heq⟩ := List.mem_map.mp hkey
          exact hnew other hother (heq ▸ List.mem_cons_self)
        · exact hnew other hother (List.mem_cons_of_mem _ hold)
      · rintro ⟨⟨hkey, hnodup⟩, -, hnew⟩
        refine ⟨_, rfl, ih.mpr ⟨hnodup, fun other hother hold => ?_⟩⟩
        rcases List.mem_cons.mp hold with heq | hold
        · exact hkey (List.mem_map.mpr ⟨other, hother, heq⟩)
        · exact hnew other hother hold

/-! ## Readers that report an error -/

abbrev FieldReader (ε α : Type) := StateT Bytes (Except ε) α

variable {ε : Type}

def ByteReader.orError (read : ByteReader α) (error : ε) : FieldReader ε α := fun input =>
  match read input with
  | some result => .ok result
  | none => .error error

/-- What is read where no error is reported. -/
def accepts (read : FieldReader ε α) : ByteReader α := fun input => (read input).toOption

theorem accepts_eq_some_iff {read : FieldReader ε α} {input : Bytes} {result : α × Bytes} :
    accepts read input = some result ↔ read input = .ok result := by
  unfold accepts
  cases read input with
  | error message => constructor <;> (intro h; cases h)
  | ok result' => constructor <;> (intro h; cases h; rfl)

@[simp] theorem accepts_orError (read : ByteReader α) (error : ε) :
    accepts (read.orError error) = read := by
  funext input
  unfold accepts ByteReader.orError
  split
  · next h => exact h.symm
  · next h => exact h.symm

@[simp] theorem accepts_pure (a : α) : accepts (pure a : FieldReader ε α) = pure a := rfl

@[simp] theorem accepts_throw (error : ε) : accepts (throw error : FieldReader ε α) = failure := rfl

@[simp] theorem accepts_bind (read : FieldReader ε β) (next : β → FieldReader ε α) :
    accepts (read >>= next) = accepts read >>= fun x => accepts (next x) := by
  funext input
  have hleft : (read >>= next) input = (read input).bind fun p => next p.1 p.2 := rfl
  have hright : (accepts read >>= fun x => accepts (next x)) input =
      (read input).toOption.bind fun p => (next p.1 p.2).toOption := rfl
  rw [hright]
  unfold accepts
  rw [hleft]
  cases read input <;> rfl

@[simp] theorem accepts_ite (p : Prop) [Decidable p] (read read' : FieldReader ε α) :
    accepts (if p then read else read') = if p then accepts read else accepts read' := by
  split <;> rfl

end ByteCodec
