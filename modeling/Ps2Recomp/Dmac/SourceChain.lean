import Ps2Recomp.Tlb.Translation
import Mathlib.Data.List.Basic
import Mathlib.Algebra.Order.Ring.Nat

/-!
# Source chains (`ps2_memory.h`, `ps2_memory.cpp`)

What the GIF, VIF0 and to-IPU channels share: the registers of a channel, the fields of CHCR, the
tag in memory, and memory itself. How an address is translated is not looked into; `none` is the
exception of `translateAddress`.

The transfer tokens, the events that schedule the next advance, the delays and stall reasons reported
for them, and the log of faults are left out.
-/

namespace Ps2Recomp

/-! ## CHCR -/

namespace Chcr

def mode (chcr : BitVec 32) : BitVec 2 := chcr.extractLsb' 2 2

def asp (chcr : BitVec 32) : BitVec 2 := chcr.extractLsb' 4 2

def tte (chcr : BitVec 32) : Bool := chcr.getLsbD 6

def tie (chcr : BitVec 32) : Bool := chcr.getLsbD 7

def tagId (chcr : BitVec 32) : BitVec 3 := chcr.extractLsb' 28 3

def tagIrq (chcr : BitVec 32) : Bool := chcr.getLsbD 31

def setStr (chcr : BitVec 32) : BitVec 32 := chcr ||| 0x100#32

def clearStr (chcr : BitVec 32) : BitVec 32 := chcr &&& ~~~0x100#32

/-- Bits 16 to 31 of the tag become the upper half. -/
def withTag (chcr : BitVec 32) (tag : BitVec 64) : BitVec 32 :=
  chcr &&& 0x0000FFFF#32 ||| (tag >>> 16 &&& 0xFFFF#64).setWidth 32 <<< 16

def withAsp (chcr : BitVec 32) (asp : BitVec 2) : BitVec 32 :=
  chcr &&& ~~~(0x3#32 <<< 4) ||| asp.setWidth 32 <<< 4

end Chcr

/-! ## Tags -/

namespace DmaTag

def qwc (tag : BitVec 64) : ℕ := (tag &&& 0xFFFF#64).toNat

def id (tag : BitVec 64) : BitVec 3 := tag.extractLsb' 28 3

def irq (tag : BitVec 64) : Bool := tag.getLsbD 31

theorem qwc_lt (tag : BitVec 64) : qwc tag < 0x10000 := by
  have hle : (tag &&& 0xFFFF#64).toNat ≤ 0xFFFF := by
    rw [BitVec.toNat_and]
    exact Nat.and_le_right
  exact Nat.lt_succ_of_le hle

end DmaTag

structure DmacChannelRegisters where
  chcr : BitVec 32 := 0#32
  madr : BitVec 32 := 0#32
  qwc : ℕ := 0
  tadr : BitVec 32 := 0#32
  asr0 : BitVec 32 := 0#32
  asr1 : BitVec 32 := 0#32
  deriving DecidableEq, Repr

/-- The key under which a chain state was seen before. -/
structure DmacSourceChainKey where
  tadr : BitVec 32
  asr0 : BitVec 32
  asr1 : BitVec 32
  asp : BitVec 2
  deriving DecidableEq, Repr

def kMaximumChainTags : ℕ := 65536

/-- The phases of the three channels have the same names. -/
inductive SourceChainPhase where
  | Idle
  | FetchTag
  | TransferPayload
  | Finalize
  | Fault
  deriving DecidableEq, Repr

/-! ## Memory -/

def ps2ScratchpadSize : ℕ := 16 * 1024

structure DmaMemory where
  rdram : ℕ → UInt8
  scratchpad : ℕ → UInt8
  translateAddress : BitVec 32 → Option (BitVec 32)

namespace DmaMemory

def base (memory : DmaMemory) (scratch : Bool) : ℕ → UInt8 :=
  if scratch then memory.scratchpad else memory.rdram

def limit (scratch : Bool) : ℕ := if scratch then ps2ScratchpadSize else ps2RamSize.toNat

def read (memory : DmaMemory) (scratch : Bool) (offset sizeBytes : ℕ) : List UInt8 :=
  (List.range sizeBytes).map fun i => memory.base scratch (offset + i)

/-- `loadScalar<uint64_t>`. -/
def loadTag (memory : DmaMemory) (scratch : Bool) (offset : ℕ) : BitVec 64 :=
  (memory.read scratch offset 8).foldr (fun byte tag => tag <<< 8 ||| byte.toBitVec.setWidth 64) 0

/-- The tag at an address, and its upper eight bytes; `none` where the channel faults. -/
def tagAt (memory : DmaMemory) (tagAddress : BitVec 32) : Option (BitVec 64 × List UInt8) :=
  let scratch := isScratchpad tagAddress
  match memory.translateAddress tagAddress with
  | none => none
  | some tagOffset =>
    if limit scratch < tagOffset.toNat + 16 then none
    else
      some (memory.loadTag scratch tagOffset.toNat, memory.read scratch (tagOffset.toNat + 8) 8)

end DmaMemory

end Ps2Recomp
