import Ps2Recomp.Lib.Machine
import Mathlib.Data.Nat.Notation
import Mathlib.Logic.Function.Basic
import Mathlib.Algebra.Order.Ring.Nat

/-!
# Transfers of the DMA controller (`ps2_memory.h`, `ps2_memory.cpp`)

Each channel has a phase and a generation; a transfer is named by its channel and the generation
that `beginDmacTransfer` gave it. A completion is requested, taken out of the ready queue and
published in three calls, each of which compares the token with the channel again.

`discardPendingDmacWork` clears the state that the devices keep of their own transfers; none of the
registers here depends on it, and it is left out, as are the callbacks that wake the runtime.
Registers that were never written read as 0.
-/

namespace Ps2Recomp

inductive DmacChannel where
  | Vif0
  | Vif1
  | Gif
  | FromIpu
  | ToIpu
  | Sif0
  | Sif1
  | Sif2
  | FromScratchpad
  | ToScratchpad
  | Count
  deriving DecidableEq, Repr

/-- `PS2_DMAC_CHANNEL_COUNT`. -/
def dmacChannelCount : ℕ := DmacChannel.Count.ctorIdx

namespace DmacChannel

/-- `static_cast<size_t>`. -/
def index (channel : DmacChannel) : ℕ := channel.ctorIdx

def cause (channel : DmacChannel) : ℕ := channel.ctorIdx

/-- `dmacChannelBase`. -/
def base : DmacChannel → ℕ
  | .Vif0 => 0x10008000
  | .Vif1 => 0x10009000
  | .Gif => 0x1000A000
  | .FromIpu => 0x1000B000
  | .ToIpu => 0x1000B400
  | .Sif0 => 0x1000C000
  | .Sif1 => 0x1000C400
  | .Sif2 => 0x1000C800
  | .FromScratchpad => 0x1000D000
  | .ToScratchpad => 0x1000D400
  | .Count => 0

def chcr (channel : DmacChannel) : ℕ := channel.base

def qwc (channel : DmacChannel) : ℕ := channel.base + 0x20

end DmacChannel

inductive DmacChannelPhase where
  | Idle
  | Active
  | CompletionReady
  deriving DecidableEq, Repr

structure DmacTransferToken where
  channel : DmacChannel := .Vif0
  generation : ℕ := 0
  deriving DecidableEq, Repr

structure DmacCompletionRequest where
  transfer : DmacTransferToken
  readySequence : ℕ := 0
  deriving DecidableEq, Repr

structure DmacPendingInterrupt where
  source : DmacChannel
  cause : ℕ
  channelGeneration : ℕ
  eventSequence : ℕ
  publicationSequence : ℕ
  deriving DecidableEq, Repr

def DmacPendingInterrupt.transfer (i : DmacPendingInterrupt) : DmacTransferToken :=
  { channel := i.source, generation := i.channelGeneration }

structure DmacChannelLifecycle where
  phase : DmacChannelPhase := .Idle
  generation : ℕ := 0
  deriving DecidableEq, Repr

structure Dmac where
  channels : DmacChannel → DmacChannelLifecycle := fun _ => {}
  readyCompletions : List DmacCompletionRequest := []
  pendingInterrupts : List DmacPendingInterrupt := []
  readySequence : ℕ := 0
  publicationSequence : ℕ := 0
  ioRegisters : ℕ → BitVec 32 := fun _ => 0#32

/-- `nextDmacSequence` on `uint64_t`. -/
def nextDmacSequence (value : ℕ) : ℕ :=
  let value := (value + 1) % 2 ^ 64
  if value = 0 then 1 else value

theorem nextDmacSequence_of_lt {value : ℕ} (h : value < 2 ^ 64 - 1) :
    nextDmacSequence value = value + 1 := by
  have hmod : (value + 1) % 2 ^ 64 = value + 1 := Nat.mod_eq_of_lt (by omega)
  unfold nextDmacSequence
  rw [hmod]
  exact if_neg (Nat.succ_ne_zero _)

/-! ## D_STAT -/

/-- The address of D_STAT. -/
def kDStat : ℕ := 0x1000E010

/-- The causes that are both raised and unmasked. -/
def dstatPending (dstat : BitVec 32) : BitVec 32 := dstat &&& 0x3FF#32 &&& (dstat >>> 16 &&& 0x3FF#32)

/-- Bit 31 of D_STAT, computed again. -/
def refreshDStat (dstat : BitVec 32) : BitVec 32 :=
  if dstatPending dstat ≠ 0#32 then dstat ||| 1#32 <<< 31 else dstat &&& ~~~(1#32 <<< 31)

/-- Byte enables that select no byte or one span of bytes. -/
def validByteEnable (byteEnable : BitVec 4) : Bool :=
  byteEnable ∈ [0b0000#4, 0b0001, 0b0010, 0b0011, 0b0100, 0b0110, 0b0111, 0b1000, 0b1100, 0b1110,
    0b1111]

/-- `Ps2ExpandByteEnableMask` for a word. -/
def expandByteEnable (byteEnable : BitVec 4) : BitVec 32 :=
  (List.range 4).foldl
    (fun mask index => if byteEnable.getLsbD index then mask ||| 0xFF#32 <<< (8 * index) else mask)
    0#32

/-- A write to D_STAT: the status bits written 1 are cleared, the mask bits written 1 toggle. -/
def writtenDStat (current writeValue : BitVec 32) : BitVec 32 :=
  let status := current &&& 0x3FF#32 &&& ~~~(writeValue &&& 0x3FF#32)
  let mask := current >>> 16 &&& 0x3FF#32 ^^^ writeValue >>> 16 &&& 0x3FF#32
  let next := current &&& ~~~(0x3FF#32 ||| 0x3FF#32 <<< 16 ||| 1#32 <<< 31)
  let next := next ||| (status ||| mask <<< 16)
  if status &&& mask ≠ 0#32 then next ||| 1#32 <<< 31 else next

namespace Dmac

def setRegister (d : Dmac) (address : ℕ) (value : BitVec 32) : Dmac :=
  { d with ioRegisters := Function.update d.ioRegisters address value }

theorem ioRegisters_setRegister_self (d : Dmac) (address : ℕ) (value : BitVec 32) :
    (d.setRegister address value).ioRegisters address = value := Function.update_self ..

theorem ioRegisters_setRegister_of_ne (d : Dmac) {address other : ℕ} (h : other ≠ address)
    (value : BitVec 32) : (d.setRegister address value).ioRegisters other = d.ioRegisters other :=
  Function.update_of_ne h ..

def setChannel (d : Dmac) (channel : DmacChannel) (state : DmacChannelLifecycle) : Dmac :=
  { d with channels := Function.update d.channels channel state }

/-- The completions of a channel leave the ready queue. -/
def dropCompletions (d : Dmac) (channel : DmacChannel) : Dmac :=
  { d with readyCompletions := d.readyCompletions.filter (·.transfer.channel ≠ channel) }

/-! ## Operations -/

def beginDmacTransfer (d : Dmac) (channel : DmacChannel) : DmacTransferToken × Dmac :=
  if dmacChannelCount ≤ channel.index then ({}, d)
  else
    let generation := nextDmacSequence (d.channels channel).generation
    let d := d.setChannel channel { generation := generation, phase := .Active }
    let d := d.dropCompletions channel
    ({ channel := channel, generation := generation },
      if channel.base ≠ 0 then
        d.setRegister channel.chcr (d.ioRegisters channel.chcr ||| 0x100#32)
      else d)

def progressDmacTransfer (d : Dmac) (transfer : DmacTransferToken) : Bool :=
  if dmacChannelCount ≤ transfer.channel.index ∨ transfer.generation = 0 then false
  else
    (d.channels transfer.channel).generation = transfer.generation &&
      (d.channels transfer.channel).phase = .Active

def requestDmacCompletion (d : Dmac) (transfer : DmacTransferToken) : Bool × Dmac :=
  if dmacChannelCount ≤ transfer.channel.index ∨ transfer.generation = 0 then (false, d)
  else
    let state := d.channels transfer.channel
    if state.generation ≠ transfer.generation ∨ state.phase ≠ .Active then (false, d)
    else
      let sequence := nextDmacSequence d.readySequence
      let d := d.setChannel transfer.channel { state with phase := .CompletionReady }
      (true,
        { d with
          readySequence := sequence
          readyCompletions :=
            d.readyCompletions ++ [{ transfer := transfer, readySequence := sequence }] })

def cancelDmacTransfer (d : Dmac) (channel : DmacChannel) : Bool × Dmac :=
  if dmacChannelCount ≤ channel.index then (false, d)
  else
    let state := d.channels channel
    let cancelled : Bool := state.phase ≠ .Idle
    let d := d.setChannel channel
      { generation := nextDmacSequence state.generation, phase := .Idle }
    let d := d.dropCompletions channel
    (cancelled,
      if channel.base ≠ 0 then
        d.setRegister channel.chcr (d.ioRegisters channel.chcr &&& ~~~0x100#32)
      else d)

def consumeReadyDmacCompletions (d : Dmac) : List DmacCompletionRequest × Dmac :=
  (d.readyCompletions, { d with readyCompletions := [] })

def publishDmacCompletion (d : Dmac) (completion : DmacCompletionRequest) (eventSequence : ℕ) :
    Bool × Dmac :=
  let channel := completion.transfer.channel
  if dmacChannelCount ≤ channel.index ∨ completion.transfer.generation = 0 then (false, d)
  else
    let state := d.channels channel
    if state.generation ≠ completion.transfer.generation ∨ state.phase ≠ .CompletionReady then
      (false, d)
    else
      let d := d.setChannel channel { state with phase := .Idle }
      let d := d.setRegister channel.chcr (d.ioRegisters channel.chcr &&& ~~~0x100#32)
      let d := d.setRegister channel.qwc 0#32
      let dstat := d.ioRegisters kDStat ||| 1#32 <<< channel.cause
      let d := d.setRegister kDStat (refreshDStat dstat)
      let sequence := nextDmacSequence d.publicationSequence
      (true,
        { d with
          publicationSequence := sequence
          pendingInterrupts := d.pendingInterrupts ++
            [{ source := channel
               cause := channel.cause
               channelGeneration := completion.transfer.generation
               eventSequence := eventSequence
               publicationSequence := sequence }] })

/-- Publish everything that is ready; the number of completions published. -/
def publishReadyDmacCompletions (d : Dmac) (eventSequence : ℕ) : ℕ × Dmac :=
  d.readyCompletions.foldl
    (fun (published, d) completion =>
      let (ok, d) := d.publishDmacCompletion completion eventSequence
      (published + if ok then 1 else 0, d))
    (0, d.consumeReadyDmacCompletions.2)

def consumePendingDmacInterrupts (d : Dmac) : List DmacPendingInterrupt × Dmac :=
  (d.pendingInterrupts, { d with pendingInterrupts := [] })

def setDmacInterruptMask (d : Dmac) (channel : DmacChannel) (enabled : Bool) : Dmac :=
  if 10 ≤ channel.cause then d
  else
    let dstat := d.ioRegisters kDStat
    let maskBit := 1#32 <<< (channel.cause + 16)
    let dstat := if enabled then dstat ||| maskBit else dstat &&& ~~~maskBit
    d.setRegister kDStat (refreshDStat dstat)

/-- `writeIORegisterMasked` at D_STAT. -/
def writeDStat (d : Dmac) (value : BitVec 32) (byteEnable : BitVec 4) : Bool × Dmac :=
  if ¬ validByteEnable byteEnable then (false, d)
  else if byteEnable = 0 then (true, d)
  else
    (true, d.setRegister kDStat
      (writtenDStat (d.ioRegisters kDStat) (value &&& expandByteEnable byteEnable)))

end Dmac

/-! ## Runs -/

inductive DmacOp where
  | beginDmacTransfer (channel : DmacChannel)
  | requestDmacCompletion (transfer : DmacTransferToken)
  | cancelDmacTransfer (channel : DmacChannel)
  | consumeReadyDmacCompletions
  | publishDmacCompletion (completion : DmacCompletionRequest) (eventSequence : ℕ)
  | consumePendingDmacInterrupts
  | setDmacInterruptMask (channel : DmacChannel) (enabled : Bool)
  | writeDStat (value : BitVec 32) (byteEnable : BitVec 4)
  deriving DecidableEq, Repr

/-- What an operation did, as its caller sees it. A token of generation 0 names no transfer. -/
inductive DmacEvent where
  | begun (transfer : DmacTransferToken)
  | requested (transfer : DmacTransferToken)
  | cancelled (channel : DmacChannel)
  | completions (taken : List DmacCompletionRequest)
  | published (transfer : DmacTransferToken)
  | interrupts (taken : List DmacPendingInterrupt)
  | refused
  | written
  deriving DecidableEq, Repr

namespace Dmac

def step (d : Dmac) : DmacOp → Dmac
  | .beginDmacTransfer channel => (d.beginDmacTransfer channel).2
  | .requestDmacCompletion transfer => (d.requestDmacCompletion transfer).2
  | .cancelDmacTransfer channel => (d.cancelDmacTransfer channel).2
  | .consumeReadyDmacCompletions => d.consumeReadyDmacCompletions.2
  | .publishDmacCompletion completion sequence => (d.publishDmacCompletion completion sequence).2
  | .consumePendingDmacInterrupts => d.consumePendingDmacInterrupts.2
  | .setDmacInterruptMask channel enabled => d.setDmacInterruptMask channel enabled
  | .writeDStat value byteEnable => (d.writeDStat value byteEnable).2

def event (d : Dmac) : DmacOp → DmacEvent
  | .beginDmacTransfer channel =>
    let transfer := (d.beginDmacTransfer channel).1
    if transfer.generation = 0 then .refused else .begun transfer
  | .requestDmacCompletion transfer =>
    if (d.requestDmacCompletion transfer).1 then .requested transfer else .refused
  | .cancelDmacTransfer channel =>
    if dmacChannelCount ≤ channel.index then .refused else .cancelled channel
  | .consumeReadyDmacCompletions => .completions d.consumeReadyDmacCompletions.1
  | .publishDmacCompletion completion sequence =>
    if (d.publishDmacCompletion completion sequence).1 then .published completion.transfer
    else .refused
  | .consumePendingDmacInterrupts => .interrupts d.consumePendingDmacInterrupts.1
  | .setDmacInterruptMask _ _ => .written
  | .writeDStat _ _ => .written

/-- The operation does not wrap the generation of its channel. -/
def NoWrap (d : Dmac) : DmacOp → Prop
  | .beginDmacTransfer channel => (d.channels channel).generation < 2 ^ 64 - 1
  | .cancelDmacTransfer channel => (d.channels channel).generation < 2 ^ 64 - 1
  | _ => True

instance (d : Dmac) : DecidablePred d.NoWrap
  | .beginDmacTransfer _ => inferInstanceAs (Decidable (_ < _))
  | .cancelDmacTransfer _ => inferInstanceAs (Decidable (_ < _))
  | .requestDmacCompletion _ => .isTrue trivial
  | .consumeReadyDmacCompletions => .isTrue trivial
  | .publishDmacCompletion _ _ => .isTrue trivial
  | .consumePendingDmacInterrupts => .isTrue trivial
  | .setDmacInterruptMask _ _ => .isTrue trivial
  | .writeDStat _ _ => .isTrue trivial

end Dmac

end Ps2Recomp
