import Ps2Recomp.Vu.Encoding

/-!
# The VU instruction-pair IR (`ps2_vu_ir.h`, `ps2_vu_ir.cpp`)

`decodeVuIrInstructionPair`, and what it says of each operation: the registers it reads and writes,
its flags, latency, destination mask and selector. Masks and flags are words, as in the source; the
8-bit fields of an operation are natural numbers.
-/

namespace Ps2Recomp

/-! ## Types -/

/-- `VuIrOpcode`. -/
inductive VuIrOpcode where
  | Nop | Loi | UpperAddBc | UpperSubBc | UpperMaddBc | UpperMsubBc | UpperMaxBc | UpperMiniBc
  | UpperMulBc | UpperMulQ | UpperMaxI | UpperMulI | UpperMiniI | UpperAddQ | UpperMaddQ
  | UpperAddI | UpperMaddI | UpperSubQ | UpperMsubQ | UpperSubI | UpperMsubI | UpperAdd
  | UpperMadd | UpperMul | UpperMax | UpperSub | UpperMsub | UpperOpMsub | UpperMini
  | UpperAddaBc | UpperSubaBc | UpperMaddaBc | UpperMsubaBc | UpperItof0 | UpperItof4
  | UpperItof12 | UpperItof15 | UpperFtoi0 | UpperFtoi4 | UpperFtoi12 | UpperFtoi15 | UpperMulaBc
  | UpperMulaQ | UpperAbs | UpperMulaI | UpperClip | UpperAddaQ | UpperMaddaQ | UpperAddaI
  | UpperMaddaI | UpperSubaQ | UpperMsubaQ | UpperSubaI | UpperMsubaI | UpperAdda | UpperMadda
  | UpperMula | UpperSuba | UpperMsuba | UpperOpmula | LowerLq | LowerSq | LowerIlw | LowerIsw
  | LowerIaddiu | LowerIsubiu | LowerFceq | LowerFcset | LowerFcand | LowerFcor | LowerFseq
  | LowerFsset | LowerFsand | LowerFsor | LowerFmand | LowerFmeq | LowerFmor | LowerFcget
  | LowerB | LowerBal | LowerJr | LowerJalr | LowerIbeq | LowerIbne | LowerIbltz | LowerIbgtz
  | LowerIblez | LowerIbgez | LowerIadd | LowerIsub | LowerIaddi | LowerIand | LowerIor
  | LowerMove | LowerMr32 | LowerLqi | LowerSqi | LowerLqd | LowerSqd | LowerDiv | LowerSqrt
  | LowerRsqrt | LowerWaitQ | LowerMtir | LowerMfir | LowerIlwr | LowerIswr | LowerRnext
  | LowerRget | LowerRinit | LowerRxor | LowerMfp | LowerXtop | LowerXitop | LowerXgkick
  | LowerEsadd | LowerErsadd | LowerEleng | LowerErleng | LowerErcpr | LowerWaitP | LowerEatan
  | Unsupported
  deriving DecidableEq, Repr

/-! `VuIrOpFlag`. -/

namespace VuIrOp

def ReadsAcc : BitVec 32 := 1#32 <<< 0
def WritesAcc : BitVec 32 := 1#32 <<< 1
def ReadsQ : BitVec 32 := 1#32 <<< 2
def WritesQ : BitVec 32 := 1#32 <<< 3
def ReadsP : BitVec 32 := 1#32 <<< 4
def WritesP : BitVec 32 := 1#32 <<< 5
def ReadsI : BitVec 32 := 1#32 <<< 6
def WritesI : BitVec 32 := 1#32 <<< 7
def ReadsStatus : BitVec 32 := 1#32 <<< 8
def WritesStatus : BitVec 32 := 1#32 <<< 9
def ReadsMac : BitVec 32 := 1#32 <<< 10
def WritesMac : BitVec 32 := 1#32 <<< 11
def ReadsClip : BitVec 32 := 1#32 <<< 12
def WritesClip : BitVec 32 := 1#32 <<< 13
def ReadsVuData : BitVec 32 := 1#32 <<< 14
def WritesVuData : BitVec 32 := 1#32 <<< 15
def Branch : BitVec 32 := 1#32 <<< 16
def IndirectBranch : BitVec 32 := 1#32 <<< 17
def Link : BitVec 32 := 1#32 <<< 18
def Fmac : BitVec 32 := 1#32 <<< 19
def Xgkick : BitVec 32 := 1#32 <<< 20
def ExternalEffect : BitVec 32 := 1#32 <<< 21
def Unsupported : BitVec 32 := 1#32 <<< 22
def QBarrier : BitVec 32 := 1#32 <<< 23
def PBarrier : BitVec 32 := 1#32 <<< 24
def ReadsTop : BitVec 32 := 1#32 <<< 25
def ReadsItop : BitVec 32 := 1#32 <<< 26

end VuIrOp

inductive VuIrPairOrder where
  | UpperThenLower
  | LowerThenUpper
  | UpperThenLoi
  deriving DecidableEq, Repr

/-! `VuIrPairFlag`. -/

namespace VuIrPair

def Immediate : BitVec 8 := 1#8 <<< 0
def End : BitVec 8 := 1#8 <<< 1
def Branch : BitVec 8 := 1#8 <<< 2
def Xgkick : BitVec 8 := 1#8 <<< 3
def Unsupported : BitVec 8 := 1#8 <<< 4
def AdvancesPipelines : BitVec 8 := 1#8 <<< 5

end VuIrPair

structure VuIrOperation where
  vfReadMask : BitVec 32 := 0
  vfWriteMask : BitVec 32 := 0
  flags : BitVec 32 := 0
  viReadMask : BitVec 16 := 0
  viWriteMask : BitVec 16 := 0
  opcode : VuIrOpcode := .Unsupported
  destinationMask : ℕ := 0
  latency : ℕ := 0
  selector : ℕ := 0
  deriving DecidableEq, Repr

structure VuIrInstructionPair where
  pc : ℕ := 0
  lowerWord : VuWord := 0
  upperWord : VuWord := 0
  upper : VuIrOperation := {}
  lower : VuIrOperation := {}
  order : VuIrPairOrder := .UpperThenLower
  flags : BitVec 8 := 0
  cycles : ℕ := 1
  deriving DecidableEq, Repr

def vuIrHasOpFlag (operation : VuIrOperation) (flag : BitVec 32) : Bool :=
  operation.flags &&& flag != 0

def vuIrHasPairFlag (pair : VuIrInstructionPair) (flag : BitVec 8) : Bool :=
  pair.flags &&& flag != 0

/-! ## Building an operation -/

def vfMask (reg : ℕ) : BitVec 32 := 1#32 <<< (reg % 32)

def viMask (reg : ℕ) : BitVec 16 := 1#16 <<< (reg % 16)

namespace VuIrOperation

variable (operation : VuIrOperation)

def addVfRead (reg : ℕ) : VuIrOperation :=
  { operation with vfReadMask := operation.vfReadMask ||| vfMask reg }

def addVfWrite (reg destination : ℕ) : VuIrOperation :=
  if reg ≠ 0 ∧ destination ≠ 0 then
    { operation with vfWriteMask := operation.vfWriteMask ||| vfMask reg }
  else operation

def addViRead (reg : ℕ) : VuIrOperation :=
  { operation with viReadMask := operation.viReadMask ||| viMask reg }

def addViWrite (reg : ℕ) : VuIrOperation :=
  if reg ≠ 0 then { operation with viWriteMask := operation.viWriteMask ||| viMask reg }
  else operation

/-- `operation.flags |= flags`. -/
def mark (flags : BitVec 32) : VuIrOperation :=
  { operation with flags := operation.flags ||| flags }

def markIf (condition : Bool) (flags : BitVec 32) : VuIrOperation :=
  if condition then operation.mark flags else operation

def markFmac : VuIrOperation :=
  { operation.mark (VuIrOp.Fmac ||| VuIrOp.WritesMac ||| VuIrOp.WritesStatus) with latency := 4 }

def markPProducer (latency : ℕ) : VuIrOperation :=
  { operation.mark (VuIrOp.WritesP ||| VuIrOp.PBarrier) with latency }

def markUnsupported : VuIrOperation :=
  { operation with opcode := .Unsupported }.mark VuIrOp.Unsupported

def markRecognizedUnsupported (opcode : VuIrOpcode) : VuIrOperation :=
  { operation with opcode }.mark VuIrOp.Unsupported

/-! The lambdas of `decodeUpper`. -/

def vfBinaryDestination (word : VuWord) (opcode : VuIrOpcode) (readsAcc fmac : Bool) :
    VuIrOperation :=
  let operation := { operation with opcode }.addVfRead word.FS
  let operation := (operation.addVfRead word.FT).addVfWrite word.FD word.DEST
  let operation := operation.markIf readsAcc VuIrOp.ReadsAcc
  if fmac then operation.markFmac else operation

def vfScalarDestination (word : VuWord) (opcode : VuIrOpcode) (scalarFlag : BitVec 32)
    (readsAcc fmac : Bool) : VuIrOperation :=
  let operation := { operation with opcode }.addVfRead word.FS
  let operation := (operation.addVfWrite word.FD word.DEST).mark scalarFlag
  let operation := operation.markIf readsAcc VuIrOp.ReadsAcc
  if fmac then operation.markFmac else operation

def accBinary (word : VuWord) (opcode : VuIrOpcode) (readsAcc : Bool) : VuIrOperation :=
  let operation := { operation with opcode }.addVfRead word.FS
  let operation := (operation.addVfRead word.FT).mark VuIrOp.WritesAcc
  (operation.markIf readsAcc VuIrOp.ReadsAcc).markFmac

def accScalar (word : VuWord) (opcode : VuIrOpcode) (scalarFlag : BitVec 32) (readsAcc : Bool) :
    VuIrOperation :=
  let operation := { operation with opcode }.addVfRead word.FS
  let operation := operation.mark (VuIrOp.WritesAcc ||| scalarFlag)
  (operation.markIf readsAcc VuIrOp.ReadsAcc).markFmac

/-- The conversions and `ABS`, which have their destination in FT. -/
def vfConversion (word : VuWord) (opcode : VuIrOpcode) : VuIrOperation :=
  ({ operation with opcode }.addVfRead word.FS).addVfWrite word.FT word.DEST

/-- The lambda `branch` of `decodeLower`. -/
def branch (opcode : VuIrOpcode) (indirect link : Bool) : VuIrOperation :=
  let operation := { operation with opcode }.mark VuIrOp.Branch
  (operation.markIf indirect VuIrOp.IndirectBranch).markIf link VuIrOp.Link

end VuIrOperation

/-! ## Upper instructions -/

/-- The second `switch` of `decodeUpper`. -/
def decodeUpperSpecial (word : VuWord) (operation : VuIrOperation) : VuIrOperation :=
  let special := word.specialOp
  let operation := { operation with
    selector := if special ≤ 0x0F ∨ (special ≥ 0x18 ∧ special ≤ 0x1B) then special % 4 else 0 }
  match special with
  | 0x00 | 0x01 | 0x02 | 0x03 => operation.accBinary word .UpperAddaBc false
  | 0x04 | 0x05 | 0x06 | 0x07 => operation.accBinary word .UpperSubaBc false
  | 0x08 | 0x09 | 0x0A | 0x0B => operation.accBinary word .UpperMaddaBc true
  | 0x0C | 0x0D | 0x0E | 0x0F => operation.accBinary word .UpperMsubaBc true
  | 0x10 => operation.vfConversion word .UpperItof0
  | 0x11 => operation.vfConversion word .UpperItof4
  | 0x12 => operation.vfConversion word .UpperItof12
  | 0x13 => operation.vfConversion word .UpperItof15
  | 0x14 => operation.vfConversion word .UpperFtoi0
  | 0x15 => operation.vfConversion word .UpperFtoi4
  | 0x16 => operation.vfConversion word .UpperFtoi12
  | 0x17 => operation.vfConversion word .UpperFtoi15
  | 0x18 | 0x19 | 0x1A | 0x1B => operation.accBinary word .UpperMulaBc false
  | 0x1C => operation.accScalar word .UpperMulaQ VuIrOp.ReadsQ false
  | 0x1D => operation.vfConversion word .UpperAbs
  | 0x1E => operation.accScalar word .UpperMulaI VuIrOp.ReadsI false
  | 0x1F =>
    let operation := { operation with opcode := .UpperClip }.addVfRead word.FS
    (operation.addVfRead word.FT).mark (VuIrOp.ReadsClip ||| VuIrOp.WritesClip)
  | 0x20 => operation.accScalar word .UpperAddaQ VuIrOp.ReadsQ false
  | 0x21 => operation.accScalar word .UpperMaddaQ VuIrOp.ReadsQ true
  | 0x22 => operation.accScalar word .UpperAddaI VuIrOp.ReadsI false
  | 0x23 => operation.accScalar word .UpperMaddaI VuIrOp.ReadsI true
  | 0x24 => operation.accScalar word .UpperSubaQ VuIrOp.ReadsQ false
  | 0x25 => operation.accScalar word .UpperMsubaQ VuIrOp.ReadsQ true
  | 0x26 => operation.accScalar word .UpperSubaI VuIrOp.ReadsI false
  | 0x27 => operation.accScalar word .UpperMsubaI VuIrOp.ReadsI true
  | 0x28 => operation.accBinary word .UpperAdda false
  | 0x29 => operation.accBinary word .UpperMadda true
  | 0x2A => operation.accBinary word .UpperMula false
  | 0x2C => operation.accBinary word .UpperSuba false
  | 0x2D => operation.accBinary word .UpperMsuba true
  | 0x2E => operation.accBinary word .UpperOpmula false
  | 0x2F | 0x30 => { operation with opcode := .Nop }
  | _ => operation.markUnsupported

def decodeUpper (word : VuWord) : VuIrOperation :=
  let primary := word.upperPrimary
  let operation : VuIrOperation :=
    { destinationMask := word.DEST, selector := if primary ≤ 0x1B then primary % 4 else 0 }
  match primary with
  | 0x00 | 0x01 | 0x02 | 0x03 => operation.vfBinaryDestination word .UpperAddBc false true
  | 0x04 | 0x05 | 0x06 | 0x07 => operation.vfBinaryDestination word .UpperSubBc false true
  | 0x08 | 0x09 | 0x0A | 0x0B => operation.vfBinaryDestination word .UpperMaddBc true true
  | 0x0C | 0x0D | 0x0E | 0x0F => operation.vfBinaryDestination word .UpperMsubBc true true
  | 0x10 | 0x11 | 0x12 | 0x13 => operation.vfBinaryDestination word .UpperMaxBc false false
  | 0x14 | 0x15 | 0x16 | 0x17 => operation.vfBinaryDestination word .UpperMiniBc false false
  | 0x18 | 0x19 | 0x1A | 0x1B => operation.vfBinaryDestination word .UpperMulBc false true
  | 0x1C => operation.vfScalarDestination word .UpperMulQ VuIrOp.ReadsQ false true
  | 0x1D => operation.vfScalarDestination word .UpperMaxI VuIrOp.ReadsI false false
  | 0x1E => operation.vfScalarDestination word .UpperMulI VuIrOp.ReadsI false true
  | 0x1F => operation.vfScalarDestination word .UpperMiniI VuIrOp.ReadsI false false
  | 0x20 => operation.vfScalarDestination word .UpperAddQ VuIrOp.ReadsQ false true
  | 0x21 => operation.vfScalarDestination word .UpperMaddQ VuIrOp.ReadsQ true true
  | 0x22 => operation.vfScalarDestination word .UpperAddI VuIrOp.ReadsI false true
  | 0x23 => operation.vfScalarDestination word .UpperMaddI VuIrOp.ReadsI true true
  | 0x24 => operation.vfScalarDestination word .UpperSubQ VuIrOp.ReadsQ false true
  | 0x25 => operation.vfScalarDestination word .UpperMsubQ VuIrOp.ReadsQ true true
  | 0x26 => operation.vfScalarDestination word .UpperSubI VuIrOp.ReadsI false true
  | 0x27 => operation.vfScalarDestination word .UpperMsubI VuIrOp.ReadsI true true
  | 0x28 => operation.vfBinaryDestination word .UpperAdd false true
  | 0x29 => operation.vfBinaryDestination word .UpperMadd true true
  | 0x2A => operation.vfBinaryDestination word .UpperMul false true
  | 0x2B => operation.vfBinaryDestination word .UpperMax false false
  | 0x2C => operation.vfBinaryDestination word .UpperSub false true
  | 0x2D => operation.vfBinaryDestination word .UpperMsub true true
  | 0x2E => operation.vfBinaryDestination word .UpperOpMsub true true
  | 0x2F => operation.vfBinaryDestination word .UpperMini false false
  | 0x3C | 0x3D | 0x3E | 0x3F => decodeUpperSpecial word operation
  | _ => operation.markUnsupported

/-! ## Lower instructions -/

/-- The third `switch` of `decodeLower`. -/
def decodeLowerSpecial (word : VuWord) (operation : VuIrOperation) : VuIrOperation :=
  let destination := word.DEST
  match word.specialOp with
  | 0x30 =>
    { operation with opcode := .LowerMove, destinationMask := destination } |>.addVfRead word.FS
      |>.addVfWrite word.FT destination
  | 0x31 =>
    { operation with opcode := .LowerMr32, destinationMask := destination } |>.addVfRead word.FS
      |>.addVfWrite word.FT destination
  | 0x34 =>
    { operation with opcode := .LowerLqi, destinationMask := destination } |>.addViRead word.VIS
      |>.addViWrite word.VIS |>.addVfWrite word.FT destination |>.mark VuIrOp.ReadsVuData
  | 0x35 =>
    { operation with opcode := .LowerSqi, destinationMask := destination } |>.addVfRead word.FS
      |>.addViRead word.VIT |>.addViWrite word.VIT |>.mark VuIrOp.WritesVuData
  | 0x36 =>
    { operation with opcode := .LowerLqd, destinationMask := destination } |>.addViRead word.VIS
      |>.addViWrite word.VIS |>.addVfWrite word.FT destination |>.mark VuIrOp.ReadsVuData
  | 0x37 =>
    { operation with opcode := .LowerSqd, destinationMask := destination } |>.addVfRead word.FS
      |>.addViRead word.VIT |>.addViWrite word.VIT |>.mark VuIrOp.WritesVuData
  | 0x38 =>
    { operation with opcode := .LowerDiv, selector := destination, latency := 7 }
      |>.addVfRead word.FS |>.addVfRead word.FT |>.mark (VuIrOp.WritesQ ||| VuIrOp.QBarrier)
  | 0x39 =>
    { operation with opcode := .LowerSqrt, selector := destination, latency := 7 }
      |>.addVfRead word.FT |>.mark (VuIrOp.WritesQ ||| VuIrOp.QBarrier)
  | 0x3A =>
    { operation with opcode := .LowerRsqrt, selector := destination, latency := 13 }
      |>.addVfRead word.FS |>.addVfRead word.FT |>.mark (VuIrOp.WritesQ ||| VuIrOp.QBarrier)
  | 0x3B => { operation with opcode := .LowerWaitQ } |>.mark (VuIrOp.ReadsQ ||| VuIrOp.QBarrier)
  | 0x3C =>
    { operation with opcode := .LowerMtir, selector := destination % 4 } |>.addVfRead word.FS
      |>.addViWrite word.VIT
  | 0x3D =>
    { operation with opcode := .LowerMfir, destinationMask := destination }
      |>.addViRead word.VIS |>.addVfWrite word.FT destination
  | 0x3E =>
    { operation with opcode := .LowerIlwr, destinationMask := destination }
      |>.addViRead word.VIS |>.addViWrite word.VIT |>.mark VuIrOp.ReadsVuData
  | 0x3F =>
    { operation with opcode := .LowerIswr, destinationMask := destination }
      |>.addViRead word.VIS |>.addViRead word.VIT |>.mark VuIrOp.WritesVuData
  | 0x40 =>
    { operation with destinationMask := destination } |>.markRecognizedUnsupported .LowerRnext
      |>.addVfWrite word.FT destination
  | 0x41 =>
    { operation with destinationMask := destination } |>.markRecognizedUnsupported .LowerRget
      |>.addVfWrite word.FT destination
  | 0x42 =>
    { operation with selector := destination % 4 } |>.markRecognizedUnsupported .LowerRinit
      |>.addVfRead word.FS
  | 0x43 =>
    { operation with selector := destination % 4 } |>.markRecognizedUnsupported .LowerRxor
      |>.addVfRead word.FS
  | 0x64 =>
    { operation with opcode := .LowerMfp, destinationMask := destination } |>.mark VuIrOp.ReadsP
      |>.addVfWrite word.FT destination
  | 0x68 => { operation with opcode := .LowerXtop } |>.addViWrite word.VIT |>.mark VuIrOp.ReadsTop
  | 0x69 =>
    { operation with opcode := .LowerXitop } |>.addViWrite word.VIT |>.mark VuIrOp.ReadsItop
  | 0x6C =>
    { operation with opcode := .LowerXgkick } |>.addViRead word.VIS
      |>.mark (VuIrOp.ReadsVuData ||| VuIrOp.Xgkick ||| VuIrOp.ExternalEffect)
  | 0x70 =>
    operation.markRecognizedUnsupported .LowerEsadd |>.addVfRead word.FS |>.markPProducer 11
  | 0x71 =>
    operation.markRecognizedUnsupported .LowerErsadd |>.addVfRead word.FS |>.markPProducer 18
  | 0x72 => { operation with opcode := .LowerEleng } |>.addVfRead word.FS |>.markPProducer 18
  | 0x73 => { operation with opcode := .LowerErleng } |>.addVfRead word.FS |>.markPProducer 24
  | 0x7A =>
    { operation with opcode := .LowerErcpr, selector := destination % 4 } |>.addVfRead word.FS
      |>.markPProducer 12
  | 0x7B => { operation with opcode := .LowerWaitP } |>.mark (VuIrOp.ReadsP ||| VuIrOp.PBarrier)
  | 0x7D =>
    { operation with selector := destination % 4 } |>.markRecognizedUnsupported .LowerEatan
      |>.addVfRead word.FS |>.markPProducer 54
  | _ => operation.markUnsupported

/-- The second `switch` of `decodeLower`. -/
def decodeLowerFunction (word : VuWord) (operation : VuIrOperation) : VuIrOperation :=
  match (word &&& 0x3F).toNat with
  | 0x30 =>
    { operation with opcode := .LowerIadd } |>.addViRead word.VIS |>.addViRead word.VIT
      |>.addViWrite word.VID
  | 0x31 =>
    { operation with opcode := .LowerIsub } |>.addViRead word.VIS |>.addViRead word.VIT
      |>.addViWrite word.VID
  | 0x32 =>
    { operation with opcode := .LowerIaddi } |>.addViRead word.VIS |>.addViWrite word.VIT
  | 0x34 =>
    { operation with opcode := .LowerIand } |>.addViRead word.VIS |>.addViRead word.VIT
      |>.addViWrite word.VID
  | 0x35 =>
    { operation with opcode := .LowerIor } |>.addViRead word.VIS |>.addViRead word.VIT
      |>.addViWrite word.VID
  | 0x3C | 0x3D | 0x3E | 0x3F => decodeLowerSpecial word operation
  | _ => operation.markUnsupported

def decodeLower (word : VuWord) : VuIrOperation :=
  let operation : VuIrOperation := {}
  let destination := word.DEST
  if word = 0 ∨ word = 0x8000033C#32 then { operation with opcode := .Nop }
  else
    match word.lowerPrimary with
    | 0x00 =>
      { operation with opcode := .LowerLq, destinationMask := destination } |>.addViRead word.VIS
        |>.addVfWrite word.FT destination |>.mark VuIrOp.ReadsVuData
    | 0x01 =>
      { operation with opcode := .LowerSq, destinationMask := destination } |>.addVfRead word.FS
        |>.addViRead word.VIT |>.mark VuIrOp.WritesVuData
    | 0x04 =>
      { operation with opcode := .LowerIlw, destinationMask := destination } |>.addViRead word.VIS
        |>.addViWrite word.VIT |>.mark VuIrOp.ReadsVuData
    | 0x05 =>
      { operation with opcode := .LowerIsw, destinationMask := destination } |>.addViRead word.VIS
        |>.addViRead word.VIT |>.mark VuIrOp.WritesVuData
    | 0x08 =>
      { operation with opcode := .LowerIaddiu } |>.addViRead word.VIS |>.addViWrite word.VIT
    | 0x09 =>
      { operation with opcode := .LowerIsubiu } |>.addViRead word.VIS |>.addViWrite word.VIT
    | 0x10 => { operation with opcode := .LowerFceq } |>.mark VuIrOp.ReadsClip |>.addViWrite 1
    | 0x11 => { operation with opcode := .LowerFcset } |>.mark VuIrOp.WritesClip
    | 0x12 => { operation with opcode := .LowerFcand } |>.mark VuIrOp.ReadsClip |>.addViWrite 1
    | 0x13 => { operation with opcode := .LowerFcor } |>.mark VuIrOp.ReadsClip |>.addViWrite 1
    | 0x14 =>
      { operation with opcode := .LowerFseq } |>.mark VuIrOp.ReadsStatus |>.addViWrite word.VIT
    | 0x15 => { operation with opcode := .LowerFsset } |>.mark VuIrOp.WritesStatus
    | 0x16 =>
      { operation with opcode := .LowerFsand } |>.mark VuIrOp.ReadsStatus |>.addViWrite word.VIT
    | 0x17 =>
      { operation with opcode := .LowerFsor } |>.mark VuIrOp.ReadsStatus |>.addViWrite word.VIT
    | 0x18 =>
      { operation with opcode := .LowerFmeq } |>.mark VuIrOp.ReadsMac |>.addViRead word.VIS
        |>.addViWrite word.VIT
    | 0x1A =>
      { operation with opcode := .LowerFmand } |>.mark VuIrOp.ReadsMac |>.addViRead word.VIS
        |>.addViWrite word.VIT
    | 0x1B =>
      { operation with opcode := .LowerFmor } |>.mark VuIrOp.ReadsMac |>.addViRead word.VIS
        |>.addViWrite word.VIT
    | 0x1C =>
      { operation with opcode := .LowerFcget } |>.mark VuIrOp.ReadsClip |>.addViWrite word.VIT
    | 0x20 => operation.branch .LowerB false false
    | 0x21 => operation.branch .LowerBal false true |>.addViWrite word.VIT
    | 0x24 => operation.branch .LowerJr true false |>.addViRead word.VIS
    | 0x25 =>
      operation.branch .LowerJalr true true |>.addViRead word.VIS |>.addViWrite word.VIT
    | 0x28 =>
      operation.branch .LowerIbeq false false |>.addViRead word.VIS |>.addViRead word.VIT
    | 0x29 =>
      operation.branch .LowerIbne false false |>.addViRead word.VIS |>.addViRead word.VIT
    | 0x2C => operation.branch .LowerIbltz false false |>.addViRead word.VIS
    | 0x2D => operation.branch .LowerIbgtz false false |>.addViRead word.VIS
    | 0x2E => operation.branch .LowerIblez false false |>.addViRead word.VIS
    | 0x2F => operation.branch .LowerIbgez false false |>.addViRead word.VIS
    | 0x40 => decodeLowerFunction word operation
    | _ => operation.markUnsupported

/-! ## Pairs -/

def decodeVuIrInstructionPair (pc : ℕ) (lowerWord upperWord : VuWord) : VuIrInstructionPair :=
  let immediate := upperWord &&& 0x80000000#32 != 0
  let upper := decodeUpper upperWord
  let lower : VuIrOperation :=
    if immediate then { opcode := .Loi, flags := VuIrOp.WritesI } else decodeLower lowerWord
  let flagIf (condition : Bool) (flag : BitVec 8) : BitVec 8 := if condition then flag else 0
  { pc, lowerWord, upperWord, upper, lower
    order :=
      if immediate then .UpperThenLoi
      else if vuLowerShouldRunBeforeUpper upperWord lowerWord then .LowerThenUpper
      else .UpperThenLower
    flags := VuIrPair.AdvancesPipelines ||| flagIf immediate VuIrPair.Immediate |||
      flagIf (upperWord &&& 0x40000000#32 != 0) VuIrPair.End |||
      flagIf (vuIrHasOpFlag lower VuIrOp.Branch) VuIrPair.Branch |||
      flagIf (vuIrHasOpFlag lower VuIrOp.Xgkick) VuIrPair.Xgkick |||
      flagIf (vuIrHasOpFlag upper VuIrOp.Unsupported || vuIrHasOpFlag lower VuIrOp.Unsupported)
        VuIrPair.Unsupported }

end Ps2Recomp
