import Famicom.Cpu.Flags

/-!
The arithmetic unit: each function takes the flags before an operation and yields its result with
the flags after it. Addition and subtraction have a binary and a decimal form.
-/

namespace Famicom.Flags

def addBinary (flags : Flags) (a operand : UInt8) : UInt8 × Flags :=
  let sum := a.toNat + operand.toNat + flags.carry.toNat
  let result := UInt8.ofNat sum
  (result, { flags with
    carry := decide (0xff < sum)
    overflow := (~~~(a ^^^ operand) &&& (a ^^^ result)).bit 7 }.setZeroNegative result)

/-- Digits above nine are corrected one at a time. Zero comes from the binary sum, negative and
overflow from the high digit before its own correction. -/
def addDecimal (flags : Flags) (a operand : UInt8) : UInt8 × Flags :=
  let binary := UInt8.ofNat (a.toNat + operand.toNat + flags.carry.toNat)
  let lowSum := a.toNat % 16 + operand.toNat % 16 + flags.carry.toNat
  let low := if 9 < lowSum then lowSum + 6 else lowSum
  let highSum := a.toNat / 16 + operand.toNat / 16 + (if 15 < low then 1 else 0)
  let high := if 9 < highSum then highSum + 6 else highSum
  (UInt8.ofNat (high % 16 * 16 + low % 16), { flags with
    zero := binary == 0
    negative := highSum.testBit 3
    overflow := (~~~(a ^^^ operand) &&& (a ^^^ UInt8.ofNat (highSum * 16))).bit 7
    carry := decide (15 < high) })

def add (flags : Flags) (a operand : UInt8) : UInt8 × Flags :=
  if flags.decimal then flags.addDecimal a operand else flags.addBinary a operand

/-- All flags follow the binary difference; a set carry means that nothing was borrowed. -/
def subtractDecimal (flags : Flags) (a operand : UInt8) : UInt8 × Flags :=
  let borrow : Int := if flags.carry then 0 else 1
  let binary : Int := a.toNat - operand.toNat - borrow
  let result := UInt8.ofNat (binary % 256).toNat
  let lowDifference : Int := (a.toNat % 16 : Nat) - (operand.toNat % 16 : Nat) - borrow
  let low := if lowDifference < 0 then lowDifference - 6 else lowDifference
  let highDifference : Int :=
    (a.toNat / 16 : Nat) - (operand.toNat / 16 : Nat) - (if lowDifference < 0 then 1 else 0)
  let high := if highDifference < 0 then highDifference - 6 else highDifference
  (UInt8.ofNat ((high % 16).toNat * 16 + (low % 16).toNat), { flags with
    carry := decide (0 ≤ binary)
    overflow := ((a ^^^ operand) &&& (a ^^^ result)).bit 7 }.setZeroNegative result)

def subtract (flags : Flags) (a operand : UInt8) : UInt8 × Flags :=
  if flags.decimal then flags.subtractDecimal a operand else flags.addBinary a (~~~operand)

def compare (flags : Flags) (register operand : UInt8) : Flags :=
  { flags with carry := decide (operand ≤ register) }.setZeroNegative (register - operand)

def shiftLeft (flags : Flags) (value : UInt8) : UInt8 × Flags :=
  let result := value <<< 1
  (result, { flags with carry := value.bit 7 }.setZeroNegative result)

def shiftRight (flags : Flags) (value : UInt8) : UInt8 × Flags :=
  let result := value >>> 1
  (result, { flags with carry := value.bit 0 }.setZeroNegative result)

def rotateLeft (flags : Flags) (value : UInt8) : UInt8 × Flags :=
  let result := (value <<< 1) ||| UInt8.ofNat flags.carry.toNat
  (result, { flags with carry := value.bit 7 }.setZeroNegative result)

def rotateRight (flags : Flags) (value : UInt8) : UInt8 × Flags :=
  let result := (value >>> 1) ||| (UInt8.ofNat flags.carry.toNat <<< 7)
  (result, { flags with carry := value.bit 0 }.setZeroNegative result)

end Famicom.Flags
