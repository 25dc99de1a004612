import Famicom.Byte

namespace Famicom

structure Flags where
  negative : Bool := false
  overflow : Bool := false
  /-- Exists only in copies on the stack; kept so that such a copy can be inspected. -/
  brk : Bool := false
  decimal : Bool := false
  interruptDisable : Bool := false
  zero : Bool := false
  carry : Bool := false
  deriving DecidableEq, Inhabited

namespace Flags

def toByte (flags : Flags) : UInt8 :=
  UInt8.ofNat (flags.negative.toNat * 0x80 + flags.overflow.toNat * 0x40 + 0x20 +
    flags.brk.toNat * 0x10 + flags.decimal.toNat * 0x08 + flags.interruptDisable.toNat * 0x04 +
    flags.zero.toNat * 0x02 + flags.carry.toNat)

def ofByte (byte : UInt8) : Flags where
  negative := byte.bit 7
  overflow := byte.bit 6
  decimal := byte.bit 3
  interruptDisable := byte.bit 2
  zero := byte.bit 1
  carry := byte.bit 0

theorem ofByte_toByte (flags : Flags) : ofByte flags.toByte = { flags with brk := false } := by
  obtain ⟨negative, overflow, brk, decimal, interruptDisable, zero, carry⟩ := flags
  cases negative <;> cases overflow <;> cases brk <;> cases decimal <;> cases interruptDisable <;>
    cases zero <;> cases carry <;> rfl

/-- The byte pushed by an instruction (`brk`) or by an interrupt. -/
def pushed (flags : Flags) (brk : Bool) : UInt8 :=
  { flags with brk }.toByte

def setZeroNegative (flags : Flags) (value : UInt8) : Flags :=
  { flags with zero := value == 0, negative := value.bit 7 }

def text (flags : Flags) : String :=
  let letter (isSet : Bool) (name : Char) := if isSet then name else '-'
  String.ofList [letter flags.negative 'N', letter flags.overflow 'V', '-', letter flags.brk 'B',
    letter flags.decimal 'D', letter flags.interruptDisable 'I', letter flags.zero 'Z',
    letter flags.carry 'C']

end Flags

end Famicom
