import Famicom.Cpu.Microprogram
import Famicom.Cpu.Registers

namespace Famicom

inductive Mode
  | implied
  | accumulator
  | immediate
  | zeroPage
  | zeroPageX
  | zeroPageY
  | indexedIndirect
  | indirectIndexed
  | absolute
  | absoluteX
  | absoluteY
  | indirect
  | relative
  deriving DecidableEq, Inhabited

structure Operand where
  address : UInt16 := 0
  base : UInt16 := 0
  crossed : Bool := false

namespace Registers

open Microprogram

def fetchByte (registers : Registers) : Microprogram (UInt8 × Registers) := do
  let byte ← read registers.pc
  return (byte, { registers with pc := registers.pc + 1 })

def fetchWord (registers : Registers) : Microprogram (UInt16 × Registers) := do
  let (low, registers) ← registers.fetchByte
  let (high, registers) ← registers.fetchByte
  return (UInt16.ofBytes low high, registers)

end Registers

namespace Operand

open Microprogram

def indexed (base : UInt16) (index : UInt8) : Operand :=
  let address := base + index.toUInt16
  { address, base, crossed := !base.samePage address }

/-- An index that leaves the page costs a cycle. An instruction that only reads skips that cycle
when the page stays the same; every other instruction spends it always. -/
def settle (operand : Operand) (readsOnly : Bool) : Microprogram Operand :=
  if readsOnly && !operand.crossed then return operand
  else do
    wait
    return operand

/-- A pointer in page zero; its high byte wraps within that page. -/
def readPointer (location : UInt8) : Microprogram UInt16 := do
  let low ← read location.toUInt16
  let high ← read (location + 1).toUInt16
  return UInt16.ofBytes low high

end Operand

namespace Mode

open Microprogram Operand

/-- A plain absolute read that nothing answers sees the high byte of its address. -/
def openBusRule : Mode → OpenBusRule
  | absolute => .addressHigh
  | _ => .latch

def isIndexed : Mode → Bool
  | indirectIndexed | absoluteX | absoluteY => true
  | _ => false

def resolve (mode : Mode) (readsOnly : Bool) (registers : Registers) :
    Microprogram (Operand × Registers) :=
  match mode with
  | implied | accumulator => return ({}, registers)
  | immediate => return ({ address := registers.pc }, { registers with pc := registers.pc + 1 })
  | zeroPage => do
      let (location, registers) ← registers.fetchByte
      return ({ address := location.toUInt16 }, registers)
  | zeroPageX => do
      let (location, registers) ← registers.fetchByte
      wait
      return ({ address := (location + registers.x).toUInt16 }, registers)
  | zeroPageY => do
      let (location, registers) ← registers.fetchByte
      wait
      return ({ address := (location + registers.y).toUInt16 }, registers)
  | indexedIndirect => do
      let (location, registers) ← registers.fetchByte
      wait
      let address ← readPointer (location + registers.x)
      return ({ address }, registers)
  | indirectIndexed => do
      let (location, registers) ← registers.fetchByte
      let base ← readPointer location
      let operand ← (indexed base registers.y).settle readsOnly
      return (operand, registers)
  | absolute => do
      let (address, registers) ← registers.fetchWord
      return ({ address }, registers)
  | absoluteX => do
      let (base, registers) ← registers.fetchWord
      let operand ← (indexed base registers.x).settle readsOnly
      return (operand, registers)
  | absoluteY => do
      let (base, registers) ← registers.fetchWord
      let operand ← (indexed base registers.y).settle readsOnly
      return (operand, registers)
  | indirect => do
      let (pointer, registers) ← registers.fetchWord
      let low ← read pointer
      let high ← read ((pointer &&& 0xff00) ||| ((pointer + 1) &&& 0x00ff))
      return ({ address := UInt16.ofBytes low high }, registers)
  | relative => do
      let (distance, registers) ← registers.fetchByte
      let target := registers.pc + (if distance.bit 7 then 0xff00 ||| distance.toUInt16
        else distance.toUInt16)
      return ({ address := target, crossed := !registers.pc.samePage target }, registers)

end Mode

end Famicom
