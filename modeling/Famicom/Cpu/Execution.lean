import Famicom.Cpu.Instruction

namespace Famicom

structure Outcome where
  registers : Registers
  penalty : Nat := 0

namespace Instruction

open Microprogram

def readOperand (mode : Mode) (operand : Operand) (registers : Registers) : Microprogram UInt8 :=
  match mode with
  | .implied => return 0
  | .accumulator => return registers.a
  | mode => read operand.address mode.openBusRule

/-- The unmodified value is written back once before the result. -/
def modifyOperand (mode : Mode) (operand : Operand) (registers : Registers)
    (effect : Registers → UInt8 → UInt8 × Registers) : Microprogram Registers :=
  if mode = .accumulator then
    let (result, registers) := effect registers registers.a
    return { registers with a := result }
  else do
    let value ← read operand.address mode.openBusRule
    write operand.address value
    let (result, registers) := effect registers value
    write operand.address result
    return registers

def takeBranch (taken : Bool) (operand : Operand) (registers : Registers) : Outcome :=
  if taken then
    { registers := { registers with pc := operand.address }, penalty := 1 + operand.crossed.toNat }
  else { registers }

def execute (instruction : Instruction) (registers : Registers) : Microprogram Outcome := do
  let mode := instruction.mode
  let (operand, registers) ← mode.resolve instruction.operation.readsOnly registers
  match instruction.operation.action with
  | .read effect => do
      let value ← readOperand mode operand registers
      let penalty := (mode.isIndexed && operand.crossed).toNat
      return { registers := effect registers value, penalty }
  | .modify effect => do
      let registers ← modifyOperand mode operand registers effect
      return { registers }
  | .store request => do
      let (target, registers) := request registers operand
      write target.address target.data
      return { registers }
  | .branch condition => return takeBranch (condition registers.p) operand registers
  | .inherent effect => return { registers := effect registers }
  | .control program => do
      let registers ← program registers operand
      return { registers }

end Instruction

namespace Registers

open Microprogram

def nmiVector : UInt16 := 0xfffa
def resetVector : UInt16 := 0xfffc
def irqVector : UInt16 := 0xfffe

def resetSequence : Microprogram Registers := do
  let pc ← readWord resetVector
  wait; wait; wait; wait; wait
  return { pc }

def interruptSequence (registers : Registers) (vector : UInt16) : Microprogram Registers := do
  wait; wait
  registers.enterHandler false vector

end Registers

end Famicom
