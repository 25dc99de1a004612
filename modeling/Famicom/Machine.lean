import Famicom.Bus.Basic
import Famicom.Cpu.Execution

namespace Famicom

inductive CpuError
  | unknownOpcode (pc : UInt16) (opcode : UInt8)
  deriving DecidableEq

namespace CpuError

def message : CpuError → String
  | unknownOpcode pc opcode =>
      s!"unknown opcode ${Numeral.hex 2 opcode.toNat} at ${Numeral.hex 4 pc.toNat}"

def location : CpuError → UInt16
  | unknownOpcode pc _ => pc

end CpuError

structure Cpu where
  registers : Registers := {}
  nmiPending : Bool := false
  irqPending : Bool := false
  irqMask : Bool := false
  deriving DecidableEq, Inhabited

structure Machine where
  cpu : Cpu
  bus : Bus

namespace Machine

def resetCpu (bus : Bus) : Machine :=
  let (registers, bus) := Registers.resetSequence.run bus
  { cpu := { registers }, bus }

def new (cartridge : Cartridge) : Machine := resetCpu (Bus.new cartridge)

def interrupt (machine : Machine) (cpu : Cpu) (vector : UInt16) : Nat × Machine :=
  let start := machine.bus.cycles
  let (registers, bus) := (cpu.registers.interruptSequence vector).run machine.bus
  (bus.cycles - start, { cpu := { cpu with registers, irqMask := true }, bus })

/-- The mask after an instruction: a return from interrupt polls the flag it restored, every other
instruction the flag as it was at its start. -/
def pollMask (operation : Operation) (before after : Flags) : Bool :=
  if operation = .rti then after.interruptDisable else before.interruptDisable

def execute (machine : Machine) (instruction : Instruction) (start : Nat) : Nat × Machine :=
  let before := machine.cpu.registers
  let fetched := { before with pc := before.pc + 1 }
  let (outcome, bus) := (instruction.execute fetched).run machine.bus
  let bus := bus.tickMany (start + instruction.cycles + outcome.penalty - bus.cycles)
  let irqMask := pollMask instruction.operation before.p outcome.registers.p
  (bus.cycles - start, { cpu := { machine.cpu with registers := outcome.registers, irqMask }, bus })

/-- One instruction, or the entry of a pending interrupt in its place, with its cycles. A byte that
is no instruction is refused before it is fetched; where fetching it changed it, the byte fetched
decides. -/
def step (machine : Machine) : Except CpuError Nat × Machine :=
  let cpu := machine.cpu
  if cpu.nmiPending then
    let (cycles, machine) := machine.interrupt { cpu with nmiPending := false } Registers.nmiVector
    (.ok cycles, machine)
  else if cpu.irqPending then
    let (cycles, machine) := machine.interrupt { cpu with irqPending := false } Registers.irqVector
    (.ok cycles, machine)
  else
    let pc := cpu.registers.pc
    let opcode := machine.bus.peek pc
    match Instruction.decode opcode with
    | none => (.error (.unknownOpcode pc opcode), machine)
    | some _ =>
        let start := machine.bus.cycles
        let (opcode, bus) := machine.bus.read pc
        match Instruction.decode opcode with
        | none => (.error (.unknownOpcode pc opcode), { cpu, bus })
        | some instruction =>
            let (cycles, machine) := { cpu, bus : Machine }.execute instruction start
            (.ok cycles, machine)

def setNmi (machine : Machine) : Machine :=
  { machine with cpu := { machine.cpu with nmiPending := true } }

def pollIrq (machine : Machine) (line : Bool) : Machine :=
  { machine with cpu := { machine.cpu with irqPending := line && !machine.cpu.irqMask } }

def setPc (machine : Machine) (pc : UInt16) : Machine :=
  { machine with cpu := { machine.cpu with registers := { machine.cpu.registers with pc } } }

end Machine

end Famicom
