import Famicom.Proofs.Bus.Operation

/-!
An observer's request to stop travels with the bus and has no influence on it: whatever a bus or a
machine does, it does the same with the request and without it.
-/

namespace Famicom

attribute [local irreducible] Bus.tick

namespace Bus

variable (bus : Bus) (stop : Bool)

@[simp] theorem tick_setStopRequested :
    (bus.setStopRequested stop).tick = bus.tick.setStopRequested stop := by
  simp only [tick, setStopRequested]

@[simp] theorem cycles_setStopRequested : (bus.setStopRequested stop).cycles = bus.cycles := rfl

theorem access_setStopRequested (address : UInt16) (rule : OpenBusRule) :
    (bus.setStopRequested stop).access address rule =
      ((bus.access address rule).1, (bus.access address rule).2.setStopRequested stop) := by
  unfold access
  dsimp only
  split_ifs <;> rfl

theorem deliver_setStopRequested (address : UInt16) (data : UInt8) :
    (bus.setStopRequested stop).deliver address data =
      (bus.deliver address data).setStopRequested stop := by
  unfold deliver
  dsimp only
  split_ifs <;> rfl

@[simp] theorem readOperand_setStopRequested (address : UInt16) (rule : OpenBusRule) :
    (bus.setStopRequested stop).readOperand address rule =
      ((bus.readOperand address rule).1, (bus.readOperand address rule).2.setStopRequested stop) := by
  rw [readOperand, tick_setStopRequested, access_setStopRequested]
  rfl

@[simp] theorem read_setStopRequested (address : UInt16) :
    (bus.setStopRequested stop).read address =
      ((bus.read address).1, (bus.read address).2.setStopRequested stop) :=
  bus.readOperand_setStopRequested stop address .latch

@[simp] theorem write_setStopRequested (address : UInt16) (data : UInt8) :
    (bus.setStopRequested stop).write address data =
      (bus.write address data).setStopRequested stop := by
  rw [write, tick_setStopRequested, deliver_setStopRequested]
  rfl

@[simp] theorem tickMany_setStopRequested (count : Nat) :
    (bus.setStopRequested stop).tickMany count = (bus.tickMany count).setStopRequested stop := by
  induction count generalizing bus with
  | zero => rfl
  | succ count continues => rw [tickMany_succ, tick_setStopRequested, continues, tickMany_succ]

end Bus

namespace Microprogram

variable {Result : Type}

@[simp] theorem run_setStopRequested (program : Microprogram Result) (bus : Bus) (stop : Bool) :
    program.run (bus.setStopRequested stop) =
      ((program.run bus).1, (program.run bus).2.setStopRequested stop) := by
  induction program generalizing bus with
  | done result => rfl
  | idle next continues => simp only [run, Bus.tick_setStopRequested, continues]
  | load address rule next continues =>
      simp only [run, Bus.readOperand_setStopRequested, continues]
  | store address data next continues => simp only [run, Bus.write_setStopRequested, continues]

@[simp] theorem schedule_setStopRequested (program : Microprogram Result) (bus : Bus)
    (stop : Bool) : program.schedule (bus.setStopRequested stop) = program.schedule bus := by
  induction program generalizing bus with
  | done result => rfl
  | idle next continues => simp only [schedule, Bus.tick_setStopRequested, continues]
  | load address rule next continues =>
      simp only [schedule, Bus.readOperand_setStopRequested, continues]
  | store address data next continues =>
      simp only [schedule, Bus.write_setStopRequested, continues]

end Microprogram

namespace BusCycle

@[simp] theorem perform_setStopRequested (bus : Bus) (stop : Bool) (cycle : BusCycle) :
    perform (bus.setStopRequested stop) cycle = (perform bus cycle).setStopRequested stop := by
  cases cycle with
  | idle => exact bus.tick_setStopRequested stop
  | load address rule => exact congrArg Prod.snd (bus.readOperand_setStopRequested stop address rule)
  | store address data => exact bus.write_setStopRequested stop address data

end BusCycle

namespace Bus

variable (bus : Bus) (stop : Bool)

@[simp] theorem transferCycles_setStopRequested :
    (bus.setStopRequested stop).transferCycles = bus.transferCycles := by
  have waiting : (bus.setStopRequested stop).transfer = bus.transfer := rfl
  unfold transferCycles
  rw [waiting]
  cases bus.transfer with
  | none => rfl
  | some transfer =>
      simp only [tickMany_setStopRequested, Microprogram.schedule_setStopRequested]

@[simp] theorem runTransfer_setStopRequested :
    (bus.setStopRequested stop).runTransfer =
      (bus.runTransfer.1, bus.runTransfer.2.setStopRequested stop) := by
  have waiting : (bus.setStopRequested stop).transfer = bus.transfer := rfl
  unfold runTransfer
  rw [waiting]
  cases bus.transfer with
  | none => rfl
  | some transfer =>
      simp only [tickMany_setStopRequested, ← run_copyProgram,
        Microprogram.run_setStopRequested]
      generalize ((copyProgram _ _).run _).2 = copied
      rfl

end Bus

theorem Mode.indexBase_setStopRequested (mode : Mode) (registers : Registers) (bus : Bus)
    (stop : Bool) :
    mode.indexBase registers (bus.setStopRequested stop) = mode.indexBase registers bus := by
  cases mode <;> simp only [indexBase, Bus.wordAt, Bus.read_setStopRequested]

theorem Instruction.penalty_setStopRequested (instruction : Instruction) (opcode : UInt8)
    (registers : Registers) (bus : Bus) (stop : Bool) :
    instruction.penalty opcode registers (bus.setStopRequested stop) =
      instruction.penalty opcode registers bus := by
  simp only [penalty, Mode.indexBase_setStopRequested]
  cases instruction.operation.action <;> simp only [Bus.read_setStopRequested]

namespace Machine

def setStopRequested (machine : Machine) (stop : Bool) : Machine :=
  { machine with bus := machine.bus.setStopRequested stop }

variable (machine : Machine) (stop : Bool)

theorem interrupt_setStopRequested (cpu : Cpu) (vector : UInt16) :
    (machine.setStopRequested stop).interrupt cpu vector =
      ((machine.interrupt cpu vector).1, (machine.interrupt cpu vector).2.setStopRequested stop) := by
  simp only [interrupt, setStopRequested, Microprogram.run_setStopRequested,
    Bus.cycles_setStopRequested]

theorem execute_setStopRequested (instruction : Instruction) (start : Nat) :
    (machine.setStopRequested stop).execute instruction start =
      ((machine.execute instruction start).1,
        (machine.execute instruction start).2.setStopRequested stop) := by
  simp only [execute, setStopRequested, Microprogram.run_setStopRequested,
    Bus.tickMany_setStopRequested, Bus.cycles_setStopRequested]

@[simp] theorem peekedOpcode_setStopRequested :
    (machine.setStopRequested stop).peekedOpcode = machine.peekedOpcode := rfl

@[simp] theorem fetchedOpcode_setStopRequested :
    (machine.setStopRequested stop).fetchedOpcode = machine.fetchedOpcode := by
  simp only [fetchedOpcode, setStopRequested, Bus.read_setStopRequested]

@[simp] theorem afterFetch_setStopRequested :
    (machine.setStopRequested stop).afterFetch = machine.afterFetch.setStopRequested stop := by
  simp only [afterFetch, setStopRequested, Bus.read_setStopRequested]

theorem step_setStopRequested :
    (machine.setStopRequested stop).step =
      (machine.step.1, machine.step.2.setStopRequested stop) := by
  have cpu : (machine.setStopRequested stop).cpu = machine.cpu := rfl
  cases nmi : machine.cpu.nmiPending with
  | true =>
      rw [step_of_nmiPending (cpu ▸ nmi), step_of_nmiPending nmi, interrupt_setStopRequested]
      rfl
  | false =>
      cases irq : machine.cpu.irqPending with
      | true =>
          rw [step_of_irqPending (cpu ▸ nmi) (cpu ▸ irq), step_of_irqPending nmi irq,
            interrupt_setStopRequested]
          rfl
      | false =>
          have free : (machine.setStopRequested stop).Uninterrupted := ⟨nmi, irq⟩
          rw [step_of_uninterrupted free, step_of_uninterrupted ⟨nmi, irq⟩]
          simp only [peekedOpcode_setStopRequested, fetchedOpcode_setStopRequested,
            afterFetch_setStopRequested, execute_setStopRequested]
          cases Instruction.decode machine.peekedOpcode with
          | none => rfl
          | some expected =>
              cases Instruction.decode machine.fetchedOpcode with
              | none => rfl
              | some instruction => rfl

theorem resetCpu_setStopRequested (bus : Bus) :
    resetCpu (bus.setStopRequested stop) = (resetCpu bus).setStopRequested stop := by
  simp only [resetCpu, setStopRequested, Microprogram.run_setStopRequested]

theorem penalty_setStopRequested (instruction : Instruction) :
    (machine.setStopRequested stop).penalty instruction = machine.penalty instruction := by
  rw [penalty, fetchedOpcode_setStopRequested, afterFetch_setStopRequested]
  exact instruction.penalty_setStopRequested _ _ _ stop

theorem busCycles_setStopRequested :
    (machine.setStopRequested stop).busCycles = machine.busCycles := by
  have cpu : (machine.setStopRequested stop).cpu = machine.cpu := rfl
  have past : (machine.setStopRequested stop).pastOpcode = machine.pastOpcode := rfl
  have bus : (machine.afterFetch.setStopRequested stop).bus =
      machine.afterFetch.bus.setStopRequested stop := rfl
  simp only [busCycles, instructionCycles, work, cpu, past, bus, penalty_setStopRequested,
    peekedOpcode_setStopRequested, fetchedOpcode_setStopRequested, afterFetch_setStopRequested,
    Microprogram.schedule_setStopRequested]

end Machine

end Famicom
