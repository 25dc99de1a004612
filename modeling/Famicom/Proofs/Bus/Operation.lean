import Famicom.Proofs.Cpu.Step
import Famicom.Proofs.Ppu.Operation

namespace Famicom

attribute [local irreducible] Bus.tick

namespace Bus

def copyProgram (page : UInt8) : Nat → Microprogram Unit
  | 0 => .done ()
  | count + 1 =>
      .load (UInt16.ofBytes (UInt8.ofNat (0x100 - (count + 1))) page) .latch fun data =>
        .store 0x2004 data (copyProgram page count)

def transferCycles (bus : Bus) : List BusCycle :=
  match bus.transfer with
  | none => []
  | some transfer =>
      List.replicate transfer.delay .idle ++
        (copyProgram transfer.page 0x100).schedule (bus.tickMany transfer.delay)

theorem run_copyProgram (page : UInt8) (count : Nat) (bus : Bus) :
    ((copyProgram page count).run bus).2 = bus.copyPage page count := by
  induction count generalizing bus with
  | zero => rfl
  | succ count continues => exact continues _

theorem copyProgram_schedule_length (page : UInt8) (count : Nat) (bus : Bus) :
    ((copyProgram page count).schedule bus).length = 2 * count := by
  induction count generalizing bus with
  | zero => rfl
  | succ count continues =>
      simp only [copyProgram, Microprogram.schedule, List.length_cons, continues]
      omega

theorem transferCycles_length {bus : Bus} {transfer : ObjectTransfer}
    (waiting : bus.transfer = some transfer) :
    bus.transferCycles.length = 512 + transfer.delay := by
  simp only [transferCycles, waiting, List.length_append, List.length_replicate,
    copyProgram_schedule_length]
  omega

theorem runTransfer_bus (bus : Bus) :
    bus.runTransfer.2 = { BusCycle.replay bus bus.transferCycles with transfer := none } := by
  unfold runTransfer transferCycles
  cases waiting : bus.transfer with
  | none =>
      have same : { bus with transfer := none } = bus := by rw [← waiting]
      exact same.symm
  | some transfer =>
      dsimp only
      rw [BusCycle.replay_append, BusCycle.replay_idle, Microprogram.replay_schedule,
        run_copyProgram]

theorem runTransfer_cycles (bus : Bus) :
    bus.runTransfer.2.cycles = bus.cycles + bus.transferCycles.length := by
  rw [runTransfer_bus]
  exact BusCycle.replay_cycles _ _

def picture (bus : Bus) : Ppu × Cartridge := (bus.ppu, bus.cartridge)

end Bus

namespace BusCycle

def accesses : BusCycle → List PpuOperation
  | idle => []
  | load address _ =>
      if address < 0x2000 then [] else if address < 0x4000 then [.read address] else []
  | store address data =>
      if address < 0x2000 then []
      else if address < 0x4000 then [.write address data]
      else if address < 0x4020 then []
      else [.board address data]

def pictureOperations (cycle : BusCycle) : List PpuOperation :=
  [.tick, .tick, .tick] ++ cycle.accesses

end BusCycle

namespace Bus

theorem tick_picture (bus : Bus) :
    bus.tick.picture = PpuOperation.run bus.picture [.tick, .tick, .tick] := by
  unfold tick
  rfl

theorem access_picture (bus : Bus) (address : UInt16) (rule : OpenBusRule) :
    (bus.access address rule).2.picture =
      PpuOperation.run bus.picture (BusCycle.load address rule).accesses := by
  simp only [access, BusCycle.accesses]
  split_ifs <;> rfl

theorem deliver_picture (bus : Bus) (address : UInt16) (data : UInt8) :
    (bus.deliver address data).picture =
      PpuOperation.run bus.picture (BusCycle.store address data).accesses := by
  by_cases board : address < 0x4020
  · simp only [deliver, BusCycle.accesses, board, if_true]
    split_ifs <;> rfl
  · have past := UInt16.past (UInt16.not_lt.mp board)
    rw [deliver_of_board bus (UInt16.not_lt.mp board)]
    simp only [BusCycle.accesses, past 0x2000 (by decide), past 0x4000 (by decide), board, if_false]
    rfl

end Bus

namespace BusCycle

theorem perform_picture (bus : Bus) (cycle : BusCycle) :
    (perform bus cycle).picture = PpuOperation.run bus.picture cycle.pictureOperations := by
  rw [pictureOperations, PpuOperation.run_append, ← Bus.tick_picture]
  cases cycle with
  | idle => rfl
  | load address rule => exact Bus.access_picture bus.tick address rule
  | store address data => exact Bus.deliver_picture bus.tick address data

theorem replay_picture (bus : Bus) (schedule : List BusCycle) :
    (replay bus schedule).picture =
      PpuOperation.run bus.picture (schedule.flatMap pictureOperations) := by
  induction schedule generalizing bus with
  | nil => rfl
  | cons cycle rest continues =>
      rw [List.flatMap_cons, PpuOperation.run_append, ← perform_picture]
      exact continues (perform bus cycle)

theorem count_tick_pictureOperations (cycle : BusCycle) :
    cycle.pictureOperations.count .tick = 3 := by
  cases cycle with
  | idle => rfl
  | load address rule =>
      simp only [pictureOperations, accesses]
      split_ifs <;> rfl
  | store address data =>
      simp only [pictureOperations, accesses]
      split_ifs <;> rfl

theorem count_tick_flatMap (schedule : List BusCycle) :
    (schedule.flatMap pictureOperations).count .tick = 3 * schedule.length := by
  induction schedule with
  | nil => rfl
  | cons cycle rest continues =>
      rw [List.flatMap_cons, List.count_append, count_tick_pictureOperations, continues,
        List.length_cons]
      omega

end BusCycle

inductive BusOperation
  | tick
  | read (address : UInt16)
  | readOperand (address : UInt16) (rule : OpenBusRule)
  | write (address : UInt16) (data : UInt8)
  | runTransfer
  | reset
  | takeNmi
  | setButtons (first second : Buttons)
  | setStopRequested (stopRequested : Bool)
  | step (cpu : Cpu)
  | resetCpu

namespace BusOperation

def apply (bus : Bus) : BusOperation → Bus
  | tick => bus.tick
  | read address => (bus.read address).2
  | readOperand address rule => (bus.readOperand address rule).2
  | write address data => bus.write address data
  | runTransfer => bus.runTransfer.2
  | reset => bus.reset
  | takeNmi => bus.takeNmi.2
  | setButtons first second => bus.setButtons first second
  | setStopRequested stopRequested => bus.setStopRequested stopRequested
  | step cpu => ({ cpu, bus } : Machine).step.2.bus
  | resetCpu => (Machine.resetCpu bus).bus

def run (bus : Bus) (operations : List BusOperation) : Bus := operations.foldl apply bus

def busCycles (bus : Bus) : BusOperation → List BusCycle
  | tick => [.idle]
  | read address => [.load address .latch]
  | readOperand address rule => [.load address rule]
  | write address data => [.store address data]
  | runTransfer => bus.transferCycles
  | step cpu => ({ cpu, bus } : Machine).busCycles
  | resetCpu => Registers.resetSequence.schedule bus
  | reset | takeNmi | setButtons _ _ | setStopRequested _ => []

def signals : BusOperation → List PpuOperation
  | reset => [.reset]
  | takeNmi => [.takeNmi]
  | _ => []

def pictureOperations (bus : Bus) (operation : BusOperation) : List PpuOperation :=
  (operation.busCycles bus).flatMap BusCycle.pictureOperations ++ operation.signals

def pictureHistory (bus : Bus) : List BusOperation → List PpuOperation
  | [] => []
  | operation :: rest =>
      operation.pictureOperations bus ++ pictureHistory (operation.apply bus) rest

theorem resetCpu_bus (bus : Bus) :
    (Machine.resetCpu bus).bus =
      BusCycle.replay bus (Registers.resetSequence.schedule bus) := by
  rw [Microprogram.replay_schedule]
  rfl

def finish (bus : Bus) : BusOperation → Bus
  | runTransfer => { bus with transfer := none }
  | reset => bus.reset
  | takeNmi => bus.takeNmi.2
  | setButtons first second => bus.setButtons first second
  | setStopRequested stopRequested => bus.setStopRequested stopRequested
  | tick | read _ | readOperand _ _ | write _ _ | step _ | resetCpu => bus

theorem apply_eq_finish (bus : Bus) (operation : BusOperation) :
    apply bus operation = operation.finish (BusCycle.replay bus (operation.busCycles bus)) := by
  cases operation with
  | runTransfer => exact bus.runTransfer_bus
  | step cpu => exact (Machine.replay_busCycles { cpu, bus }).symm
  | resetCpu => exact resetCpu_bus bus
  | tick | read address | readOperand address rule | write address data => rfl
  | reset | takeNmi | setButtons first second | setStopRequested stopRequested => rfl

theorem finish_picture (bus : Bus) (operation : BusOperation) :
    (operation.finish bus).picture = PpuOperation.run bus.picture operation.signals := by
  cases operation <;> rfl

theorem finish_cycles (bus : Bus) (operation : BusOperation) :
    (operation.finish bus).cycles = bus.cycles := by
  cases operation <;> rfl

theorem apply_picture (bus : Bus) (operation : BusOperation) :
    (apply bus operation).picture =
      PpuOperation.run bus.picture (operation.pictureOperations bus) := by
  rw [pictureOperations, PpuOperation.run_append, ← BusCycle.replay_picture, apply_eq_finish,
    finish_picture]

theorem apply_cycles (bus : Bus) (operation : BusOperation) :
    (apply bus operation).cycles = bus.cycles + (operation.busCycles bus).length := by
  rw [apply_eq_finish, finish_cycles, BusCycle.replay_cycles]

theorem run_picture (bus : Bus) (operations : List BusOperation) :
    (run bus operations).picture =
      PpuOperation.run bus.picture (pictureHistory bus operations) := by
  induction operations generalizing bus with
  | nil => rfl
  | cons operation rest continues =>
      rw [pictureHistory, PpuOperation.run_append, ← apply_picture]
      exact continues (apply bus operation)

theorem count_tick_pictureOperations (bus : Bus) (operation : BusOperation) :
    (operation.pictureOperations bus).count .tick = 3 * (operation.busCycles bus).length := by
  have silent : operation.signals.count .tick = 0 := by cases operation <;> rfl
  rw [pictureOperations, List.count_append, BusCycle.count_tick_flatMap, silent, Nat.add_zero]

theorem run_cycles (bus : Bus) (operations : List BusOperation) :
    3 * (run bus operations).cycles =
      3 * bus.cycles + (pictureHistory bus operations).count .tick := by
  induction operations generalizing bus with
  | nil => rfl
  | cons operation rest continues =>
      have later := continues (apply bus operation)
      rw [apply_cycles] at later
      rw [pictureHistory, List.count_append, count_tick_pictureOperations]
      change 3 * (run (apply bus operation) rest).cycles = _
      omega

end BusOperation

end Famicom
