import Famicom.Proofs.Bus.Peek

/-!
The bus cycles that a microprogram takes, one after the other. Replaying them moves the bus exactly
as running the microprogram does, so their number is the number of cycles that pass.
-/

namespace Famicom

attribute [local irreducible] Bus.tick

inductive BusCycle
  | idle
  | load (address : UInt16) (rule : OpenBusRule)
  | store (address : UInt16) (data : UInt8)
  deriving DecidableEq

namespace BusCycle

def isAccess : BusCycle → Bool
  | idle => false
  | load _ _ | store _ _ => true

def perform (bus : Bus) : BusCycle → Bus
  | idle => bus.tick
  | load address rule => (bus.readOperand address rule).2
  | store address data => bus.write address data

def replay (bus : Bus) (schedule : List BusCycle) : Bus := schedule.foldl perform bus

@[simp] theorem perform_cycles (bus : Bus) (cycle : BusCycle) :
    (perform bus cycle).cycles = bus.cycles + 1 := by
  cases cycle <;> simp only [perform, Bus.tick_cycles, Bus.readOperand_cycles, Bus.write_cycles]

theorem replay_cycles (bus : Bus) (schedule : List BusCycle) :
    (replay bus schedule).cycles = bus.cycles + schedule.length := by
  induction schedule generalizing bus with
  | nil => rfl
  | cons cycle rest continues =>
      have counted := continues (perform bus cycle)
      rw [perform_cycles, Nat.add_assoc, Nat.add_comm 1] at counted
      exact counted

end BusCycle

namespace Microprogram

variable {First Second Result : Type}

def schedule : Microprogram Result → Bus → List BusCycle
  | done _, _ => []
  | idle next, bus => .idle :: next.schedule bus.tick
  | load address rule next, bus =>
      let (data, after) := bus.readOperand address rule
      .load address rule :: (next data).schedule after
  | store address data next, bus => .store address data :: next.schedule (bus.write address data)

theorem replay_schedule (program : Microprogram Result) (bus : Bus) :
    BusCycle.replay bus (program.schedule bus) = (program.run bus).2 := by
  induction program generalizing bus with
  | done result => rfl
  | idle next continues => exact continues bus.tick
  | load address rule next continues => exact continues _ _
  | store address data next continues => exact continues _

@[simp] theorem schedule_pure (result : Result) (bus : Bus) :
    (pure result : Microprogram Result).schedule bus = [] := rfl

@[simp] theorem schedule_bind (program : Microprogram First)
    (continuation : First → Microprogram Second) (bus : Bus) :
    (program >>= continuation).schedule bus =
      program.schedule bus ++ (continuation (program.run bus).1).schedule (program.run bus).2 := by
  change (program.bind continuation).schedule bus = _
  induction program generalizing bus with
  | done result => rfl
  | idle next continues => exact congrArg (BusCycle.idle :: ·) (continues bus.tick)
  | load address rule next continues =>
      exact congrArg (BusCycle.load address rule :: ·) (continues _ _)
  | store address data next continues =>
      exact congrArg (BusCycle.store address data :: ·) (continues _)

@[simp] theorem schedule_wait (bus : Bus) : wait.schedule bus = [.idle] := rfl

@[simp] theorem run_wait (bus : Bus) : wait.run bus = ((), bus.tick) := rfl

@[simp] theorem schedule_read (address : UInt16) (rule : OpenBusRule) (bus : Bus) :
    (read address rule).schedule bus = [.load address rule] := rfl

@[simp] theorem run_read (address : UInt16) (rule : OpenBusRule) (bus : Bus) :
    (read address rule).run bus = bus.readOperand address rule := rfl

@[simp] theorem schedule_write (address : UInt16) (data : UInt8) (bus : Bus) :
    (write address data).schedule bus = [.store address data] := rfl

@[simp] theorem run_write (address : UInt16) (data : UInt8) (bus : Bus) :
    (write address data).run bus = ((), bus.write address data) := rfl

end Microprogram

end Famicom
