import Famicom.Proofs.Cpu.Timing

/-!
A step of the processor as the list of its bus cycles: an instruction with the cycles it idles, the
entry of an interrupt, or the fetch of a byte that is no instruction.
-/

namespace Famicom

attribute [local irreducible] Bus.tick

namespace BusCycle

theorem replay_append (bus : Bus) (first second : List BusCycle) :
    replay bus (first ++ second) = replay (replay bus first) second :=
  List.foldl_append

theorem replay_idle (bus : Bus) (count : Nat) :
    replay bus (List.replicate count .idle) = bus.tickMany count := by
  induction count generalizing bus with
  | zero => rfl
  | succ count continues => exact continues bus.tick

end BusCycle

namespace Registers

/-- The seven cycles that enter a handler: the program counter and the flags, with the break flag
clear, go to the stack, and the vector is read. -/
def entryCycles (registers : Registers) (vector : UInt16) : List BusCycle :=
  [.idle, .idle,
    .store (0x100 + registers.sp.toUInt16) registers.pc.highByte,
    .store (0x100 + (registers.sp - 1).toUInt16) registers.pc.lowByte,
    .store (0x100 + (registers.sp - 1 - 1).toUInt16) (registers.p.pushed false),
    .load vector .latch, .load (vector + 1) .latch]

theorem interruptSequence_schedule (registers : Registers) (vector : UInt16) (bus : Bus) :
    (registers.interruptSequence vector).schedule bus = registers.entryCycles vector := rfl

theorem entryCycles_vector {registers : Registers} {first second : UInt16}
    (same : registers.entryCycles first = registers.entryCycles second) : first = second := by
  simp only [entryCycles, List.cons.injEq, BusCycle.load.injEq] at same
  exact same.2.2.2.2.2.1.1

end Registers

namespace Instruction

end Instruction

namespace Machine

def instructionCycles (machine : Machine) (instruction : Instruction) : List BusCycle :=
  machine.work instruction ++
    List.replicate (instruction.cycles + machine.penalty instruction -
      (machine.work instruction).length) .idle

def busCycles (machine : Machine) : List BusCycle :=
  if machine.cpu.nmiPending then machine.cpu.registers.entryCycles Registers.nmiVector
  else if machine.cpu.irqPending then machine.cpu.registers.entryCycles Registers.irqVector
  else
    match Instruction.decode machine.peekedOpcode with
    | none => []
    | some _ =>
        match Instruction.decode machine.fetchedOpcode with
        | none => [.load machine.cpu.registers.pc .latch]
        | some instruction => machine.instructionCycles instruction

theorem step_of_nmiPending {machine : Machine} (pending : machine.cpu.nmiPending = true) :
    machine.step =
      (.ok (machine.interrupt { machine.cpu with nmiPending := false } Registers.nmiVector).1,
        (machine.interrupt { machine.cpu with nmiPending := false } Registers.nmiVector).2) := by
  simp only [step, pending, if_true]

theorem step_of_irqPending {machine : Machine} (noNmi : machine.cpu.nmiPending = false)
    (pending : machine.cpu.irqPending = true) :
    machine.step =
      (.ok (machine.interrupt { machine.cpu with irqPending := false } Registers.irqVector).1,
        (machine.interrupt { machine.cpu with irqPending := false } Registers.irqVector).2) := by
  simp only [step, noNmi, pending, if_true, Bool.false_eq_true, if_false]

theorem interrupt_bus (machine : Machine) (cpu : Cpu) (vector : UInt16) :
    (machine.interrupt cpu vector).2.bus =
      BusCycle.replay machine.bus (cpu.registers.entryCycles vector) := by
  rw [← Registers.interruptSequence_schedule cpu.registers vector machine.bus,
    Microprogram.replay_schedule]
  rfl

theorem interrupt_count (machine : Machine) (cpu : Cpu) (vector : UInt16) :
    (machine.interrupt cpu vector).1 = 7 := by
  change Bus.cycles (machine.interrupt cpu vector).2.bus - machine.bus.cycles = 7
  rw [interrupt_bus, BusCycle.replay_cycles]
  exact Nat.add_sub_cancel_left _ _

theorem replay_busCycles (machine : Machine) :
    BusCycle.replay machine.bus machine.busCycles = machine.step.2.bus := by
  unfold busCycles
  split
  · rw [step_of_nmiPending ‹_›, interrupt_bus]
  split
  · rw [step_of_irqPending (Bool.eq_false_iff.mpr ‹_›) ‹_›, interrupt_bus]
  rw [step_of_uninterrupted ⟨Bool.eq_false_iff.mpr ‹_›, Bool.eq_false_iff.mpr ‹_›⟩]
  cases peeked : Instruction.decode machine.peekedOpcode with
  | none => rfl
  | some expected =>
      cases fetched : Instruction.decode machine.fetchedOpcode with
      | none => rfl
      | some instruction =>
          have regular := Instruction.regular_of_decode fetched
          dsimp only
          rw [execute_bus regular, instructionCycles, BusCycle.replay_append, BusCycle.replay_idle]

theorem busCycles_head_of_uninterrupted {machine : Machine} (free : machine.Uninterrupted) :
    machine.busCycles.head? ≠ some .idle := by
  unfold busCycles
  simp only [free.1, free.2, Bool.false_eq_true, if_false]
  cases Instruction.decode machine.peekedOpcode with
  | none => nofun
  | some expected =>
      cases Instruction.decode machine.fetchedOpcode with
      | none => nofun
      | some instruction => nofun

/-- Only an interrupt entry looks like one on the bus, and it shows which interrupt it serves. -/
theorem busCycles_eq_entryCycles_iff (machine : Machine) (vector : UInt16) :
    machine.busCycles = machine.cpu.registers.entryCycles vector ↔
      (machine.cpu.nmiPending = true ∧ vector = Registers.nmiVector) ∨
        (machine.cpu.nmiPending = false ∧ machine.cpu.irqPending = true ∧
          vector = Registers.irqVector) := by
  cases nmi : machine.cpu.nmiPending with
  | true =>
      simp only [busCycles, nmi, if_true, true_and, Bool.true_eq_false, false_and, or_false]
      exact ⟨fun same => (Registers.entryCycles_vector same).symm, fun same => same ▸ rfl⟩
  | false =>
      cases irq : machine.cpu.irqPending with
      | true =>
          simp only [busCycles, nmi, irq, if_true, true_and, Bool.false_eq_true, if_false,
            false_and, false_or]
          exact ⟨fun same => (Registers.entryCycles_vector same).symm, fun same => same ▸ rfl⟩
      | false =>
          simp only [Bool.false_eq_true, false_and, and_false, or_false, iff_false]
          intro same
          exact busCycles_head_of_uninterrupted ⟨nmi, irq⟩ (by rw [same]; rfl)

/-! ## The interrupt latches -/

theorem step_nmiPending (machine : Machine) : machine.step.2.cpu.nmiPending = false := by
  cases nmi : machine.cpu.nmiPending with
  | true =>
      rw [step_of_nmiPending nmi]
      rfl
  | false =>
      cases irq : machine.cpu.irqPending with
      | true =>
          rw [step_of_irqPending nmi irq]
          exact nmi
      | false =>
          rw [step_of_uninterrupted ⟨nmi, irq⟩]
          cases Instruction.decode machine.peekedOpcode with
          | none => exact nmi
          | some expected =>
              cases Instruction.decode machine.fetchedOpcode with
              | none => exact nmi
              | some instruction => exact nmi

end Machine

end Famicom
