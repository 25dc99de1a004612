import Famicom.Console
import Famicom.Proofs.Bus.Operation
import Famicom.Proofs.Cpu.InterruptEntry
import Famicom.Proofs.Ppu.Request

/-!
Runs of a console that is only ever stepped. Each step is a transfer, the entry of an interrupt or an
instruction, which its bus cycles tell apart.
-/

namespace Famicom

attribute [local irreducible] Bus.tick

namespace Console

def after (cartridge : Cartridge) : Nat → Console
  | 0 => new cartridge
  | count + 1 => (after cartridge count).step.2

def Succeeds (console : Console) : Prop := ∃ cycles, console.step.1 = .ok cycles

def Running (cartridge : Cartridge) (count : Nat) : Prop :=
  ∀ i < count, (after cartridge i).Succeeds

def Transfers (console : Console) : Prop := console.bus.transfer.isSome = true

instance (console : Console) : Decidable console.Transfers := instDecidableEqBool _ _

def busCycles (console : Console) : List BusCycle :=
  match console.halted with
  | some _ => []
  | none =>
      if console.Transfers then console.bus.transferCycles else console.machine.busCycles

def EntersHandler (console : Console) (vector : UInt16) : Prop :=
  console.busCycles = console.registers.entryCycles vector

instance (console : Console) (vector : UInt16) : Decidable (console.EntersHandler vector) :=
  instDecidableEqList _ _

def pictureOperations (console : Console) : List PpuOperation :=
  console.busCycles.flatMap BusCycle.pictureOperations

def NmiRises (console : Console) : Prop :=
  PpuOperation.Rises console.bus.picture console.pictureOperations

/-! ## Power-up -/

theorem bus_new (cartridge : Cartridge) : (new cartridge).bus =
    BusCycle.replay (Bus.new cartridge)
      (Registers.resetSequence.schedule (Bus.new cartridge)) :=
  BusOperation.resetCpu_bus (Bus.new cartridge)

theorem picture_new (cartridge : Cartridge) : (new cartridge).bus.picture =
    PpuOperation.run (Bus.new cartridge).picture (List.replicate 21 .tick) := by
  have dots : (Registers.resetSequence.schedule (Bus.new cartridge)).flatMap
      BusCycle.pictureOperations = List.replicate 21 .tick := rfl
  rw [bus_new, BusCycle.replay_picture, dots]

/-! ## One step -/

theorem advance_of_transfers {console : Console} (transfers : console.Transfers) :
    advance console.machine =
      (.ok console.bus.runTransfer.1, { console.machine with bus := console.bus.runTransfer.2 }) := by
  unfold advance
  exact (if_pos transfers).trans rfl

theorem advance_of_not_transfers {console : Console} (runs : ¬ console.Transfers) :
    advance console.machine = console.machine.step := by
  unfold advance
  exact if_neg runs

theorem step_of_succeeds {console : Console} (succeeds : console.Succeeds) :
    console.halted = none ∧ ∃ cycles, (advance console.machine).1 = .ok cycles ∧
      console.step =
        (.ok cycles, { console with machine := carryRequests (advance console.machine).2 }) := by
  obtain ⟨cycles, ran⟩ := succeeds
  unfold step at ran ⊢
  cases halted : console.halted with
  | some error => simp [halted] at ran
  | none =>
      rcases advanced : advance console.machine with ⟨result, machine⟩
      cases result with
      | error error => simp [halted, advanced] at ran
      | ok count =>
          exact ⟨rfl, count, rfl, rfl⟩

theorem succeeds_of_live {console : Console} (live : console.step.2.halted = none) :
    console.halted = none ∧ console.Succeeds := by
  unfold Succeeds
  unfold step at live ⊢
  cases halted : console.halted with
  | some error => simp [halted] at live
  | none =>
      rcases advanced : advance console.machine with ⟨result, machine⟩
      cases result with
      | error error => simp [halted, advanced] at live
      | ok count => exact ⟨rfl, count, rfl⟩

theorem halted_after_iff (cartridge : Cartridge) (count : Nat) :
    (after cartridge count).halted = none ↔ Running cartridge count := by
  induction count with
  | zero => exact ⟨fun _ i early => absurd early (Nat.not_lt_zero i), fun _ => rfl⟩
  | succ count continues =>
      constructor
      · intro live i early
        obtain ⟨before, succeeds⟩ := succeeds_of_live live
        cases Nat.lt_succ_iff_lt_or_eq.mp early with
        | inl earlier => exact continues.mp before i earlier
        | inr last => exact last ▸ succeeds
      · intro running
        obtain ⟨before, _, _, stepped⟩ := step_of_succeeds (running count (Nat.lt_succ_self count))
        rw [after, stepped]
        exact before

theorem Running.shorten {cartridge : Cartridge} {first second : Nat}
    (running : Running cartridge second) (shorter : first ≤ second) : Running cartridge first :=
  fun i early => running i (Nat.lt_of_lt_of_le early shorter)

/-! ## What a step carries to the processor -/

theorem carryRequests_eq (machine : Machine) : carryRequests machine =
    { cpu := { machine.cpu with
        nmiPending := machine.bus.ppu.nmiEdge || machine.cpu.nmiPending
        irqPending := machine.bus.irqLine && !machine.cpu.irqMask }
      bus := { machine.bus with ppu := { machine.bus.ppu with nmiEdge := false } } } := by
  unfold carryRequests Bus.takeNmi Ppu.takeNmi
  dsimp only
  cases machine.bus.ppu.nmiEdge <;> rfl

/-- A step enters a handler exactly if its request is pending and neither a halt nor a transfer, nor
for the maskable interrupt the other one, takes its place. -/
theorem entersHandler_iff (console : Console) (vector : UInt16) :
    console.EntersHandler vector ↔ console.halted = none ∧ ¬ console.Transfers ∧
      ((console.machine.cpu.nmiPending = true ∧ vector = Registers.nmiVector) ∨
        (console.machine.cpu.nmiPending = false ∧ console.machine.cpu.irqPending = true ∧
          vector = Registers.irqVector)) := by
  unfold EntersHandler busCycles
  cases halted : console.halted with
  | some error =>
      simp only [reduceCtorEq, false_and, iff_false]
      exact nofun
  | none =>
      by_cases transfers : console.Transfers
      · simp only [transfers, if_true, not_true_eq_false, false_and, and_false, iff_false]
        intro same
        obtain ⟨transfer, waits⟩ := Option.isSome_iff_exists.mp transfers
        have long := Bus.transferCycles_length waits
        have short : (console.registers.entryCycles vector).length = 7 := rfl
        rw [same] at long
        omega
      · simp only [transfers, if_false, not_false_eq_true, true_and]
        exact Machine.busCycles_eq_entryCycles_iff console.machine vector

theorem advance_bus {console : Console} (live : console.halted = none) :
    (advance console.machine).2.bus =
      { BusCycle.replay console.bus console.busCycles with
        transfer := if console.Transfers then none
          else (BusCycle.replay console.bus console.busCycles).transfer } := by
  unfold busCycles
  rw [live]
  by_cases transfers : console.Transfers
  · simp only [advance_of_transfers transfers, transfers, if_true, Bus.runTransfer_bus]
  · simp only [advance_of_not_transfers transfers, transfers, if_false]
    exact (Machine.replay_busCycles console.machine).symm

theorem transfer_succeeds {console : Console} (live : console.halted = none)
    (transfers : console.Transfers) : console.Succeeds ∧ ¬ console.step.2.Transfers := by
  have advanced := advance_of_transfers transfers
  have stepped : console.step = (.ok console.bus.runTransfer.1, { console with
      machine := carryRequests { console.machine with bus := console.bus.runTransfer.2 } }) := by
    unfold step
    rw [live]
    simp only [advanced]
  rw [Succeeds, stepped]
  refine ⟨⟨_, rfl⟩, ?_⟩
  simp [Transfers, bus, carryRequests_eq, Bus.runTransfer_bus]

namespace EntersHandler

variable {console : Console} {vector : UInt16}

theorem step_eq (enters : console.EntersHandler vector) :
    (0x8000 ≤ vector ∧ 0x8000 ≤ vector + 1) ∧ ∃ cpu, cpu.registers = console.registers ∧
      console.step = (.ok 7,
        { console with machine := carryRequests (console.machine.interrupt cpu vector).2 }) := by
  obtain ⟨live, stays, pending⟩ := (entersHandler_iff console vector).mp enters
  have advanced := advance_of_not_transfers stays
  unfold step
  rcases pending with ⟨nmi, rfl⟩ | ⟨noNmi, irq, rfl⟩
  · refine ⟨by decide, { console.machine.cpu with nmiPending := false }, rfl, ?_⟩
    rw [live]
    simp only [advanced, Machine.step_of_nmiPending nmi, Machine.interrupt_count]
  · refine ⟨by decide, { console.machine.cpu with irqPending := false }, rfl, ?_⟩
    rw [live]
    simp only [advanced, Machine.step_of_irqPending noNmi irq, Machine.interrupt_count]

theorem effect (enters : console.EntersHandler vector) :
    console.step.1 = .ok 7 ∧
      console.step.2.registers = console.registers.entered console.bus vector ∧
      console.step.2.bus.ram = console.registers.pushedRam console.bus.ram := by
  obtain ⟨⟨rom, romNext⟩, cpu, same, stepped⟩ := enters.step_eq
  have entered := console.registers.run_interruptSequence rom romNext console.bus
  rw [← same] at entered ⊢
  rw [stepped]
  simp only [registers, bus, carryRequests_eq]
  exact ⟨trivial, entered⟩

end EntersHandler

end Console

end Famicom
