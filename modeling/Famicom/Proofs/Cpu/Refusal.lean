import Famicom.Proofs.Bus.Peek
import Famicom.Cartridge.Image
import Famicom.Machine

namespace Famicom.Machine

attribute [local irreducible] Bus.tick

def peekedOpcode (machine : Machine) : UInt8 := machine.bus.peek machine.cpu.registers.pc

def fetchedOpcode (machine : Machine) : UInt8 :=
  (machine.bus.read machine.cpu.registers.pc).1

def afterFetch (machine : Machine) : Machine :=
  { machine with bus := (machine.bus.read machine.cpu.registers.pc).2 }

def Uninterrupted (machine : Machine) : Prop :=
  machine.cpu.nmiPending = false ∧ machine.cpu.irqPending = false

theorem step_of_uninterrupted {machine : Machine} (free : machine.Uninterrupted) :
    machine.step =
      match Instruction.decode machine.peekedOpcode with
      | none => (.error (.unknownOpcode machine.cpu.registers.pc machine.peekedOpcode), machine)
      | some _ =>
          match Instruction.decode machine.fetchedOpcode with
          | none =>
              (.error (.unknownOpcode machine.cpu.registers.pc machine.fetchedOpcode),
                machine.afterFetch)
          | some instruction =>
              (.ok (machine.afterFetch.execute instruction machine.bus.cycles).1,
                (machine.afterFetch.execute instruction machine.bus.cycles).2) := by
  simp only [step, free.1, free.2]
  rfl

/-- A read returns what a peek shows once a cycle has passed, whatever answers it. Outside the
registers that change with time a step therefore fetches the byte that it has checked, and that byte
alone decides whether the step is refused and what it runs. -/
theorem fetch_agrees_with_peek (machine : Machine) :
    (∀ address, (machine.bus.read address).1 = machine.bus.tick.peek address) ∧
    (¬ Bus.ChangesWithTime machine.cpu.registers.pc →
      machine.fetchedOpcode = machine.peekedOpcode ∧
      (machine.Uninterrupted → machine.step =
        match Instruction.decode machine.peekedOpcode with
        | none => (.error (.unknownOpcode machine.cpu.registers.pc machine.peekedOpcode), machine)
        | some instruction =>
            (.ok (machine.afterFetch.execute instruction machine.bus.cycles).1,
              (machine.afterFetch.execute instruction machine.bus.cycles).2))) := by
  refine ⟨machine.bus.read_fst, fun steady => ?_⟩
  have same : machine.fetchedOpcode = machine.peekedOpcode :=
    machine.bus.read_fst_of_steady steady
  refine ⟨same, fun free => ?_⟩
  rw [step_of_uninterrupted free, same]
  cases Instruction.decode machine.peekedOpcode <;> rfl

/-- The processor runs into a controller whose first button is held; without it the byte would be a
return. -/
def atController : Machine where
  cpu := { registers := { pc := 0x4016 } }
  bus := { Bus.new Cartridge.empty with
    controllers := { first := { buttons := { a := true } }, strobe := true } }.setOpenBus 0x60

theorem atController_fetch :
    atController.fetchedOpcode = 0x61 ∧
      atController.step.2 = (atController.afterFetch.execute
        { operation := .adc, mode := .indexedIndirect, cycles := 6 } atController.bus.cycles).2 := by
  have peeked : atController.peekedOpcode = 0x61 := by decide +kernel
  have decoded : Instruction.decode 0x61 =
      some { operation := .adc, mode := .indexedIndirect, cycles := 6 } := by decide +kernel
  have steady : ¬ Bus.ChangesWithTime atController.cpu.registers.pc := by
    rintro (⟨_, high⟩ | sound)
    · exact absurd high (by decide)
    · exact absurd sound (by decide)
  obtain ⟨same, stepped⟩ := (fetch_agrees_with_peek atController).2 steady
  refine ⟨same.trans peeked, ?_⟩
  rw [stepped ⟨rfl, rfl⟩, peeked, decoded]

theorem uninterrupted_of_step_error {machine : Machine} {error : CpuError}
    (refused : machine.step.1 = .error error) : machine.Uninterrupted := by
  unfold step at refused
  by_cases nmi : machine.cpu.nmiPending = true
  · simp [nmi] at refused
  by_cases irq : machine.cpu.irqPending = true
  · simp [nmi, irq] at refused
  exact ⟨Bool.eq_false_iff.mpr nmi, Bool.eq_false_iff.mpr irq⟩

theorem step_error_cases {machine : Machine} {error : CpuError}
    (refused : machine.step.1 = .error error) :
    (Instruction.decode machine.peekedOpcode = none ∧
      error = .unknownOpcode machine.cpu.registers.pc machine.peekedOpcode ∧
      machine.step.2 = machine) ∨
    (Instruction.decode machine.peekedOpcode ≠ none ∧
      Instruction.decode machine.fetchedOpcode = none ∧
      error = .unknownOpcode machine.cpu.registers.pc machine.fetchedOpcode ∧
      machine.step.2 = machine.afterFetch) := by
  have shape := step_of_uninterrupted (uninterrupted_of_step_error refused)
  rw [shape] at refused ⊢
  cases peeked : Instruction.decode machine.peekedOpcode with
  | none =>
      simp only [peeked, Except.error.injEq] at refused ⊢
      exact .inl ⟨trivial, refused.symm, trivial⟩
  | some expected =>
      cases fetched : Instruction.decode machine.fetchedOpcode with
      | none =>
          simp only [peeked, fetched, Except.error.injEq] at refused ⊢
          exact .inr ⟨nofun, trivial, refused.symm, trivial⟩
      | some instruction => simp [peeked, fetched] at refused

theorem changesWithTime_of_opcode_ne {machine : Machine}
    (differ : machine.fetchedOpcode ≠ machine.peekedOpcode) :
    Bus.ChangesWithTime machine.cpu.registers.pc :=
  Classical.byContradiction fun steady => differ (Bus.read_fst_of_steady machine.bus steady)

theorem afterFetch_ne (machine : Machine) : machine.afterFetch ≠ machine := by
  intro same
  have cycles := congrArg (fun machine => machine.bus.cycles) same
  simp [afterFetch] at cycles

/-- A refused step leaves the machine as it was exactly if the byte at the program counter was no
instruction before the fetch either. Otherwise that byte lies in a register that changes with time,
the fetch has taken its cycle, and neither the processor nor a memory has changed. -/
theorem refused_step_unchanged_iff (machine : Machine) (error : CpuError)
    (refused : machine.step.1 = .error error) :
    (machine.step.2 = machine ↔ Instruction.decode machine.peekedOpcode = none) ∧
    (machine.step.2 = machine →
      error = .unknownOpcode machine.cpu.registers.pc machine.peekedOpcode) ∧
    (machine.step.2 ≠ machine →
      error = .unknownOpcode machine.cpu.registers.pc machine.fetchedOpcode ∧
      Bus.ChangesWithTime machine.cpu.registers.pc ∧
      machine.step.2.cpu = machine.cpu ∧
      machine.step.2.bus = (machine.bus.read machine.cpu.registers.pc).2 ∧
      Bus.SameMemory machine.bus machine.step.2.bus ∧
      machine.step.2.bus.openBus = machine.fetchedOpcode ∧
      machine.step.2.bus.cycles = machine.bus.cycles + 1) := by
  rcases step_error_cases refused with ⟨peeked, named, same⟩ | ⟨peeked, fetched, named, after⟩
  · exact ⟨iff_of_true same peeked, fun _ => named, fun changed => absurd same changed⟩
  · have changed : machine.step.2 ≠ machine := after ▸ afterFetch_ne machine
    have timed : Bus.ChangesWithTime machine.cpu.registers.pc :=
      changesWithTime_of_opcode_ne fun same => peeked (same ▸ fetched)
    refine ⟨iff_of_false changed peeked, fun same => absurd same changed, fun _ => ?_⟩
    rw [after]
    exact ⟨named, timed, rfl, rfl, Bus.sameMemory_read _ _, Bus.read_openBus _ _,
      Bus.read_cycles _ _⟩

/-- The processor runs into the status register just as the vertical blank ends. -/
def atEndOfVblank : Machine where
  cpu := { registers := { pc := 0x2002 } }
  bus := { Bus.new Cartridge.empty with
    ppu := { beam := { line := 261 }, status := { vblank := true }, ioLatch := 2 } }

theorem atEndOfVblank_refused_changed :
    atEndOfVblank.step.1 = .error (.unknownOpcode 0x2002 0x02) ∧
      atEndOfVblank.step.2 ≠ atEndOfVblank := by
  have peeked : Instruction.decode atEndOfVblank.peekedOpcode =
      some { operation := .nop, mode := .immediate, cycles := 2 } := by decide +kernel
  have fetched : atEndOfVblank.fetchedOpcode = 0x02 := by decide +kernel
  have refused : atEndOfVblank.step.1 = .error (.unknownOpcode 0x2002 0x02) := by
    rw [step_of_uninterrupted ⟨rfl, rfl⟩, peeked, fetched]
    rfl
  have law := refused_step_unchanged_iff atEndOfVblank _ refused
  exact ⟨refused, fun same => nomatch peeked.symm.trans (law.1.mp same)⟩

end Famicom.Machine
