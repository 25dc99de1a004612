import Famicom.Proofs.Cpu.StackPage

/-!
The operations that save on the stack and those that restore from it, in pairs: what the opening
half of each pair pushes, and what the closing half makes of the bytes that it pulls.
-/

theorem UInt16.ofBytes_lowByte_highByte (word : UInt16) :
    ofBytes word.lowByte word.highByte = word := by
  have bound := word.toNat_lt
  apply UInt16.toNat_inj.mp
  rw [toNat_ofBytes, lowByte, highByte, UInt16.toNat_toUInt8, UInt16.toNat_toUInt8,
    UInt16.toNat_shiftRight]
  change word.toNat >>> 8 % 2 ^ 8 * 0x100 + word.toNat % 2 ^ 8 = _
  rw [Nat.shiftRight_eq_div_pow]
  omega

namespace Famicom

theorem Flags.ofByte_pushed {flags : Flags} (clear : flags.brk = false) (brk : Bool) :
    ofByte (flags.pushed brk) = flags := by
  rw [pushed, ofByte_toByte, ← clear]

attribute [local irreducible] Bus.tick

/-! ## Pushing and pulling -/

namespace Registers

open Microprogram

variable (registers : Registers) (bus : Bus)

theorem run_pushByte (byte : UInt8) :
    (registers.pushByte byte).run bus =
      ({ registers with sp := registers.sp - 1 }, bus.push registers.sp [byte]) := rfl

theorem run_pushWord (word : UInt16) :
    (registers.pushWord word).run bus =
      ({ registers with sp := registers.sp - 1 - 1 },
        bus.push registers.sp [word.highByte, word.lowByte]) := by
  simp only [pushWord, run_bind, run_pushByte, Bus.push]

theorem run_pullByte :
    registers.pullByte.run bus =
      (((bus.read (stackAddress (registers.sp + 1))).1,
          { registers with sp := registers.sp + 1 }),
        (bus.read (stackAddress (registers.sp + 1))).2) := rfl

theorem run_pullWord :
    registers.pullWord.run bus =
      ((bus.wordAt (stackAddress (registers.sp + 1)) (stackAddress (registers.sp + 1 + 1)),
          { registers with sp := registers.sp + 1 + 1 }),
        ((bus.read (stackAddress (registers.sp + 1))).2.read
          (stackAddress (registers.sp + 1 + 1))).2) := by
  simp only [pullWord, run_bind, run_pullByte, run_pure, Bus.wordAt]

theorem run_call :
    (Instruction.execute ⟨.jsr, .absolute, 6⟩ registers).run bus =
      ({ registers := { registers with
          pc := bus.wordAt registers.pc (registers.pc + 1), sp := registers.sp - 1 - 1 } },
        ((bus.read registers.pc).2.read (registers.pc + 1)).2.push registers.sp
          [(registers.pc + 1 + 1 - 1).highByte, (registers.pc + 1 + 1 - 1).lowByte]) := by
  simp only [Instruction.execute, Mode.resolve, Operation.action, Operation.callProgram, run_bind,
    run_fetchWord, run_pushWord, run_pure]

theorem run_break :
    (Instruction.execute ⟨.brk, .implied, 7⟩ registers).run bus =
      let pushed := (bus.read registers.pc).2.push registers.sp
        [(registers.pc + 1).highByte, (registers.pc + 1).lowByte, registers.p.pushed true]
      ({ registers := { registers with
          pc := pushed.wordAt 0xfffe (0xfffe + 1), sp := registers.sp - 1 - 1 - 1
          p := { registers.p with interruptDisable := true } } },
        ((pushed.read 0xfffe).2.read (0xfffe + 1)).2) := by
  simp only [Instruction.execute, Mode.resolve, Operation.action, Operation.breakProgram,
    enterHandler, readWord, run_bind, run_fetchByte, run_pushWord, run_pushByte, run_read, run_pure]
  rfl

theorem run_pullAccumulator :
    (Instruction.execute ⟨.pla, .implied, 4⟩ registers).run bus =
      ({ registers := { registers with sp := registers.sp + 1 }.loadA
          (bus.read (stackAddress (registers.sp + 1))).1 },
        (bus.read (stackAddress (registers.sp + 1))).2) := by
  simp only [Instruction.execute, Mode.resolve, Operation.action,
    Operation.pullAccumulatorProgram, run_bind, run_pullByte, run_pure]

theorem run_pullFlags :
    (Instruction.execute ⟨.plp, .implied, 4⟩ registers).run bus =
      ({ registers := { registers with
          sp := registers.sp + 1
          p := Flags.ofByte (bus.read (stackAddress (registers.sp + 1))).1 } },
        (bus.read (stackAddress (registers.sp + 1))).2) := by
  simp only [Instruction.execute, Mode.resolve, Operation.action, Operation.pullFlagsProgram,
    run_bind, run_pullByte, run_pure]

theorem run_return :
    (Instruction.execute ⟨.rts, .implied, 6⟩ registers).run bus =
      ({ registers := { registers with
          sp := registers.sp + 1 + 1
          pc := bus.wordAt (stackAddress (registers.sp + 1))
            (stackAddress (registers.sp + 1 + 1)) + 1 } },
        ((bus.read (stackAddress (registers.sp + 1))).2.read
          (stackAddress (registers.sp + 1 + 1))).2) := by
  simp only [Instruction.execute, Mode.resolve, Operation.action, Operation.returnProgram,
    run_bind, run_pullWord, run_pure]

theorem run_returnFromInterrupt :
    (Instruction.execute ⟨.rti, .implied, 6⟩ registers).run bus =
      let flags := bus.read (stackAddress (registers.sp + 1))
      ({ registers := { registers with
          sp := registers.sp + 1 + 1 + 1
          p := Flags.ofByte flags.1
          pc := flags.2.wordAt (stackAddress (registers.sp + 1 + 1))
            (stackAddress (registers.sp + 1 + 1 + 1)) } },
        ((flags.2.read (stackAddress (registers.sp + 1 + 1))).2.read
          (stackAddress (registers.sp + 1 + 1 + 1))).2) := by
  simp only [Instruction.execute, Mode.resolve, Operation.action,
    Operation.returnFromInterruptProgram, run_bind, run_pullByte, run_pullWord, run_pure]

end Registers

namespace Bus

theorem stackWord (bus : Bus) (low high : UInt8) :
    bus.wordAt (Registers.stackAddress low) (Registers.stackAddress high) =
      UInt16.ofBytes (bus.ram.read (Registers.stackCell low))
        (bus.ram.read (Registers.stackCell high)) := by
  rw [wordAt, read_stack, read_stack, (sameMemory_read _ _).ram]

end Bus

namespace Machine

def stackByte (machine : Machine) (cell : UInt8) : UInt8 :=
  machine.bus.ram.read (Registers.stackCell cell)

def sp (machine : Machine) : UInt8 := machine.cpu.registers.sp

def pc (machine : Machine) : UInt16 := machine.cpu.registers.pc

def flags (machine : Machine) : Flags := machine.cpu.registers.p

def Runs (machine : Machine) (opcode : UInt8) : Prop :=
  machine.Uninterrupted ∧ Instruction.decode machine.peekedOpcode ≠ none ∧
    machine.fetchedOpcode = opcode

instance (machine : Machine) (opcode : UInt8) : Decidable (machine.Runs opcode) :=
  inferInstanceAs (Decidable ((_ = false ∧ _ = false) ∧ _ ≠ none ∧ _ = _))

theorem Runs.step {machine : Machine} {opcode : UInt8} (runs : machine.Runs opcode)
    (instruction : Instruction) (decoded : Instruction.decode opcode = some instruction) :
    machine.step.2.cpu.registers = (machine.instructionRun instruction).1.registers ∧
      machine.step.2.bus.ram = (machine.instructionRun instruction).2.ram := by
  obtain ⟨free, peeked, rfl⟩ := runs
  obtain ⟨expected, known⟩ := Option.ne_none_iff_exists'.mp peeked
  rw [step_of_uninterrupted free, known, decoded]
  exact ⟨rfl, Bus.tickMany_ram _ _⟩

theorem Runs.step_of_push {machine : Machine} {opcode byte : UInt8} (runs : machine.Runs opcode)
    (instruction : Instruction) (decoded : Instruction.decode opcode = some instruction)
    (pushes : machine.instructionRun instruction =
      ({ registers := { machine.pastOpcode with sp := machine.sp - 1 } },
        machine.afterFetch.bus.push machine.sp [byte])) :
    machine.step.2.sp = machine.sp - 1 ∧
      machine.step.2.bus.ram = Registers.pushBytes machine.bus.ram machine.sp [byte] := by
  obtain ⟨registers, ram⟩ := runs.step instruction decoded
  rw [sp, registers, ram, pushes, Registers.pushed_ram]
  exact ⟨rfl, congrArg (Registers.pushBytes · _ _) (Bus.sameMemory_read _ _).ram⟩

theorem interrupted_step {machine : Machine}
    (pending : machine.cpu.nmiPending = true ∨ machine.cpu.irqPending = true) :
    ∃ vector : UInt16, 0x8000 ≤ vector ∧ 0x8000 ≤ vector + 1 ∧
      machine.step.2.cpu.registers =
        ((machine.cpu.registers.interruptSequence vector).run machine.bus).1 ∧
      machine.step.2.bus =
        ((machine.cpu.registers.interruptSequence vector).run machine.bus).2 := by
  cases nmi : machine.cpu.nmiPending with
  | true =>
      rw [step_of_nmiPending nmi]
      exact ⟨Registers.nmiVector, by decide, by decide, rfl, rfl⟩
  | false =>
      have irq := pending.resolve_left (by simp [nmi])
      rw [step_of_irqPending nmi irq]
      exact ⟨Registers.irqVector, by decide, by decide, rfl, rfl⟩

end Machine

/-! ## The halves of a pair -/

/-- `pha` with `pla`, `php` with `plp`, `jsr` with `rts`, and `brk` or the entry of either interrupt
with `rti`. -/
inductive StackPair
  | accumulator
  | flags
  | call
  | brk
  | interrupt
  deriving DecidableEq

namespace StackPair

open Machine

def Opens : StackPair → Machine → Prop
  | accumulator, machine => machine.Runs 0x48
  | flags, machine => machine.Runs 0x08
  | call, machine => machine.Runs 0x20
  | brk, machine => machine.Runs 0x00
  | interrupt, machine => machine.cpu.nmiPending = true ∨ machine.cpu.irqPending = true

def Closes : StackPair → Machine → Prop
  | accumulator, machine => machine.Runs 0x68
  | flags, machine => machine.Runs 0x28
  | call, machine => machine.Runs 0x60
  | brk, machine | interrupt, machine => machine.Runs 0x40

instance : (pair : StackPair) → (machine : Machine) → Decidable (pair.Opens machine)
  | accumulator, _ | flags, _ | call, _ | brk, _ => inferInstanceAs (Decidable (Runs _ _))
  | interrupt, _ => inferInstanceAs (Decidable (_ = true ∨ _ = true))

instance : (pair : StackPair) → (machine : Machine) → Decidable (pair.Closes machine)
  | accumulator, _ | flags, _ | call, _ | brk, _ | interrupt, _ =>
      inferInstanceAs (Decidable (Runs _ _))

def saved (machine : Machine) : StackPair → List UInt8
  | accumulator => [machine.cpu.registers.a]
  | flags => [machine.flags.pushed true]
  | call => [(machine.pc + 2).highByte, (machine.pc + 2).lowByte]
  | brk => [(machine.pc + 2).highByte, (machine.pc + 2).lowByte, machine.flags.pushed true]
  | interrupt => [machine.pc.highByte, machine.pc.lowByte, machine.flags.pushed false]

def size : StackPair → Nat
  | accumulator | flags => 1
  | call => 2
  | brk | interrupt => 3

theorem size_le (pair : StackPair) : pair.size ≤ 3 := by
  cases pair <;> decide

theorem length_saved (pair : StackPair) (machine : Machine) :
    (pair.saved machine).length = pair.size := by
  cases pair <;> rfl

theorem opens_step {pair : StackPair} {machine : Machine} (opens : pair.Opens machine) :
    machine.step.2.sp = machine.sp - UInt8.ofNat pair.size ∧
      machine.step.2.bus.ram =
        Registers.pushBytes machine.bus.ram machine.sp (pair.saved machine) := by
  have fetched : machine.afterFetch.bus.ram = machine.bus.ram :=
    (Bus.sameMemory_read machine.bus machine.pc).ram
  have twice : machine.sp - 1 - 1 = machine.sp - 2 := by grind
  have thrice : machine.sp - 1 - 1 - 1 = machine.sp - 3 := by grind
  cases pair with
  | accumulator =>
      exact Runs.step_of_push opens ⟨.pha, .implied, 3⟩ rfl rfl
  | flags =>
      exact Runs.step_of_push opens ⟨.php, .implied, 3⟩ rfl rfl
  | call =>
      obtain ⟨registers, ram⟩ := Runs.step opens ⟨.jsr, .absolute, 6⟩ rfl
      have last : machine.pastOpcode.pc + 1 + 1 - 1 = machine.pc + 2 := by
        change machine.pc + 1 + 1 + 1 - 1 = _
        grind
      rw [sp, registers, ram, instructionRun, Registers.run_call, Registers.pushed_ram, last,
        (Bus.sameMemory_read _ _).ram, (Bus.sameMemory_read _ _).ram, fetched]
      exact ⟨twice, rfl⟩
  | brk =>
      obtain ⟨registers, ram⟩ := Runs.step opens ⟨.brk, .implied, 7⟩ rfl
      have next : machine.pastOpcode.pc + 1 = machine.pc + 2 := by
        change machine.pc + 1 + 1 = _
        grind
      rw [sp, registers, ram, instructionRun, Registers.run_break, (Bus.sameMemory_read _ _).ram,
        (Bus.sameMemory_read _ _).ram, Registers.pushed_ram, next, (Bus.sameMemory_read _ _).ram,
        fetched]
      exact ⟨thrice, rfl⟩
  | interrupt =>
      have pushed : machine.cpu.registers.pushedRam machine.bus.ram =
          Registers.pushBytes machine.bus.ram machine.sp (interrupt.saved machine) := by
        simp only [saved, Registers.pushBytes, twice]
        rfl
      obtain ⟨vector, rom, romNext, entered⟩ := interrupted_step opens
      obtain ⟨registers, ram⟩ :=
        machine.cpu.registers.run_interruptSequence rom romNext machine.bus
      rw [sp, entered.1, registers, entered.2, ram, pushed]
      exact ⟨rfl, rfl⟩

def Holds : StackPair → List UInt8 → Registers → Prop
  | accumulator, [byte], registers => registers.a = byte
  | flags, [byte], registers => registers.p = Flags.ofByte byte
  | call, [high, low], registers => registers.pc = UInt16.ofBytes low high + 1
  | brk, [high, low, byte], registers | interrupt, [high, low, byte], registers =>
      registers.p = Flags.ofByte byte ∧ registers.pc = UInt16.ofBytes low high
  | _, _, _ => False

def pulled (machine : Machine) (size : Nat) : List UInt8 :=
  (List.range size).map fun index => machine.stackByte (machine.sp + UInt8.ofNat (size - index))

theorem returned_step {machine : Machine} (runs : machine.Runs 0x40) :
    machine.step.2.sp = machine.sp + 3 ∧ machine.step.2.bus.ram = machine.bus.ram ∧
      machine.step.2.flags = Flags.ofByte (machine.stackByte (machine.sp + 1)) ∧
      machine.step.2.pc = UInt16.ofBytes (machine.stackByte (machine.sp + 2))
        (machine.stackByte (machine.sp + 3)) := by
  have fetched : machine.afterFetch.bus.ram = machine.bus.ram :=
    (Bus.sameMemory_read machine.bus machine.pc).ram
  have twice : machine.pastOpcode.sp + 1 + 1 = machine.sp + 2 := by
    change machine.sp + 1 + 1 = _
    grind
  have thrice : machine.pastOpcode.sp + 1 + 1 + 1 = machine.sp + 3 := by
    change machine.sp + 1 + 1 + 1 = _
    grind
  obtain ⟨registers, ram⟩ := Runs.step runs ⟨.rti, .implied, 6⟩ rfl
  rw [sp, Machine.flags, pc, registers, ram, instructionRun, Registers.run_returnFromInterrupt]
  dsimp only
  rw [Bus.read_stack, Bus.stackWord, (Bus.sameMemory_read _ _).ram, (Bus.sameMemory_read _ _).ram,
    (Bus.sameMemory_read _ _).ram, fetched, thrice, twice]
  exact ⟨rfl, rfl, rfl, rfl⟩

theorem closes_step {pair : StackPair} {machine : Machine} (closes : pair.Closes machine) :
    machine.step.2.sp = machine.sp + UInt8.ofNat pair.size ∧
      machine.step.2.bus.ram = machine.bus.ram ∧
      pair.Holds (pulled machine pair.size) machine.step.2.cpu.registers := by
  have fetched : machine.afterFetch.bus.ram = machine.bus.ram :=
    (Bus.sameMemory_read machine.bus machine.pc).ram
  cases pair with
  | accumulator =>
      obtain ⟨registers, ram⟩ := Runs.step closes ⟨.pla, .implied, 4⟩ rfl
      rw [sp, registers, ram, instructionRun, Registers.run_pullAccumulator, Bus.read_stack,
        (Bus.sameMemory_read _ _).ram, fetched]
      exact ⟨rfl, rfl, rfl⟩
  | flags =>
      obtain ⟨registers, ram⟩ := Runs.step closes ⟨.plp, .implied, 4⟩ rfl
      rw [sp, registers, ram, instructionRun, Registers.run_pullFlags, Bus.read_stack,
        (Bus.sameMemory_read _ _).ram, fetched]
      exact ⟨rfl, rfl, rfl⟩
  | call =>
      obtain ⟨registers, ram⟩ := Runs.step closes ⟨.rts, .implied, 6⟩ rfl
      have twice : machine.pastOpcode.sp + 1 + 1 = machine.sp + 2 := by
        change machine.sp + 1 + 1 = _
        grind
      rw [sp, registers, ram, instructionRun, Registers.run_return, Bus.stackWord,
        (Bus.sameMemory_read _ _).ram, (Bus.sameMemory_read _ _).ram, fetched, twice]
      exact ⟨rfl, rfl, rfl⟩
  | brk =>
      obtain ⟨sp, ram, flags, pc⟩ := returned_step closes
      exact ⟨sp, ram, flags, pc⟩
  | interrupt =>
      obtain ⟨sp, ram, flags, pc⟩ := returned_step closes
      exact ⟨sp, ram, flags, pc⟩

def Restored : StackPair → Registers → Registers → Prop
  | accumulator, before, after => after.a = before.a
  | flags, before, after => after.p = before.p
  | call, before, after => after.pc = before.pc + 3
  | brk, before, after => after.p = before.p ∧ after.pc = before.pc + 2
  | interrupt, before, after => after.p = before.p ∧ after.pc = before.pc

/-- Registers that hold what the opening half has saved are restored, if the break flag was clear:
that flag alone is lost on the stack. -/
theorem restored_of_holds {pair : StackPair} {machine : Machine} {registers : Registers}
    (clear : machine.flags.brk = false) (holds : pair.Holds (pair.saved machine) registers) :
    pair.Restored machine.cpu.registers registers := by
  have flagsBack (brk : Bool) : Flags.ofByte (machine.flags.pushed brk) = machine.flags :=
    Flags.ofByte_pushed clear brk
  cases pair with
  | accumulator => exact holds
  | flags => exact holds.trans (flagsBack true)
  | call =>
      have next : machine.pc + 2 + 1 = machine.pc + 3 := by grind
      have returned : registers.pc = UInt16.ofBytes (machine.pc + 2).lowByte
        (machine.pc + 2).highByte + 1 := holds
      rw [UInt16.ofBytes_lowByte_highByte, next] at returned
      exact returned
  | brk =>
      exact ⟨holds.1.trans (flagsBack true), holds.2.trans (UInt16.ofBytes_lowByte_highByte _)⟩
  | interrupt =>
      exact ⟨holds.1.trans (flagsBack false), holds.2.trans (UInt16.ofBytes_lowByte_highByte _)⟩

end StackPair

end Famicom
