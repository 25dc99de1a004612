import Famicom.Proofs.Cpu.Refusal
import Famicom.Proofs.Cpu.Schedule

/-!
How long instructions take. The bus cycles of every instruction are counted along its microprogram
and compared with the base counts of the instruction set: no instruction needs more than its base
count and its penalty, and one that accesses a memory operand needs exactly that many.
-/

namespace Famicom

attribute [local irreducible] Bus.tick

def Bus.wordAt (bus : Bus) (low high : UInt16) : UInt16 :=
  UInt16.ofBytes (bus.read low).1 ((bus.read low).2.read high).1

/-! ## Cycles of the addressing modes -/

namespace Registers

@[simp] theorem run_fetchByte (registers : Registers) (bus : Bus) :
    registers.fetchByte.run bus =
      (((bus.read registers.pc).1, { registers with pc := registers.pc + 1 }),
        (bus.read registers.pc).2) := rfl

@[simp] theorem schedule_fetchByte_length (registers : Registers) (bus : Bus) :
    (registers.fetchByte.schedule bus).length = 1 := rfl

@[simp] theorem run_fetchWord (registers : Registers) (bus : Bus) :
    registers.fetchWord.run bus =
      ((bus.wordAt registers.pc (registers.pc + 1),
          { registers with pc := registers.pc + 1 + 1 }),
        ((bus.read registers.pc).2.read (registers.pc + 1)).2) := rfl

@[simp] theorem schedule_fetchWord_length (registers : Registers) (bus : Bus) :
    (registers.fetchWord.schedule bus).length = 2 := rfl

end Registers

namespace Operand

@[simp] theorem run_readPointer (location : UInt8) (bus : Bus) :
    (readPointer location).run bus =
      (bus.wordAt location.toUInt16 (location + 1).toUInt16,
        ((bus.read location.toUInt16).2.read (location + 1).toUInt16).2) := rfl

@[simp] theorem schedule_readPointer_length (location : UInt8) (bus : Bus) :
    ((readPointer location).schedule bus).length = 2 := rfl

@[simp] theorem run_settle_fst (operand : Operand) (readsOnly : Bool) (bus : Bus) :
    ((operand.settle readsOnly).run bus).1 = operand := by
  unfold settle
  split <;> rfl

@[simp] theorem schedule_settle_length (operand : Operand) (readsOnly : Bool) (bus : Bus) :
    ((operand.settle readsOnly).schedule bus).length = (!readsOnly || operand.crossed).toNat := by
  unfold settle
  cases readsOnly <;> cases operand.crossed <;> rfl

end Operand

namespace Mode

open Microprogram Operand

def baseCycles : Mode → Nat
  | implied | accumulator | immediate => 0
  | zeroPage | relative => 1
  | zeroPageX | zeroPageY | absolute | absoluteX | absoluteY => 2
  | indirectIndexed => 3
  | indexedIndirect | indirect => 4

def operand (mode : Mode) (readsOnly : Bool) (registers : Registers) (bus : Bus) : Operand :=
  ((mode.resolve readsOnly registers).run bus).1.1

def indexBase (mode : Mode) (registers : Registers) (bus : Bus) : UInt16 :=
  match mode with
  | indirectIndexed =>
      let (location, bus) := bus.read registers.pc
      bus.wordAt location.toUInt16 (location + 1).toUInt16
  | _ => bus.wordAt registers.pc (registers.pc + 1)

def index (mode : Mode) (registers : Registers) : UInt8 :=
  match mode with
  | absoluteX => registers.x
  | _ => registers.y

theorem resolve_schedule_length (mode : Mode) (readsOnly : Bool) (registers : Registers)
    (bus : Bus) :
    ((mode.resolve readsOnly registers).schedule bus).length =
      mode.baseCycles + (mode.isIndexed &&
        (!readsOnly || (mode.operand readsOnly registers bus).crossed)).toNat := by
  cases mode <;> simp [resolve, operand, baseCycles, isIndexed, run_bind, ← Nat.add_assoc]

theorem operand_of_isIndexed {mode : Mode} (indexes : mode.isIndexed = true) (readsOnly : Bool)
    (registers : Registers) (bus : Bus) :
    mode.operand readsOnly registers bus =
      indexed (mode.indexBase registers bus) (mode.index registers) := by
  cases mode <;> simp [isIndexed] at indexes <;>
    simp [operand, resolve, indexBase, index, run_bind]

end Mode

/-! ## Cycles of the operations -/

namespace Operation

def controlCycles : Operation → Nat
  | brk => 6
  | rti => 3
  | jsr | rts => 2
  | pha | php | pla | plp => 1
  | _ => 0

theorem control_schedule_length {operation : Operation}
    {program : Registers → Operand → Microprogram Registers}
    (control : operation.action = .control program) (registers : Registers) (operand : Operand)
    (bus : Bus) :
    ((program registers operand).schedule bus).length = operation.controlCycles := by
  cases operation <;> first
    | exact Action.noConfusion control
    | (obtain rfl := Action.control.inj control; rfl)

open Microprogram Instruction in
def perform (operation : Operation) (mode : Mode) (operand : Operand) (registers : Registers) :
    Microprogram Outcome :=
  match operation.action with
  | .read effect => do
      let value ← readOperand mode operand registers
      let penalty := (mode.isIndexed && operand.crossed).toNat
      return { registers := effect registers value, penalty }
  | .modify effect => do
      let registers ← modifyOperand mode operand registers effect
      return { registers }
  | .store request => do
      let (target, registers) := request registers operand
      write target.address target.data
      return { registers }
  | .branch condition => return takeBranch (condition registers.p) operand registers
  | .inherent effect => return { registers := effect registers }
  | .control program => do
      let registers ← program registers operand
      return { registers }

end Operation

namespace Instruction

open Microprogram

theorem execute_eq_bind (instruction : Instruction) (registers : Registers) :
    instruction.execute registers =
      instruction.mode.resolve instruction.operation.readsOnly registers >>= fun found =>
        instruction.operation.perform instruction.mode found.1 found.2 := rfl

def operand (instruction : Instruction) (registers : Registers) (bus : Bus) : Operand :=
  instruction.mode.operand instruction.operation.readsOnly registers bus

def operationCycles (instruction : Instruction) : Nat :=
  match instruction.operation.action with
  | .read _ => if instruction.mode = .implied ∨ instruction.mode = .accumulator then 0 else 1
  | .modify _ => if instruction.mode = .accumulator then 0 else 3
  | .store _ => 1
  | .branch _ | .inherent _ => 0
  | .control _ => instruction.operation.controlCycles

section Memory

variable {mode : Mode} (inMemory : mode ≠ .implied ∧ mode ≠ .accumulator) (operand : Operand)
  (registers : Registers)
include inMemory

theorem readOperand_of_memory :
    readOperand mode operand registers = read operand.address mode.openBusRule := by
  unfold readOperand
  split
  · exact absurd rfl inMemory.1
  · exact absurd rfl inMemory.2
  · rfl

theorem run_perform_read (bus : Bus) {operation : Operation}
    {effect : Registers → UInt8 → Registers} (acts : operation.action = .read effect) :
    let read := bus.readOperand operand.address mode.openBusRule
    ((operation.perform mode operand registers).run bus).1.registers = effect registers read.1 ∧
      ((operation.perform mode operand registers).run bus).2 = read.2 := by
  simp only [Operation.perform, acts, readOperand_of_memory inMemory, run_bind, run_read, run_pure,
    and_self]

theorem run_perform_modify (bus : Bus) {operation : Operation}
    {effect : Registers → UInt8 → UInt8 × Registers} (acts : operation.action = .modify effect) :
    let read := bus.readOperand operand.address mode.openBusRule
    let written := effect registers read.1
    ((operation.perform mode operand registers).run bus).1.registers = written.2 ∧
      ((operation.perform mode operand registers).run bus).2 =
        (read.2.write operand.address read.1).write operand.address written.1 := by
  simp only [Operation.perform, acts, modifyOperand, if_neg inMemory.2, run_bind, run_read,
    run_write, run_pure, and_self]

end Memory

theorem readOperand_schedule_length (mode : Mode) (operand : Operand) (registers : Registers)
    (bus : Bus) :
    ((readOperand mode operand registers).schedule bus).length =
      if mode = .implied ∨ mode = .accumulator then 0 else 1 := by
  cases mode <;> rfl

theorem modifyOperand_schedule_length (mode : Mode) (operand : Operand) (registers : Registers)
    (effect : Registers → UInt8 → UInt8 × Registers) (bus : Bus) :
    ((modifyOperand mode operand registers effect).schedule bus).length =
      if mode = .accumulator then 0 else 3 := by
  unfold modifyOperand
  split <;> rfl

theorem execute_schedule_length (instruction : Instruction) (registers : Registers) (bus : Bus) :
    ((instruction.execute registers).schedule bus).length =
      ((instruction.mode.resolve instruction.operation.readsOnly registers).schedule bus).length +
        instruction.operationCycles := by
  unfold execute operationCycles
  simp only [schedule_bind, List.length_append]
  congr 1
  cases acts : instruction.operation.action with
  | read effect => simp [readOperand_schedule_length]
  | modify effect => simp [modifyOperand_schedule_length]
  | store request => rfl
  | branch condition => rfl
  | inherent effect => rfl
  | control program => simp [Operation.control_schedule_length acts]

def owed (instruction : Instruction) (registers : Registers) (operand : Operand) : Nat :=
  match instruction.operation.action with
  | .read _ => (instruction.mode.isIndexed && operand.crossed).toNat
  | .branch condition => if condition registers.p then 1 + operand.crossed.toNat else 0
  | _ => 0

theorem resolve_flags (mode : Mode) (readsOnly : Bool) (registers : Registers) (bus : Bus) :
    ((mode.resolve readsOnly registers).run bus).1.2.p = registers.p := by
  cases mode <;> simp [Mode.resolve, run_bind]

theorem execute_penalty (instruction : Instruction) (registers : Registers) (bus : Bus) :
    ((instruction.execute registers).run bus).1.penalty =
      instruction.owed registers (instruction.operand registers bus) := by
  unfold execute owed operand Mode.operand
  have flags := resolve_flags instruction.mode instruction.operation.readsOnly registers bus
  simp only [run_bind]
  cases acts : instruction.operation.action with
  | read effect => simp [run_bind]
  | modify effect => simp [run_bind]
  | store request => simp [run_bind]
  | branch condition =>
      simp only [run_pure, takeBranch, flags]
      split <;> rfl
  | inherent effect => rfl
  | control program => simp [run_bind]

/-! ## The instruction set -/

def pageSensitiveOpcodes : List UInt8 :=
  [0x11, 0x19, 0x1c, 0x1d, 0x31, 0x39, 0x3c, 0x3d, 0x51, 0x59, 0x5c, 0x5d, 0x71, 0x79, 0x7c, 0x7d,
    0xb1, 0xb3, 0xb9, 0xbb, 0xbc, 0xbd, 0xbe, 0xbf, 0xd1, 0xd9, 0xdc, 0xdd, 0xf1, 0xf9, 0xfc, 0xfd]

/-- An instruction that reads or writes a memory operand, unlike jumps, branches and the operations
on registers or on the stack. -/
def accessesOperand (instruction : Instruction) : Bool :=
  match instruction.mode with
  | .implied | .accumulator | .relative | .indirect => false
  | _ => instruction.operation != .jsr && instruction.operation != .jmp

def isBranch (instruction : Instruction) : Bool :=
  match instruction.operation.action with
  | .branch _ => true
  | _ => false

def operatesOnMemory (instruction : Instruction) : Bool :=
  match instruction.operation.action with
  | .read _ | .modify _ | .store _ => true
  | _ => false

def shortestCycles (instruction : Instruction) : Nat :=
  1 + instruction.mode.baseCycles +
    (instruction.mode.isIndexed && !instruction.operation.readsOnly).toNat +
    instruction.operationCycles

structure Regular (opcode : UInt8) (instruction : Instruction) : Prop where
  fits : instruction.shortestCycles ≤ instruction.cycles
  exact : instruction.accessesOperand = true → instruction.shortestCycles = instruction.cycles
  operates : instruction.accessesOperand = true → instruction.operatesOnMemory = true
  sensitive : instruction.pageSensitive = decide (opcode ∈ pageSensitiveOpcodes)
  branches : instruction.isBranch = true → instruction.mode = .relative

instance (opcode : UInt8) (instruction : Instruction) : Decidable (Regular opcode instruction) :=
  decidable_of_iff
    (instruction.shortestCycles ≤ instruction.cycles ∧
      (instruction.accessesOperand = true → instruction.shortestCycles = instruction.cycles) ∧
      (instruction.accessesOperand = true → instruction.operatesOnMemory = true) ∧
      instruction.pageSensitive = decide (opcode ∈ pageSensitiveOpcodes) ∧
      (instruction.isBranch = true → instruction.mode = .relative))
    ⟨fun ⟨fits, exact, operates, sensitive, branches⟩ =>
        ⟨fits, exact, operates, sensitive, branches⟩,
      fun regular =>
        ⟨regular.fits, regular.exact, regular.operates, regular.sensitive, regular.branches⟩⟩

theorem of_table (Holds : UInt8 → Instruction → Prop)
    (every : ∀ place ∈ table.toList.zipIdx, ∀ instruction ∈ place.1,
      Holds (UInt8.ofNat place.2) instruction)
    {opcode : UInt8} {instruction : Instruction} (decoded : decode opcode = some instruction) :
    Holds opcode instruction := by
  have listed : (some instruction, opcode.toNat) ∈ table.toList.zipIdx := by
    rw [List.mk_mem_zipIdx_iff_getElem?, ← decoded, Vector.getElem?_toList]
    exact Vector.getElem?_eq_getElem opcode.toNat_lt
  have holds := every _ listed instruction rfl
  rwa [UInt8.ofNat_toNat] at holds

theorem regular_table : ∀ place ∈ table.toList.zipIdx, ∀ instruction ∈ place.1,
    Regular (UInt8.ofNat place.2) instruction := by
  decide +kernel

theorem regular_of_decode {opcode : UInt8} {instruction : Instruction}
    (decoded : decode opcode = some instruction) : Regular opcode instruction :=
  of_table Regular regular_table decoded

def branchTarget (next : UInt16) (distance : UInt8) : UInt16 :=
  if distance < 0x80 then next + distance.toUInt16
  else next - UInt16.ofNat (0x100 - distance.toNat)

def penalty (instruction : Instruction) (opcode : UInt8) (registers : Registers) (bus : Bus) :
    Nat :=
  if opcode ∈ pageSensitiveOpcodes then
    let base := instruction.mode.indexBase registers bus
    let address := base + (instruction.mode.index registers).toUInt16
    if address.highByte = base.highByte then 0 else 1
  else
    match instruction.operation.action with
    | .branch condition =>
        let next := registers.pc + 1
        let target := branchTarget next (bus.read registers.pc).1
        if condition registers.p then (if target.highByte = next.highByte then 1 else 2) else 0
    | _ => 0

theorem signed_distance (distance : UInt8) :
    (if distance.bit 7 then 0xff00 ||| distance.toUInt16 else distance.toUInt16) =
      if distance < 0x80 then distance.toUInt16
      else 0 - UInt16.ofNat (0x100 - distance.toNat) := by
  have every : ∀ distance : Fin 256,
      (if (UInt8.ofFin distance).bit 7 then 0xff00 ||| (UInt8.ofFin distance).toUInt16
        else (UInt8.ofFin distance).toUInt16) =
      if UInt8.ofFin distance < 0x80 then (UInt8.ofFin distance).toUInt16
      else 0 - UInt16.ofNat (0x100 - (UInt8.ofFin distance).toNat) := by
    decide +kernel
  exact every distance.toFin

theorem crossed_relative (readsOnly : Bool) (registers : Registers) (bus : Bus) :
    (Mode.relative.operand readsOnly registers bus).crossed =
      !(registers.pc + 1).samePage
        (branchTarget (registers.pc + 1) (bus.read registers.pc).1) := by
  have target : registers.pc + 1 +
        (if (bus.read registers.pc).1.bit 7 then 0xff00 ||| (bus.read registers.pc).1.toUInt16
          else (bus.read registers.pc).1.toUInt16) =
      branchTarget (registers.pc + 1) (bus.read registers.pc).1 := by
    rw [signed_distance, branchTarget]
    split
    · rfl
    · rw [UInt16.zero_sub, UInt16.sub_eq_add_neg]
  rw [← target]
  rfl

theorem toNat_not_samePage (first second : UInt16) :
    (!first.samePage second).toNat = if second.highByte = first.highByte then 0 else 1 := by
  unfold UInt16.samePage
  by_cases same : second.highByte = first.highByte
  · simp [same]
  · simp [same, Ne.symm same]

theorem readsOnly_iff (operation : Operation) :
    operation.readsOnly = true ↔ ∃ effect, operation.action = .read effect := by
  unfold Operation.readsOnly
  cases operation.action <;> simp

theorem owed_eq_penalty {opcode : UInt8} {instruction : Instruction}
    (regular : Regular opcode instruction) (registers : Registers) (bus : Bus) :
    instruction.owed registers (instruction.operand registers bus) =
      instruction.penalty opcode registers bus := by
  have sensitive := regular.sensitive
  by_cases listed : opcode ∈ pageSensitiveOpcodes
  · simp only [pageSensitive, listed, decide_true, Bool.and_eq_true] at sensitive
    obtain ⟨readsOnly, indexes⟩ := sensitive
    obtain ⟨effect, acts⟩ := (readsOnly_iff _).mp readsOnly
    have found := Mode.operand_of_isIndexed indexes instruction.operation.readsOnly registers bus
    simp only [owed, penalty, operand, acts, listed, if_true, indexes, Bool.true_and, found,
      Operand.indexed, toNat_not_samePage]
  · simp only [pageSensitive, listed, decide_false] at sensitive
    unfold owed penalty
    rw [if_neg listed]
    cases acts : instruction.operation.action with
    | read effect =>
        have readsOnly := (readsOnly_iff instruction.operation).mpr ⟨effect, acts⟩
        simp_all
    | branch condition =>
        have relative : instruction.mode = .relative := regular.branches (by simp [isBranch, acts])
        have crossed := crossed_relative instruction.operation.readsOnly registers bus
        simp only [operand, relative, crossed, toNat_not_samePage]
        split_ifs <;> rfl
    | modify effect => rfl
    | store request => rfl
    | inherent effect => rfl
    | control program => rfl

/-! ## The last access -/

theorem execute_schedule_getLast {instruction : Instruction} {opcode : UInt8}
    (regular : Regular opcode instruction) (accesses : instruction.accessesOperand = true)
    (registers : Registers) (bus : Bus) :
    ∃ cycle, ((instruction.execute registers).schedule bus).getLast? = some cycle ∧
      cycle.isAccess = true := by
  have operates := regular.operates accesses
  have inMemory : instruction.mode ≠ .implied ∧ instruction.mode ≠ .accumulator := by
    constructor <;> intro mode <;> simp [accessesOperand, mode] at accesses
  unfold execute
  unfold operatesOnMemory at operates
  simp only [schedule_bind, List.getLast?_append]
  cases acts : instruction.operation.action with
  | read effect => simp [readOperand_of_memory inMemory, BusCycle.isAccess]
  | modify effect => simp [modifyOperand, inMemory.2, BusCycle.isAccess]
  | store request => simp [BusCycle.isAccess]
  | branch condition => simp [acts] at operates
  | inherent effect => simp [acts] at operates
  | control program => simp [acts] at operates

end Instruction

namespace Machine

def pastOpcode (machine : Machine) : Registers :=
  { machine.cpu.registers with pc := machine.cpu.registers.pc + 1 }

def instructionRun (machine : Machine) (instruction : Instruction) : Outcome × Bus :=
  (instruction.execute machine.pastOpcode).run machine.afterFetch.bus

def work (machine : Machine) (instruction : Instruction) : List BusCycle :=
  .load machine.cpu.registers.pc .latch ::
    (instruction.execute machine.pastOpcode).schedule machine.afterFetch.bus

theorem replay_work (machine : Machine) (instruction : Instruction) :
    BusCycle.replay machine.bus (machine.work instruction) =
      (machine.instructionRun instruction).2 :=
  Microprogram.replay_schedule _ _

def crossingCycles (machine : Machine) (instruction : Instruction) : Nat :=
  let operand := instruction.operand machine.pastOpcode machine.afterFetch.bus
  (instruction.mode.isIndexed && instruction.operation.readsOnly && operand.crossed).toNat

theorem work_length (machine : Machine) (instruction : Instruction) :
    (machine.work instruction).length =
      instruction.shortestCycles + machine.crossingCycles instruction := by
  simp only [work, List.length_cons, Instruction.execute_schedule_length,
    Mode.resolve_schedule_length, Instruction.shortestCycles, crossingCycles, Instruction.operand]
  cases instruction.mode.isIndexed <;> cases instruction.operation.readsOnly <;> simp <;> omega

def penalty (machine : Machine) (instruction : Instruction) : Nat :=
  instruction.penalty machine.fetchedOpcode machine.pastOpcode machine.afterFetch.bus

theorem crossingCycles_le {machine : Machine} {instruction : Instruction}
    (regular : instruction.Regular machine.fetchedOpcode) :
    machine.crossingCycles instruction ≤ machine.penalty instruction := by
  rw [penalty, ← Instruction.owed_eq_penalty regular]
  unfold crossingCycles Instruction.owed Operation.readsOnly
  cases instruction.operation.action <;> simp

theorem crossingCycles_eq {machine : Machine} {instruction : Instruction}
    (regular : instruction.Regular machine.fetchedOpcode)
    (accesses : instruction.accessesOperand = true) :
    machine.crossingCycles instruction = machine.penalty instruction := by
  have operates := regular.operates accesses
  rw [penalty, ← Instruction.owed_eq_penalty regular]
  unfold Instruction.operatesOnMemory at operates
  unfold crossingCycles Instruction.owed Operation.readsOnly
  cases acts : instruction.operation.action <;> simp [acts] at operates ⊢

theorem work_length_le {machine : Machine} {instruction : Instruction}
    (regular : instruction.Regular machine.fetchedOpcode) :
    (machine.work instruction).length ≤ instruction.cycles + machine.penalty instruction := by
  rw [work_length]
  exact Nat.add_le_add regular.fits (crossingCycles_le regular)

theorem execute_bus {machine : Machine} {instruction : Instruction}
    (regular : instruction.Regular machine.fetchedOpcode) :
    (machine.afterFetch.execute instruction machine.bus.cycles).2.bus =
      (BusCycle.replay machine.bus (machine.work instruction)).tickMany
        (instruction.cycles + machine.penalty instruction -
          (machine.work instruction).length) := by
  have spent := BusCycle.replay_cycles machine.bus (machine.work instruction)
  have owed : (machine.instructionRun instruction).1.penalty = machine.penalty instruction :=
    (Instruction.execute_penalty instruction _ _).trans (Instruction.owed_eq_penalty regular _ _)
  change Bus.tickMany (machine.instructionRun instruction).2
    (machine.bus.cycles + instruction.cycles + (machine.instructionRun instruction).1.penalty -
      (machine.instructionRun instruction).2.cycles) = _
  rw [owed, ← replay_work, spent]
  congr 1
  omega

theorem execute_count {machine : Machine} {instruction : Instruction}
    (regular : instruction.Regular machine.fetchedOpcode) :
    (machine.afterFetch.execute instruction machine.bus.cycles).1 =
      instruction.cycles + machine.penalty instruction := by
  have fits := work_length_le regular
  change Bus.cycles (machine.afterFetch.execute instruction machine.bus.cycles).2.bus - _ = _
  rw [execute_bus regular, Bus.tickMany_cycles, BusCycle.replay_cycles]
  omega

theorem step_ok_cases {machine : Machine} {count : Nat} (free : machine.Uninterrupted)
    (ran : machine.step.1 = .ok count) :
    ∃ instruction, Instruction.decode machine.fetchedOpcode = some instruction ∧
      machine.step = (.ok (machine.afterFetch.execute instruction machine.bus.cycles).1,
        (machine.afterFetch.execute instruction machine.bus.cycles).2) := by
  rw [step_of_uninterrupted free] at ran ⊢
  cases peeked : Instruction.decode machine.peekedOpcode with
  | none => simp [peeked] at ran
  | some expected =>
      cases fetched : Instruction.decode machine.fetchedOpcode with
      | none => simp [peeked, fetched] at ran
      | some instruction => exact ⟨instruction, rfl, rfl⟩

/-- A step that runs an instruction takes the base count of the opcode it fetched and the penalty of
its operand, and no instruction needs more cycles than that. One that accesses a memory operand ends
with an access, and every cycle of its count is its own. -/
theorem step_timing (machine : Machine) (count : Nat) (free : machine.Uninterrupted)
    (ran : machine.step.1 = .ok count) :
    ∃ instruction, Instruction.decode machine.fetchedOpcode = some instruction ∧
      count = Instruction.baseCycles machine.fetchedOpcode + machine.penalty instruction ∧
      machine.step.2.bus.cycles = machine.bus.cycles + count ∧
      (machine.work instruction).length ≤ count ∧
      machine.step.2.bus = (BusCycle.replay machine.bus (machine.work instruction)).tickMany
        (count - (machine.work instruction).length) ∧
      (instruction.accessesOperand = true →
        (machine.work instruction).length = count ∧
        ∃ cycle, (machine.work instruction).getLast? = some cycle ∧ cycle.isAccess = true) := by
  obtain ⟨instruction, decoded, stepped⟩ := step_ok_cases free ran
  have regular := Instruction.regular_of_decode decoded
  have base : Instruction.baseCycles machine.fetchedOpcode = instruction.cycles := by
    simp only [Instruction.baseCycles, decoded]
  have counted : count = instruction.cycles + machine.penalty instruction := by
    rw [stepped, execute_count regular, Except.ok.injEq] at ran
    exact ran.symm
  have fits := work_length_le regular
  rw [← counted] at fits
  have moved : machine.step.2.bus =
      (BusCycle.replay machine.bus (machine.work instruction)).tickMany
        (count - (machine.work instruction).length) := by
    rw [stepped, execute_bus regular, counted]
  refine ⟨instruction, decoded, base ▸ counted, ?_, fits, moved, fun accesses => ⟨?_, ?_⟩⟩
  · rw [moved, Bus.tickMany_cycles, BusCycle.replay_cycles]
    omega
  · rw [counted, work_length, crossingCycles_eq regular accesses, regular.exact accesses]
  · obtain ⟨cycle, last, access⟩ := Instruction.execute_schedule_getLast regular accesses
      machine.pastOpcode machine.afterFetch.bus
    refine ⟨cycle, ?_, access⟩
    rw [work, List.getLast?_cons, last]
    rfl

/-- An indexed exclusive or that leaves its page, read byte by byte from an address that nothing
drives. -/
def acrossPage : Machine where
  cpu := { registers := { pc := 0x4018, x := 0xf0 } }
  bus := (Bus.new Cartridge.empty).setOpenBus 0x5d

theorem acrossPage_step_timing :
    acrossPage.step.1 = .ok 5 ∧ acrossPage.step.2.bus.cycles = acrossPage.bus.cycles + 5 := by
  have peeked : Instruction.decode acrossPage.peekedOpcode =
      some { operation := .eor, mode := .absoluteX, cycles := 4 } := by decide +kernel
  have fetched : Instruction.decode acrossPage.fetchedOpcode =
      some { operation := .eor, mode := .absoluteX, cycles := 4 } := by decide +kernel
  have penalty : acrossPage.penalty { operation := .eor, mode := .absoluteX, cycles := 4 } = 1 := by
    decide +kernel
  have ran : acrossPage.step.1 = .ok 5 := by
    rw [step_of_uninterrupted ⟨rfl, rfl⟩, peeked, fetched]
    simp only
    rw [execute_count (Instruction.regular_of_decode fetched), penalty]
  obtain ⟨instruction, decoded, counted, cycles, rest⟩ := step_timing acrossPage 5 ⟨rfl, rfl⟩ ran
  exact ⟨ran, cycles⟩

end Machine

end Famicom
