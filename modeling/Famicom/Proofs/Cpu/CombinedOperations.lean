import Famicom.Proofs.Cpu.InterruptEntry
import Famicom.Proofs.Cpu.Timing

namespace Famicom

attribute [local irreducible] Bus.tick

/-! ## Halves -/

def Operation.halves : Operation → Option (Operation × Operation)
  | slo => some (asl, ora)
  | rla => some (rol, and)
  | sre => some (lsr, eor)
  | rra => some (ror, adc)
  | dcp => some (dec, cmp)
  | isb => some (inc, sbc)
  | lax => some (lda, ldx)
  | _ => none

/-- The whole does to the registers what the second does after the first. The second meets the
registers that the first leaves, and the value that it writes if it writes one. -/
inductive Action.Joins : Action → Action → Action → Prop
  | written {whole first : Registers → UInt8 → UInt8 × Registers}
      {second : Registers → UInt8 → Registers}
      (agree : ∀ registers value, whole registers value =
        ((first registers value).1, second (first registers value).2 (first registers value).1)) :
      Joins (modify whole) (modify first) (read second)
  | unwritten {whole first second : Registers → UInt8 → Registers}
      (agree : ∀ registers value,
        whole registers value = second (first registers value) value) :
      Joins (read whole) (read first) (read second)

namespace Operation

theorem decrement_eq (value : UInt8) : value + 0xff = value - 1 := by
  rw [UInt8.sub_eq_add_neg]
  rfl

theorem joins_of_halves {whole first second : Operation}
    (halves : whole.halves = some (first, second)) :
    whole.action.Joins first.action second.action := by
  cases whole with
  | slo | rla | sre | rra | isb =>
      obtain ⟨rfl, rfl⟩ := Prod.mk.inj (Option.some.inj halves)
      exact .written fun registers value => rfl
  | dcp =>
      obtain ⟨rfl, rfl⟩ := Prod.mk.inj (Option.some.inj halves)
      refine .written fun registers value => ?_
      rw [decrement_eq]
      rfl
  | lax =>
      obtain ⟨rfl, rfl⟩ := Prod.mk.inj (Option.some.inj halves)
      exact .unwritten fun registers value => rfl
  | _ => cases halves

end Operation

/-! ## A cell that is read again -/

structure Bus.Shows (bus : Bus) (address : UInt16) (byte : UInt8) : Prop where
  cell : bus.ram.read (ramCell address) = byte
  latch : bus.openBus = byte

namespace Bus

variable {bus : Bus} {address : UInt16} (low : address < 0x2000)
include low

theorem shows_readOperand (rule : OpenBusRule) :
    (bus.readOperand address rule).2.Shows address (bus.readOperand address rule).1 := by
  simp only [readOperand, access, low, if_true]
  exact ⟨rfl, rfl⟩

theorem shows_write (data : UInt8) : (bus.write address data).Shows address data := by
  constructor
  · rw [write_ram bus low, Memory.read_write_self]
  · exact bus.write_openBus address data

theorem Shows.readOperand {byte : UInt8} (shown : bus.Shows address byte) (rule : OpenBusRule) :
    bus.readOperand address rule = (byte, bus.tick) := by
  have cell : bus.tick.ram.read (ramCell address) = byte := by
    rw [tick_ram, shown.cell]
  have latch : bus.tick.setOpenBus byte = bus.tick := by
    rw [← shown.latch, ← bus.tick_openBus]
    rfl
  simp only [Bus.readOperand, access, low, if_true, cell, latch]

end Bus

/-! ## Both halves in turn -/

namespace Operation

open Microprogram Instruction

def inTurn (first second : Operation) (mode : Mode) (operand : Operand) (registers : Registers) :
    Microprogram Outcome := do
  let outcome ← first.perform mode operand registers
  second.perform mode operand outcome.registers

section Memory

variable {mode : Mode} (inMemory : mode ≠ .implied ∧ mode ≠ .accumulator) (operand : Operand)
  (registers : Registers) (bus : Bus)
include inMemory

theorem run_inTurn_read {first second : Operation} {effect : Registers → UInt8 → Registers}
    (acts : second.action = .read effect) (low : operand.address < 0x2000) {byte : UInt8}
    (shown : ((first.perform mode operand registers).run bus).2.Shows operand.address byte) :
    let half := (first.perform mode operand registers).run bus
    let pair := (inTurn first second mode operand registers).run bus
    pair.1.registers = effect half.1.registers byte ∧ pair.2 = half.2.tick := by
  intro half pair
  have reread := run_perform_read inMemory operand half.1.registers half.2 acts
  rw [shown.readOperand low] at reread
  have turned : pair = (second.perform mode operand half.1.registers).run half.2 :=
    run_bind _ _ bus
  rw [turned]
  exact reread

/-- On any operand in the internal memory a combined operation leaves the registers and the memory
as its halves do in turn. The halves only take one cycle more, in which the second reads. -/
theorem combined_eq_halves {whole first second : Operation}
    (halves : whole.halves = some (first, second)) (low : operand.address < 0x2000) :
    let combined := (whole.perform mode operand registers).run bus
    let pair := (inTurn first second mode operand registers).run bus
    combined.1.registers = pair.1.registers ∧
    combined.2.ram = pair.2.ram ∧
    combined.2.tick = pair.2 := by
  intro combined pair
  have joins := joins_of_halves halves
  generalize acts : whole.action = action, actsFirst : first.action = actionFirst,
    actsSecond : second.action = actionSecond at joins
  suffices combined.1.registers = pair.1.registers ∧ combined.2.tick = pair.2 by
    refine ⟨this.1, ?_, this.2⟩
    rw [← this.2, Bus.tick_ram]
  -- The second half reads back what the first has written, or reads the same byte again.
  cases joins with
  | written agree =>
      obtain ⟨registersAfter, busAfter⟩ := run_perform_modify inMemory operand registers bus acts
      obtain ⟨registersBetween, busBetween⟩ :=
        run_perform_modify inMemory operand registers bus actsFirst
      obtain ⟨turned, reread⟩ := run_inTurn_read inMemory operand registers bus actsSecond low
        (busBetween ▸ Bus.shows_write low _)
      rw [agree] at registersAfter busAfter
      exact ⟨by rw [registersAfter, turned, registersBetween],
        by rw [busAfter, reread, busBetween]⟩
  | unwritten agree =>
      obtain ⟨registersAfter, busAfter⟩ := run_perform_read inMemory operand registers bus acts
      obtain ⟨registersBetween, busBetween⟩ :=
        run_perform_read inMemory operand registers bus actsFirst
      obtain ⟨turned, reread⟩ := run_inTurn_read inMemory operand registers bus actsSecond low
        (busBetween ▸ Bus.shows_readOperand low _)
      rw [agree] at registersAfter
      exact ⟨by rw [registersAfter, turned, registersBetween],
        by rw [busAfter, reread, busBetween]⟩

end Memory

/-- Decimal arithmetic on a mirrored cell: 25 is rotated to 92, and 19 + 92 + 1 makes 112. -/
theorem decimalRra_eq_halves :
    let operand : Operand := { address := 0x1234 }
    let registers : Registers := { a := 0x19, p := { decimal := true, carry := true } }
    let bus := (Bus.new Cartridge.empty).write 0x234 0x25
    let combined := (rra.perform .absolute operand registers).run bus
    let pair := (inTurn ror adc .absolute operand registers).run bus
    combined.1.registers.a = 0x12 ∧ combined.1.registers.p.carry = true ∧
      combined.2.ram.read (Bus.ramCell 0x234) = 0x92 ∧
      pair.1.registers = combined.1.registers ∧ pair.2.ram = combined.2.ram := by
  intro operand registers bus combined pair
  have law := @combined_eq_halves .absolute ⟨nofun, nofun⟩ operand registers bus rra ror adc rfl
    (by decide)
  exact ⟨by decide +kernel, by decide +kernel, by decide +kernel, law.1.symm, law.2.1.symm⟩

end Operation

end Famicom
