import Famicom.Proofs.Bus.OpenBus

/-!
Operands at addresses that nothing drives. The last byte that a mode fetches before the operand is
the high byte of a base address; neither the cycle of an index nor the place of the code comes in
between, so that byte is the operand. Main statement: `undrivenOperand_is_baseHigh`.
-/

theorem UInt16.highByte_ofBytes (low high : UInt8) : (ofBytes low high).highByte = high := by
  have bound := low.toNat_lt
  have above := high.toNat_lt
  rw [← UInt8.toNat_inj, highByte, UInt16.toNat_toUInt8, UInt16.toNat_shiftRight, toNat_ofBytes]
  change (high.toNat * 0x100 + low.toNat) >>> 8 % 2 ^ 8 = high.toNat
  rw [Nat.shiftRight_eq_div_pow]
  omega

namespace Famicom

attribute [local irreducible] Bus.tick

namespace Bus

theorem wordAt_openBus (bus : Bus) (low high : UInt16) :
    ((bus.read low).2.read high).2.openBus = (bus.wordAt low high).highByte := by
  rw [read_openBus, wordAt, UInt16.highByte_ofBytes]

end Bus

def Operation.readsOperand (operation : Operation) : Bool :=
  match operation.action with
  | .read _ | .modify _ => true
  | .store _ | .branch _ | .inherent _ | .control _ => false

theorem Operand.settle_openBus (operand : Operand) (readsOnly : Bool) (bus : Bus) :
    ((operand.settle readsOnly).run bus).2.openBus = bus.openBus := by
  unfold settle
  split
  · rfl
  · exact bus.tick_openBus

theorem Operand.settle_cartridge (operand : Operand) (readsOnly : Bool) (bus : Bus) :
    ((operand.settle readsOnly).run bus).2.cartridge = bus.cartridge := by
  unfold settle
  split
  · rfl
  · exact bus.tick_cartridge

namespace Mode

open Microprogram

def fetchesBase : Mode → Bool
  | absolute | absoluteX | absoluteY | indexedIndirect | indirectIndexed => true
  | _ => false

def fetchedBase (mode : Mode) (registers : Registers) (bus : Bus) : UInt16 :=
  match mode with
  | indexedIndirect =>
      let (location, bus) := bus.read registers.pc
      let pointer := location + registers.x
      bus.tick.wordAt pointer.toUInt16 (pointer + 1).toUInt16
  | _ => mode.indexBase registers bus

def offset (mode : Mode) (registers : Registers) : UInt16 :=
  if mode.isIndexed then (mode.index registers).toUInt16 else 0

theorem offset_absolute {mode : Mode} {registers : Registers} (absolute : mode = .absolute) :
    mode.offset registers = 0 := by
  rw [absolute]
  rfl

theorem absolute_of_addressHigh {mode : Mode} (plain : mode.openBusRule = .addressHigh) :
    mode = .absolute := by
  cases mode <;> first | rfl | cases plain

def found (mode : Mode) (readsOnly : Bool) (registers : Registers) (bus : Bus) : Bus :=
  ((mode.resolve readsOnly registers).run bus).2

variable {mode : Mode} (readsOnly : Bool) (registers : Registers) (bus : Bus)

theorem found_cartridge : (mode.found readsOnly registers bus).cartridge = bus.cartridge := by
  have answers (bus : Bus) (address : UInt16) :
      (bus.readOperand address .latch).2.cartridge = bus.cartridge :=
    (bus.sameMemory_read address).cartridge
  cases mode <;> simp [found, resolve, run_bind, Operand.settle_cartridge, Bus.read, answers]

variable (fetches : mode.fetchesBase = true)
include fetches

theorem inMemory : mode ≠ .implied ∧ mode ≠ .accumulator := by
  constructor <;> rintro rfl <;> cases fetches

theorem operand_address :
    (mode.operand readsOnly registers bus).address =
      mode.fetchedBase registers bus + mode.offset registers := by
  cases mode with
  | absoluteX | absoluteY | indirectIndexed => rw [operand_of_isIndexed rfl]; rfl
  | absolute | indexedIndirect => exact (UInt16.add_zero _).symm
  | _ => cases fetches

theorem found_openBus :
    (mode.found readsOnly registers bus).openBus =
      (mode.fetchedBase registers bus).highByte := by
  cases mode with
  | absolute => exact bus.wordAt_openBus _ _
  | indexedIndirect => exact (bus.read registers.pc).2.tick.wordAt_openBus _ _
  | absoluteX | absoluteY =>
      simp only [found, resolve, run_bind, run_pure, Operand.settle_openBus]
      exact bus.wordAt_openBus _ _
  | indirectIndexed =>
      simp only [found, resolve, run_bind, run_pure, Operand.settle_openBus]
      exact (bus.read registers.pc).2.wordAt_openBus _ _
  | _ => cases fetches

theorem readOperand_found
    (undriven : bus.IsUndriven (mode.operand readsOnly registers bus).address)
    {rule : OpenBusRule} (plain : rule = .addressHigh → mode = .absolute) :
    (mode.found readsOnly registers bus).readOperand (mode.operand readsOnly registers bus).address
        rule =
      ((mode.fetchedBase registers bus).highByte, (mode.found readsOnly registers bus).tick) := by
  have held := found_openBus readsOnly registers bus fetches
  have address := operand_address readsOnly registers bus fetches
  have still : (mode.found readsOnly registers bus).tick.IsUndriven
      (mode.operand readsOnly registers bus).address := by
    refine undriven.congr ?_
    rw [Bus.tick_cartridge, found_cartridge]
  have agrees (onAddress : rule = .addressHigh) :
      (mode.operand readsOnly registers bus).address.highByte =
        (mode.found readsOnly registers bus).tick.openBus := by
    rw [address, offset_absolute (plain onAddress), UInt16.add_zero, Bus.tick_openBus, held]
  rw [Bus.readOperand, Bus.access_of_isUndriven still agrees, Bus.tick_openBus, held]

end Mode

namespace Operation

open Instruction Microprogram

theorem perform_schedule {operation : Operation} (reads : operation.readsOperand = true)
    {mode : Mode} (fetches : mode.fetchesBase = true) (operand : Operand) (registers : Registers)
    (bus : Bus) :
    ∃ rest, (operation.perform mode operand registers).schedule bus =
      .load operand.address mode.openBusRule :: rest := by
  have inMemory := Mode.inMemory fetches
  unfold readsOperand at reads
  unfold perform
  cases acts : operation.action with
  | read effect =>
      simp only [readOperand_of_memory inMemory]
      exact ⟨_, rfl⟩
  | modify effect =>
      simp only [modifyOperand, if_neg inMemory.2]
      exact ⟨_, rfl⟩
  | _ => simp [acts] at reads

end Operation

namespace Instruction

open Microprogram

/-- Where nothing drives the operand of an absolute, absolute indexed or indirect instruction, the
first byte that is read for it is the high byte of the base that was fetched, and the latch holds it
afterwards: to the end of an instruction that only reads. It would be the same in an absolute
instruction if the latch decided. -/
theorem undrivenOperand_is_baseHigh (instruction : Instruction) (registers : Registers) (bus : Bus)
    (fetches : instruction.mode.fetchesBase = true)
    (reads : instruction.operation.readsOperand = true)
    (undriven : bus.IsUndriven (instruction.operand registers bus).address) :
    let mode := instruction.mode
    let operand := instruction.operand registers bus
    let base := mode.fetchedBase registers bus
    let fetching := (mode.resolve instruction.operation.readsOnly registers).schedule bus
    let ready := BusCycle.replay bus fetching
    operand.address = base + mode.offset registers ∧
    (∃ rest, (instruction.execute registers).schedule bus =
      fetching ++ .load operand.address mode.openBusRule :: rest) ∧
    ready.readOperand operand.address mode.openBusRule = (base.highByte, ready.tick) ∧
    ready.tick.openBus = base.highByte ∧
    (instruction.operation.readsOnly = true →
      ((instruction.execute registers).run bus).2.openBus = base.highByte) ∧
    (mode = .absolute → ready.readOperand operand.address .addressHigh =
      ready.readOperand operand.address .latch) := by
  intro mode operand base fetching ready
  have replayed : ready = mode.found instruction.operation.readsOnly registers bus :=
    replay_schedule _ bus
  -- The last byte fetched is the high byte of the base, so the latch and the address agree on it.
  have read {rule : OpenBusRule} (plain : rule = .addressHigh → mode = .absolute) :
      ready.readOperand operand.address rule = (base.highByte, ready.tick) := by
    rw [replayed]
    exact Mode.readOperand_found _ registers bus fetches undriven plain
  have first : ready.readOperand operand.address mode.openBusRule = (base.highByte, ready.tick) :=
    read Mode.absolute_of_addressHigh
  have held : ready.tick.openBus = base.highByte := by
    rw [Bus.tick_openBus, replayed]
    exact Mode.found_openBus _ registers bus fetches
  refine ⟨Mode.operand_address _ registers bus fetches, ?_, first, held, fun readsOnly => ?_,
    fun absolute => ?_⟩
  · obtain ⟨rest, performed⟩ := Operation.perform_schedule reads fetches operand
      ((mode.resolve instruction.operation.readsOnly registers).run bus).1.2
      (mode.found instruction.operation.readsOnly registers bus)
    refine ⟨rest, ?_⟩
    rw [execute_eq_bind, schedule_bind]
    exact congrArg (fetching ++ ·) performed
  · rw [execute_eq_bind, run_bind]
    obtain ⟨effect, acts⟩ := (readsOnly_iff _).mp readsOnly
    refine (congrArg Bus.openBus
      (run_perform_read (Mode.inMemory fetches) operand _ _ acts).2).trans ?_
    change (Bus.readOperand (mode.found _ registers bus) _ _).2.openBus = _
    rw [← replayed, first]
    exact held
  · have latched : ready.readOperand operand.address .latch = (base.highByte, ready.tick) :=
      read fun onAddress => absurd onAddress (by decide)
    rw [read fun _ => absolute, latched]

end Instruction

/-- The exclusive or of `acrossPage` reads 0x5e4d, but its operand word is 0x5d5d. -/
theorem Machine.acrossPage_operand :
    let instruction : Instruction := { operation := .eor, mode := .absoluteX, cycles := 4 }
    let registers := acrossPage.pastOpcode
    let bus := acrossPage.afterFetch.bus
    (instruction.operand registers bus).address = 0x5e4d ∧
      ((instruction.execute registers).run bus).2.openBus = 0x5d := by
  intro instruction registers bus
  have address : (instruction.operand registers bus).address = 0x5e4d := by decide +kernel
  have base : instruction.mode.fetchedBase registers bus = 0x5d5d := by decide +kernel
  have undriven : bus.IsUndriven (instruction.operand registers bus).address := by
    rw [address]
    exact .inr (.inl ⟨by decide, by decide⟩)
  have law := instruction.undrivenOperand_is_baseHigh registers bus rfl rfl undriven
  refine ⟨address, ?_⟩
  rw [law.2.2.2.2.1 rfl, base]
  rfl

end Famicom
