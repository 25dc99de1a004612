import Famicom.Proofs.Cpu.Step

namespace Famicom

attribute [local irreducible] Bus.tick

namespace Flags

variable (flags : Flags) (first second : UInt8)

theorem add_brk : (flags.add first second).2.brk = flags.brk := by
  unfold add
  split <;> rfl

theorem subtract_brk : (flags.subtract first second).2.brk = flags.brk := by
  unfold subtract
  split <;> rfl

end Flags

def Action.KeepsBrk : Action → Prop
  | .read effect => ∀ registers value, (effect registers value).p.brk = registers.p.brk
  | .modify effect => ∀ registers value, (effect registers value).2.p.brk = registers.p.brk
  | .store request => ∀ registers operand, (request registers operand).2.p.brk = registers.p.brk
  | .branch _ => True
  | .inherent effect => ∀ registers, (effect registers).p.brk = registers.p.brk
  | .control program => ∀ registers operand bus, registers.p.brk = false →
      ((program registers operand).run bus).1.p.brk = false

theorem Operation.keepsBrk (operation : Operation) : operation.action.KeepsBrk := by
  cases operation with
  | adc => exact fun registers value => registers.p.add_brk registers.a value
  | sbc => exact fun registers value => registers.p.subtract_brk registers.a value
  | isb => exact fun registers value => registers.p.subtract_brk registers.a (value + 1)
  | rra => exact fun registers value => Flags.add_brk _ _ _
  | bcc | bcs | beq | bmi | bne | bpl | bvc | bvs => exact trivial
  | plp | rti => exact fun registers operand bus clear => rfl
  | brk | jmp | jsr | pha | php | pla | rts => exact fun registers operand bus clear => clear
  | _ =>
      first
        | exact fun registers => rfl
        | exact fun registers value => rfl

namespace Instruction

open Microprogram

theorem modifyOperand_brk {effect : Registers → UInt8 → UInt8 × Registers}
    (keeps : Action.KeepsBrk (.modify effect)) (mode : Mode) (operand : Operand)
    (registers : Registers) (bus : Bus) :
    ((modifyOperand mode operand registers effect).run bus).1.p.brk = registers.p.brk := by
  unfold modifyOperand
  split
  · exact keeps registers registers.a
  · exact keeps registers _

theorem takeBranch_flags (taken : Bool) (operand : Operand) (registers : Registers) :
    (takeBranch taken operand registers).registers.p = registers.p := by
  unfold takeBranch
  split <;> rfl

theorem execute_brk (instruction : Instruction) {registers : Registers}
    (clear : registers.p.brk = false) (bus : Bus) :
    ((instruction.execute registers).run bus).1.registers.p.brk = false := by
  have keeps := instruction.operation.keepsBrk
  have flags := resolve_flags instruction.mode instruction.operation.readsOnly registers bus
  unfold execute
  simp only [run_bind]
  generalize (instruction.mode.resolve instruction.operation.readsOnly registers).run bus =
    resolved at flags
  rw [← flags] at clear
  cases acts : instruction.operation.action with
  | read effect =>
      rw [acts] at keeps
      simp only [run_bind, run_pure]
      exact (keeps _ _).trans clear
  | modify effect =>
      rw [acts] at keeps
      simp only [run_bind, run_pure]
      exact (modifyOperand_brk keeps _ _ _ _).trans clear
  | store request =>
      rw [acts] at keeps
      simp only [run_bind, run_pure]
      exact (keeps _ _).trans clear
  | branch condition =>
      simp only [run_pure, takeBranch_flags]
      exact clear
  | inherent effect =>
      rw [acts] at keeps
      exact (keeps _).trans clear
  | control program =>
      rw [acts] at keeps
      simp only [run_bind, run_pure]
      exact keeps _ _ _ clear

end Instruction

namespace Machine

theorem step_brk {machine : Machine} (clear : machine.cpu.registers.p.brk = false) :
    machine.step.2.cpu.registers.p.brk = false := by
  cases nmi : machine.cpu.nmiPending with
  | true =>
      rw [step_of_nmiPending nmi]
      exact clear
  | false =>
      cases irq : machine.cpu.irqPending with
      | true =>
          rw [step_of_irqPending nmi irq]
          exact clear
      | false =>
          rw [step_of_uninterrupted ⟨nmi, irq⟩]
          cases Instruction.decode machine.peekedOpcode with
          | none => exact clear
          | some expected =>
              cases Instruction.decode machine.fetchedOpcode with
              | none => exact clear
              | some instruction =>
                  have past : machine.pastOpcode.p.brk = false := clear
                  exact instruction.execute_brk past machine.afterFetch.bus

end Machine

end Famicom
