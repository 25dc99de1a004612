import Famicom.Proofs.Bus.Operation
import Famicom.Proofs.Cpu.InterruptEntry

/-!
The page of memory that holds the stack. Pushed bytes lie below each other and wrap around within
the page; bus cycles that do not write there leave every byte of it as it was.
-/

namespace Famicom

attribute [local irreducible] Bus.tick

def Registers.stackAddress (cell : UInt8) : UInt16 := 0x100 + cell.toUInt16

namespace Bus

theorem write_ram_of_high (bus : Bus) {address : UInt16} (high : ¬ address < 0x2000)
    (data : UInt8) : (bus.write address data).ram = bus.ram := by
  simp only [write, deliver, high, if_false, setOpenBus, requestTransfer]
  split_ifs <;> simp

theorem read_stack (bus : Bus) (sp : UInt8) :
    (bus.read (Registers.stackAddress sp)).1 = bus.ram.read (Registers.stackCell sp) := by
  rw [read_fst, Registers.stackAddress, peek, if_pos (Registers.stack_lt sp), tick_ram]
  rfl

def push (bus : Bus) (sp : UInt8) : List UInt8 → Bus
  | [] => bus
  | byte :: rest => (bus.write (Registers.stackAddress sp) byte).push (sp - 1) rest

theorem tickMany_ram (bus : Bus) (count : Nat) : (bus.tickMany count).ram = bus.ram := by
  induction count generalizing bus with
  | zero => rfl
  | succ count continues => rw [tickMany_succ, continues, tick_ram]

end Bus

/-! ## Pushing -/

namespace Registers

theorem val_stackCell (cell : UInt8) : (stackCell cell).val = 0x100 + cell.toNat := by
  have bound := cell.toNat_lt
  simp only [stackCell, Bus.ramCell, val_residue, UInt16.toNat_add, UInt8.toNat_toUInt16]
  change (0x100 + cell.toNat) % 2 ^ 16 % 0x800 = _
  omega

theorem stackCell_inj {first second : UInt8} (same : stackCell first = stackCell second) :
    first = second := by
  have offsets := congrArg Fin.val same
  rw [val_stackCell, val_stackCell] at offsets
  exact UInt8.toNat_inj.mp (by omega)

def pushBytes (ram : Memory 0x800) (sp : UInt8) : List UInt8 → Memory 0x800
  | [] => ram
  | byte :: rest => pushBytes (ram.write (stackCell sp) byte) (sp - 1) rest

theorem pushed_ram (bus : Bus) (sp : UInt8) (bytes : List UInt8) :
    (bus.push sp bytes).ram = pushBytes bus.ram sp bytes := by
  induction bytes generalizing bus sp with
  | nil => rfl
  | cons byte rest continues =>
      rw [Bus.push, continues, stackAddress, Bus.write_ram _ (stack_lt sp)]
      rfl

theorem read_pushBytes (ram : Memory 0x800) (sp : UInt8) {bytes : List UInt8}
    (room : bytes.length ≤ 256) (cell : UInt8) :
    (pushBytes ram sp bytes).read (stackCell cell) =
      bytes[(sp - cell).toNat]?.getD (ram.read (stackCell cell)) := by
  induction bytes generalizing ram sp with
  | nil => rfl
  | cons byte rest continues =>
      rw [List.length_cons] at room
      rw [pushBytes, continues _ _ (by omega), Memory.read_write]
      have spBound := sp.toNat_lt
      have cellBound := cell.toNat_lt
      by_cases here : sp = cell
      · subst here
        have last : (sp - 1 - sp).toNat = 255 := by
          simp only [UInt8.toNat_sub, UInt8.reduceToNat]
          omega
        rw [last, List.getElem?_eq_none (by omega), if_pos rfl, UInt8.sub_self]
        rfl
      · have apart : sp.toNat ≠ cell.toNat := fun same => here (UInt8.toNat_inj.mp same)
        have below : (sp - cell).toNat = (sp - 1 - cell).toNat + 1 := by
          simp only [UInt8.toNat_sub, UInt8.reduceToNat]
          omega
        rw [below, List.getElem?_cons_succ, if_neg fun same => here (stackCell_inj same)]

end Registers

/-! ## Bus cycles that spare the stack -/

namespace BusCycle

def WritesStack : BusCycle → Prop
  | store address _ => address < 0x2000 ∧ address.toNat % 0x800 / 0x100 = 1
  | _ => False

instance : DecidablePred WritesStack
  | idle | load _ _ => inferInstanceAs (Decidable False)
  | store _ _ => inferInstanceAs (Decidable (_ ∧ _))

theorem perform_stack (bus : Bus) {cycle : BusCycle} (spares : ¬ cycle.WritesStack)
    (cell : UInt8) :
    (perform bus cycle).ram.read (Registers.stackCell cell) =
      bus.ram.read (Registers.stackCell cell) := by
  cases cycle with
  | idle => rw [perform, Bus.tick_ram]
  | load address rule => rw [perform, (bus.sameMemory_readOperand address rule).ram]
  | store address data =>
      by_cases low : address < 0x2000
      · rw [perform, Bus.write_ram _ low, Memory.read_write_of_ne]
        intro same
        have offset := congrArg Fin.val same
        have bound := cell.toNat_lt
        rw [Registers.val_stackCell, Bus.ramCell, val_residue] at offset
        exact spares ⟨low, by omega⟩
      · rw [perform, Bus.write_ram_of_high _ low]

theorem replay_stack (bus : Bus) {schedule : List BusCycle}
    (spares : ∀ cycle ∈ schedule, ¬ cycle.WritesStack) (cell : UInt8) :
    (replay bus schedule).ram.read (Registers.stackCell cell) =
      bus.ram.read (Registers.stackCell cell) := by
  induction schedule generalizing bus with
  | nil => rfl
  | cons cycle rest continues =>
      have later := continues (perform bus cycle) fun cycle listed =>
        spares cycle (List.mem_cons_of_mem _ listed)
      exact later.trans (perform_stack bus (spares cycle List.mem_cons_self) cell)

end BusCycle

theorem BusOperation.apply_ram (bus : Bus) (operation : BusOperation) :
    (apply bus operation).ram = (BusCycle.replay bus (operation.busCycles bus)).ram := by
  rw [apply_eq_finish]
  cases operation <;> rfl

end Famicom
