import Mathlib.Tactic.SplitIfs
import Famicom.Bus.Basic

/-!
What a read returns is what a peek shows once the cycle of the read has passed. Only two groups of
registers show a different byte after a cycle than before it.
-/

namespace Famicom.Bus

/-! ## Cycles -/

@[simp] theorem tick_ram (bus : Bus) : bus.tick.ram = bus.ram := by
  simp only [tick]

@[simp] theorem tick_cartridge (bus : Bus) : bus.tick.cartridge = bus.cartridge := by
  simp only [tick]

@[simp] theorem tick_controllers (bus : Bus) : bus.tick.controllers = bus.controllers := by
  simp only [tick]

@[simp] theorem tick_transfer (bus : Bus) : bus.tick.transfer = bus.transfer := by
  simp only [tick]

@[simp] theorem tick_openBus (bus : Bus) : bus.tick.openBus = bus.openBus := by
  simp only [tick, openBus]

@[simp] theorem tick_cycles (bus : Bus) : bus.tick.cycles = bus.cycles + 1 := by
  simp only [tick, cycles]

-- Unfolded, a cycle of the bus is three dots of the picture unit; its field equations say enough.
attribute [local irreducible] tick

@[simp] theorem access_cycles (bus : Bus) (address : UInt16) (rule : OpenBusRule) :
    (bus.access address rule).2.cycles = bus.cycles := by
  simp only [access, setOpenBus, cycles]
  split_ifs <;> rfl

@[simp] theorem readOperand_cycles (bus : Bus) (address : UInt16) (rule : OpenBusRule) :
    (bus.readOperand address rule).2.cycles = bus.cycles + 1 := by
  rw [readOperand, access_cycles, tick_cycles]

@[simp] theorem read_cycles (bus : Bus) (address : UInt16) :
    (bus.read address).2.cycles = bus.cycles + 1 :=
  readOperand_cycles bus address .latch

@[simp] theorem deliver_cycles (bus : Bus) (address : UInt16) (data : UInt8) :
    (bus.deliver address data).cycles = bus.cycles := by
  simp only [deliver, setOpenBus, requestTransfer, cycles]
  split_ifs <;> rfl

@[simp] theorem write_cycles (bus : Bus) (address : UInt16) (data : UInt8) :
    (bus.write address data).cycles = bus.cycles + 1 := by
  rw [write, deliver_cycles, tick_cycles]

theorem tickMany_succ (bus : Bus) (count : Nat) :
    bus.tickMany (count + 1) = bus.tick.tickMany count := rfl

@[simp] theorem tickMany_cycles (bus : Bus) (count : Nat) :
    (bus.tickMany count).cycles = bus.cycles + count := by
  induction count generalizing bus with
  | zero => rfl
  | succ count continues =>
      rw [tickMany_succ, continues, tick_cycles, Nat.add_assoc, Nat.add_comm 1]

/-! ## The board -/

theorem access_of_board (bus : Bus) {address : UInt16} (board : 0x4020 ≤ address)
    (rule : OpenBusRule) : bus.access address rule =
      ((bus.cartridge.cpuRead address).getD (bus.undriven address rule),
        bus.setOpenBus ((bus.cartridge.cpuRead address).getD (bus.undriven address rule))) := by
  have past := UInt16.past board
  simp only [access, past 0x2000 (by decide), past 0x4000 (by decide), past 0x4015 (by decide),
    past 0x4016 (by decide), past 0x4017 (by decide), UInt16.not_lt.mpr board, or_self, if_false]

theorem deliver_of_board (bus : Bus) {address : UInt16} (board : 0x4020 ≤ address)
    (data : UInt8) : bus.deliver address data =
      { bus.setOpenBus data with cartridge := bus.cartridge.cpuWrite address data } := by
  have past := UInt16.past board
  simp only [deliver, past 0x2000 (by decide), past 0x4000 (by decide), past 0x4014 (by decide),
    past 0x4016 (by decide), past 0x4018 (by decide), UInt16.not_lt.mpr board, if_false]
  rfl

/-! ## Reads and peeks -/

/-- Time alone changes what these registers show: those of the picture unit and the sound status. -/
def ChangesWithTime (address : UInt16) : Prop :=
  (0x2000 ≤ address ∧ address < 0x4000) ∨ address = 0x4015

theorem access_fst (bus : Bus) (address : UInt16) :
    (bus.access address .latch).1 = bus.peek address := by
  unfold access peek
  split_ifs
  · rfl
  · exact Ppu.read_fst bus.ppu bus.cartridge address
  · rfl
  · exact congrArg (· ||| _) (bus.controllers.read_fst address)
  · rfl
  · rfl

theorem peek_of_board (bus : Bus) {address : UInt16} (board : 0x4020 ≤ address) :
    bus.peek address = (bus.cartridge.cpuRead address).getD bus.openBus := by
  rw [← access_fst, access_of_board bus board]
  rfl

theorem read_fst (bus : Bus) (address : UInt16) : (bus.read address).1 = bus.tick.peek address :=
  access_fst bus.tick address

theorem peek_tick (bus : Bus) {address : UInt16} (steady : ¬ ChangesWithTime address) :
    bus.tick.peek address = bus.peek address := by
  unfold ChangesWithTime at steady
  unfold peek
  simp only [tick_ram, tick_cartridge, tick_controllers, tick_openBus]
  by_cases low : address < 0x2000
  · simp only [if_pos low]
  have high : ¬ address < 0x4000 := fun high =>
    steady (Or.inl ⟨UInt16.not_lt.mp low, high⟩)
  have notSound : address ≠ 0x4015 := fun sound => steady (Or.inr sound)
  simp only [if_neg low, if_neg high, if_neg notSound]

theorem read_fst_of_steady (bus : Bus) {address : UInt16} (steady : ¬ ChangesWithTime address) :
    (bus.read address).1 = bus.peek address :=
  (read_fst bus address).trans (peek_tick bus steady)

theorem access_openBus (bus : Bus) (address : UInt16) (rule : OpenBusRule) :
    (bus.access address rule).2.openBus = (bus.access address rule).1 := by
  unfold access
  dsimp only
  split_ifs <;> rfl

theorem read_openBus (bus : Bus) (address : UInt16) :
    (bus.read address).2.openBus = (bus.read address).1 :=
  access_openBus bus.tick address .latch

theorem deliver_openBus (bus : Bus) (address : UInt16) (data : UInt8) :
    (bus.deliver address data).openBus = data := by
  unfold deliver
  dsimp only
  split_ifs <;> rfl

theorem write_openBus (bus : Bus) (address : UInt16) (data : UInt8) :
    (bus.write address data).openBus = data :=
  deliver_openBus bus.tick address data

structure SameMemory (before after : Bus) : Prop where
  ram : after.ram = before.ram
  cartridge : after.cartridge = before.cartridge
  transfer : after.transfer = before.transfer

theorem sameMemory_readOperand (bus : Bus) (address : UInt16) (rule : OpenBusRule) :
    SameMemory bus (bus.readOperand address rule).2 := by
  constructor <;> simp only [readOperand, access, setOpenBus] <;> split_ifs <;> simp

theorem sameMemory_read (bus : Bus) (address : UInt16) : SameMemory bus (bus.read address).2 :=
  sameMemory_readOperand bus address .latch

end Famicom.Bus
