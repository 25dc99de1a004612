import Famicom.Proofs.Bus.Operation

namespace UInt8

theorem or_and_of_clear {filling mask : UInt8} (clear : filling &&& mask = 0) (driven : UInt8) :
    (driven ||| filling) &&& mask = driven &&& mask := by
  rw [← UInt8.toNat_inj] at clear ⊢
  simp only [UInt8.toNat_and, UInt8.toNat_or] at clear ⊢
  rw [Nat.and_or_distrib_right, clear]
  exact Nat.or_zero _

theorem fill_and {driven mask : UInt8} (clear : driven &&& mask = 0) (filling : UInt8) :
    (driven ||| (filling &&& mask)) &&& mask = filling &&& mask := by
  rw [UInt8.or_comm, or_and_of_clear clear, UInt8.and_assoc, UInt8.and_self]

end UInt8

namespace Famicom

attribute [local irreducible] Bus.tick

namespace Controllers

theorem peek_and_one (controllers : Controllers) (address : UInt16) :
    controllers.peek address &&& 1 = controllers.peek address := by
  have single (byte : UInt8) : byte &&& 1 &&& 1 = byte &&& 1 := by
    rw [UInt8.and_assoc, UInt8.and_self]
  unfold peek Controller.bit
  dsimp only
  split
  · exact single _
  · split
    · rfl
    · exact single _

theorem peek_and (controllers : Controllers) (address : UInt16) :
    controllers.peek address &&& 0xe0 = 0 := by
  rw [← peek_and_one, UInt8.and_assoc]
  exact UInt8.and_zero

end Controllers

namespace Bus

/-- No register, memory or board answers a read of the address. -/
def IsUndriven (bus : Bus) (address : UInt16) : Prop :=
  (0x4000 ≤ address ∧ address ≤ 0x4014) ∨ (0x4018 ≤ address ∧ address ≤ 0x5fff) ∨
    (0x6000 ≤ address ∧ address ≤ 0x7fff ∧ bus.cartridge.mapper.prgRamEnabled = false)

section Undriven

variable {bus : Bus} {address : UInt16}

theorem IsUndriven.congr {other : Bus} (same : other.cartridge = bus.cartridge)
    (undriven : bus.IsUndriven address) : other.IsUndriven address := by
  unfold IsUndriven
  rw [same]
  exact undriven

theorem IsUndriven.cases (undriven : bus.IsUndriven address) :
    ¬ address < 0x4000 ∧ address ≠ 0x4015 ∧ address ≠ 0x4016 ∧ address ≠ 0x4017 ∧
      (address < 0x4020 ∨ bus.cartridge.cpuRead address = none) := by
  unfold Cartridge.cpuRead
  rcases undriven with low | middle | ⟨start, stop, disabled⟩
  · grind
  · grind
  · have above : ¬ address < 0x6000 := UInt16.not_lt.mpr start
    have below : address < 0x8000 := by grind
    rw [if_neg above, if_pos below, disabled]
    grind

theorem access_of_isUndriven (undriven : bus.IsUndriven address) {rule : OpenBusRule}
    (held : rule = .addressHigh → address.highByte = bus.openBus) :
    bus.access address rule = (bus.openBus, bus) := by
  obtain ⟨high, status, first, second, answers⟩ := undriven.cases
  have notRam : ¬ address < 0x2000 := by grind
  have shown : bus.undriven address rule = bus.openBus := by
    cases rule with
    | latch => rfl
    | addressHigh => exact held rfl
  unfold access
  simp only [notRam, high, status, first, second, or_self, if_false]
  split
  · rfl
  · have silent := answers.resolve_left ‹_›
    rw [silent, Option.getD_none, shown]
    rfl

theorem access_latch_of_isUndriven (undriven : bus.IsUndriven address) :
    bus.access address .latch = (bus.openBus, bus) :=
  access_of_isUndriven undriven fun onAddress => absurd onAddress (by decide)

theorem peek_of_isUndriven (undriven : bus.IsUndriven address) :
    bus.peek address = bus.openBus := by
  rw [← access_fst, access_latch_of_isUndriven undriven]

theorem read_of_isUndriven (undriven : bus.IsUndriven address) :
    bus.read address = (bus.openBus, bus.tick) := by
  have passed := undriven.congr bus.tick_cartridge
  rw [read, readOperand, access_latch_of_isUndriven passed, tick_openBus]

end Undriven

theorem peek_soundStatus (bus : Bus) : bus.peek 0x4015 &&& 0x20 = bus.openBus &&& 0x20 := by
  have clear : (bus.apu.status &&& 0xdf) &&& 0x20 = 0 := by
    rw [UInt8.and_assoc]
    exact UInt8.and_zero
  exact UInt8.fill_and clear bus.openBus

theorem peek_controller (bus : Bus) {address : UInt16}
    (port : address = 0x4016 ∨ address = 0x4017) :
    bus.peek address &&& 0xe0 = bus.openBus &&& 0xe0 := by
  have filled := UInt8.fill_and (bus.controllers.peek_and address) bus.openBus
  rcases port with rfl | rfl
  · exact filled
  · exact filled

end Bus

/-! ## Transfers -/

namespace BusCycle

def transferred (bus : Bus) : BusCycle → Option UInt8
  | idle => none
  | load address rule => some (bus.readOperand address rule).1
  | store _ data => some data

def transfers (bus : Bus) : List BusCycle → List UInt8
  | [] => []
  | cycle :: rest => (cycle.transferred bus).toList ++ transfers (perform bus cycle) rest

theorem perform_openBus (bus : Bus) (cycle : BusCycle) :
    (perform bus cycle).openBus = (cycle.transferred bus).toList.getLastD bus.openBus := by
  cases cycle with
  | idle => exact bus.tick_openBus
  | load address rule => exact bus.tick.access_openBus address rule
  | store address data => exact bus.write_openBus address data

theorem getLastD_append (first second : List UInt8) (byte : UInt8) :
    (first ++ second).getLastD byte = second.getLastD (first.getLastD byte) := by
  simp only [List.getLastD_eq_getLast?, List.getLast?_append]
  cases second.getLast? <;> rfl

theorem replay_openBus (bus : Bus) (cycles : List BusCycle) :
    (replay bus cycles).openBus = (transfers bus cycles).getLastD bus.openBus := by
  induction cycles generalizing bus with
  | nil => rfl
  | cons cycle rest continues =>
      rw [transfers, getLastD_append, ← perform_openBus]
      exact continues (perform bus cycle)

end BusCycle

namespace BusOperation

def transfers (bus : Bus) : List BusOperation → List UInt8
  | [] => []
  | operation :: rest =>
      BusCycle.transfers bus (operation.busCycles bus) ++ transfers (operation.apply bus) rest

theorem apply_openBus (bus : Bus) (operation : BusOperation) :
    (apply bus operation).openBus =
      (BusCycle.transfers bus (operation.busCycles bus)).getLastD bus.openBus := by
  rw [← BusCycle.replay_openBus, apply_eq_finish]
  cases operation <;> rfl

theorem run_openBus (bus : Bus) (operations : List BusOperation) :
    (run bus operations).openBus = (transfers bus operations).getLastD bus.openBus := by
  induction operations generalizing bus with
  | nil => rfl
  | cons operation rest continues =>
      rw [transfers, BusCycle.getLastD_append, ← apply_openBus]
      exact continues (apply bus operation)

/-- After any operations on a fresh bus, and after any further cycles, the latch holds the byte last
transferred, or 0 before the first. That byte is what a peek and a read find wherever nothing
drives the bus, and it fills bit 5 of the sound status and bits 5 to 7 of the controllers. -/
theorem openBus_lastTransferred (cartridge : Cartridge) (stopRequested : Bool)
    (operations : List BusOperation) (cycles : List BusCycle) :
    let before := run (Bus.new cartridge stopRequested) operations
    let bus := BusCycle.replay before cycles
    let last := (transfers (Bus.new cartridge stopRequested) operations ++
      BusCycle.transfers before cycles).getLastD 0
    bus.openBus = last ∧
    (∀ address, bus.IsUndriven address →
      bus.peek address = last ∧ bus.read address = (last, bus.tick)) ∧
    (bus.read 0x4015).1 &&& 0x20 = last &&& 0x20 ∧
    (∀ address, address = 0x4016 ∨ address = 0x4017 →
      (bus.read address).1 &&& 0xe0 = last &&& 0xe0) := by
  intro before bus last
  have held : bus.openBus = last := by
    have reached := run_openBus (Bus.new cartridge stopRequested) operations
    have onward := BusCycle.replay_openBus before cycles
    rw [reached, ← BusCycle.getLastD_append] at onward
    exact onward
  rw [← held]
  refine ⟨rfl, fun address undriven => ?_, ?_, fun address port => ?_⟩
  · exact ⟨Bus.peek_of_isUndriven undriven, Bus.read_of_isUndriven undriven⟩
  · rw [Bus.read_fst, Bus.peek_soundStatus, Bus.tick_openBus]
  · rw [Bus.read_fst, Bus.peek_controller _ port, Bus.tick_openBus]

theorem openBus_written :
    let bus := run (Bus.new Cartridge.empty) [.write 0x10 0xa5, .tick]
    bus.openBus = 0xa5 ∧ bus.read 0x5000 = (0xa5, bus.tick) := by
  intro bus
  have law := openBus_lastTransferred Cartridge.empty false [.write 0x10 0xa5, .tick] []
  exact ⟨law.1, (law.2.1 0x5000 (.inr (.inl ⟨by decide, by decide⟩))).2⟩

end BusOperation

end Famicom
