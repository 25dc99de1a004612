import Famicom.Proofs.Bus.OpenBus
import Famicom.Proofs.Cartridge.Translation
import Famicom.Proofs.Cpu.StackPage

namespace Famicom

attribute [local irreducible] Bus.tick

/-! ## Deliveries -/

structure Delivery where
  address : UInt16
  data : UInt8
  enabled : Bool
  deriving DecidableEq

namespace Delivery

def hitsRam (address : UInt16) (delivery : Delivery) : Bool :=
  decide (delivery.address < 0x2000) &&
    decide (delivery.address.toNat % 0x800 = address.toNat % 0x800)

def hitsWorkRam (address : UInt16) (delivery : Delivery) : Bool :=
  delivery.enabled && decide (delivery.address = address)

def lastByte (hits : Delivery → Bool) (deliveries : List Delivery) (before : UInt8) : UInt8 :=
  ((deliveries.filter hits).map Delivery.data).getLastD before

variable {hits : Delivery → Bool}

theorem lastByte_append (first second : List Delivery) (before : UInt8) :
    lastByte hits (first ++ second) before = lastByte hits second (lastByte hits first before) := by
  rw [lastByte, List.filter_append, List.map_append, BusCycle.getLastD_append]
  rfl

theorem lastByte_singleton (delivery : Delivery) (before : UInt8) :
    lastByte hits [delivery] before = if hits delivery then delivery.data else before := by
  simp only [lastByte, List.filter_cons, List.filter_nil]
  cases hits delivery <;> rfl

theorem lastByte_of_missed {deliveries : List Delivery}
    (missed : ∀ delivery ∈ deliveries, hits delivery = false) (before : UInt8) :
    lastByte hits deliveries before = before := by
  have none : deliveries.filter hits = [] := by
    rw [List.filter_eq_nil_iff]
    intro delivery listed
    rw [missed delivery listed]
    decide
  rw [lastByte, none]
  rfl

end Delivery

namespace BusCycle

def delivery? (bus : Bus) : BusCycle → Option Delivery
  | store address data => some ⟨address, data, bus.cartridge.mapper.prgRamEnabled⟩
  | idle | load _ _ => none

def deliveries (bus : Bus) : List BusCycle → List Delivery
  | [] => []
  | cycle :: rest => (cycle.delivery? bus).toList ++ deliveries (perform bus cycle) rest

end BusCycle

namespace BusOperation

def deliveries (bus : Bus) : List BusOperation → List Delivery
  | [] => []
  | operation :: rest =>
      BusCycle.deliveries bus (operation.busCycles bus) ++ deliveries (operation.apply bus) rest

end BusOperation

/-! ## Bytes that deliveries alone change -/

/-- A byte of the bus that a cycle changes only by delivering another in its place, and that no
operation changes once its cycles are over. -/
structure Remembers (byte : Bus → UInt8) (hits : Delivery → Bool) : Prop where
  perform : ∀ bus cycle, byte (BusCycle.perform bus cycle) =
    Delivery.lastByte hits (cycle.delivery? bus).toList (byte bus)
  finish : ∀ bus (operation : BusOperation), byte (operation.finish bus) = byte bus

namespace Remembers

open Delivery

variable {byte : Bus → UInt8} {hits : Delivery → Bool}

theorem replay (remembers : Remembers byte hits) (bus : Bus) (cycles : List BusCycle) :
    byte (BusCycle.replay bus cycles) =
      lastByte hits (BusCycle.deliveries bus cycles) (byte bus) := by
  induction cycles generalizing bus with
  | nil => rfl
  | cons cycle rest continues =>
      rw [BusCycle.deliveries, lastByte_append, ← remembers.perform]
      exact continues (BusCycle.perform bus cycle)

theorem apply (remembers : Remembers byte hits) (bus : Bus) (operation : BusOperation) :
    byte (operation.apply bus) =
      lastByte hits (BusCycle.deliveries bus (operation.busCycles bus)) (byte bus) := by
  rw [BusOperation.apply_eq_finish, remembers.finish, remembers.replay]

theorem run (remembers : Remembers byte hits) (bus : Bus) (operations : List BusOperation) :
    byte (BusOperation.run bus operations) =
      lastByte hits (BusOperation.deliveries bus operations) (byte bus) := by
  induction operations generalizing bus with
  | nil => rfl
  | cons operation rest continues =>
      rw [BusOperation.deliveries, lastByte_append, ← remembers.apply]
      exact continues (operation.apply bus)

end Remembers

/-! ## The two memories -/

theorem Ppu.write_prgRam (ppu : Ppu) (cartridge : Cartridge) (address : UInt16) (data : UInt8) :
    (ppu.write cartridge address data).2.prgRam = cartridge.prgRam := by
  unfold write writeVram Cartridge.chrWrite
  dsimp only
  split
  case h_7 => split_ifs <;> rfl
  all_goals rfl

namespace Cartridge

def InWorkRam (address : UInt16) : Prop := 0x6000 ≤ address ∧ address < 0x8000

instance (address : UInt16) : Decidable (InWorkRam address) := inferInstanceAs (Decidable (_ ∧ _))

def workRamByte (cartridge : Cartridge) (address : UInt16) : UInt8 :=
  cartridge.prgRam.read (workRamCell address)

theorem workRamCell_inj {first second : UInt16} (firstInside : InWorkRam first)
    (secondInside : InWorkRam second) (same : workRamCell first = workRamCell second) :
    first = second := by
  have offsets := congrArg Fin.val same
  simp only [InWorkRam, UInt16.le_iff_toNat_le, UInt16.lt_iff_toNat_lt, UInt16.reduceToNat,
    workRamCell, val_residue] at firstInside secondInside offsets
  exact UInt16.toNat_inj.mp (by omega)

theorem cpuWrite_prgRam (cartridge : Cartridge) (address : UInt16) (data : UInt8) :
    (cartridge.cpuWrite address data).prgRam =
      if cartridge.mapper.prgRamEnabled = true ∧ InWorkRam address then
        cartridge.prgRam.write (workRamCell address) data
      else cartridge.prgRam := by
  unfold cpuWrite
  by_cases low : address < 0x6000
  · rw [if_pos low, if_neg fun both => UInt16.not_le.mpr low both.2.1]
  by_cases inside : address < 0x8000
  · have placed : InWorkRam address := ⟨UInt16.not_lt.mp low, inside⟩
    simp only [low, inside, placed, and_true, if_true, if_false]
    split <;> rfl
  · rw [if_neg low, if_neg inside, if_neg fun both => inside both.2.2]

end Cartridge

namespace Bus

theorem peek_of_ram (bus : Bus) {address : UInt16} (low : address < 0x2000) :
    bus.peek address = bus.ram.read (ramCell address) := by
  simp only [peek, low, if_true]

theorem peek_of_workRam (bus : Bus) {address : UInt16} (inside : Cartridge.InWorkRam address)
    (enabled : bus.cartridge.mapper.prgRamEnabled = true) :
    bus.peek address = bus.cartridge.workRamByte address := by
  rw [peek_of_board bus (UInt16.le_trans (by decide) inside.1),
    bus.cartridge.cpuRead_of_workRam inside.1 inside.2 enabled]
  rfl

theorem exists_ramCell (cell : Fin 0x800) :
    ∃ address < (0x2000 : UInt16), ramCell address = cell := by
  have bound := cell.isLt
  have number : (UInt16.ofNat cell.val).toNat = cell.val := by
    rw [UInt16.toNat_ofNat']
    omega
  refine ⟨UInt16.ofNat cell.val, ?_, ?_⟩
  · rw [UInt16.lt_iff_toNat_lt, number]
    change cell.val < 0x2000
    omega
  · apply Fin.ext
    rw [ramCell, val_residue, number]
    omega

theorem exists_workRamCell (cell : Fin 0x2000) :
    ∃ address, Cartridge.InWorkRam address ∧ Cartridge.workRamCell address = cell := by
  have bound := cell.isLt
  have number : (UInt16.ofNat (0x6000 + cell.val)).toNat = 0x6000 + cell.val := by
    rw [UInt16.toNat_ofNat']
    omega
  refine ⟨UInt16.ofNat (0x6000 + cell.val), ?_, ?_⟩
  · simp only [Cartridge.InWorkRam, UInt16.le_iff_toNat_le, UInt16.lt_iff_toNat_lt,
      UInt16.reduceToNat, number]
    omega
  · apply Fin.ext
    rw [Cartridge.workRamCell, val_residue, number]
    omega

theorem write_workRam (bus : Bus) (address : UInt16) (data : UInt8) :
    (bus.write address data).cartridge.prgRam =
      if bus.cartridge.mapper.prgRamEnabled = true ∧ Cartridge.InWorkRam address then
        bus.cartridge.prgRam.write (Cartridge.workRamCell address) data
      else bus.cartridge.prgRam := by
  by_cases internal : address < 0x4020
  · -- Below $4020 only the picture unit reaches the cartridge, and it writes pattern bytes alone.
    have outside : ¬ Cartridge.InWorkRam address := fun inside =>
      absurd internal (UInt16.past inside.1 0x4020 (by decide)).1
    rw [if_neg fun both => outside both.2]
    simp only [write, deliver, setOpenBus, requestTransfer, internal, if_true]
    split_ifs <;> simp only [Ppu.write_prgRam, tick_cartridge]
  · rw [write, deliver_of_board bus.tick (UInt16.not_lt.mp internal), tick_cartridge]
    exact Cartridge.cpuWrite_prgRam _ address data

end Bus

open Delivery

theorem remembers_ram (address : UInt16) :
    Remembers (fun bus => bus.ram.read (Bus.ramCell address)) (hitsRam address) where
  finish bus operation := by cases operation <;> rfl
  perform bus cycle := by
    cases cycle with
    | idle => exact congrArg (Memory.read · _) bus.tick_ram
    | load other rule =>
        exact congrArg (Memory.read · _) (bus.sameMemory_readOperand other rule).ram
    | store other data =>
        change (bus.write other data).ram.read _ = lastByte _ [_] _
        rw [lastByte_singleton]
        by_cases low : other < 0x2000
        · rw [Bus.write_ram _ low, Memory.read_write]
          simp only [hitsRam, low, Bus.ramCell, Fin.ext_iff, val_residue, decide_true,
            Bool.true_and, decide_eq_true_eq]
        · rw [Bus.write_ram_of_high _ low]
          simp only [hitsRam, low, decide_false, Bool.false_and, Bool.false_eq_true, if_false]

theorem remembers_workRam {address : UInt16} (inside : Cartridge.InWorkRam address) :
    Remembers (fun bus => bus.cartridge.workRamByte address) (hitsWorkRam address) where
  finish bus operation := by cases operation <;> rfl
  perform bus cycle := by
    cases cycle with
    | idle => exact congrArg (Cartridge.workRamByte · address) bus.tick_cartridge
    | load other rule =>
        exact congrArg (Cartridge.workRamByte · address)
          (bus.sameMemory_readOperand other rule).cartridge
    | store other data =>
        change (bus.write other data).cartridge.prgRam.read _ = lastByte _ [_] _
        rw [lastByte_singleton, Bus.write_workRam]
        by_cases same : other = address
        · subst same
          simp only [hitsWorkRam, inside, and_true, decide_true, Bool.and_true]
          split
          · exact Memory.read_write_self _ _ _
          · rfl
        · -- Work RAM has no mirrors: another address inside it is another cell.
          simp only [hitsWorkRam, same, decide_false, Bool.and_false, Bool.false_eq_true, if_false]
          split
          · rename_i both
            exact Memory.read_write_of_ne _ _ fun cells =>
              same (Cartridge.workRamCell_inj both.2 inside cells)
          · rfl

/-! ## Runs -/

/-- A cartridge as it is first put on a bus: the built-in one, or one that an image describes. -/
def Cartridge.IsBuilt (cartridge : Cartridge) : Prop :=
  cartridge = .empty ∨ ∃ image, Cartridge.load image = .ok cartridge

theorem Cartridge.IsBuilt.workRam {cartridge : Cartridge} (built : cartridge.IsBuilt) :
    cartridge.prgRam = Memory.fill 0x2000 0 := by
  rcases built with rfl | ⟨image, loaded⟩
  · rfl
  · obtain ⟨header, mapper, fits, -, -, rfl⟩ := load_ok loaded
    rfl

namespace BusOperation

theorem apply_ram_of_missed (bus : Bus) (operation : BusOperation)
    (missed : ∀ delivery ∈ BusCycle.deliveries bus (operation.busCycles bus),
      ¬ delivery.address < 0x2000) : (operation.apply bus).ram = bus.ram := by
  apply Memory.ext_read
  intro cell
  obtain ⟨address, -, rfl⟩ := Bus.exists_ramCell cell
  refine ((remembers_ram address).apply bus operation).trans (lastByte_of_missed ?_ _)
  intro delivery listed
  simp only [hitsRam, missed delivery listed, decide_false, Bool.false_and]

theorem apply_workRam_of_missed (bus : Bus) (operation : BusOperation)
    (missed : ∀ delivery ∈ BusCycle.deliveries bus (operation.busCycles bus),
      delivery.enabled = true → ¬ Cartridge.InWorkRam delivery.address) :
    (operation.apply bus).cartridge.prgRam = bus.cartridge.prgRam := by
  apply Memory.ext_read
  intro cell
  obtain ⟨address, inside, rfl⟩ := Bus.exists_workRamCell cell
  refine ((remembers_workRam inside).apply bus operation).trans (lastByte_of_missed ?_ _)
  intro delivery listed
  unfold hitsWorkRam
  cases enabled : delivery.enabled with
  | false => rfl
  | true =>
      have elsewhere : delivery.address ≠ address := fun same =>
        missed delivery listed enabled (same ▸ inside)
      simp only [elsewhere, decide_false, Bool.and_false]

/-- After any operations on a fresh bus, and after any further cycles, a peek below $2000 shows the
byte last written to that place of internal RAM, and one of work RAM that is enabled the byte last
written there while it was enabled. Disabled work RAM keeps its bytes, and an operation that writes
to neither memory changes neither. -/
theorem memory_lastWritten (cartridge : Cartridge) (stopRequested : Bool)
    (operations : List BusOperation) (cycles : List BusCycle) :
    let before := run (Bus.new cartridge stopRequested) operations
    let bus := BusCycle.replay before cycles
    let delivered := deliveries (Bus.new cartridge stopRequested) operations ++
      BusCycle.deliveries before cycles
    (∀ address < 0x2000, bus.peek address = lastByte (hitsRam address) delivered 0) ∧
    (∀ address, Cartridge.InWorkRam address →
      let last := lastByte (hitsWorkRam address) delivered (cartridge.workRamByte address)
      bus.cartridge.workRamByte address = last ∧
        (bus.cartridge.mapper.prgRamEnabled = true → bus.peek address = last)) ∧
    (cartridge.IsBuilt → ∀ address, cartridge.workRamByte address = 0) ∧
    ∀ operation : BusOperation,
      ((∀ delivery ∈ BusCycle.deliveries bus (operation.busCycles bus),
        ¬ delivery.address < 0x2000) → (operation.apply bus).ram = bus.ram) ∧
      ((∀ delivery ∈ BusCycle.deliveries bus (operation.busCycles bus),
        delivery.enabled = true → ¬ Cartridge.InWorkRam delivery.address) →
          (operation.apply bus).cartridge.prgRam = bus.cartridge.prgRam) := by
  intro before bus delivered
  have reached {byte : Bus → UInt8} {hits : Delivery → Bool} (remembers : Remembers byte hits) :
      byte bus = lastByte hits delivered (byte (Bus.new cartridge stopRequested)) := by
    rw [lastByte_append, ← remembers.run, ← remembers.replay]
  refine ⟨fun address low => ?_, fun address inside => ?_, fun built address => ?_,
    fun operation => ⟨apply_ram_of_missed bus operation, apply_workRam_of_missed bus operation⟩⟩
  · rw [bus.peek_of_ram low]
    refine (reached (remembers_ram address)).trans ?_
    exact congrArg _ (Memory.read_fill 0 _)
  · have held := reached (remembers_workRam inside)
    exact ⟨held, fun enabled => (bus.peek_of_workRam inside enabled).trans held⟩
  · rw [Cartridge.workRamByte, built.workRam, Memory.read_fill]

/-- A byte that is written while the work RAM is disabled is lost, and the one before it is found
once the work RAM is enabled again. -/
theorem disabledWorkRam_keeps :
    let cartridge := { Cartridge.empty with mapper := .mmc1 (Mmc1.new .horizontal 1 0) }
    let select (bits : List UInt8) := bits.map fun bit => BusOperation.write 0xe000 bit
    let operations := .write 0x6000 0x42 :: select [0, 0, 0, 0, 1] ++
      .write 0x6000 0x55 :: select [0, 0, 0, 0, 0]
    (run (Bus.new cartridge) operations).cartridge.mapper.prgRamEnabled = true ∧
      (run (Bus.new cartridge) operations).peek 0x6000 = 0x42 := by
  intro cartridge select operations
  have law := memory_lastWritten cartridge false operations []
  have enabled : (run (Bus.new cartridge) operations).cartridge.mapper.prgRamEnabled = true := by
    decide +kernel
  refine ⟨enabled, ((law.2.1 0x6000 (by decide)).2 enabled).trans ?_⟩
  decide +kernel

end BusOperation

end Famicom
