import Famicom.Proofs.Cpu.Step

namespace Famicom

theorem Flags.bit_pushed (flags : Flags) (brk : Bool) : (flags.pushed brk).bit 4 = brk := by
  obtain ⟨negative, overflow, stored, decimal, interruptDisable, zero, carry⟩ := flags
  revert negative overflow stored decimal interruptDisable zero carry brk
  decide +kernel

attribute [local irreducible] Bus.tick

namespace Bus

theorem write_ram (bus : Bus) {address : UInt16} (low : address < 0x2000) (data : UInt8) :
    (bus.write address data).ram = bus.ram.write (ramCell address) data := by
  simp only [write, deliver, low, if_true, setOpenBus, tick_ram]

theorem write_cartridge (bus : Bus) {address : UInt16} (low : address < 0x2000) (data : UInt8) :
    (bus.write address data).cartridge = bus.cartridge := by
  simp only [write, deliver, low, if_true, setOpenBus, tick_cartridge]

def romByte (bus : Bus) (address : UInt16) : UInt8 :=
  bus.cartridge.prgRom.read (bus.cartridge.mapper.prgOffset address)

theorem peek_of_rom (bus : Bus) {address : UInt16} (rom : 0x8000 ≤ address) :
    bus.peek address = bus.romByte address := by
  rw [peek_of_board bus (UInt16.le_trans (by decide) rom), bus.cartridge.cpuRead_of_rom rom]
  rfl

theorem read_of_rom (bus : Bus) {address : UInt16} (rom : 0x8000 ≤ address) :
    (bus.read address).1 = bus.romByte address := by
  rw [read_fst, peek_of_rom _ rom, romByte, tick_cartridge]
  rfl

theorem romByte_of_cartridge {first second : Bus} (same : first.cartridge = second.cartridge) :
    first.romByte = second.romByte := by
  unfold romByte
  rw [same]

end Bus

namespace Registers

theorem stack_lt (sp : UInt8) : 0x100 + sp.toUInt16 < 0x2000 := by
  have bound := sp.toNat_lt
  rw [UInt16.lt_iff_toNat_lt, UInt16.toNat_add, UInt8.toNat_toUInt16]
  change (0x100 + sp.toNat) % 2 ^ 16 < 0x2000
  omega

def stackCell (sp : UInt8) : Fin 0x800 := Bus.ramCell (0x100 + sp.toUInt16)

def pushedRam (registers : Registers) (ram : Memory 0x800) : Memory 0x800 :=
  ((ram.write (stackCell registers.sp) registers.pc.highByte).write
    (stackCell (registers.sp - 1)) registers.pc.lowByte).write
    (stackCell (registers.sp - 2)) (registers.p.pushed false)

def entered (registers : Registers) (bus : Bus) (vector : UInt16) : Registers :=
  { registers with
    pc := UInt16.ofBytes (bus.romByte vector) (bus.romByte (vector + 1))
    sp := registers.sp - 3
    p := { registers.p with interruptDisable := true } }

theorem run_interruptSequence (registers : Registers) {vector : UInt16} (rom : 0x8000 ≤ vector)
    (romNext : 0x8000 ≤ vector + 1) (bus : Bus) :
    ((registers.interruptSequence vector).run bus).1 = registers.entered bus vector ∧
      ((registers.interruptSequence vector).run bus).2.ram = registers.pushedRam bus.ram := by
  let pushed := ((bus.tick.tick.write (0x100 + registers.sp.toUInt16) registers.pc.highByte).write
    (0x100 + (registers.sp - 1).toUInt16) registers.pc.lowByte).write
    (0x100 + (registers.sp - 1 - 1).toUInt16) (registers.p.pushed false)
  have cartridge : pushed.cartridge = bus.cartridge := by
    simp only [pushed, Bus.write_cartridge, stack_lt, Bus.tick_cartridge]
  have twice : registers.sp - 1 - 1 = registers.sp - 2 := by grind
  have thrice : registers.sp - 1 - 1 - 1 = registers.sp - 3 := by grind
  have ram : pushed.ram = registers.pushedRam bus.ram := by
    simp only [pushed, Bus.write_ram, stack_lt, Bus.tick_ram, twice]
    rfl
  have first := Bus.sameMemory_read pushed vector
  have second := Bus.sameMemory_read (pushed.read vector).2 (vector + 1)
  have low : (pushed.read vector).1 = bus.romByte vector := by
    rw [Bus.read_of_rom _ rom, Bus.romByte_of_cartridge cartridge]
  have high : ((pushed.read vector).2.read (vector + 1)).1 = bus.romByte (vector + 1) := by
    rw [Bus.read_of_rom _ romNext, Bus.romByte_of_cartridge (first.cartridge.trans cartridge)]
  have ran : (registers.interruptSequence vector).run bus =
      ({ registers with
          pc := UInt16.ofBytes (pushed.read vector).1
            ((pushed.read vector).2.read (vector + 1)).1
          sp := registers.sp - 1 - 1 - 1
          p := { registers.p with interruptDisable := true } },
        ((pushed.read vector).2.read (vector + 1)).2) := rfl
  rw [ran, low, high, thrice]
  exact ⟨rfl, by rw [second.ram, first.ram, ram]⟩

end Registers

end Famicom
