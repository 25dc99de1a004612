import Famicom.Cartridge.Mmc1
import Famicom.Cartridge.Nrom
import Famicom.Memory
import Famicom.Residue

namespace Famicom

inductive Mapper
  | nrom (board : Nrom)
  | mmc1 (board : Mmc1)

namespace Mapper

def number : Mapper → Nat
  | nrom _ => 0
  | mmc1 _ => 1

def prgOffset : Mapper → UInt16 → Nat
  | nrom board => board.prgOffset
  | mmc1 board => board.prgOffset

def chrOffset : Mapper → Nat → Nat
  | nrom board => board.chrOffset
  | mmc1 board => board.chrOffset

def write (mapper : Mapper) (address : UInt16) (data : UInt8) : Mapper :=
  match mapper with
  | nrom board => nrom board
  | mmc1 board => mmc1 (board.write address data)

def prgRamEnabled : Mapper → Bool
  | nrom _ => true
  | mmc1 board => board.prgRamEnabled

def mirroring : Mapper → Mirroring
  | nrom board => board.mirroring
  | mmc1 board => board.mirroring

end Mapper

structure Cartridge where
  prgRom : Chip
  prgRam : Memory 0x2000
  chr : Chip
  chrWritable : Bool
  mapper : Mapper

namespace Cartridge

def workRamCell (address : UInt16) : Fin 0x2000 := residue 0x2000 address.toNat

/-- Nothing drives the bus below $6000, nor below $8000 while the work RAM is disabled. -/
def cpuRead (cartridge : Cartridge) (address : UInt16) : Option UInt8 :=
  if address < 0x6000 then none
  else if address < 0x8000 then
    if cartridge.mapper.prgRamEnabled then some (cartridge.prgRam.read (workRamCell address))
    else none
  else some (cartridge.prgRom.read (cartridge.mapper.prgOffset address))

theorem cpuRead_of_workRam (cartridge : Cartridge) {address : UInt16} (start : 0x6000 ≤ address)
    (stop : address < 0x8000) (enabled : cartridge.mapper.prgRamEnabled = true) :
    cartridge.cpuRead address = some (cartridge.prgRam.read (workRamCell address)) := by
  rw [cpuRead, if_neg (UInt16.not_lt.mpr start), if_pos stop, if_pos enabled]

theorem cpuRead_of_rom (cartridge : Cartridge) {address : UInt16} (rom : 0x8000 ≤ address) :
    cartridge.cpuRead address =
      some (cartridge.prgRom.read (cartridge.mapper.prgOffset address)) := by
  rw [cpuRead, if_neg (UInt16.past rom 0x6000 (by decide)).1, if_neg (UInt16.not_lt.mpr rom)]

def cpuWrite (cartridge : Cartridge) (address : UInt16) (data : UInt8) : Cartridge :=
  if address < 0x6000 then cartridge
  else if address < 0x8000 then
    if cartridge.mapper.prgRamEnabled then
      { cartridge with prgRam := cartridge.prgRam.write (workRamCell address) data }
    else cartridge
  else { cartridge with mapper := cartridge.mapper.write address data }

def chrRead (cartridge : Cartridge) (address : Nat) : UInt8 :=
  cartridge.chr.read (cartridge.mapper.chrOffset (address % 0x2000))

def chrWrite (cartridge : Cartridge) (address : Nat) (data : UInt8) : Cartridge :=
  if cartridge.chrWritable then
    { cartridge with
      chr := cartridge.chr.write (cartridge.mapper.chrOffset (address % 0x2000)) data }
  else cartridge

def mirroring (cartridge : Cartridge) : Mirroring := cartridge.mapper.mirroring

def nametableCell (cartridge : Cartridge) (address : Nat) : Fin 0x1000 :=
  cartridge.mirroring.nametableCell address

end Cartridge

end Famicom
