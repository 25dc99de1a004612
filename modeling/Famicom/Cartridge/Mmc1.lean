import Famicom.Byte
import Famicom.Cartridge.Mirroring

/-!
Mapper 001: four five-bit registers, each loaded one bit per write, choose the program and pattern
banks, the nametable arrangement and whether the work RAM answers.
-/

namespace Famicom

structure Mmc1 where
  prgBanks : Nat
  chrBanks : Nat
  powerOn : UInt8
  control : UInt8
  chrBank0 : UInt8 := 0
  chrBank1 : UInt8 := 0
  prgBank : UInt8 := 0
  /-- Each bit of the next load enters at bit 4 and moves down. -/
  shifter : UInt8 := 0
  received : Nat := 0
  prgOffsets : Nat × Nat := (0, 0)
  chrOffsets : Nat × Nat := (0, 0)

namespace Mmc1

def prgWindows (board : Mmc1) : Nat × Nat :=
  let bank := board.prgBank.toNat % 16
  match board.control.toNat / 4 % 4 with
  | 0 | 1 => (bank / 2 * 2, bank / 2 * 2 + 1)
  | 2 => (0, bank)
  | _ => (bank, board.prgBanks - 1)

def chrWindows (board : Mmc1) : Nat × Nat :=
  if board.control.bit 4 then (board.chrBank0.toNat, board.chrBank1.toNat)
  else
    let pair := board.chrBank0.toNat / 2 * 2
    (pair, pair + 1)

def placeWindows (board : Mmc1) : Mmc1 :=
  let prg (bank : Nat) := bank % board.prgBanks * 0x4000
  let chr (bank : Nat) := bank % board.chrBanks * 0x1000
  { board with
    prgOffsets := (prg board.prgWindows.1, prg board.prgWindows.2)
    chrOffsets := (chr board.chrWindows.1, chr board.chrWindows.2) }

/-- Power-on fixes the last program bank in the upper window. Boards without pattern ROM carry one
8 KB pattern RAM. -/
def new (mirroring : Mirroring) (prgBanks chrBanks : Nat) : Mmc1 :=
  let powerOn := if mirroring = .vertical then 0x0e else 0x0f
  placeWindows { prgBanks, chrBanks := max chrBanks 1 * 2, powerOn, control := powerOn }

/-- Each register answers to a quarter of the addresses from $8000 up. -/
def select (board : Mmc1) (address : UInt16) (value : UInt8) : Mmc1 :=
  match address.toNat / 0x2000 with
  | 4 => { board with control := value }
  | 5 => { board with chrBank0 := value }
  | 6 => { board with chrBank1 := value }
  | _ => { board with prgBank := value }

def load (board : Mmc1) (address : UInt16) (value : UInt8) : Mmc1 :=
  (board.select address value).placeWindows

def shifted (board : Mmc1) (data : UInt8) : UInt8 :=
  (board.shifter >>> 1) ||| (if data.bit 0 then 0x10 else 0)

def completes (board : Mmc1) (data : UInt8) : Option UInt8 :=
  if data.bit 7 then none
  else if board.received = 4 then some (board.shifted data)
  else none

/-- A write with bit 7 set drops the bits received so far and restores the control register. -/
def write (board : Mmc1) (address : UInt16) (data : UInt8) : Mmc1 :=
  if data.bit 7 then
    { board with received := 0, shifter := 0, control := board.powerOn }.placeWindows
  else match board.completes data with
    | some value => { board.load address value with received := 0, shifter := 0 }
    | none => { board with received := board.received + 1, shifter := board.shifted data }

def prgOffset (board : Mmc1) (address : UInt16) : Nat :=
  (if address < 0xc000 then board.prgOffsets.1 else board.prgOffsets.2) + address.toNat % 0x4000

def chrOffset (board : Mmc1) (address : Nat) : Nat :=
  (if address / 0x1000 % 2 = 0 then board.chrOffsets.1 else board.chrOffsets.2) +
    address % 0x1000

def prgRamEnabled (board : Mmc1) : Bool := !board.prgBank.bit 4

def mirroring (board : Mmc1) : Mirroring :=
  match board.control.toNat % 4 with
  | 0 => .singleScreen0
  | 1 => .singleScreen1
  | 2 => .vertical
  | _ => .horizontal

end Mmc1

end Famicom
