import Famicom.Cartridge.Mirroring

/-!
Mapper 000: no bank switching. One 16 KB program bank fills both windows, two fill one each.
-/

namespace Famicom

structure Nrom where
  mirroring : Mirroring
  prgBanks : Nat

namespace Nrom

def prgOffset (board : Nrom) (address : UInt16) : Nat :=
  if address < 0xc000 then address.toNat - 0x8000
  else address.toNat - 0xc000 + (board.prgBanks - 1) * 0x4000

def chrOffset (_board : Nrom) (address : Nat) : Nat := address

end Nrom

end Famicom
