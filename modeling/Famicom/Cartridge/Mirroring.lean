import Famicom.Residue

namespace Famicom

inductive Mirroring
  | horizontal
  | vertical
  | singleScreen0
  | singleScreen1
  | fourScreen
  deriving DecidableEq, Inhabited

namespace Mirroring

def name : Mirroring → String
  | horizontal => "Horizontal"
  | vertical => "Vertical"
  | singleScreen0 => "SingleScreen0"
  | singleScreen1 => "SingleScreen1"
  | fourScreen => "FourScreen"

def area : Mirroring → Fin 4 → Fin 4
  | horizontal, table => residue 4 (table.val / 2)
  | vertical, table => residue 4 (table.val % 2)
  | singleScreen0, _ => residue 4 0
  | singleScreen1, _ => residue 4 1
  | fourScreen, table => table

def nametableCell (mirroring : Mirroring) (address : Nat) : Fin 0x1000 :=
  let table := residue 4 (address / 0x400)
  ⟨(mirroring.area table).val * 0x400 + address % 0x400, by
    have := (mirroring.area table).isLt
    omega⟩

end Mirroring

end Famicom
