import Famicom.Residue

/-!
The picture address in the layout that rendering steps through: fine row, nametable, tile row, tile
column. The address being drawn and the one that programs prepare share it.
-/

namespace Famicom

structure ScrollAddress where
  coarseX : Fin 32 := residue 32 0
  coarseY : Fin 32 := residue 32 0
  nametableX : Bool := false
  nametableY : Bool := false
  fineY : Fin 8 := residue 8 0
  deriving DecidableEq

namespace ScrollAddress

def tileOffset (scroll : ScrollAddress) : Nat :=
  scroll.nametableY.toNat * 0x800 + scroll.nametableX.toNat * 0x400 + scroll.coarseY.val * 0x20 +
    scroll.coarseX.val

def toNat (scroll : ScrollAddress) : Nat :=
  scroll.fineY.val * 0x1000 + scroll.tileOffset

def ofNat (value : Nat) : ScrollAddress where
  coarseX := residue 32 value
  coarseY := residue 32 (value / 0x20)
  nametableX := value.testBit 10
  nametableY := value.testBit 11
  fineY := residue 8 (value / 0x1000)

theorem tileOffset_lt (scroll : ScrollAddress) : scroll.tileOffset < 0x1000 := by
  have := scroll.coarseX.isLt
  have := scroll.coarseY.isLt
  have := Bool.toNat_le scroll.nametableX
  have := Bool.toNat_le scroll.nametableY
  unfold tileOffset
  omega

theorem toNat_lt (scroll : ScrollAddress) : scroll.toNat < 0x8000 := by
  have := scroll.fineY.isLt
  have := scroll.tileOffset_lt
  unfold toNat
  omega

theorem toNat_ofNat (value : Nat) : (ofNat value).toNat = value % 0x8000 := by
  have bit (position : Nat) : (value.testBit position).toNat = value / 2 ^ position % 2 := by
    rw [Nat.testBit_eq_decide_div_mod_eq]
    have := Nat.mod_two_eq_zero_or_one (value / 2 ^ position)
    by_cases one : value / 2 ^ position % 2 = 1 <;> simp_all
  simp only [toNat, tileOffset, ofNat, bit, val_residue]
  omega

theorem ofNat_toNat (scroll : ScrollAddress) : ofNat scroll.toNat = scroll := by
  have column := scroll.coarseX.isLt
  have row := scroll.coarseY.isLt
  have fine := scroll.fineY.isLt
  obtain ⟨coarseX, coarseY, nametableX, nametableY, fineY⟩ := scroll
  cases nametableX <;> cases nametableY <;>
    simp only [ofNat, toNat, tileOffset, ScrollAddress.mk.injEq, Fin.ext_iff, val_residue,
      Nat.testBit_eq_decide_div_mod_eq, decide_eq_true_eq, decide_eq_false_iff_not, Bool.toNat_true,
      Bool.toNat_false] <;>
    omega

def address (scroll : ScrollAddress) : Nat := scroll.toNat % 0x4000

def tileAddress (scroll : ScrollAddress) : Nat := 0x2000 + scroll.tileOffset

def attributeAddress (scroll : ScrollAddress) : Nat :=
  0x23c0 + scroll.nametableY.toNat * 0x800 + scroll.nametableX.toNat * 0x400 +
    scroll.coarseY.val / 4 * 8 + scroll.coarseX.val / 4

def advance (scroll : ScrollAddress) (distance : Nat) : ScrollAddress :=
  ofNat (scroll.toNat + distance)

def nextColumn (scroll : ScrollAddress) : ScrollAddress :=
  let coarseX := residue 32 (scroll.coarseX.val + 1)
  if scroll.coarseX.val = 31 then { scroll with coarseX, nametableX := !scroll.nametableX }
  else { scroll with coarseX }

/-- Past row 29 follows the first one of the other vertical nametable; past row 31, which lies in
the attributes, the first one of the same nametable. -/
def nextTileRow (scroll : ScrollAddress) : ScrollAddress :=
  if scroll.coarseY.val = 29 then
    { scroll with coarseY := residue 32 0, nametableY := !scroll.nametableY }
  else { scroll with coarseY := residue 32 (scroll.coarseY.val + 1) }

def nextRow (scroll : ScrollAddress) : ScrollAddress :=
  let stepped := { scroll with fineY := residue 8 (scroll.fineY.val + 1) }
  if scroll.fineY.val = 7 then stepped.nextTileRow else stepped

def copyHorizontal (scroll source : ScrollAddress) : ScrollAddress :=
  { scroll with coarseX := source.coarseX, nametableX := source.nametableX }

def copyVertical (scroll source : ScrollAddress) : ScrollAddress :=
  { scroll with
    coarseY := source.coarseY
    nametableY := source.nametableY
    fineY := source.fineY }

def setHigh (scroll : ScrollAddress) (data : UInt8) : ScrollAddress :=
  ofNat (data.toNat % 0x40 * 0x100 + scroll.toNat % 0x100)

def setLow (scroll : ScrollAddress) (data : UInt8) : ScrollAddress :=
  ofNat (scroll.toNat / 0x100 * 0x100 + data.toNat)

end ScrollAddress

end Famicom
