import Famicom.Cartridge.Basic
import Famicom.Ppu.Scroll

/-!
The background pipeline: fetch latches for the next tile, and shifters that hold the tile being
drawn in their upper halves and the next one in their lower halves.
-/

namespace Famicom

/-- Two planes of sixteen pixels. The leftmost pixel is the highest bit. -/
structure Shifter where
  low : UInt16 := 0
  high : UInt16 := 0
  deriving DecidableEq, Inhabited

namespace Shifter

def shift (shifter : Shifter) : Shifter where
  low := shifter.low <<< 1
  high := shifter.high <<< 1

def load (shifter : Shifter) (low high : UInt8) : Shifter where
  low := (shifter.low &&& 0xff00) ||| low.toUInt16
  high := (shifter.high &&& 0xff00) ||| high.toUInt16

def pixel (shifter : Shifter) (column : Nat) : Nat :=
  (shifter.low.toNat.testBit (15 - column)).toNat +
    2 * (shifter.high.toNat.testBit (15 - column)).toNat

end Shifter

structure Background where
  tile : UInt8 := 0
  quadrant : UInt8 := 0
  patternLow : UInt8 := 0
  patternHigh : UInt8 := 0
  pattern : Shifter := {}
  palette : Shifter := {}
  deriving DecidableEq, Inhabited

namespace Background

def shift (background : Background) : Background :=
  { background with pattern := background.pattern.shift, palette := background.palette.shift }

def loadTile (background : Background) : Background :=
  let plane (position : Nat) : UInt8 := if background.quadrant.bit position then 0xff else 0
  { background with
    pattern := background.pattern.load background.patternLow background.patternHigh
    palette := background.palette.load (plane 0) (plane 1) }

def quadrantBits (attributes : UInt8) (scroll : ScrollAddress) : UInt8 :=
  let half := if scroll.coarseY.val.testBit 1 then attributes.toNat / 16 else attributes.toNat
  let quarter := if scroll.coarseX.val.testBit 1 then half / 4 else half
  UInt8.ofNat (quarter % 4)

def patternAddress (background : Background) (table : Nat) (scroll : ScrollAddress) : Nat :=
  table + background.tile.toNat * 16 + scroll.fineY.val

end Background

end Famicom
