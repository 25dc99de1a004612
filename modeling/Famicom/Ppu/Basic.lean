import Famicom.Ppu.Background
import Famicom.Ppu.Beam
import Famicom.Ppu.Registers
import Famicom.Ppu.SpriteLine

namespace Famicom

structure Ppu where
  nametables : Memory 0x1000 := Memory.fill 0x1000 0
  palettes : Memory 0x20 := Memory.fill 0x20 0
  objects : Memory 0x100 := Memory.fill 0x100 0
  control : PpuControl := {}
  mask : PpuMask := {}
  status : PpuStatus := {}
  objectAddress : UInt8 := 0
  ioLatch : UInt8 := 0
  readBuffer : UInt8 := 0
  /-- The address being drawn or accessed. -/
  v : ScrollAddress := {}
  /-- The address prepared by register writes. -/
  t : ScrollAddress := {}
  fineX : Fin 8 := residue 8 0
  secondWrite : Bool := false
  beam : Beam := {}
  nmiLevel : Bool := false
  nmiEdge : Bool := false
  background : Background := {}
  evaluation : Evaluation := {}
  sprites : SpriteLine := {}
  corruptRow : Option (Fin 32) := none
  picture : Memory 61440 := Memory.fill 61440 0

structure PpuSnapshot where
  address : Nat
  control : UInt8
  mask : UInt8
  status : UInt8
  objectAddress : UInt8
  line : Nat
  dot : Nat
  frame : Nat
  deriving DecidableEq

namespace Ppu

def snapshot (ppu : Ppu) : PpuSnapshot where
  address := ppu.v.toNat
  control := ppu.control.byte
  mask := ppu.mask.byte
  status := ppu.status.toByte
  objectAddress := ppu.objectAddress
  line := ppu.beam.line
  dot := ppu.beam.dot
  frame := ppu.beam.frame

def fetching (ppu : Ppu) : Bool := ppu.beam.onRenderingLine && ppu.mask.rendering

/-- The backdrop colours of the sprite palettes are those of the background palettes. -/
def paletteCell (index : Nat) : Fin 0x20 :=
  if index % 0x20 / 0x10 = 1 ∧ index % 4 = 0 then residue 0x20 (index % 0x10)
  else residue 0x20 index

def readVram (ppu : Ppu) (cartridge : Cartridge) (address : Nat) : UInt8 :=
  let address := address % 0x4000
  if address < 0x2000 then cartridge.chrRead address
  else if address < 0x3f00 then ppu.nametables.read (cartridge.nametableCell address)
  else ppu.palettes.read (paletteCell address)

/-- The request follows the vertical blank flag and its enable bit; each rise is an edge. -/
def updateNmi (ppu : Ppu) : Ppu :=
  let level := ppu.status.vblank && ppu.control.nmiEnabled
  { ppu with nmiEdge := ppu.nmiEdge || (level && !ppu.nmiLevel), nmiLevel := level }

def takeNmi (ppu : Ppu) : Bool × Ppu :=
  (ppu.nmiEdge, { ppu with nmiEdge := false })

/-- The beam, the flags and the prepared address keep their state. -/
def reset (ppu : Ppu) : Ppu :=
  { ppu with
    control := {}
    mask := {}
    secondWrite := false
    readBuffer := 0
    nmiLevel := false
    nmiEdge := false
    corruptRow := none }

end Ppu

end Famicom
