import Famicom.Ppu.Rendering
import Famicom.Proofs.Ppu.Scrolling
import Mathlib.Algebra.Group.Nat.Defs

/-!
What the picture shows, as a direct lookup for each place on the screen: no shifters, no prefetched
tiles, no copies of objects, only memories and registers.
-/

namespace Famicom

/-- The memories and registers that a picture is drawn from. No dot changes them. -/
structure Scene where
  nametables : Memory 0x1000
  palettes : Memory 0x20
  objects : Memory 0x100
  control : PpuControl
  mask : PpuMask
  t : ScrollAddress
  fineX : Fin 8

def Ppu.scene (ppu : Ppu) : Scene where
  nametables := ppu.nametables
  palettes := ppu.palettes
  objects := ppu.objects
  control := ppu.control
  mask := ppu.mask
  t := ppu.t
  fineX := ppu.fineX

namespace Scene

variable (scene : Scene) (cartridge : Cartridge)

/-! ## Background -/

def nametableByte (address : Nat) : UInt8 :=
  scene.nametables.read (cartridge.nametableCell address)

def tile (place : ScrollAddress) : UInt8 :=
  scene.nametableByte cartridge place.tileAddress

/-- A byte of attributes holds two bits for each of four squares of two by two tiles. -/
def tilePalette (place : ScrollAddress) : Nat :=
  let square := place.coarseY.val / 2 % 2 * 2 + place.coarseX.val / 2 % 2
  (scene.nametableByte cartridge place.attributeAddress).toNat / 4 ^ square % 4

def tilePlane (place : ScrollAddress) (offset : Nat) : UInt8 :=
  cartridge.chrRead (scene.control.backgroundTable +
    (scene.tile cartridge place).toNat * 16 + place.fineY.val + offset)

def tilePixel (place : ScrollAddress) (column : Nat) : Nat :=
  ((scene.tilePlane cartridge place 0).bit (7 - column)).toNat +
    2 * ((scene.tilePlane cartridge place 8).bit (7 - column)).toNat

def rowPixel (row : ScrollAddress) (position : Nat) : Nat × Nat :=
  let place := row.columnsRight (position / 8)
  (scene.tilePixel cartridge place (position % 8), scene.tilePalette cartridge place)

def backgroundPixel (line column : Nat) : Nat × Nat :=
  if scene.mask.backgroundAt column then
    scene.rowPixel cartridge (scene.t.rowsBelow line) (scene.fineX.val + column)
  else (0, 0)

/-! ## Objects -/

def objectByte (object : Fin 64) (offset : Fin 4) : UInt8 :=
  scene.objects.read ⟨object.val * 4 + offset.val, by omega⟩

def entry (object : Fin 64) : SpriteEntry where
  top := scene.objectByte object (residue 4 0)
  tile := scene.objectByte object (residue 4 1)
  attributes := scene.objectByte object (residue 4 2)
  left := scene.objectByte object (residue 4 3)

def covers (object : Fin 64) (line : Nat) : Bool :=
  let top := (scene.entry object).top.toNat
  decide (top < line ∧ line ≤ top + scene.control.spriteHeight)

/-- A line shows no more than eight objects, those that come first. -/
def objectsOn (line : Nat) : List (Fin 64) :=
  ((List.finRange 64).filter (scene.covers · line)).take 8

def objectRow (object : Fin 64) (line : Nat) : Nat :=
  let row := line - 1 - (scene.entry object).top.toNat
  if (scene.entry object).attributes.bit 7 then scene.control.spriteHeight - 1 - row else row

/-- An object of sixteen rows takes two tiles, an even one and the next, and the table from the bit
that tells them apart. -/
def objectAddress (object : Fin 64) (line : Nat) : Nat :=
  let row := scene.objectRow object line
  let tile := (scene.entry object).tile.toNat
  if scene.control.spriteHeight = 16 then
    tile % 2 * 0x1000 + (tile / 2 * 2 + row / 8) * 16 + row % 8
  else scene.control.spriteTable + tile * 16 + row

def objectPixel (object : Fin 64) (line column : Nat) : Nat :=
  let left := (scene.entry object).left.toNat
  let address := scene.objectAddress object line
  if left ≤ column ∧ column < left + 8 then
    let position := column - left
    let bit := if (scene.entry object).attributes.bit 6 then position else 7 - position
    ((cartridge.chrRead address).bit bit).toNat +
      2 * ((cartridge.chrRead (address + 8)).bit bit).toNat
  else 0

def shownPixel (line column : Nat) (object : Fin 64) : SpritePixel where
  pixel := scene.objectPixel cartridge object line column
  palette := (scene.entry object).attributes.toNat % 4
  behindBackground := (scene.entry object).attributes.bit 5
  spriteZero := object.val == 0

/-- The first object with an opaque pixel wins, wherever it stands relative to the background. -/
def spritePixel (line column : Nat) : Option SpritePixel :=
  if scene.mask.spritesAt column then
    ((scene.objectsOn line).find? fun object =>
      scene.objectPixel cartridge object line column != 0).map
        (scene.shownPixel cartridge line column)
  else none

/-! ## Picture -/

/-- A transparent pixel of any palette shows the first colour of the palette with its number among
the background palettes. -/
def paletteColour (index : Nat) : UInt8 :=
  scene.palettes.read (residue 0x20 (if index % 4 = 0 then index % 0x10 else index)) &&&
    (if scene.mask.greyscale then 0x30 else 0x3f)

def colour (line column : Nat) : UInt8 :=
  let background := scene.backgroundPixel cartridge line column
  scene.paletteColour
    (match scene.spritePixel cartridge line column with
    | none => if background.1 = 0 then 0 else background.2 * 4 + background.1
    | some front =>
        if background.1 ≠ 0 ∧ front.behindBackground = true then background.2 * 4 + background.1
        else 0x10 + front.palette * 4 + front.pixel)

/-- The first object of memory and the background are both opaque, left of the last column. -/
def hits (line column : Nat) : Prop :=
  column ≤ 254 ∧ (scene.backgroundPixel cartridge line column).1 ≠ 0 ∧
    scene.mask.spritesAt column = true ∧ scene.covers 0 line = true ∧
    scene.objectPixel cartridge 0 line column ≠ 0

instance (line column : Nat) : Decidable (scene.hits cartridge line column) :=
  inferInstanceAs (Decidable (_ ∧ _))

end Scene

end Famicom
