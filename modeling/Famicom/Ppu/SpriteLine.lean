import Famicom.Cartridge.Basic
import Famicom.Ppu.Evaluation

/-!
The sprites of one line: eight slots, each of which waits for its column and then shifts its pixels
out. The first slot with an opaque pixel wins.
-/

namespace Famicom

structure SpriteSlot where
  delay : UInt8 := 0
  attributes : UInt8 := 0
  patternLow : UInt8 := 0
  patternHigh : UInt8 := 0
  deriving DecidableEq, Inhabited

namespace SpriteSlot

def pixel (slot : SpriteSlot) : Nat :=
  if slot.delay = 0 then (slot.patternLow.bit 7).toNat + 2 * (slot.patternHigh.bit 7).toNat else 0

def shift (slot : SpriteSlot) : SpriteSlot :=
  if slot.delay = 0 then
    { slot with patternLow := slot.patternLow <<< 1, patternHigh := slot.patternHigh <<< 1 }
  else { slot with delay := slot.delay - 1 }

def palette (slot : SpriteSlot) : Nat := slot.attributes.toNat % 4

def behindBackground (slot : SpriteSlot) : Bool := slot.attributes.bit 5

end SpriteSlot

structure SpriteEntry where
  top : UInt8
  tile : UInt8
  attributes : UInt8
  left : UInt8
  deriving DecidableEq

structure SpritePixel where
  pixel : Nat
  palette : Nat
  behindBackground : Bool
  spriteZero : Bool
  deriving DecidableEq

structure SpriteLine where
  slots : Vector SpriteSlot 8 := Vector.replicate 8 {}
  count : Nat := 0
  /-- The first slot holds the sprite that hits are reported for. -/
  zeroOnLine : Bool := false

namespace SpriteLine

def clear (sprites : SpriteLine) : SpriteLine :=
  { sprites with count := 0, zeroOnLine := false }

def firstOpaque (slots : Vector SpriteSlot 8) : Nat → Option (Fin 8)
  | 0 => none
  | count + 1 =>
      match firstOpaque slots count with
      | some slot => some slot
      | none =>
          if inside : count < 8 then
            if slots[count].pixel = 0 then none else some ⟨count, inside⟩
          else none

def pixel (sprites : SpriteLine) : Option SpritePixel :=
  (firstOpaque sprites.slots sprites.count).map fun slot =>
    { pixel := sprites.slots[slot].pixel
      palette := sprites.slots[slot].palette
      behindBackground := sprites.slots[slot].behindBackground
      spriteZero := slot.val == 0 && sprites.zeroOnLine }

def shift (sprites : SpriteLine) : SpriteLine :=
  if sprites.count = 0 then sprites
  else
    let count := sprites.count
    { sprites with
      slots := sprites.slots.mapIdx fun index slot => if index < count then slot.shift else slot }

/-- The row of a sprite that shows on the line after `line`, counted from its top as stored. -/
def patternRow (top attributes : UInt8) (line height : Nat) : Nat :=
  let row := (line + 0x100 - top.toNat) % height
  if attributes.bit 7 then height - 1 - row else row

/-- Tall sprites take their pattern table from the lowest bit of the tile number. -/
def patternAddress (tile : UInt8) (row height table : Nat) : Nat :=
  if height = 16 then
    tile.toNat % 2 * 0x1000 + (tile.toNat / 2 * 2 + row / 8) * 16 + row % 8
  else table + tile.toNat * 16 + row

def candidate (evaluation : Evaluation) (slot : Fin 8) : SpriteEntry :=
  let byte (offset : Fin 4) : UInt8 :=
    evaluation.secondary.read ⟨slot.val * 4 + offset.val, by omega⟩
  { top := byte (residue 4 0), tile := byte (residue 4 1), attributes := byte (residue 4 2),
    left := byte (residue 4 3) }

def fetchSlot (cartridge : Cartridge) (evaluation : Evaluation) (slot : Fin 8)
    (line height table : Nat) : SpriteSlot :=
  let entry := candidate evaluation slot
  let row := patternRow entry.top entry.attributes line height
  let address := patternAddress entry.tile row height table
  let plane (offset : Nat) : UInt8 :=
    let byte := cartridge.chrRead (address + offset)
    if entry.attributes.bit 6 then byte.reverseBits else byte
  { delay := entry.left
    attributes := entry.attributes
    patternLow := plane 0
    patternHigh := plane 8 }

/-- Fetching the first slot also takes over how many sprites evaluation found. -/
def fetch (sprites : SpriteLine) (cartridge : Cartridge) (evaluation : Evaluation) (slot : Fin 8)
    (line height table : Nat) : SpriteLine :=
  let count := if slot.val = 0 then evaluation.pointer / 4 else sprites.count
  let zeroOnLine := if slot.val = 0 then evaluation.zeroFound else sprites.zeroOnLine
  let filled :=
    if slot.val < count then fetchSlot cartridge evaluation slot line height table else {}
  { slots := sprites.slots.set slot filled, count, zeroOnLine }

end SpriteLine

end Famicom
