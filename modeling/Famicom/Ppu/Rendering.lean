import Famicom.Ppu.Basic

namespace Famicom.Ppu

def setVblank (ppu : Ppu) : Ppu :=
  { ppu with status := { ppu.status with vblank := true } }.updateNmi

def clearStatus (ppu : Ppu) : Ppu :=
  { ppu with status := {} }.updateNmi

def fetchTile (ppu : Ppu) (cartridge : Cartridge) (phase : Nat) : Ppu :=
  match phase with
  | 0 =>
      let tile := ppu.readVram cartridge ppu.v.tileAddress
      { ppu with background := { ppu.background.loadTile with tile } }
  | 2 =>
      let attributes := ppu.readVram cartridge ppu.v.attributeAddress
      { ppu with background := { ppu.background with
          quadrant := Background.quadrantBits attributes ppu.v } }
  | 4 =>
      let address := ppu.background.patternAddress ppu.control.backgroundTable ppu.v
      { ppu with background := { ppu.background with patternLow := cartridge.chrRead address } }
  | 6 =>
      let address := ppu.background.patternAddress ppu.control.backgroundTable ppu.v
      { ppu with background := { ppu.background with
          patternHigh := cartridge.chrRead (address + 8) } }
  | 7 => { ppu with v := ppu.v.nextColumn }
  | _ => ppu

def fetchesTile (dot : Nat) : Bool :=
  (decide (2 ≤ dot) && decide (dot ≤ 257)) || (decide (321 ≤ dot) && decide (dot ≤ 337))

def runBackground (ppu : Ppu) (cartridge : Cartridge) : Ppu :=
  let dot := ppu.beam.dot
  if fetchesTile dot then
    { ppu with background := ppu.background.shift }.fetchTile cartridge ((dot - 1) % 8)
  else if dot = 338 || dot = 340 then
    let tile := ppu.readVram cartridge ppu.v.tileAddress
    { ppu with background := { ppu.background with tile } }
  else ppu

def runScroll (ppu : Ppu) : Ppu :=
  let dot := ppu.beam.dot
  if dot = 256 then { ppu with v := ppu.v.nextRow }
  else if dot = 257 then { ppu with v := ppu.v.copyHorizontal ppu.t }
  else if ppu.beam.preRender && decide (280 ≤ dot) && decide (dot ≤ 304) then
    { ppu with v := ppu.v.copyVertical ppu.t }
  else ppu

def evaluateSprites (ppu : Ppu) : Ppu :=
  let progress := ppu.evaluation.run ppu.objects ppu.objectAddress ppu.beam.dot ppu.beam.line
    ppu.control.spriteHeight
  { ppu with
    evaluation := progress.evaluation
    objectAddress := progress.address
    status := { ppu.status with
      spriteOverflow := ppu.status.spriteOverflow || progress.overflow } }

def fetchSprites (ppu : Ppu) (cartridge : Cartridge) : Ppu :=
  let elapsed := ppu.beam.dot - 257
  let ppu := { ppu with objectAddress := 0 }
  if elapsed % 8 = 7 then
    let slot := residue 8 (elapsed / 8)
    if ppu.beam.visible then
      let height := ppu.control.spriteHeight
      let table := ppu.control.spriteTable
      let sprites := ppu.sprites.fetch cartridge ppu.evaluation slot ppu.beam.line height table
      { ppu with sprites }
    else if slot.val = 0 then { ppu with sprites := ppu.sprites.clear }
    else ppu
  else ppu

def runSprites (ppu : Ppu) (cartridge : Cartridge) : Ppu :=
  let dot := ppu.beam.dot
  if dot ≤ 256 then
    if ppu.beam.visible && dot != 0 then
      if dot ≤ 64 then { ppu with evaluation := ppu.evaluation.clear dot }
      else ppu.evaluateSprites
    else ppu
  else if dot ≤ 320 then ppu.fetchSprites cartridge
  else ppu

def render (ppu : Ppu) (cartridge : Cartridge) : Ppu :=
  if ppu.fetching then ((ppu.runBackground cartridge).runScroll).runSprites cartridge else ppu

def backgroundPixel (ppu : Ppu) (column : Nat) : Nat × Nat :=
  if ppu.mask.backgroundAt column then
    (ppu.background.pattern.pixel ppu.fineX.val, ppu.background.palette.pixel ppu.fineX.val)
  else (0, 0)

def spritePixel (ppu : Ppu) (column : Nat) : Option SpritePixel :=
  if ppu.mask.spritesAt column then ppu.sprites.pixel else none

def blend (background : Nat × Nat) (sprite : Option SpritePixel) : Nat :=
  match sprite with
  | some front =>
      if background.1 ≠ 0 ∧ front.behindBackground then background.2 * 4 + background.1
      else 0x10 + front.palette * 4 + front.pixel
  | none => if background.1 = 0 then 0 else background.2 * 4 + background.1

def hitsSpriteZero (background : Nat × Nat) (sprite : Option SpritePixel) (column : Nat) : Bool :=
  match sprite with
  | some front => front.spriteZero && background.1 != 0 && column != 255
  | none => false

/-- With both layers off the backdrop shows, or the palette entry that the address points at. -/
def backdropIndex (ppu : Ppu) : Nat :=
  if 0x3f00 ≤ ppu.v.address then ppu.v.address else 0

def colour (ppu : Ppu) (paletteIndex : Nat) : UInt8 :=
  ppu.palettes.read (paletteCell paletteIndex) &&& (if ppu.mask.greyscale then 0x30 else 0x3f)

def drawPixel (ppu : Ppu) (column : Nat) (cell : Fin 61440) : Ppu :=
  if ppu.mask.rendering then
    let background := ppu.backgroundPixel column
    let sprite := ppu.spritePixel column
    let colour := ppu.colour (blend background sprite)
    { ppu with
      sprites := ppu.sprites.shift
      status := { ppu.status with
        spriteZeroHit := ppu.status.spriteZeroHit || hitsSpriteZero background sprite column }
      picture := ppu.picture.write cell colour }
  else
    let colour := ppu.colour ppu.backdropIndex
    { ppu with picture := ppu.picture.write cell colour }

def output (ppu : Ppu) : Ppu :=
  if onScreen : ppu.beam.line < 240 ∧ 1 ≤ ppu.beam.dot ∧ ppu.beam.dot ≤ 256 then
    ppu.drawPixel (ppu.beam.dot - 1) ⟨ppu.beam.line * 256 + (ppu.beam.dot - 1), by omega⟩
  else ppu

def endVblank (ppu : Ppu) : Ppu :=
  if ppu.beam.dot = 1 ∧ ppu.beam.line = Beam.preRenderLine then ppu.clearStatus else ppu

def startVblank (ppu : Ppu) : Ppu :=
  if ppu.beam.dot = 1 ∧ ppu.beam.line = Beam.vblankLine then ppu.setVblank else ppu

def tick (ppu : Ppu) (cartridge : Cartridge) : Ppu :=
  let ppu := ((ppu.endVblank.render cartridge).output).startVblank
  { ppu with beam := ppu.beam.advance ppu.mask.rendering }

end Famicom.Ppu
