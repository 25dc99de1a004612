import Famicom.Proofs.Ppu.ScrollWord

/-!
The picture unit with plain numbers in its registers: the two picture addresses are words, the fine
column is a byte, a marked row is any number, and each access is checked. Its stages are those of
`Ppu`, one for one. A position that is a constant of its register needs no check.
-/

namespace Famicom

structure CheckedPpu where
  nametables : Memory 0x1000 := Memory.fill 0x1000 0
  palettes : Memory 0x20 := Memory.fill 0x20 0
  objects : Memory 0x100 := Memory.fill 0x100 0
  control : PpuControl := {}
  mask : PpuMask := {}
  status : PpuStatus := {}
  objectAddress : UInt8 := 0
  ioLatch : UInt8 := 0
  readBuffer : UInt8 := 0
  v : ScrollWord := {}
  t : ScrollWord := {}
  fineX : UInt8 := 0
  secondWrite : Bool := false
  beam : Beam := {}
  nmiLevel : Bool := false
  nmiEdge : Bool := false
  background : Background := {}
  evaluation : Evaluation := {}
  sprites : SpriteLine := {}
  corruptRow : Option Nat := none
  picture : Memory 61440 := Memory.fill 61440 0

namespace CheckedPpu

def fetching (ppu : CheckedPpu) : Bool := ppu.beam.onRenderingLine && ppu.mask.rendering

def readVram (ppu : CheckedPpu) (cartridge : Cartridge) (address : Nat) :
    Except PpuFault UInt8 :=
  let address := address % 0x4000
  if address < 0x2000 then .ok (cartridge.chrRead address)
  else if address < 0x3f00 then
    ppu.nametables.readChecked .nametable (cartridge.mirroring.nametableOffset address)
  else ppu.palettes.readChecked .palette (Ppu.paletteOffset address)

def updateNmi (ppu : CheckedPpu) : CheckedPpu :=
  let level := ppu.status.vblank && ppu.control.nmiEnabled
  { ppu with nmiEdge := ppu.nmiEdge || (level && !ppu.nmiLevel), nmiLevel := level }

def takeNmi (ppu : CheckedPpu) : Bool × CheckedPpu :=
  (ppu.nmiEdge, { ppu with nmiEdge := false })

def reset (ppu : CheckedPpu) : CheckedPpu :=
  { ppu with
    control := {}
    mask := {}
    secondWrite := false
    readBuffer := 0
    nmiLevel := false
    nmiEdge := false
    corruptRow := none }

/-! ## Registers -/

def advanceAddress (ppu : CheckedPpu) : Except PpuFault CheckedPpu :=
  if ppu.fetching then do
    let v ← ppu.v.nextColumn
    let v ← v.nextRow
    .ok { ppu with v }
  else .ok { ppu with v := ppu.v.advance ppu.control.addressStep }

def readObject (ppu : CheckedPpu) : Except PpuFault UInt8 :=
  if ppu.fetching && decide (1 ≤ ppu.beam.dot) && decide (ppu.beam.dot ≤ 64) then .ok 0xff
  else do
    let byte ← ppu.objects.readChecked .object ppu.objectAddress.toNat
    .ok (if ppu.objectAddress.toNat % 4 = 2 then byte &&& 0xe3 else byte)

def statusByte (ppu : CheckedPpu) : UInt8 := ppu.status.toByte ||| (ppu.ioLatch &&& 0x1f)

def paletteByte (ppu : CheckedPpu) (cartridge : Cartridge) : Except PpuFault UInt8 := do
  let byte ← ppu.readVram cartridge ppu.v.address
  .ok (byte ||| (ppu.ioLatch &&& 0xc0))

def peek (ppu : CheckedPpu) (cartridge : Cartridge) (address : UInt16) : Except PpuFault UInt8 :=
  match address.toNat % 8 with
  | 2 => .ok ppu.statusByte
  | 4 => ppu.readObject
  | 7 => if 0x3f00 ≤ ppu.v.address then ppu.paletteByte cartridge else .ok ppu.readBuffer
  | _ => .ok ppu.ioLatch

def acknowledgeVblank (ppu : CheckedPpu) : CheckedPpu :=
  { ppu with status := { ppu.status with vblank := false }, secondWrite := false }.updateNmi

def refillBuffer (ppu : CheckedPpu) (cartridge : Cartridge) : Except PpuFault CheckedPpu := do
  let address := ppu.v.address
  let source := if 0x3f00 ≤ address then address - 0x1000 else address
  let readBuffer ← ppu.readVram cartridge source
  .ok { ppu with readBuffer }

def readData (ppu : CheckedPpu) (cartridge : Cartridge) :
    Except PpuFault (UInt8 × CheckedPpu) := do
  let refilled ← ppu.refillBuffer cartridge
  let data ← if 0x3f00 ≤ ppu.v.address then refilled.paletteByte cartridge else .ok ppu.readBuffer
  let advanced ← refilled.advanceAddress
  .ok (data, advanced)

def readRegister (ppu : CheckedPpu) (cartridge : Cartridge) (address : UInt16) :
    Except PpuFault (UInt8 × CheckedPpu) :=
  match address.toNat % 8 with
  | 2 => .ok (ppu.statusByte, ppu.acknowledgeVblank)
  | 4 => do
      let byte ← ppu.readObject
      .ok (byte, ppu)
  | 7 => ppu.readData cartridge
  | _ => .ok (ppu.ioLatch, ppu)

def read (ppu : CheckedPpu) (cartridge : Cartridge) (address : UInt16) :
    Except PpuFault (UInt8 × CheckedPpu) := do
  let (data, ppu) ← ppu.readRegister cartridge address
  .ok (data, { ppu with ioLatch := data })

def writeControl (ppu : CheckedPpu) (data : UInt8) : Except PpuFault CheckedPpu := do
  let t ← ppu.t.storeNametable (data &&& 3).toNat
  .ok { ppu with control := { byte := data }, t }.updateNmi

def writeMask (ppu : CheckedPpu) (data : UInt8) : Except PpuFault CheckedPpu :=
  let mask : PpuMask := { byte := data }
  if ppu.mask.rendering && !mask.rendering && ppu.beam.onRenderingLine then
    .ok { ppu with mask, corruptRow := some (ppu.evaluation.pointer % 0x20) }
  else if !ppu.mask.rendering && mask.rendering then
    match ppu.corruptRow with
    | some row => do
        let objects ← Ppu.corruptChecked ppu.objects row
        .ok { ppu with mask, corruptRow := none, objects }
    | none => .ok { ppu with mask }
  else .ok { ppu with mask }

def writeObject (ppu : CheckedPpu) (data : UInt8) : Except PpuFault CheckedPpu :=
  if ppu.fetching then .ok { ppu with objectAddress := ppu.objectAddress + 4 }
  else do
    let objects ← ppu.objects.writeChecked .object ppu.objectAddress.toNat data
    .ok { ppu with objects, objectAddress := ppu.objectAddress + 1 }

def writeScroll (ppu : CheckedPpu) (data : UInt8) : Except PpuFault CheckedPpu :=
  let coarse := (data >>> 3).toNat
  let fine := data &&& 7
  if ppu.secondWrite then do
    let t ← ppu.t.storeCoarseY coarse
    let t ← t.storeFineY fine.toNat
    .ok { ppu with t, secondWrite := false }
  else do
    let t ← ppu.t.storeCoarseX coarse
    .ok { ppu with t, fineX := fine, secondWrite := true }

def writeAddress (ppu : CheckedPpu) (data : UInt8) : Except PpuFault CheckedPpu :=
  if ppu.secondWrite then do
    let t ← ppu.t.storeLow data
    .ok { ppu with t, v := t, secondWrite := false }
  else do
    let t ← ppu.t.storeHigh data
    .ok { ppu with t, secondWrite := true }

def writeVram (ppu : CheckedPpu) (cartridge : Cartridge) (data : UInt8) :
    Except PpuFault (CheckedPpu × Cartridge) :=
  let address := ppu.v.address
  if address < 0x2000 then .ok (ppu, cartridge.chrWrite address data)
  else if address < 0x3f00 then do
    let nametables ← ppu.nametables.writeChecked .nametable
      (cartridge.mirroring.nametableOffset address) data
    .ok ({ ppu with nametables }, cartridge)
  else do
    let palettes ← ppu.palettes.writeChecked .palette (Ppu.paletteOffset address) (data &&& 0x3f)
    .ok ({ ppu with palettes }, cartridge)

def beside (cartridge : Cartridge) (outcome : Except PpuFault CheckedPpu) :
    Except PpuFault (CheckedPpu × Cartridge) := do
  let ppu ← outcome
  .ok (ppu, cartridge)

def write (ppu : CheckedPpu) (cartridge : Cartridge) (address : UInt16) (data : UInt8) :
    Except PpuFault (CheckedPpu × Cartridge) :=
  let ppu := { ppu with ioLatch := data }
  match address.toNat % 8 with
  | 0 => beside cartridge (ppu.writeControl data)
  | 1 => beside cartridge (ppu.writeMask data)
  | 3 => .ok ({ ppu with objectAddress := data }, cartridge)
  | 4 => beside cartridge (ppu.writeObject data)
  | 5 => beside cartridge (ppu.writeScroll data)
  | 6 => beside cartridge (ppu.writeAddress data)
  | 7 => do
      let (written, cartridge) ← ppu.writeVram cartridge data
      beside cartridge written.advanceAddress
  | _ => .ok (ppu, cartridge)

/-! ## Dots -/

def endVblank (ppu : CheckedPpu) : CheckedPpu :=
  if ppu.beam.dot = 1 ∧ ppu.beam.line = Beam.preRenderLine then { ppu with status := {} }.updateNmi
  else ppu

def startVblank (ppu : CheckedPpu) : CheckedPpu :=
  if ppu.beam.dot = 1 ∧ ppu.beam.line = Beam.vblankLine then
    { ppu with status := { ppu.status with vblank := true } }.updateNmi
  else ppu

def quadrantBits (attributes : UInt8) (place : ScrollWord) : UInt8 :=
  let half := if place.coarseY.testBit 1 then attributes.toNat / 16 else attributes.toNat
  let quarter := if place.coarseX.testBit 1 then half / 4 else half
  UInt8.ofNat (quarter % 4)

def patternAddress (ppu : CheckedPpu) : Nat :=
  ppu.control.backgroundTable + ppu.background.tile.toNat * 16 + ppu.v.fineY

def fetchTile (ppu : CheckedPpu) (cartridge : Cartridge) (phase : Nat) :
    Except PpuFault CheckedPpu :=
  match phase with
  | 0 => do
      let loaded ← ppu.background.loadTileChecked
      let tile ← ppu.readVram cartridge ppu.v.tileAddress
      .ok { ppu with background := { loaded with tile } }
  | 2 => do
      let attributes ← ppu.readVram cartridge ppu.v.attributeAddress
      .ok { ppu with background := { ppu.background with
        quadrant := quadrantBits attributes ppu.v } }
  | 4 => .ok { ppu with background := { ppu.background with
      patternLow := cartridge.chrRead ppu.patternAddress } }
  | 6 => .ok { ppu with background := { ppu.background with
      patternHigh := cartridge.chrRead (ppu.patternAddress + 8) } }
  | 7 => do
      let v ← ppu.v.nextColumn
      .ok { ppu with v }
  | _ => .ok ppu

def runBackground (ppu : CheckedPpu) (cartridge : Cartridge) : Except PpuFault CheckedPpu :=
  let dot := ppu.beam.dot
  if Ppu.fetchesTile dot then
    { ppu with background := ppu.background.shift }.fetchTile cartridge ((dot - 1) % 8)
  else if dot = 338 || dot = 340 then do
    let tile ← ppu.readVram cartridge ppu.v.tileAddress
    .ok { ppu with background := { ppu.background with tile } }
  else .ok ppu

def runScroll (ppu : CheckedPpu) : Except PpuFault CheckedPpu :=
  let dot := ppu.beam.dot
  if dot = 256 then do
    let v ← ppu.v.nextRow
    .ok { ppu with v }
  else if dot = 257 then .ok { ppu with v := ppu.v.copyHorizontal ppu.t }
  else if ppu.beam.preRender && decide (280 ≤ dot) && decide (dot ≤ 304) then
    .ok { ppu with v := ppu.v.copyVertical ppu.t }
  else .ok ppu

def evaluateSprites (ppu : CheckedPpu) : Except PpuFault CheckedPpu := do
  let progress ← ppu.evaluation.runChecked ppu.objects ppu.objectAddress ppu.beam.dot
    ppu.beam.line ppu.control.spriteHeight
  .ok { ppu with
    evaluation := progress.evaluation
    objectAddress := progress.address
    status := { ppu.status with
      spriteOverflow := ppu.status.spriteOverflow || progress.overflow } }

def fetchSprites (ppu : CheckedPpu) (cartridge : Cartridge) : Except PpuFault CheckedPpu :=
  let elapsed := ppu.beam.dot - 257
  let ppu := { ppu with objectAddress := 0 }
  if elapsed % 8 = 7 then
    let slot := elapsed / 8
    if ppu.beam.visible then do
      let sprites ← ppu.sprites.fetchChecked cartridge ppu.evaluation slot ppu.beam.line
        ppu.control.spriteHeight ppu.control.spriteTable
      .ok { ppu with sprites }
    else if slot = 0 then .ok { ppu with sprites := ppu.sprites.clear }
    else .ok ppu
  else .ok ppu

def runSprites (ppu : CheckedPpu) (cartridge : Cartridge) : Except PpuFault CheckedPpu :=
  let dot := ppu.beam.dot
  if dot ≤ 256 then
    if ppu.beam.visible && dot != 0 then
      if dot ≤ 64 then do
        let evaluation ← ppu.evaluation.clearChecked dot
        .ok { ppu with evaluation }
      else ppu.evaluateSprites
    else .ok ppu
  else if dot ≤ 320 then ppu.fetchSprites cartridge
  else .ok ppu

def render (ppu : CheckedPpu) (cartridge : Cartridge) : Except PpuFault CheckedPpu :=
  if ppu.fetching then do
    let fetched ← ppu.runBackground cartridge
    let scrolled ← fetched.runScroll
    scrolled.runSprites cartridge
  else .ok ppu

def backgroundPixel (ppu : CheckedPpu) (column : Nat) : Except PpuFault (Nat × Nat) :=
  if ppu.mask.backgroundAt column then do
    let pixel ← ppu.background.pattern.pixelChecked ppu.fineX.toNat
    let palette ← ppu.background.palette.pixelChecked ppu.fineX.toNat
    .ok (pixel, palette)
  else .ok (0, 0)

def spritePixel (ppu : CheckedPpu) (column : Nat) : Option SpritePixel :=
  if ppu.mask.spritesAt column then ppu.sprites.pixel else none

def colour (ppu : CheckedPpu) (index : Nat) : Except PpuFault UInt8 := do
  let byte ← ppu.palettes.readChecked .palette (Ppu.paletteOffset index)
  .ok (byte &&& (if ppu.mask.greyscale then 0x30 else 0x3f))

def backdropIndex (ppu : CheckedPpu) : Nat :=
  if 0x3f00 ≤ ppu.v.address then ppu.v.address else 0

def drawPixel (ppu : CheckedPpu) (column : Nat) : Except PpuFault CheckedPpu :=
  let cell := ppu.beam.line * 256 + column
  if ppu.mask.rendering then do
    let background ← ppu.backgroundPixel column
    let sprite := ppu.spritePixel column
    let sprites ← ppu.sprites.shiftChecked
    let colour ← ppu.colour (Ppu.blend background sprite)
    let picture ← ppu.picture.writeChecked .picture cell colour
    .ok { ppu with
      sprites
      status := { ppu.status with
        spriteZeroHit := ppu.status.spriteZeroHit || Ppu.hitsSpriteZero background sprite column }
      picture }
  else do
    let colour ← ppu.colour ppu.backdropIndex
    let picture ← ppu.picture.writeChecked .picture cell colour
    .ok { ppu with picture }

def output (ppu : CheckedPpu) : Except PpuFault CheckedPpu :=
  if ppu.beam.line < 240 ∧ 1 ≤ ppu.beam.dot ∧ ppu.beam.dot ≤ 256 then
    ppu.drawPixel (ppu.beam.dot - 1)
  else .ok ppu

def tick (ppu : CheckedPpu) (cartridge : Cartridge) : Except PpuFault CheckedPpu := do
  let rendered ← ppu.endVblank.render cartridge
  let shown ← rendered.output
  let started := shown.startVblank
  .ok { started with beam := started.beam.advance started.mask.rendering }

end CheckedPpu

namespace PpuOperation

def applyChecked (state : CheckedPpu × Cartridge) :
    PpuOperation → Except PpuFault (CheckedPpu × Cartridge)
  | tick => CheckedPpu.beside state.2 (state.1.tick state.2)
  | read address => do
      let (_, ppu) ← state.1.read state.2 address
      .ok (ppu, state.2)
  | write address data => state.1.write state.2 address data
  | takeNmi => .ok (state.1.takeNmi.2, state.2)
  | reset => .ok (state.1.reset, state.2)
  | board address data => .ok (state.1, state.2.cpuWrite address data)

def runChecked (state : CheckedPpu × Cartridge) (operations : List PpuOperation) :
    Except PpuFault (CheckedPpu × Cartridge) :=
  operations.foldlM applyChecked state

end PpuOperation

end Famicom
