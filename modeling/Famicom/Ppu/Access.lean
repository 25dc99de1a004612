import Famicom.Ppu.Basic

namespace Famicom.Ppu

/-- A data access while the picture is fetched moves the address along both axes. -/
def advanceAddress (ppu : Ppu) : Ppu :=
  if ppu.fetching then { ppu with v := ppu.v.nextColumn.nextRow }
  else { ppu with v := ppu.v.advance ppu.control.addressStep }

/-- While secondary memory is being cleared every object byte reads $FF. Three bits of the third
byte of each object do not exist. -/
def readObject (ppu : Ppu) : UInt8 :=
  if ppu.fetching && decide (1 ≤ ppu.beam.dot) && decide (ppu.beam.dot ≤ 64) then 0xff
  else
    let byte := ppu.objects.read ⟨ppu.objectAddress.toNat, ppu.objectAddress.toNat_lt⟩
    if ppu.objectAddress.toNat % 4 = 2 then byte &&& 0xe3 else byte

def statusByte (ppu : Ppu) : UInt8 := ppu.status.toByte ||| (ppu.ioLatch &&& 0x1f)

def dataByte (ppu : Ppu) (cartridge : Cartridge) : UInt8 :=
  if 0x3f00 ≤ ppu.v.address then
    ppu.readVram cartridge ppu.v.address ||| (ppu.ioLatch &&& 0xc0)
  else ppu.readBuffer

def peek (ppu : Ppu) (cartridge : Cartridge) (address : UInt16) : UInt8 :=
  match address.toNat % 8 with
  | 2 => ppu.statusByte
  | 4 => ppu.readObject
  | 7 => ppu.dataByte cartridge
  | _ => ppu.ioLatch

def acknowledgeVblank (ppu : Ppu) : Ppu :=
  { ppu with status := { ppu.status with vblank := false }, secondWrite := false }.updateNmi

/-- Behind the palettes the buffer sees the nametable at the same place. -/
def refillBuffer (ppu : Ppu) (cartridge : Cartridge) : Ppu :=
  let address := ppu.v.address
  let source := if 0x3f00 ≤ address then address - 0x1000 else address
  { ppu with readBuffer := ppu.readVram cartridge source }

def readData (ppu : Ppu) (cartridge : Cartridge) : UInt8 × Ppu :=
  let refilled := ppu.refillBuffer cartridge
  let data :=
    if 0x3f00 ≤ refilled.v.address then
      refilled.readVram cartridge refilled.v.address ||| (refilled.ioLatch &&& 0xc0)
    else ppu.readBuffer
  (data, refilled.advanceAddress)

def readRegister (ppu : Ppu) (cartridge : Cartridge) (address : UInt16) : UInt8 × Ppu :=
  match address.toNat % 8 with
  | 2 => (ppu.statusByte, ppu.acknowledgeVblank)
  | 4 => (ppu.readObject, ppu)
  | 7 => ppu.readData cartridge
  | _ => (ppu.ioLatch, ppu)

def read (ppu : Ppu) (cartridge : Cartridge) (address : UInt16) : UInt8 × Ppu :=
  let (data, ppu) := ppu.readRegister cartridge address
  (data, { ppu with ioLatch := data })

theorem readData_fst (ppu : Ppu) (cartridge : Cartridge) :
    (ppu.readData cartridge).1 = ppu.dataByte cartridge := rfl

theorem read_fst (ppu : Ppu) (cartridge : Cartridge) (address : UInt16) :
    (ppu.read cartridge address).1 = ppu.peek cartridge address := by
  unfold read readRegister peek
  dsimp only
  split
  · rfl
  · rfl
  · exact ppu.readData_fst cartridge
  · rfl

def writeControl (ppu : Ppu) (data : UInt8) : Ppu :=
  let control : PpuControl := { byte := data }
  { ppu with
    control
    t := { ppu.t with nametableX := control.nametableX, nametableY := control.nametableY }
  }.updateNmi

def corruptObjects (objects : Memory 0x100) (row : Fin 32) : Memory 0x100 :=
  (List.finRange 8).foldl (fun objects offset =>
    objects.write ⟨row.val * 8 + offset.val, by omega⟩
      (objects.read ⟨offset.val, by omega⟩)) objects

/-- Switching rendering off in the middle of a fetched line marks a row of object memory; switching
it on again corrupts that row. -/
def writeMask (ppu : Ppu) (data : UInt8) : Ppu :=
  let mask : PpuMask := { byte := data }
  if ppu.mask.rendering && !mask.rendering && ppu.beam.onRenderingLine then
    { ppu with mask, corruptRow := some ppu.evaluation.row }
  else if !ppu.mask.rendering && mask.rendering then
    match ppu.corruptRow with
    | some row =>
        { ppu with mask, corruptRow := none, objects := corruptObjects ppu.objects row }
    | none => { ppu with mask }
  else { ppu with mask }

/-- While the picture is fetched a write only moves the object address to the next object. -/
def writeObject (ppu : Ppu) (data : UInt8) : Ppu :=
  if ppu.fetching then { ppu with objectAddress := ppu.objectAddress + 4 }
  else
    { ppu with
      objects := ppu.objects.write ⟨ppu.objectAddress.toNat, ppu.objectAddress.toNat_lt⟩ data
      objectAddress := ppu.objectAddress + 1 }

def writeScroll (ppu : Ppu) (data : UInt8) : Ppu :=
  let coarse := residue 32 (data.toNat / 8)
  let fine := residue 8 data.toNat
  if ppu.secondWrite then
    { ppu with t := { ppu.t with coarseY := coarse, fineY := fine }, secondWrite := false }
  else { ppu with t := { ppu.t with coarseX := coarse }, fineX := fine, secondWrite := true }

def writeAddress (ppu : Ppu) (data : UInt8) : Ppu :=
  if ppu.secondWrite then
    let t := ppu.t.setLow data
    { ppu with t, v := t, secondWrite := false }
  else { ppu with t := ppu.t.setHigh data, secondWrite := true }

def writeVram (ppu : Ppu) (cartridge : Cartridge) (data : UInt8) : Ppu × Cartridge :=
  let address := ppu.v.address
  if address < 0x2000 then (ppu, cartridge.chrWrite address data)
  else if address < 0x3f00 then
    ({ ppu with nametables := ppu.nametables.write (cartridge.nametableCell address) data },
      cartridge)
  else
    ({ ppu with palettes := ppu.palettes.write (paletteCell address) (data &&& 0x3f) }, cartridge)

def write (ppu : Ppu) (cartridge : Cartridge) (address : UInt16) (data : UInt8) :
    Ppu × Cartridge :=
  let ppu := { ppu with ioLatch := data }
  match address.toNat % 8 with
  | 0 => (ppu.writeControl data, cartridge)
  | 1 => (ppu.writeMask data, cartridge)
  | 3 => ({ ppu with objectAddress := data }, cartridge)
  | 4 => (ppu.writeObject data, cartridge)
  | 5 => (ppu.writeScroll data, cartridge)
  | 6 => (ppu.writeAddress data, cartridge)
  | 7 =>
      let (ppu, cartridge) := ppu.writeVram cartridge data
      (ppu.advanceAddress, cartridge)
  | _ => (ppu, cartridge)

end Famicom.Ppu
