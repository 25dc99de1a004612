import Famicom.Proofs.Ppu.Operation
import Famicom.Cartridge.Image
import Mathlib.Logic.Function.Basic

namespace Famicom

inductive PictureCell
  | pattern (offset : Nat)
  | nametable (offset : Fin 0x1000)
  | palette (index : Fin 0x20)
  deriving DecidableEq

def paletteIndex (address : Nat) : Fin 0x20 :=
  if address % 0x20 ∈ [0x10, 0x14, 0x18, 0x1c] then residue 0x20 (address - 0x10)
  else residue 0x20 address

theorem paletteCell_eq_paletteIndex (address : Nat) :
    Ppu.paletteCell address = paletteIndex address := by
  have bound := Nat.mod_lt address (show 0 < 0x20 by decide)
  unfold Ppu.paletteCell paletteIndex
  apply Fin.ext
  simp only [List.mem_cons, List.not_mem_nil, or_false]
  split_ifs <;> simp only [val_residue] <;> omega

namespace Cartridge

def cellAt (cartridge : Cartridge) (address : Nat) : PictureCell :=
  let address := address % 0x4000
  if address < 0x2000 then .pattern (cartridge.mapper.chrOffset address % cartridge.chr.size)
  else if address < 0x3f00 then .nametable (cartridge.nametableCell address)
  else .palette (paletteIndex address)

structure SameWiring (first second : Cartridge) : Prop where
  mapper : first.mapper = second.mapper
  size : first.chr.size = second.chr.size
  writable : first.chrWritable = second.chrWritable

theorem SameWiring.refl (cartridge : Cartridge) : SameWiring cartridge cartridge := ⟨rfl, rfl, rfl⟩

theorem SameWiring.trans {first second third : Cartridge} (one : SameWiring first second)
    (two : SameWiring second third) : SameWiring first third :=
  ⟨one.mapper.trans two.mapper, one.size.trans two.size, one.writable.trans two.writable⟩

theorem SameWiring.cellAt {first second : Cartridge} (same : SameWiring first second) :
    first.cellAt = second.cellAt := by
  funext address
  simp only [Cartridge.cellAt, nametableCell, mirroring, same.mapper, same.size]

theorem sameWiring_chrWrite (cartridge : Cartridge) (address : Nat) (data : UInt8) :
    SameWiring (cartridge.chrWrite address data) cartridge := by
  unfold chrWrite
  split
  · exact ⟨rfl, Chip.size_write _ _ _, rfl⟩
  · exact .refl cartridge

end Cartridge

/-! ## The port -/

/-- What a program knows of the port: the contents of all cells, and five registers as numbers. -/
structure DataPort where
  memory : PictureCell → UInt8
  buffer : UInt8
  address : Nat
  prepared : Nat
  secondWrite : Bool
  stride : Nat

namespace DataPort

variable (cartridge : Cartridge)

def powerOn : DataPort where
  memory
    | .pattern offset => if offset < cartridge.chr.size then cartridge.chr.read offset else 0
    | .nametable _ => 0
    | .palette _ => 0
  buffer := 0
  address := 0
  prepared := 0
  secondWrite := false
  stride := 1

def writeControl (port : DataPort) (data : UInt8) : DataPort :=
  { port with
    stride := if data.bit 2 then 32 else 1
    prepared := port.prepared / 0x1000 * 0x1000 + data.toNat % 4 * 0x400 + port.prepared % 0x400 }

def writeScroll (port : DataPort) (data : UInt8) : DataPort :=
  if port.secondWrite then
    { port with
      prepared := data.toNat % 8 * 0x1000 + port.prepared / 0x400 % 4 * 0x400 +
        data.toNat / 8 * 0x20 + port.prepared % 0x20
      secondWrite := false }
  else
    { port with
      prepared := port.prepared / 0x20 * 0x20 + data.toNat / 8
      secondWrite := true }

def writeAddress (port : DataPort) (data : UInt8) : DataPort :=
  if port.secondWrite then
    let prepared := port.prepared / 0x100 * 0x100 + data.toNat
    { port with prepared, address := prepared, secondWrite := false }
  else
    { port with
      prepared := data.toNat % 0x40 * 0x100 + port.prepared % 0x100
      secondWrite := true }

def advance (port : DataPort) : DataPort :=
  { port with address := (port.address + port.stride) % 0x8000 }

def store (port : DataPort) (data : UInt8) : DataPort :=
  let cell := cartridge.cellAt port.address
  let put (stored : UInt8) : DataPort :=
    { port with memory := Function.update port.memory cell stored }
  match cell with
  | .pattern _ => if cartridge.chrWritable then put data else port
  | .nametable _ => put data
  | .palette _ => put (data &&& 0x3f)

def answer (port : DataPort) (latch : UInt8) : UInt8 :=
  match cartridge.cellAt port.address with
  | .palette index => port.memory (.palette index) ||| (latch &&& 0xc0)
  | _ => port.buffer

def refill (port : DataPort) : DataPort :=
  let address := port.address % 0x4000
  let seen := if 0x3f00 ≤ address then address - 0x1000 else address
  { port with buffer := port.memory (cartridge.cellAt seen) }

def apply (port : DataPort) : PpuOperation → DataPort
  | .read address =>
      match address.toNat % 8 with
      | 2 => { port with secondWrite := false }
      | 7 => (port.refill cartridge).advance
      | _ => port
  | .write address data =>
      match address.toNat % 8 with
      | 0 => port.writeControl data
      | 5 => port.writeScroll data
      | 6 => port.writeAddress data
      | 7 => (port.store cartridge data).advance
      | _ => port
  | .reset => { port with buffer := 0, secondWrite := false, stride := 1 }
  | .tick | .takeNmi | .board _ _ => port

def run (port : DataPort) (operations : List PpuOperation) : DataPort :=
  operations.foldl (apply cartridge) port

theorem apply_congr {first second : Cartridge} (same : first.SameWiring second) :
    apply first = apply second := by
  funext port operation
  simp only [apply, store, refill, same.cellAt, same.writable]

theorem answer_congr {first second : Cartridge} (same : first.SameWiring second) :
    answer first = answer second := by
  funext port latch
  simp only [answer, same.cellAt]

end DataPort

/-! ## The port of a picture unit -/

namespace Ppu

def contents (state : Ppu × Cartridge) : PictureCell → UInt8
  | .pattern offset => if offset < state.2.chr.size then state.2.chr.read offset else 0
  | .nametable offset => state.1.nametables.read offset
  | .palette index => state.1.palettes.read index

def dataPort (state : Ppu × Cartridge) : DataPort where
  memory := contents state
  buffer := state.1.readBuffer
  address := state.1.v.toNat
  prepared := state.1.t.toNat
  secondWrite := state.1.secondWrite
  stride := state.1.control.addressStep

theorem readVram_eq (ppu : Ppu) (cartridge : Cartridge) (address : Nat) :
    ppu.readVram cartridge address = contents (ppu, cartridge) (cartridge.cellAt address) := by
  have positive : 0 < cartridge.chr.size := cartridge.chr.nonempty
  unfold readVram Cartridge.cellAt
  dsimp only
  split_ifs with low middle
  · simp only [contents, Cartridge.chrRead, Nat.mod_eq_of_lt low, Nat.mod_lt _ positive, if_true]
    exact (cartridge.chr.read_mod _).symm
  · rfl
  · simp only [contents, paletteCell_eq_paletteIndex]

theorem contents_chrWrite (ppu : Ppu) (cartridge : Cartridge)
    (writable : cartridge.chrWritable = true) {address : Nat} (low : address < 0x2000)
    (data : UInt8) :
    contents (ppu, cartridge.chrWrite address data) =
      Function.update (contents (ppu, cartridge))
        (.pattern (cartridge.mapper.chrOffset address % cartridge.chr.size)) data := by
  funext cell
  simp only [Cartridge.chrWrite, writable, if_true, Nat.mod_eq_of_lt low, Function.update_apply]
  cases cell with
  | pattern offset =>
      simp only [contents, Chip.size_write, Chip.read_write, PictureCell.pattern.injEq]
      -- A chip wraps every offset, so a cell past its end could seem to change; it is not one.
      by_cases inside : offset < cartridge.chr.size
      · simp only [inside, if_true, Nat.mod_eq_of_lt inside, eq_comm]
      · have elsewhere : offset ≠
            cartridge.mapper.chrOffset address % cartridge.chr.size := fun same =>
          inside (same ▸ Nat.mod_lt _ cartridge.chr.nonempty)
        simp [inside, elsewhere]
  | nametable offset => simp [contents]
  | palette index => simp [contents]

theorem contents_nametables (ppu : Ppu) (cartridge : Cartridge) (place : Fin 0x1000)
    (data : UInt8) :
    contents ({ ppu with nametables := ppu.nametables.write place data }, cartridge) =
      Function.update (contents (ppu, cartridge)) (.nametable place) data := by
  funext cell
  cases cell with
  | pattern offset => simp [contents]
  | nametable offset => simp [contents, Function.update_apply, Memory.read_write, eq_comm]
  | palette index => simp [contents]

theorem contents_palettes (ppu : Ppu) (cartridge : Cartridge) (place : Fin 0x20) (data : UInt8) :
    contents ({ ppu with palettes := ppu.palettes.write place data }, cartridge) =
      Function.update (contents (ppu, cartridge)) (.palette place) data := by
  funext cell
  cases cell with
  | pattern offset => simp [contents]
  | nametable offset => simp [contents]
  | palette index => simp [contents, Function.update_apply, Memory.read_write, eq_comm]

/-! ## What each register does to the port -/

theorem rendering_off : ({} : PpuMask).rendering = false := by decide

theorem addressStep_off : ({} : PpuControl).addressStep = 1 := by decide

section Registers

variable {ppu : Ppu} (dark : ppu.mask.rendering = false) (cartridge : Cartridge)
include dark

theorem dataPort_tick :
    dataPort (ppu.tick cartridge, cartridge) = dataPort (ppu, cartridge) := by
  obtain ⟨_, _, _, _, ticked⟩ := ppu.tick_dark cartridge dark
  rw [ticked]
  rfl

theorem advanceAddress_dark :
    ppu.advanceAddress = { ppu with v := ppu.v.advance ppu.control.addressStep } := by
  simp [advanceAddress, fetching, dark]

theorem dataPort_advanceAddress :
    dataPort (ppu.advanceAddress, cartridge) = (dataPort (ppu, cartridge)).advance := by
  rw [advanceAddress_dark dark]
  simp only [dataPort, DataPort.advance, ScrollAddress.advance, ScrollAddress.toNat_ofNat]
  rfl

end Registers

theorem dataPort_refillBuffer (ppu : Ppu) (cartridge : Cartridge) :
    dataPort (ppu.refillBuffer cartridge, cartridge) =
      (dataPort (ppu, cartridge)).refill cartridge := by
  simp only [refillBuffer, readVram_eq]
  rfl

theorem dataPort_writeControl (ppu : Ppu) (cartridge : Cartridge) (data : UInt8) :
    dataPort (ppu.writeControl data, cartridge) =
      (dataPort (ppu, cartridge)).writeControl data := by
  have column := ppu.t.coarseX.isLt
  have row := ppu.t.coarseY.isLt
  have horizontal := data.toNat_bit 0
  have vertical := data.toNat_bit 1
  have prepared :
      ({ ppu.t with nametableX := data.bit 0, nametableY := data.bit 1 } : ScrollAddress).toNat =
        ppu.t.toNat / 0x1000 * 0x1000 + data.toNat % 4 * 0x400 + ppu.t.toNat % 0x400 := by
    have left := Bool.toNat_le ppu.t.nametableX
    have top := Bool.toNat_le ppu.t.nametableY
    simp only [ScrollAddress.toNat, ScrollAddress.tileOffset]
    omega
  simp only [dataPort, writeControl, updateNmi, DataPort.writeControl, PpuControl.nametableX,
    PpuControl.nametableY, prepared]
  rfl

theorem dataPort_writeScroll (ppu : Ppu) (cartridge : Cartridge) (data : UInt8) :
    dataPort (ppu.writeScroll data, cartridge) =
      (dataPort (ppu, cartridge)).writeScroll data := by
  have byte := data.toNat_lt
  have column := ppu.t.coarseX.isLt
  have row := ppu.t.coarseY.isLt
  have fine := ppu.t.fineY.isLt
  have left := Bool.toNat_le ppu.t.nametableX
  have top := Bool.toNat_le ppu.t.nametableY
  cases second : ppu.secondWrite with
  | true =>
      have prepared : ({ ppu.t with
          coarseY := residue 32 (data.toNat / 8), fineY := residue 8 data.toNat } :
            ScrollAddress).toNat =
          data.toNat % 8 * 0x1000 + ppu.t.toNat / 0x400 % 4 * 0x400 + data.toNat / 8 * 0x20 +
            ppu.t.toNat % 0x20 := by
        simp only [ScrollAddress.toNat, ScrollAddress.tileOffset, val_residue]
        omega
      simp only [dataPort, writeScroll, DataPort.writeScroll, second, if_true, prepared]
      rfl
  | false =>
      have prepared : ({ ppu.t with coarseX := residue 32 (data.toNat / 8) } :
            ScrollAddress).toNat = ppu.t.toNat / 0x20 * 0x20 + data.toNat / 8 := by
        simp only [ScrollAddress.toNat, ScrollAddress.tileOffset, val_residue]
        omega
      simp only [dataPort, writeScroll, DataPort.writeScroll, second, Bool.false_eq_true, if_false,
        prepared]
      rfl

theorem dataPort_writeAddress (ppu : Ppu) (cartridge : Cartridge) (data : UInt8) :
    dataPort (ppu.writeAddress data, cartridge) =
      (dataPort (ppu, cartridge)).writeAddress data := by
  have byte := data.toNat_lt
  have bound := ppu.t.toNat_lt
  cases second : ppu.secondWrite with
  | true =>
      have prepared : (ppu.t.setLow data).toNat = ppu.t.toNat / 0x100 * 0x100 + data.toNat := by
        rw [ScrollAddress.setLow, ScrollAddress.toNat_ofNat]
        omega
      simp only [dataPort, writeAddress, DataPort.writeAddress, second, if_true, prepared]
      rfl
  | false =>
      have prepared : (ppu.t.setHigh data).toNat =
          data.toNat % 0x40 * 0x100 + ppu.t.toNat % 0x100 := by
        rw [ScrollAddress.setHigh, ScrollAddress.toNat_ofNat]
        omega
      simp only [dataPort, writeAddress, DataPort.writeAddress, second, Bool.false_eq_true,
        if_false, prepared]
      rfl

theorem dataPort_writeVram (ppu : Ppu) (cartridge : Cartridge) (data : UInt8) :
    dataPort (ppu.writeVram cartridge data) = (dataPort (ppu, cartridge)).store cartridge data := by
  have named : (dataPort (ppu, cartridge)).address % 0x4000 = ppu.v.address := rfl
  unfold writeVram DataPort.store Cartridge.cellAt
  dsimp only
  rw [named]
  by_cases low : ppu.v.address < 0x2000
  · cases writable : cartridge.chrWritable with
    | true =>
        have stored := contents_chrWrite ppu cartridge writable low data
        simp only [low, if_true, dataPort, stored]
    | false => simp [low, Cartridge.chrWrite, writable]
  · by_cases middle : ppu.v.address < 0x3f00
    · have stored := contents_nametables ppu cartridge
        (cartridge.nametableCell ppu.v.address) data
      simp only [low, middle, if_true, if_false, dataPort, stored]
    · have stored := contents_palettes ppu cartridge (paletteIndex ppu.v.address) (data &&& 0x3f)
      simp only [low, middle, if_false, dataPort, paletteCell_eq_paletteIndex, stored]

theorem dataPort_read {ppu : Ppu} (dark : ppu.mask.rendering = false) (cartridge : Cartridge)
    (address : UInt16) :
    dataPort ((ppu.read cartridge address).2, cartridge) =
      (dataPort (ppu, cartridge)).apply cartridge (.read address) := by
  have refilled : (ppu.refillBuffer cartridge).mask.rendering = false := dark
  simp only [read, readRegister, DataPort.apply]
  generalize address.toNat % 8 = register
  match register with
  | 7 =>
      simp only [readData]
      rw [← dataPort_refillBuffer, ← dataPort_advanceAddress refilled]
      rfl
  | 0 | 1 | 2 | 3 | 4 | 5 | 6 | _ + 8 => rfl

theorem dataPort_write {ppu : Ppu} (dark : ppu.mask.rendering = false) (cartridge : Cartridge)
    (address : UInt16) (data : UInt8) :
    dataPort (ppu.write cartridge address data) =
      (dataPort (ppu, cartridge)).apply cartridge (.write address data) := by
  simp only [write, DataPort.apply]
  generalize address.toNat % 8 = register
  match register with
  | 0 => exact dataPort_writeControl { ppu with ioLatch := data } cartridge data
  | 1 =>
      obtain ⟨_, _, masked⟩ := writeMask_updates { ppu with ioLatch := data } data
      rw [masked]
      rfl
  | 4 =>
      obtain ⟨_, _, stored⟩ := writeObject_updates { ppu with ioLatch := data } data
      rw [stored]
      rfl
  | 5 => exact dataPort_writeScroll { ppu with ioLatch := data } cartridge data
  | 6 => exact dataPort_writeAddress { ppu with ioLatch := data } cartridge data
  | 7 =>
      have stored := dataPort_writeVram { ppu with ioLatch := data } cartridge data
      have stillDark : (writeVram { ppu with ioLatch := data } cartridge data).1.mask.rendering =
          false := by
        obtain ⟨_, _, written⟩ := writeVram_updates { ppu with ioLatch := data } cartridge data
        rw [written]
        exact dark
      exact (dataPort_advanceAddress stillDark _).trans (congrArg DataPort.advance stored)
  | 2 | 3 | _ + 8 => rfl

theorem peek_data (ppu : Ppu) (cartridge : Cartridge) {address : UInt16}
    (register : address.toNat % 8 = 7) :
    ppu.peek cartridge address = (dataPort (ppu, cartridge)).answer cartridge ppu.ioLatch := by
  have named : (dataPort (ppu, cartridge)).address % 0x4000 = ppu.v.address := rfl
  have bound : ppu.v.address % 0x4000 = ppu.v.address := Nat.mod_mod _ _
  simp only [peek, register, dataByte, readVram_eq, DataPort.answer, Cartridge.cellAt, named, bound]
  by_cases low : ppu.v.address < 0x2000
  · have below : ¬ 0x3f00 ≤ ppu.v.address := by omega
    simp only [low, below, if_true, if_false]
    rfl
  · by_cases middle : ppu.v.address < 0x3f00
    · have below : ¬ 0x3f00 ≤ ppu.v.address := by omega
      simp only [low, middle, below, if_true, if_false]
      rfl
    · have above : 0x3f00 ≤ ppu.v.address := by omega
      simp only [low, middle, above, if_true, if_false]
      rfl

theorem write_mask (ppu : Ppu) (cartridge : Cartridge) (address : UInt16) (data : UInt8) :
    (ppu.write cartridge address data).1.mask =
      if address.toNat % 8 = 1 then { byte := data } else ppu.mask := by
  unfold write
  dsimp only
  split
  · rename_i register
    simp only [register]
    rfl
  · rename_i register
    obtain ⟨_, _, masked⟩ := writeMask_updates { ppu with ioLatch := data } data
    rw [masked, if_pos register]
  · rename_i register
    simp only [register]
    rfl
  · rename_i register
    obtain ⟨_, _, stored⟩ := writeObject_updates { ppu with ioLatch := data } data
    simp only [stored, register]
    rfl
  · rename_i register
    obtain ⟨_, _, _, scrolled⟩ := writeScroll_updates { ppu with ioLatch := data } data
    simp only [scrolled, register]
    rfl
  · rename_i register
    obtain ⟨_, _, _, addressed⟩ := writeAddress_updates { ppu with ioLatch := data } data
    simp only [addressed, register]
    rfl
  · rename_i register
    obtain ⟨_, _, _, stored⟩ := writeData_updates { ppu with ioLatch := data } cartridge data
    simp only [stored, register]
    rfl
  · rename_i register
    rw [if_neg fun first => ?_]
    exact absurd first (by assumption)

theorem write_wiring (ppu : Ppu) (cartridge : Cartridge) (address : UInt16) (data : UInt8) :
    (ppu.write cartridge address data).2.SameWiring cartridge := by
  unfold write writeVram
  dsimp only
  split
  case h_7 =>
    split_ifs
    · exact cartridge.sameWiring_chrWrite _ _
    · exact .refl cartridge
    · exact .refl cartridge
  all_goals exact .refl cartridge

end Ppu

namespace PpuOperation

/-- The operation leaves both layers off and the board's registers as they are. -/
def keepsDark : PpuOperation → Bool
  | write address data => address.toNat % 8 != 1 || !PpuMask.rendering { byte := data }
  | board address _ => decide (address < 0x8000)
  | tick | read _ | takeNmi | reset => true

structure Dark (cartridge : Cartridge) (state : Ppu × Cartridge) : Prop where
  mask : state.1.mask.rendering = false
  wiring : state.2.SameWiring cartridge

theorem dark_powerOn (cartridge : Cartridge) : Dark cartridge ({}, cartridge) where
  mask := Ppu.rendering_off
  wiring := .refl cartridge

theorem dark_apply {cartridge : Cartridge} {state : Ppu × Cartridge} (dark : Dark cartridge state)
    {operation : PpuOperation} (keeps : operation.keepsDark = true) :
    Dark cartridge (apply state operation) := by
  cases operation with
  | tick =>
      obtain ⟨_, _, _, _, ticked⟩ := state.1.tick_dark state.2 dark.mask
      refine ⟨?_, dark.wiring⟩
      simp only [apply, ticked, dark.mask]
  | read address =>
      refine ⟨?_, dark.wiring⟩
      rcases read_cases state.1 state.2 address with ⟨_, shown⟩ | ⟨_, _, _, shown⟩
      · simp only [apply, shown]
        exact dark.mask
      · simp only [apply, shown, dark.mask]
  | write address data =>
      refine ⟨?_, (state.1.write_wiring state.2 address data).trans dark.wiring⟩
      simp only [apply, Ppu.write_mask]
      split
      · rename_i register
        simpa [keepsDark, register] using keeps
      · exact dark.mask
  | takeNmi => exact ⟨dark.mask, dark.wiring⟩
  | reset => exact ⟨Ppu.rendering_off, dark.wiring⟩
  | board address data =>
      refine ⟨dark.mask, Cartridge.SameWiring.trans ?_ dark.wiring⟩
      have low : address < 0x8000 := of_decide_eq_true keeps
      simp only [apply, Cartridge.cpuWrite, low, if_true]
      split_ifs <;> exact ⟨rfl, rfl, rfl⟩

theorem dataPort_apply {cartridge : Cartridge} {state : Ppu × Cartridge}
    (dark : Dark cartridge state) {operation : PpuOperation}
    (keeps : operation.keepsDark = true) :
    Ppu.dataPort (apply state operation) =
      (Ppu.dataPort state).apply cartridge operation := by
  rw [← DataPort.apply_congr dark.wiring]
  obtain ⟨ppu, current⟩ := state
  have off : ppu.mask.rendering = false := dark.mask
  cases operation with
  | tick => exact Ppu.dataPort_tick off current
  | read address => exact Ppu.dataPort_read off current address
  | write address data => exact Ppu.dataPort_write off current address data
  | takeNmi => rfl
  | reset =>
      simp only [apply, Ppu.reset, Ppu.dataPort, DataPort.apply, Ppu.addressStep_off]
      rfl
  | board address data =>
      have low : address < 0x8000 := of_decide_eq_true keeps
      simp only [apply, Cartridge.cpuWrite, low, if_true]
      split_ifs <;> rfl

theorem dark_run {cartridge : Cartridge} {state : Ppu × Cartridge} (dark : Dark cartridge state)
    {history : List PpuOperation} (keeps : history.all keepsDark = true) :
    Dark cartridge (run state history) := by
  induction history generalizing state with
  | nil => exact dark
  | cons operation rest continues =>
      rw [List.all_cons, Bool.and_eq_true] at keeps
      exact continues (dark_apply dark keeps.1) keeps.2

theorem dataPort_run {cartridge : Cartridge} {state : Ppu × Cartridge}
    (dark : Dark cartridge state) {history : List PpuOperation}
    (keeps : history.all keepsDark = true) :
    Ppu.dataPort (run state history) = (Ppu.dataPort state).run cartridge history := by
  induction history generalizing state with
  | nil => rfl
  | cons operation rest continues =>
      rw [List.all_cons, Bool.and_eq_true] at keeps
      have later := continues (dark_apply dark keeps.1) keeps.2
      rw [dataPort_apply dark keeps.1] at later
      exact later

theorem dataPort_powerOn (cartridge : Cartridge) :
    Ppu.dataPort ({}, cartridge) = DataPort.powerOn cartridge := by
  have memory : Ppu.contents ({}, cartridge) = (DataPort.powerOn cartridge).memory := by
    funext cell
    cases cell with
    | pattern offset => rfl
    | nametable offset => exact Memory.read_fill 0 offset
    | palette index => exact Memory.read_fill 0 index
  simp only [Ppu.dataPort, memory, Ppu.addressStep_off]
  rfl

/-- From power-on and with both layers off, the picture memory is the abstract one whatever the
program does to the registers and however many dots pass: all cells, the buffer and the address
agree, a cell is read under every name it has, and a read of the port returns what it says. -/
theorem dataPort_faithful (cartridge : Cartridge) (history : List PpuOperation)
    (keeps : history.all keepsDark = true) :
    let state := run ({}, cartridge) history
    let port := (DataPort.powerOn cartridge).run cartridge history
    Ppu.dataPort state = port ∧
    (∀ address, state.1.readVram state.2 address = port.memory (cartridge.cellAt address)) ∧
    (∀ address : UInt16, address.toNat % 8 = 7 →
      (state.1.read state.2 address).1 = port.answer cartridge state.1.ioLatch) := by
  intro state port
  have wiring := (dark_run (dark_powerOn cartridge) keeps).wiring
  have agree : Ppu.dataPort state = port := by
    rw [dataPort_run (dark_powerOn cartridge) keeps, dataPort_powerOn]
  refine ⟨agree, fun address => ?_, fun address register => ?_⟩
  · rw [Ppu.readVram_eq, wiring.cellAt, ← agree]
    rfl
  · rw [← agree, ← DataPort.answer_congr wiring, Ppu.read_fst]
    exact Ppu.peek_data state.1 state.2 register

/-- A colour stored under its second name, and a byte of a nametable read under its mirrored
address. -/
def aliasedAccesses : List PpuOperation :=
  [.write 0x2006 0x3f, .write 0x2006 0x10, .write 0x2007 0x6a, .tick,
    .write 0x2006 0x20, .write 0x2006 0x05, .write 0x2007 0x77, .read 0x2002, .tick,
    .write 0x2006 0x24, .write 0x2006 0x05, .read 0x2007, .tick,
    .write 0x2006 0x3f, .write 0x2006 0x00]

theorem aliasedAccesses_read :
    aliasedAccesses.all keepsDark = true ∧
    ((run ({}, Cartridge.empty) aliasedAccesses).1.read
      (run ({}, Cartridge.empty) aliasedAccesses).2 0x2007).1 = 0x2a ∧
    (run ({}, Cartridge.empty) aliasedAccesses).1.readBuffer = 0x77 := by
  have keeps : aliasedAccesses.all keepsDark = true := by decide
  have latch : (run ({}, Cartridge.empty) aliasedAccesses).1.ioLatch = 0 := by decide +kernel
  obtain ⟨agree, _, answered⟩ := dataPort_faithful Cartridge.empty aliasedAccesses keeps
  refine ⟨keeps, ?_, ?_⟩
  -- Both values come from the abstract machine, which has no dots to run.
  · rw [answered 0x2007 rfl, latch]
    decide +kernel
  · have buffer := congrArg DataPort.buffer agree
    simp only [Ppu.dataPort] at buffer
    rw [buffer]
    decide +kernel

end PpuOperation

end Famicom
