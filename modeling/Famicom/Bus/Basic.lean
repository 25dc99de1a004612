import Famicom.Apu.Basic
import Famicom.Bus.Controllers
import Famicom.Cpu.Microprogram
import Famicom.Ppu.Access
import Famicom.Ppu.Rendering

/-!
The processor's address space. Every read and write takes one cycle: the sound unit moves by one
cycle and the picture unit by three dots, then the access happens. `peek` shows what a read would
return without the cycle.
-/

namespace Famicom

structure ObjectTransfer where
  page : UInt8
  /-- Idle cycles before the first byte. -/
  delay : Nat
  deriving DecidableEq

structure Published where
  cycles : Nat := 0
  openBus : UInt8 := 0
  ppu : PpuSnapshot
  stopRequested : Bool := false
  deriving DecidableEq

structure Bus where
  ram : Memory 0x800
  cartridge : Cartridge
  ppu : Ppu
  apu : Apu
  controllers : Controllers
  transfer : Option ObjectTransfer
  published : Published

namespace Bus

/-- A fresh machine around a cartridge. A request to stop outlives the machine it was made to. -/
def new (cartridge : Cartridge) (stopRequested : Bool := false) : Bus where
  ram := Memory.fill 0x800 0
  cartridge
  ppu := {}
  apu := {}
  controllers := {}
  transfer := none
  published := { ppu := Ppu.snapshot {}, stopRequested }

def cycles (bus : Bus) : Nat := bus.published.cycles

def openBus (bus : Bus) : UInt8 := bus.published.openBus

/-- A write went past the end of secondary object memory. -/
def faulted (bus : Bus) : Bool := bus.ppu.evaluation.overrun

def tick (bus : Bus) : Bus :=
  let ppu := ((bus.ppu.tick bus.cartridge).tick bus.cartridge).tick bus.cartridge
  let cycles := bus.published.cycles + 1
  let snapshot := ppu.snapshot
  { bus with
    ppu
    apu := bus.apu.tick
    published := { bus.published with cycles, ppu := snapshot } }

def tickMany (bus : Bus) : Nat → Bus
  | 0 => bus
  | count + 1 => bus.tick.tickMany count

def setOpenBus (bus : Bus) (data : UInt8) : Bus :=
  { bus with published := { bus.published with openBus := data } }

def ramCell (address : UInt16) : Fin 0x800 := residue 0x800 address.toNat

/-- Bit 5 of the sound status and the upper bits of the controllers are those of the byte last
transferred. -/
def peek (bus : Bus) (address : UInt16) : UInt8 :=
  let latch := bus.openBus
  if address < 0x2000 then bus.ram.read (ramCell address)
  else if address < 0x4000 then bus.ppu.peek bus.cartridge address
  else if address = 0x4015 then (bus.apu.status &&& 0xdf) ||| (latch &&& 0x20)
  else if address = 0x4016 ∨ address = 0x4017 then
    bus.controllers.peek address ||| (latch &&& 0xe0)
  else if address < 0x4020 then latch
  else (bus.cartridge.cpuRead address).getD latch

def undriven (bus : Bus) (address : UInt16) : OpenBusRule → UInt8
  | .latch => bus.openBus
  | .addressHigh => address.highByte

def access (bus : Bus) (address : UInt16) (rule : OpenBusRule) : UInt8 × Bus :=
  let latch := bus.openBus
  if address < 0x2000 then
    let data := bus.ram.read (ramCell address)
    (data, bus.setOpenBus data)
  else if address < 0x4000 then
    let (data, ppu) := bus.ppu.read bus.cartridge address
    (data, { bus with ppu }.setOpenBus data)
  else if address = 0x4015 then
    let data := (bus.apu.status &&& 0xdf) ||| (latch &&& 0x20)
    (data, { bus with apu := bus.apu.acknowledge }.setOpenBus data)
  else if address = 0x4016 ∨ address = 0x4017 then
    let (serial, controllers) := bus.controllers.read address
    let data := serial ||| (latch &&& 0xe0)
    (data, { bus with controllers }.setOpenBus data)
  else if address < 0x4020 then (latch, bus)
  else
    let data := (bus.cartridge.cpuRead address).getD (bus.undriven address rule)
    (data, bus.setOpenBus data)

def readOperand (bus : Bus) (address : UInt16) (rule : OpenBusRule) : UInt8 × Bus :=
  bus.tick.access address rule

def read (bus : Bus) (address : UInt16) : UInt8 × Bus :=
  bus.readOperand address .latch

/-- One idle cycle if the count after the write is even, two if it is odd. -/
def requestTransfer (bus : Bus) (page : UInt8) : Bus :=
  { bus with transfer := some { page, delay := 1 + bus.cycles % 2 } }

def deliver (bus : Bus) (address : UInt16) (data : UInt8) : Bus :=
  let bus := bus.setOpenBus data
  if address < 0x2000 then { bus with ram := bus.ram.write (ramCell address) data }
  else if address < 0x4000 then
    let (ppu, cartridge) := bus.ppu.write bus.cartridge address data
    { bus with ppu, cartridge }
  else if address = 0x4014 then bus.requestTransfer data
  else if address = 0x4016 then { bus with controllers := bus.controllers.write data }
  else if address < 0x4018 then { bus with apu := bus.apu.write address data }
  else if address < 0x4020 then bus
  else { bus with cartridge := bus.cartridge.cpuWrite address data }

def write (bus : Bus) (address : UInt16) (data : UInt8) : Bus :=
  bus.tick.deliver address data

def copyPage (bus : Bus) (page : UInt8) : Nat → Bus
  | 0 => bus
  | count + 1 =>
      let source := UInt16.ofBytes (UInt8.ofNat (0x100 - (count + 1))) page
      let (data, bus) := bus.read source
      (bus.write 0x2004 data).copyPage page count

def runTransfer (bus : Bus) : Nat × Bus :=
  match bus.transfer with
  | none => (0, bus)
  | some transfer =>
      let start := bus.cycles
      let copied := (bus.tickMany transfer.delay).copyPage transfer.page 0x100
      (copied.cycles - start, { copied with transfer := none })

/-- The reset line reaches the registers of both units and drops a transfer that has not begun. -/
def reset (bus : Bus) : Bus :=
  { bus with ppu := bus.ppu.reset, apu := bus.apu.reset, transfer := none }

def takeNmi (bus : Bus) : Bool × Bus :=
  let (edge, ppu) := bus.ppu.takeNmi
  (edge, { bus with ppu })

def irqLine (bus : Bus) : Bool := bus.apu.irq

def setButtons (bus : Bus) (first second : Buttons) : Bus :=
  { bus with controllers := bus.controllers.setButtons first second }

def setStopRequested (bus : Bus) (stopRequested : Bool) : Bus :=
  { bus with published := { bus.published with stopRequested } }

end Bus

namespace Microprogram

def run {Result : Type} : Microprogram Result → Bus → Result × Bus
  | done result, bus => (result, bus)
  | idle next, bus => next.run bus.tick
  | load address rule next, bus =>
      let (data, bus) := bus.readOperand address rule
      (next data).run bus
  | store address data next, bus => next.run (bus.write address data)

@[simp] theorem run_pure {Result : Type} (result : Result) (bus : Bus) :
    (pure result : Microprogram Result).run bus = (result, bus) := rfl

theorem run_bind {First Second : Type} (program : Microprogram First)
    (continuation : First → Microprogram Second) (bus : Bus) :
    (program >>= continuation).run bus =
      (continuation (program.run bus).1).run (program.run bus).2 := by
  change (program.bind continuation).run bus = _
  induction program generalizing bus with
  | done result => rfl
  | idle next continues => exact continues bus.tick
  | load address rule next continues => exact continues _ _
  | store address data next continues => exact continues _

end Microprogram

end Famicom
