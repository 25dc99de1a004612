import Famicom.Cartridge.Image
import Famicom.Machine

/-!
The console drives a machine: between steps it carries interrupt requests from the units to the
processor and runs transfers to object memory, and it remembers whether it is paused or halted.
-/

namespace Famicom

structure Console where
  machine : Machine
  paused : Bool := false
  halted : Option CpuError := none

namespace Console

def bus (console : Console) : Bus := console.machine.bus

def registers (console : Console) : Registers := console.machine.cpu.registers

def frame (console : Console) : Nat := console.bus.ppu.beam.frame

def new (cartridge : Cartridge) : Console where
  machine := Machine.new cartridge

/-- Powers up a fresh machine. Only the pause and a request to stop are kept. -/
def insert (console : Console) (cartridge : Cartridge) : Console where
  machine := Machine.resetCpu (Bus.new cartridge console.bus.published.stopRequested)
  paused := console.paused

def load (console : Console) (image : ByteArray) : Except ImageError Console := do
  let cartridge ← Cartridge.load image
  return console.insert cartridge

def reset (console : Console) : Console :=
  { console with machine := Machine.resetCpu console.bus.reset, halted := none }

def advance (machine : Machine) : Except CpuError Nat × Machine :=
  if machine.bus.transfer.isSome then
    let (cycles, bus) := machine.bus.runTransfer
    (.ok cycles, { machine with bus })
  else machine.step

def carryRequests (machine : Machine) : Machine :=
  let (edge, bus) := machine.bus.takeNmi
  let machine := { machine with bus }
  (if edge then machine.setNmi else machine).pollIrq bus.irqLine

/-- After an opcode that cannot run every further step repeats the same error. -/
def step (console : Console) : Except CpuError Nat × Console :=
  match console.halted with
  | some error => (.error error, console)
  | none =>
      match advance console.machine with
      | (.ok cycles, machine) => (.ok cycles, { console with machine := carryRequests machine })
      | (.error error, machine) => (.error error, { console with machine, halted := some error })

/-- A request to stop becomes a pause. -/
def pollStop (console : Console) : Console :=
  if console.bus.published.stopRequested then
    { console with
      machine := { console.machine with bus := console.machine.bus.setStopRequested false }
      paused := true }
  else console

def runUntil (goal : Console → Nat → Bool) (console : Console) (spent : Nat) :
    Nat → Except CpuError Nat × Console
  | 0 => (.ok spent, console)
  | fuel + 1 =>
      if goal console spent then (.ok spent, console)
      else
        let console := console.pollStop
        if console.paused then (.ok spent, console)
        else
          match console.step with
          | (.ok cycles, console) => runUntil goal console (spent + cycles) fuel
          | (.error error, console) => (.error error, console)

/-- Runs until the picture unit begins the next frame. Every step takes a cycle or more, so a frame
has fewer steps than dots. -/
def runFrame (console : Console) : Except CpuError Nat × Console :=
  let frame := console.frame
  runUntil (fun console _ => console.frame != frame) console 0 Beam.dotsPerFrame

def runCycles (console : Console) (count : Nat) : Except CpuError Nat × Console :=
  runUntil (fun _ spent => decide (count ≤ spent)) console 0 count

def start (console : Console) : Console := { console with paused := false }

def pause (console : Console) : Console := { console with paused := true }

def resume (console : Console) : Console :=
  match console.halted with
  | some error =>
      { console with machine := console.machine.setPc (error.location + 1), halted := none }
  | none => console

def requestStop (console : Console) : Console :=
  { console with machine := { console.machine with
      bus := console.machine.bus.setStopRequested true } }

def setButtons (console : Console) (first second : Buttons) : Console :=
  { console with machine := { console.machine with
      bus := console.machine.bus.setButtons first second } }

end Console

end Famicom
