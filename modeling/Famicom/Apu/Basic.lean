import Famicom.Apu.Length
import Famicom.Apu.Sequencer
import Famicom.Memory

/-!
The sound unit as far as a program can read it back: the last values written to its registers, four
length counters and the frame interrupt.
-/

namespace Famicom

structure Apu where
  registers : Memory 0x14 := Memory.fill 0x14 0
  sequencer : Sequencer := {}
  pulse1 : LengthCounter := {}
  pulse2 : LengthCounter := {}
  triangle : LengthCounter := {}
  noise : LengthCounter := {}
  dmcEnabled : Bool := false

namespace Apu

def clockLengths (apu : Apu) (halfFrame : Bool) : Apu :=
  if halfFrame then
    { apu with
      pulse1 := apu.pulse1.clock
      pulse2 := apu.pulse2.clock
      triangle := apu.triangle.clock
      noise := apu.noise.clock }
  else apu

def tick (apu : Apu) : Apu :=
  let (sequencer, halfFrame) := apu.sequencer.tick
  { apu with sequencer }.clockLengths halfFrame

def irq (apu : Apu) : Bool := apu.sequencer.irqLevel

def status (apu : Apu) : UInt8 :=
  UInt8.ofNat (apu.irq.toNat * 0x40 + apu.noise.active.toNat * 8 + apu.triangle.active.toNat * 4 +
    apu.pulse2.active.toNat * 2 + apu.pulse1.active.toNat)

def acknowledge (apu : Apu) : Apu :=
  { apu with sequencer := apu.sequencer.acknowledge }

def enableChannels (apu : Apu) (data : UInt8) : Apu :=
  { apu with
    dmcEnabled := data.bit 4
    noise := apu.noise.setEnabled (data.bit 3)
    triangle := apu.triangle.setEnabled (data.bit 2)
    pulse2 := apu.pulse2.setEnabled (data.bit 1)
    pulse1 := apu.pulse1.setEnabled (data.bit 0) }

def writeSequencer (apu : Apu) (data : UInt8) : Apu :=
  let (sequencer, halfFrame) := apu.sequencer.load data
  { apu with sequencer }.clockLengths halfFrame

def writeChannel (apu : Apu) (register : Nat) (data : UInt8) : Apu :=
  match register with
  | 0x0 => { apu with pulse1 := { apu.pulse1 with halted := data.bit 5 } }
  | 0x3 => { apu with pulse1 := apu.pulse1.load data }
  | 0x4 => { apu with pulse2 := { apu.pulse2 with halted := data.bit 5 } }
  | 0x7 => { apu with pulse2 := apu.pulse2.load data }
  | 0x8 => { apu with triangle := { apu.triangle with halted := data.bit 7 } }
  | 0xb => { apu with triangle := apu.triangle.load data }
  | 0xc => { apu with noise := { apu.noise with halted := data.bit 5 } }
  | 0xf => { apu with noise := apu.noise.load data }
  | _ => apu

/-- Only $4000 to $4013, $4015 and $4017 have an effect. -/
def write (apu : Apu) (address : UInt16) (data : UInt8) : Apu :=
  if channel : 0x4000 ≤ address.toNat ∧ address.toNat < 0x4014 then
    let register : Fin 0x14 := ⟨address.toNat - 0x4000, by omega⟩
    { apu with registers := apu.registers.write register data }.writeChannel register data
  else if address = 0x4015 then apu.enableChannels data
  else if address = 0x4017 then apu.writeSequencer data
  else apu

def reset (apu : Apu) : Apu :=
  (apu.enableChannels 0).acknowledge

end Apu

end Famicom
