import Famicom.Byte

/-!
The frame sequencer counts processor cycles since the last write to $4017, marks the half frames and
raises the frame interrupt at the end of a four-step sequence.
-/

namespace Famicom

structure Sequencer where
  cycles : Nat := 0
  fiveStep : Bool := false
  irqEnabled : Bool := true
  irqLevel : Bool := false
  deriving DecidableEq, Inhabited

namespace Sequencer

def middleStep : Nat := 14913

def lastStep (sequencer : Sequencer) : Nat :=
  if sequencer.fiveStep then 37281 else 29829

def halfFrame (sequencer : Sequencer) : Bool :=
  sequencer.cycles == middleStep || sequencer.cycles == sequencer.lastStep

/-- One cycle; the second component says whether it completed a half frame. A four-step sequence
asserts the interrupt on its last three cycles. -/
def tick (sequencer : Sequencer) : Sequencer × Bool :=
  let stepped := { sequencer with cycles := sequencer.cycles + 1 }
  let last := stepped.lastStep
  let asserted := !stepped.fiveStep && stepped.irqEnabled && last - 1 ≤ stepped.cycles &&
    stepped.cycles ≤ last + 1
  ({ stepped with
      irqLevel := stepped.irqLevel || asserted
      cycles := if stepped.cycles = last + 1 then 0 else stepped.cycles },
    stepped.halfFrame)

/-- A write to $4017. The five-step sequence starts with a half frame. -/
def load (sequencer : Sequencer) (data : UInt8) : Sequencer × Bool :=
  let fiveStep := data.bit 7
  let irqEnabled := !data.bit 6
  ({ cycles := 0, fiveStep, irqEnabled, irqLevel := sequencer.irqLevel && irqEnabled }, fiveStep)

def acknowledge (sequencer : Sequencer) : Sequencer :=
  { sequencer with irqLevel := false }

end Sequencer

end Famicom
