import Famicom.Proofs.Console.Run
import Mathlib.Data.Nat.Init

namespace Famicom

attribute [local irreducible] Bus.tick

open Registers (nmiVector irqVector)

namespace Console

/-- The interrupt flag against which the line is polled after so many steps: as the last instruction
found it, but as restored by a return from interrupt, and set by an entry. A transfer changes
nothing. -/
def pollMask (cartridge : Cartridge) : Nat → Bool
  | 0 => false
  | count + 1 =>
      let console := after cartridge count
      if console.Transfers then pollMask cartridge count
      else if console.EntersHandler nmiVector ∨ console.EntersHandler irqVector then true
      else if console.machine.fetchedOpcode = 0x40 then
        (after cartridge (count + 1)).registers.p.interruptDisable
      else console.registers.p.interruptDisable

end Console

end Famicom
