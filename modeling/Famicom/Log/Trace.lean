import Famicom.Console
import Famicom.Log.Basic

namespace Famicom

/-- Notes on the stores of a microprogram, each taken on the bus after the cycle of the store and
before its effect. -/
def Microprogram.notes {Result Note : Type} (note : Bus → UInt16 → UInt8 → List Note) :
    Microprogram Result → Bus → List Note
  | done _, _ => []
  | idle next, bus => next.notes note bus.tick
  | load address rule next, bus =>
      let (data, bus) := bus.readOperand address rule
      (next data).notes note bus
  | store address data next, bus =>
      let ticked := bus.tick
      note ticked address data ++ next.notes note (ticked.deliver address data)

def Mapper.storeEntries (mapper : Mapper) (address : UInt16) (data : UInt8) : List LogEntry :=
  match mapper with
  | nrom _ => []
  | mmc1 board =>
      match board.completes data with
      | none => []
      | some value =>
          let register := Numeral.hex 4 (address &&& 0xe000).toNat
          [{ level := .trace, source := .mmc1
             text := s!"MMC1 ${register} <- {Numeral.binary 5 value.toNat}" }]

def Bus.storeEntries (bus : Bus) (address : UInt16) (data : UInt8) : List LogEntry :=
  if address = 0x4014 then
    [{ level := .trace, source := .bus
       text := s!"OAM-DMA from ${Numeral.hex 2 data.toNat}00 at cycle {bus.cycles}" }]
  else if 0x8000 ≤ address then bus.cartridge.mapper.storeEntries address data
  else []

def Registers.traceText (registers : Registers) (opcode : UInt8) (cycle : Nat) : String :=
  let byte (value : UInt8) := Numeral.hex 2 value.toNat
  String.join [Numeral.hex 4 registers.pc.toNat, "  ", byte opcode, " ",
    Instruction.mnemonic opcode, "  A:", byte registers.a, " X:", byte registers.x, " Y:",
    byte registers.y, " P:", registers.p.text, " SP:", byte registers.sp, " CYC:", toString cycle]

namespace Machine

/-- An interrupt entry stores on the stack alone, so it has nothing to report. -/
def traceEntries (machine : Machine) : List LogEntry :=
  let cpu := machine.cpu
  let registers := cpu.registers
  if cpu.nmiPending || cpu.irqPending then []
  else if (Instruction.decode (machine.bus.peek registers.pc)).isNone then []
  else
    let (opcode, bus) := machine.bus.read registers.pc
    match Instruction.decode opcode with
    | none => []
    | some instruction =>
        let text := registers.traceText opcode machine.bus.cycles
        let fetched := { registers with pc := registers.pc + 1 }
        { level := .trace, source := .processor, text } ::
          (instruction.execute fetched).notes Bus.storeEntries bus

end Machine

namespace Console

def traceEntries (console : Console) : List LogEntry :=
  if console.halted.isSome || console.bus.transfer.isSome then []
  else console.machine.traceEntries

def traceUntil (goal : Console → Nat → Bool) (console : Console) (spent : Nat) :
    Nat → List LogEntry
  | 0 => []
  | fuel + 1 =>
      if goal console spent then []
      else
        let console := console.pollStop
        if console.paused then []
        else
          console.traceEntries ++
            match console.step with
            | (.ok cycles, console) => traceUntil goal console (spent + cycles) fuel
            | (.error _, _) => []

def traceFrame (console : Console) : List LogEntry :=
  let frame := console.frame
  traceUntil (fun console _ => console.frame != frame) console 0 Beam.dotsPerFrame

end Console

end Famicom
