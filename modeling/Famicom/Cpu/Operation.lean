import Famicom.Cpu.Arithmetic
import Famicom.Cpu.Mode

namespace Famicom

inductive Operation
  | adc | ahx | alr | anc | and | arr | asl | axs
  | bcc | bcs | beq | bit | bmi | bne | bpl | brk | bvc | bvs
  | clc | cld | cli | clv | cmp | cpx | cpy
  | dcp | dec | dex | dey | eor
  | inc | inx | iny | isb
  | jmp | jsr
  | las | lax | lda | ldx | ldy | lsr | lxa
  | nop | ora
  | pha | php | pla | plp
  | rla | rol | ror | rra | rti | rts
  | sax | sbc | sec | sed | sei | shx | shy | slo | sre | sta | stx | sty
  | tas | tax | tay | tsx | txa | txs | tya
  | xaa
  deriving DecidableEq

def Operation.mnemonic : Operation → String
  | adc => "ADC" | ahx => "AHX" | alr => "ALR" | anc => "ANC" | and => "AND" | arr => "ARR"
  | asl => "ASL" | axs => "AXS" | bcc => "BCC" | bcs => "BCS" | beq => "BEQ" | bit => "BIT"
  | bmi => "BMI" | bne => "BNE" | bpl => "BPL" | brk => "BRK" | bvc => "BVC" | bvs => "BVS"
  | clc => "CLC" | cld => "CLD" | cli => "CLI" | clv => "CLV" | cmp => "CMP" | cpx => "CPX"
  | cpy => "CPY" | dcp => "DCP" | dec => "DEC" | dex => "DEX" | dey => "DEY" | eor => "EOR"
  | inc => "INC" | inx => "INX" | iny => "INY" | isb => "ISB" | jmp => "JMP" | jsr => "JSR"
  | las => "LAS" | lax => "LAX" | lda => "LDA" | ldx => "LDX" | ldy => "LDY" | lsr => "LSR"
  | lxa => "LXA" | nop => "NOP" | ora => "ORA" | pha => "PHA" | php => "PHP" | pla => "PLA"
  | plp => "PLP" | rla => "RLA" | rol => "ROL" | ror => "ROR" | rra => "RRA" | rti => "RTI"
  | rts => "RTS" | sax => "SAX" | sbc => "SBC" | sec => "SEC" | sed => "SED" | sei => "SEI"
  | shx => "SHX" | shy => "SHY" | slo => "SLO" | sre => "SRE" | sta => "STA" | stx => "STX"
  | sty => "STY" | tas => "TAS" | tax => "TAX" | tay => "TAY" | tsx => "TSX" | txa => "TXA"
  | txs => "TXS" | tya => "TYA" | xaa => "XAA"

structure StoreRequest where
  address : UInt16
  data : UInt8

inductive Action
  | read (effect : Registers → UInt8 → Registers)
  | modify (effect : Registers → UInt8 → UInt8 × Registers)
  | store (request : Registers → Operand → StoreRequest × Registers)
  | branch (condition : Flags → Bool)
  | inherent (effect : Registers → Registers)
  | control (program : Registers → Operand → Microprogram Registers)

namespace Registers

open Microprogram

def pushByte (registers : Registers) (byte : UInt8) : Microprogram Registers := do
  write (0x100 + registers.sp.toUInt16) byte
  return { registers with sp := registers.sp - 1 }

def pullByte (registers : Registers) : Microprogram (UInt8 × Registers) := do
  let registers := { registers with sp := registers.sp + 1 }
  let byte ← read (0x100 + registers.sp.toUInt16)
  return (byte, registers)

def pushWord (registers : Registers) (word : UInt16) : Microprogram Registers := do
  let registers ← registers.pushByte word.highByte
  registers.pushByte word.lowByte

def pullWord (registers : Registers) : Microprogram (UInt16 × Registers) := do
  let (low, registers) ← registers.pullByte
  let (high, registers) ← registers.pullByte
  return (UInt16.ofBytes low high, registers)

def enterHandler (registers : Registers) (brk : Bool) (vector : UInt16) :
    Microprogram Registers := do
  let registers ← registers.pushWord registers.pc
  let registers ← registers.pushByte (registers.p.pushed brk)
  let pc ← readWord vector
  return { registers with pc, p := { registers.p with interruptDisable := true } }

def withAccumulator (registers : Registers) (result : UInt8 × Flags) : Registers :=
  { registers with a := result.1, p := result.2 }

def add (registers : Registers) (operand : UInt8) : Registers :=
  registers.withAccumulator (registers.p.add registers.a operand)

def subtract (registers : Registers) (operand : UInt8) : Registers :=
  registers.withAccumulator (registers.p.subtract registers.a operand)

def conjoin (registers : Registers) (operand : UInt8) : Registers :=
  registers.loadA (registers.a &&& operand)

def disjoin (registers : Registers) (operand : UInt8) : Registers :=
  registers.loadA (registers.a ||| operand)

def exclude (registers : Registers) (operand : UInt8) : Registers :=
  registers.loadA (registers.a ^^^ operand)

def testBits (registers : Registers) (operand : UInt8) : Registers :=
  { registers with p := { registers.p with
      zero := registers.a &&& operand == 0
      negative := operand.bit 7
      overflow := operand.bit 6 } }

def conjoinRotate (registers : Registers) (operand : UInt8) : Registers :=
  let conjunction := registers.a &&& operand
  let result := (conjunction >>> 1) ||| (UInt8.ofNat registers.p.carry.toNat <<< 7)
  { registers.loadA result with p := { registers.p.setZeroNegative result with
      carry := result.bit 6
      overflow := result.bit 6 != result.bit 5 } }

def conjoinShift (registers : Registers) (operand : UInt8) : Registers :=
  registers.withAccumulator (registers.p.shiftRight (registers.a &&& operand))

def conjoinCarry (registers : Registers) (operand : UInt8) : Registers :=
  let result := registers.conjoin operand
  { result with p := { result.p with carry := result.p.negative } }

def subtractFromConjunction (registers : Registers) (operand : UInt8) : Registers :=
  let conjunction := registers.a &&& registers.x
  { registers with
    x := conjunction - operand
    p := { registers.p with carry := decide (operand ≤ conjunction) }.setZeroNegative
      (conjunction - operand) }

def loadAX (registers : Registers) (value : UInt8) : Registers :=
  { registers.loadA value with x := value }

def withFlags (registers : Registers) (result : UInt8 × Flags) : UInt8 × Registers :=
  (result.1, { registers with p := result.2 })

/-- The value is masked with the base's high byte plus one. Where the index crossed a page, the
masked value is also the high byte of the address. -/
def unstableStore (value : UInt8) (operand : Operand) : StoreRequest :=
  let data := value &&& (operand.base.highByte + 1)
  { data
    address :=
      if operand.crossed then UInt16.ofBytes operand.address.lowByte data else operand.address }

end Registers

namespace Operation

open Microprogram Registers

def increment (amount : UInt8) : Action :=
  .modify fun registers value =>
    (value + amount, { registers with p := registers.p.setZeroNegative (value + amount) })

def storeAction (value : Registers → UInt8) : Action :=
  .store fun registers operand =>
    ({ address := operand.address, data := value registers }, registers)

def unstableAction (value : Registers → UInt8) : Action :=
  .store fun registers operand => (unstableStore (value registers) operand, registers)

def flagAction (effect : Flags → Flags) : Action :=
  .inherent fun registers => { registers with p := effect registers.p }

def shiftThen (shift : Flags → UInt8 → UInt8 × Flags) (effect : Registers → UInt8 → Registers) :
    Action :=
  .modify fun registers value =>
    let (result, registers) := registers.withFlags (shift registers.p value)
    (result, effect registers result)

def shift (operation : Flags → UInt8 → UInt8 × Flags) : Action :=
  shiftThen operation fun registers _ => registers

def breakProgram (registers : Registers) (_ : Operand) : Microprogram Registers := do
  let (_, registers) ← registers.fetchByte
  registers.enterHandler true 0xfffe

def callProgram (registers : Registers) (operand : Operand) : Microprogram Registers := do
  let registers ← registers.pushWord (registers.pc - 1)
  return { registers with pc := operand.address }

def pullFlagsProgram (registers : Registers) (_ : Operand) : Microprogram Registers := do
  let (flags, registers) ← registers.pullByte
  return { registers with p := Flags.ofByte flags }

def pullAccumulatorProgram (registers : Registers) (_ : Operand) : Microprogram Registers := do
  let (value, registers) ← registers.pullByte
  return registers.loadA value

def returnFromInterruptProgram (registers : Registers) (_ : Operand) : Microprogram Registers := do
  let (flags, registers) ← registers.pullByte
  let (pc, registers) ← { registers with p := Flags.ofByte flags }.pullWord
  return { registers with pc }

def returnProgram (registers : Registers) (_ : Operand) : Microprogram Registers := do
  let (last, registers) ← registers.pullWord
  return { registers with pc := last + 1 }

def action : Operation → Action
  | adc => .read add
  | ahx => unstableAction fun registers => registers.a &&& registers.x
  | alr => .read conjoinShift
  | anc => .read conjoinCarry
  | and => .read conjoin
  | arr => .read conjoinRotate
  | asl => shift Flags.shiftLeft
  | axs => .read subtractFromConjunction
  | bcc => .branch fun flags => !flags.carry
  | bcs => .branch fun flags => flags.carry
  | beq => .branch fun flags => flags.zero
  | bit => .read testBits
  | bmi => .branch fun flags => flags.negative
  | bne => .branch fun flags => !flags.zero
  | bpl => .branch fun flags => !flags.negative
  | brk => .control breakProgram
  | bvc => .branch fun flags => !flags.overflow
  | bvs => .branch fun flags => flags.overflow
  | clc => flagAction fun flags => { flags with carry := false }
  | cld => flagAction fun flags => { flags with decimal := false }
  | cli => flagAction fun flags => { flags with interruptDisable := false }
  | clv => flagAction fun flags => { flags with overflow := false }
  | cmp => .read fun registers value =>
      { registers with p := registers.p.compare registers.a value }
  | cpx => .read fun registers value =>
      { registers with p := registers.p.compare registers.x value }
  | cpy => .read fun registers value =>
      { registers with p := registers.p.compare registers.y value }
  | dcp => .modify fun registers value =>
      (value - 1, { registers with p := registers.p.compare registers.a (value - 1) })
  | dec => increment 0xff
  | dex => .inherent fun registers => registers.loadX (registers.x - 1)
  | dey => .inherent fun registers => registers.loadY (registers.y - 1)
  | eor => .read exclude
  | inc => increment 1
  | inx => .inherent fun registers => registers.loadX (registers.x + 1)
  | iny => .inherent fun registers => registers.loadY (registers.y + 1)
  | isb => .modify fun registers value => (value + 1, registers.subtract (value + 1))
  | jmp => .control fun registers operand => return { registers with pc := operand.address }
  | jsr => .control callProgram
  | las => .read fun registers value =>
      { registers.loadAX (value &&& registers.sp) with sp := value &&& registers.sp }
  | lax => .read loadAX
  | lda => .read loadA
  | ldx => .read loadX
  | ldy => .read loadY
  | lsr => shift Flags.shiftRight
  | lxa => .read fun registers value => registers.loadAX ((registers.a ||| 0xff) &&& value)
  | nop => .read fun registers _ => registers
  | ora => .read disjoin
  | pha => .control fun registers _ => registers.pushByte registers.a
  | php => .control fun registers _ => registers.pushByte (registers.p.pushed true)
  | pla => .control pullAccumulatorProgram
  | plp => .control pullFlagsProgram
  | rla => shiftThen Flags.rotateLeft conjoin
  | rol => shift Flags.rotateLeft
  | ror => shift Flags.rotateRight
  | rra => shiftThen Flags.rotateRight add
  | rti => .control returnFromInterruptProgram
  | rts => .control returnProgram
  | sax => storeAction fun registers => registers.a &&& registers.x
  | sbc => .read subtract
  | sec => flagAction fun flags => { flags with carry := true }
  | sed => flagAction fun flags => { flags with decimal := true }
  | sei => flagAction fun flags => { flags with interruptDisable := true }
  | shx => unstableAction fun registers => registers.x
  | shy => unstableAction fun registers => registers.y
  | slo => shiftThen Flags.shiftLeft disjoin
  | sre => shiftThen Flags.shiftRight exclude
  | sta => storeAction fun registers => registers.a
  | stx => storeAction fun registers => registers.x
  | sty => storeAction fun registers => registers.y
  | tas => .store fun registers operand =>
      let sp := registers.a &&& registers.x
      (unstableStore sp operand, { registers with sp })
  | tax => .inherent fun registers => registers.loadX registers.a
  | tay => .inherent fun registers => registers.loadY registers.a
  | tsx => .inherent fun registers => registers.loadX registers.sp
  | txa => .inherent fun registers => registers.loadA registers.x
  | txs => .inherent fun registers => { registers with sp := registers.x }
  | tya => .inherent fun registers => registers.loadA registers.y
  | xaa => .read fun registers value =>
      registers.loadA ((registers.a ||| 0xee) &&& registers.x &&& value)

def readsOnly (operation : Operation) : Bool :=
  match operation.action with
  | .read _ => true
  | _ => false

end Operation

end Famicom
