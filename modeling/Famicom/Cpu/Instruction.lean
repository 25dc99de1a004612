import Famicom.Cpu.Operation

/-!
The instruction set: operation, addressing mode and base cycle count of every opcode. Twelve opcodes
have no instruction; the chip locks up on them.
-/

namespace Famicom

structure Instruction where
  operation : Operation
  mode : Mode
  cycles : Nat
  deriving DecidableEq

namespace Instruction

/-- An indexed read pays one more cycle when the index leads to another page. -/
def pageSensitive (instruction : Instruction) : Bool :=
  instruction.operation.readsOnly && instruction.mode.isIndexed

def entry (operation : Operation) (mode : Mode) (cycles : Nat) : Option Instruction :=
  some { operation, mode, cycles }

def locked : Option Instruction := none

set_option maxRecDepth 4000 in
def table : Vector (Option Instruction) 256 := #v[
    entry .brk .implied 7, entry .ora .indexedIndirect 6,
    locked, entry .slo .indexedIndirect 8,
    entry .nop .zeroPage 3, entry .ora .zeroPage 3,
    entry .asl .zeroPage 5, entry .slo .zeroPage 5,
    entry .php .implied 3, entry .ora .immediate 2,
    entry .asl .accumulator 2, entry .anc .immediate 2,
    entry .nop .absolute 4, entry .ora .absolute 4,
    entry .asl .absolute 6, entry .slo .absolute 6,
    entry .bpl .relative 2, entry .ora .indirectIndexed 5,
    locked, entry .slo .indirectIndexed 8,
    entry .nop .zeroPageX 4, entry .ora .zeroPageX 4,
    entry .asl .zeroPageX 6, entry .slo .zeroPageX 6,
    entry .clc .implied 2, entry .ora .absoluteY 4,
    entry .nop .implied 2, entry .slo .absoluteY 7,
    entry .nop .absoluteX 4, entry .ora .absoluteX 4,
    entry .asl .absoluteX 7, entry .slo .absoluteX 7,
    entry .jsr .absolute 6, entry .and .indexedIndirect 6,
    locked, entry .rla .indexedIndirect 8,
    entry .bit .zeroPage 3, entry .and .zeroPage 3,
    entry .rol .zeroPage 5, entry .rla .zeroPage 5,
    entry .plp .implied 4, entry .and .immediate 2,
    entry .rol .accumulator 2, entry .anc .immediate 2,
    entry .bit .absolute 4, entry .and .absolute 4,
    entry .rol .absolute 6, entry .rla .absolute 6,
    entry .bmi .relative 2, entry .and .indirectIndexed 5,
    locked, entry .rla .indirectIndexed 8,
    entry .nop .zeroPageX 4, entry .and .zeroPageX 4,
    entry .rol .zeroPageX 6, entry .rla .zeroPageX 6,
    entry .sec .implied 2, entry .and .absoluteY 4,
    entry .nop .implied 2, entry .rla .absoluteY 7,
    entry .nop .absoluteX 4, entry .and .absoluteX 4,
    entry .rol .absoluteX 7, entry .rla .absoluteX 7,
    entry .rti .implied 6, entry .eor .indexedIndirect 6,
    locked, entry .sre .indexedIndirect 8,
    entry .nop .zeroPage 3, entry .eor .zeroPage 3,
    entry .lsr .zeroPage 5, entry .sre .zeroPage 5,
    entry .pha .implied 3, entry .eor .immediate 2,
    entry .lsr .accumulator 2, entry .alr .immediate 2,
    entry .jmp .absolute 3, entry .eor .absolute 4,
    entry .lsr .absolute 6, entry .sre .absolute 6,
    entry .bvc .relative 2, entry .eor .indirectIndexed 5,
    locked, entry .sre .indirectIndexed 8,
    entry .nop .zeroPageX 4, entry .eor .zeroPageX 4,
    entry .lsr .zeroPageX 6, entry .sre .zeroPageX 6,
    entry .cli .implied 2, entry .eor .absoluteY 4,
    entry .nop .implied 2, entry .sre .absoluteY 7,
    entry .nop .absoluteX 4, entry .eor .absoluteX 4,
    entry .lsr .absoluteX 7, entry .sre .absoluteX 7,
    entry .rts .implied 6, entry .adc .indexedIndirect 6,
    locked, entry .rra .indexedIndirect 8,
    entry .nop .zeroPage 3, entry .adc .zeroPage 3,
    entry .ror .zeroPage 5, entry .rra .zeroPage 5,
    entry .pla .implied 4, entry .adc .immediate 2,
    entry .ror .accumulator 2, entry .arr .immediate 2,
    entry .jmp .indirect 5, entry .adc .absolute 4,
    entry .ror .absolute 6, entry .rra .absolute 6,
    entry .bvs .relative 2, entry .adc .indirectIndexed 5,
    locked, entry .rra .indirectIndexed 8,
    entry .nop .zeroPageX 4, entry .adc .zeroPageX 4,
    entry .ror .zeroPageX 6, entry .rra .zeroPageX 6,
    entry .sei .implied 2, entry .adc .absoluteY 4,
    entry .nop .implied 2, entry .rra .absoluteY 7,
    entry .nop .absoluteX 4, entry .adc .absoluteX 4,
    entry .ror .absoluteX 7, entry .rra .absoluteX 7,
    entry .nop .immediate 2, entry .sta .indexedIndirect 6,
    entry .nop .immediate 2, entry .sax .indexedIndirect 6,
    entry .sty .zeroPage 3, entry .sta .zeroPage 3,
    entry .stx .zeroPage 3, entry .sax .zeroPage 3,
    entry .dey .implied 2, entry .nop .immediate 2,
    entry .txa .implied 2, entry .xaa .immediate 2,
    entry .sty .absolute 4, entry .sta .absolute 4,
    entry .stx .absolute 4, entry .sax .absolute 4,
    entry .bcc .relative 2, entry .sta .indirectIndexed 6,
    locked, entry .ahx .indirectIndexed 6,
    entry .sty .zeroPageX 4, entry .sta .zeroPageX 4,
    entry .stx .zeroPageY 4, entry .sax .zeroPageY 4,
    entry .tya .implied 2, entry .sta .absoluteY 5,
    entry .txs .implied 2, entry .tas .absoluteY 5,
    entry .shy .absoluteX 5, entry .sta .absoluteX 5,
    entry .shx .absoluteY 5, entry .ahx .absoluteY 5,
    entry .ldy .immediate 2, entry .lda .indexedIndirect 6,
    entry .ldx .immediate 2, entry .lax .indexedIndirect 6,
    entry .ldy .zeroPage 3, entry .lda .zeroPage 3,
    entry .ldx .zeroPage 3, entry .lax .zeroPage 3,
    entry .tay .implied 2, entry .lda .immediate 2,
    entry .tax .implied 2, entry .lxa .immediate 2,
    entry .ldy .absolute 4, entry .lda .absolute 4,
    entry .ldx .absolute 4, entry .lax .absolute 4,
    entry .bcs .relative 2, entry .lda .indirectIndexed 5,
    locked, entry .lax .indirectIndexed 5,
    entry .ldy .zeroPageX 4, entry .lda .zeroPageX 4,
    entry .ldx .zeroPageY 4, entry .lax .zeroPageY 4,
    entry .clv .implied 2, entry .lda .absoluteY 4,
    entry .tsx .implied 2, entry .las .absoluteY 4,
    entry .ldy .absoluteX 4, entry .lda .absoluteX 4,
    entry .ldx .absoluteY 4, entry .lax .absoluteY 4,
    entry .cpy .immediate 2, entry .cmp .indexedIndirect 6,
    entry .nop .immediate 2, entry .dcp .indexedIndirect 8,
    entry .cpy .zeroPage 3, entry .cmp .zeroPage 3,
    entry .dec .zeroPage 5, entry .dcp .zeroPage 5,
    entry .iny .implied 2, entry .cmp .immediate 2,
    entry .dex .implied 2, entry .axs .immediate 2,
    entry .cpy .absolute 4, entry .cmp .absolute 4,
    entry .dec .absolute 6, entry .dcp .absolute 6,
    entry .bne .relative 2, entry .cmp .indirectIndexed 5,
    locked, entry .dcp .indirectIndexed 8,
    entry .nop .zeroPageX 4, entry .cmp .zeroPageX 4,
    entry .dec .zeroPageX 6, entry .dcp .zeroPageX 6,
    entry .cld .implied 2, entry .cmp .absoluteY 4,
    entry .nop .implied 2, entry .dcp .absoluteY 7,
    entry .nop .absoluteX 4, entry .cmp .absoluteX 4,
    entry .dec .absoluteX 7, entry .dcp .absoluteX 7,
    entry .cpx .immediate 2, entry .sbc .indexedIndirect 6,
    entry .nop .immediate 2, entry .isb .indexedIndirect 8,
    entry .cpx .zeroPage 3, entry .sbc .zeroPage 3,
    entry .inc .zeroPage 5, entry .isb .zeroPage 5,
    entry .inx .implied 2, entry .sbc .immediate 2,
    entry .nop .implied 2, entry .sbc .immediate 2,
    entry .cpx .absolute 4, entry .sbc .absolute 4,
    entry .inc .absolute 6, entry .isb .absolute 6,
    entry .beq .relative 2, entry .sbc .indirectIndexed 5,
    locked, entry .isb .indirectIndexed 8,
    entry .nop .zeroPageX 4, entry .sbc .zeroPageX 4,
    entry .inc .zeroPageX 6, entry .isb .zeroPageX 6,
    entry .sed .implied 2, entry .sbc .absoluteY 4,
    entry .nop .implied 2, entry .isb .absoluteY 7,
    entry .nop .absoluteX 4, entry .sbc .absoluteX 4,
    entry .inc .absoluteX 7, entry .isb .absoluteX 7]

def decode (opcode : UInt8) : Option Instruction :=
  table.get ⟨opcode.toNat, opcode.toNat_lt⟩

def mnemonic (opcode : UInt8) : String :=
  match decode opcode with
  | some instruction => instruction.operation.mnemonic
  | none => "JAM"

def baseCycles (opcode : UInt8) : Nat :=
  match decode opcode with
  | some instruction => instruction.cycles
  | none => 0

end Instruction

end Famicom
