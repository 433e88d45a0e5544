/-!
# Instructions

An opcode stands for a mnemonic, which says what is done, and an addressing mode, which
says where the operand is found.  `opcodeTable` lists the documented opcodes of the
processor with the cycles that each of them takes; the other opcodes stand for nothing.
-/

namespace RasterConsole

/-- What an instruction does. -/
inductive Mnemonic where
  | adc | and | asl | bcc | bcs | beq | bit | bmi
  | bne | bpl | brk | bvc | bvs | clc | cld | cli
  | clv | cmp | cpx | cpy | dec | dex | dey | eor
  | inc | inx | iny | jmp | jsr | lda | ldx | ldy
  | lsr | nop | ora | pha | php | pla | plp | rol
  | ror | rti | rts | sbc | sec | sed | sei | sta
  | stx | sty | tax | tay | tsx | txa | txs | tya
  deriving Repr, DecidableEq

namespace Mnemonic

/-- The name of a mnemonic in assembly language. -/
def name : Mnemonic → String
  | adc => "ADC"
  | and => "AND"
  | asl => "ASL"
  | bcc => "BCC"
  | bcs => "BCS"
  | beq => "BEQ"
  | bit => "BIT"
  | bmi => "BMI"
  | bne => "BNE"
  | bpl => "BPL"
  | brk => "BRK"
  | bvc => "BVC"
  | bvs => "BVS"
  | clc => "CLC"
  | cld => "CLD"
  | cli => "CLI"
  | clv => "CLV"
  | cmp => "CMP"
  | cpx => "CPX"
  | cpy => "CPY"
  | dec => "DEC"
  | dex => "DEX"
  | dey => "DEY"
  | eor => "EOR"
  | inc => "INC"
  | inx => "INX"
  | iny => "INY"
  | jmp => "JMP"
  | jsr => "JSR"
  | lda => "LDA"
  | ldx => "LDX"
  | ldy => "LDY"
  | lsr => "LSR"
  | nop => "NOP"
  | ora => "ORA"
  | pha => "PHA"
  | php => "PHP"
  | pla => "PLA"
  | plp => "PLP"
  | rol => "ROL"
  | ror => "ROR"
  | rti => "RTI"
  | rts => "RTS"
  | sbc => "SBC"
  | sec => "SEC"
  | sed => "SED"
  | sei => "SEI"
  | sta => "STA"
  | stx => "STX"
  | sty => "STY"
  | tax => "TAX"
  | tay => "TAY"
  | tsx => "TSX"
  | txa => "TXA"
  | txs => "TXS"
  | tya => "TYA"

end Mnemonic

/-- How an instruction finds its operand. -/
inductive Mode where
  | implied
  | accumulator
  | immediate
  | zeroPage
  | zeroPageX
  | zeroPageY
  | absolute
  | absoluteX
  | absoluteY
  | indirect
  | indexedIndirect
  | indirectIndexed
  | relative
  deriving Repr, DecidableEq

/-- A documented opcode: its meaning, the cycles that it always takes, and whether it takes
one more when indexing leads into another page. -/
structure Instruction where
  opcode : UInt8
  mnemonic : Mnemonic
  mode : Mode
  cycles : Nat
  pagePenalty : Bool
  deriving Repr, DecidableEq

/-- The documented opcodes in ascending order. -/
def opcodeTable : List Instruction := [
  ⟨0x00, .brk, .implied, 7, false⟩,
  ⟨0x01, .ora, .indexedIndirect, 6, false⟩,
  ⟨0x05, .ora, .zeroPage, 3, false⟩,
  ⟨0x06, .asl, .zeroPage, 5, false⟩,
  ⟨0x08, .php, .implied, 3, false⟩,
  ⟨0x09, .ora, .immediate, 2, false⟩,
  ⟨0x0A, .asl, .accumulator, 2, false⟩,
  ⟨0x0D, .ora, .absolute, 4, false⟩,
  ⟨0x0E, .asl, .absolute, 6, false⟩,
  ⟨0x10, .bpl, .relative, 2, false⟩,
  ⟨0x11, .ora, .indirectIndexed, 5, true⟩,
  ⟨0x15, .ora, .zeroPageX, 4, false⟩,
  ⟨0x16, .asl, .zeroPageX, 6, false⟩,
  ⟨0x18, .clc, .implied, 2, false⟩,
  ⟨0x19, .ora, .absoluteY, 4, true⟩,
  ⟨0x1D, .ora, .absoluteX, 4, true⟩,
  ⟨0x1E, .asl, .absoluteX, 7, false⟩,
  ⟨0x20, .jsr, .absolute, 6, false⟩,
  ⟨0x21, .and, .indexedIndirect, 6, false⟩,
  ⟨0x24, .bit, .zeroPage, 3, false⟩,
  ⟨0x25, .and, .zeroPage, 3, false⟩,
  ⟨0x26, .rol, .zeroPage, 5, false⟩,
  ⟨0x28, .plp, .implied, 4, false⟩,
  ⟨0x29, .and, .immediate, 2, false⟩,
  ⟨0x2A, .rol, .accumulator, 2, false⟩,
  ⟨0x2C, .bit, .absolute, 4, false⟩,
  ⟨0x2D, .and, .absolute, 4, false⟩,
  ⟨0x2E, .rol, .absolute, 6, false⟩,
  ⟨0x30, .bmi, .relative, 2, false⟩,
  ⟨0x31, .and, .indirectIndexed, 5, true⟩,
  ⟨0x35, .and, .zeroPageX, 4, false⟩,
  ⟨0x36, .rol, .zeroPageX, 6, false⟩,
  ⟨0x38, .sec, .implied, 2, false⟩,
  ⟨0x39, .and, .absoluteY, 4, true⟩,
  ⟨0x3D, .and, .absoluteX, 4, true⟩,
  ⟨0x3E, .rol, .absoluteX, 7, false⟩,
  ⟨0x40, .rti, .implied, 6, false⟩,
  ⟨0x41, .eor, .indexedIndirect, 6, false⟩,
  ⟨0x45, .eor, .zeroPage, 3, false⟩,
  ⟨0x46, .lsr, .zeroPage, 5, false⟩,
  ⟨0x48, .pha, .implied, 3, false⟩,
  ⟨0x49, .eor, .immediate, 2, false⟩,
  ⟨0x4A, .lsr, .accumulator, 2, false⟩,
  ⟨0x4C, .jmp, .absolute, 3, false⟩,
  ⟨0x4D, .eor, .absolute, 4, false⟩,
  ⟨0x4E, .lsr, .absolute, 6, false⟩,
  ⟨0x50, .bvc, .relative, 2, false⟩,
  ⟨0x51, .eor, .indirectIndexed, 5, true⟩,
  ⟨0x55, .eor, .zeroPageX, 4, false⟩,
  ⟨0x56, .lsr, .zeroPageX, 6, false⟩,
  ⟨0x58, .cli, .implied, 2, false⟩,
  ⟨0x59, .eor, .absoluteY, 4, true⟩,
  ⟨0x5D, .eor, .absoluteX, 4, true⟩,
  ⟨0x5E, .lsr, .absoluteX, 7, false⟩,
  ⟨0x60, .rts, .implied, 6, false⟩,
  ⟨0x61, .adc, .indexedIndirect, 6, false⟩,
  ⟨0x65, .adc, .zeroPage, 3, false⟩,
  ⟨0x66, .ror, .zeroPage, 5, false⟩,
  ⟨0x68, .pla, .implied, 4, false⟩,
  ⟨0x69, .adc, .immediate, 2, false⟩,
  ⟨0x6A, .ror, .accumulator, 2, false⟩,
  ⟨0x6C, .jmp, .indirect, 5, false⟩,
  ⟨0x6D, .adc, .absolute, 4, false⟩,
  ⟨0x6E, .ror, .absolute, 6, false⟩,
  ⟨0x70, .bvs, .relative, 2, false⟩,
  ⟨0x71, .adc, .indirectIndexed, 5, true⟩,
  ⟨0x75, .adc, .zeroPageX, 4, false⟩,
  ⟨0x76, .ror, .zeroPageX, 6, false⟩,
  ⟨0x78, .sei, .implied, 2, false⟩,
  ⟨0x79, .adc, .absoluteY, 4, true⟩,
  ⟨0x7D, .adc, .absoluteX, 4, true⟩,
  ⟨0x7E, .ror, .absoluteX, 7, false⟩,
  ⟨0x81, .sta, .indexedIndirect, 6, false⟩,
  ⟨0x84, .sty, .zeroPage, 3, false⟩,
  ⟨0x85, .sta, .zeroPage, 3, false⟩,
  ⟨0x86, .stx, .zeroPage, 3, false⟩,
  ⟨0x88, .dey, .implied, 2, false⟩,
  ⟨0x8A, .txa, .implied, 2, false⟩,
  ⟨0x8C, .sty, .absolute, 4, false⟩,
  ⟨0x8D, .sta, .absolute, 4, false⟩,
  ⟨0x8E, .stx, .absolute, 4, false⟩,
  ⟨0x90, .bcc, .relative, 2, false⟩,
  ⟨0x91, .sta, .indirectIndexed, 6, false⟩,
  ⟨0x94, .sty, .zeroPageX, 4, false⟩,
  ⟨0x95, .sta, .zeroPageX, 4, false⟩,
  ⟨0x96, .stx, .zeroPageY, 4, false⟩,
  ⟨0x98, .tya, .implied, 2, false⟩,
  ⟨0x99, .sta, .absoluteY, 5, false⟩,
  ⟨0x9A, .txs, .implied, 2, false⟩,
  ⟨0x9D, .sta, .absoluteX, 5, false⟩,
  ⟨0xA0, .ldy, .immediate, 2, false⟩,
  ⟨0xA1, .lda, .indexedIndirect, 6, false⟩,
  ⟨0xA2, .ldx, .immediate, 2, false⟩,
  ⟨0xA4, .ldy, .zeroPage, 3, false⟩,
  ⟨0xA5, .lda, .zeroPage, 3, false⟩,
  ⟨0xA6, .ldx, .zeroPage, 3, false⟩,
  ⟨0xA8, .tay, .implied, 2, false⟩,
  ⟨0xA9, .lda, .immediate, 2, false⟩,
  ⟨0xAA, .tax, .implied, 2, false⟩,
  ⟨0xAC, .ldy, .absolute, 4, false⟩,
  ⟨0xAD, .lda, .absolute, 4, false⟩,
  ⟨0xAE, .ldx, .absolute, 4, false⟩,
  ⟨0xB0, .bcs, .relative, 2, false⟩,
  ⟨0xB1, .lda, .indirectIndexed, 5, true⟩,
  ⟨0xB4, .ldy, .zeroPageX, 4, false⟩,
  ⟨0xB5, .lda, .zeroPageX, 4, false⟩,
  ⟨0xB6, .ldx, .zeroPageY, 4, false⟩,
  ⟨0xB8, .clv, .implied, 2, false⟩,
  ⟨0xB9, .lda, .absoluteY, 4, true⟩,
  ⟨0xBA, .tsx, .implied, 2, false⟩,
  ⟨0xBC, .ldy, .absoluteX, 4, true⟩,
  ⟨0xBD, .lda, .absoluteX, 4, true⟩,
  ⟨0xBE, .ldx, .absoluteY, 4, true⟩,
  ⟨0xC0, .cpy, .immediate, 2, false⟩,
  ⟨0xC1, .cmp, .indexedIndirect, 6, false⟩,
  ⟨0xC4, .cpy, .zeroPage, 3, false⟩,
  ⟨0xC5, .cmp, .zeroPage, 3, false⟩,
  ⟨0xC6, .dec, .zeroPage, 5, false⟩,
  ⟨0xC8, .iny, .implied, 2, false⟩,
  ⟨0xC9, .cmp, .immediate, 2, false⟩,
  ⟨0xCA, .dex, .implied, 2, false⟩,
  ⟨0xCC, .cpy, .absolute, 4, false⟩,
  ⟨0xCD, .cmp, .absolute, 4, false⟩,
  ⟨0xCE, .dec, .absolute, 6, false⟩,
  ⟨0xD0, .bne, .relative, 2, false⟩,
  ⟨0xD1, .cmp, .indirectIndexed, 5, true⟩,
  ⟨0xD5, .cmp, .zeroPageX, 4, false⟩,
  ⟨0xD6, .dec, .zeroPageX, 6, false⟩,
  ⟨0xD8, .cld, .implied, 2, false⟩,
  ⟨0xD9, .cmp, .absoluteY, 4, true⟩,
  ⟨0xDD, .cmp, .absoluteX, 4, true⟩,
  ⟨0xDE, .dec, .absoluteX, 7, false⟩,
  ⟨0xE0, .cpx, .immediate, 2, false⟩,
  ⟨0xE1, .sbc, .indexedIndirect, 6, false⟩,
  ⟨0xE4, .cpx, .zeroPage, 3, false⟩,
  ⟨0xE5, .sbc, .zeroPage, 3, false⟩,
  ⟨0xE6, .inc, .zeroPage, 5, false⟩,
  ⟨0xE8, .inx, .implied, 2, false⟩,
  ⟨0xE9, .sbc, .immediate, 2, false⟩,
  ⟨0xEA, .nop, .implied, 2, false⟩,
  ⟨0xEC, .cpx, .absolute, 4, false⟩,
  ⟨0xED, .sbc, .absolute, 4, false⟩,
  ⟨0xEE, .inc, .absolute, 6, false⟩,
  ⟨0xF0, .beq, .relative, 2, false⟩,
  ⟨0xF1, .sbc, .indirectIndexed, 5, true⟩,
  ⟨0xF5, .sbc, .zeroPageX, 4, false⟩,
  ⟨0xF6, .inc, .zeroPageX, 6, false⟩,
  ⟨0xF8, .sed, .implied, 2, false⟩,
  ⟨0xF9, .sbc, .absoluteY, 4, true⟩,
  ⟨0xFD, .sbc, .absoluteX, 4, true⟩,
  ⟨0xFE, .inc, .absoluteX, 7, false⟩]

/-- The instruction that an opcode stands for. -/
def Instruction.ofOpcode? (opcode : UInt8) : Option Instruction :=
  opcodeTable.find? fun i => i.opcode == opcode

end RasterConsole
