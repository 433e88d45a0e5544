import RasterConsole.Processor.Activity
import RasterConsole.Processor.Alu
import RasterConsole.Processor.Instruction

/-!
# Execution of an instruction

`instruction` fetches an opcode, charges its cycles, finds the operand as the addressing
mode says, and does what the mnemonic says.  Further cycles are charged when indexing
leads into another page and when a branch is taken.
-/

namespace RasterConsole

/-- Where the operand of an instruction is. -/
inductive Operand where
  | absent
  | accumulator
  | immediate (value : UInt8)
  | memory (address : UInt16)
  | offset (distance : UInt8)
  deriving Repr, DecidableEq

/-- The address of a stack cell. -/
def stackAddress (sp : UInt8) : UInt16 := wordOf sp 1

namespace Exec

/-- The byte at the program counter, which moves on. -/
def fetch : Exec UInt8 := do
  let byte ← read (← core).pc
  update fun c => { c with pc := c.pc + 1 }
  return byte

/-- The word at the program counter, which moves on. -/
def fetchWord : Exec UInt16 := do
  let low ← fetch
  let high ← fetch
  return wordOf low high

/-- Puts a byte on the stack. -/
def push (value : UInt8) : Exec Unit := do
  write (stackAddress (← core).sp) value
  update fun c => { c with sp := c.sp - 1 }

/-- Takes a byte from the stack. -/
def pull : Exec UInt8 := do
  update fun c => { c with sp := c.sp + 1 }
  read (stackAddress (← core).sp)

/-- Puts a word on the stack, its high byte first. -/
def pushWord (value : UInt16) : Exec Unit := do
  push (highByte value)
  push (lowByte value)

/-- Takes a word from the stack. -/
def pullWord : Exec UInt16 := do
  let low ← pull
  let high ← pull
  return wordOf low high

/-- Takes the flags from the stack. -/
def pullStatus : Exec Unit := do
  let byte ← pull
  update fun c => { c with status := Status.pulled byte }

/-- Puts the flags on the stack. -/
def pushStatus : Exec Unit := do
  push (← core).status.pushed

/-- The pointer stored in the first page; it wraps around within the page. -/
def pointer (cell : UInt8) : Exec UInt16 := do
  let low ← read cell.toUInt16
  let high ← read (cell + 1).toUInt16
  return wordOf low high

/-- The address at some distance from a base, at the cost of a cycle if that is in another
page and the instruction is one that pays for it. -/
def indexed (base : UInt16) (index : UInt8) (pagePenalty : Bool) : Exec UInt16 := do
  let address := base + index.toUInt16
  if pagePenalty && highByte address != highByte base then
    spend 1
  return address

/-- The operand of an instruction.  The pointer of an indirect jump wraps around within
its page. -/
def operand (i : Instruction) : Exec Operand := do
  match i.mode with
  | .implied => return .absent
  | .accumulator => return .accumulator
  | .immediate => return .immediate (← fetch)
  | .relative => return .offset (← fetch)
  | .zeroPage => return .memory (← fetch).toUInt16
  | .zeroPageX =>
    let base ← fetch
    return .memory (base + (← core).x).toUInt16
  | .zeroPageY =>
    let base ← fetch
    return .memory (base + (← core).y).toUInt16
  | .absolute => return .memory (← fetchWord)
  | .absoluteX =>
    let base ← fetchWord
    return .memory (← indexed base (← core).x i.pagePenalty)
  | .absoluteY =>
    let base ← fetchWord
    return .memory (← indexed base (← core).y i.pagePenalty)
  | .indirect =>
    let cell ← fetchWord
    let low ← read cell
    let high ← read (wordOf (lowByte cell + 1) (highByte cell))
    return .memory (wordOf low high)
  | .indexedIndirect =>
    let cell ← fetch
    return .memory (← pointer (cell + (← core).x))
  | .indirectIndexed =>
    let base ← pointer (← fetch)
    return .memory (← indexed base (← core).y i.pagePenalty)

/-- The value of an operand. -/
def load : Operand → Exec UInt8
  | .immediate value => return value
  | .memory address => read address
  | .accumulator => return (← core).a
  | .absent | .offset _ => fail .operandMismatch

/-- Puts a value where the operand is. -/
def store (op : Operand) (value : UInt8) : Exec Unit :=
  match op with
  | .memory address => write address value
  | .accumulator => update fun c => { c with a := value }
  | .absent | .immediate _ | .offset _ => fail .operandMismatch

/-- The address that an operand stands for. -/
def address : Operand → Exec UInt16
  | .memory address => return address
  | .absent | .accumulator | .immediate _ | .offset _ => fail .operandMismatch

/-- Sets the zero and negative flags for a value. -/
def see (value : UInt8) : Exec Unit :=
  update fun c => { c with status := c.status.seen value }

/-- Puts a value into the accumulator. -/
def setA (value : UInt8) : Exec Unit := do
  update fun c => { c with a := value }
  see value

/-- Puts a value into the first index register. -/
def setX (value : UInt8) : Exec Unit := do
  update fun c => { c with x := value }
  see value

/-- Puts a value into the second index register. -/
def setY (value : UInt8) : Exec Unit := do
  update fun c => { c with y := value }
  see value

/-- Puts the result of an addition or subtraction into the accumulator. -/
def setResult (result : Alu.Result) : Exec Unit :=
  update fun c => { c with a := result.value, status := c.status.after result }

/-- Compares a register with a value: the carry says that the register is not less. -/
def compare (register value : UInt8) : Exec Unit :=
  update fun c =>
    { c with
      status := { c.status with carry := decide (value ≤ register) }.seen (register - value) }

/-- Replaces the value where the operand is. -/
def replace (op : Operand) (change : UInt8 → UInt8) : Exec Unit := do
  let value := change (← load op)
  store op value
  see value

/-- Shifts the value where the operand is.  `carried` says whether the carry comes in. -/
def shift (op : Operand) (direction : Bool → UInt8 → UInt8 × Bool) (carried : Bool) :
    Exec Unit := do
  let value ← load op
  let (result, out) := direction (carried && (← core).status.carry) value
  update fun c => { c with status := { c.status with carry := out } }
  store op result
  see result

/-- Branches if the condition holds.  A branch taken costs a cycle, and one more if it
leads into another page. -/
def branch (op : Operand) (condition : Bool) : Exec Unit :=
  match op with
  | .offset distance => do
    if condition then
      let pc := (← core).pc
      let target := pc + signExtend distance
      spend (if highByte target = highByte pc then 1 else 2)
      update fun c => { c with pc := target }
  | .absent | .accumulator | .immediate _ | .memory _ => fail .operandMismatch

/-- Changes the flags. -/
def setStatus (change : Status → Status) : Exec Unit :=
  update fun c => { c with status := change c.status }

/-- Moves the program counter. -/
def jump (target : UInt16) : Exec Unit :=
  update fun c => { c with pc := target }

/-- Does what a mnemonic says.  `irqVector` is where a software interrupt finds its
handler. -/
def execute (irqVector : UInt16) (mnemonic : Mnemonic) (op : Operand) : Exec Unit := do
  match mnemonic with
  | .lda => setA (← load op)
  | .ldx => setX (← load op)
  | .ldy => setY (← load op)
  | .sta => store op (← core).a
  | .stx => store op (← core).x
  | .sty => store op (← core).y
  | .tax => setX (← core).a
  | .tay => setY (← core).a
  | .txa => setA (← core).x
  | .tya => setA (← core).y
  | .tsx => setX (← core).sp
  | .txs => update fun c => { c with sp := c.x }
  | .pha => push (← core).a
  | .php => pushStatus
  | .pla => setA (← pull)
  | .plp => pullStatus
  | .and =>
    let value ← load op
    setA ((← core).a &&& value)
  | .ora =>
    let value ← load op
    setA ((← core).a ||| value)
  | .eor =>
    let value ← load op
    setA ((← core).a ^^^ value)
  | .adc =>
    let value ← load op
    let c ← core
    setResult (Alu.add c.status.decimal c.a value c.status.carry)
  | .sbc =>
    let value ← load op
    let c ← core
    setResult (Alu.subtract c.status.decimal c.a value c.status.carry)
  | .cmp =>
    let value ← load op
    compare (← core).a value
  | .cpx =>
    let value ← load op
    compare (← core).x value
  | .cpy =>
    let value ← load op
    compare (← core).y value
  | .bit =>
    let value ← load op
    update fun c =>
      { c with
        status := { c.status with
          zero := c.a &&& value == 0
          overflow := value.toNat.testBit 6
          negative := isNegative value } }
  | .inc => replace op (· + 1)
  | .dec => replace op (· - 1)
  | .inx => setX ((← core).x + 1)
  | .iny => setY ((← core).y + 1)
  | .dex => setX ((← core).x - 1)
  | .dey => setY ((← core).y - 1)
  | .asl => shift op Alu.shiftLeft false
  | .lsr => shift op Alu.shiftRight false
  | .rol => shift op Alu.shiftLeft true
  | .ror => shift op Alu.shiftRight true
  | .bcc => branch op !(← core).status.carry
  | .bcs => branch op (← core).status.carry
  | .bne => branch op !(← core).status.zero
  | .beq => branch op (← core).status.zero
  | .bpl => branch op !(← core).status.negative
  | .bmi => branch op (← core).status.negative
  | .bvc => branch op !(← core).status.overflow
  | .bvs => branch op (← core).status.overflow
  | .jmp => jump (← address op)
  | .jsr =>
    pushWord ((← core).pc - 1)
    jump (← address op)
  | .rts => jump ((← pullWord) + 1)
  | .brk =>
    pushWord ((← core).pc + 1)
    pushStatus
    setStatus fun s => { s with interrupt := true }
    let low ← read irqVector
    let high ← read (irqVector + 1)
    jump (wordOf low high)
  | .rti =>
    pullStatus
    jump (← pullWord)
  | .clc => setStatus fun s => { s with carry := false }
  | .sec => setStatus fun s => { s with carry := true }
  | .cli => setStatus fun s => { s with interrupt := false }
  | .sei => setStatus fun s => { s with interrupt := true }
  | .cld => setStatus fun s => { s with decimal := false }
  | .sed => setStatus fun s => { s with decimal := true }
  | .clv => setStatus fun s => { s with overflow := false }
  | .nop => pure ()

/-- One instruction.  Its cycles are charged between the fetch of the opcode and all other
accesses; an opcode that stands for nothing is not charged. -/
def instruction (irqVector : UInt16) : Exec Unit := do
  let pc := (← core).pc
  let opcode ← fetch
  match Instruction.ofOpcode? opcode with
  | none => fail (.unknownOpcode opcode pc)
  | some i =>
    spend i.cycles
    let op ← operand i
    execute irqVector i.mnemonic op

end Exec

end RasterConsole
