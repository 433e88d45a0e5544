import RasterConsole.Proofs.Bus.Partial
import RasterConsole.Proofs.Processor.Accesses

/-!
# The processor in partial arithmetic

The processor on a bus in partial arithmetic.  It stops where the bus stops, where an
instruction meets an operand that it cannot use, and where the arithmetic unit leaves the
sixteen bits that it computes in.

None of this happens on an intact bus.  The operands fit by the opcode table
(`Exec.within_instruction`), and the sums and differences of bytes are small.
-/

namespace RasterConsole

attribute [local instance] Arithmetic.exact

namespace Partial

/-- An integer, if it is in a range. -/
def ranged (least limit n : Int) : Option Int := if least ≤ n ∧ n < limit then some n else none

/-- An integer, if sixteen bits hold it. -/
def word (n : Int) : Option Int := ranged 0 0x10000 n

/-- An integer, if sixteen bits hold it with its sign. -/
def signedWord (n : Int) : Option Int := ranged (-0x8000) 0x8000 n

section

variable {α : Type} {n : Int}

theorem bind_word (h : 0 ≤ n) (h' : n < 0x10000) (f : Int → Option α) :
  (word n).bind f = f n
  := by
  rw [word, ranged, if_pos ⟨h, h'⟩]
  rfl

theorem bind_signedWord (h : -0x8000 ≤ n) (h' : n < 0x8000) (f : Int → Option α) :
  (signedWord n).bind f = f n
  := by
  rw [signedWord, ranged, if_pos ⟨h, h'⟩]
  rfl

end

end Partial

open Partial

/-! ### The arithmetic unit -/

namespace Alu

/-- The sums on the way to the sum of two bytes and a carry.  In decimal mode these are also the
sums of the digits with their corrections. -/
def sums? (decimal : Bool) (a m carry : Int) : Option Unit := do
  let sum ← word (a + m)
  let _ ← word (sum + carry)
  if decimal then
    let low ← word (a % 16 + m % 16)
    let low ← word (low + carry)
    let high ← word (a / 16 + m / 16)
    let low ← word (low + if 9 < low then 6 else 0)
    let high ← word (high + if 15 < low then 1 else 0)
    let _ ← word (high + if 9 < high then 6 else 0)

/-- The differences on the way to the difference of two bytes and a borrow.  In decimal mode
these are also the differences of the digits with their corrections. -/
def differences? (decimal : Bool) (a m borrow : Int) : Option Unit := do
  let difference ← signedWord (a - m)
  let _ ← signedWord (difference - borrow)
  if decimal then
    let low ← signedWord (a % 16 - m % 16)
    let low ← signedWord (low - borrow)
    let high ← signedWord (a / 16 - m / 16)
    let _ ← signedWord (low - if low < 0 then 6 else 0)
    let high ← signedWord (high - if low < 0 then 1 else 0)
    let _ ← signedWord (high - if high < 0 then 6 else 0)

section

variable {a m : Int}

theorem sums?_eq (decimal : Bool) {carry : Int} (ha : 0 ≤ a ∧ a < 256) (hm : 0 ≤ m ∧ m < 256)
    (hcarry : 0 ≤ carry ∧ carry ≤ 1) :
  sums? decimal a m carry = some ()
  := by
  have hlow : (0 ≤ a % 16 ∧ a % 16 < 16) ∧ 0 ≤ m % 16 ∧ m % 16 < 16 := by omega
  have hhigh : (0 ≤ a / 16 ∧ a / 16 < 16) ∧ 0 ≤ m / 16 ∧ m / 16 < 16 := by omega
  unfold sums?
  simp only [Option.bind_eq_bind]
  rw [bind_word (by omega) (by omega), bind_word (by omega) (by omega)]
  split_ifs
  · generalize a % 16 = low, m % 16 = low', a / 16 = high, m / 16 = high' at hlow hhigh ⊢
    rw [bind_word (by omega) (by omega), bind_word (by omega) (by omega),
      bind_word (by omega) (by omega), bind_word (by omega) (by omega),
      bind_word (by omega) (by omega), bind_word (by omega) (by omega)]
    rfl
  · rfl

theorem differences?_eq (decimal : Bool) {borrow : Int} (ha : 0 ≤ a ∧ a < 256)
    (hm : 0 ≤ m ∧ m < 256) (hborrow : 0 ≤ borrow ∧ borrow ≤ 1) :
  differences? decimal a m borrow = some ()
  := by
  have hlow : (0 ≤ a % 16 ∧ a % 16 < 16) ∧ 0 ≤ m % 16 ∧ m % 16 < 16 := by omega
  have hhigh : (0 ≤ a / 16 ∧ a / 16 < 16) ∧ 0 ≤ m / 16 ∧ m / 16 < 16 := by omega
  unfold differences?
  simp only [Option.bind_eq_bind]
  rw [bind_signedWord (by omega) (by omega), bind_signedWord (by omega) (by omega)]
  split_ifs
  · generalize a % 16 = low, m % 16 = low', a / 16 = high, m / 16 = high' at hlow hhigh ⊢
    rw [bind_signedWord (by omega) (by omega), bind_signedWord (by omega) (by omega),
      bind_signedWord (by omega) (by omega), bind_signedWord (by omega) (by omega),
      bind_signedWord (by omega) (by omega), bind_signedWord (by omega) (by omega)]
    rfl
  · rfl

end

theorem byte_mem (byte : UInt8) :
  0 ≤ (byte.toNat : Int) ∧ (byte.toNat : Int) < 256
  := ⟨Int.natCast_nonneg _, Int.ofNat_lt.mpr byte.toNat_lt⟩

theorem bit_mem (bit : Bool) :
  0 ≤ (bit.toNat : Int) ∧ (bit.toNat : Int) ≤ 1
  := ⟨Int.natCast_nonneg _, Int.ofNat_le.mpr bit.toNat_le⟩

/-- The sum of two bytes and a carry, if sixteen bits hold what is computed on the way. -/
def add? (decimal : Bool) (a m : UInt8) (carry : Bool) : Option Result := do
  sums? decimal a.toNat m.toNat carry.toNat
  return add decimal a m carry

/-- The difference of two bytes, less one unless the carry is set, if sixteen bits hold what is
computed on the way. -/
def subtract? (decimal : Bool) (a m : UInt8) (carry : Bool) : Option Result := do
  differences? decimal a.toNat m.toNat (!carry).toNat
  return subtract decimal a m carry

theorem add?_eq (decimal : Bool) (a m : UInt8) (carry : Bool) :
  add? decimal a m carry = some (add decimal a m carry)
  := by
  rw [add?, sums?_eq decimal (byte_mem a) (byte_mem m) (bit_mem carry)]
  rfl

theorem subtract?_eq (decimal : Bool) (a m : UInt8) (carry : Bool) :
  subtract? decimal a m carry = some (subtract decimal a m carry)
  := by
  rw [subtract?, differences?_eq decimal (byte_mem a) (byte_mem m) (bit_mem !carry)]
  rfl

end Alu

/-! ### Instructions -/

namespace Exec

/-- A result that has to be there.  Without it the processor stops as it does at an operand that
it cannot use. -/
def demand {α : Type} : Option α → Exec α
  | some value => return value
  | none => fail .operandMismatch

/-- Does what a mnemonic says. -/
def execute? (irqVector : UInt16) (mnemonic : Mnemonic) (op : Operand) : Exec Unit := do
  match mnemonic with
  | .adc =>
    let value ← load op
    let c ← core
    setResult (← demand (Alu.add? c.status.decimal c.a value c.status.carry))
  | .sbc =>
    let value ← load op
    let c ← core
    setResult (← demand (Alu.subtract? c.status.decimal c.a value c.status.carry))
  | _ => execute irqVector mnemonic op

/-- One instruction. -/
def instruction? (irqVector : UInt16) : Exec Unit := do
  let pc := (← core).pc
  let opcode ← fetch
  match Instruction.ofOpcode? opcode with
  | none => fail (.unknownOpcode opcode pc)
  | some i =>
    spend i.cycles
    let op ← operand i
    execute? irqVector i.mnemonic op

/-- The arithmetic unit has all the results that it is asked for. -/
theorem execute?_eq (irqVector : UInt16) (mnemonic : Mnemonic) (op : Operand) :
  execute? irqVector mnemonic op = execute irqVector mnemonic op
  := by
  unfold execute?
  split
  · simp only [Alu.add?_eq]
    rfl
  · simp only [Alu.subtract?_eq]
    rfl
  · rfl

theorem instruction?_eq (irqVector : UInt16) :
  instruction? irqVector = instruction irqVector
  := by
  have hexecute : execute? irqVector = execute irqVector := by
    funext mnemonic op
    apply execute?_eq
  rw [instruction?, hexecute]
  rfl

end Exec

namespace Activity

variable {α : Type}

/-- The result of an activity on a bus, if neither the bus stops nor the activity meets an
operand that it cannot use. -/
def onBus? (activity : Activity α) (bus : Bus) : Option (Except Fault α × Core × Bus) :=
  match activity with
  | done value core => some (.ok value, core, bus)
  | fail fault core => if fault = .operandMismatch then none else some (.error fault, core, bus)
  | read core address next =>
    match bus.read? address with
    | some (.ok byte, bus) => (next byte).onBus? bus
    | some (.error fault, bus) => some (.error fault, core, bus)
    | none => none
  | write core address value next =>
    match bus.write? address value with
    | some (.ok (), bus) => next.onBus? bus
    | some (.error fault, bus) => some (.error fault, core, bus)
    | none => none
  | charge cycles next => next.onBus? (bus.charge cycles)

/-- An activity that stays within an allowance does not stop on an intact bus. -/
theorem Within.onBus?_eq {a : Activity α} {spent cycles waits : Nat} {post : α → Core → Prop}
    {b : Bus} (h : a.Within spent cycles waits post) (hb : b.Intact) :
  a.onBus? b = some (a.onBus b)
  := by
  induction a generalizing spent cycles waits b with
  | done _ _ => rfl
  | fail fault core => exact if_neg h.2
  | read core address next ih =>
      obtain ⟨-, -, hnext⟩ := h
      rw [onBus?, hb.read?_eq, onBus]
      have hread := hb.read address
      rcases hresult : b.read address with ⟨fault | byte, b'⟩
      · rfl
      · rw [hresult] at hread
        have hbyte : address < windowSize → byte = 0 := Bus.eq_zero_of_read (by rw [hresult])
        exact ih byte (hnext byte hbyte) hread
  | write core address value next ih =>
      obtain ⟨-, -, hnext⟩ := h
      rw [onBus?, hb.write?_eq, onBus]
      have hwrite := hb.write address value
      rcases hresult : b.write address value with ⟨fault | _, b'⟩
      · rfl
      · rw [hresult] at hwrite
        exact ih hnext hwrite
  | charge more next ih => exact ih h.2 (hb.charge more)

/-- Without an operand there is nothing to load. -/
example (core : Core) (b : Bus) : (Exec.load .absent core).onBus? b = none := rfl

end Activity

/-! ### Runs -/

namespace Processor

/-- The processor with its bus flushed. -/
def flush? (p : Processor) : Option Processor := do
  return { p with bus := ← p.bus.flush? }

/-- Runs one instruction. -/
def step? (p : Processor) : Option (Except Fault Unit × Processor) := do
  let (result, core, bus) ← (Exec.instruction? p.layout.irqVector p.core).onBus? p.bus
  return (result, ⟨core, p.layout, bus⟩)

/-- Runs instructions until the budget of the bus is spent or one of them fails, but at most
`limit` of them. -/
def runWithin? (p : Processor) (limit : Nat) :
    Option (Option (Except Fault Unit) × Processor) := do
  let p ← p.flush?
  if p.bus.budget.isSpent then return (some (.ok ()), p)
  else
    match limit with
    | 0 => return (none, p)
    | limit + 1 =>
      match ← p.step? with
      | (.ok (), p) => p.runWithin? limit
      | (.error fault, p) => return (some (.error fault), p)

section

variable {p : Processor}

/-- An instruction leaves an intact bus intact. -/
theorem intact_step (h : p.bus.Intact) :
  p.step.2.bus.Intact
  := step_preserves (fun _ address hb => hb.read address)
    (fun _ address value hb => hb.write address value) (fun _ cycles hb => hb.charge cycles) h

theorem flush?_eq (h : p.bus.Intact) :
  p.flush? = some p.flush
  := by
  rw [flush?, h.flush?_eq]
  rfl

/-- No instruction stops on an intact bus. -/
theorem step?_eq (h : p.bus.Intact) :
  p.step? = some p.step
  := by
  have hwithin := Exec.within_instruction p.layout.irqVector p.core
  rw [step?, Exec.instruction?_eq, hwithin.onBus?_eq h]
  rfl

/-- No run stops on an intact bus. -/
theorem runWithin?_eq (h : p.bus.Intact) (limit : Nat) :
  p.runWithin? limit = some (p.runWithin limit)
  := by
  have hflush : p.flush.bus.Intact := h.flush
  induction limit generalizing p with
  | zero =>
      unfold runWithin? runWithin
      rw [flush?_eq h]
      dsimp only [Option.bind_eq_bind, Option.bind_some]
      split_ifs
      · rfl
      · rfl
  | succ limit ih =>
      unfold runWithin? runWithin
      rw [flush?_eq h]
      dsimp only [Option.bind_eq_bind, Option.bind_some]
      split_ifs
      · rfl
      · rw [step?_eq hflush]
        have hstep := intact_step hflush
        rcases hresult : p.flush.step with ⟨fault | _, q⟩
        · rfl
        · rw [hresult] at hstep
          exact ih hstep hstep.flush

end

end Processor

end RasterConsole
