import RasterConsole.Proofs.Memory.Contents
import RasterConsole.Proofs.Processor.Runs

/-!
# What an instruction may cost

An activity stays within an allowance if it charges no more cycles and waits no more often for
the end of a line than the allowance has, counts the cycles that it charges in the registers,
and meets only operands that it can use (`Activity.Within`).

`Mnemonic.usage` says what a mnemonic does with its operand, and `Mode.shape` which operand an
addressing mode leads to.  For every row of the opcode table the one covers the other, and what
the two cost stays below a common bound (`Instruction.fits_table`).  So every instruction stays
within seven cycles and two waits (`Exec.within_instruction`).
-/

namespace RasterConsole

attribute [local instance] Arithmetic.exact

/-- How often an access to an address waits for the end of the line. -/
def stalls (address : UInt16) : Nat := if address = 0x02 then 1 else 0

theorem stalls_of_not_lt {address : UInt16} (h : ¬ address < windowSize) :
  stalls address = 0
  := by
  apply if_neg
  rintro rfl
  apply h (by decide)

theorem stalls_le_one (address : UInt16) :
  stalls address ≤ 1
  := by
  unfold stalls
  split_ifs
  · exact le_rfl
  · exact Nat.zero_le 1

/-- Of two addresses at most one waits if they differ. -/
theorem stalls_add_le_one {address address' : UInt16} (h : address ≠ address') :
  stalls address + stalls address' ≤ 1
  := by
  by_cases ha : address = 0x02
  · have ha' : stalls address' = 0 := if_neg fun h' => h (ha.trans h'.symm)
    rw [ha']
    apply stalls_le_one
  · rw [stalls, if_neg ha, Nat.zero_add]
    apply stalls_le_one

namespace Activity

variable {α β : Type}

/-- An activity that begins after `spent` cycles charges at most `cycles` more, waits at most
`waits` times for the end of a line, and never meets an operand that it cannot use.  Wherever
it may stop, the registers count the cycles that it has charged.  Where it ends well, `post`
holds.  A read of the register window is known to find zero. -/
def Within (activity : Activity α) (spent cycles waits : Nat) (post : α → Core → Prop) : Prop :=
  match activity with
  | done value core => core.cycles = spent ∧ post value core
  | fail fault core => core.cycles = spent ∧ fault ≠ .operandMismatch
  | read core address next =>
    core.cycles = spent ∧ stalls address ≤ waits
      ∧ ∀ byte, (address < windowSize → byte = 0) →
        (next byte).Within spent cycles (waits - stalls address) post
  | write core address _ next =>
    core.cycles = spent ∧ stalls address ≤ waits
      ∧ next.Within spent cycles (waits - stalls address) post
  | charge more next =>
    more ≤ cycles ∧ next.Within (spent + more) (cycles - more) waits post

section

variable {a : Activity α} {next : α → Core → Activity β} {spent cycles waits : Nat}
  {cycles' waits' : Nat} {post mid : α → Core → Prop} {last : β → Core → Prop}

/-- More may be allowed, and less be promised. -/
theorem Within.mono (h : a.Within spent cycles waits mid) (hcycles : cycles ≤ cycles')
    (hwaits : waits ≤ waits') (hpost : ∀ value core, mid value core → post value core) :
  a.Within spent cycles' waits' post
  := by
  induction a generalizing spent cycles cycles' waits waits' with
  | done value core => exact ⟨h.1, hpost value core h.2⟩
  | fail _ _ => exact h
  | read core address next ih =>
      obtain ⟨hcore, hstall, hnext⟩ := h
      exact ⟨hcore, hstall.trans hwaits, fun byte hbyte =>
        ih byte (hnext byte hbyte) hcycles (Nat.sub_le_sub_right hwaits _)⟩
  | write core address value next ih =>
      obtain ⟨hcore, hstall, hnext⟩ := h
      exact ⟨hcore, hstall.trans hwaits, ih hnext hcycles (Nat.sub_le_sub_right hwaits _)⟩
  | charge more next ih =>
      obtain ⟨hmore, hnext⟩ := h
      exact ⟨hmore.trans hcycles, ih hnext (Nat.sub_le_sub_right hcycles _) hwaits⟩

/-- What is allowed to one activity after the other adds up. -/
theorem Within.andThen (h : a.Within spent cycles waits mid)
    (hnext : ∀ value core, mid value core →
      (next value core).Within core.cycles cycles' waits' last) :
  (a.andThen next).Within spent (cycles + cycles') (waits + waits') last
  := by
  induction a generalizing spent cycles waits with
  | done value core =>
      obtain ⟨rfl, hmid⟩ := h
      apply (hnext value core hmid).mono (Nat.le_add_left _ _) (Nat.le_add_left _ _)
      exact fun _ _ hlast => hlast
  | fail _ _ => exact h
  | read core address next ih =>
      obtain ⟨hcore, hstall, hrest⟩ := h
      refine ⟨hcore, Nat.le_add_right_of_le hstall, fun byte hbyte => ?_⟩
      rw [Nat.sub_add_comm hstall]
      exact ih byte (hrest byte hbyte)
  | write core address value next ih =>
      obtain ⟨hcore, hstall, hrest⟩ := h
      refine ⟨hcore, Nat.le_add_right_of_le hstall, ?_⟩
      rw [Nat.sub_add_comm hstall]
      exact ih hrest
  | charge more next ih =>
      obtain ⟨hmore, hrest⟩ := h
      refine ⟨Nat.le_add_right_of_le hmore, ?_⟩
      rw [Nat.sub_add_comm hmore]
      exact ih hrest

end

end Activity

/-! ### Operands and their use -/

/-- The kinds of operands. -/
inductive Shape where
  | absent
  | accumulator
  | immediate
  | memory
  | offset
  deriving DecidableEq

/-- The kind of an operand. -/
def Operand.shape : Operand → Shape
  | absent => .absent
  | accumulator => .accumulator
  | immediate _ => .immediate
  | memory _ => .memory
  | offset _ => .offset

/-- The kind of operand that an addressing mode leads to. -/
def Mode.shape : Mode → Shape
  | implied => .absent
  | accumulator => .accumulator
  | immediate => .immediate
  | relative => .offset
  | zeroPage | zeroPageX | zeroPageY | absolute | absoluteX | absoluteY | indirect
  | indexedIndirect | indirectIndexed => .memory

/-- How often finding an operand may wait for the end of a line: once where a pointer is read
from memory. -/
def Mode.waits : Mode → Nat
  | indirect | indexedIndirect | indirectIndexed => 1
  | implied | accumulator | immediate | relative | zeroPage | zeroPageX | zeroPageY | absolute
  | absoluteX | absoluteY => 0

/-- What an instruction does with its operand. -/
inductive Usage where
  | ignores
  | reads
  | writes
  | modifies
  | jumps
  | branches
  | interrupts
  deriving DecidableEq

namespace Usage

/-- Whether an operand of some kind can be used like this. -/
def covers : Usage → Shape → Bool
  | ignores, _ | interrupts, _ => true
  | reads, .accumulator | reads, .immediate | reads, .memory => true
  | writes, .accumulator | writes, .memory => true
  | modifies, .accumulator | modifies, .memory => true
  | jumps, .memory => true
  | branches, .offset => true
  | _, _ => false

/-- The cycles that are charged for the use of an operand, on top of those of the
instruction. -/
def cycles : Usage → Nat
  | branches => 2
  | ignores | reads | writes | modifies | jumps | interrupts => 0

/-- How often the use of an operand may wait for the end of a line. -/
def waits : Usage → Nat
  | ignores | jumps | branches => 0
  | reads | writes | interrupts => 1
  | modifies => 2

/-- What can be modified can be read and written. -/
theorem reads_writes_of_modifies {shape : Shape} (h : modifies.covers shape = true) :
  reads.covers shape = true ∧ writes.covers shape = true
  := by
  cases shape with
  | accumulator | memory => exact ⟨rfl, rfl⟩
  | absent | immediate | offset => cases h

end Usage

/-- What a mnemonic does with its operand. -/
def Mnemonic.usage : Mnemonic → Usage
  | lda | ldx | ldy | and | ora | eor | adc | sbc | cmp | cpx | cpy | bit => .reads
  | sta | stx | sty => .writes
  | inc | dec | asl | lsr | rol | ror => .modifies
  | jmp | jsr => .jumps
  | bcc | bcs | bne | beq | bpl | bmi | bvc | bvs => .branches
  | brk => .interrupts
  | tax | tay | txa | tya | tsx | txs | pha | php | pla | plp | inx | iny | dex | dey | rts | rti
  | clc | sec | cli | sei | cld | sed | clv | nop => .ignores

namespace Instruction

/-- The cycles that are charged for finding the operand. -/
def penalty (i : Instruction) : Nat := if i.pagePenalty then 1 else 0

/-- An instruction can use the operand that it finds, for no more than seven cycles.  It waits
at most twice for the end of a line, counting the fetch of the opcode if that is zero. -/
structure Fits (i : Instruction) : Prop where
  covers : i.mnemonic.usage.covers i.mode.shape = true
  cycles_le : i.cycles + (i.penalty + i.mnemonic.usage.cycles) ≤ 7
  waits_le : i.mode.waits + i.mnemonic.usage.waits ≤ 2
  waits_lt : i.opcode = 0 → i.mode.waits + i.mnemonic.usage.waits ≤ 1
  implied : i.opcode = 0 → i.mode = .implied

/-- All instructions of the table can use what they find. -/
theorem fits_table {opcode : UInt8} {i : Instruction} (h : ofOpcode? opcode = some i) :
  i.Fits
  := by
  have htable : ∀ i ∈ opcodeTable, i.mnemonic.usage.covers i.mode.shape = true
      ∧ i.cycles + (i.penalty + i.mnemonic.usage.cycles) ≤ 7
      ∧ i.mode.waits + i.mnemonic.usage.waits ≤ 2
      ∧ (i.opcode = 0 → i.mode.waits + i.mnemonic.usage.waits ≤ 1)
      ∧ (i.opcode = 0 → i.mode = .implied) := by decide +kernel
  obtain ⟨hcovers, hcycles, hwaits, hzero, himplied⟩ := htable i (List.mem_of_find?_eq_some h)
  exact ⟨hcovers, hcycles, hwaits, hzero, himplied⟩

theorem opcode_eq {opcode : UInt8} {i : Instruction} (h : ofOpcode? opcode = some i) :
  i.opcode = opcode
  := by
  simpa using List.find?_some h

end Instruction

namespace Exec

variable {α β : Type}

/-! ### Computations -/

/-- The computation changes no more than registers, and counts no cycles. -/
def Plain (x : Exec α) : Prop :=
  ∀ core, ∃ value core', x core = .done value core' ∧ core'.cycles = core.cycles

/-- From all registers the computation stays within an allowance. -/
def Costs (x : Exec α) (cycles waits : Nat) : Prop :=
  ∀ core, (x core).Within core.cycles cycles waits fun _ _ => True

section

variable {x : Exec α} {f : α → Exec β} {core : Core} {cycles waits cycles' waits' : Nat}
  {mid : α → Core → Prop} {post : β → Core → Prop}

theorem plain_pure (value : α) :
  (pure value : Exec α).Plain
  := fun core => ⟨value, core, rfl, rfl⟩

theorem plain_core :
  Exec.core.Plain
  := fun core => ⟨core, core, rfl, rfl⟩

theorem plain_update {change : Core → Core} (h : ∀ core, (change core).cycles = core.cycles) :
  (update change).Plain
  := fun core => ⟨(), change core, rfl, h core⟩

theorem Plain.bind (hx : x.Plain) (hf : ∀ value, (f value).Plain) :
  (x >>= f).Plain
  := by
  intro core
  obtain ⟨value, core', hdone, hcycles⟩ := hx core
  obtain ⟨value', core'', hdone', hcycles'⟩ := hf value core'
  refine ⟨value', core'', ?_, hcycles'.trans hcycles⟩
  change (x core).andThen _ = _
  rw [hdone]
  exact hdone'

theorem Plain.costs (hx : x.Plain) :
  x.Costs 0 0
  := by
  intro core
  obtain ⟨value, core', hdone, hcycles⟩ := hx core
  rw [hdone]
  exact ⟨hcycles, trivial⟩

/-- Allowances add up, and what the first computation leaves is known to the second. -/
theorem within_bind (hx : (x core).Within core.cycles cycles waits mid)
    (hf : ∀ value core', mid value core' →
      (f value core').Within core'.cycles cycles' waits' post) :
  ((x >>= f) core).Within core.cycles (cycles + cycles') (waits + waits') post
  := hx.andThen hf

/-- What costs nothing may go before anything, and what it leaves is known. -/
theorem within_free_bind (hx : (x core).Within core.cycles 0 0 mid)
    (hf : ∀ value core', mid value core' →
      (f value core').Within core'.cycles cycles waits post) :
  ((x >>= f) core).Within core.cycles cycles waits post
  := by
  have hboth := within_bind hx hf
  rwa [Nat.zero_add, Nat.zero_add] at hboth

/-- The operand is put together from what has been found. -/
theorem Costs.within_return {x : Exec UInt16} (hx : x.Costs cycles waits) (core : Core) :
  ((x >>= fun address => pure (Operand.memory address)) core).Within core.cycles cycles waits
    fun op _ => op.shape = .memory
  := by
  change ((x core).andThen fun address core => .done (Operand.memory address) core).Within _
    (cycles + 0) (waits + 0) _
  apply (hx core).andThen
  exact fun _ _ _ => ⟨rfl, rfl⟩

/-- What is written to the registers first costs nothing. -/
theorem Plain.bind_within (hx : x.Plain)
    (hf : ∀ value core', core'.cycles = core.cycles →
      (f value core').Within core.cycles cycles waits post) :
  ((x >>= f) core).Within core.cycles cycles waits post
  := by
  obtain ⟨value, core', hdone, hcycles⟩ := hx core
  change ((x core).andThen _).Within _ _ _ _
  rw [hdone]
  exact hf value core' hcycles

theorem Costs.mono (hx : x.Costs cycles waits) (hcycles : cycles ≤ cycles')
    (hwaits : waits ≤ waits') :
  x.Costs cycles' waits'
  := fun core => (hx core).mono hcycles hwaits fun _ _ _ => trivial

theorem Costs.bind (hx : x.Costs cycles waits) (hf : ∀ value, (f value).Costs cycles' waits') :
  (x >>= f).Costs (cycles + cycles') (waits + waits')
  := fun core => within_bind (hx core) fun value core' _ => hf value core'

/-- What costs nothing may go before anything. -/
theorem Costs.free_bind (hx : x.Costs 0 0) (hf : ∀ value, (f value).Costs cycles waits) :
  (x >>= f).Costs cycles waits
  := by
  have hboth := hx.bind hf
  rwa [Nat.zero_add, Nat.zero_add] at hboth

/-- Registers may change behind a computation. -/
theorem Costs.bind_plain (hx : x.Costs cycles waits) (hf : ∀ value, (f value).Plain) :
  (x >>= f).Costs cycles waits
  := hx.bind fun value => (hf value).costs

/-- Registers may change before a computation. -/
theorem Plain.bind_costs (hx : x.Plain) (hf : ∀ value, (f value).Costs cycles waits) :
  (x >>= f).Costs cycles waits
  := by
  intro core
  apply hx.bind_within
  intro value core' hcycles
  rw [← hcycles]
  exact hf value core'

end

theorem within_read (address : UInt16) (core : Core) :
  (read address core).Within core.cycles 0 (stalls address)
    fun byte core' => core' = core ∧ (address < windowSize → byte = 0)
  := ⟨rfl, le_rfl, fun _ hbyte => ⟨rfl, rfl, hbyte⟩⟩

theorem costs_read (address : UInt16) :
  (read address).Costs 0 (stalls address)
  := fun core => (within_read address core).mono le_rfl le_rfl fun _ _ _ => trivial

theorem costs_write (address : UInt16) (value : UInt8) :
  (write address value).Costs 0 (stalls address)
  := fun _ => ⟨rfl, le_rfl, rfl, trivial⟩

/-- Two reads wait at most once between them if they are from different addresses. -/
theorem costs_read_read {address address' : UInt16} (h : address ≠ address')
    {f : UInt8 → UInt8 → Exec α} (hf : ∀ low high, (f low high).Plain) :
  (read address >>= fun low => read address' >>= fun high => f low high).Costs 0 1
  := by
  have hboth := (costs_read address).bind fun low => (costs_read address').bind_plain (hf low)
  exact hboth.mono le_rfl (stalls_add_le_one h)

theorem costs_spend (cycles : Nat) :
  (spend cycles).Costs cycles 0
  := fun _ => ⟨le_rfl, rfl, trivial⟩

/-! ### Finding the operand -/

/-- A fetch moves the program counter on.  It waits if the program counter was at the strobe
register. -/
theorem within_fetch (core : Core) :
  (fetch core).Within core.cycles 0 (stalls core.pc)
    fun byte core' => core'.pc = core.pc + 1 ∧ (core.pc < windowSize → byte = 0)
  := ⟨rfl, le_rfl, fun _ hbyte => ⟨rfl, rfl, hbyte⟩⟩

/-- The operand of an instruction is not fetched from the strobe register. -/
structure OperandAway (core : Core) : Prop where
  first : core.pc ≠ 0x02
  second : core.pc + 1 ≠ 0x02

theorem OperandAway.within_fetch {core : Core} (h : OperandAway core) :
  (fetch core).Within core.cycles 0 0 fun _ _ => True
  := by
  have hfetch := Exec.within_fetch core
  rw [stalls, if_neg h.first] at hfetch
  apply hfetch.mono le_rfl le_rfl
  exact fun _ _ _ => trivial

theorem OperandAway.within_fetchWord {core : Core} (h : OperandAway core) :
  (fetchWord core).Within core.cycles 0 0 fun _ _ => True
  := by
  have hlow := Exec.within_fetch core
  rw [stalls, if_neg h.first] at hlow
  apply within_free_bind hlow
  rintro low core' ⟨hpc, -⟩
  have hhigh := Exec.within_fetch core'
  rw [stalls, hpc, if_neg h.second] at hhigh
  apply within_free_bind hhigh
  exact fun high core'' _ => ⟨rfl, trivial⟩

theorem ne_succ (byte : UInt8) :
  byte ≠ byte + 1
  := by simp

/-- The two bytes of a pointer in the first page are not both at the strobe register. -/
theorem costs_pointer (cell : UInt8) :
  (pointer cell).Costs 0 1
  := by
  have hcells : cell.toUInt16 ≠ (cell + 1).toUInt16 := by
    rw [ne_eq, UInt8.toUInt16_inj]
    apply ne_succ
  exact costs_read_read hcells fun low high => plain_pure (wordOf low high)

theorem costs_indexed (base : UInt16) (index : UInt8) (pagePenalty : Bool) :
  (indexed base index pagePenalty).Costs (if pagePenalty then 1 else 0) 0
  := by
  unfold indexed
  cases pagePenalty with
  | false => exact (plain_pure _).costs
  | true =>
      change Costs _ 1 0
      dsimp only
      split_ifs
      · exact (costs_spend 1).bind_plain fun _ => plain_pure _
      · exact (plain_pure _).costs.mono (Nat.zero_le _) le_rfl

/-- The byte behind a pointer, which is in the same page, is another byte. -/
theorem ne_wrapped (cell : UInt16) :
  cell ≠ wordOf (lowByte cell + 1) (highByte cell)
  := by
  intro h
  apply ne_succ (lowByte cell)
  exact (wordOf_eq_iff.mp h.symm).1.symm

/-- Finding an operand costs what the addressing mode says, and leads to an operand of the
kind that it says. -/
theorem within_operand {i : Instruction} {core : Core}
    (h : i.mode = .implied ∨ OperandAway core) :
  (operand i core).Within core.cycles i.penalty i.mode.waits fun op _ => op.shape = i.mode.shape
  := by
  obtain ⟨opcode, mnemonic, mode, cycles, pagePenalty⟩ := i
  cases mode with
  | implied | accumulator => exact ⟨rfl, rfl⟩
  | immediate | relative | zeroPage | zeroPageX | zeroPageY =>
      apply within_free_bind (h.resolve_left nofun).within_fetch
      exact fun byte core' _ => ⟨rfl, rfl⟩
  | absolute =>
      apply within_free_bind (h.resolve_left nofun).within_fetchWord
      exact fun address core' _ => ⟨rfl, rfl⟩
  | absoluteX =>
      apply within_free_bind (h.resolve_left nofun).within_fetchWord
      exact fun base core' _ => (costs_indexed base core'.x pagePenalty).within_return core'
  | absoluteY =>
      apply within_free_bind (h.resolve_left nofun).within_fetchWord
      exact fun base core' _ => (costs_indexed base core'.y pagePenalty).within_return core'
  | indirect =>
      apply within_free_bind (h.resolve_left nofun).within_fetchWord
      intro cell core' _
      have hpointer := costs_read_read (ne_wrapped cell) fun low high =>
        plain_pure (wordOf low high)
      exact (hpointer.mono (Nat.zero_le _) le_rfl).within_return core'
  | indexedIndirect =>
      apply within_free_bind (h.resolve_left nofun).within_fetch
      intro cell core' _
      have hpointer := costs_pointer (cell + core'.x)
      exact (hpointer.mono (Nat.zero_le _) le_rfl).within_return core'
  | indirectIndexed =>
      apply within_free_bind (h.resolve_left nofun).within_fetch
      intro cell core' _
      have hboth := (costs_pointer cell).bind fun base => plain_core.bind_costs fun c =>
        costs_indexed base c.y pagePenalty
      rw [Nat.zero_add] at hboth
      exact hboth.within_return core'

/-! ### Using the operand -/

theorem plain_see (value : UInt8) :
  (see value).Plain
  := plain_update fun _ => by rfl

theorem plain_setA (value : UInt8) :
  (setA value).Plain
  := (plain_update fun _ => by rfl).bind fun _ => plain_see value

theorem plain_setX (value : UInt8) :
  (setX value).Plain
  := (plain_update fun _ => by rfl).bind fun _ => plain_see value

theorem plain_setY (value : UInt8) :
  (setY value).Plain
  := (plain_update fun _ => by rfl).bind fun _ => plain_see value

theorem plain_setStatus (change : Status → Status) :
  (setStatus change).Plain
  := plain_update fun _ => by rfl

theorem plain_jump (target : UInt16) :
  (jump target).Plain
  := plain_update fun _ => by rfl

section

variable {op : Operand}

theorem costs_load (h : Usage.reads.covers op.shape = true) :
  (load op).Costs 0 1
  := by
  cases op with
  | absent | offset _ => cases h
  | accumulator => exact (plain_core.bind fun c => plain_pure c.a).costs.mono le_rfl (Nat.zero_le 1)
  | immediate value => exact (plain_pure value).costs.mono le_rfl (Nat.zero_le 1)
  | memory address => exact (costs_read address).mono le_rfl (stalls_le_one address)

theorem costs_store (h : Usage.writes.covers op.shape = true) (value : UInt8) :
  (store op value).Costs 0 1
  := by
  cases op with
  | absent | immediate _ | offset _ => cases h
  | accumulator => exact (plain_update fun _ => by rfl).costs.mono le_rfl (Nat.zero_le 1)
  | memory address => exact (costs_write address value).mono le_rfl (stalls_le_one address)

theorem plain_address (h : Usage.jumps.covers op.shape = true) :
  (address op).Plain
  := by
  cases op with
  | memory target => exact plain_pure target
  | absent | accumulator | immediate _ | offset _ => cases h

theorem costs_replace (h : Usage.modifies.covers op.shape = true) (change : UInt8 → UInt8) :
  (replace op change).Costs 0 2
  := by
  obtain ⟨hload, hstore⟩ := Usage.reads_writes_of_modifies h
  exact (costs_load hload).bind fun _ => (costs_store hstore _).bind_plain fun _ => plain_see _

theorem costs_shift (h : Usage.modifies.covers op.shape = true)
    (direction : Bool → UInt8 → UInt8 × Bool) (carried : Bool) :
  (shift op direction carried).Costs 0 2
  := by
  obtain ⟨hload, hstore⟩ := Usage.reads_writes_of_modifies h
  exact (costs_load hload).bind fun _ => plain_core.bind_costs fun _ =>
    (plain_update fun _ => by rfl).bind_costs fun _ =>
      (costs_store hstore _).bind_plain fun _ => plain_see _

/-- A branch that is taken costs two cycles at most. -/
theorem costs_branch (h : Usage.branches.covers op.shape = true) (condition : Bool) :
  (branch op condition).Costs 2 0
  := by
  cases op with
  | absent | accumulator | immediate _ | memory _ => cases h
  | offset distance =>
      unfold branch
      dsimp only
      split_ifs
      · apply plain_core.bind_costs
        intro c
        have hspend : (spend (if highByte (c.pc + signExtend distance) = highByte c.pc then 1
            else 2)).Costs 2 0 := by
          apply (costs_spend _).mono _ le_rfl
          split_ifs
          · exact Nat.le_succ 1
          · exact le_rfl
        exact hspend.bind_plain fun _ => plain_update fun _ => by rfl
      · exact (plain_pure ()).costs.mono (Nat.zero_le 2) le_rfl

end

/-! ### The stack -/

theorem costs_push (value : UInt8) :
  (push value).Costs 0 0
  := by
  apply plain_core.bind_costs
  intro c
  have hwrite := costs_write (stackAddress c.sp) value
  rw [stalls_of_not_lt (stackAddress_not_lt c.sp)] at hwrite
  exact hwrite.bind_plain fun _ => plain_update fun _ => by rfl

theorem costs_pull :
  pull.Costs 0 0
  := by
  apply (plain_update fun _ => by rfl).bind_costs
  intro _
  apply plain_core.bind_costs
  intro c
  have hread := costs_read (stackAddress c.sp)
  rwa [stalls_of_not_lt (stackAddress_not_lt c.sp)] at hread

theorem costs_pushWord (value : UInt16) :
  (pushWord value).Costs 0 0
  := (costs_push _).bind fun _ => costs_push _

theorem costs_pullWord :
  pullWord.Costs 0 0
  := costs_pull.bind fun _ => costs_pull.bind_plain fun _ => plain_pure _

theorem costs_pushStatus :
  pushStatus.Costs 0 0
  := plain_core.bind_costs fun _ => costs_push _

theorem costs_pullStatus :
  pullStatus.Costs 0 0
  := costs_pull.bind_plain fun _ => plain_update fun _ => by rfl

/-! ### Instructions -/

/-- At most one of the two bytes of the interrupt vector is at the strobe register. -/
theorem costs_brk (irqVector : UInt16) (op : Operand) :
  (execute irqVector .brk op).Costs 0 1
  := by
  apply plain_core.bind_costs
  intro c
  apply (costs_pushWord _).free_bind
  intro _
  apply costs_pushStatus.free_bind
  intro _
  apply (plain_setStatus _).bind_costs
  intro _
  apply costs_read_read (by simp)
  exact fun low high => plain_jump (wordOf low high)

/-- Doing what a mnemonic says costs what its use of the operand costs, if the operand is one
that it can use. -/
theorem costs_execute (irqVector : UInt16) {mnemonic : Mnemonic} {op : Operand}
    (h : mnemonic.usage.covers op.shape = true) :
  (execute irqVector mnemonic op).Costs mnemonic.usage.cycles mnemonic.usage.waits
  := by
  unfold execute
  cases mnemonic with
  | lda => exact (costs_load h).bind_plain fun _ => plain_setA _
  | ldx => exact (costs_load h).bind_plain fun _ => plain_setX _
  | ldy => exact (costs_load h).bind_plain fun _ => plain_setY _
  | sta | stx | sty => exact plain_core.bind_costs fun _ => costs_store h _
  | tax | tsx | inx | dex => exact (plain_core.bind fun _ => plain_setX _).costs
  | tay | iny | dey => exact (plain_core.bind fun _ => plain_setY _).costs
  | txa | tya => exact (plain_core.bind fun _ => plain_setA _).costs
  | and | ora | eor =>
      exact (costs_load h).bind_plain fun _ => plain_core.bind fun _ => plain_setA _
  | adc | sbc | cmp | cpx | cpy =>
      exact (costs_load h).bind_plain fun _ => plain_core.bind fun _ => plain_update fun _ => by rfl
  | bit => exact (costs_load h).bind_plain fun _ => plain_update fun _ => by rfl
  | inc | dec => exact costs_replace h _
  | asl | lsr | rol | ror => exact costs_shift h _ _
  | bcc | bcs | bne | beq | bpl | bmi | bvc | bvs =>
      exact plain_core.bind_costs fun _ => costs_branch h _
  | jmp => exact ((plain_address h).bind fun _ => plain_jump _).costs
  | jsr =>
      apply plain_core.bind_costs
      intro c
      apply (costs_pushWord _).bind_plain
      exact fun _ => (plain_address h).bind fun _ => plain_jump _
  | rts => exact costs_pullWord.bind_plain fun _ => plain_jump _
  | brk => exact costs_brk irqVector op
  | rti => exact costs_pullStatus.bind fun _ => costs_pullWord.bind_plain fun _ => plain_jump _
  | pha => exact plain_core.bind_costs fun _ => costs_push _
  | php => exact costs_pushStatus
  | pla => exact costs_pull.bind_plain fun _ => plain_setA _
  | plp => exact costs_pullStatus
  | txs | clc | sec | cli | sei | cld | sed | clv => exact (plain_update fun _ => by rfl).costs
  | nop => exact (plain_pure ()).costs

/-- Behind an opcode that is not zero, no operand is fetched from the strobe register: reads
of the register window find zero. -/
theorem operandAway_of_not_lt {core : Core} (h : ¬ core.pc < windowSize) (cycles : Nat) :
  OperandAway { core with pc := core.pc + 1, cycles := cycles }
  := by
  rw [UInt16.lt_iff_toNat_lt] at h
  have hpc := core.pc.toNat_lt
  constructor
  · dsimp only
    rw [ne_eq, ← UInt16.toNat_inj, UInt16.toNat_add]
    simp [windowSize] at h ⊢
    omega
  · dsimp only
    rw [ne_eq, ← UInt16.toNat_inj, UInt16.toNat_add, UInt16.toNat_add]
    simp [windowSize] at h ⊢
    omega

/-- An instruction charges at most seven cycles and waits at most twice for the end of a line.
It never meets an operand that it cannot use. -/
theorem within_instruction (irqVector : UInt16) (core : Core) :
  (instruction irqVector core).Within core.cycles 7 2 fun _ _ => True
  := by
  rw [instruction_eq]
  refine ⟨rfl, (stalls_le_one _).trans (Nat.le_succ 1), fun opcode hbyte => ?_⟩
  dsimp only
  cases hdecode : Instruction.ofOpcode? opcode with
  | none => exact ⟨rfl, nofun⟩
  | some i =>
      obtain ⟨hcovers, hcycles, hwaits, hbreak, himplied⟩ := Instruction.fits_table hdecode
      rw [Instruction.opcode_eq hdecode] at hbreak himplied
      -- An opcode from the register window is zero, which leaves one wait to the rest.
      have hrest : i.mode.waits + i.mnemonic.usage.waits ≤ 2 - stalls core.pc
          ∧ (i.mode = .implied ∨
            OperandAway { core with pc := core.pc + 1, cycles := core.cycles + i.cycles }) := by
        by_cases hwindow : core.pc < windowSize
        · have hone := hbreak (hbyte hwindow)
          have hstall := stalls_le_one core.pc
          exact ⟨by omega, .inl (himplied (hbyte hwindow))⟩
        · rw [stalls_of_not_lt hwindow]
          exact ⟨hwaits, .inr (operandAway_of_not_lt hwindow _)⟩
      refine ⟨by omega, ?_⟩
      have hboth : ((operand i >>= execute irqVector i.mnemonic)
          { core with pc := core.pc + 1, cycles := core.cycles + i.cycles }).Within
          (core.cycles + i.cycles) (i.penalty + i.mnemonic.usage.cycles)
          (i.mode.waits + i.mnemonic.usage.waits) fun _ _ => True := by
        apply within_bind (within_operand hrest.2)
        intro op core' hshape
        apply costs_execute irqVector (by rw [hshape, hcovers])
      exact hboth.mono (by omega) hrest.1 fun _ _ _ => trivial

end Exec

end RasterConsole
