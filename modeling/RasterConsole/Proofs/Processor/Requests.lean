import RasterConsole.Processor.Execution
import RasterConsole.Proofs.Bus.PaidAhead

/-!
# What instructions ask of the bus

An activity *writes last* if it asks nothing more of the bus once it has written to a
register: no cycle is charged and no address is accessed behind a write that may have to
wait.  All instructions write last (`Exec.writesLast_instruction`): the store is the last access
of those that store to an operand, and the others write to the stack, which lies outside
the register window.

An activity that writes last does the same on a bus that has paid ahead as on one that
pays nothing (`Activity.onBus_paidAhead`).
-/

namespace RasterConsole

attribute [local instance] Arithmetic.exact

namespace Activity

variable {α β : Type}

/-- The activity asks nothing of the bus. -/
def Silent : Activity α → Prop
  | done _ _ => True
  | fail _ _ => True
  | read _ _ _ => False
  | write _ _ _ _ => False
  | charge _ _ => False

/-- The activity writes to no register. -/
def KeepsRegisters : Activity α → Prop
  | done _ _ => True
  | fail _ _ => True
  | read _ _ next => ∀ byte, (next byte).KeepsRegisters
  | write _ address _ next => ¬ address < windowSize ∧ next.KeepsRegisters
  | charge _ next => next.KeepsRegisters

/-- The activity asks nothing of the bus after a write to a register. -/
def WritesLast : Activity α → Prop
  | done _ _ => True
  | fail _ _ => True
  | read _ _ next => ∀ byte, (next byte).WritesLast
  | write _ address _ next => next.Silent ∨ ¬ address < windowSize ∧ next.WritesLast
  | charge _ next => next.WritesLast

theorem Silent.keepsRegisters {a : Activity α} (h : a.Silent) :
  a.KeepsRegisters
  := by
  cases a with
  | done _ _ | fail _ _ => trivial
  | read _ _ _ | write _ _ _ _ | charge _ _ => cases h

theorem KeepsRegisters.writesLast {a : Activity α} (h : a.KeepsRegisters) :
  a.WritesLast
  := by
  induction a with
  | done _ _ | fail _ _ => trivial
  | read _ _ _ ih => exact fun byte => ih byte (h byte)
  | write _ _ _ _ ih => exact .inr ⟨h.1, ih h.2⟩
  | charge _ _ ih => exact ih h

theorem Silent.andThen {a : Activity α} {next : α → Core → Activity β} (h : a.Silent)
    (hnext : ∀ value core, (next value core).Silent) :
  (a.andThen next).Silent
  := by
  cases a with
  | done value core => apply hnext
  | fail _ _ => trivial
  | read _ _ _ | write _ _ _ _ | charge _ _ => cases h

theorem KeepsRegisters.andThen {a : Activity α} {next : α → Core → Activity β}
    (h : a.KeepsRegisters) (hnext : ∀ value core, (next value core).KeepsRegisters) :
  (a.andThen next).KeepsRegisters
  := by
  induction a with
  | done value core => apply hnext
  | fail _ _ => trivial
  | read _ _ _ ih => exact fun byte => ih byte (h byte)
  | write _ _ _ _ ih => exact ⟨h.1, ih h.2⟩
  | charge _ _ ih => exact ih h

/-- An activity that writes to no register may be followed by one that writes last. -/
theorem KeepsRegisters.andThen_writesLast {a : Activity α} {next : α → Core → Activity β}
    (h : a.KeepsRegisters) (hnext : ∀ value core, (next value core).WritesLast) :
  (a.andThen next).WritesLast
  := by
  induction a with
  | done value core => apply hnext
  | fail _ _ => trivial
  | read _ _ _ ih => exact fun byte => ih byte (h byte)
  | write _ _ _ _ ih => exact .inr ⟨h.1, ih h.2⟩
  | charge _ _ ih => exact ih h

/-- An activity that writes last may be followed by one that asks nothing of the bus. -/
theorem WritesLast.andThen_silent {a : Activity α} {next : α → Core → Activity β}
    (h : a.WritesLast) (hnext : ∀ value core, (next value core).Silent) :
  (a.andThen next).WritesLast
  := by
  induction a with
  | done value core => exact (hnext value core).keepsRegisters.writesLast
  | fail _ _ => trivial
  | read _ _ _ ih => exact fun byte => ih byte (h byte)
  | write _ _ _ _ ih =>
      obtain hsilent | ⟨haddress, hrest⟩ := h
      · exact .inl (hsilent.andThen hnext)
      · exact .inr ⟨haddress, ih hrest⟩
  | charge _ _ ih => exact ih h

/-! ### Activities on a bus -/

theorem onBus_read_ok [Arithmetic] {b : Bus} {address : UInt16} {byte : UInt8}
    (h : (b.read address).1 = .ok byte) (core : Core) (next : UInt8 → Activity α) :
  (read core address next).onBus b = (next byte).onBus (b.read address).2
  := by
  rw [onBus]
  generalize b.read address = outcome at h ⊢
  obtain ⟨_, _⟩ := outcome
  obtain rfl := h
  rfl

theorem onBus_read_error [Arithmetic] {b : Bus} {address : UInt16} {fault : Fault}
    (h : (b.read address).1 = .error fault) (core : Core) (next : UInt8 → Activity α) :
  (read core address next).onBus b = (.error fault, core, (b.read address).2)
  := by
  rw [onBus]
  generalize b.read address = outcome at h ⊢
  obtain ⟨_, _⟩ := outcome
  obtain rfl := h
  rfl

theorem onBus_write_ok [Arithmetic] {b : Bus} {address : UInt16} {value : UInt8}
    (h : (b.write address value).1 = .ok ()) (core : Core) (next : Activity α) :
  (write core address value next).onBus b = next.onBus (b.write address value).2
  := by
  rw [onBus]
  generalize b.write address value = outcome at h ⊢
  obtain ⟨_, _⟩ := outcome
  obtain rfl := h
  rfl

theorem onBus_write_error [Arithmetic] {b : Bus} {address : UInt16} {value : UInt8} {fault : Fault}
    (h : (b.write address value).1 = .error fault) (core : Core) (next : Activity α) :
  (write core address value next).onBus b = (.error fault, core, (b.write address value).2)
  := by
  rw [onBus]
  generalize b.write address value = outcome at h ⊢
  obtain ⟨_, _⟩ := outcome
  obtain rfl := h
  rfl

/-- What every access and every charge preserves, an activity preserves. -/
theorem onBus_preserves [Arithmetic] {P : Bus → Prop}
    (hread : ∀ b address, P b → P (b.read address).2)
    (hwrite : ∀ b address value, P b → P (b.write address value).2)
    (hcharge : ∀ b cycles, P b → P (b.charge cycles)) (a : Activity α) {b : Bus} (h : P b) :
  P (a.onBus b).2.2
  := by
  induction a generalizing b with
  | done _ _ => exact h
  | fail _ _ => exact h
  | read core address next ih =>
      cases hresult : (b.read address).1 with
      | ok byte =>
          rw [onBus_read_ok hresult]
          apply ih byte (hread b address h)
      | error fault =>
          rw [onBus_read_error hresult]
          apply hread b address h
  | write core address value next ih =>
      cases hresult : (b.write address value).1 with
      | ok _ =>
          rw [onBus_write_ok hresult]
          apply ih (hwrite b address value h)
      | error fault =>
          rw [onBus_write_error hresult]
          apply hwrite b address value h
  | charge cycles next ih => exact ih (hcharge b cycles h)

/-- An activity that asks nothing of the bus ends alike on every bus and leaves it as it
is. -/
theorem Silent.onBus_eq {a : Activity α} (h : a.Silent) (b b' : Bus) :
  (a.onBus b).1 = (a.onBus b').1 ∧ (a.onBus b).2.1 = (a.onBus b').2.1 ∧ (a.onBus b).2.2 = b
  := by
  cases a with
  | done _ _ | fail _ _ => exact ⟨rfl, rfl, rfl⟩
  | read _ _ _ | write _ _ _ _ | charge _ _ => cases h

/-- An activity that writes last has the same result and leaves the same registers on a
bus that has paid ahead as on one that pays nothing, and the one stays ahead of the
other. -/
theorem onBus_paidAhead {a : Activity α} (ha : a.WritesLast) {budget : Budget} {late b : Bus}
    (h : Bus.InStep budget late b) :
  (a.onBus b).1 = (a.onBus late).1 ∧ (a.onBus b).2.1 = (a.onBus late).2.1
    ∧ Bus.PaidAhead budget (a.onBus late).2.2 (a.onBus b).2.2
  := by
  induction a generalizing late b with
  | done _ _ => exact ⟨rfl, rfl, h.toPaidAhead⟩
  | fail _ _ => exact ⟨rfl, rfl, h.toPaidAhead⟩
  | read core address next ih =>
      obtain ⟨hresult, hstep⟩ := h.read address
      cases hlate : (late.read address).1 with
      | ok byte =>
          rw [onBus_read_ok hlate, onBus_read_ok (hresult.trans hlate)]
          apply ih byte (ha byte) hstep
      | error fault =>
          rw [onBus_read_error hlate, onBus_read_error (hresult.trans hlate)]
          exact ⟨rfl, rfl, hstep.toPaidAhead⟩
  | write core address value next ih =>
      obtain ⟨hresult, hstep⟩ := h.write address value
      cases hlate : (late.write address value).1 with
      | ok _ =>
          rw [onBus_write_ok hlate, onBus_write_ok (hresult.trans hlate)]
          obtain hsilent | ⟨haddress, hrest⟩ := ha
          · obtain ⟨hvalue, hcore, hbus⟩ :=
              hsilent.onBus_eq (b.write address value).2 (late.write address value).2
            obtain ⟨-, -, hlateBus⟩ :=
              hsilent.onBus_eq (late.write address value).2 (b.write address value).2
            rw [hbus, hlateBus]
            exact ⟨hvalue, hcore, hstep⟩
          · apply ih hrest (h.write_memory haddress value)
      | error fault =>
          rw [onBus_write_error hlate, onBus_write_error (hresult.trans hlate)]
          exact ⟨rfl, rfl, hstep⟩
  | charge cycles next ih => exact ih ha (h.charge cycles)

end Activity

namespace Exec

/-! ### Computations -/

section

variable {α β : Type}

/-- The computation asks nothing of the bus. -/
def Silent (x : Exec α) : Prop := ∀ core, (x core).Silent

/-- The computation writes to no register. -/
def KeepsRegisters (x : Exec α) : Prop := ∀ core, (x core).KeepsRegisters

/-- The computation asks nothing of the bus after a write to a register. -/
def WritesLast (x : Exec α) : Prop := ∀ core, (x core).WritesLast

theorem Silent.keepsRegisters {x : Exec α} (h : x.Silent) :
  x.KeepsRegisters
  := fun core => (h core).keepsRegisters

theorem KeepsRegisters.writesLast {x : Exec α} (h : x.KeepsRegisters) :
  x.WritesLast
  := fun core => (h core).writesLast

theorem Silent.bind {x : Exec α} {f : α → Exec β} (h : x.Silent)
    (hf : ∀ value, (f value).Silent) :
  (x >>= f).Silent
  := fun core => (h core).andThen hf

theorem KeepsRegisters.bind {x : Exec α} {f : α → Exec β} (h : x.KeepsRegisters)
    (hf : ∀ value, (f value).KeepsRegisters) :
  (x >>= f).KeepsRegisters
  := fun core => (h core).andThen hf

theorem KeepsRegisters.bind_writesLast {x : Exec α} {f : α → Exec β} (h : x.KeepsRegisters)
    (hf : ∀ value, (f value).WritesLast) :
  (x >>= f).WritesLast
  := fun core => (h core).andThen_writesLast hf

theorem WritesLast.bind_silent {x : Exec α} {f : α → Exec β} (h : x.WritesLast)
    (hf : ∀ value, (f value).Silent) :
  (x >>= f).WritesLast
  := fun core => (h core).andThen_silent hf

theorem silent_pure (value : α) :
  (pure value : Exec α).Silent
  := fun _ => trivial

theorem silent_fail (fault : Fault) :
  (fail fault : Exec α).Silent
  := fun _ => trivial

end

theorem silent_core :
  core.Silent
  := fun _ => trivial

theorem silent_update (change : Core → Core) :
  (update change).Silent
  := fun _ => trivial

theorem keepsRegisters_read (address : UInt16) :
  (read address).KeepsRegisters
  := fun _ _ => trivial

theorem keepsRegisters_spend (cycles : Nat) :
  (spend cycles).KeepsRegisters
  := fun _ => trivial

theorem writesLast_write (address : UInt16) (value : UInt8) :
  (write address value).WritesLast
  := fun _ => .inl trivial

theorem keepsRegisters_write {address : UInt16} (h : ¬ address < windowSize) (value : UInt8) :
  (write address value).KeepsRegisters
  := fun _ => ⟨h, trivial⟩

/-- The stack lies outside the register window. -/
theorem stackAddress_not_lt (sp : UInt8) :
  ¬ stackAddress sp < windowSize
  := by
  have hsp := sp.toNat_lt
  rw [UInt16.lt_iff_toNat_lt]
  simp [stackAddress, wordOf, windowSize]
  omega

/-! ### Operands -/

theorem keepsRegisters_fetch :
  fetch.KeepsRegisters
  := by
  apply silent_core.keepsRegisters.bind
  intro c
  apply (keepsRegisters_read _).bind
  intro byte
  apply (silent_update _).keepsRegisters.bind
  intro _
  apply (silent_pure _).keepsRegisters

theorem keepsRegisters_fetchWord :
  fetchWord.KeepsRegisters
  := by
  apply keepsRegisters_fetch.bind
  intro low
  apply keepsRegisters_fetch.bind
  intro high
  apply (silent_pure _).keepsRegisters

theorem keepsRegisters_pointer (cell : UInt8) :
  (pointer cell).KeepsRegisters
  := by
  apply (keepsRegisters_read _).bind
  intro low
  apply (keepsRegisters_read _).bind
  intro high
  apply (silent_pure _).keepsRegisters

theorem keepsRegisters_indexed (base : UInt16) (index : UInt8) (pagePenalty : Bool) :
  (indexed base index pagePenalty).KeepsRegisters
  := by
  unfold indexed
  dsimp only
  split_ifs
  · apply (keepsRegisters_spend _).bind
    intro _
    apply (silent_pure _).keepsRegisters
  · apply (silent_pure _).keepsRegisters

/-- Finding an operand writes to no register. -/
theorem keepsRegisters_operand (i : Instruction) :
  (operand i).KeepsRegisters
  := by
  unfold operand
  cases i.mode with
  | implied | accumulator => exact (silent_pure _).keepsRegisters
  | immediate | relative | zeroPage =>
      apply keepsRegisters_fetch.bind
      intro byte
      apply (silent_pure _).keepsRegisters
  | zeroPageX | zeroPageY =>
      apply keepsRegisters_fetch.bind
      intro base
      apply silent_core.keepsRegisters.bind
      intro c
      apply (silent_pure _).keepsRegisters
  | absolute =>
      apply keepsRegisters_fetchWord.bind
      intro address
      apply (silent_pure _).keepsRegisters
  | absoluteX | absoluteY =>
      apply keepsRegisters_fetchWord.bind
      intro base
      apply silent_core.keepsRegisters.bind
      intro c
      apply (keepsRegisters_indexed _ _ _).bind
      intro address
      apply (silent_pure _).keepsRegisters
  | indirect =>
      apply keepsRegisters_fetchWord.bind
      intro cell
      apply (keepsRegisters_read _).bind
      intro low
      apply (keepsRegisters_read _).bind
      intro high
      apply (silent_pure _).keepsRegisters
  | indexedIndirect =>
      apply keepsRegisters_fetch.bind
      intro cell
      apply silent_core.keepsRegisters.bind
      intro c
      apply (keepsRegisters_pointer _).bind
      intro address
      apply (silent_pure _).keepsRegisters
  | indirectIndexed =>
      apply keepsRegisters_fetch.bind
      intro cell
      apply (keepsRegisters_pointer _).bind
      intro base
      apply silent_core.keepsRegisters.bind
      intro c
      apply (keepsRegisters_indexed _ _ _).bind
      intro address
      apply (silent_pure _).keepsRegisters

theorem keepsRegisters_load (op : Operand) :
  (load op).KeepsRegisters
  := by
  cases op with
  | absent | offset _ => exact (silent_fail _).keepsRegisters
  | accumulator =>
      apply silent_core.keepsRegisters.bind
      intro c
      apply (silent_pure _).keepsRegisters
  | immediate value => exact (silent_pure _).keepsRegisters
  | memory address => exact keepsRegisters_read address

theorem writesLast_store (op : Operand) (value : UInt8) :
  (store op value).WritesLast
  := by
  cases op with
  | absent | immediate _ | offset _ => exact (silent_fail _).keepsRegisters.writesLast
  | accumulator => exact (silent_update _).keepsRegisters.writesLast
  | memory address => exact writesLast_write address value

theorem silent_address (op : Operand) :
  (address op).Silent
  := by
  cases op with
  | memory address => exact silent_pure address
  | absent | accumulator | immediate _ | offset _ => exact silent_fail _

/-! ### The registers of the processor -/

theorem silent_see (value : UInt8) :
  (see value).Silent
  := silent_update _

theorem silent_setA (value : UInt8) :
  (setA value).Silent
  := (silent_update _).bind fun _ => silent_see value

theorem silent_setX (value : UInt8) :
  (setX value).Silent
  := (silent_update _).bind fun _ => silent_see value

theorem silent_setY (value : UInt8) :
  (setY value).Silent
  := (silent_update _).bind fun _ => silent_see value

/-! ### The stack -/

theorem keepsRegisters_push (value : UInt8) :
  (push value).KeepsRegisters
  := by
  apply silent_core.keepsRegisters.bind
  intro c
  apply (keepsRegisters_write (stackAddress_not_lt c.sp) value).bind
  intro _
  apply (silent_update _).keepsRegisters

theorem keepsRegisters_pull :
  pull.KeepsRegisters
  := by
  apply (silent_update _).keepsRegisters.bind
  intro _
  apply silent_core.keepsRegisters.bind
  intro c
  apply keepsRegisters_read _

theorem keepsRegisters_pushWord (value : UInt16) :
  (pushWord value).KeepsRegisters
  := (keepsRegisters_push _).bind fun _ => keepsRegisters_push _

theorem keepsRegisters_pullWord :
  pullWord.KeepsRegisters
  := by
  apply keepsRegisters_pull.bind
  intro low
  apply keepsRegisters_pull.bind
  intro high
  apply (silent_pure _).keepsRegisters

theorem keepsRegisters_pushStatus :
  pushStatus.KeepsRegisters
  := silent_core.keepsRegisters.bind fun _ => keepsRegisters_push _

theorem keepsRegisters_pullStatus :
  pullStatus.KeepsRegisters
  := keepsRegisters_pull.bind fun _ => (silent_update _).keepsRegisters

/-! ### Instructions -/

theorem writesLast_replace (op : Operand) (change : UInt8 → UInt8) :
  (replace op change).WritesLast
  := by
  apply (keepsRegisters_load op).bind_writesLast
  intro value
  apply (writesLast_store op _).bind_silent
  intro _
  apply silent_see _

theorem writesLast_shift (op : Operand) (direction : Bool → UInt8 → UInt8 × Bool)
    (carried : Bool) :
  (shift op direction carried).WritesLast
  := by
  apply (keepsRegisters_load op).bind_writesLast
  intro value
  apply silent_core.keepsRegisters.bind_writesLast
  intro c
  apply (silent_update _).keepsRegisters.bind_writesLast
  intro _
  apply (writesLast_store op _).bind_silent
  intro _
  apply silent_see _

theorem keepsRegisters_branch (op : Operand) (condition : Bool) :
  (branch op condition).KeepsRegisters
  := by
  cases op with
  | absent | accumulator | immediate _ | memory _ => exact (silent_fail _).keepsRegisters
  | offset distance =>
      unfold branch
      dsimp only
      split_ifs
      · apply silent_core.keepsRegisters.bind
        intro c
        apply (keepsRegisters_spend _).bind
        intro _
        apply (silent_update _).keepsRegisters
      · apply (silent_pure _).keepsRegisters

/-- Doing what a mnemonic says asks nothing of the bus after a write to a register. -/
theorem writesLast_execute (irqVector : UInt16) (mnemonic : Mnemonic) (op : Operand) :
  (execute irqVector mnemonic op).WritesLast
  := by
  unfold execute
  cases mnemonic with
  | lda =>
      apply (keepsRegisters_load op).bind_writesLast
      intro value
      apply (silent_setA _).keepsRegisters.writesLast
  | ldx =>
      apply (keepsRegisters_load op).bind_writesLast
      intro value
      apply (silent_setX _).keepsRegisters.writesLast
  | ldy =>
      apply (keepsRegisters_load op).bind_writesLast
      intro value
      apply (silent_setY _).keepsRegisters.writesLast
  | sta | stx | sty =>
      apply silent_core.keepsRegisters.bind_writesLast
      intro c
      apply writesLast_store op _
  | tax | tsx | inx | dex =>
      apply silent_core.keepsRegisters.bind_writesLast
      intro c
      apply (silent_setX _).keepsRegisters.writesLast
  | tay | iny | dey =>
      apply silent_core.keepsRegisters.bind_writesLast
      intro c
      apply (silent_setY _).keepsRegisters.writesLast
  | txa | tya =>
      apply silent_core.keepsRegisters.bind_writesLast
      intro c
      apply (silent_setA _).keepsRegisters.writesLast
  | and | ora | eor =>
      apply (keepsRegisters_load op).bind_writesLast
      intro value
      apply silent_core.keepsRegisters.bind_writesLast
      intro c
      apply (silent_setA _).keepsRegisters.writesLast
  | adc | sbc | cmp | cpx | cpy =>
      apply (keepsRegisters_load op).bind_writesLast
      intro value
      apply silent_core.keepsRegisters.bind_writesLast
      intro c
      apply (silent_update _).keepsRegisters.writesLast
  | bit =>
      apply (keepsRegisters_load op).bind_writesLast
      intro value
      apply (silent_update _).keepsRegisters.writesLast
  | inc | dec => exact writesLast_replace op _
  | asl | lsr | rol | ror => exact writesLast_shift op _ _
  | bcc | bcs | bne | beq | bpl | bmi | bvc | bvs =>
      apply silent_core.keepsRegisters.bind_writesLast
      intro c
      apply (keepsRegisters_branch op _).writesLast
  | jmp =>
      apply (silent_address op).keepsRegisters.bind_writesLast
      intro target
      apply (silent_update _).keepsRegisters.writesLast
  | jsr =>
      apply silent_core.keepsRegisters.bind_writesLast
      intro c
      apply (keepsRegisters_pushWord _).bind_writesLast
      intro _
      apply (silent_address op).keepsRegisters.bind_writesLast
      intro target
      apply (silent_update _).keepsRegisters.writesLast
  | rts =>
      apply keepsRegisters_pullWord.bind_writesLast
      intro target
      apply (silent_update _).keepsRegisters.writesLast
  | brk =>
      apply silent_core.keepsRegisters.bind_writesLast
      intro c
      apply (keepsRegisters_pushWord _).bind_writesLast
      intro _
      apply keepsRegisters_pushStatus.bind_writesLast
      intro _
      apply (silent_update _).keepsRegisters.bind_writesLast
      intro _
      apply (keepsRegisters_read _).bind_writesLast
      intro low
      apply (keepsRegisters_read _).bind_writesLast
      intro high
      apply (silent_update _).keepsRegisters.writesLast
  | rti =>
      apply keepsRegisters_pullStatus.bind_writesLast
      intro _
      apply keepsRegisters_pullWord.bind_writesLast
      intro target
      apply (silent_update _).keepsRegisters.writesLast
  | pha =>
      apply silent_core.keepsRegisters.bind_writesLast
      intro c
      apply (keepsRegisters_push _).writesLast
  | php => exact keepsRegisters_pushStatus.writesLast
  | pla =>
      apply keepsRegisters_pull.bind_writesLast
      intro value
      apply (silent_setA _).keepsRegisters.writesLast
  | plp => exact keepsRegisters_pullStatus.writesLast
  | txs | clc | sec | cli | sei | cld | sed | clv =>
      apply (silent_update _).keepsRegisters.writesLast
  | nop => exact (silent_pure _).keepsRegisters.writesLast

/-- An instruction asks nothing of the bus after a write to a register. -/
theorem writesLast_instruction (irqVector : UInt16) :
  (instruction irqVector).WritesLast
  := by
  apply silent_core.keepsRegisters.bind_writesLast
  intro c
  apply keepsRegisters_fetch.bind_writesLast
  intro opcode
  cases Instruction.ofOpcode? opcode with
  | none => exact (silent_fail _).keepsRegisters.writesLast
  | some i =>
      apply (keepsRegisters_spend _).bind_writesLast
      intro _
      apply (keepsRegisters_operand i).bind_writesLast
      intro op
      apply writesLast_execute irqVector i.mnemonic op

end Exec

end RasterConsole
