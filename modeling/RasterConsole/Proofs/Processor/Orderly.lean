import RasterConsole.Proofs.Processor.Accesses
import RasterConsole.Proofs.Processor.Guest

/-!
# Where instructions may stop

An activity may stop at its end, at a fault of its own, or at an access that the bus refuses.
It is *orderly* if, wherever it stops, the two flags without a place in the processor are as
they always are (`Status.Settled`), and if its own faults are only those of an operand that it
cannot use.  Everything that an instruction does behind its opcode is orderly
(`Exec.orderly_execute`), and no instruction of the table meets an operand that it cannot use.
So these flags are settled after every instruction (`Processor.settled_step`), and on a memory
that has a byte for every address nothing but an opcode that stands for nothing makes an
instruction fail (`Processor.step_of_full`).
-/

namespace RasterConsole

namespace Status

/-- The two flags without a place in the processor are as they always are. -/
structure Settled (s : Status) : Prop where
  brk_eq : s.brk = false
  unused_eq : s.unused = true

theorem settled_initial :
  initial.Settled
  := ⟨rfl, rfl⟩

/-- A status that has been on the stack is settled, whatever byte the stack holds. -/
theorem settled_pulled (byte : UInt8) :
  (pulled byte).Settled
  := ⟨rfl, rfl⟩

theorem Settled.seen {s : Status} (h : s.Settled) (value : UInt8) :
  (s.seen value).Settled
  := ⟨h.brk_eq, h.unused_eq⟩

theorem Settled.after {s : Status} (h : s.Settled) (result : Alu.Result) :
  (s.after result).Settled
  := ⟨h.brk_eq, h.unused_eq⟩

end Status

namespace Memory

variable {m : Memory}

/-- A memory that has a byte for every address refuses no read. -/
theorem answer_of_full (h : 0x10000 ≤ m.capacity) (address : UInt16) :
  ∃ byte, m.answer address = .ok byte
  := by
  rw [answer]
  split_ifs
  · exact ⟨0, rfl⟩
  · exact read_of_lt (address.toNat_lt.trans_le h)

/-- A memory that has a byte for every address refuses no write. -/
theorem accept_of_full (h : 0x10000 ≤ m.capacity) (address : UInt16) (value : UInt8) :
  ∃ m', m.accept address value = .ok m' ∧ m'.capacity = m.capacity
  := by
  rw [accept, write, writeFault?, if_pos (address.toNat_lt.trans_le h)]
  split_ifs
  · exact ⟨m, rfl, rfl⟩
  · exact ⟨_, rfl, capacity_store m _ value⟩

end Memory

namespace Activity

variable {α β : Type}

/-- Wherever the activity may stop, the status is settled, and its own faults are those of an
operand that it cannot use. -/
def Orderly : Activity α → Prop
  | done _ core => core.status.Settled
  | fail fault core => fault = .operandMismatch ∧ core.status.Settled
  | read core _ next => core.status.Settled ∧ ∀ byte, (next byte).Orderly
  | write core _ _ next => core.status.Settled ∧ next.Orderly
  | charge _ next => next.Orderly

theorem Orderly.andThen {a : Activity α} {next : α → Core → Activity β} (h : a.Orderly)
    (hnext : ∀ value core, core.status.Settled → (next value core).Orderly) :
  (a.andThen next).Orderly
  := by
  induction a with
  | done value core => exact hnext value core h
  | fail _ _ => exact h
  | read _ _ _ ih => exact ⟨h.1, fun byte => ih byte (h.2 byte)⟩
  | write _ _ _ _ ih => exact ⟨h.1, ih h.2⟩
  | charge _ _ ih => exact ih h

/-- An orderly activity leaves the status settled on every bus, whether or not it fails. -/
theorem Orderly.settled_onBus [Arithmetic] {a : Activity α} (h : a.Orderly) (b : Bus) :
  (a.onBus b).2.1.status.Settled
  := by
  induction a generalizing b with
  | done _ _ => exact h
  | fail _ _ => exact h.2
  | read core address next ih =>
      cases hread : (b.read address).1 with
      | ok byte =>
          rw [onBus_read_ok hread]
          apply ih byte (h.2 byte)
      | error fault =>
          rw [onBus_read_error hread]
          apply h.1
  | write core address value next ih =>
      cases hwrite : (b.write address value).1 with
      | ok _ =>
          rw [onBus_write_ok hwrite]
          apply ih h.2
      | error fault =>
          rw [onBus_write_error hwrite]
          apply h.1
  | charge cycles next ih => exact ih h (b.charge cycles)

/-- On a memory that has a byte for every address an orderly activity comes to its end, if it
meets no operand that it cannot use. -/
theorem Orderly.onBus_ok [Arithmetic] {a : Activity α} (h : a.Orderly) {spent cycles waits : Nat}
    {post : α → Core → Prop} (hwithin : a.Within spent cycles waits post) {b : Bus}
    (hfull : 0x10000 ≤ b.memory.capacity) :
  ∃ value, (a.onBus b).1 = .ok value
  := by
  induction a generalizing spent cycles waits b with
  | done value core => exact ⟨value, rfl⟩
  | fail fault core => exact absurd h.1 hwithin.2
  | read core address next ih =>
      obtain ⟨byte, hanswer⟩ := Memory.answer_of_full hfull address
      obtain ⟨hresult, hmemory⟩ := b.read_answer address
      rw [hanswer] at hresult
      rw [onBus_read_ok hresult]
      apply ih byte (h.2 byte) (hwithin.2.2 byte (Bus.eq_zero_of_read hresult))
      rwa [hmemory]
  | write core address value next ih =>
      obtain ⟨memory, haccept, hcapacity⟩ := Memory.accept_of_full hfull address value
      obtain ⟨hresult, hmemory⟩ := Bus.write_of_accept haccept
      rw [onBus_write_ok hresult]
      apply ih h.2 hwithin.2.2
      rwa [hmemory, hcapacity]
  | charge more next ih => exact ih h hwithin.2 hfull

end Activity

namespace Exec

/-! ### Computations -/

section

variable {α β : Type}

/-- From registers with a settled status the computation is orderly. -/
def Orderly (x : Exec α) : Prop := ∀ core, core.status.Settled → (x core).Orderly

theorem Orderly.bind {x : Exec α} {f : α → Exec β} (hx : x.Orderly)
    (hf : ∀ value, (f value).Orderly) :
  (x >>= f).Orderly
  := fun core h => (hx core h).andThen hf

theorem orderly_pure (value : α) :
  (pure value : Exec α).Orderly
  := fun _ h => h

theorem orderly_mismatch :
  (fail .operandMismatch : Exec α).Orderly
  := fun _ h => ⟨rfl, h⟩

end

theorem orderly_core :
  core.Orderly
  := fun _ h => h

theorem orderly_update {change : Core → Core}
    (h : ∀ core, core.status.Settled → (change core).status.Settled) :
  (update change).Orderly
  := h

theorem orderly_read (address : UInt16) :
  (read address).Orderly
  := fun _ h => ⟨h, fun _ => h⟩

theorem orderly_write (address : UInt16) (value : UInt8) :
  (write address value).Orderly
  := fun _ h => ⟨h, h⟩

theorem orderly_spend (cycles : Nat) :
  (spend cycles).Orderly
  := fun _ h => h

/-! ### Finding the operand -/

theorem orderly_fetch :
  fetch.Orderly
  := by
  apply orderly_core.bind
  intro c
  apply (orderly_read _).bind
  intro byte
  apply (orderly_update fun _ h => by exact h).bind
  intro _
  apply orderly_pure

theorem orderly_fetchWord :
  fetchWord.Orderly
  := orderly_fetch.bind fun _ => orderly_fetch.bind fun _ => orderly_pure _

theorem orderly_read_read (address address' : UInt16) {α : Type} (f : UInt8 → UInt8 → α) :
  (read address >>= fun low => read address' >>= fun high => pure (f low high)).Orderly
  := (orderly_read _).bind fun _ => (orderly_read _).bind fun _ => orderly_pure _

theorem orderly_indexed (base : UInt16) (index : UInt8) (pagePenalty : Bool) :
  (indexed base index pagePenalty).Orderly
  := by
  unfold indexed
  dsimp only
  split_ifs
  · exact (orderly_spend 1).bind fun _ => orderly_pure _
  · exact orderly_pure _

theorem orderly_operand (i : Instruction) :
  (operand i).Orderly
  := by
  unfold operand
  cases i.mode with
  | implied | accumulator => exact orderly_pure _
  | immediate | relative | zeroPage => exact orderly_fetch.bind fun _ => orderly_pure _
  | zeroPageX | zeroPageY =>
      exact orderly_fetch.bind fun _ => orderly_core.bind fun _ => orderly_pure _
  | absolute => exact orderly_fetchWord.bind fun _ => orderly_pure _
  | absoluteX | absoluteY =>
      exact orderly_fetchWord.bind fun _ => orderly_core.bind fun _ =>
        (orderly_indexed _ _ _).bind fun _ => orderly_pure _
  | indirect =>
      exact orderly_fetchWord.bind fun _ => orderly_read_read _ _ _
  | indexedIndirect =>
      exact orderly_fetch.bind fun _ => orderly_core.bind fun _ =>
        (orderly_read_read _ _ _).bind fun _ => orderly_pure _
  | indirectIndexed =>
      exact orderly_fetch.bind fun _ => (orderly_read_read _ _ _).bind fun _ =>
        orderly_core.bind fun _ => (orderly_indexed _ _ _).bind fun _ => orderly_pure _

/-! ### Using the operand -/

section

variable (op : Operand)

theorem orderly_load :
  (load op).Orderly
  := by
  cases op with
  | absent | offset _ => exact orderly_mismatch
  | accumulator => exact orderly_core.bind fun _ => orderly_pure _
  | immediate value => exact orderly_pure value
  | memory address => exact orderly_read address

theorem orderly_store (value : UInt8) :
  (store op value).Orderly
  := by
  cases op with
  | absent | immediate _ | offset _ => exact orderly_mismatch
  | accumulator => exact orderly_update fun _ h => h
  | memory address => exact orderly_write address value

theorem orderly_address :
  (address op).Orderly
  := by
  cases op with
  | memory address => exact orderly_pure address
  | absent | accumulator | immediate _ | offset _ => exact orderly_mismatch

theorem orderly_see (value : UInt8) :
  (see value).Orderly
  := orderly_update fun _ h => h.seen value

theorem orderly_setA (value : UInt8) :
  (setA value).Orderly
  := (orderly_update fun _ h => by exact h).bind fun _ => orderly_see value

theorem orderly_setX (value : UInt8) :
  (setX value).Orderly
  := (orderly_update fun _ h => by exact h).bind fun _ => orderly_see value

theorem orderly_setY (value : UInt8) :
  (setY value).Orderly
  := (orderly_update fun _ h => by exact h).bind fun _ => orderly_see value

theorem orderly_jump (target : UInt16) :
  (jump target).Orderly
  := orderly_update fun _ h => h

theorem orderly_replace (change : UInt8 → UInt8) :
  (replace op change).Orderly
  := (orderly_load op).bind fun _ => (orderly_store op _).bind fun _ => orderly_see _

theorem orderly_shift (direction : Bool → UInt8 → UInt8 × Bool) (carried : Bool) :
  (shift op direction carried).Orderly
  := by
  apply (orderly_load op).bind
  intro value
  apply orderly_core.bind
  intro c
  dsimp only
  apply (orderly_update fun _ h => by exact ⟨h.brk_eq, h.unused_eq⟩).bind
  intro _
  exact (orderly_store op _).bind fun _ => orderly_see _

theorem orderly_branch (condition : Bool) :
  (branch op condition).Orderly
  := by
  cases op with
  | absent | accumulator | immediate _ | memory _ => exact orderly_mismatch
  | offset distance =>
      unfold branch
      dsimp only
      split_ifs
      · exact orderly_core.bind fun _ => (orderly_spend _).bind fun _ =>
          orderly_update fun _ h => h
      · exact orderly_pure ()

/-! ### The stack -/

theorem orderly_push (value : UInt8) :
  (push value).Orderly
  := orderly_core.bind fun _ => (orderly_write _ value).bind fun _ => orderly_update fun _ h => h

theorem orderly_pull :
  pull.Orderly
  := (orderly_update fun _ h => by exact h).bind fun _ => orderly_core.bind fun _ => orderly_read _

theorem orderly_pushWord (value : UInt16) :
  (pushWord value).Orderly
  := (orderly_push _).bind fun _ => orderly_push _

theorem orderly_pullWord :
  pullWord.Orderly
  := orderly_pull.bind fun _ => orderly_pull.bind fun _ => orderly_pure _

theorem orderly_pushStatus :
  pushStatus.Orderly
  := orderly_core.bind fun _ => orderly_push _

/-- The flags that come from the stack are settled, although any byte may lie there. -/
theorem orderly_pullStatus :
  pullStatus.Orderly
  := orderly_pull.bind fun byte => orderly_update fun _ _ => Status.settled_pulled byte

/-! ### Instructions -/

/-- Doing what a mnemonic says is orderly, whatever the operand is. -/
theorem orderly_execute (irqVector : UInt16) (mnemonic : Mnemonic) :
  (execute irqVector mnemonic op).Orderly
  := by
  unfold execute
  cases mnemonic with
  | lda => exact (orderly_load op).bind fun _ => orderly_setA _
  | ldx => exact (orderly_load op).bind fun _ => orderly_setX _
  | ldy => exact (orderly_load op).bind fun _ => orderly_setY _
  | sta | stx | sty => exact orderly_core.bind fun _ => orderly_store op _
  | tax | tsx | inx | dex => exact orderly_core.bind fun _ => orderly_setX _
  | tay | iny | dey => exact orderly_core.bind fun _ => orderly_setY _
  | txa | tya => exact orderly_core.bind fun _ => orderly_setA _
  | and | ora | eor =>
      exact (orderly_load op).bind fun _ => orderly_core.bind fun _ => orderly_setA _
  | adc | sbc =>
      exact (orderly_load op).bind fun _ => orderly_core.bind fun _ =>
        orderly_update fun _ h => h.after _
  | cmp | cpx | cpy =>
      exact (orderly_load op).bind fun _ => orderly_core.bind fun _ =>
        orderly_update fun _ h => ⟨h.brk_eq, h.unused_eq⟩
  | bit => exact (orderly_load op).bind fun _ => orderly_update fun _ h => ⟨h.brk_eq, h.unused_eq⟩
  | inc | dec => exact orderly_replace op _
  | asl | lsr | rol | ror => exact orderly_shift op _ _
  | bcc | bcs | bne | beq | bpl | bmi | bvc | bvs =>
      exact orderly_core.bind fun _ => orderly_branch op _
  | jmp => exact (orderly_address op).bind fun _ => orderly_jump _
  | jsr =>
      exact orderly_core.bind fun _ => (orderly_pushWord _).bind fun _ =>
        (orderly_address op).bind fun _ => orderly_jump _
  | rts => exact orderly_pullWord.bind fun _ => orderly_jump _
  | brk =>
      apply orderly_core.bind
      intro c
      apply (orderly_pushWord _).bind
      intro _
      apply orderly_pushStatus.bind
      intro _
      apply (orderly_update fun _ h => by exact ⟨h.brk_eq, h.unused_eq⟩).bind
      intro _
      exact (orderly_read _).bind fun _ => (orderly_read _).bind fun _ => orderly_jump _
  | rti => exact orderly_pullStatus.bind fun _ => orderly_pullWord.bind fun _ => orderly_jump _
  | pha => exact orderly_core.bind fun _ => orderly_push _
  | php => exact orderly_pushStatus
  | pla => exact orderly_pull.bind fun _ => orderly_setA _
  | plp => exact orderly_pullStatus
  | txs => exact orderly_update fun _ h => h
  | clc | sec | cli | sei | cld | sed | clv =>
      exact orderly_update fun _ h => ⟨h.brk_eq, h.unused_eq⟩
  | nop => exact orderly_pure ()

end

/-- What an instruction does behind its opcode is orderly. -/
theorem orderly_behind_opcode (irqVector : UInt16) (i : Instruction) :
  (operand i >>= execute irqVector i.mnemonic).Orderly
  := (orderly_operand i).bind fun op => orderly_execute op irqVector i.mnemonic

end Exec

/-! ### Steps of the processor -/

namespace Processor

section

variable {p : Processor}

/-- After an instruction the status is settled if it was before, whether or not the instruction
has failed. -/
theorem settled_step [Arithmetic] (h : p.core.status.Settled) :
  p.step.2.core.status.Settled
  := by
  change ((Exec.instruction p.layout.irqVector p.core).onBus p.bus).2.1.status.Settled
  rw [Exec.instruction_eq]
  cases hfetch : (p.bus.read p.core.pc).1 with
  | error fault =>
      rw [Activity.onBus_read_error hfetch]
      exact h
  | ok opcode =>
      rw [Activity.onBus_read_ok hfetch]
      cases Instruction.ofOpcode? opcode with
      | none => exact h
      | some i =>
          apply Activity.Orderly.settled_onBus
          exact Exec.orderly_behind_opcode p.layout.irqVector i _ h

/-- The processor has met an opcode that stands for nothing.  It has done no more than fetch it:
nothing has changed but the program counter. -/
structure Unknown [Arithmetic] (p : Processor) (opcode : UInt8) : Prop where
  undocumented : Instruction.ofOpcode? opcode = none
  read_eq : p.bus.memory.read p.core.pc.toNat = .ok opcode
  outside : ¬ p.core.pc < windowSize
  step_eq : p.step = (.error (.unknownOpcode opcode p.core.pc),
    { p with core := { p.core with pc := p.core.pc + 1 } })

/-- A fetch from memory touches nothing else on the bus, so a processor stands still where it
fetches an opcode that stands for nothing. -/
theorem unknown_of_read [Arithmetic] {opcode : UInt8}
    (hdecode : Instruction.ofOpcode? opcode = none)
    (hread : p.bus.memory.read p.core.pc.toNat = .ok opcode)
    (hwindow : ¬ p.core.pc < windowSize) :
  p.Unknown opcode
  := by
  have hfetch : p.bus.read p.core.pc = (.ok opcode, p.bus) := by
    rw [Bus.read, if_neg hwindow, hread]
  refine ⟨hdecode, hread, hwindow, ?_⟩
  change (_, Processor.mk _ _ _) = _
  rw [Exec.instruction_eq, Activity.onBus, hfetch]
  simp only [hdecode, Activity.onBus]

/-- On a memory that has a byte for every address an instruction succeeds, unless its opcode
stands for nothing. -/
theorem step_of_full [Arithmetic] (hfull : 0x10000 ≤ p.bus.memory.capacity)
    (h : p.core.status.Settled) :
  p.step.1 = .ok () ∨ ∃ opcode, p.Unknown opcode
  := by
  obtain ⟨opcode, hanswer⟩ := Memory.answer_of_full hfull p.core.pc
  obtain ⟨hfetch, hmemory⟩ := p.bus.read_answer p.core.pc
  rw [hanswer] at hfetch
  have hzero : p.core.pc < windowSize → opcode = 0 := Bus.eq_zero_of_read hfetch
  cases hdecode : Instruction.ofOpcode? opcode with
  | none =>
      right
      -- the window holds zeros, and zero is an opcode
      have hwindow : ¬ p.core.pc < windowSize := by
        intro hpc
        rw [hzero hpc] at hdecode
        revert hdecode
        decide +kernel
      rw [Memory.answer, if_neg hwindow] at hanswer
      exact ⟨opcode, unknown_of_read hdecode hanswer hwindow⟩
  | some i =>
      left
      -- that the rest is within its allowance says that it meets no operand that it cannot use
      have hwithin := Exec.within_instruction p.layout.irqVector p.core
      rw [Exec.instruction_eq] at hwithin
      have hrest := hwithin.2.2 opcode hzero
      dsimp only at hrest
      rw [hdecode] at hrest
      change ((Exec.instruction p.layout.irqVector p.core).onBus p.bus).1 = .ok ()
      rw [Exec.instruction_eq, Activity.onBus_read_ok hfetch, hdecode]
      have hcapacity : 0x10000 ≤ ((p.bus.read p.core.pc).2.charge i.cycles).memory.capacity := by
        change 0x10000 ≤ (p.bus.read p.core.pc).2.memory.capacity
        rwa [hmemory]
      have horderly := Exec.orderly_behind_opcode p.layout.irqVector i
        { p.core with pc := p.core.pc + 1, cycles := p.core.cycles + i.cycles } h
      obtain ⟨_, hok⟩ := horderly.onBus_ok hrest.2 hcapacity
      exact hok

end

end Processor

end RasterConsole
