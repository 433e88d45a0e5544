import RasterConsole.Proofs.Processor.Interrupts

/-!
# The stack

The stack is a page of memory in which the stack pointer goes around.  As long as there are no
more than 256 bytes on it, it does what a list does (`Memory.Stacked`): bytes come back in the
order opposite to that in which they went there, wherever the stack pointer starts, and nothing
else changes.

Two uses of the stack come down to this.  Bytes and words that are pushed and pulled in turns are
those that an ideal stack gives back (`Exec.onBus_useStack`), and subroutines that call one another
return to where they were called from (`Processor.Nests.stacked`).  It makes no difference where
their code lies: calls and returns are what the processor fetches when it gets there.
-/

namespace RasterConsole

namespace Memory

/-- Bytes lie on the stack above the stack pointer, beginning with the one on top. -/
def Holds (m : Memory) (sp : UInt8) : List UInt8 → Prop
  | [] => True
  | byte :: rest => m.read (stackAddress (sp + 1)).toNat = .ok byte ∧ m.Holds (sp + 1) rest

/-- A byte that is stored in a cell below those that are in use leaves these alone. -/
theorem Holds.store {m : Memory} {sp cell : UInt8} {bytes : List UInt8} (h : m.Holds sp bytes)
    (hroom : (sp - cell).toNat + bytes.length < 256) (byte : UInt8) :
  (m.store (stackAddress cell).toNat byte).Holds sp bytes
  := by
  induction bytes generalizing sp with
  | nil => trivial
  | cons first rest ih =>
      have hsp := sp.toNat_lt
      have hcell := cell.toNat_lt
      obtain ⟨hfirst, hrest⟩ := h
      rw [List.length_cons, UInt8.toNat_sub] at hroom
      constructor
      · rw [read_store_of_ne m byte, hfirst]
        simp only [toNat_stackAddress, UInt8.toNat_add, UInt8.reduceToNat]
        omega
      · apply ih hrest
        simp only [UInt8.toNat_sub, UInt8.toNat_add, UInt8.reduceToNat]
        omega

/-- The memory has become `m`, and the stack pointer `sp`, by putting some bytes on the stack when
the memory was `start` and the stack pointer was `top`. -/
structure Stacked (start : Memory) (top : UInt8) (bytes : List UInt8) (sp : UInt8) (m : Memory) :
    Prop where
  capacity_eq : m.capacity = start.capacity
  read_eq : ∀ address, address < 0x100 ∨ 0x200 ≤ address → m.read address = start.read address
  sp_eq : (sp.toNat + bytes.length) % 256 = top.toNat
  holds : m.Holds sp bytes

theorem stacked_nil (m : Memory) (sp : UInt8) :
  m.Stacked sp [] sp m
  := ⟨rfl, fun _ _ => rfl, Nat.mod_eq_of_lt sp.toNat_lt, trivial⟩

namespace Stacked

section

variable {start m : Memory} {top sp : UInt8} {bytes : List UInt8} {byte : UInt8}

theorem stackAddress_lt (h : start.Stacked top bytes sp m) (hpage : 0x200 ≤ start.capacity)
    (cell : UInt8) :
  (stackAddress cell).toNat < m.capacity
  := by
  rw [h.capacity_eq]
  exact (toNat_stackAddress_lt cell).trans_le hpage

/-- While there is room, a byte goes on top of the others. -/
theorem push (h : start.Stacked top bytes sp m) (hpage : 0x200 ≤ start.capacity)
    (hroom : bytes.length < 256) (byte : UInt8) :
  start.Stacked top (byte :: bytes) (sp - 1) (m.store (stackAddress sp).toNat byte)
  := by
  have hsp := sp.toNat_lt
  have hwrap : sp - 1 + 1 = sp := UInt8.sub_add_cancel sp 1
  constructor
  · rw [capacity_store, h.capacity_eq]
  · intro address haddress
    rw [read_store_of_ne m byte, h.read_eq address haddress]
    rw [toNat_stackAddress]
    omega
  · simp only [← h.sp_eq, List.length_cons, UInt8.toNat_sub, UInt8.reduceToNat]
    omega
  · rw [Holds, hwrap]
    constructor
    · exact read_store_self byte (h.stackAddress_lt hpage sp)
    · apply h.holds.store
      rwa [UInt8.sub_self, UInt8.toNat_zero, Nat.zero_add]

/-- The byte on top is found above the stack pointer, which then leaves it behind. -/
theorem pull (h : start.Stacked top (byte :: bytes) sp m) :
  m.read (stackAddress (sp + 1)).toNat = .ok byte ∧ start.Stacked top bytes (sp + 1) m
  := by
  obtain ⟨hcapacity, hread, hsp, hbyte, hrest⟩ := h
  refine ⟨hbyte, hcapacity, hread, ?_, hrest⟩
  rw [List.length_cons] at hsp
  simp only [← hsp, UInt8.toNat_add, UInt8.reduceToNat]
  omega

/-- When nothing is left on the stack, the stack pointer is back. -/
theorem sp_eq_top (h : start.Stacked top [] sp m) :
  sp = top
  := UInt8.toNat_inj.mp ((Nat.mod_eq_of_lt sp.toNat_lt).symm.trans h.sp_eq)

end

end Stacked

end Memory

/-! ### An ideal stack -/

/-- How many bytes move at once. -/
inductive StackWidth where
  | byte
  | word
  deriving DecidableEq

/-- What moves to the stack at once. -/
inductive StackItem where
  | byte (value : UInt8)
  | word (value : UInt16)
  deriving DecidableEq

namespace StackItem

def width : StackItem → StackWidth
  | byte _ => .byte
  | word _ => .word

/-- The bytes of an item as they lie on the stack: the low byte of a word is on top. -/
def bytes : StackItem → List UInt8
  | byte value => [value]
  | word value => [lowByte value, highByte value]

end StackItem

/-- A use of the stack. -/
inductive StackOp where
  | push (item : StackItem)
  | pull (width : StackWidth)
  deriving DecidableEq

/-- The items that come back from an ideal stack of 256 bytes, and those that are left on it,
beginning with the one on top.  There is no result where an item does not fit any more, where
nothing is left to come back, or where an item of the other width is on top. -/
def StackOp.outcome? : List StackItem → List StackOp → Option (List StackItem × List StackItem)
  | items, [] => some ([], items)
  | items, push item :: ops =>
    if ((item :: items).flatMap StackItem.bytes).length ≤ 256 then outcome? (item :: items) ops
    else none
  | [], pull _ :: _ => none
  | item :: items, pull width :: ops =>
    if item.width = width then
      (outcome? items ops).map fun (pulled, left) => (item :: pulled, left)
    else none

/-! ### The stack on the bus -/

/-- Where an activity succeeds, what comes after it goes on from there. -/
theorem Activity.onBus_andThen [Arithmetic] {α β : Type} {a : Activity α}
    {next : α → Core → Activity β}
    {b b' : Bus} {value : α} {core : Core} (h : a.onBus b = (.ok value, core, b')) :
  (a.andThen next).onBus b = (next value core).onBus b'
  := by
  induction a generalizing b with
  | done _ _ =>
      cases h
      rfl
  | fail _ _ => cases h
  | read core address rest ih =>
      cases hread : (b.read address).1 with
      | ok byte =>
          rw [onBus_read_ok hread] at h
          rw [andThen, onBus_read_ok hread, ih byte h]
      | error fault =>
          rw [onBus_read_error hread] at h
          cases h
  | write core address byte rest ih =>
      cases hwrite : (b.write address byte).1 with
      | ok _ =>
          rw [onBus_write_ok hwrite] at h
          rw [andThen, onBus_write_ok hwrite, ih h]
      | error fault =>
          rw [onBus_write_error hwrite] at h
          cases h
  | charge cycles rest ih => exact ih h

namespace Exec

/-- Puts an item on the stack. -/
def pushItem : StackItem → Exec Unit
  | .byte value => push value
  | .word value => pushWord value

/-- Takes an item from the stack. -/
def pullItem : StackWidth → Exec StackItem
  | .byte => do return .byte (← pull)
  | .word => do return .word (← pullWord)

/-- Uses the stack.  The result lists the items that come back. -/
def useStack : List StackOp → Exec (List StackItem)
  | [] => return []
  | .push item :: ops => do
    pushItem item
    useStack ops
  | .pull width :: ops => do
    let item ← pullItem width
    let items ← useStack ops
    return item :: items

section

variable {start : Memory} {top : UInt8} {bytes : List UInt8}

theorem onBus_push [Arithmetic] (core : Core) (b : Bus) (hpage : 0x200 ≤ start.capacity)
    (h : start.Stacked top bytes core.sp b.memory) (hroom : bytes.length < 256) (value : UInt8) :
  (push value core).onBus b
      = (.ok (), { core with sp := core.sp - 1 },
        { b with memory := b.memory.store (stackAddress core.sp).toNat value })
    ∧ start.Stacked top (value :: bytes) (core.sp - 1)
      (b.memory.store (stackAddress core.sp).toNat value)
  := by
  refine ⟨?_, h.push hpage hroom value⟩
  have hwrite : b.write (stackAddress core.sp) value
      = (.ok (), { b with memory := b.memory.store (stackAddress core.sp).toNat value }) := by
    rw [Bus.write, if_neg (stackAddress_not_lt _), Memory.writeFault?,
      if_pos (h.stackAddress_lt hpage core.sp)]
  change (Activity.write core (stackAddress core.sp) value (.done () _)).onBus b = _
  rw [Activity.onBus, hwrite]
  rfl

theorem onBus_pull [Arithmetic] (core : Core) (b : Bus) {byte : UInt8}
    (h : start.Stacked top (byte :: bytes) core.sp b.memory) :
  (pull core).onBus b = (.ok byte, { core with sp := core.sp + 1 }, b)
    ∧ start.Stacked top bytes (core.sp + 1) b.memory
  := by
  obtain ⟨hbyte, hrest⟩ := h.pull
  refine ⟨?_, hrest⟩
  have hread : b.read (stackAddress (core.sp + 1)) = (.ok byte, b) := by
    rw [Bus.read, if_neg (stackAddress_not_lt _), hbyte]
  change (Activity.read _ (stackAddress (core.sp + 1)) _).onBus b = _
  rw [Activity.onBus, hread]
  rfl

/-- While there is room, an item goes on top of the others. -/
theorem onBus_pushItem [Arithmetic] (core : Core) (b : Bus) (hpage : 0x200 ≤ start.capacity)
    (h : start.Stacked top bytes core.sp b.memory) (item : StackItem)
    (hroom : (item.bytes ++ bytes).length ≤ 256) :
  ∃ sp m, (pushItem item core).onBus b
      = (.ok (), { core with sp := sp }, { b with memory := m })
    ∧ start.Stacked top (item.bytes ++ bytes) sp m
  := by
  cases item with
  | byte value =>
      obtain ⟨hpush, hstacked⟩ := onBus_push core b hpage h hroom value
      exact ⟨_, _, hpush, hstacked⟩
  | word value =>
      -- the high byte goes first, and the low byte on top of it
      obtain ⟨hhigh, hstacked⟩ :=
        onBus_push core b hpage h (Nat.lt_of_succ_lt hroom) (highByte value)
      obtain ⟨hlow, hstacked'⟩ := onBus_push { core with sp := core.sp - 1 }
        { b with memory := b.memory.store (stackAddress core.sp).toNat (highByte value) }
        hpage hstacked hroom (lowByte value)
      refine ⟨_, _, ?_, hstacked'⟩
      exact (Activity.onBus_andThen hhigh).trans hlow

/-- The item on top comes back. -/
theorem onBus_pullItem [Arithmetic] (core : Core) (b : Bus) {item : StackItem}
    (h : start.Stacked top (item.bytes ++ bytes) core.sp b.memory) :
  ∃ sp, (pullItem item.width core).onBus b = (.ok item, { core with sp := sp }, b)
    ∧ start.Stacked top bytes sp b.memory
  := by
  cases item with
  | byte value =>
      obtain ⟨hpull, hrest⟩ := onBus_pull core b h
      exact ⟨_, Activity.onBus_andThen hpull, hrest⟩
  | word value =>
      obtain ⟨hlow, hhigh⟩ := onBus_pull core b h
      obtain ⟨hhigh, hrest⟩ := onBus_pull { core with sp := core.sp + 1 } b hhigh
      refine ⟨_, ?_, hrest⟩
      have hword : (pullWord core).onBus b
          = (.ok (wordOf (lowByte value) (highByte value)),
            { core with sp := core.sp + 1 + 1 }, b) :=
        (Activity.onBus_andThen hlow).trans (Activity.onBus_andThen hhigh)
      rw [wordOf_bytes] at hword
      exact Activity.onBus_andThen hword

/-- The stack gives back what an ideal stack gives back, and holds what is left on that. -/
theorem onBus_useStack [Arithmetic] (core : Core) (b : Bus) {items pulled left : List StackItem}
    {ops : List StackOp} (hpage : 0x200 ≤ start.capacity)
    (h : start.Stacked top (items.flatMap StackItem.bytes) core.sp b.memory)
    (houtcome : StackOp.outcome? items ops = some (pulled, left)) :
  ∃ sp m, (useStack ops core).onBus b
      = (.ok pulled, { core with sp := sp }, { b with memory := m })
    ∧ start.Stacked top (left.flatMap StackItem.bytes) sp m
  := by
  induction ops generalizing items pulled core b with
  | nil =>
      cases houtcome
      exact ⟨core.sp, b.memory, rfl, h⟩
  | cons op ops ih =>
      cases op with
      | push item =>
          rw [StackOp.outcome?, List.flatMap_cons] at houtcome
          split_ifs at houtcome with hroom
          obtain ⟨sp, m, hpush, hstacked⟩ := onBus_pushItem core b hpage h item hroom
          rw [← List.flatMap_cons] at hstacked
          obtain ⟨sp', m', hrest, hstacked'⟩ :=
            ih { core with sp := sp } { b with memory := m } hstacked houtcome
          exact ⟨sp', m', (Activity.onBus_andThen hpush).trans hrest, hstacked'⟩
      | pull width =>
          cases items with
          | nil => cases houtcome
          | cons item items =>
              rw [StackOp.outcome?] at houtcome
              split_ifs at houtcome with hwidth
              subst hwidth
              obtain ⟨⟨pulled, left⟩, houtcome, hresult⟩ := Option.map_eq_some_iff.mp houtcome
              cases hresult
              rw [List.flatMap_cons] at h
              obtain ⟨sp, hpull, hstacked⟩ := onBus_pullItem core b h
              obtain ⟨sp', m', hrest, hstacked'⟩ :=
                ih { core with sp := sp } b hstacked houtcome
              refine ⟨sp', m', ?_, hstacked'⟩
              exact (Activity.onBus_andThen hpull).trans (Activity.onBus_andThen hrest)

end

/-! ### Calls and returns -/

section

variable {irqVector : UInt16} {core : Core} {m : Memory}

/-- A call puts the address of its last byte on the stack and goes to the subroutine. -/
theorem execute_jsr (irqVector : UInt16) (core : Core) (target : UInt16) :
  execute irqVector .jsr (.memory target) core
    = .write core (stackAddress core.sp) (highByte (core.pc - 1))
      (.write { core with sp := core.sp - 1 } (stackAddress (core.sp - 1)) (lowByte (core.pc - 1))
        (.done () { core with sp := core.sp - 1 - 1, pc := target }))
  := rfl

/-- A return takes the address from the stack, and goes to what comes behind it. -/
theorem execute_rts (irqVector : UInt16) (core : Core) :
  execute irqVector .rts .absent core
    = .read { core with sp := core.sp + 1 } (stackAddress (core.sp + 1)) fun low =>
      .read { core with sp := core.sp + 1 + 1 } (stackAddress (core.sp + 1 + 1)) fun high =>
        .done () { core with sp := core.sp + 1 + 1, pc := wordOf low high + 1 }
  := rfl

/-- On a memory that holds the stack a call succeeds. -/
theorem onMemory_jsr (hpage : 0x200 ≤ m.capacity) (target : UInt16) :
  (execute irqVector .jsr (.memory target) core).onMemory m
    = (.ok (), { core with sp := core.sp - 1 - 1, pc := target },
      (m.store (stackAddress core.sp).toNat (highByte (core.pc - 1))).store
        (stackAddress (core.sp - 1)).toNat (lowByte (core.pc - 1)))
  := by
  have hlt : ∀ sp, (stackAddress sp).toNat < m.capacity :=
    fun sp => (toNat_stackAddress_lt sp).trans_le hpage
  rw [execute_jsr, Activity.onMemory_write_of_lt (stackAddress_not_lt _) (hlt _),
    Activity.onMemory_write_of_lt (stackAddress_not_lt _) (by simpa using hlt _)]
  rfl

/-- A return succeeds if there are two bytes for it on the stack. -/
theorem onMemory_rts {low high : UInt8}
    (hlow : m.read (stackAddress (core.sp + 1)).toNat = .ok low)
    (hhigh : m.read (stackAddress (core.sp + 1 + 1)).toNat = .ok high) :
  (execute irqVector .rts .absent core).onMemory m
    = (.ok (), { core with sp := core.sp + 1 + 1, pc := wordOf low high + 1 }, m)
  := by
  rw [← Memory.answer_of_outside (stackAddress_not_lt _)] at hlow hhigh
  rw [execute_rts, Activity.onMemory_read_of_ok hlow, Activity.onMemory_read_of_ok hhigh]
  rfl

/-- A call finds the address of the subroutine behind its opcode. -/
theorem onMemory_instruction_jsr {target : UInt16} (hopcode : m.answer core.pc = .ok 0x20)
    (hlow : m.answer (core.pc + 1) = .ok (lowByte target))
    (hhigh : m.answer (core.pc + 2) = .ok (highByte target)) :
  (instruction irqVector core).onMemory m
    = (execute irqVector .jsr (.memory target)
      { core.past 6 with pc := core.pc + 3 }).onMemory m
  := by
  have hdecode : Instruction.ofOpcode? 0x20 = some ⟨0x20, .jsr, .absolute, 6, false⟩ := by
    decide +kernel
  have hnext : core.pc + 1 + 1 = core.pc + 2 := UInt16.add_assoc _ _ _
  have hbehind : core.pc + 2 + 1 = core.pc + 3 := UInt16.add_assoc _ _ _
  rw [← hnext] at hhigh
  rw [instruction_eq, Activity.onMemory_read_of_ok hopcode, hdecode, ← hbehind, ← hnext,
    ← wordOf_bytes target]
  exact (Activity.onMemory_read_of_ok hlow _ _).trans (Activity.onMemory_read_of_ok hhigh _ _)

theorem onMemory_instruction_rts (h : m.answer core.pc = .ok 0x60) :
  (instruction irqVector core).onMemory m
    = (execute irqVector .rts .absent (core.past 6)).onMemory m
  := onMemory_instruction_implied
    (by decide +kernel : Instruction.ofOpcode? 0x60 = some ⟨0x60, .rts, .implied, 6, false⟩) h

end

end Exec

namespace Processor

/-- The processor comes to a call of a subroutine. -/
structure Calls (p : Processor) (target : UInt16) : Prop where
  opcode_eq : p.bus.memory.answer p.core.pc = .ok 0x20
  low_eq : p.bus.memory.answer (p.core.pc + 1) = .ok (lowByte target)
  high_eq : p.bus.memory.answer (p.core.pc + 2) = .ok (highByte target)

/-- The processor comes to a return from a subroutine. -/
def Returns (p : Processor) : Prop := p.bus.memory.answer p.core.pc = .ok 0x60

instance (p : Processor) (target : UInt16) : Decidable (p.Calls target) :=
  decidable_of_iff (p.bus.memory.answer p.core.pc = .ok 0x20
      ∧ p.bus.memory.answer (p.core.pc + 1) = .ok (lowByte target)
      ∧ p.bus.memory.answer (p.core.pc + 2) = .ok (highByte target))
    ⟨fun h => ⟨h.1, h.2.1, h.2.2⟩, fun h => ⟨h.opcode_eq, h.low_eq, h.high_eq⟩⟩

instance (p : Processor) : Decidable p.Returns :=
  inferInstanceAs (Decidable (p.bus.memory.answer p.core.pc = .ok 0x60))

/-- The second processor is where calls and returns have led the first one, with the addresses
behind those calls that have not returned yet, the last one first.  There are never more than 128
of them. -/
inductive Nests [Arithmetic] (p : Processor) : List UInt16 → Processor → Prop where
  | start : Nests p [] p
  | call {pending : List UInt16} {q : Processor} {target : UInt16} (h : Nests p pending q)
      (hroom : pending.length < 128) (hcall : q.Calls target) :
      Nests p ((q.core.pc + 3) :: pending) q.step.2
  | ret {back : UInt16} {pending : List UInt16} {q : Processor} (h : Nests p (back :: pending) q)
      (hreturn : q.Returns) :
      Nests p pending q.step.2

/-- The bytes on the stack while some calls have not returned: a return goes on behind the address
that it finds. -/
def pendingBytes (pending : List UInt16) : List UInt8 :=
  pending.flatMap fun back => (StackItem.word (back - 1)).bytes

theorem length_pendingBytes (pending : List UInt16) :
  (pendingBytes pending).length = 2 * pending.length
  := by
  induction pending with
  | nil => rfl
  | cons back rest ih =>
      have hcons : pendingBytes (back :: rest)
          = lowByte (back - 1) :: highByte (back - 1) :: pendingBytes rest := rfl
      rw [hcons, List.length_cons, List.length_cons, ih, List.length_cons]
      omega

section

variable {p q : Processor} {start : Memory} {top : UInt8} {pending : List UInt16}

/-- What an instruction comes to on the memory alone is what it does. -/
theorem step_of_onMemory [Arithmetic] {result : Except Fault Unit} {core : Core} {m : Memory}
    (h : (Exec.instruction p.layout.irqVector p.core).onMemory p.bus.memory = (result, core, m)) :
  p.step.1 = result ∧ p.step.2.core = core ∧ p.step.2.bus.memory = m
  := by
  have hstep := p.guest_step
  rw [Guest.step, guest, h] at hstep
  obtain ⟨hresult, hguest⟩ := Prod.mk.inj hstep
  obtain ⟨hcore, -, hmemory⟩ := Guest.mk.inj hguest
  exact ⟨hresult.symm, hcore.symm, hmemory.symm⟩

/-- While there is room, a call succeeds and puts the address behind it on top of the others. -/
theorem Calls.step [Arithmetic] {target : UInt16} (h : p.Calls target)
    (hpage : 0x200 ≤ start.capacity)
    (hstacked : start.Stacked top (pendingBytes pending) p.core.sp p.bus.memory)
    (hroom : pending.length < 128) :
  p.step.1 = .ok () ∧ p.step.2.core.pc = target
    ∧ start.Stacked top (pendingBytes ((p.core.pc + 3) :: pending)) p.step.2.core.sp
      p.step.2.bus.memory
  := by
  have hlength := length_pendingBytes pending
  have hhigh := hstacked.push hpage (by omega) (highByte (p.core.pc + 3 - 1))
  have hlow := hhigh.push hpage (by rw [List.length_cons]; omega) (lowByte (p.core.pc + 3 - 1))
  rw [← hstacked.capacity_eq] at hpage
  obtain ⟨hresult, hcore, hmemory⟩ := step_of_onMemory
    ((Exec.onMemory_instruction_jsr h.opcode_eq h.low_eq h.high_eq).trans
      (Exec.onMemory_jsr hpage target))
  rw [hcore, hmemory]
  exact ⟨hresult, rfl, hlow⟩

/-- A return succeeds and goes to the address on top. -/
theorem Returns.step [Arithmetic] {back : UInt16} (h : p.Returns)
    (hstacked : start.Stacked top (pendingBytes (back :: pending)) p.core.sp p.bus.memory) :
  p.step.1 = .ok () ∧ p.step.2.core.pc = back
    ∧ start.Stacked top (pendingBytes pending) p.step.2.core.sp p.step.2.bus.memory
  := by
  obtain ⟨hlow, hhigh⟩ := hstacked.pull
  obtain ⟨hhigh, hrest⟩ := hhigh.pull
  obtain ⟨hresult, hcore, hmemory⟩ :=
    step_of_onMemory ((Exec.onMemory_instruction_rts h).trans (Exec.onMemory_rts hlow hhigh))
  rw [hcore, hmemory]
  refine ⟨hresult, ?_, hrest⟩
  rw [wordOf_bytes]
  exact UInt16.sub_add_cancel back 1

/-- Whatever calls and returns have led to, the addresses behind the calls that have not returned
are on the stack. -/
theorem Nests.stacked [Arithmetic] (h : p.Nests pending q) (hpage : 0x200 ≤ p.bus.memory.capacity) :
  p.bus.memory.Stacked p.core.sp (pendingBytes pending) q.core.sp q.bus.memory
  := by
  induction h with
  | start => exact Memory.stacked_nil _ _
  | call _ hroom hcall ih => exact (hcall.step hpage ih hroom).2.2
  | ret _ hreturn ih => exact (hreturn.step ih).2.2

/-- The stack of a processor whose memory holds it.  If it is used so that an ideal stack ends
empty, then no use of it fails, what comes back is what comes back from the ideal stack, and
nothing has changed but bytes in the page of the stack.  And wherever calls and returns lead, a
call goes to its subroutine as long as there is room, and a return goes to the address behind the
last call that has not returned; when all of them have, the stack pointer is back. -/
theorem nested_stack [Arithmetic] (hpage : 0x200 ≤ p.bus.memory.capacity) :
  (∀ ops pulled, StackOp.outcome? [] ops = some (pulled, []) →
      ∃ m, (Exec.useStack ops p.core).onBus p.bus
          = (.ok pulled, p.core, { p.bus with memory := m })
        ∧ m.capacity = p.bus.memory.capacity
        ∧ ∀ address, address < 0x100 ∨ 0x200 ≤ address →
          m.read address = p.bus.memory.read address)
    ∧ ∀ pending q, p.Nests pending q →
      (∀ target, q.Calls target → pending.length < 128 →
          q.step.1 = .ok () ∧ q.step.2.core.pc = target)
        ∧ (∀ back rest, pending = back :: rest → q.Returns →
          q.step.1 = .ok () ∧ q.step.2.core.pc = back)
        ∧ (pending = [] → q.core.sp = p.core.sp)
        ∧ ∀ address, address < 0x100 ∨ 0x200 ≤ address →
          q.bus.memory.read address = p.bus.memory.read address
  := by
  constructor
  · intro ops pulled houtcome
    obtain ⟨sp, m, huse, hstacked⟩ :=
      Exec.onBus_useStack p.core p.bus hpage (Memory.stacked_nil _ _) houtcome
    obtain rfl := hstacked.sp_eq_top
    exact ⟨m, huse, hstacked.capacity_eq, hstacked.read_eq⟩
  · intro pending q hnests
    have hstacked := hnests.stacked hpage
    refine ⟨?_, ?_, ?_, hstacked.read_eq⟩
    · intro target hcall hroom
      obtain ⟨hok, hpc, -⟩ := hcall.step hpage hstacked hroom
      exact ⟨hok, hpc⟩
    · rintro back rest rfl hreturn
      obtain ⟨hok, hpc, -⟩ := hreturn.step hstacked
      exact ⟨hok, hpc⟩
    · rintro rfl
      exact hstacked.sp_eq_top

/-- A processor at a call of a subroutine that calls another one, with the stack pointer at the
bottom of the page. -/
def smallCalling : Processor where
  core := { Core.initial 0x80 with sp := 0 }
  layout := (Settings.smallPages 0xFE).layout
  bus := { Bus.fresh (.smallPages 0xFE) with
    memory := (Memory.zeroed 0x200).storeAll 0x80
      [0x20, 0x84, 0x00, 0x00, 0x20, 0x88, 0x00, 0x60, 0x60] }

theorem nested_stack_small :
  0x200 ≤ smallCalling.bus.memory.capacity
    ∧ (∃ m, (Exec.useStack [.push (.word 0x1234), .push (.byte 0x56), .pull .byte, .pull .word]
        smallCalling.core).onBus smallCalling.bus
      = (.ok [.byte 0x56, .word 0x1234], smallCalling.core, { smallCalling.bus with memory := m }))
    ∧ smallCalling.step.2.step.2.step.2.step.2.core.pc = 0x83
  := by
  have hpage : 0x200 ≤ smallCalling.bus.memory.capacity := by
    simp [smallCalling]
  obtain ⟨huses, hcalls⟩ := nested_stack hpage
  obtain ⟨m, huse, -, -⟩ := huses
    [.push (.word 0x1234), .push (.byte 0x56), .pull .byte, .pull .word]
    [.byte 0x56, .word 0x1234] rfl
  have houter : smallCalling.Calls 0x84 := by decide +kernel
  have hinner : smallCalling.step.2.Calls 0x88 := by decide +kernel
  have hreturn : smallCalling.step.2.step.2.Returns := by decide +kernel
  have hreturn' : smallCalling.step.2.step.2.step.2.Returns := by decide +kernel
  have hnests := ((Nests.start.call (by decide) houter).call (by simp) hinner).ret hreturn
  obtain ⟨-, hreturns, -, -⟩ := hcalls _ _ hnests
  exact ⟨hpage, ⟨m, huse⟩, (hreturns _ _ rfl hreturn').2⟩

end

end Processor

end RasterConsole
