import RasterConsole.Proofs.Processor.Orderly
import RasterConsole.Proofs.Processor.Vectors

/-!
# Returning from an interrupt

A software interrupt saves the address behind it and the flags on the stack, and a return from
an interrupt brings them back.  The flags come back as they were only if they are settled: the
two flags without a place in the processor are lost on the way, and are set anew.  They are
settled in every processor that comes up in the use of a processor (`Processor.Operated`),
whatever bytes its programs take for flags.  So an interrupt whose handler returns at once
leaves nothing behind but three bytes on the stack (`Processor.Operated.returns`).
-/

namespace RasterConsole

namespace Status

/-- In the byte of a settled status the bit of the unused flag is set, and that of the other
flag without a place is clear. -/
theorem Settled.testBit_toByte {s : Status} (h : s.Settled) :
  s.toByte.toNat.testBit 5 = true ∧ s.toByte.toNat.testBit 4 = false
  := by
  obtain ⟨carry, zero, interrupt, decimal, brk, unused, overflow, negative⟩ := s
  obtain ⟨rfl, rfl⟩ := h
  revert carry zero interrupt decimal overflow negative
  decide +kernel

/-- A settled status comes back from the stack as it was. -/
theorem Settled.pulled_pushed {s : Status} (h : s.Settled) :
  pulled s.pushed = s
  := by
  obtain ⟨carry, zero, interrupt, decimal, brk, unused, overflow, negative⟩ := s
  obtain ⟨rfl, rfl⟩ := h
  revert carry zero interrupt decimal overflow negative
  decide +kernel

end Status

/-! ### The cells of the stack -/

theorem toNat_stackAddress (sp : UInt8) :
  (stackAddress sp).toNat = 256 + sp.toNat
  := toNat_wordOf sp 1

theorem toNat_stackAddress_lt (sp : UInt8) :
  (stackAddress sp).toNat < 0x200
  := by
  have hsp := sp.toNat_lt
  rw [toNat_stackAddress]
  omega

/-- Three cells of the stack in a row are apart, also where the stack pointer wraps around. -/
theorem stackAddress_apart (sp : UInt8) :
  (stackAddress (sp - 1)).toNat ≠ (stackAddress sp).toNat
    ∧ (stackAddress (sp - 1 - 1)).toNat ≠ (stackAddress sp).toNat
    ∧ (stackAddress (sp - 1 - 1)).toNat ≠ (stackAddress (sp - 1)).toNat
  := by
  have hsp := sp.toNat_lt
  simp only [toNat_stackAddress, UInt8.toNat_sub, UInt8.reduceToNat]
  omega

namespace Core

/-- The addresses of the bytes that an interrupt saves. -/
def savedCells (core : Core) : List Nat :=
  [(stackAddress core.sp).toNat, (stackAddress (core.sp - 1)).toNat,
    (stackAddress (core.sp - 1 - 1)).toNat]

section

variable {core : Core} {m : Memory}

@[simp]
theorem capacity_save (core : Core) (m : Memory) :
  (core.save m).capacity = m.capacity
  := by
  simp only [save, Memory.capacity_store]

/-- Saving the registers changes nothing but three cells. -/
theorem read_save_of_outside {address : Nat} (h : address ∉ core.savedCells) :
  (core.save m).read address = m.read address
  := by
  simp only [savedCells, List.mem_cons, List.not_mem_nil, or_false, not_or] at h
  obtain ⟨hpage, hreturn, hstatus⟩ := h
  rw [save, Memory.read_store_of_ne _ _ hstatus, Memory.read_store_of_ne _ _ hreturn,
    Memory.read_store_of_ne _ _ hpage]

/-- The address to return to and the flags are found where they have been saved. -/
theorem read_save (core : Core) (hpage : 0x200 ≤ m.capacity) :
  (core.save m).read (stackAddress (core.sp - 1 - 1)).toNat = .ok core.status.pushed
    ∧ (core.save m).read (stackAddress (core.sp - 1)).toNat = .ok (lowByte (core.pc + 1))
    ∧ (core.save m).read (stackAddress core.sp).toNat = .ok (highByte (core.pc + 1))
  := by
  have hlt : ∀ sp, (stackAddress sp).toNat < m.capacity :=
    fun sp => (toNat_stackAddress_lt sp).trans_le hpage
  obtain ⟨hfirst, hsecond, hthird⟩ := stackAddress_apart core.sp
  rw [save]
  refine ⟨?_, ?_, ?_⟩
  · apply Memory.read_store_self
    simpa using hlt _
  · rw [Memory.read_store_of_ne _ _ hthird.symm]
    apply Memory.read_store_self
    simpa using hlt _
  · rw [Memory.read_store_of_ne _ _ hsecond.symm, Memory.read_store_of_ne _ _ hfirst.symm]
    apply Memory.read_store_self _ (hlt _)

end

end Core

/-! ### Outside the register window -/

/-- The second byte of a vector lies outside the window if the first one does, unless that is the
last byte of all. -/
theorem succ_outside {vector : UInt16} (hvector : ¬ vector < windowSize) (hne : vector ≠ 0xFFFF) :
  ¬ vector + 1 < windowSize
  := by
  have hlt := vector.toNat_lt
  rw [Ne, ← UInt16.toNat_inj] at hne
  rw [UInt16.lt_iff_toNat_lt] at hvector ⊢
  rw [UInt16.toNat_add]
  simp only [windowSize, UInt16.reduceToNat] at hvector hne ⊢
  omega

namespace Memory

/-- Outside the register window the processor finds what memory holds. -/
theorem answer_of_outside {address : UInt16} (ha : ¬ address < windowSize) (m : Memory) :
  m.answer address = m.read address.toNat
  := if_neg ha

end Memory

namespace Activity

variable {α : Type}

/-- A write into the memory outside the register window is a store. -/
theorem onMemory_write_of_lt {m : Memory} {address : UInt16} (ha : ¬ address < windowSize)
    (hlt : address.toNat < m.capacity) (core : Core) (byte : UInt8) (next : Activity α) :
  (write core address byte next).onMemory m = next.onMemory (m.store address.toNat byte)
  := by
  rw [onMemory, Memory.accept, if_neg ha, Memory.write, Memory.writeFault?, if_pos hlt]

end Activity

/-! ### Entering and leaving a handler -/

namespace Core

/-- The registers after the flags and the address to return to have come from the stack. -/
def resumed (core : Core) (byte low high : UInt8) : Core :=
  { core with
    sp := core.sp + 1 + 1 + 1
    pc := wordOf low high
    status := Status.pulled byte }

end Core

namespace Exec

section

variable {irqVector : UInt16} {core : Core} {m : Memory}

/-- On a memory that holds the stack a software interrupt enters its handler. -/
theorem onMemory_brk_of_answer {low high : UInt8} (hpage : 0x200 ≤ m.capacity)
    (hlow : (core.save m).answer irqVector = .ok low)
    (hhigh : (core.save m).answer (irqVector + 1) = .ok high) :
  (execute irqVector .brk .absent core).onMemory m
    = (.ok (), core.interrupted (wordOf low high), core.save m)
  := by
  have hlt : ∀ sp, (stackAddress sp).toNat < m.capacity :=
    fun sp => (toNat_stackAddress_lt sp).trans_le hpage
  rw [execute_brk, Activity.onMemory_write_of_lt (stackAddress_not_lt _) (hlt _),
    Activity.onMemory_write_of_lt (stackAddress_not_lt _) (by simpa using hlt _),
    Activity.onMemory_write_of_lt (stackAddress_not_lt _) (by simpa using hlt _)]
  change Activity.onMemory _ (core.save m) = _
  rw [Activity.onMemory_read_of_ok hlow, Activity.onMemory_read_of_ok hhigh]
  rfl

/-- A return from an interrupt takes the flags from the stack, and then the address to return
to, low byte first. -/
theorem execute_rti (irqVector : UInt16) (core : Core) :
  execute irqVector .rti .absent core
    = .read { core with sp := core.sp + 1 } (stackAddress (core.sp + 1)) fun byte =>
      .read { core with sp := core.sp + 1 + 1, status := Status.pulled byte }
        (stackAddress (core.sp + 1 + 1)) fun low =>
        .read { core with sp := core.sp + 1 + 1 + 1, status := Status.pulled byte }
          (stackAddress (core.sp + 1 + 1 + 1)) fun high =>
          .done () (core.resumed byte low high)
  := rfl

theorem onMemory_rti_of_read {byte low high : UInt8}
    (hbyte : m.read (stackAddress (core.sp + 1)).toNat = .ok byte)
    (hlow : m.read (stackAddress (core.sp + 1 + 1)).toNat = .ok low)
    (hhigh : m.read (stackAddress (core.sp + 1 + 1 + 1)).toNat = .ok high) :
  (execute irqVector .rti .absent core).onMemory m = (.ok (), core.resumed byte low high, m)
  := by
  rw [← Memory.answer_of_outside (stackAddress_not_lt _)] at hbyte hlow hhigh
  rw [execute_rti, Activity.onMemory_read_of_ok hbyte, Activity.onMemory_read_of_ok hlow,
    Activity.onMemory_read_of_ok hhigh]
  rfl

theorem onMemory_instruction_rti (h : m.answer core.pc = .ok 0x40) :
  (instruction irqVector core).onMemory m
    = (execute irqVector .rti .absent (core.past 6)).onMemory m
  := onMemory_instruction_implied
    (by decide +kernel : Instruction.ofOpcode? 0x40 = some ⟨0x40, .rti, .implied, 6, false⟩) h

end

end Exec

namespace Guest

variable {g : Guest} {handler : UInt16}

/-- An interrupt enters the handler whose address the vector holds. -/
theorem step_brk_of_vector (hpage : 0x200 ≤ g.memory.capacity)
    (hbrk : g.memory.answer g.core.pc = .ok 0x00)
    (hvector : ¬ g.layout.irqVector < windowSize) (hsucc : ¬ g.layout.irqVector + 1 < windowSize)
    (hword : ((g.core.past 7).save g.memory).readWord g.layout.irqVector.toNat = .ok handler) :
  g.step = (.ok (), ⟨(g.core.past 7).interrupted handler, g.layout,
    (g.core.past 7).save g.memory⟩)
  := by
  obtain ⟨hlow, hhigh⟩ := Memory.readWord_eq_ok_iff.mp hword
  rw [← Memory.answer_of_outside hvector] at hlow
  rw [← toNat_succ_of_outside hsucc, ← Memory.answer_of_outside hsucc] at hhigh
  rw [step, Exec.onMemory_instruction_brk hbrk, Exec.onMemory_brk_of_answer hpage hlow hhigh,
    wordOf_bytes]

/-- A handler that returns at once brings back the flags and goes on behind the interrupt. -/
theorem step_rti_of_saved {core : Core} {memory : Memory} {layout : Layout}
    (hpage : 0x200 ≤ memory.capacity) (hstatus : core.status.Settled)
    (hrti : (core.save memory).answer handler = .ok 0x40) :
  (Guest.mk (core.interrupted handler) layout (core.save memory)).step
    = (.ok (), ⟨{ core with pc := core.pc + 1, cycles := core.cycles + 6 }, layout,
      core.save memory⟩)
  := by
  obtain ⟨hbyte, hlow, hhigh⟩ := Core.read_save core hpage
  have hback : core.sp - 1 - 1 - 1 + 1 = core.sp - 1 - 1 ∧ core.sp - 1 - 1 + 1 = core.sp - 1
      ∧ core.sp - 1 + 1 = core.sp := by simp only [UInt8.sub_add_cancel, and_self]
  obtain ⟨hfirst, hsecond, hthird⟩ := hback
  have hexec : (Exec.execute layout.irqVector .rti .absent
      ((core.interrupted handler).past 6)).onMemory (core.save memory)
      = (.ok (), ((core.interrupted handler).past 6).resumed core.status.pushed
        (lowByte (core.pc + 1)) (highByte (core.pc + 1)), core.save memory) := by
    apply Exec.onMemory_rti_of_read
    · change (core.save memory).read (stackAddress (core.sp - 1 - 1 - 1 + 1)).toNat = _
      rw [hfirst, hbyte]
    · change (core.save memory).read (stackAddress (core.sp - 1 - 1 - 1 + 1 + 1)).toNat = _
      rw [hfirst, hsecond, hlow]
    · change (core.save memory).read (stackAddress (core.sp - 1 - 1 - 1 + 1 + 1 + 1)).toNat = _
      rw [hfirst, hsecond, hthird, hhigh]
  rw [step, Exec.onMemory_instruction_rti hrti, hexec]
  simp only [Core.resumed, Core.past, Core.interrupted, hfirst, hsecond, hthird, wordOf_bytes,
    hstatus.pulled_pushed]

end Guest

namespace Processor

/-! ### Processors in use -/

/-- The processors that come up in the use of a processor with given settings: it is reset and
runs instructions, whether or not they fail, and between them anything may happen to its bus,
and to the program in memory. -/
inductive Operated [Arithmetic] (s : Settings) : Processor → Prop
  | fresh : Operated s (Processor.fresh s)
  | reset {p : Processor} (h : Operated s p) : Operated s p.reset.2
  | step {p : Processor} (h : Operated s p) : Operated s p.step.2
  | exchange {p : Processor} (h : Operated s p) {bus : Bus} (hbus : bus.Suits s) :
    Operated s { p with bus := bus }

section

variable {s : Settings} {p : Processor}

/-- After a reset, whether or not it has failed, the flags are those at power on. -/
theorem status_reset (p : Processor) :
  p.reset.2.core.status = Status.initial
  := by
  unfold reset
  split
  · rfl
  · rfl

theorem Operated.settled [Arithmetic] (h : Operated s p) :
  p.core.status.Settled
  := by
  induction h with
  | fresh => exact Status.settled_initial
  | reset _ _ =>
      rw [status_reset]
      exact Status.settled_initial
  | step _ ih => exact settled_step ih
  | exchange _ _ ih => exact ih

theorem Operated.suits [Arithmetic] (h : Operated s p) :
  p.bus.Suits s
  := by
  induction h with
  | fresh => exact Bus.suits_fresh s
  | reset _ ih => rwa [bus_reset]
  | step _ ih => exact suits_step ih
  | exchange _ hbus _ => exact hbus

theorem Operated.fits [Arithmetic] (h : Operated s p) :
  p.Fits s
  := by
  refine ⟨?_, h.suits.capacity_eq⟩
  induction h with
  | fresh => rfl
  | reset _ ih => rw [layout_reset, ih]
  | step _ ih => exact ih
  | exchange _ _ ih => exact ih

/-! ### The way through a handler -/

/-- The processor stands before a software interrupt whose handler returns at once, and which
spoils neither its vector nor its handler. -/
structure Interruptible (s : Settings) (p : Processor) (handler : UInt16) : Prop where
  brk_eq : p.bus.peek p.core.pc = .ok 0x00
  stack_le : 0x200 ≤ s.memorySize
  vector_outside : ¬ s.layout.irqVector < windowSize
  vector_ne : s.layout.irqVector ≠ 0xFFFF
  vector_eq : p.bus.memory.readWord s.layout.irqVector.toNat = .ok handler
  handler_outside : ¬ handler < windowSize
  rti_eq : p.bus.memory.read handler.toNat = .ok 0x40
  kept : ∀ address ∈ [s.layout.irqVector.toNat, s.layout.irqVector.toNat + 1, handler.toNat],
    address ∉ p.core.savedCells

/-- The processor `q` goes on behind the two bytes of an interrupt of `p` as if nothing had
happened, except that the interrupt has taken its time and has left bytes on the stack. -/
structure Resumed (p q : Processor) : Prop where
  core_eq : q.core = { p.core with pc := p.core.pc + 2, cycles := p.core.cycles + 13 }
  read_eq : ∀ address, address ∉ p.core.savedCells →
    q.bus.memory.read address = p.bus.memory.read address

/-- What a program sees when the handler has returned. -/
theorem resumed_of_guest {q : Processor} {layout : Layout}
    (h : q.guest = ⟨{ p.core.past 7 with
      pc := (p.core.past 7).pc + 1, cycles := (p.core.past 7).cycles + 6 }, layout,
      (p.core.past 7).save p.bus.memory⟩) :
  p.Resumed q
  := by
  constructor
  · have hcore : q.core = _ := congrArg Guest.core h
    rw [hcore]
    simp only [Core.past, UInt16.add_assoc, Nat.add_assoc]
    rfl
  · intro address haddress
    have hcells : address ∉ (p.core.past 7).savedCells := haddress
    have hmemory : q.bus.memory = _ := congrArg Guest.memory h
    rw [hmemory, Core.read_save_of_outside hcells]

namespace Interruptible

variable {handler : UInt16}

/-- Saving the registers spoils neither the vector nor the handler. -/
theorem saved (h : p.Interruptible s handler) :
  ((p.core.past 7).save p.bus.memory).readWord s.layout.irqVector.toNat = .ok handler
    ∧ ((p.core.past 7).save p.bus.memory).answer handler = .ok 0x40
  := by
  have hkept : ∀ address ∈ [s.layout.irqVector.toNat, s.layout.irqVector.toNat + 1,
      handler.toNat],
      ((p.core.past 7).save p.bus.memory).read address = p.bus.memory.read address :=
    fun address haddress => Core.read_save_of_outside (h.kept address haddress)
  constructor
  · rw [Memory.readWord_eq_ok_iff, hkept _ (by simp), hkept _ (by simp)]
    exact Memory.readWord_eq_ok_iff.mp h.vector_eq
  · rw [Memory.answer_of_outside h.handler_outside, hkept _ (by simp), h.rti_eq]

/-- The interrupt enters its handler. -/
theorem step_enters [Arithmetic] (h : p.Interruptible s handler) (hp : p.Fits s) :
  p.step.1 = .ok ()
    ∧ p.step.2.guest = ⟨(p.core.past 7).interrupted handler, p.layout,
      (p.core.past 7).save p.bus.memory⟩
  := by
  obtain ⟨hword, -⟩ := h.saved
  have hvector := h.vector_outside
  have hsucc := succ_outside h.vector_outside h.vector_ne
  rw [← hp.layout_eq] at hword hvector hsucc
  have hpage : 0x200 ≤ p.bus.memory.capacity := h.stack_le.trans_eq hp.capacity_eq.symm
  rw [← Prod.mk.injEq, ← guest_step]
  exact Guest.step_brk_of_vector hpage h.brk_eq hvector hsucc hword

/-- The handler returns. -/
theorem step_returns [Arithmetic] (h : p.Interruptible s handler) (hp : p.Fits s)
    (hsettled : p.core.status.Settled) :
  p.step.2.step.1 = .ok () ∧ p.Resumed p.step.2.step.2
  := by
  obtain ⟨-, hentered⟩ := h.step_enters hp
  have hpage : 0x200 ≤ p.bus.memory.capacity := h.stack_le.trans_eq hp.capacity_eq.symm
  obtain ⟨hok, hreturned⟩ : p.step.2.step.1 = .ok ()
      ∧ p.step.2.step.2.guest = ⟨{ p.core.past 7 with
          pc := (p.core.past 7).pc + 1, cycles := (p.core.past 7).cycles + 6 }, p.layout,
        (p.core.past 7).save p.bus.memory⟩ := by
    rw [← Prod.mk.injEq, ← guest_step, hentered]
    exact Guest.step_rti_of_saved hpage hsettled h.saved.2
  exact ⟨hok, resumed_of_guest hreturned⟩

end Interruptible

/-- In every processor that comes up the bit of the unused flag is set and that of the other
flag without a place is clear, whatever its programs have taken for flags.  So a software
interrupt whose handler returns at once brings back all registers, the flags among them, and
goes on two bytes behind its opcode; it takes thirteen cycles and changes three cells of the
stack at most. -/
theorem Operated.returns [Arithmetic] (hp : Operated s p) :
  (p.core.status.toByte.toNat.testBit 5 = true ∧ p.core.status.toByte.toNat.testBit 4 = false)
    ∧ ∀ handler, p.Interruptible s handler →
      p.step.1 = .ok () ∧ p.step.2.step.1 = .ok () ∧ p.Resumed p.step.2.step.2
  := by
  refine ⟨hp.settled.testBit_toByte, ?_⟩
  intro handler h
  obtain ⟨hok, -⟩ := h.step_enters hp.fits
  obtain ⟨hok', hresumed⟩ := h.step_returns hp.fits hp.settled
  exact ⟨hok, hok', hresumed⟩

/-- A processor that enters a program which takes its flags from the accumulator, by way of the
stack, and then breaks.  The handler of the interrupt returns at once. -/
def smallHandled : Processor :=
  ({ Processor.fresh (.smallPages 0xFE) with
    bus := { Bus.fresh (.smallPages 0xFE) with
      memory := (((((Memory.zeroed 0x200).storeWord 0xFC 0x180).storeWord 0xFE 0x190).storeAll 0x180
        [0xA9, 0xD7, 0x48, 0x28, 0x00]).store 0x190 0x40) } } : Processor).reset.2

/-- The processor before its interrupt. -/
def smallBroken : Processor := smallHandled.step.2.step.2.step.2

theorem smallBroken_operated :
  Operated (.smallPages 0xFE) smallBroken
  := by
  have hreset : Operated (.smallPages 0xFE) smallHandled := by
    apply Operated.reset
    apply Operated.fresh.exchange
    exact ⟨rfl, rfl, by simp [Settings.smallPages]⟩
  exact hreset.step.step.step

/-- The interrupt, its vector and its handler as the processor sees them, and its flags. -/
theorem smallBroken_eq :
  (smallBroken.bus.peek smallBroken.core.pc = .ok 0x00
      ∧ smallBroken.bus.memory.readWord (Settings.smallPages 0xFE).layout.irqVector.toNat
        = .ok 0x190
      ∧ smallBroken.bus.memory.read (0x190 : UInt16).toNat = .ok 0x40)
    ∧ smallBroken.core.savedCells = [0x1FD, 0x1FC, 0x1FB]
    ∧ smallBroken.core.pc + 2 = 0x186 ∧ smallBroken.core.status.toByte = 0xE7
  := by decide +kernel

theorem smallBroken_interruptible :
  smallBroken.Interruptible (.smallPages 0xFE) 0x190
  := by
  obtain ⟨⟨hbrk, hvector, hrti⟩, hcells, -⟩ := smallBroken_eq
  refine ⟨hbrk, by decide, by decide, by decide, hvector, by decide, hrti, ?_⟩
  rw [hcells]
  decide +kernel

/-- The flags survive an interrupt, although the program has taken them from a byte in which the
two flags without a place are the wrong way round. -/
theorem returns_small :
  Operated (.smallPages 0xFE) smallBroken ∧ smallBroken.Interruptible (.smallPages 0xFE) 0x190
    ∧ smallBroken.core.status.toByte = 0xE7
    ∧ smallBroken.step.2.step.2.core
      = { smallBroken.core with pc := 0x186, cycles := smallBroken.core.cycles + 13 }
  := by
  obtain ⟨-, hreturns⟩ := smallBroken_operated.returns
  obtain ⟨-, -, hresumed⟩ := hreturns 0x190 smallBroken_interruptible
  obtain ⟨-, -, hpc, hstatus⟩ := smallBroken_eq
  refine ⟨smallBroken_operated, smallBroken_interruptible, hstatus, ?_⟩
  rw [hresumed.core_eq, hpc]

end

end Processor

end RasterConsole
