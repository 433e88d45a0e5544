import RasterConsole.Processor
import RasterConsole.Proofs.Processor.Requests

/-!
# What a program can see

A program sees registers, cycles and memory.  The bus answers every access from memory
alone, with zero for an address of the register window.  `Guest` is a processor reduced to
what a program sees, and `Guest.step` runs an instruction on nothing else.  An instruction of
a processor comes to the same (`Processor.guest_step`), whatever the bus owes, lets wait or
may pay, and whatever its engine is doing: a program cannot tell two processors apart by
anything but registers, cycles and memory (`Processor.trace_eq_of_sameGuest`).
-/

namespace RasterConsole

namespace Memory

/-- The byte that the processor finds at an address. -/
def answer (m : Memory) (address : UInt16) : Except Fault UInt8 :=
  if address < windowSize then .ok 0 else m.read address.toNat

/-- The memory after the processor has written a byte. -/
def accept (m : Memory) (address : UInt16) (value : UInt8) : Except Fault Memory :=
  if address < windowSize then .ok m else m.write address.toNat value

end Memory

namespace Bus

/-! ### The bus as a memory -/

@[simp]
theorem memory_waitForLine [Arithmetic] (b : Bus) :
  b.waitForLine.memory = b.memory
  := by
  simp only [waitForLine]
  split_ifs
  · rfl
  · apply memory_flush

@[simp]
theorem memory_touch [Arithmetic] (b : Bus) (address : UInt16) :
  (b.touch address).memory = b.memory
  := by
  simp only [touch]
  split_ifs
  · rw [memory_waitForLine, memory_flush]
  · apply memory_flush

@[simp]
theorem memory_post (b : Bus) (w : RegisterWrite) :
  (b.post w).memory = b.memory
  := by
  simp only [post]
  split_ifs
  · rfl
  · rfl

/-- A read finds what the memory says and leaves the memory alone. -/
theorem read_answer [Arithmetic] (b : Bus) (address : UInt16) :
  (b.read address).1 = b.memory.answer address ∧ (b.read address).2.memory = b.memory
  := by
  simp only [read, Memory.answer]
  split_ifs
  · exact ⟨rfl, b.memory_touch address⟩
  · exact ⟨rfl, rfl⟩

/-- A write that the memory accepts is accepted. -/
theorem write_of_accept [Arithmetic] {b : Bus} {address : UInt16} {value : UInt8} {memory : Memory}
    (h : b.memory.accept address value = .ok memory) :
  (b.write address value).1 = .ok () ∧ (b.write address value).2.memory = memory
  := by
  simp only [Memory.accept, Memory.write] at h
  simp only [write]
  split_ifs at h ⊢ with ha
  · cases h
    exact ⟨rfl, b.memory_touch address⟩
  · cases h
    exact ⟨rfl, by rw [memory_post, memory_touch]⟩
  · cases hfault : b.memory.writeFault? address.toNat with
    | some fault =>
        rw [hfault] at h
        cases h
    | none =>
        rw [hfault] at h
        cases h
        exact ⟨rfl, rfl⟩

/-- A write that the memory refuses is refused. -/
theorem write_of_refuse [Arithmetic] {b : Bus} {address : UInt16} {value : UInt8} {fault : Fault}
    (h : b.memory.accept address value = .error fault) :
  (b.write address value).1 = .error fault ∧ (b.write address value).2.memory = b.memory
  := by
  simp only [Memory.accept, Memory.write] at h
  simp only [write]
  split_ifs at h ⊢
  cases hfault : b.memory.writeFault? address.toNat with
  | some _ =>
      rw [hfault] at h
      cases h
      exact ⟨rfl, rfl⟩
  | none =>
      rw [hfault] at h
      cases h

end Bus

namespace Activity

variable {α : Type}

/-- The result of an activity on a memory, with the registers and the memory that it
leaves. -/
def onMemory (activity : Activity α) (memory : Memory) : Except Fault α × Core × Memory :=
  match activity with
  | done value core => (.ok value, core, memory)
  | fail fault core => (.error fault, core, memory)
  | read core address next =>
    match memory.answer address with
    | .ok byte => (next byte).onMemory memory
    | .error fault => (.error fault, core, memory)
  | write core address value next =>
    match memory.accept address value with
    | .ok memory => next.onMemory memory
    | .error fault => (.error fault, core, memory)
  | charge _ next => next.onMemory memory

/-- What an activity on a bus comes to, the bus reduced to its memory. -/
theorem onBus_onMemory [Arithmetic] (a : Activity α) (b : Bus) :
  ((a.onBus b).1, (a.onBus b).2.1, (a.onBus b).2.2.memory) = a.onMemory b.memory
  := by
  induction a generalizing b with
  | done _ _ | fail _ _ => rfl
  | read core address next ih =>
      obtain ⟨hanswer, hmemory⟩ := b.read_answer address
      rw [onMemory]
      cases hbyte : b.memory.answer address with
      | ok byte =>
          rw [onBus_read_ok (hanswer.trans hbyte), ih, hmemory]
      | error fault =>
          rw [onBus_read_error (hanswer.trans hbyte), hmemory]
  | write core address value next ih =>
      rw [onMemory]
      cases haccept : b.memory.accept address value with
      | ok memory =>
          obtain ⟨hresult, hmemory⟩ := Bus.write_of_accept haccept
          rw [onBus_write_ok hresult, ih, hmemory]
      | error fault =>
          obtain ⟨hresult, hmemory⟩ := Bus.write_of_refuse haccept
          rw [onBus_write_error hresult, hmemory]
  | charge cycles next ih => exact ih (b.charge cycles)

end Activity

/-- What a program can see of a processor, and where its vectors are. -/
structure Guest where
  core : Core
  layout : Layout
  memory : Memory
  deriving DecidableEq

namespace Guest

/-- Runs one instruction on a memory. -/
def step (g : Guest) : Except Fault Unit × Guest :=
  let (result, core, memory) := (Exec.instruction g.layout.irqVector g.core).onMemory g.memory
  (result, ⟨core, g.layout, memory⟩)

/-- The results of up to `steps` instructions, each with what it leaves.  A failure is the
last of them. -/
def trace (g : Guest) : Nat → List (Except Fault Unit × Guest)
  | 0 => []
  | steps + 1 =>
    match g.step with
    | (.ok (), g) => (.ok (), g) :: g.trace steps
    | (.error fault, g) => [(.error fault, g)]

end Guest

namespace Processor

/-- What a program can see of the processor. -/
def guest (p : Processor) : Guest := ⟨p.core, p.layout, p.bus.memory⟩

/-- The results of up to `steps` instructions, each with what a program can see after it.
A failure is the last of them. -/
def trace [Arithmetic] (p : Processor) : Nat → List (Except Fault Unit × Guest)
  | 0 => []
  | steps + 1 =>
    match p.step with
    | (.ok (), p) => (.ok (), p.guest) :: p.trace steps
    | (.error fault, p) => [(.error fault, p.guest)]

/-- What an instruction does to what a program can see depends on nothing else. -/
theorem guest_step [Arithmetic] (p : Processor) :
  p.guest.step = (p.step.1, p.step.2.guest)
  := by
  have h := Activity.onBus_onMemory (Exec.instruction p.layout.irqVector p.core) p.bus
  simp only [Guest.step, guest, ← h]
  rfl

theorem guest_trace [Arithmetic] (p : Processor) (steps : Nat) :
  p.guest.trace steps = p.trace steps
  := by
  induction steps generalizing p with
  | zero => rfl
  | succ steps ih =>
      rw [Guest.trace, guest_step, trace]
      rcases p.step with ⟨_ | _, q⟩
      · rfl
      · exact congrArg (List.cons _) (ih q)

/-- Two processors that a program cannot tell apart at the beginning it can never tell
apart: instruction by instruction they have the same results and leave the same registers,
cycles and memory, up to the same failure if there is one. -/
theorem trace_eq_of_sameGuest [Arithmetic] {p q : Processor} (hcore : q.core = p.core)
    (hlayout : q.layout = p.layout) (hmemory : q.bus.memory = p.bus.memory) (steps : Nat) :
  q.trace steps = p.trace steps
  := by
  have hguest : q.guest = p.guest := by simp only [guest, hcore, hlayout, hmemory]
  rw [← guest_trace, ← guest_trace, hguest]

/-- A processor at the beginning of a program that waits for the end of the line, stores a
color, changes the register that it waited with, branches, and comes to an opcode that
stands for nothing. -/
def smallIdle : Processor where
  core := Core.initial 0x80
  layout := Settings.small.layout
  bus := { Bus.fresh .small with
    memory := (Memory.zeroed 0x100).storeAll 0x80
      [0xA5, 0x02, 0x85, 0x09, 0xE6, 0x02, 0xF0, 0x00, 0x02] }

/-- The same guest with longer lines and a slower processor, in debt, with a budget and a
write waiting. -/
def smallBusy : Processor :=
  { smallIdle with
    bus := { smallIdle.bus with
      raster := (Raster.fresh ⟨12, 2, 1, 1, 1, 20⟩).advance 33
      ticksPerCycle := 7
      owed := 45
      budget := .ticks 50
      waiting := [⟨0x01, 0x02⟩] } }

theorem trace_eq_of_sameGuest_small :
  smallBusy.core = smallIdle.core ∧ smallBusy.layout = smallIdle.layout
    ∧ smallBusy.bus.memory = smallIdle.bus.memory
    ∧ (smallIdle.trace 9).length = 5
    ∧ smallBusy.trace 9 = smallIdle.trace 9
  := by
  have hcore : smallBusy.core = smallIdle.core := rfl
  have hlayout : smallBusy.layout = smallIdle.layout := rfl
  have hmemory : smallBusy.bus.memory = smallIdle.bus.memory := rfl
  have hsteps : (smallIdle.trace 9).length = 5 := by decide +kernel
  exact ⟨hcore, hlayout, hmemory, hsteps, trace_eq_of_sameGuest hcore hlayout hmemory 9⟩

end Processor

end RasterConsole
