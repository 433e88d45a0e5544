import RasterConsole.Proofs.Console.Clocks
import RasterConsole.Proofs.Processor.Interrupts

/-!
# Failures on a full memory

The processors of all consoles that come up are `Operated`, so the flags are settled wherever an
operation starts an instruction.  If the memory has a byte for every address, then the only
instructions that fail are those whose opcode stands for nothing, and these leave everything
alone but the program counter.  So this is how any operation fails that runs the program, and
what it leaves is what the last instruction has found (`Reachable.stopped_of_full`).
-/

namespace RasterConsole

namespace Processor.Operated

variable [Arithmetic] {s : Settings} {p : Processor}

theorem grant (h : p.Operated s) (budget : Budget) :
  (p.grant budget).Operated s
  := h.exchange (h.suits.grant budget)

theorem flush (h : p.Operated s) :
  p.flush.Operated s
  := h.exchange h.suits.flush

end Processor.Operated

namespace Console

section

variable [Arithmetic] {s : Settings} {c : Console}

/-! ### The processors of consoles -/

/-- Whatever a console is asked to do, it only resets its processor and runs instructions on
it, or changes its bus. -/
theorem lasting_operated (s : Settings) :
  Lasting s fun p => p.Operated s
  where
  fresh := .fresh
  grant budget h := h.grant budget
  flush h := h.flush
  step h := h.step
  reset h := h.reset
  restart hmemory h := by
    have hsuits := h.suits
    exact h.exchange ⟨hsuits.geometry_eq, hsuits.ticksPerCycle_eq, hmemory.trans hsuits.capacity_eq⟩
  takeReady h := by
    have hsuits := h.suits
    exact h.exchange ⟨hsuits.geometry_eq, hsuits.ticksPerCycle_eq, hsuits.capacity_eq⟩

theorem Reachable.operated (hc : Reachable s c) :
  c.processor.Operated s
  := (lasting_operated s).of_reachable hc

/-! ### The instruction that fails -/

/-- The outcome of an operation that has run up to an instruction of the processor `q` that
fails: it fails like this instruction, and has the registers and the memory that it leaves. -/
structure FailsAt (c : Console) (operation : Operation)
    (outcome : Except Fault Unit × Console) (q : Processor) : Prop where
  last_eq : (c.starts operation).getLast? = some q
  fault_eq : outcome.1 = q.step.1
  core_eq : outcome.2.processor.core = q.step.2.core
  memory_eq : outcome.2.processor.bus.memory = q.step.2.bus.memory

theorem failsAt_step (hf : c.faulted = false) (h : c.processor.Operated s) :
  ∃ q, c.FailsAt .step c.step q ∧ q.Operated s
  := by
  refine ⟨c.processor.grant .unlimited, ⟨?_, ?_, ?_, ?_⟩, h.grant .unlimited⟩
  · rw [starts, if_neg (ne_true_of_eq_false hf)]
    rfl
  · rw [step_of_running hf, guard_fst]
  · rw [step_of_running hf, processor_guard]
    rfl
  · rw [step_of_running hf, processor_guard]
    exact Bus.memory_flush _

theorem failsAt_runTicks (hf : c.faulted = false) {ticks : Nat} {fault : Fault}
    (hfault : (c.runTicks ticks).1 = .error fault) (h : c.processor.Operated s) :
  ∃ q, c.FailsAt (.runTicks ticks) (c.runTicks ticks) q ∧ q.Operated s
  := by
  have hresult : ((c.processor.grant (.ticks ticks)).runWithin (patience ticks)).1
      = some (.error fault) := by
    unfold Console.runTicks at hfault
    rw [if_neg (ne_true_of_eq_false hf)] at hfault
    dsimp only at hfault
    rw [guard_fst] at hfault
    generalize (c.processor.grant (.ticks ticks)).runWithin (patience ticks) = outcome at hfault ⊢
    obtain ⟨_ | _, _⟩ := outcome
    · cases hfault
    · exact congrArg some hfault
  obtain ⟨q, hlast, hstep⟩ := Processor.exists_failed_start hresult
  refine ⟨q, ⟨?_, ?_, ?_, ?_⟩, ?_⟩
  · rw [starts, if_neg (ne_true_of_eq_false hf)]
    exact hlast
  · rw [hfault, hstep]
  · rw [processor_runTicks hf, hstep]
  · rw [processor_runTicks hf, hstep]
  · exact Processor.of_mem_starts (fun _ h => h.flush) (fun _ h => h.step) (h.grant (.ticks ticks))
      (List.mem_of_getLast? hlast)

theorem failsAt_runFrame (hf : c.faulted = false) {fault : Fault}
    (hfault : c.runFrame.1 = .error fault) (h : c.processor.Operated s) :
  ∃ q, c.FailsAt .runFrame c.runFrame q ∧ q.Operated s
  := by
  obtain ⟨hresult, -⟩ := c.runFrame_eq_runTicks
  rw [hresult] at hfault
  obtain ⟨q, hfails, hq⟩ := failsAt_runTicks hf hfault h
  rw [runFrame_of_error hfault, ← hfault]
  exact ⟨q, ⟨hfails.last_eq, hfails.fault_eq, hfails.core_eq, hfails.memory_eq⟩, hq⟩

/-- An operation that fails although the console is not faulted fails like the last one of the
instructions that it has started. -/
theorem exists_failsAt {σ : Type} (sink : Sink σ) (display : σ) (hf : c.faulted = false)
    {operation : Operation} (hruns : operation.Runs) {fault : Fault}
    (hfault : (c.perform sink display operation).1 = .error fault) (h : c.processor.Operated s) :
  ∃ q, c.FailsAt operation ((c.perform sink display operation).1,
      (c.perform sink display operation).2.1) q ∧ q.Operated s
  := by
  cases operation with
  | step => exact failsAt_step hf h
  | runTicks ticks => exact failsAt_runTicks hf hfault h
  | runFrame => exact failsAt_runFrame hf hfault h
  | boot _ | reset | present => cases hruns

/-- If the memory has a byte for every address, then nothing makes an operation fail but an
opcode that stands for nothing.  The fault names the opcode and its place, where memory holds it
outside the register window.  The instruction that has met it has changed nothing at all but the
program counter, so the operation leaves the registers, the cycles and the memory which this
last instruction has found. -/
theorem Reachable.stopped_of_full {σ : Type} (sink : Sink σ) (display : σ) (hc : Reachable s c)
    (hfull : 0x10000 ≤ s.memorySize) (hf : c.faulted = false) {operation : Operation}
    (hruns : operation.Runs) {fault : Fault}
    (hfault : (c.perform sink display operation).1 = .error fault) :
  ∃ q opcode, (c.starts operation).getLast? = some q ∧ q.Unknown opcode
    ∧ fault = .unknownOpcode opcode q.core.pc
    ∧ (c.perform sink display operation).2.1.processor.core
      = { q.core with pc := q.core.pc + 1 }
    ∧ (c.perform sink display operation).2.1.processor.bus.memory = q.bus.memory
  := by
  obtain ⟨q, hfails, hq⟩ := exists_failsAt sink display hf hruns hfault hc.operated
  have hstep : q.step.1 = .error fault := hfails.fault_eq.symm.trans hfault
  -- the instruction in question has failed, so it has met an opcode that stands for nothing
  rcases Processor.step_of_full (hfull.trans_eq hq.suits.capacity_eq.symm) hq.settled with
    hok | ⟨opcode, hunknown⟩
  · rw [hok] at hstep
    cases hstep
  · have hcore := hfails.core_eq
    have hmemory := hfails.memory_eq
    rw [hunknown.step_eq] at hstep hcore hmemory
    cases hstep
    exact ⟨q, opcode, hfails.last_eq, hunknown, rfl, hcore, hmemory⟩

end

/-- The small geometry with a memory that has a byte for every address. -/
def smallFull : Settings := { geometry := .small }

/-- A console on a full memory that has booted a byte which is no opcode. -/
def smallUnknown : Console where
  settings := smallFull
  processor := { Processor.fresh smallFull with
    core := Core.initial smallFull.layout.entry
    bus := { (Bus.fresh smallFull).reset with
      memory := installed smallFull.layout smallFull.memorySize [0x02] } }
  faulted := false

theorem smallUnknown_booted :
  Reachable smallFull smallUnknown ∧ Booted smallFull [0x02] smallUnknown
  := by
  have hbuilt : Reachable smallFull ⟨smallFull, Processor.fresh smallFull, false⟩ := .build rfl
  have hs : smallFull.validate = .ok () := by decide +kernel
  have hfits : smallFull.layout.base.toNat + [(0x02 : UInt8)].length ≤ smallFull.memorySize := by
    decide +kernel
  have hbooted := (hbuilt.fits.boot_of_fits hs hfits).2
  have hreachable := hbuilt.boot [0x02]
  rw [hbuilt.fits.boot_eq_of_fits hs hfits] at hbooted hreachable
  exact ⟨hreachable, hbooted⟩

/-- A console that has booted this byte meets it in its first instruction. -/
theorem Booted.step_fails {σ : Type} (sink : Sink σ) (display : σ) {c : Console}
    (h : Booted smallFull [0x02] c) :
  (c.perform sink display .step).1 = .error (.unknownOpcode 0x02 0xF000)
  := by
  have hpc : (c.processor.grant .unlimited).core.pc = 0xF000 := h.pc_eq
  have hread : (c.processor.grant .unlimited).bus.memory.read 0xF000 = .ok 0x02 := by
    apply h.read_eq
    · decide +kernel
    · rw [Layout.IsVectorCell]
      decide +kernel
  have hunknown : (c.processor.grant .unlimited).Unknown 0x02 := by
    apply Processor.unknown_of_read
    · decide +kernel
    · rw [hpc]
      exact hread
    · rw [hpc]
      decide
  change c.step.1 = _
  rw [step_of_running h.faulted_eq, guard_fst, hunknown.step_eq, hpc]

theorem stopped_of_full_small :
  Reachable smallFull smallUnknown ∧ 0x10000 ≤ smallFull.memorySize
    ∧ smallUnknown.faulted = false
    ∧ (smallUnknown.perform .capture #[] .step).1 = .error (.unknownOpcode 0x02 0xF000)
    ∧ (smallUnknown.perform .capture #[] .step).2.1.processor.core.pc = 0xF001
  := by
  obtain ⟨hc, hbooted⟩ := smallUnknown_booted
  have hfull : 0x10000 ≤ smallFull.memorySize := le_rfl
  have hf : smallUnknown.faulted = false := hbooted.faulted_eq
  have hfault : (smallUnknown.perform .capture #[] .step).1
      = .error (.unknownOpcode 0x02 0xF000) := hbooted.step_fails _ _
  have hruns : Operation.step.Runs := trivial
  obtain ⟨q, opcode, -, -, hplace, hcore, -⟩ :=
    hc.stopped_of_full .capture #[] hfull hf hruns hfault
  have hpc : 0xF000 = q.core.pc := (Fault.unknownOpcode.inj hplace).2
  refine ⟨hc, hfull, hf, hfault, ?_⟩
  rw [hcore, ← hpc]
  rfl

end Console

end RasterConsole
