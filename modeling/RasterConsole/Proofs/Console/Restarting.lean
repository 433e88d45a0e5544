import RasterConsole.Proofs.Console.Faults

/-!
# Starting over

A console that boots or is reset leaves everything behind that it has done: the position of
the beam, the picture and the counts, the ticks that it owes, the writes that wait, the
registers and the fault.  What it becomes is `Console.entered`, which says so field by
field: the settings and the memory decide it.

`Reachable.starts_over` compares two consoles with different histories.  After booting the
same program, or after being reset with the same memory, they are the same console, so no
operations that follow tell them apart (`Console.trace`).
-/

namespace RasterConsole

/-- Memories with the same bytes are the same. -/
theorem Memory.eq_of_toList_eq {m m' : Memory} (h : m.cells.toList = m'.cells.toList) :
  m = m'
  := by
  obtain ⟨cells⟩ := m
  exact congrArg Memory.mk (Array.toList_inj.mp h)

/-- Restarting leaves of a bus what was there when it was built, and its memory. -/
theorem Bus.Suits.restart_eq [Arithmetic] {s : Settings} {b : Bus} (h : b.Suits s)
    (memory : Memory) :
  { b.restart with memory := memory } = { Bus.fresh s with memory := memory }
  := by
  simp only [Bus.restart, Bus.fresh, Raster.reset, h.geometry_eq, h.ticksPerCycle_eq]

namespace Console

/-- A console right after it has entered the program in a memory. -/
def entered [Arithmetic] (s : Settings) (memory : Memory) (entry : UInt16) : Console where
  settings := s
  processor := ⟨Core.initial entry, s.layout, { Bus.fresh s with memory := memory }⟩
  faulted := false

section

variable {σ : Type} (sink : Sink σ)

/-- What comes of operations in a row: of each its result, and the console and the display
that it leaves. -/
def trace [Arithmetic] (c : Console) (display : σ) :
    List Operation → List (Except Fault Unit × Console × σ)
  | [] => []
  | operation :: rest =>
    let outcome := c.perform sink display operation
    outcome :: outcome.2.1.trace outcome.2.2 rest

end

/-- Nothing that is asked of the consoles after an operation tells them apart. -/
def AlikeFrom [Arithmetic] (operation : Operation) (c c' : Console) : Prop :=
  ∀ {σ : Type} (sink : Sink σ) (display : σ) (rest : List Operation),
    c.trace sink display (operation :: rest) = c'.trace sink display (operation :: rest)

section

variable [Arithmetic] {s : Settings} {c c' : Console}

/-! ### What booting and resetting come to -/

/-- Booting comes to the same for all consoles with the same settings. -/
theorem Reachable.boot_eq (hc : Reachable s c) {program : List UInt8}
    (hfits : s.layout.base.toNat + program.length ≤ s.memorySize) :
  c.boot program
    = (.ok (), entered s (installed s.layout s.memorySize program) s.layout.entry)
  := by
  have hbus := hc.suits.restart_eq (installed s.layout s.memorySize program)
  rw [hc.fits.boot_eq_of_fits hc.valid hfits, entered, ← hbus, ← hc.layout_eq]
  rfl

/-- A program that boots fits into memory. -/
theorem Reachable.fits_of_boot_ok (hc : Reachable s c) {program : List UInt8}
    (hok : (c.boot program).1 = .ok ()) :
  s.layout.base.toNat + program.length ≤ s.memorySize
  := by
  by_contra hoverflow
  rw [(hc.fits.boot_of_overflow (Nat.lt_of_not_le hoverflow)).1] at hok
  cases hok

/-- Resetting enters the memory of the console at the word in the reset vector. -/
theorem Reachable.reset_eq (hc : Reachable s c) :
  ∃ entry, c.processor.bus.memory.readWord s.layout.resetVector.toNat = .ok entry
    ∧ c.reset = (.ok (), entered s c.processor.bus.memory entry)
  := by
  have hfits : ({ c.processor with bus := c.processor.bus.restart } : Processor).Fits s :=
    ⟨hc.layout_eq, hc.fits.processor.capacity_eq⟩
  obtain ⟨entry, hentry, hreset⟩ := hfits.reset_eq hc.valid
  refine ⟨entry, hentry, ?_⟩
  rw [Console.reset, hreset, entered, ← hc.suits.restart_eq,
    ← hc.layout_eq, ← hc.settings_eq]
  rfl

/-- Resetting keeps the memory. -/
theorem Reachable.memory_reset (hc : Reachable s c) :
  c.reset.2.processor.bus.memory = c.processor.bus.memory
  := by
  obtain ⟨entry, -, hreset⟩ := hc.reset_eq
  rw [hreset]
  rfl

/-- What resetting comes to depends on the memory alone. -/
theorem Reachable.reset_congr (hc : Reachable s c) (hc' : Reachable s c')
    (hmemory : c.processor.bus.memory = c'.processor.bus.memory) :
  c.reset = c'.reset
  := by
  obtain ⟨entry, hentry, hreset⟩ := hc.reset_eq
  obtain ⟨entry', hentry', hreset'⟩ := hc'.reset_eq
  rw [← hmemory, hentry] at hentry'
  cases hentry'
  rw [hreset, hreset', hmemory]

/-! ### What follows -/

/-- Consoles of which an operation makes the same are alike from there on. -/
theorem alikeFrom_of_perform_eq {operation : Operation}
    (h : ∀ {σ : Type} (sink : Sink σ) (display : σ),
      c.perform sink display operation = c'.perform sink display operation) :
  AlikeFrom operation c c'
  := by
  intro σ sink display rest
  simp only [trace, h]

theorem alikeFrom_boot {program : List UInt8} (h : c.boot program = c'.boot program) :
  AlikeFrom (.boot program) c c'
  := by
  apply alikeFrom_of_perform_eq
  intro σ sink display
  rw [perform, perform, h]

theorem alikeFrom_reset (h : c.reset = c'.reset) :
  AlikeFrom .reset c c'
  := by
  apply alikeFrom_of_perform_eq
  intro σ sink display
  rw [perform, perform, h]

/-- A console that boots or is reset keeps nothing of what it has done.  Take any two
consoles that come up under the same settings, in the middle of a frame or of an instruction,
faulted or not.  If a program boots on one of them, then it boots on the other one and on a
console that has just been built, and all three become the same.  If their memories are equal,
then a reset makes them the same; it keeps the memory, and a second one changes nothing. -/
theorem Reachable.starts_over (hc : Reachable s c) (hc' : Reachable s c') :
  (∃ new, Console.build s = .ok new ∧ ∀ program, (c.boot program).1 = .ok () →
      c.boot program = c'.boot program ∧ c.boot program = new.boot program
        ∧ AlikeFrom (.boot program) c c' ∧ AlikeFrom (.boot program) c new)
    ∧ (c.processor.bus.memory = c'.processor.bus.memory →
      c.reset = c'.reset ∧ AlikeFrom .reset c c')
    ∧ c.reset.2.reset = c.reset
    ∧ c.reset.2.processor.bus.memory = c.processor.bus.memory
  := by
  have hnew : Console.build s = .ok ⟨s, Processor.fresh s, false⟩ := by
    rw [Console.build, hc.valid]
  refine ⟨⟨_, hnew, ?_⟩, ?_, ?_, hc.memory_reset⟩
  · intro program hok
    have hfits := hc.fits_of_boot_ok hok
    have hsame : c.boot program = c'.boot program := by
      rw [hc.boot_eq hfits, hc'.boot_eq hfits]
    have hsameNew : c.boot program = Console.boot ⟨s, Processor.fresh s, false⟩ program := by
      rw [hc.boot_eq hfits, (Reachable.build hnew).boot_eq hfits]
    exact ⟨hsame, hsameNew, alikeFrom_boot hsame, alikeFrom_boot hsameNew⟩
  · intro hmemory
    have hsame := hc.reset_congr hc' hmemory
    exact ⟨hsame, alikeFrom_reset hsame⟩
  · apply hc.reset.reset_congr hc hc.memory_reset

end

/-- One small console is stopped in the middle of its store, with a write that waits, and
the other one has come to its fault. -/
theorem starts_over_small :
  Reachable .small (small.runTicks 14).2 ∧ Reachable .small (small.runTicks 60).2
    ∧ (small.runTicks 14).2.processor.bus.owed = 1
    ∧ (small.runTicks 14).2.processor.bus.waiting = [⟨0x09, 0x44⟩]
    ∧ (small.runTicks 60).2.faulted = true
    ∧ ((small.runTicks 14).2.boot [0xEA]).1 = .ok ()
    ∧ (small.runTicks 14).2.boot [0xEA] = (small.runTicks 60).2.boot [0xEA]
    ∧ (small.runTicks 14).2.reset = (small.runTicks 60).2.reset
  := by
  have hwaiting := small_reachable.runTicks 14
  have hfaulted := small_reachable.runTicks 60
  obtain ⟨⟨new, -, hboot⟩, hreset, -, -⟩ := Reachable.starts_over hwaiting hfaulted
  have hok : ((small.runTicks 14).2.boot [0xEA]).1 = .ok () := by decide +kernel
  have hmemory : (small.runTicks 14).2.processor.bus.memory
      = (small.runTicks 60).2.processor.bus.memory := Memory.eq_of_toList_eq (by decide +kernel)
  refine ⟨hwaiting, hfaulted, by decide +kernel, by decide +kernel, by decide +kernel, hok, ?_, ?_⟩
  · exact (hboot [0xEA] hok).1
  · exact (hreset hmemory).1

end Console

end RasterConsole
