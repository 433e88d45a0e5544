import RasterConsole.Proofs.Console.Reachable
import RasterConsole.Proofs.Processor.Overdue

/-!
# Single steps after a cut

A run that was cut leaves ticks owed and register writes waiting.  A call for just the
owed ticks settles that.  A single step does not wait for it to be settled: it charges the
next instruction first, and the waiting writes are made only when the instruction turns to
the register window or ends.  So they come late by the ticks that the instruction takes
until then, and the engine paints and counts those ticks under the old registers.

Nothing else comes out differently (`Sound.step_alike`), and `step_eq_settle_step_iff`
says when the engine does not either.
-/

namespace RasterConsole

namespace Console

/-- The console after a call for just the ticks that it owes. -/
def settle [Arithmetic] (c : Console) : Console := (c.runTicks c.processor.bus.owed).2

/-- The ticks that the next instruction takes. -/
def span [Arithmetic] (c : Console) : Nat := c.settle.step.2.raster.clock - c.settle.raster.clock

/-- The engine when the waiting writes have been made, a number of ticks after those were
paid behind which they wait. -/
def landing [Arithmetic] (c : Console) (delay : Nat) : Raster :=
  c.processor.bus.waiting.foldl Raster.write (c.raster.advance (c.processor.bus.owed + delay))

/-- The console with another engine. -/
def withRaster (c : Console) (raster : Raster) : Console :=
  { c with processor := c.processor.withRaster raster }

section

attribute [local instance] Arithmetic.exact

variable {s : Settings} {c : Console}

/-- Settling pays what is owed, makes the waiting writes, and runs no instruction. -/
theorem Sound.settle_eq (hc : c.Sound s) (hf : c.faulted = false) :
  c.runTicks c.processor.bus.owed
    = (.ok (), ⟨s, (c.processor.grant (.ticks c.processor.bus.owed)).flush, false⟩)
  := by
  have hspent : (c.processor.grant (.ticks c.processor.bus.owed)).flush.bus.budget.isSpent
      = true :=
    congrArg (fun b : Bus => b.budget.isSpent) (Bus.flush_grant_owed c.processor.bus)
  rw [hc.runTicks_of_runs hf (.spent hspent)]
  rfl

theorem landing_alike (c : Console) (delay : Nat) :
  ((c.landing 0).advance delay).Alike (c.landing delay)
  := Raster.alike_foldl_write c.raster c.processor.bus.waiting c.processor.bus.owed delay

/-- The processor of the console when it is settled, without a limit on what it pays. -/
def settled [Arithmetic] (c : Console) : Processor :=
  { c.processor with
    bus := { c.processor.bus with
      raster := c.landing 0
      owed := 0
      budget := .unlimited
      waiting := [] } }

theorem Sound.step_of_settle (hc : c.Sound s) (hf : c.faulted = false) :
  c.settle.step = guard s (c.settled.step.1, c.settled.step.2.flush.grant (.ticks 0))
  := by
  have hsettled : (c.processor.grant (.ticks c.processor.bus.owed)).flush.grant .unlimited
      = c.settled :=
    congrArg (fun b => (Processor.mk c.processor.core c.processor.layout b).grant .unlimited)
      (Bus.flush_grant_owed c.processor.bus)
  rw [settle, hc.settle_eq hf, step_of_running rfl, hsettled]

/-- Before the old debt is paid, the processor has it in front of what it will owe. -/
theorem grant_eq_overdue (c : Console) :
  c.processor.grant .unlimited
    = c.settled.overdue c.raster c.processor.bus.owed c.processor.bus.waiting
  := rfl

/-- A single step is a step of the settled console, but for the engine: the instruction's
own writes come at the same tick, and those that waited come late. -/
theorem Sound.step_settle (hc : c.Sound s) (hf : c.faulted = false) :
  c.step.1 = c.settle.step.1
    ∧ ∃ (own : List RegisterWrite) (ticks : Nat),
      c.settle.step.2.raster
        = own.foldl Raster.write ((c.landing 0).advance (c.processor.lead + ticks))
      ∧ c.step.2
        = c.settle.step.2.withRaster
          (own.foldl Raster.write ((c.landing c.processor.lead).advance ticks))
  := by
  obtain ⟨hresult, own, ticks, hpunctual, hlate⟩ :=
    Processor.step_overdue (p := c.settled) rfl rfl rfl (fun ticks => c.landing_alike ticks)
  rw [← grant_eq_overdue] at hresult hlate
  rw [hc.step_of_settle hf, step_of_running hf, hc.settings_eq, hresult, hlate]
  cases c.settled.step.1 with
  | ok _ => exact ⟨rfl, own, ticks, hpunctual, rfl⟩
  | error _ => exact ⟨rfl, own, ticks, hpunctual, rfl⟩

theorem Sound.raster_settle (hc : c.Sound s) (hf : c.faulted = false) :
  c.settle.raster = c.landing 0
  := by
  rw [settle, hc.settle_eq hf]
  apply congrArg Bus.raster (Bus.flush_grant_owed c.processor.bus)

/-- An instruction takes its ticks before it turns to the register window, and some more. -/
theorem Sound.span_eq (hc : c.Sound s) (hf : c.faulted = false) {own : List RegisterWrite}
    {ticks : Nat}
    (h : c.settle.step.2.raster
      = own.foldl Raster.write ((c.landing 0).advance (c.processor.lead + ticks))) :
  c.span = c.processor.lead + ticks
  := by
  have hframe : c.settle.raster.OnFrame := (hc.runTicks _).processor.consistent.onFrame
  have hclock : c.settle.step.2.raster.clock
      = c.settle.raster.clock + (c.processor.lead + ticks) := by
    rw [h, (Raster.inTime_foldl_write _ own).clock_eq, ← hc.raster_settle hf,
      Raster.clock_advance hframe]
  rw [span, hclock, Nat.add_sub_cancel_left]

theorem withRaster_eq_iff (c : Console) (raster : Raster) :
  c.withRaster raster = c ↔ raster = c.raster
  := by
  constructor
  · intro h
    apply congrArg Console.raster h
  · intro h
    rw [h]
    rfl

/-- A single step leaves another engine than one of the settled console at most in what
has been painted and counted. -/
theorem Sound.step_alike (hc : c.Sound s) (hf : c.faulted = false) :
  c.step.2 = c.settle.step.2.withRaster c.step.2.raster
    ∧ c.settle.step.2.raster.Alike c.step.2.raster
  := by
  obtain ⟨-, own, ticks, hpunctual, hlate⟩ := hc.step_settle hf
  rw [hlate]
  constructor
  · rfl
  · rw [hpunctual, Raster.advance_add]
    apply ((c.landing_alike c.processor.lead).advance ticks).foldl_write own

/-- Whether a single step leaves the same console shows before the instruction makes writes
of its own. -/
theorem Sound.step_eq_iff (hc : c.Sound s) (hf : c.faulted = false) :
  c.processor.lead ≤ c.span
    ∧ (c.step = c.settle.step ↔
      (c.landing c.processor.lead).advance (c.span - c.processor.lead)
        = (c.landing 0).advance c.span)
  := by
  obtain ⟨hresult, own, ticks, hpunctual, hlate⟩ := hc.step_settle hf
  have halike : ((c.landing 0).advance (c.processor.lead + ticks)).Alike
      ((c.landing c.processor.lead).advance ticks) := by
    rw [Raster.advance_add]
    apply (c.landing_alike c.processor.lead).advance ticks
  rw [hc.span_eq hf hpunctual, Nat.add_sub_cancel_left]
  constructor
  · apply Nat.le_add_right
  · calc c.step = c.settle.step
        ↔ c.step.2 = c.settle.step.2 := by rw [Prod.ext_iff, hresult, eq_self, true_and]
      _ ↔ own.foldl Raster.write ((c.landing c.processor.lead).advance ticks)
          = c.settle.step.2.raster := by rw [hlate, withRaster_eq_iff]
      _ ↔ (c.landing c.processor.lead).advance ticks
          = (c.landing 0).advance (c.processor.lead + ticks) := by
          rw [hpunctual, halike.foldl_write_inj]

/-- A single step leaves the same console if no write waits. -/
theorem Sound.step_eq_of_waiting_nil (hc : c.Sound s) (hf : c.faulted = false)
    (hw : c.processor.bus.waiting = []) :
  c.step = c.settle.step
  := by
  obtain ⟨hle, hiff⟩ := hc.step_eq_iff hf
  have hlanding : ∀ delay, c.landing delay
      = (c.raster.advance c.processor.bus.owed).advance delay := by
    intro delay
    rw [landing, hw, List.foldl_nil, Raster.advance_add]
  rw [hiff, hlanding, hlanding, ← Raster.advance_add, Raster.advance_zero,
    Nat.add_sub_cancel' hle]

/-- A single step leaves the same console if the instruction turns to the register window
at once, or never gets as far as taking any time. -/
theorem Sound.step_eq_of_lead_eq_zero (hc : c.Sound s) (hf : c.faulted = false)
    (hlead : c.processor.lead = 0) :
  c.step = c.settle.step
  := by
  rw [(hc.step_eq_iff hf).2, hlead, Nat.sub_zero]

/-- A single step has the same result as one of the settled console, and leaves the same
console but for what the engine has painted and counted.  It leaves the same console
altogether if, and only if, it makes no difference to the engine that the waiting writes
come late by the ticks that the instruction takes before it first turns to the register
window. -/
theorem step_eq_settle_step_iff (hc : Reachable s c) (hf : c.faulted = false) :
  c.step.1 = c.settle.step.1
    ∧ c.step.2 = c.settle.step.2.withRaster c.step.2.raster
    ∧ c.settle.step.2.raster.Alike c.step.2.raster
    ∧ c.processor.lead ≤ c.span
    ∧ (c.step = c.settle.step ↔
      (c.landing c.processor.lead).advance (c.span - c.processor.lead)
        = (c.landing 0).advance c.span)
  := by
  obtain ⟨hresult, -⟩ := hc.sound.step_settle hf
  obtain ⟨hraster, halike⟩ := hc.sound.step_alike hf
  exact ⟨hresult, hraster, halike, hc.sound.step_eq_iff hf⟩

/-- The small console is cut between the cycles of its store and the write. -/
def smallCut [Arithmetic] : Console := (small.runTicks 10).2

theorem step_eq_settle_step_iff_smallCut :
  Reachable .small smallCut ∧ smallCut.faulted = false
    ∧ (smallCut.step = smallCut.settle.step ↔
      (smallCut.landing smallCut.processor.lead).advance
          (smallCut.span - smallCut.processor.lead)
        = (smallCut.landing 0).advance smallCut.span)
  := by
  have hc : Reachable .small smallCut := small_reachable.runTicks 10
  have hf : smallCut.faulted = false := by decide +kernel
  obtain ⟨-, -, -, -, hiff⟩ := step_eq_settle_step_iff hc hf
  exact ⟨hc, hf, hiff⟩

end

/-- A single step of the cut console paints the rest of the line in the old color. -/
theorem exists_step_ne_settle_step :
  ¬ ∀ (s : Settings) (c : Console), Reachable s c → c.faulted = false →
    c.step = (c.runTicks c.processor.bus.owed).2.step
  := by
  intro h
  have hf : smallCut.faulted = false := by decide +kernel
  have hstep := h .small smallCut (small_reachable.runTicks 10) hf
  have hpixels : smallCut.step.2.picture.pixels
      ≠ (smallCut.runTicks smallCut.processor.bus.owed).2.step.2.picture.pixels := by
    decide +kernel
  apply hpixels
  rw [hstep]

end Console

end RasterConsole
