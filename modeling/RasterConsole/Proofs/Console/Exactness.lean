import RasterConsole.Proofs.Console.Reachable
import RasterConsole.Proofs.Processor.Course
import RasterConsole.Proofs.Video.Counts

/-!
# Running for a number of ticks

A call for a number of ticks that succeeds runs the engine for just so many, wherever the
beam is, whatever is owed and whatever waits; what the last instruction has overshot stays
owed.  A call that fails runs the engine for no more.  So a call for a frame brings the
beam back to where it was, one frame later, and the counts it leaves are those of the
frame that it has completed.
-/

namespace RasterConsole

attribute [local instance] Arithmetic.exact

namespace Console

/-! ### The course of a call -/

section

variable {s : Settings} {c : Console}

/-- The course of a call for a number of ticks. -/
theorem Sound.leadsTo_runTicks (h : c.Sound s) (hf : c.faulted = false) (ticks : Nat) :
  (c.processor.bus.grant (.ticks ticks)).LeadsTo (c.runTicks ticks).2.processor.bus
    ∧ ((c.runTicks ticks).1 = .ok () →
      (c.runTicks ticks).2.processor.bus.budget.isSpent = true)
  := by
  obtain ⟨result, q, -, hruns⟩ := h.exists_runs ticks
  rw [h.runTicks_of_runs hf hruns, guard_fst, processor_guard]
  exact ⟨hruns.leadsTo (h.processor.grant _), hruns.isSpent⟩

/-- The engine runs ticks that the call grants, and all of them if the call succeeds. -/
theorem Sound.runTicks_meetAll (h : c.Sound s) (hf : c.faulted = false) (ticks : Nat) :
  ∃ events, (c.runTicks ticks).2.raster = c.raster.meetAll events
    ∧ Raster.Event.ticks events ≤ ticks
    ∧ ((c.runTicks ticks).1 = .ok () → Raster.Event.ticks events = ticks
      ∧ (c.runTicks ticks).2.processor.bus.budget = .ticks 0)
  := by
  obtain ⟨⟨_, _, events, hraster, hcovers, hbudget, -⟩, hspent⟩ := h.leadsTo_runTicks hf ticks
  have hle : Raster.Event.ticks events ≤ ticks := of_decide_eq_true hcovers
  refine ⟨events, hraster, hle, ?_⟩
  intro hok
  have hzero : ticks - Raster.Event.ticks events = 0 := by
    rw [← beq_iff_eq]
    have hdone := hspent hok
    rw [hbudget] at hdone
    apply hdone
  constructor
  · omega
  · rw [hbudget]
    exact congrArg Budget.ticks hzero

/-- A call for a frame is a call for its ticks that empties the latch. -/
theorem raster_runFrame (hok : (c.runTicks c.settings.geometry.ticksPerFrame).1 = .ok ()) :
  c.runFrame.2.raster = (c.runTicks c.settings.geometry.ticksPerFrame).2.raster.takeReady.2
  := by
  unfold runFrame
  generalize c.runTicks c.settings.geometry.ticksPerFrame = outcome at hok ⊢
  obtain ⟨_, _⟩ := outcome
  obtain rfl := hok
  rfl

theorem raster_boot (c : Console) (program : List UInt8) :
  (c.boot program).2.raster = c.raster.reset
  := by
  unfold Console.boot raster
  dsimp only
  split
  · rw [processor_guard, Processor.bus_reset]
    rfl
  · rfl

theorem raster_reset (c : Console) :
  c.reset.2.raster = c.raster.reset
  := by
  unfold Console.reset raster
  rw [processor_guard, Processor.bus_reset]
  rfl

theorem Sound.step_meetAll (h : c.Sound s) :
  ∃ events, c.step.2.raster = c.raster.meetAll events
  := by
  cases hf : c.faulted with
  | true =>
      unfold Console.step
      rw [if_pos hf]
      exact ⟨[], rfl⟩
  | false =>
      have hled := Processor.leadsTo_step (h.processor.grant .unlimited).consistent
      obtain ⟨_, _, events, hraster, -⟩ := hled.trans (Bus.leadsTo_flush _)
      rw [step_of_running hf, raster, processor_guard]
      exact ⟨events, hraster⟩

theorem Sound.exists_meetAll_runTicks (h : c.Sound s) (ticks : Nat) :
  ∃ events, (c.runTicks ticks).2.raster = c.raster.meetAll events
  := by
  cases hf : c.faulted with
  | true =>
      unfold Console.runTicks
      rw [if_pos hf]
      exact ⟨[], rfl⟩
  | false =>
      obtain ⟨events, hraster, -⟩ := h.runTicks_meetAll hf ticks
      exact ⟨events, hraster⟩

/-- Of every console that comes up it can be told what has happened to its engine. -/
theorem Reachable.exists_hasMet (h : Reachable s c) :
  ∃ past, c.raster.HasMet past
  := by
  induction h with
  | build h =>
      unfold Console.build at h
      split at h
      · cases h
      · cases h
        exact ⟨[], Raster.hasMet_fresh _⟩
  | boot _ program _ =>
      rw [raster_boot]
      exact ⟨[], Raster.hasMet_fresh _⟩
  | reset _ _ =>
      rw [raster_reset]
      exact ⟨[], Raster.hasMet_fresh _⟩
  | step h ih =>
      obtain ⟨past, hpast⟩ := ih
      obtain ⟨events, hraster⟩ := h.sound.step_meetAll
      rw [hraster]
      exact ⟨past ++ events, hpast.meetAll events⟩
  | runTicks h ticks ih =>
      obtain ⟨past, hpast⟩ := ih
      obtain ⟨events, hraster⟩ := h.sound.exists_meetAll_runTicks ticks
      rw [hraster]
      exact ⟨past ++ events, hpast.meetAll events⟩
  | @runFrame c h ih =>
      obtain ⟨past, hpast⟩ := ih
      obtain ⟨events, hraster⟩ :=
        h.sound.exists_meetAll_runTicks c.settings.geometry.ticksPerFrame
      use past ++ events
      cases hresult : (c.runTicks c.settings.geometry.ticksPerFrame).1 with
      | ok _ =>
          rw [raster_runFrame hresult, hraster]
          exact (hpast.meetAll events).takeReady
      | error fault =>
          rw [runFrame_of_error hresult, hraster]
          exact hpast.meetAll events

/-! ### Exactness -/

/-- A call for a number of ticks has run the engine for so many and spent its budget if it
has succeeded, and for no more if it has failed. -/
structure RunsExactly [Arithmetic] (c : Console) (ticks : Nat)
    (outcome : Except Fault Unit × Console) : Prop where
  of_ok : outcome.1 = .ok () →
    outcome.2.raster.clock = c.raster.clock + ticks
      ∧ outcome.2.processor.bus.budget = .ticks 0
      ∧ (outcome.2.processor.bus.waiting ≠ [] → 0 < outcome.2.processor.bus.owed)
  of_error : ∀ fault, outcome.1 = .error fault →
    c.raster.clock ≤ outcome.2.raster.clock
      ∧ outcome.2.raster.clock ≤ c.raster.clock + ticks

/-- In the call that has led from `c` to `c'` the beam has gone once around the frame.  The
counts on show are those of the frame that `c` was in, from its first tick in the past of
`c` to its last one in the call, and nothing is left in the latch. -/
structure CompletesFrame [Arithmetic] (c c' : Console) : Prop where
  beam_eq : c'.raster.beam = c.raster.beam
  frames_eq : c'.raster.frames = c.raster.frames + 1
  published_eq : ∃ past events, c.raster.HasMet past
    ∧ c'.raster = (c.raster.meetAll events).takeReady.2
    ∧ Raster.Event.ticks events = c.raster.geometry.ticksPerFrame
    ∧ c'.raster.published = some (Raster.tally c.raster.geometry
      ((Timeline.ofEvents (past ++ events)).frame c.raster.geometry.ticksPerFrame
        c.raster.frames))
  ready_eq : c'.raster.ready = none

end

end Console

end RasterConsole
