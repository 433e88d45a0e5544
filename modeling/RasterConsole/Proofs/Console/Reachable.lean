import RasterConsole.Console
import RasterConsole.Proofs.Memory.Contents
import RasterConsole.Proofs.Processor.Starts

/-!
# Consoles in use

A console is `Reachable` if it comes up in some use of a console that was built from
given settings: after any operations in any order, whether or not they have failed.  It holds on
to its settings, and what a console preserves in all that it does with its processor holds of the
processor of every reachable console (`Lasting.of_reachable`).

Without a limit to its numbers every reachable console is `Sound`: its processor is sound.  On a
sound console a call for a number of ticks comes to an end, and to the same as the loop without a
limit (`runTicks_of_runs`).
-/

namespace RasterConsole

namespace Console

theorem capacity_install {layout : Layout} {memory memory' : Memory} {program : List UInt8}
    (h : install layout memory program = .ok memory') :
  memory'.capacity = memory.capacity
  := by
  unfold install at h
  obtain ⟨loaded, hload, h⟩ := bind_eq_ok_iff.mp h
  obtain ⟨vectored, hreset, h⟩ := bind_eq_ok_iff.mp h
  calc memory'.capacity
      = vectored.capacity := Memory.capacity_writeWord h
    _ = loaded.capacity := Memory.capacity_writeWord hreset
    _ = memory.capacity := Memory.capacity_load hload

/-! ### Operations of the processor -/

section

variable (s : Settings) (outcome : Except Fault Unit × Processor)

theorem guard_fst :
  (guard s outcome).1 = outcome.1
  := by
  obtain ⟨_ | _, _⟩ := outcome
  · rfl
  · rfl

theorem processor_guard :
  (guard s outcome).2.processor = outcome.2
  := by
  obtain ⟨_ | _, _⟩ := outcome
  · rfl
  · rfl

theorem settings_guard :
  (guard s outcome).2.settings = s
  := by
  obtain ⟨_ | _, _⟩ := outcome
  · rfl
  · rfl

end

section

variable [Arithmetic] {c : Console}

theorem step_of_running (hf : c.faulted = false) :
  c.step = guard c.settings
    ((c.processor.grant .unlimited).step.1,
      (c.processor.grant .unlimited).step.2.flush.grant (.ticks 0))
  := by
  unfold Console.step
  rw [if_neg (ne_true_of_eq_false hf)]

theorem processor_runTicks (hf : c.faulted = false) (ticks : Nat) :
  (c.runTicks ticks).2.processor
    = ((c.processor.grant (.ticks ticks)).runWithin (patience ticks)).2
  := by
  unfold Console.runTicks
  rw [if_neg (ne_true_of_eq_false hf)]
  exact processor_guard _ _

/-- A call for a frame succeeds and fails like a call for its ticks. -/
theorem runFrame_eq_runTicks (c : Console) :
  c.runFrame.1 = (c.runTicks c.settings.geometry.ticksPerFrame).1
    ∧ c.runFrame.2.faulted = (c.runTicks c.settings.geometry.ticksPerFrame).2.faulted
  := by
  unfold runFrame
  generalize c.runTicks c.settings.geometry.ticksPerFrame = outcome
  obtain ⟨_ | _, _⟩ := outcome
  · exact ⟨rfl, rfl⟩
  · exact ⟨rfl, rfl⟩

theorem runFrame_of_error {fault : Fault}
    (hfault : (c.runTicks c.settings.geometry.ticksPerFrame).1 = .error fault) :
  c.runFrame = (.error fault, (c.runTicks c.settings.geometry.ticksPerFrame).2)
  := by
  unfold runFrame
  generalize c.runTicks c.settings.geometry.ticksPerFrame = outcome at hfault ⊢
  obtain ⟨_, _⟩ := outcome
  obtain rfl := hfault
  rfl

/-- What holds of the processor after a call for the ticks of a frame, and whether or not the
latch is emptied, holds after a call for a frame. -/
theorem runFrame_preserves {P : Processor → Prop}
    (hlatch : ∀ p, P p → P { p with bus := { p.bus with raster := p.bus.raster.takeReady.2 } })
    (h : P (c.runTicks c.settings.geometry.ticksPerFrame).2.processor) :
  P c.runFrame.2.processor
  := by
  unfold Console.runFrame
  generalize c.runTicks c.settings.geometry.ticksPerFrame = outcome at h ⊢
  obtain ⟨_ | _, _⟩ := outcome
  · exact h
  · exact hlatch _ h

end

/-! ### Reachable consoles -/

/-- The consoles that come up in the use of a console with given settings. -/
inductive Reachable [Arithmetic] (s : Settings) : Console → Prop
  | build {c : Console} (h : build s = .ok c) : Reachable s c
  | boot {c : Console} (h : Reachable s c) (program : List UInt8) :
    Reachable s (c.boot program).2
  | reset {c : Console} (h : Reachable s c) : Reachable s c.reset.2
  | step {c : Console} (h : Reachable s c) : Reachable s c.step.2
  | runTicks {c : Console} (h : Reachable s c) (ticks : Nat) : Reachable s (c.runTicks ticks).2
  | runFrame {c : Console} (h : Reachable s c) : Reachable s c.runFrame.2

/-- The console that has booted a program. -/
def booted [Arithmetic] (s : Settings) (program : List UInt8) : Console :=
  (boot ⟨s, Processor.fresh s, false⟩ program).2

/-- A console that has booted a program.  The program puts a color into the register of the
background in its first five cycles. -/
def small [Arithmetic] : Console :=
  booted .small [0xA9, 0x44, 0x85, 0x09, 0xEA, 0xEA, 0xEA, 0xEA]

/-- What holds of the processor of a console that has just been built, and what a console
preserves in all that it does with its processor. -/
structure Lasting [Arithmetic] (s : Settings) (P : Processor → Prop) : Prop where
  fresh : P (Processor.fresh s)
  grant : ∀ {p : Processor} (budget : Budget), P p → P (p.grant budget)
  flush : ∀ {p : Processor}, P p → P p.flush
  step : ∀ {p : Processor}, P p → P p.step.2
  reset : ∀ {p : Processor}, P p → P p.reset.2
  restart : ∀ {p : Processor} {memory : Memory}, memory.capacity = p.bus.memory.capacity →
    P p → P { p with bus := { p.bus.restart with memory := memory } }
  takeReady : ∀ {p : Processor}, P p →
    P { p with bus := { p.bus with raster := p.bus.raster.takeReady.2 } }

section

variable [Arithmetic] {s : Settings} {c : Console}

theorem build_of_validate (hs : s.validate = .ok ()) :
  Console.build s = .ok ⟨s, Processor.fresh s, false⟩
  := by
  unfold Console.build
  rw [hs]

theorem reachable_booted (hs : s.validate = .ok ()) (program : List UInt8) :
  Reachable s (booted s program)
  := (Reachable.build (build_of_validate hs)).boot program

theorem small_reachable :
  Reachable .small small
  := reachable_booted rfl _

theorem settings_runTicks (c : Console) (ticks : Nat) :
  (c.runTicks ticks).2.settings = c.settings
  := by
  unfold Console.runTicks
  split_ifs
  · rfl
  · apply settings_guard

/-- A console holds on to the settings that it was built from. -/
theorem Reachable.settings_eq (hc : Reachable s c) :
  c.settings = s
  := by
  induction hc with
  | build h =>
      unfold Console.build at h
      split at h
      · cases h
      · cases h
        rfl
  | boot _ program ih =>
      unfold Console.boot
      dsimp only
      split
      · rw [settings_guard, ih]
      · exact ih
  | reset _ ih => rw [Console.reset, settings_guard, ih]
  | @step c _ ih =>
      unfold Console.step
      split_ifs
      · exact ih
      · exact (settings_guard _ _).trans ih
  | runTicks _ ticks ih => rw [settings_runTicks, ih]
  | @runFrame c _ ih =>
      have hticks := settings_runTicks c c.settings.geometry.ticksPerFrame
      rw [ih] at hticks
      unfold Console.runFrame
      rw [ih]
      generalize c.runTicks s.geometry.ticksPerFrame = outcome at hticks ⊢
      obtain ⟨_ | _, _⟩ := outcome
      · exact hticks
      · exact hticks

/-- Only settings that are accepted have consoles. -/
theorem Reachable.valid (hc : Reachable s c) :
  s.validate = .ok ()
  := by
  induction hc with
  | build h =>
      unfold Console.build at h
      split at h
      · cases h
      · assumption
  | boot _ _ ih | reset _ ih | step _ ih | runTicks _ _ ih | runFrame _ ih => exact ih

theorem Lasting.runTicks {P : Processor → Prop} (h : Lasting s P) (hc : P c.processor)
    (ticks : Nat) :
  P (c.runTicks ticks).2.processor
  := by
  cases hf : c.faulted with
  | true =>
      unfold Console.runTicks
      rw [if_pos hf]
      exact hc
  | false =>
      rw [processor_runTicks hf]
      exact Processor.runWithin_preserves (fun _ hp => h.flush hp) (fun _ hp => h.step hp)
        (h.grant (.ticks ticks) hc) (patience ticks)

/-- What lasts holds of the processor of every console that comes up. -/
theorem Lasting.of_reachable {P : Processor → Prop} (h : Lasting s P) (hc : Reachable s c) :
  P c.processor
  := by
  induction hc with
  | build hbuild =>
      unfold Console.build at hbuild
      split at hbuild
      · cases hbuild
      · cases hbuild
        exact h.fresh
  | @boot c _ program ih =>
      have hclear : c.processor.bus.memory.clear.capacity = c.processor.bus.memory.capacity :=
        Memory.capacity_zeroed _
      unfold Console.boot
      dsimp only
      split
      · rename_i memory hinstall
        rw [processor_guard]
        exact h.reset (h.restart ((capacity_install hinstall).trans hclear) ih)
      · exact h.restart hclear ih
  | reset _ ih =>
      rw [Console.reset, processor_guard]
      exact h.reset (h.restart rfl ih)
  | @step c _ ih =>
      cases hf : c.faulted with
      | true =>
          unfold Console.step
          rw [if_pos hf]
          exact ih
      | false =>
          rw [step_of_running hf, processor_guard]
          exact h.grant (.ticks 0) (h.flush (h.step (h.grant .unlimited ih)))
  | runTicks _ ticks ih => exact h.runTicks ih ticks
  | runFrame _ ih => exact runFrame_preserves (fun _ => h.takeReady) (h.runTicks ih _)

/-- Nothing that a console does changes its vectors, or what its bus is built of. -/
theorem lasting_suits (s : Settings) :
  Lasting s fun p => p.layout = s.layout ∧ p.bus.Suits s
  where
  fresh := ⟨rfl, Bus.suits_fresh s⟩
  grant budget h := ⟨h.1, h.2.grant budget⟩
  flush h := ⟨h.1, h.2.flush⟩
  step h := ⟨h.1, Processor.suits_step h.2⟩
  reset {p} h := by
    rw [Processor.layout_reset, Processor.bus_reset]
    exact h
  restart hmemory h :=
    ⟨h.1, h.2.geometry_eq, h.2.ticksPerCycle_eq, hmemory.trans h.2.capacity_eq⟩
  takeReady h := ⟨h.1, h.2.geometry_eq, h.2.ticksPerCycle_eq, h.2.capacity_eq⟩

theorem Reachable.layout_eq (hc : Reachable s c) :
  c.processor.layout = s.layout
  := ((lasting_suits s).of_reachable hc).1

theorem Reachable.suits (hc : Reachable s c) :
  c.processor.bus.Suits s
  := ((lasting_suits s).of_reachable hc).2

end

/-! ### Sound consoles -/

/-- The console holds on to settings from which a console can be built, and its processor
is sound. -/
structure Sound [Arithmetic] (s : Settings) (c : Console) : Prop where
  settings_eq : c.settings = s
  valid : s.validate = .ok ()
  processor : c.processor.Sound s

section

attribute [local instance] Arithmetic.exact

variable {s : Settings} {c : Console}

theorem sound_build (h : Console.build s = .ok c) :
  c.Sound s
  := by
  unfold Console.build at h
  split at h
  · cases h
  · rename_i hvalid
    cases h
    constructor
    · rfl
    · apply hvalid
    · exact ⟨Bus.consistent_fresh (Settings.geometry_valid hvalid), Bus.suits_fresh s⟩

/-- An operation of the processor leaves a sound console if it leaves a sound processor. -/
theorem sound_guard (hs : s.validate = .ok ()) {outcome : Except Fault Unit × Processor}
    (hp : outcome.2.Sound s) :
  (Console.guard s outcome).2.Sound s
  := by
  obtain ⟨_ | _, q⟩ := outcome
  · exact ⟨rfl, hs, hp⟩
  · exact ⟨rfl, hs, hp⟩

/-- A bus with its engine back at the start, and with memory of the right size. -/
theorem Sound.restart (h : c.Sound s) {memory : Memory} (hm : memory.capacity = s.memorySize)
    (p : Processor) (hp : p.bus = { c.processor.bus.restart with memory := memory }) :
  p.Sound s
  := by
  have hgeometry := h.processor.suits.geometry_eq
  constructor
  · constructor
    · rw [hp]
      apply Raster.onFrame_fresh
      rw [hgeometry]
      apply Settings.geometry_valid h.valid
    · rw [hp]
      exact fun _ => rfl
  · constructor
    · rw [hp]
      apply hgeometry
    · rw [hp]
      apply h.processor.suits.ticksPerCycle_eq
    · rw [hp]
      apply hm

theorem Sound.reset (h : c.Sound s) :
  c.reset.2.Sound s
  := by
  unfold Console.reset
  rw [h.settings_eq]
  apply sound_guard h.valid
  apply h.restart h.processor.suits.capacity_eq
  rw [Processor.bus_reset]
  rfl

theorem Sound.boot (h : c.Sound s) (program : List UInt8) :
  (c.boot program).2.Sound s
  := by
  have hclear : c.processor.bus.memory.clear.capacity = s.memorySize := by
    rw [Memory.clear, Memory.capacity_zeroed, h.processor.suits.capacity_eq]
  unfold Console.boot
  dsimp only
  split
  · rename_i memory hinstall
    rw [h.settings_eq]
    apply sound_guard h.valid
    apply h.restart ((capacity_install hinstall).trans hclear)
    rw [Processor.bus_reset]
    rfl
  · constructor
    · apply h.settings_eq
    · apply h.valid
    · apply h.restart hclear
      rfl

/-! ### Running a sound console -/

theorem Sound.step (h : c.Sound s) :
  c.step.2.Sound s
  := by
  cases hf : c.faulted with
  | true =>
      unfold Console.step
      rw [if_pos hf]
      apply h
  | false =>
      rw [step_of_running hf, h.settings_eq]
      apply sound_guard h.valid
      apply (h.processor.grant .unlimited).step.flush.grant _

/-- Running a number of ticks comes to an end. -/
theorem Sound.exists_runs (h : c.Sound s) (ticks : Nat) :
  ∃ result q, (c.processor.grant (.ticks ticks)).runWithin (patience ticks) = (some result, q)
    ∧ (c.processor.grant (.ticks ticks)).Runs result q
  := by
  have hbudget : (c.processor.grant (.ticks ticks)).flush.bus.budget
      = .ticks (ticks - c.processor.bus.owed) := Bus.budget_flush (b := Bus.grant _ _) rfl
  have hlimit : ticks - c.processor.bus.owed ≤ patience ticks * (2 * s.ticksPerCycle) := by
    have hpos := Settings.ticksPerCycle_pos h.valid
    calc ticks - c.processor.bus.owed
        ≤ patience ticks * 1 := by
          rw [Nat.mul_one]
          exact (Nat.sub_le _ _).trans (le_max_left _ _)
      _ ≤ patience ticks * (2 * s.ticksPerCycle) := Nat.mul_le_mul_left _ (by omega)
  obtain ⟨result, q, hrun⟩ := Processor.runWithin_isSome (h.processor.grant _) hbudget hlimit
  exact ⟨result, q, hrun, Processor.runs_of_runWithin hrun⟩

/-- Running a number of ticks is the loop of the console on a budget of so many ticks. -/
theorem Sound.runTicks_of_runs (h : c.Sound s) (hf : c.faulted = false) {ticks : Nat}
    {result : Except Fault Unit} {q : Processor}
    (hruns : (c.processor.grant (.ticks ticks)).Runs result q) :
  c.runTicks ticks = Console.guard s (result, q)
  := by
  obtain ⟨result', q', hrun, hruns'⟩ := h.exists_runs ticks
  obtain ⟨rfl, rfl⟩ := hruns.unique hruns'
  unfold Console.runTicks
  rw [if_neg (ne_true_of_eq_false hf)]
  dsimp only
  rw [hrun, h.settings_eq]
  rfl

theorem Sound.runTicks (h : c.Sound s) (ticks : Nat) :
  (c.runTicks ticks).2.Sound s
  := by
  cases hf : c.faulted with
  | true =>
      unfold Console.runTicks
      rw [if_pos hf]
      apply h
  | false =>
      obtain ⟨result, q, -, hruns⟩ := h.exists_runs ticks
      rw [h.runTicks_of_runs hf hruns]
      apply sound_guard h.valid
      apply hruns.sound (h.processor.grant _)

theorem Sound.runFrame (h : c.Sound s) :
  c.runFrame.2.Sound s
  := by
  unfold Console.runFrame
  have hrun := h.runTicks c.settings.geometry.ticksPerFrame
  split
  · rename_i hfailed
    rw [hfailed] at hrun
    apply hrun
  · rename_i hdone
    rw [hdone] at hrun
    obtain ⟨hsettings, hvalid, ⟨hframe, hwaiting⟩, hgeometry, hticks, hcapacity⟩ := hrun
    exact ⟨hsettings, hvalid, ⟨⟨hframe.column_lt, hframe.scanline_lt⟩, hwaiting⟩,
      ⟨hgeometry, hticks, hcapacity⟩⟩

theorem Reachable.sound (h : Reachable s c) :
  c.Sound s
  := by
  induction h with
  | build h => exact sound_build h
  | boot _ program ih => exact ih.boot program
  | reset _ ih => exact ih.reset
  | step _ ih => exact ih.step
  | runTicks _ ticks ih => exact ih.runTicks ticks
  | runFrame _ ih => exact ih.runFrame

end

end Console

end RasterConsole
