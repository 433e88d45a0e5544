import RasterConsole.Proofs.Console.Clocks

/-!
# What a console may owe

The processor never runs ahead of the engine by more than an instruction.  A run starts an
instruction only when nothing is owed and no write waits, and with budget left
(`Processor.settled_of_mem_starts`), and an instruction costs no more than seven cycles and
two lines (`Processor.Sound.spent_step`).  At least one tick of that is paid before the budget
is spent, so what a console owes between calls stays below `Settings.leeway`
(`Reachable.owed_lt`).
-/

namespace RasterConsole

attribute [local instance] Arithmetic.exact

/-- The ticks of seven cycles and of two lines. -/
def Settings.leeway (s : Settings) : Nat :=
  7 * s.ticksPerCycle + 2 * s.geometry.ticksPerScanline

theorem Settings.leeway_pos {s : Settings} (hs : s.validate = .ok ()) :
  0 < s.leeway
  := by
  have hpos := ticksPerCycle_pos hs
  rw [leeway]
  omega

namespace Bus

/-- A flush does not add to the debt. -/
theorem owed_flush_le (b : Bus) :
  b.flush.owed ≤ b.owed
  := by
  have howed := b.course_flush.owed_eq
  omega

/-- What comes to be owed on a budget that is not spent is owed in part at most: some of it is
paid, or all of it. -/
theorem Course.owed_lt {b b' : Bus} {extra : Nat} {issued : List RegisterWrite}
    {events : List Raster.Event} (h : b.Course extra issued events b'.flush)
    (howed : b.owed = 0) (hleft : b.budget.isSpent = false) {bound : Nat} (hbound : 0 < bound)
    (hextra : extra ≤ bound) :
  b'.flush.owed < bound
  := by
  rcases Nat.eq_zero_or_pos (Raster.Event.ticks events) with hnone | hsome
  · have hbudget : b'.flush.budget.isSpent = false := by
      rw [h.budget_eq, hnone, Budget.spend_zero, hleft]
    rwa [Bus.owed_flush hbudget]
  · have hbooks := h.owed_eq
    omega

end Bus

namespace Processor

section

variable {s : Settings} {p q : Processor}

/-- An instruction costs no more than the leeway. -/
theorem Sound.beamTime_step_le (hp : p.Sound s) :
  p.step.2.bus.beamTime ≤ p.bus.beamTime + s.leeway
  := by
  obtain ⟨-, -, hcycles, hstrobes, hbeam⟩ := hp.spent_step
  dsimp only at hcycles hbeam
  have hticks : p.step.2.core.cycles * s.ticksPerCycle
      ≤ p.core.cycles * s.ticksPerCycle + 7 * s.ticksPerCycle := by
    rw [← Nat.add_mul]
    exact Nat.mul_le_mul_right _ hcycles
  have hwaits : Access.waits s.geometry.ticksPerScanline p.accesses
      ≤ 2 * s.geometry.ticksPerScanline :=
    (Access.waits_le _ _).trans (Nat.mul_le_mul_right _ hstrobes)
  rw [Settings.leeway]
  omega

/-- An instruction that starts without a debt and with budget left leaves a debt below the
leeway. -/
theorem Sound.owed_step_lt (hs : s.validate = .ok ()) (hp : p.Sound s) (howed : p.bus.owed = 0)
    (hleft : p.bus.budget.isSpent = false) :
  p.step.2.bus.flush.owed < s.leeway
  := by
  obtain ⟨extra, _, _, hcourse⟩ :=
    (leadsTo_step hp.consistent).trans (Bus.leadsTo_flush p.step.2.bus)
  apply hcourse.owed_lt howed hleft (Settings.leeway_pos hs)
  have hbeam := hcourse.beamTime_eq hp.consistent.onFrame
  rw [hp.step.consistent.beamTime_flush] at hbeam
  have hle := hp.beamTime_step_le
  omega

/-- A run that succeeds leaves a debt below the leeway if its budget brings it that far. -/
theorem Runs.owed_lt (hs : s.validate = .ok ()) {result : Except Fault Unit}
    (h : Runs p result q) (hp : p.Sound s) (hok : result = .ok ())
    (howed : p.flush.bus.owed < s.leeway) :
  q.bus.owed < s.leeway
  := by
  induction h with
  | spent _ => exact howed
  | failed _ _ => cases hok
  | more hleft hstep _ ih =>
      have hnext := hp.flush.owed_step_lt hs (Bus.owed_flush hleft) hleft
      have hsound := hp.flush.step
      rw [hstep] at hnext hsound
      exact ih hsound hok hnext

/-- On a budget without a limit nothing is owed any more after a flush. -/
theorem Sound.owed_flush_step (hp : p.Sound s) (hbudget : p.bus.budget = .unlimited) :
  p.step.2.flush.bus.owed = 0
  := by
  obtain ⟨_, _, _, hcourse⟩ :=
    (leadsTo_step hp.consistent).trans (Bus.leadsTo_flush p.step.2.bus)
  apply Bus.owed_flush
  rw [hcourse.budget_eq, hbudget]
  rfl

end

end Processor

namespace Console

section

variable {s : Settings} {c : Console}

theorem owed_boot (c : Console) (program : List UInt8) :
  (c.boot program).2.processor.bus.owed = 0
  := by
  unfold Console.boot
  dsimp only
  split
  · rw [processor_guard, Processor.bus_reset]
    rfl
  · rfl

theorem owed_reset (c : Console) :
  c.reset.2.processor.bus.owed = 0
  := by
  rw [Console.reset, processor_guard, Processor.bus_reset]
  rfl

theorem Sound.owed_step (hc : c.Sound s) (hf : c.faulted = false) :
  c.step.2.processor.bus.owed = 0
  := by
  rw [step_of_running hf, processor_guard]
  exact (hc.processor.grant .unlimited).owed_flush_step rfl

theorem Sound.owed_runTicks_lt (hc : c.Sound s) (hf : c.faulted = false)
    (howed : c.processor.bus.owed < s.leeway) {ticks : Nat}
    (hf' : (c.runTicks ticks).2.faulted = false) :
  (c.runTicks ticks).2.processor.bus.owed < s.leeway
  := by
  obtain ⟨result, q, -, hruns⟩ := hc.exists_runs ticks
  rw [hc.runTicks_of_runs hf hruns] at hf' ⊢
  rw [processor_guard]
  have hok : result = .ok () := by
    cases result with
    | ok _ => rfl
    | error fault => cases hf'
  apply hruns.owed_lt hc.valid (hc.processor.grant _) hok
  exact (Bus.owed_flush_le _).trans_lt howed

/-- Between calls a console that is not faulted owes less than the leeway. -/
theorem Reachable.owed_lt (hc : Reachable s c) (hf : c.faulted = false) :
  c.processor.bus.owed < s.leeway
  := by
  induction hc with
  | @build c h =>
      have hs := (Reachable.build h).sound.valid
      rw [Console.build, hs] at h
      cases h
      exact Settings.leeway_pos hs
  | boot h program _ =>
      rw [owed_boot]
      exact Settings.leeway_pos h.sound.valid
  | reset h _ =>
      rw [owed_reset]
      exact Settings.leeway_pos h.sound.valid
  | @step c h ih =>
      cases hc : c.faulted with
      | true =>
          rw [(refused_of_faulted hc).1, hc] at hf
          cases hf
      | false =>
          rw [h.sound.owed_step hc]
          exact Settings.leeway_pos h.sound.valid
  | @runTicks c h ticks ih =>
      cases hc : c.faulted with
      | true =>
          rw [(refused_of_faulted hc).2.1, hc] at hf
          cases hf
      | false => exact h.sound.owed_runTicks_lt hc (ih hc) hf
  | @runFrame c h ih =>
      cases hc : c.faulted with
      | true =>
          rw [(refused_of_faulted hc).2.2, hc] at hf
          cases hf
      | false =>
          rw [c.runFrame_eq_runTicks.2] at hf
          apply runFrame_preserves (P := fun p => p.bus.owed < s.leeway)
          · exact fun p hp => hp
          · exact h.sound.owed_runTicks_lt hc (ih hc) hf

/-- The processor is never ahead of the engine by more than an instruction.  Between calls a
console that is not faulted owes less than the ticks of seven cycles and two lines, and
wherever a call for ticks or for a frame starts an instruction, nothing is owed, no write
waits, and there is budget left. -/
theorem Reachable.one_instruction_ahead (hc : Reachable s c) (hf : c.faulted = false) :
  c.processor.bus.owed < 7 * s.ticksPerCycle + 2 * s.geometry.ticksPerScanline
    ∧ ∀ operation, (∃ ticks, operation = .runTicks ticks) ∨ operation = .runFrame →
      ∀ p ∈ c.starts operation,
        p.bus.owed = 0 ∧ p.bus.waiting = [] ∧ p.bus.budget ≠ .ticks 0
  := by
  refine ⟨hc.owed_lt hf, ?_⟩
  have hstarts : ∀ ticks, ∀ p ∈ (c.processor.grant (.ticks ticks)).starts (patience ticks),
      p.bus.owed = 0 ∧ p.bus.waiting = [] ∧ p.bus.budget ≠ .ticks 0 := by
    intro ticks p hp
    obtain ⟨howed, hwaiting, hspent⟩ := Processor.settled_of_mem_starts hp
    refine ⟨howed, hwaiting, ?_⟩
    intro hzero
    rw [hzero] at hspent
    cases hspent
  rintro operation (⟨ticks, rfl⟩ | rfl) p hp
  · rw [starts, if_neg (ne_true_of_eq_false hf)] at hp
    exact hstarts ticks p hp
  · rw [starts, if_neg (ne_true_of_eq_false hf)] at hp
    exact hstarts _ p hp

/-- The small console with a program that waits for a line once the color is stored. -/
def smallLate : Console := (small.boot [0xA9, 0x44, 0x85, 0x09, 0x85, 0x02, 0x85, 0x02]).2

/-- It starts four instructions in thirty-two ticks, and owes eight of the ticks of the last. -/
theorem one_instruction_ahead_small :
  Reachable .small (smallLate.runTicks 32).2 ∧ (smallLate.runTicks 32).2.faulted = false
    ∧ (smallLate.runTicks 32).2.processor.bus.owed = 8
    ∧ (smallLate.runTicks 32).2.processor.bus.owed < 7 * 3 + 2 * 10
    ∧ (smallLate.starts (.runTicks 32)).length = 4
    ∧ ∀ p ∈ (smallLate.runTicks 32).2.starts (.runTicks 20),
      p.bus.owed = 0 ∧ p.bus.waiting = [] ∧ p.bus.budget ≠ .ticks 0
  := by
  have hc : Reachable .small (smallLate.runTicks 32).2 := (small_reachable.boot _).runTicks 32
  have hf : (smallLate.runTicks 32).2.faulted = false := by decide +kernel
  obtain ⟨howed, hstarts⟩ := Reachable.one_instruction_ahead hc hf
  refine ⟨hc, hf, by decide +kernel, howed, by decide +kernel, ?_⟩
  exact hstarts (.runTicks 20) (.inl ⟨20, rfl⟩)

end

end Console

end RasterConsole
