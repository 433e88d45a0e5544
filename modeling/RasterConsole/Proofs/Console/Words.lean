import RasterConsole.Proofs.Console.Debt
import RasterConsole.Proofs.Console.Partial
import RasterConsole.Proofs.Console.Termination
import RasterConsole.Proofs.Processor.Words

/-!
# Consoles on words

An instruction brings the beam no further than `Settings.leeway`, and no more than that is owed
before it.  So if settings `Fits` into words, the consoles that come up in their use do on words
what they do in the arithmetic without a limit, operation by operation
(`Console.Reachable.perform_words`), and they are the same consoles
(`Console.reachable_of_words`).
-/

namespace RasterConsole

/-- The numbers of a console fit into words: those of its engine, and the ticks of a line together
with what an instruction may find owed and what it may cost. -/
structure Settings.Fits (s : Settings) : Prop where
  geometry : s.geometry.Fits
  leeway_le : 2 * s.leeway + s.geometry.ticksPerScanline ≤ 2 ^ 64

namespace Processor

variable {s : Settings} {p q : Processor}

section

attribute [local instance] Arithmetic.exact

/-- The end of an instruction is in reach if no more than the leeway is owed before it. -/
theorem Sound.inReach_step (hp : p.Sound s) (hfits : s.Fits) (howed : p.bus.owed ≤ s.leeway) :
  p.bus.InReach p.step.2.bus.beamTime
  := by
  have hle := hp.beamTime_step_le
  have hleeway := hfits.leeway_le
  rw [← hp.suits.geometry_eq] at hleeway
  unfold Bus.InReach
  rw [Bus.beamTime.eq_1 p.bus] at hle
  omega

/-- A processor in use, on an intact bus. -/
structure Ready (s : Settings) (p : Processor) : Prop extends Sound s p where
  intact : p.bus.Intact

theorem Ready.flush (h : p.Ready s) :
  p.flush.Ready s
  := ⟨h.toSound.flush, h.intact.flush⟩

theorem Ready.step (h : p.Ready s) :
  p.step.2.Ready s
  := ⟨h.toSound.step, intact_step h.intact⟩

theorem Ready.grant (h : p.Ready s) (budget : Budget) :
  (p.grant budget).Ready s
  := ⟨h.toSound.grant budget, h.intact.grant budget⟩

theorem Ready.geometry_fits (h : p.Ready s) (hfits : s.Fits) :
  p.bus.raster.geometry.Fits
  := by
  rw [h.suits.geometry_eq]
  exact hfits.geometry

/-- Nothing is owed after a flush that does not spend the budget. -/
theorem Ready.inReach_step_flush (h : p.Ready s) (hfits : s.Fits)
    (hleft : p.flush.bus.budget.isSpent = false) :
  p.flush.bus.InReach p.flush.step.2.bus.beamTime
  := by
  apply h.flush.toSound.inReach_step hfits
  rw [Processor.flush, Bus.owed_flush hleft]
  exact Nat.zero_le _

end

theorem Ready.clock_words (h : p.Ready s) (hfits : s.Fits) :
  @Raster.clock .words p.bus.raster = @Raster.clock .exact p.bus.raster
  := Raster.clock_words (h.geometry_fits hfits) h.intact.raster.valid

theorem Ready.flush_words (h : p.Ready s) (hfits : s.Fits) :
  @Processor.flush .words p = @Processor.flush .exact p
  := Processor.flush_words h.intact (h.geometry_fits hfits)

/-- The next instruction of a run goes on as if there were no limit. -/
theorem Ready.step_flush_words (h : p.Ready s) (hfits : s.Fits)
    (hleft : (@Processor.flush .exact p).bus.budget.isSpent = false) :
  @Processor.step .words (@Processor.flush .exact p)
    = @Processor.step .exact (@Processor.flush .exact p)
  := step_words h.flush.intact (h.flush.geometry_fits hfits) (h.inReach_step_flush hfits hleft)

/-- A run goes on as if there were no limit, and starts the same instructions. -/
theorem Ready.runWithin_starts_words (h : p.Ready s) (hfits : s.Fits) (limit : Nat) :
  @runWithin .words p limit = @runWithin .exact p limit
    ∧ @starts .words p limit = @starts .exact p limit
  := by
  induction limit generalizing p with
  | zero =>
      unfold runWithin starts
      rw [h.flush_words hfits]
      exact ⟨rfl, rfl⟩
  | succ limit ih =>
      unfold runWithin starts
      rw [h.flush_words hfits]
      dsimp only
      split_ifs with hspent
      · exact ⟨rfl, rfl⟩
      · rw [Bool.not_eq_true] at hspent
        rw [h.step_flush_words hfits hspent]
        have hstep := h.flush.step
        rcases hresult : @Processor.step .exact (@Processor.flush .exact p) with ⟨fault | _, q⟩
        · exact ⟨rfl, rfl⟩
        · rw [hresult] at hstep
          obtain ⟨hrun, hstarts⟩ := ih hstep
          exact ⟨hrun, congrArg (List.cons _) hstarts⟩

/-- The instructions of a run make the same accesses. -/
theorem Ready.accesses_starts_words (h : p.Ready s) (hfits : s.Fits) (limit : Nat) :
  (@starts .exact p limit).flatMap (@accesses .words)
    = (@starts .exact p limit).flatMap (@accesses .exact)
  := by
  apply List.flatMap_congr
  intro q hq
  obtain ⟨r, hr, rfl, hleft⟩ := @exists_flush_of_mem_starts .exact p (fun r => r.Ready s)
    (fun _ hr => hr.flush.step) limit q h hq
  exact accesses_words hr.flush.intact (hr.flush.geometry_fits hfits)
    (hr.inReach_step_flush hfits hleft)

/-- The loop of the console goes on as if there were no limit. -/
theorem RunsThrough.words {started : List Processor} {result : Except Fault Unit}
    (hruns : @RunsThrough .exact p started result q) (h : p.Ready s) (hfits : s.Fits) :
  RunsThrough p started result q
  := by
  induction hruns with
  | spent hspent =>
      rw [← h.flush_words hfits] at hspent ⊢
      exact .spent hspent
  | failed hleft hstep =>
      rw [← h.step_flush_words hfits hleft, ← h.flush_words hfits] at hstep
      rw [← h.flush_words hfits] at hleft ⊢
      exact .failed hleft hstep
  | more hleft hstep _ ih =>
      have hnext := h.flush.step
      rw [hstep] at hnext
      rw [← h.step_flush_words hfits hleft, ← h.flush_words hfits] at hstep
      rw [← h.flush_words hfits] at hleft ⊢
      exact .more hleft hstep (ih hnext)

end Processor

namespace Console

attribute [local instance] Arithmetic.exact

variable {s : Settings} {c : Console}

theorem Reachable.ready (h : Reachable s c) :
  c.processor.Ready s
  := ⟨h.sound.processor, h.intact⟩

theorem Reachable.geometry_fits (h : Reachable s c) (hfits : s.Fits) :
  c.raster.geometry.Fits
  := h.ready.geometry_fits hfits

/-! ### The operations -/

theorem build_words (h : s.geometry.Fits) :
  @build .words s = build s
  := by
  unfold build Processor.fresh
  rw [Bus.fresh_words h]

theorem boot_words (h : c.raster.geometry.Fits) (program : List UInt8) :
  @boot .words c program = c.boot program
  := by
  unfold boot
  rw [Bus.reset_words h]

theorem reset_words (h : c.raster.geometry.Fits) :
  @reset .words c = c.reset
  := by
  unfold reset
  rw [Bus.restart_words h]

theorem Reachable.step_words (h : Reachable s c) (hfits : s.Fits) :
  @Console.step .words c = c.step
  := by
  unfold Console.step
  split_ifs with hf
  · rfl
  · rw [Bool.not_eq_true] at hf
    have hgrant := h.ready.grant .unlimited
    have hstep := hgrant.step
    have howed : (c.processor.grant .unlimited).bus.owed ≤ s.leeway := (h.owed_lt hf).le
    have hreach := hgrant.toSound.inReach_step hfits howed
    dsimp only
    rw [Processor.step_words hgrant.intact (hgrant.geometry_fits hfits) hreach]
    rcases hresult : (c.processor.grant .unlimited).step with ⟨result, p⟩
    rw [hresult] at hstep
    dsimp only
    rw [hstep.flush_words hfits]

theorem Reachable.runTicks_words (h : Reachable s c) (hfits : s.Fits) (ticks : Nat) :
  @Console.runTicks .words c ticks = c.runTicks ticks
  := by
  unfold Console.runTicks
  dsimp only
  rw [((h.ready.grant (.ticks ticks)).runWithin_starts_words hfits _).1]

theorem Reachable.ticksPerFrame_words (h : Reachable s c) (hfits : s.Fits) :
  @Geometry.ticksPerFrame .words c.settings.geometry = c.settings.geometry.ticksPerFrame
  := by
  rw [h.sound.settings_eq]
  exact hfits.geometry.ticksPerFrame_words (Settings.geometry_valid h.sound.valid)

theorem Reachable.runFrame_words (h : Reachable s c) (hfits : s.Fits) :
  @Console.runFrame .words c = c.runFrame
  := by
  unfold Console.runFrame
  rw [h.ticksPerFrame_words hfits, h.runTicks_words hfits]

/-- The consoles that come up on words are those that come up without a limit. -/
theorem reachable_of_words (h : @Reachable .words s c) (hfits : s.Fits) :
  Reachable s c
  := by
  induction h with
  | build h =>
      rw [build_words hfits.geometry] at h
      exact .build h
  | boot _ program ih =>
      rw [boot_words (ih.geometry_fits hfits)]
      exact ih.boot program
  | reset _ ih =>
      rw [reset_words (ih.geometry_fits hfits)]
      exact ih.reset
  | step _ ih =>
      rw [ih.step_words hfits]
      exact ih.step
  | runTicks _ ticks ih =>
      rw [ih.runTicks_words hfits]
      exact ih.runTicks ticks
  | runFrame _ ih =>
      rw [ih.runFrame_words hfits]
      exact ih.runFrame

/-! ### Instructions and accesses -/

/-- An operation starts the same instructions. -/
theorem Reachable.starts_words (h : Reachable s c) (hfits : s.Fits) (operation : Operation) :
  @Console.starts .words c operation = c.starts operation
  := by
  have hruns (ticks : Nat) : @Processor.starts .words (c.processor.grant (.ticks ticks))
        (patience ticks) = (c.processor.grant (.ticks ticks)).starts (patience ticks) :=
    ((h.ready.grant (.ticks ticks)).runWithin_starts_words hfits (patience ticks)).2
  cases operation with
  | runTicks ticks => simp only [Console.starts, hruns]
  | runFrame => simp only [Console.starts, h.ticksPerFrame_words hfits, hruns]
  | step | boot _ | reset | present => rfl

/-- They make the same accesses. -/
theorem Reachable.accesses_words (h : Reachable s c) (hfits : s.Fits) (operation : Operation) :
  @Console.accesses .words c operation = c.accesses operation
  := by
  unfold Console.accesses
  rw [h.starts_words hfits]
  unfold Console.starts
  cases operation with
  | step =>
      dsimp only
      split_ifs with hf
      · rfl
      · rw [Bool.not_eq_true] at hf
        have hgrant := h.ready.grant .unlimited
        have howed : (c.processor.grant .unlimited).bus.owed ≤ s.leeway := (h.owed_lt hf).le
        rw [List.flatMap_singleton, List.flatMap_singleton]
        exact Processor.accesses_words hgrant.intact (hgrant.geometry_fits hfits)
          (hgrant.toSound.inReach_step hfits howed)
  | runTicks ticks =>
      dsimp only
      split_ifs
      · rfl
      · exact (h.ready.grant _).accesses_starts_words hfits _
  | runFrame =>
      dsimp only
      split_ifs
      · rfl
      · exact (h.ready.grant _).accesses_starts_words hfits _
  | boot _ | reset | present => rfl

/-! ### In front of a display -/

section

variable {σ : Type} (sink : Sink σ) (display : σ)

end

end Console

end RasterConsole
