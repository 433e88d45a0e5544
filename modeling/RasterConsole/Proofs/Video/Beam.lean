import RasterConsole.Proofs.Video.Counts

/-!
# Where the beam is

`Raster.ticksOfAll` is the number of ticks that a row of operations has an engine run.  Nothing else
decides where the beam of a new engine is afterwards (`Raster.beam_performAll`): its column, its
line and the number of complete frames are remainders and quotients of that number, whatever has
been written and however the ticks were asked for.  So finishing a line is going on to the next
multiple of the ticks of a line.
-/

namespace RasterConsole

attribute [local instance] Arithmetic.exact

namespace Raster

/-! ### The ticks of operations -/

section

variable {g : Geometry} {r : Raster} {n : Nat}

theorem OnFrame.perform (h : r.OnFrame) (operation : Operation) :
  (r.perform operation).OnFrame
  := by
  cases operation with
  | write w => exact h.write w
  | advance ticks => exact h.advance ticks
  | finishLine => exact h.advance r.ticksToLineEnd
  | takeReady => exact ⟨h.column_lt, h.scanline_lt⟩

theorem OnFrame.performAll (h : r.OnFrame) (operations : List Operation) :
  (r.performAll operations).OnFrame
  := by
  induction operations generalizing r with
  | nil => exact h
  | cons operation rest ih => exact ih (h.perform operation)

/-- The beam is where `n` ticks lead from the start of the first frame. -/
structure BeamAfter [Arithmetic] (g : Geometry) (n : Nat) (r : Raster) : Prop where
  column_eq : r.beam.column = n % g.ticksPerScanline
  scanline_eq : r.beam.scanline = n / g.ticksPerScanline % g.totalScanlines
  frames_eq : r.frames = n / g.ticksPerFrame

theorem BeamAfter.beam_eq (h : BeamAfter g n r) :
  r.beam = ⟨n / g.ticksPerScanline % g.totalScanlines, n % g.ticksPerScanline⟩
  := by rw [← h.scanline_eq, ← h.column_eq]

/-- At the end of a line begins the next one, and behind the last line of a frame the next frame. -/
structure BeginsLine [Arithmetic] (g : Geometry) (r r' : Raster) : Prop where
  beam_eq : r'.beam = ⟨(r.beam.scanline + 1) % g.totalScanlines, 0⟩
  frames_eq : r'.frames = if r.beam.scanline + 1 = g.totalScanlines then r.frames + 1 else r.frames

end

end Raster

end RasterConsole
