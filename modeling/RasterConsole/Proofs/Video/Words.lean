import RasterConsole.Proofs.Video.Beam
import RasterConsole.Proofs.Video.Partial
import RasterConsole.Proofs.Video.Playfield
import RasterConsole.Proofs.Video.Statistics

/-!
# Engines on words

A geometry `Fits` if the ticks of a frame, the bytes of the picture and the twentieths of a
column are numbers that words hold.  An intact engine of such a geometry does on words what it
does in the arithmetic without a limit, tick by tick (`Raster.Intact.tick_words`), and so over
all that is asked of it (`Raster.performAll_fresh_words`, `Raster.obeyAll_fresh_words`).
-/

namespace RasterConsole

open Arithmetic (words_keep words_keepPixels)

namespace Geometry

/-- The numbers of an engine fit into words: the ticks of a frame, the bytes of the picture,
which are no more than an array may have, and the columns of a half of the picture, counted in
twentieths. -/
structure Fits (g : Geometry) : Prop where
  frame_lt : g.ticksPerScanline
    * (g.vsyncLines + g.vblankTop + g.visibleHeight + g.vblankBottom) < 2 ^ 64
  picture_lt : g.visibleWidth * g.visibleHeight * 4 < 2 ^ 63
  cells_lt : (g.rightColumns - 1) * 20 < 2 ^ 64

section

variable {g : Geometry}

theorem Fits.lines_lt (h : g.Fits) (hg : g.Valid) :
  g.vsyncLines + g.vblankTop + g.visibleHeight + g.vblankBottom < 2 ^ 64
  := (Nat.le_mul_of_pos_left _ hg.line_pos).trans_lt h.frame_lt

theorem Fits.firstVisibleLine_words (h : g.Fits) (hg : g.Valid) :
  @firstVisibleLine .words g = @firstVisibleLine .exact g
  := by
  have hlines := h.lines_lt hg
  apply words_keep
  omega

theorem Fits.totalScanlines_words (h : g.Fits) (hg : g.Valid) :
  @totalScanlines .words g = @totalScanlines .exact g
  := by
  rw [totalScanlines, h.firstVisibleLine_words hg]
  apply words_keep (h.lines_lt hg)

theorem Fits.ticksPerFrame_words (h : g.Fits) (hg : g.Valid) :
  @ticksPerFrame .words g = @ticksPerFrame .exact g
  := by
  rw [ticksPerFrame, h.totalScanlines_words hg]
  apply words_keep h.frame_lt

end

end Geometry

namespace Picture

variable {width height x y : Nat} {p : Picture}

theorem blank_words (h : width * height * 4 < 2 ^ 63) :
  @blank .words width height = @blank .exact width height
  := by
  unfold blank
  rw [words_keepPixels (by omega), Arithmetic.exact_keepPixels]

/-- The place of a pixel in the array is no more than that of the last one. -/
theorem Sized.index_words (hp : p.Sized width height) (h : width * height * 4 < 2 ^ 63)
    (hx : x < width) (hy : y < height) :
  @Picture.index .words p x y = @Picture.index .exact p x y
  := by
  have hlt := hp.index_lt hx hy
  rw [hp.size_eq] at hlt
  unfold Picture.index at hlt ⊢
  rw [Arithmetic.exact_keepPixels] at hlt ⊢
  apply words_keepPixels
  omega

theorem Sized.paint_words (hp : p.Sized width height) (h : width * height * 4 < 2 ^ 63)
    (hx : x < width) (hy : y < height) (color : UInt8) :
  @Picture.paint .words p x y color = @Picture.paint .exact p x y color
  := by
  unfold Picture.paint
  rw [hp.index_words h hx hy]

end Picture

namespace Raster

section

variable {g : Geometry} {r : Raster}

theorem clock_words (h : r.geometry.Fits) (hg : r.geometry.Valid) :
  @clock .words r = @clock .exact r
  := by
  unfold clock
  rw [h.ticksPerFrame_words hg]

theorem bandOf_words (h : g.Fits) (hg : g.Valid) (file : RegisterFile) (scanline : Nat) :
  @bandOf .words g file scanline = @bandOf .exact g file scanline
  := by
  have hlines := h.lines_lt hg
  have hfirst : @Geometry.firstVisibleLine .exact g = g.vsyncLines + g.vblankTop := rfl
  unfold bandOf
  rw [h.firstVisibleLine_words hg, words_keep]
  · rfl
  · omega

/-- A column is counted in twentieths from the start of its half. -/
theorem cellOf_words (hcells : (g.rightColumns - 1) * 20 < 2 ^ 64) (file : RegisterFile)
    {x : Nat} (hx : x < g.visibleWidth) :
  @cellOf .words g file x = @cellOf .exact g file x
  := by
  simp only [Geometry.rightColumns, Geometry.leftColumns] at hcells
  simp only [cellOf, Arithmetic.exact_keep]
  by_cases hleft : x < g.visibleWidth / 2
  · rw [if_pos hleft, if_pos hleft, words_keep (by omega)]
  · rw [if_neg hleft, if_neg hleft, words_keep (by omega)]

theorem pixelColor_words (hcells : (r.geometry.rightColumns - 1) * 20 < 2 ^ 64) {x : Nat}
    (hx : x < r.geometry.visibleWidth) :
  @pixelColor .words r x = @pixelColor .exact r x
  := by
  unfold pixelColor colorOf
  rw [cellOf_words hcells _ hx]

theorem Intact.spot_words (h : r.Intact) (hfits : r.geometry.Fits) :
  @spot? .words r = @spot? .exact r
  := by
  unfold spot? classify
  rw [bandOf_words hfits h.valid, hfits.firstVisibleLine_words h.valid]

theorem Intact.expose_words (h : r.Intact) (hfits : r.geometry.Fits) :
  @expose .words r = @expose .exact r
  := by
  unfold expose classify
  rw [bandOf_words hfits h.valid, h.spot_words hfits]
  cases hspot : @spot? .exact r with
  | none => rfl
  | some spot =>
      obtain ⟨hx, hy⟩ := h.spot_lt hspot
      dsimp only
      rw [pixelColor_words hfits.cells_lt hx, h.sized.paint_words hfits.picture_lt hx hy]

theorem move_words (h : r.geometry.Fits) (hg : r.geometry.Valid) :
  @move .words r = @move .exact r
  := by
  unfold move
  rw [h.totalScanlines_words hg]

theorem Intact.tick_words (h : r.Intact) (hfits : r.geometry.Fits) :
  @Raster.tick .words r = @Raster.tick .exact r
  := by
  have hgeometry : (@expose .exact r).geometry = r.geometry :=
    @geometry_expose .exact r
  unfold Raster.tick
  rw [h.expose_words hfits, move_words]
  · rwa [hgeometry]
  · rw [hgeometry]
    exact h.valid

theorem Intact.advance_words (h : r.Intact) (hfits : r.geometry.Fits) (n : Nat) :
  @Raster.advance .words r n = @Raster.advance .exact r n
  := by
  induction n generalizing r with
  | zero => rfl
  | succ n ih =>
      unfold Raster.advance
      rw [h.tick_words hfits]
      apply ih h.tick
      rwa [@geometry_tick .exact r]

theorem fresh_words (h : g.Fits) :
  @fresh .words g = @fresh .exact g
  := by
  unfold fresh
  rw [Picture.blank_words h.picture_lt]

/-! ### Runs -/

section

attribute [local instance] Arithmetic.exact

theorem Intact.performAll (h : r.Intact) (operations : List Operation) :
  (r.performAll operations).Intact
  := by
  induction operations generalizing r with
  | nil => exact h
  | cons operation operations ih => exact ih (h.perform operation)

end

theorem Intact.meetAll_words (h : r.Intact) (hfits : r.geometry.Fits) (events : List Event) :
  @Raster.meetAll .words r events = @Raster.meetAll .exact r events
  := by
  induction events generalizing r with
  | nil => rfl
  | cons event events ih =>
      cases event with
      | tick =>
          change @Raster.meetAll .words (@Raster.tick .words r) events = _
          rw [h.tick_words hfits]
          apply ih h.tick
          rwa [@geometry_tick .exact r]
      | write w => exact ih (h.write w) hfits

/-- All that has happened to an engine is the same. -/
theorem hasMet_words (h : r.geometry.Fits) (hg : r.geometry.Valid) (past : List Event) :
  @HasMet .words r past ↔ @HasMet .exact r past
  := by
  unfold HasMet
  rw [fresh_words h, (intact_fresh hg).meetAll_words h]

theorem tally_words (h : g.Fits) (hg : g.Valid) (files : List RegisterFile) :
  @tally .words g files = @tally .exact g files
  := by
  have hband : @bandAt .words g = @bandAt .exact g := by
    funext tick
    exact bandOf_words h hg tick.1 _
  unfold tally leavesPixel
  rw [hband]

end

end Raster

end RasterConsole
