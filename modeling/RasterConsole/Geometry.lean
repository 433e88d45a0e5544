import RasterConsole.Arithmetic
import RasterConsole.Fault

/-!
# Frame geometry

A frame is a number of scanlines of equal length in ticks: first the lines of vertical
sync, then blank lines, then the lines that show the picture, then blank lines again.
The picture takes the last `visibleWidth` ticks of its lines.
-/

namespace RasterConsole

/-- The measures of one frame, in ticks and scanlines.  The defaults are those of NTSC. -/
structure Geometry where
  visibleWidth : Nat := 160
  visibleHeight : Nat := 192
  vsyncLines : Nat := 3
  vblankTop : Nat := 37
  vblankBottom : Nat := 30
  ticksPerScanline : Nat := 228
  deriving Repr, DecidableEq, Inhabited

namespace Geometry

open Arithmetic (keep)

/-- The first defect of the geometry: a size of zero, or a picture wider than a line. -/
def defect? (g : Geometry) : Option GeometryDefect :=
  if g.visibleWidth = 0 then some (.zero .visibleWidth)
  else if g.visibleHeight = 0 then some (.zero .visibleHeight)
  else if g.ticksPerScanline = 0 then some (.zero .ticksPerScanline)
  else if g.ticksPerScanline < g.visibleWidth then
    some (.tooWide g.visibleWidth g.ticksPerScanline)
  else none

/-- Refuses a geometry that has a defect. -/
def validate (g : Geometry) : Except Fault Unit :=
  match g.defect? with
  | some defect => .error (.invalidGeometry defect)
  | none => .ok ()

/-- The leading columns of every line, which never show a pixel. -/
def hblankColumns (g : Geometry) : Nat := g.ticksPerScanline - g.visibleWidth

/-- The first line of the picture. -/
def firstVisibleLine [Arithmetic] (g : Geometry) : Nat := keep (g.vsyncLines + g.vblankTop)

/-- The number of lines of a frame. -/
def totalScanlines [Arithmetic] (g : Geometry) : Nat :=
  keep (g.firstVisibleLine + g.visibleHeight + g.vblankBottom)

/-- The number of ticks of a frame. -/
def ticksPerFrame [Arithmetic] (g : Geometry) : Nat :=
  keep (g.ticksPerScanline * g.totalScanlines)

end Geometry

end RasterConsole
