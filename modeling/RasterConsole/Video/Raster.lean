import RasterConsole.Geometry
import RasterConsole.Video.Register
import RasterConsole.Video.Picture

/-!
# The raster engine

The beam visits the columns of every scanline from left to right and the scanlines of
every frame from top to bottom, one column a tick.  In a tick the engine looks at the
registers, counts the tick under the band of the current line, paints a pixel if the beam
is on the picture, and moves the beam.  At the end of a frame the counts are published
and start again; the picture stays, and is painted over.
-/

namespace RasterConsole

open Arithmetic (keep)

/-- The position of the beam. -/
structure Beam where
  scanline : Nat := 0
  column : Nat := 0
  deriving Repr, DecidableEq, Inhabited

/-- What the beam does on a scanline. -/
inductive Band where
  | verticalSync
  | blank
  | visible
  deriving Repr, DecidableEq

/-- The ticks of one frame by band, and the number of pixels painted. -/
structure FrameStats where
  vsyncTicks : Nat := 0
  blankTicks : Nat := 0
  visibleTicks : Nat := 0
  pixels : Nat := 0
  deriving Repr, DecidableEq, Inhabited

namespace FrameStats

/-- The counts after one more tick in a band; `painted` says whether it left a pixel. -/
def count (s : FrameStats) (band : Band) (painted : Bool) : FrameStats :=
  match band with
  | .verticalSync => { s with vsyncTicks := s.vsyncTicks + 1 }
  | .blank => { s with blankTicks := s.blankTicks + 1 }
  | .visible =>
    { s with
      visibleTicks := s.visibleTicks + 1
      pixels := if painted then s.pixels + 1 else s.pixels }

end FrameStats

/-- The state of the raster engine: `running` counts the ticks of the current frame,
`published` those of the last complete one, and `ready` is `published` until it has been
taken. -/
structure Raster where
  geometry : Geometry
  registers : RegisterFile
  beam : Beam
  picture : Picture
  running : FrameStats
  published : Option FrameStats
  frames : Nat
  ready : Option FrameStats
  deriving DecidableEq, Inhabited

namespace Raster

/-- An engine at the start of its first frame. -/
def fresh [Arithmetic] (geometry : Geometry) : Raster where
  geometry := geometry
  registers := {}
  beam := {}
  picture := Picture.blank geometry.visibleWidth geometry.visibleHeight
  running := {}
  published := none
  frames := 0
  ready := none

/-- The engine as it was at the start. -/
def reset [Arithmetic] (r : Raster) : Raster := fresh r.geometry

/-- The engine after a byte is written to an address of the register window. -/
def write (r : Raster) (w : RegisterWrite) : Raster :=
  { r with registers := r.registers.write w }

/-- The counts of a frame completed since they were last taken, and the engine without
them. -/
def takeReady (r : Raster) : Option FrameStats × Raster :=
  (r.ready, { r with ready := none })

/-- The band of a scanline under given registers: vertical sync goes before blanking, and
lines outside the picture are always blank. -/
def bandOf [Arithmetic] (g : Geometry) (file : RegisterFile) (scanline : Nat) : Band :=
  if scanline < g.vsyncLines && file.syncActive then .verticalSync
  else if scanline < g.firstVisibleLine || keep (g.firstVisibleLine + g.visibleHeight) ≤ scanline
      || file.blankActive then .blank
  else .visible

/-- The band of a scanline. -/
def classify [Arithmetic] (r : Raster) (scanline : Nat) : Band :=
  bandOf r.geometry r.registers scanline

/-- The cell of the playfield pattern that a column of the picture shows.  Each half of
the picture shows the twenty cells, the right half in reverse if the registers say so. -/
def cellOf [Arithmetic] (g : Geometry) (file : RegisterFile) (x : Nat) : Nat :=
  let half := g.visibleWidth / 2
  if x < half then keep (x * 20) / half
  else
    let cell := keep ((x - half) * 20) / (g.visibleWidth - half)
    if file.reflect && cell < 20 then 19 - cell else cell

/-- The color register value for a column of the picture under given registers. -/
def colorOf [Arithmetic] (g : Geometry) (file : RegisterFile) (x : Nat) : UInt8 :=
  if file.cell (cellOf g file x) then file.playfieldColor else file.backgroundColor

/-- The color register value for a column of the picture. -/
def pixelColor [Arithmetic] (r : Raster) (x : Nat) : UInt8 := colorOf r.geometry r.registers x

/-- The coordinates of the pixel that the next tick paints, if it paints one. -/
def spot? [Arithmetic] (r : Raster) : Option (Nat × Nat) :=
  match r.classify r.beam.scanline with
  | .visible =>
    if r.geometry.hblankColumns ≤ r.beam.column then
      some (r.beam.column - r.geometry.hblankColumns,
        r.beam.scanline - r.geometry.firstVisibleLine)
    else none
  | _ => none

/-- The engine with the next pixel painted and the next tick counted. -/
def expose [Arithmetic] (r : Raster) : Raster :=
  let band := r.classify r.beam.scanline
  match r.spot? with
  | some (x, y) =>
    let color := r.pixelColor x
    { r with
      picture := r.picture.paint x y color
      running := r.running.count band true }
  | none => { r with running := r.running.count band false }

/-- The engine with the beam moved one column on. -/
def move [Arithmetic] (r : Raster) : Raster :=
  if r.beam.column + 1 < r.geometry.ticksPerScanline then
    { r with beam := ⟨r.beam.scanline, r.beam.column + 1⟩ }
  else if r.beam.scanline + 1 < r.geometry.totalScanlines then
    { r with beam := ⟨r.beam.scanline + 1, 0⟩ }
  else
    { r with
      beam := ⟨0, 0⟩
      frames := r.frames + 1
      published := some r.running
      ready := some r.running
      running := {} }

/-- The engine after one tick. -/
def tick [Arithmetic] (r : Raster) : Raster := r.expose.move

/-- The engine after a number of ticks. -/
def advance [Arithmetic] (r : Raster) : Nat → Raster
  | 0 => r
  | n + 1 => r.tick.advance n

/-- The number of ticks up to the start of the next line. -/
def ticksToLineEnd (r : Raster) : Nat := r.geometry.ticksPerScanline - r.beam.column

/-- The engine at the start of the next line, and the number of ticks until then. -/
def finishLine [Arithmetic] (r : Raster) : Nat × Raster :=
  let ticks := r.ticksToLineEnd
  (ticks, r.advance ticks)

end Raster

end RasterConsole
