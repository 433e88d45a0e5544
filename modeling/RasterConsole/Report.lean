import RasterConsole.Console
import RasterConsole.Text.Json

/-!
# The report of a console

The state of a console that is of interest to a reader, as a JSON document: the registers
of the processor and of the raster engine, the position of the beam, the frames so far
with the counts of the last one, and the ticks still owed.
-/

namespace RasterConsole

open Text (Json)

/-- A byte in a report. -/
def reportByte (byte : UInt8) : Json := .number byte.toNat

/-- The registers of the processor. -/
def Core.report (c : Core) : Json :=
  .object [("a", reportByte c.a), ("x", reportByte c.x), ("y", reportByte c.y),
    ("sp", reportByte c.sp), ("pc", .number c.pc.toNat), ("p", reportByte c.status.toByte),
    ("cycles", .number c.cycles)]

/-- The registers of the raster engine. -/
def RegisterFile.report (file : RegisterFile) : Json :=
  .object [("vsync", .boolean file.syncActive), ("vblank", .boolean file.blankActive),
    ("background_color", reportByte file.backgroundColor),
    ("playfield_color", reportByte file.playfieldColor),
    ("playfield", .array [reportByte file.playfieldLeft, reportByte file.playfieldMiddle,
      reportByte file.playfieldRight]),
    ("playfield_ctrl", reportByte file.playfieldControl)]

/-- The position of the beam. -/
def Beam.report (b : Beam) : Json :=
  .object [("scanline", .number b.scanline), ("column", .number b.column)]

/-- The counts of a frame. -/
def FrameStats.report (s : FrameStats) : Json :=
  .object [("vsync_ticks", .number s.vsyncTicks), ("blank_ticks", .number s.blankTicks),
    ("visible_ticks", .number s.visibleTicks), ("pixels", .number s.pixels)]

/-- The state of a console. -/
def Console.reportDocument (c : Console) : Json :=
  .object [("cpu", c.processor.core.report), ("registers", c.raster.registers.report),
    ("position", c.raster.beam.report), ("frames", .number c.raster.frames),
    ("last_frame", match c.raster.published with
      | some stats => stats.report
      | none => .null),
    ("pending_ticks", .number c.processor.bus.owed)]

/-- The text of the state of a console. -/
def Console.report (c : Console) : String := c.reportDocument.pretty

end RasterConsole
