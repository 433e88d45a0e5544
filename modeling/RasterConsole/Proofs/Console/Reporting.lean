import RasterConsole.Report

/-!
# What a report says

A document is a tree of values, and every value at its end has a path: the names of the members
and the positions of the items that lead there.  `Json.leaves` lists these values, and
`Console.state` lists what is of interest about a console in the same form.  A report says this
and nothing else (`Console.reports_reportDocument`).
-/

namespace RasterConsole

namespace Text.Json

/-- A path in front of the paths of values. -/
def under (name : String) (values : List (List String × Json)) : List (List String × Json) :=
  values.map fun (path, value) => (name :: path, value)

mutual

/-- The values of a document that hold no other values, with their paths. -/
def leaves : Json → List (List String × Json)
  | array items => itemLeaves 0 items
  | object members => memberLeaves members
  | value => [([], value)]

/-- The values in the items of an array from a position on. -/
def itemLeaves (position : Nat) : List Json → List (List String × Json)
  | [] => []
  | item :: rest => under (toString position) item.leaves ++ itemLeaves (position + 1) rest

/-- The values in the members of an object. -/
def memberLeaves : List (String × Json) → List (List String × Json)
  | [] => []
  | (name, value) :: rest => under name value.leaves ++ memberLeaves rest

end

end Text.Json

open Text (Json)

namespace Console

/-- The counts of the last frame, if there has been one. -/
def lastFrame (c : Console) : List (List String × Json) :=
  match c.raster.published with
  | none => [(["last_frame"], .null)]
  | some counts => [
    (["last_frame", "vsync_ticks"], .number counts.vsyncTicks),
    (["last_frame", "blank_ticks"], .number counts.blankTicks),
    (["last_frame", "visible_ticks"], .number counts.visibleTicks),
    (["last_frame", "pixels"], .number counts.pixels)]

/-- The state of a console as far as it is of interest to a reader. -/
def state (c : Console) : List (List String × Json) :=
  let core := c.processor.core
  let file := c.raster.registers
  [ (["cpu", "a"], .number core.a.toNat),
    (["cpu", "x"], .number core.x.toNat),
    (["cpu", "y"], .number core.y.toNat),
    (["cpu", "sp"], .number core.sp.toNat),
    (["cpu", "pc"], .number core.pc.toNat),
    (["cpu", "p"], .number core.status.toByte.toNat),
    (["cpu", "cycles"], .number core.cycles),
    (["registers", "vsync"], .boolean file.syncActive),
    (["registers", "vblank"], .boolean file.blankActive),
    (["registers", "background_color"], .number file.backgroundColor.toNat),
    (["registers", "playfield_color"], .number file.playfieldColor.toNat),
    (["registers", "playfield", "0"], .number file.playfieldLeft.toNat),
    (["registers", "playfield", "1"], .number file.playfieldMiddle.toNat),
    (["registers", "playfield", "2"], .number file.playfieldRight.toNat),
    (["registers", "playfield_ctrl"], .number file.playfieldControl.toNat),
    (["position", "scanline"], .number c.raster.beam.scanline),
    (["position", "column"], .number c.raster.beam.column),
    (["frames"], .number c.raster.frames)]
  ++ c.lastFrame ++ [(["pending_ticks"], .number c.processor.bus.owed)]

/-- A document says what is of interest about a console, and nothing else. -/
def Reports (c : Console) (document : Json) : Prop := document.leaves = c.state

end Console

end RasterConsole
