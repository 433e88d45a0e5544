import RasterConsole.Settings
import RasterConsole.Toml.Document

/-!
# Settings from text

`Settings.parse?` takes settings from a TOML document, and `Settings.read` refuses those
that have a defect.  What the document does not mention keeps its default, and what it
mentions without need is ignored.  The geometry and the layout may be given as a table or as
an array of their entries in the order of the structure.
-/

namespace RasterConsole

open Toml (Node Members)

/-- An integer below a limit. -/
def naturalBelow? (limit : Nat) : Node → Option Nat
  | .integer (.ofNat value) => if value < limit then some value else none
  | _ => none

/-- An entry of the settings: the default if there is no node for it. -/
def entry? {α : Type} (read : Node → Option α) (default : α) : Option Node → Option α
  | some node => read node
  | none => some default

/-- A count of ticks, lines or bytes. -/
def count? (default : Nat) : Option Node → Option Nat :=
  entry? (naturalBelow? 0x10000000000000000) default

/-- An address. -/
def address? (default : UInt16) : Option Node → Option UInt16 :=
  entry? (fun node => (naturalBelow? 0x10000 node).map Nat.toUInt16) default

/-- How to find the nodes of a record: by name in a table, by position in an array.  A date
holds none of them. -/
def entries? : Node → Option (String → Nat → Option Node)
  | .table _ members => some fun name _ => Members.node? members name
  | .array items => some fun _ position => items[position]?
  | .datetime => some fun _ _ => none
  | _ => none

/-- A geometry. -/
def Geometry.ofNode? (node : Node) : Option Geometry := do
  let entry ← entries? node
  let d : Geometry := {}
  return {
    visibleWidth := ← count? d.visibleWidth (entry "visible_width" 0)
    visibleHeight := ← count? d.visibleHeight (entry "visible_height" 1)
    vsyncLines := ← count? d.vsyncLines (entry "vsync_lines" 2)
    vblankTop := ← count? d.vblankTop (entry "vblank_top" 3)
    vblankBottom := ← count? d.vblankBottom (entry "vblank_bottom" 4)
    ticksPerScanline := ← count? d.ticksPerScanline (entry "ticks_per_scanline" 5) }

/-- A layout. -/
def Layout.ofNode? (node : Node) : Option Layout := do
  let entry ← entries? node
  let d : Layout := {}
  return {
    base := ← address? d.base (entry "base" 0)
    resetVector := ← address? d.resetVector (entry "reset_vector" 1)
    irqVector := ← address? d.irqVector (entry "irq_vector" 2) }

namespace Settings

/-- The settings in the members of a document. -/
def ofMembers? (members : Members) : Option Settings := do
  let d : Settings := {}
  return {
    memorySize := ← count? d.memorySize (members.node? "memory_size")
    ticksPerCycle := ← count? d.ticksPerCycle (members.node? "ticks_per_cpu_cycle")
    geometry := ← entry? Geometry.ofNode? d.geometry (members.node? "geometry")
    layout := ← entry? Layout.ofNode? d.layout (members.node? "layout") }

/-- The settings that a TOML document gives, if it can be read. -/
def parse? (text : String) : Option Settings := Toml.parse? text >>= ofMembers?

/-- The settings that a TOML document gives, if it can be read and they have no defect. -/
def read (text : String) : Except Fault Settings := ofText parse? text

end Settings

end RasterConsole
