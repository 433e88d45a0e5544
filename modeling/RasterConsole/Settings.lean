import RasterConsole.Geometry

/-!
# Settings

What can be chosen about a console before it is built: how much memory it has, how many
ticks a processor cycle takes, the geometry of a frame, and where a program is loaded.
`Settings.validate` refuses settings of which no console can be built.  How settings are
written down is up to a parser, which `Settings.ofText` is given.
-/

namespace RasterConsole

/-- Where a program lands in memory and where the processor finds its entry points. -/
structure Layout where
  base : UInt16 := 0xF000
  resetVector : UInt16 := 0xFFFC
  irqVector : UInt16 := 0xFFFE
  deriving Repr, DecidableEq, Inhabited

/-- The choices from which a console is built. -/
structure Settings where
  memorySize : Nat := 0x10000
  ticksPerCycle : Nat := 3
  geometry : Geometry := {}
  layout : Layout := {}
  deriving Repr, DecidableEq, Inhabited

namespace Settings

/-- Whether the two bytes of a vector lie inside the memory. -/
def holdsVector (s : Settings) (vector : UInt16) : Bool :=
  decide (vector.toNat + 2 ≤ s.memorySize)

/-- The first defect of the settings apart from their geometry. -/
def defect? (s : Settings) : Option SettingsDefect :=
  if s.ticksPerCycle = 0 then some .zeroTicksPerCycle
  else if !s.holdsVector s.layout.resetVector then
    some (.vectorOutside s.layout.resetVector s.memorySize)
  else if !s.holdsVector s.layout.irqVector then
    some (.vectorOutside s.layout.irqVector s.memorySize)
  else none

/-- Refuses settings that have a defect; one of the geometry comes first. -/
def validate (s : Settings) : Except Fault Unit :=
  match s.geometry.validate with
  | .error fault => .error fault
  | .ok () =>
    match s.defect? with
    | some defect => .error (.config defect)
    | none => .ok ()

/-- The settings that a text gives, if it can be parsed and they have no defect. -/
def ofText (parse? : String → Option Settings) (text : String) : Except Fault Settings :=
  match parse? text with
  | none => .error (.config .unreadable)
  | some settings => settings.validate.map fun _ => settings

/-- The settings with another load address, if one is given. -/
def rebase (s : Settings) (base? : Option UInt16) : Settings :=
  { s with layout := { s.layout with base := base?.getD s.layout.base } }

end Settings

end RasterConsole
