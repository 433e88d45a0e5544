import RasterConsole.Text.Hexadecimal
import RasterConsole.Decimal.Shortest

/-!
# Faults

`Fault` lists the causes for which an operation of the console can fail, each with the
data that its message needs, and `Fault.message` is the one place where they are put
into words.
-/

namespace RasterConsole

open Text (hexadecimal)

/-- Why a number is no tick request. -/
inductive TickDefect where
  /-- The request is a negative integer. -/
  | negative (ticks : Int)
  /-- The request is no whole number, or too large, or no number. -/
  | notWhole (value : Binary64)
  deriving Repr, DecidableEq

/-- The sizes of a frame that may not be zero. -/
inductive FrameSide where
  | visibleWidth
  | visibleHeight
  | ticksPerScanline
  deriving Repr, DecidableEq

/-- Why a frame geometry is refused. -/
inductive GeometryDefect where
  | zero (side : FrameSide)
  | tooWide (width ticks : Nat)
  deriving Repr, DecidableEq

/-- Why settings are refused. -/
inductive SettingsDefect where
  /-- A processor cycle would take no time. -/
  | zeroTicksPerCycle
  /-- A vector does not lie wholly inside the memory. -/
  | vectorOutside (vector : UInt16) (memorySize : Nat)
  /-- The settings text breaks the format or holds a value of the wrong type. -/
  | unreadable
  deriving Repr, DecidableEq

/-- The cause of a failure. -/
inductive Fault where
  | addressing (address capacity : Nat)
  | invalidTickRequest (defect : TickDefect)
  | loadOverflow (base length capacity : Nat)
  | invalidGeometry (defect : GeometryDefect)
  | unknownOpcode (opcode : UInt8) (pc : UInt16)
  | frameSize (expected actual : Nat)
  | display (reason : String)
  /-- The console has failed before and waits for a reset. -/
  | faulted
  | config (defect : SettingsDefect)
  /-- An instruction met an operand of a kind that its meaning does not cover.  No entry
  of the opcode table leads here. -/
  | operandMismatch
  deriving Repr, DecidableEq

/-- The words for a defect of a tick request. -/
def TickDefect.message : TickDefect → String
  | negative ticks => s!"negative tick count {ticks}"
  | notWhole value => "tick count " ++ value.text ++ " is not a whole non negative number"

/-- The setting that holds a size. -/
def FrameSide.name : FrameSide → String
  | visibleWidth => "visible_width"
  | visibleHeight => "visible_height"
  | ticksPerScanline => "ticks_per_scanline"

/-- The words for a defect of a geometry. -/
def GeometryDefect.message : GeometryDefect → String
  | zero side => side.name ++ " must be non zero"
  | tooWide width ticks => s!"visible width {width} exceeds {ticks} ticks per scanline"

/-- The words for a defect of settings. -/
def SettingsDefect.message : SettingsDefect → String
  | zeroTicksPerCycle => "ticks_per_cpu_cycle must be non zero"
  | vectorOutside vector memorySize =>
    "vector 0x" ++ hexadecimal 4 vector.toNat ++ " outside memory of 0x"
      ++ hexadecimal 1 memorySize ++ " bytes"
  | unreadable => "settings cannot be read"

/-- The words for a failure. -/
def Fault.message : Fault → String
  | addressing address capacity =>
    "address 0x" ++ hexadecimal 4 address ++ " outside memory of 0x" ++ hexadecimal 1 capacity
      ++ " bytes"
  | invalidTickRequest defect => "invalid tick request: " ++ defect.message
  | loadOverflow base length capacity =>
    s!"{length} bytes at 0x" ++ hexadecimal 4 base ++ " overflow memory of 0x"
      ++ hexadecimal 1 capacity ++ " bytes"
  | invalidGeometry defect => "invalid frame geometry: " ++ defect.message
  | unknownOpcode opcode pc =>
    "unknown opcode " ++ hexadecimal 2 opcode.toNat ++ " at " ++ hexadecimal 4 pc.toNat
  | frameSize expected actual =>
    s!"frame buffer is {actual} bytes, display expects {expected}"
  | display reason => "display sink failed: " ++ reason
  | faulted => "console faulted, frame discarded; reset required"
  | config defect => "config error: " ++ defect.message
  | operandMismatch => "operand does not fit the instruction"

end RasterConsole
