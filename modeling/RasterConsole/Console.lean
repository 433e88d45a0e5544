import RasterConsole.Processor

/-!
# The console

A console boots a program, runs it by frames, by ticks or by instructions, and presents
the picture.  After a failure it is faulted: it refuses to run and to present until it is
reset or boots again.
-/

namespace RasterConsole

/-- A console. -/
structure Console where
  settings : Settings
  processor : Processor
  faulted : Bool
  deriving DecidableEq, Inhabited

namespace Console

/-- A console that has not booted, if the settings allow one. -/
def build [Arithmetic] (s : Settings) : Except Fault Console :=
  match s.validate with
  | .error fault => .error fault
  | .ok () => .ok ⟨s, Processor.fresh s, false⟩

/-- The console after an operation of its processor, faulted if that has failed. -/
def guard (s : Settings) (outcome : Except Fault Unit × Processor) :
    Except Fault Unit × Console :=
  match outcome with
  | (.ok (), p) => (.ok (), ⟨s, p, false⟩)
  | (.error fault, p) => (.error fault, ⟨s, p, true⟩)

/-- The memory with a program at its base and both vectors pointing there. -/
def install (layout : Layout) (memory : Memory) (program : List UInt8) :
    Except Fault Memory := do
  let memory ← memory.load layout.base.toNat program
  let memory ← memory.writeWord layout.resetVector.toNat layout.base
  memory.writeWord layout.irqVector.toNat layout.base

/-- Clears memory and engine, installs a program and enters it. -/
def boot [Arithmetic] (c : Console) (program : List UInt8) : Except Fault Unit × Console :=
  let bus := c.processor.bus.reset
  match install c.settings.layout bus.memory program with
  | .ok memory =>
    guard c.settings { c.processor with bus := { bus with memory := memory } }.reset
  | .error fault => (.error fault, ⟨c.settings, { c.processor with bus := bus }, true⟩)

/-- A console with the default settings that has booted a program. -/
def bootFresh [Arithmetic] (program : List UInt8) : Except Fault Console := do
  let console ← build {}
  match console.boot program with
  | (.ok (), console) => .ok console
  | (.error fault, _) => .error fault

/-- Enters the program in memory again, with the engine back at the start. -/
def reset [Arithmetic] (c : Console) : Except Fault Unit × Console :=
  guard c.settings { c.processor with bus := c.processor.bus.restart }.reset

/-- Runs one instruction and pays all its ticks. -/
def step [Arithmetic] (c : Console) : Except Fault Unit × Console :=
  if c.faulted then (.error .faulted, c)
  else
    let ⟨settings, p, _⟩ := c
    match (p.grant .unlimited).step with
    | (result, p) => guard settings (result, p.flush.grant (.ticks 0))

/-- The number of instructions after which a call for a number of ticks is given up.  An
instruction that costs ticks is paid for, so one instruction for each tick is more than
enough.  Where a word has lost the cost of an instruction, the instruction is free, and a
program may go on and on with such instructions. -/
def patience (ticks : Nat) : Nat := max ticks UInt64.size

/-- Runs the program until the engine has run a number of ticks.  What is left of the last
instruction carries over to the next call. -/
def runTicks [Arithmetic] (c : Console) (ticks : Nat) : Except Fault Unit × Console :=
  if c.faulted then (.error .faulted, c)
  else
    let ⟨settings, p, _⟩ := c
    match (p.grant (.ticks ticks)).runWithin (patience ticks) with
    | (result, p) => guard settings (result.getD (.ok ()), p)

/-- Runs the program for as many ticks as a frame has, and takes the finished frame. -/
def runFrame [Arithmetic] (c : Console) : Except Fault Unit × Console :=
  match c.runTicks c.settings.geometry.ticksPerFrame with
  | (.error fault, c) => (.error fault, c)
  | (.ok (), c) =>
    let ⟨settings, ⟨core, layout, bus⟩, faulted⟩ := c
    let (_, raster) := bus.raster.takeReady
    (.ok (), ⟨settings, ⟨core, layout, { bus with raster := raster }⟩, faulted⟩)

/-- The raster engine. -/
def raster (c : Console) : Raster := c.processor.bus.raster

/-- The picture as it is now. -/
def picture (c : Console) : Picture := c.raster.picture

/-- The width and height that the settings ask for. -/
def resolution (c : Console) : Nat × Nat :=
  (c.settings.geometry.visibleWidth, c.settings.geometry.visibleHeight)

/-- The picture as it is handed to a display. -/
def frame (c : Console) : Frame where
  bytes := c.picture.bytes
  width := c.resolution.1
  height := c.resolution.2

/-- Hands the picture to a display. -/
def present [Arithmetic] {σ : Type} (c : Console) (sink : Sink σ) (display : σ) :
    Except Fault Unit × σ :=
  if c.faulted then (.error .faulted, display)
  else c.frame.present sink display

end Console

end RasterConsole
