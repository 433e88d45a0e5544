import RasterConsole.Settings
import RasterConsole.Memory
import RasterConsole.Video.Raster

/-!
# The bus

The bus routes an access of the processor to memory or, for the first addresses, to the
registers of the raster engine.  It also keeps the two in step: cycles that the processor
spends are owed to the engine, and paid right before the next register access, as far as
a budget allows.  A register write that comes while ticks are still owed waits until they
are paid, so it takes effect at the tick at which it was made.  An access to the strobe
register owes the engine the rest of the line on which it was made.
-/

namespace RasterConsole

open Arithmetic (keep)

/-- How many more ticks the engine may run. -/
inductive Budget where
  | ticks (left : Nat)
  | unlimited
  deriving Repr, DecidableEq, Inhabited

namespace Budget

/-- The part of `owed` ticks that the budget allows. -/
def share (b : Budget) (owed : Nat) : Nat :=
  match b with
  | ticks left => min owed left
  | unlimited => owed

/-- Whether the budget allows all of `wanted` ticks. -/
def covers (b : Budget) (wanted : Nat) : Bool :=
  match b with
  | ticks left => decide (wanted ≤ left)
  | unlimited => true

/-- The budget after some ticks of it are used. -/
def spend (b : Budget) (used : Nat) : Budget :=
  match b with
  | ticks left => ticks (left - used)
  | unlimited => unlimited

/-- Whether nothing is left of the budget. -/
def isSpent : Budget → Bool
  | ticks left => left == 0
  | unlimited => false

end Budget

/-- Memory and raster engine as the processor sees them, the ticks owed to the engine, the
budget for paying them, and the register writes that wait behind them, oldest first. -/
structure Bus where
  memory : Memory
  raster : Raster
  ticksPerCycle : Nat
  owed : Nat
  budget : Budget
  waiting : List RegisterWrite
  deriving DecidableEq, Inhabited

namespace Bus

/-- The bus of a console that has just been built. -/
def fresh [Arithmetic] (s : Settings) : Bus where
  memory := Memory.zeroed s.memorySize
  raster := Raster.fresh s.geometry
  ticksPerCycle := s.ticksPerCycle
  owed := 0
  budget := .ticks 0
  waiting := []

/-- The bus with its engine back at the start and nothing owed.  Memory is kept. -/
def restart [Arithmetic] (b : Bus) : Bus :=
  { b with raster := b.raster.reset, owed := 0, budget := .ticks 0, waiting := [] }

/-- The bus with its memory zero and its engine back at the start. -/
def reset [Arithmetic] (b : Bus) : Bus := { b.restart with memory := b.memory.clear }

/-- The bus with a new budget in place of what was left of the old one. -/
def grant (b : Bus) (budget : Budget) : Bus := { b with budget := budget }

/-- The bus after the processor has spent some cycles. -/
def charge [Arithmetic] (b : Bus) (cycles : Nat) : Bus :=
  { b with owed := keep (b.owed + cycles * b.ticksPerCycle) }

/-- The bus after as many owed ticks as the budget allows. -/
def pay [Arithmetic] (b : Bus) : Bus :=
  let share := b.budget.share b.owed
  { b with
    raster := b.raster.advance share
    owed := b.owed - share
    budget := b.budget.spend share }

/-- The bus with its waiting writes made. -/
def land (b : Bus) : Bus :=
  { b with raster := b.waiting.foldl Raster.write b.raster, waiting := [] }

/-- The bus after owed ticks are paid as far as the budget allows, and after the waiting
writes are made if nothing is owed any more. -/
def flush [Arithmetic] (b : Bus) : Bus :=
  let paid := b.pay
  if paid.owed = 0 then paid.land else paid

/-- The ticks from the beam, as the processor sees it, to the start of the next line.  The
processor is ahead of the engine by the owed ticks. -/
def stall [Arithmetic] (b : Bus) : Nat :=
  let line := b.raster.geometry.ticksPerScanline
  line - keep (b.raster.beam.column + b.owed) % line

/-- The bus after the processor has waited for the end of the line: at once if nothing is
owed and the budget allows, else by owing the rest of the line as well. -/
def waitForLine [Arithmetic] (b : Bus) : Bus :=
  if b.owed = 0 && b.budget.covers b.raster.ticksToLineEnd then
    let ticks := b.raster.ticksToLineEnd
    { b with raster := b.raster.advance ticks, budget := b.budget.spend ticks }
  else flush { b with owed := keep (b.owed + b.stall) }

/-- The bus after an access to an address of the register window, before a value moves. -/
def touch [Arithmetic] (b : Bus) (address : UInt16) : Bus :=
  let settled := b.flush
  if isStrobeAddress address then settled.waitForLine else settled

/-- The bus after a register write that finds everything paid, or that has to wait. -/
def post (b : Bus) (w : RegisterWrite) : Bus :=
  if b.owed = 0 then { b with raster := b.raster.write w }
  else { b with waiting := b.waiting ++ [w] }

/-- A read by the processor. -/
def read [Arithmetic] (b : Bus) (address : UInt16) : Except Fault UInt8 × Bus :=
  if address < windowSize then
    let settled := b.touch address
    (.ok (settled.raster.registers.read address), settled)
  else (b.memory.read address.toNat, b)

/-- A write by the processor.  A byte written to a strobe register is dropped. -/
def write [Arithmetic] (b : Bus) (address : UInt16) (value : UInt8) :
    Except Fault Unit × Bus :=
  if address < windowSize then
    let settled := b.touch address
    if isStrobeAddress address then (.ok (), settled)
    else (.ok (), settled.post ⟨address, value⟩)
  else
    match b.memory.writeFault? address.toNat with
    | some fault => (.error fault, b)
    | none => (.ok (), { b with memory := b.memory.store address.toNat value })

/-- What a read would find, without reading. -/
def peek (b : Bus) (address : UInt16) : Except Fault UInt8 :=
  if address < windowSize then .ok (b.raster.registers.read address)
  else b.memory.read address.toNat

/-- A read of two consecutive bytes; the address after the last one is zero. -/
def readWord [Arithmetic] (b : Bus) (address : UInt16) : Except Fault UInt16 × Bus :=
  match b.read address with
  | (.error fault, b) => (.error fault, b)
  | (.ok low, b) =>
    match b.read (address + 1) with
    | (.error fault, b) => (.error fault, b)
    | (.ok high, b) => (.ok (wordOf low high), b)

end Bus

end RasterConsole
