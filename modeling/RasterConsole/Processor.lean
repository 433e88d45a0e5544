import RasterConsole.Processor.Execution

/-!
# The processor

A processor is its registers together with the bus it runs on and the vectors of its
layout.  `Processor.step` runs one instruction; what an instruction has changed before it
fails stays changed.
-/

namespace RasterConsole

/-- A processor on its bus. -/
structure Processor where
  core : Core
  layout : Layout
  bus : Bus
  deriving DecidableEq, Inhabited

namespace Processor

/-- The processor of a console that has just been built. -/
def fresh [Arithmetic] (s : Settings) : Processor where
  core := Core.initial 0
  layout := s.layout
  bus := Bus.fresh s

/-- Puts the registers back and enters at the address stored in the reset vector. -/
def reset (p : Processor) : Except Fault Unit × Processor :=
  match p.bus.memory.readWord p.layout.resetVector.toNat with
  | .ok entry => (.ok (), { p with core := Core.initial entry })
  | .error fault => (.error fault, { p with core := Core.initial p.core.pc })

/-- Runs one instruction. -/
def step [Arithmetic] (p : Processor) : Except Fault Unit × Processor :=
  let ⟨core, layout, bus⟩ := p
  let (result, core, bus) := (Exec.instruction layout.irqVector core).onBus bus
  (result, ⟨core, layout, bus⟩)

/-- The processor with its bus flushed. -/
def flush [Arithmetic] (p : Processor) : Processor := { p with bus := p.bus.flush }

/-- The processor with a new budget on its bus. -/
def grant (p : Processor) (budget : Budget) : Processor := { p with bus := p.bus.grant budget }

/-- Runs instructions until the budget of the bus is spent or one of them fails, but at
most `limit` of them; there is no result if the limit comes first. -/
def runWithin [Arithmetic] (p : Processor) (limit : Nat) :
    Option (Except Fault Unit) × Processor :=
  let p := p.flush
  if p.bus.budget.isSpent then (some (.ok ()), p)
  else
    match limit with
    | 0 => (none, p)
    | limit + 1 =>
      match p.step with
      | (.ok (), p) => p.runWithin limit
      | (.error fault, p) => (some (.error fault), p)

end Processor

end RasterConsole
