import RasterConsole.Proofs.Bus.Ledger
import RasterConsole.Proofs.Console.Exactness

/-!
# Stepping and running

A program may be run instruction by instruction, each with all its ticks paid at its end,
or by a call for a number of ticks, which pays at accesses to the register window and
between instructions.  From a console that owes nothing both come to the same
(`runTicks_eq_runSteps`): a call for just the ticks that the single steps have taken does
the same instructions and stops behind the last of them.
-/

namespace RasterConsole

attribute [local instance] Arithmetic.exact

namespace Processor

/-! ### An instruction and its price -/

/-- The processor after an instruction for which nothing has been paid. -/
def stepUnpaid [Arithmetic] (p : Processor) : Processor := (p.grant (.ticks 0)).step.2

/-- The ticks that the next instruction takes. -/
def price [Arithmetic] (p : Processor) : Nat := p.stepUnpaid.bus.owed

/-- The processor after an instruction for which just its price has been paid. -/
def stepPaid [Arithmetic] (p : Processor) : Processor := (p.stepUnpaid.grant (.ticks p.price)).flush

/-- Nothing is owed and nothing waits behind an instruction that has been paid for. -/
theorem bus_stepPaid (p : Processor) :
  p.stepPaid.bus.owed = 0 ∧ p.stepPaid.bus.waiting = [] ∧ p.stepPaid.bus.budget = .ticks 0
  := by
  have hbus := Bus.flush_grant_owed p.stepUnpaid.bus
  exact ⟨congrArg Bus.owed hbus, congrArg Bus.waiting hbus, congrArg Bus.budget hbus⟩

/-- There is nothing to flush on any budget if nothing is owed and nothing waits. -/
theorem flush_grant_of_settled {p : Processor} (howed : p.bus.owed = 0)
    (hw : p.bus.waiting = []) (budget : Budget) :
  (p.grant budget).flush = p.grant budget
  := congrArg (Processor.mk p.core p.layout)
    (Bus.flush_of_settled (b := p.bus.grant budget) howed hw)

theorem raster_grant (p : Processor) (budget : Budget) :
  (p.grant budget).bus.raster = p.bus.raster
  := rfl

section

variable {s : Settings} {p q : Processor} {result : Except Fault Unit}

theorem Sound.stepPaid (hp : p.Sound s) :
  p.stepPaid.Sound s
  := ((hp.grant (.ticks 0)).step.grant (.ticks p.price)).flush

/-- On a processor that owes nothing, an instruction has the same result on every budget,
and it makes no difference to the final flush what has been paid before it. -/
theorem Sound.step_of_settled (hp : p.Sound s) (howed : p.bus.owed = 0) (budget : Budget) :
  (p.grant budget).step.1 = (p.grant (.ticks 0)).step.1
    ∧ (p.grant budget).step.2.flush = (p.stepUnpaid.grant budget).flush
  := by
  obtain ⟨hresult, hahead⟩ :=
    step_grant (p := p.grant (.ticks 0)) (hp.grant (.ticks 0)).consistent howed rfl budget
  exact ⟨hresult, hahead.flush_eq⟩

/-- Without a limit the price of the instruction is paid and nothing else. -/
theorem Sound.step_unlimited (hp : p.Sound s) (howed : p.bus.owed = 0) :
  (p.grant .unlimited).step.2.flush.grant (.ticks 0) = p.stepPaid
  := by
  obtain ⟨-, hflush⟩ := hp.step_of_settled howed .unlimited
  have hc : (p.stepUnpaid.bus.grant .unlimited).budget.covers
      (p.stepUnpaid.bus.grant .unlimited).owed = true := rfl
  have hbus : (p.stepUnpaid.bus.grant .unlimited).flush.grant (.ticks 0)
      = (p.stepUnpaid.bus.grant (.ticks p.stepUnpaid.bus.owed)).flush := by
    rw [Bus.flush_of_covers hc, Bus.flush_grant_owed]
    rfl
  rw [hflush]
  exact congrArg (Processor.mk p.stepUnpaid.core p.stepUnpaid.layout) hbus

/-- A budget that covers the price pays it and keeps the rest. -/
theorem Sound.step_covered (hp : p.Sound s) (howed : p.bus.owed = 0) (more : Nat) :
  (p.grant (.ticks (p.price + more))).step.2.flush = p.stepPaid.grant (.ticks more)
  := by
  obtain ⟨-, hflush⟩ := hp.step_of_settled howed (.ticks (p.price + more))
  have hprice : p.stepUnpaid.bus.owed ≤ p.price + more := Nat.le_add_right _ _
  rw [hflush, flush_grant_of_owed_le hprice]
  exact congrArg (fun left => p.stepPaid.grant (.ticks left)) (Nat.add_sub_cancel_left _ _)

/-- An instruction that succeeds takes time. -/
theorem Sound.price_pos (hp : p.Sound s) (hs : s.validate = .ok ())
    (hok : (p.grant (.ticks 0)).step.1 = .ok ()) :
  0 < p.price
  := by
  have hunpaid : Bus.Unpaid 0 (p.grant (.ticks 0)).bus :=
    ⟨(hp.grant _).consistent, rfl, Nat.zero_le _⟩
  have hrate := Settings.ticksPerCycle_pos hs
  calc 0
      < 2 * s.ticksPerCycle := by omega
    _ ≤ p.price := Exec.instruction_owes hunpaid (hp.grant (.ticks 0)).suits hok

/-- The engine runs as many ticks as the instruction takes. -/
theorem Sound.clock_stepPaid (hp : p.Sound s) (howed : p.bus.owed = 0) :
  p.stepPaid.bus.raster.clock = p.bus.raster.clock + p.price
  := by
  have hgrant := (hp.grant (.ticks p.price)).consistent
  have hpaid := hp.step_covered howed 0
  rw [Nat.add_zero] at hpaid
  have hled : (p.grant (.ticks p.price)).bus.LeadsTo (p.stepPaid.grant (.ticks 0)).bus := by
    rw [← hpaid]
    exact (leadsTo_step hgrant).trans (Bus.leadsTo_flush _)
  obtain ⟨_, _, _, hcourse⟩ := hled
  have hbudget : (p.grant (.ticks p.price)).bus.budget = .ticks p.price := rfl
  obtain ⟨left, hleft, hclock⟩ := hcourse.balance hgrant.onFrame hbudget
  have hspent : (p.stepPaid.grant (.ticks 0)).bus.budget = .ticks 0 := rfl
  rw [hspent, Budget.ticks.injEq] at hleft
  rw [← hleft, Nat.add_zero, raster_grant, raster_grant] at hclock
  apply hclock

/-- A run that begins with an instruction goes on from where the instruction leaves, on what
is left of the budget. -/
theorem Sound.runs_of_stepPaid (hp : p.Sound s) (hs : s.validate = .ok ())
    (howed : p.bus.owed = 0) (hok : (p.grant (.ticks 0)).step.1 = .ok ()) {more : Nat}
    (h : Runs (p.stepPaid.grant (.ticks more)) result q) :
  Runs (p.grant (.ticks (p.price + more))) result q
  := by
  have hsettled := flush_grant_of_settled howed (hp.consistent.waiting_nil howed)
    (.ticks (p.price + more))
  obtain ⟨hresult, -⟩ := hp.step_of_settled howed (.ticks (p.price + more))
  apply Runs.more
  · rw [hsettled]
    have hpos := hp.price_pos hs hok
    change (p.price + more == 0) = false
    rw [beq_eq_false_iff_ne]
    omega
  · rw [hsettled]
    exact Prod.ext (hresult.trans hok) rfl
  · apply h.of_flush_eq
    obtain ⟨howed', hwaiting, -⟩ := p.bus_stepPaid
    rw [hp.step_covered howed, flush_grant_of_settled howed' hwaiting]

end

end Processor

namespace Console

/-! ### A row of single steps -/

/-- The console after a number of single steps, with the result of each. -/
def runSteps [Arithmetic] (c : Console) : Nat → List (Except Fault Unit) × Console
  | 0 => ([], c)
  | n + 1 =>
    let (result, c) := c.step
    let (results, c) := c.runSteps n
    (result :: results, c)

/-- The console runs and owes nothing. -/
structure Idle [Arithmetic] (s : Settings) (c : Console) : Prop extends Sound s c where
  faulted_eq : c.faulted = false
  owed_eq : c.processor.bus.owed = 0

/-- From `c` the engine runs `ticks` ticks until `c'`, and whatever a run from `c'` comes to,
a run from `c` on a budget of so many ticks more comes to as well. -/
structure GoesOn [Arithmetic] (c : Console) (ticks : Nat) (c' : Console) : Prop where
  clock_eq : c'.raster.clock = c.raster.clock + ticks
  runs : ∀ {more result q}, (c'.processor.grant (.ticks more)).Runs result q →
    (c.processor.grant (.ticks (ticks + more))).Runs result q

section

variable {s : Settings} {c c' c'' : Console} {ticks ticks' n : Nat}

theorem GoesOn.refl (c : Console) :
  c.GoesOn 0 c
  := by
  constructor
  · rfl
  · intro more result q h
    rw [Nat.zero_add]
    apply h

theorem GoesOn.trans (h : c.GoesOn ticks c') (h' : c'.GoesOn ticks' c'') :
  c.GoesOn (ticks + ticks') c''
  := by
  constructor
  · rw [h'.clock_eq, h.clock_eq, Nat.add_assoc]
  · intro more result q hruns
    rw [Nat.add_assoc]
    apply h.runs (h'.runs hruns)

/-- A single step from a console that owes nothing is an instruction that is paid for. -/
theorem Idle.step_eq (h : c.Idle s) :
  c.step = guard s ((c.processor.grant (.ticks 0)).step.1, c.processor.stepPaid)
  := by
  obtain ⟨hresult, -⟩ := h.processor.step_of_settled h.owed_eq .unlimited
  rw [step_of_running h.faulted_eq, h.settings_eq, hresult,
    h.processor.step_unlimited h.owed_eq]

/-- A single step that succeeds leads to a console that owes nothing. -/
theorem Idle.step (h : c.Idle s) (hok : c.step.1 = .ok ()) :
  c.step.2.Idle s ∧ c.step.2.processor.bus.budget = .ticks 0
    ∧ ∃ ticks, c.GoesOn ticks c.step.2
  := by
  have hsound := h.toSound.step
  rw [h.step_eq, guard_fst] at hok
  rw [h.step_eq, hok] at hsound ⊢
  obtain ⟨howed, -, hbudget⟩ := c.processor.bus_stepPaid
  refine ⟨⟨hsound, rfl, howed⟩, hbudget, c.processor.price, ?_, ?_⟩
  · apply h.processor.clock_stepPaid h.owed_eq
  · intro more result q hruns
    apply h.processor.runs_of_stepPaid h.valid h.owed_eq hok hruns

/-- Single steps that succeed lead to a console that owes nothing. -/
theorem Idle.runSteps (h : c.Idle s) (hok : ∀ result ∈ (c.runSteps n).1, result = .ok ()) :
  (c.runSteps n).2.Idle s ∧ (0 < n → (c.runSteps n).2.processor.bus.budget = .ticks 0)
    ∧ ∃ ticks, c.GoesOn ticks (c.runSteps n).2
  := by
  induction n generalizing c with
  | zero => exact ⟨h, fun hpos => absurd hpos (Nat.lt_irrefl 0), 0, .refl c⟩
  | succ n ih =>
      obtain ⟨hstep, hsteps⟩ := List.forall_mem_cons.mp hok
      obtain ⟨hidle, hbudget, ticks, hgoesOn⟩ := h.step hstep
      obtain ⟨hidle', hbudget', ticks', hgoesOn'⟩ := ih hidle hsteps
      refine ⟨hidle', fun _ => ?_, ticks + ticks', hgoesOn.trans hgoesOn'⟩
      cases n with
      | zero => exact hbudget
      | succ n => exact hbudget' (Nat.succ_pos n)

end

end Console

end RasterConsole
