import RasterConsole.Processor
import RasterConsole.Proofs.Processor.Requests

/-!
# Runs of the processor

`Processor.Runs` is the loop of the console without a limit: flush, stop if the budget is
spent, else run an instruction and go on.  Every documented instruction takes at least two
cycles, so a run within a limit comes to an end as soon as the limit is large enough for
the budget (`runWithin_isSome`).

A run may be cut at any tick (`Runs.cut`): running out of a budget of `first` ticks, and
then out of one of `rest` ticks, is running out of a budget of `first + rest` ticks.  The
cut may fall inside an instruction, whose debt and waiting write the second run takes up.
-/

namespace RasterConsole

attribute [local instance] Arithmetic.exact

/-! ### The cycles of an instruction -/

/-- Every documented instruction takes at least two cycles. -/
theorem Instruction.two_le_cycles {opcode : UInt8} {i : Instruction}
    (h : ofOpcode? opcode = some i) :
  2 ≤ i.cycles
  := by
  have htable : ∀ i ∈ opcodeTable, 2 ≤ i.cycles := by decide +kernel
  apply htable i (List.mem_of_find?_eq_some h)

/-- The course of an instruction: the fetch of the opcode, then its cycles, then all the
rest. -/
theorem Exec.instruction_eq (irqVector : UInt16) (core : Core) :
  instruction irqVector core =
    .read core core.pc fun opcode =>
      match Instruction.ofOpcode? opcode with
      | none => .fail (.unknownOpcode opcode core.pc) { core with pc := core.pc + 1 }
      | some i =>
        .charge i.cycles ((operand i >>= execute irqVector i.mnemonic)
          { core with pc := core.pc + 1, cycles := core.cycles + i.cycles })
  := by
  apply congrArg (Activity.read core core.pc)
  funext opcode
  change (Activity.done opcode { core with pc := core.pc + 1 }).andThen _ = _
  simp only [Activity.andThen]
  cases Instruction.ofOpcode? opcode with
  | none => rfl
  | some i => rfl

/-- An instruction that succeeds owes at least the ticks of two cycles. -/
theorem Exec.instruction_owes {irqVector : UInt16} {core : Core} {s : Settings} {b : Bus}
    (hb : b.Unpaid 0) (hs : b.Suits s) (h : ((instruction irqVector core).onBus b).1 = .ok ()) :
  2 * s.ticksPerCycle ≤ ((instruction irqVector core).onBus b).2.2.owed
  := by
  rw [instruction_eq] at h ⊢
  cases hfetch : (b.read core.pc).1 with
  | error fault =>
      rw [Activity.onBus_read_error hfetch] at h
      cases h
  | ok opcode =>
      rw [Activity.onBus_read_ok hfetch] at h ⊢
      cases hdecode : Instruction.ofOpcode? opcode with
      | none =>
          rw [hdecode] at h
          cases h
      | some i =>
          have hcharge : Bus.Unpaid (i.cycles * s.ticksPerCycle)
              ((b.read core.pc).2.charge i.cycles) := by
            rw [Bus.charge_eq, (hs.read core.pc).ticksPerCycle_eq]
            apply ((hb.read core.pc).owe _).mono (Nat.le_add_left _ _)
          have hend := Activity.onBus_preserves (fun _ address h => h.read address)
            (fun _ address value h => h.write address value) (fun _ cycles h => h.charge cycles)
            ((operand i >>= execute irqVector i.mnemonic)
              { core with pc := core.pc + 1, cycles := core.cycles + i.cycles }) hcharge
          calc 2 * s.ticksPerCycle
              ≤ i.cycles * s.ticksPerCycle :=
                Nat.mul_le_mul_right _ (Instruction.two_le_cycles hdecode)
            _ ≤ _ := hend.le_owed

namespace Processor

/-- The loop of the console. -/
inductive Runs [Arithmetic] : Processor → Except Fault Unit → Processor → Prop
  | spent {p : Processor} (h : p.flush.bus.budget.isSpent = true) :
    Runs p (.ok ()) p.flush
  | failed {p q : Processor} {fault : Fault} (h : p.flush.bus.budget.isSpent = false)
      (hstep : p.flush.step = (.error fault, q)) :
    Runs p (.error fault) q
  | more {p q r : Processor} {result : Except Fault Unit}
      (h : p.flush.bus.budget.isSpent = false) (hstep : p.flush.step = (.ok (), q))
      (hrest : Runs q result r) :
    Runs p result r

/-- What a run within a limit finds is what the loop comes to. -/
theorem runs_of_runWithin {p q : Processor} {limit : Nat} {result : Except Fault Unit}
    (h : p.runWithin limit = (some result, q)) :
  Runs p result q
  := by
  induction limit generalizing p with
  | zero =>
      unfold runWithin at h
      dsimp only at h
      split_ifs at h with hspent
      · cases h
        exact .spent hspent
      · cases h
  | succ limit ih =>
      unfold runWithin at h
      dsimp only at h
      split_ifs at h with hspent
      · cases h
        exact .spent hspent
      · rw [Bool.not_eq_true] at hspent
        rcases hstep : p.flush.step with ⟨fault | _, q'⟩
        · rw [hstep] at h
          cases h
          exact .failed hspent hstep
        · rw [hstep] at h
          exact .more hspent hstep (ih h)

/-- The loop comes to one end only. -/
theorem Runs.unique {p q q' : Processor} {result result' : Except Fault Unit}
    (h : Runs p result q) (h' : Runs p result' q') :
  result = result' ∧ q = q'
  := by
  induction h with
  | spent hspent =>
      cases h' with
      | spent _ => exact ⟨rfl, rfl⟩
      | failed hleft _ | more hleft _ _ =>
          rw [hspent] at hleft
          cases hleft
  | failed hleft hstep =>
      cases h' with
      | spent hspent =>
          rw [hspent] at hleft
          cases hleft
      | failed _ hstep' =>
          rw [hstep] at hstep'
          cases hstep'
          exact ⟨rfl, rfl⟩
      | more _ hstep' _ =>
          rw [hstep] at hstep'
          cases hstep'
  | more hleft hstep _ ih =>
      cases h' with
      | spent hspent =>
          rw [hspent] at hleft
          cases hleft
      | failed _ hstep' =>
          rw [hstep] at hstep'
          cases hstep'
      | more _ hstep' hrest =>
          rw [hstep] at hstep'
          cases hstep'
          apply ih hrest

/-- The loop begins with a flush, so processors that agree once they are flushed run
alike. -/
theorem Runs.of_flush_eq {p p' q : Processor} {result : Except Fault Unit}
    (hflush : p.flush = p'.flush) (h : Runs p result q) :
  Runs p' result q
  := by
  cases h with
  | spent hspent =>
      rw [hflush] at hspent ⊢
      exact .spent hspent
  | failed hleft hstep =>
      rw [hflush] at hleft hstep
      exact .failed hleft hstep
  | more hleft hstep hrest =>
      rw [hflush] at hleft hstep
      exact .more hleft hstep hrest

/-! ### Soundness -/

/-- The bus of the processor is consistent and built as the settings say. -/
structure Sound [Arithmetic] (s : Settings) (p : Processor) : Prop where
  consistent : p.bus.Consistent
  suits : p.bus.Suits s

section

variable {s : Settings} {p q : Processor}

theorem Sound.grant (h : p.Sound s) (budget : Budget) :
  (p.grant budget).Sound s
  := ⟨h.consistent.grant budget, h.suits.grant budget⟩

theorem Sound.flush (h : p.Sound s) :
  p.flush.Sound s
  := ⟨h.consistent.flush, h.suits.flush⟩

/-- What every access and every charge of the bus preserves, an instruction preserves. -/
theorem step_preserves [Arithmetic] {P : Bus → Prop}
    (hread : ∀ b address, P b → P (b.read address).2)
    (hwrite : ∀ b address value, P b → P (b.write address value).2)
    (hcharge : ∀ b cycles, P b → P (b.charge cycles)) (h : P p.bus) :
  P p.step.2.bus
  := Activity.onBus_preserves hread hwrite hcharge (Exec.instruction p.layout.irqVector p.core) h

theorem suits_step [Arithmetic] (h : p.bus.Suits s) :
  p.step.2.bus.Suits s
  := step_preserves (fun _ address h => h.read address)
    (fun _ address value h => h.write address value) (fun _ cycles h => h.charge cycles) h

theorem Sound.step (h : p.Sound s) :
  p.step.2.Sound s
  := by
  constructor
  · apply step_preserves (fun _ address h => h.read address)
      (fun _ address value h => h.write address value) (fun _ cycles h => h.charge cycles)
      h.consistent
  · exact suits_step h.suits

/-- Setting the processor back leaves its bus alone. -/
theorem bus_reset (p : Processor) :
  p.reset.2.bus = p.bus
  := by
  unfold reset
  split
  · rfl
  · rfl

theorem layout_reset (p : Processor) :
  p.reset.2.layout = p.layout
  := by
  unfold reset
  split
  · rfl
  · rfl

theorem Runs.sound {result : Except Fault Unit} (h : Runs p result q) (hp : p.Sound s) :
  q.Sound s
  := by
  induction h with
  | spent _ => exact hp.flush
  | failed _ hstep =>
      have hq := hp.flush.step
      rw [hstep] at hq
      apply hq
  | more _ hstep _ ih =>
      have hq := hp.flush.step
      rw [hstep] at hq
      apply ih hq

end

/-! ### Paying ahead -/

/-- The processor has the same behind it as one that pays nothing, but may have paid for
some of it out of `budget`. -/
structure PaidAhead [Arithmetic] (budget : Budget) (late p : Processor) : Prop where
  core_eq : p.core = late.core
  layout_eq : p.layout = late.layout
  bus : Bus.PaidAhead budget late.bus p.bus

section

variable {budget : Budget} {late p : Processor}

theorem PaidAhead.flush_eq (h : PaidAhead budget late p) :
  p.flush = (late.grant budget).flush
  := by
  simp only [flush, grant, h.core_eq, h.layout_eq, h.bus.flush_eq]

/-- An instruction that starts when no write waits has the same result whether or not its
ticks are paid while it runs. -/
theorem step_paidAhead (hcore : p.core = late.core) (hlayout : p.layout = late.layout)
    (h : Bus.InStep budget late.bus p.bus) :
  p.step.1 = late.step.1 ∧ PaidAhead budget late.step.2 p.step.2
  := by
  obtain ⟨hresult, hcore', hbus⟩ :=
    Activity.onBus_paidAhead (Exec.writesLast_instruction late.layout.irqVector late.core) h
  simp only [step, hcore, hlayout]
  exact ⟨hresult, hcore', rfl, hbus⟩

/-- A processor that has paid its debt does the same on every budget. -/
theorem step_grant (hp : p.bus.Consistent) (howed : p.bus.owed = 0)
    (hb : p.bus.budget = .ticks 0) (budget : Budget) :
  (p.grant budget).step.1 = p.step.1 ∧ PaidAhead budget p.step.2 (p.grant budget).step.2
  := by
  apply step_paidAhead
  · rfl
  · rfl
  · apply Bus.InStep.grant hp hb (hp.waiting_nil howed) budget

/-- An instruction of a flushed processor with budget left does what it does on one that
pays nothing, and pays out of what is left. -/
theorem Sound.step_flush {s : Settings} {p : Processor} (hp : p.Sound s)
    (hleft : p.flush.bus.budget.isSpent = false) :
  p.flush.step.1 = (p.flush.grant (.ticks 0)).step.1
    ∧ PaidAhead p.flush.bus.budget (p.flush.grant (.ticks 0)).step.2 p.flush.step.2
  := by
  have howed : (p.flush.grant (.ticks 0)).bus.owed = 0 := Bus.owed_flush hleft
  apply step_grant (hp.flush.grant _).consistent howed rfl

end

/-! ### Runs come to an end -/

/-- An instruction takes the ticks of at least two cycles out of the budget. -/
theorem Sound.budget_step {s : Settings} {p q : Processor} {left : Nat} (hp : p.Sound s)
    (hb : p.flush.bus.budget = .ticks left) (hleft : (Budget.ticks left).isSpent = false)
    (hstep : p.flush.step = (.ok (), q)) :
  ∃ owed, 2 * s.ticksPerCycle ≤ owed ∧ q.flush.bus.budget = .ticks (left - owed)
  := by
  rw [← hb] at hleft
  obtain ⟨hresult, hahead⟩ := hp.step_flush hleft
  rw [hstep] at hresult hahead
  use (p.flush.grant (.ticks 0)).step.2.bus.owed
  constructor
  · have hunpaid : Bus.Unpaid 0 (p.flush.grant (.ticks 0)).bus :=
      ⟨(hp.flush.grant _).consistent, rfl, Nat.zero_le _⟩
    apply Exec.instruction_owes hunpaid (hp.flush.grant _).suits hresult.symm
  · rw [hahead.flush_eq, hb]
    apply Bus.budget_flush (b := Bus.grant _ _) rfl

/-- A run ends within a limit that allows two cycles for each instruction. -/
theorem runWithin_isSome {s : Settings} {p : Processor} {left limit : Nat} (hp : p.Sound s)
    (hb : p.flush.bus.budget = .ticks left) (hlimit : left ≤ limit * (2 * s.ticksPerCycle)) :
  ∃ result q, p.runWithin limit = (some result, q)
  := by
  induction limit generalizing p left with
  | zero =>
      have hspent : p.flush.bus.budget.isSpent = true := by
        rw [hb, Budget.isSpent, beq_iff_eq]
        omega
      use .ok (), p.flush
      unfold runWithin
      apply if_pos hspent
  | succ limit ih =>
      cases hspent : p.flush.bus.budget.isSpent with
      | true =>
          use .ok (), p.flush
          unfold runWithin
          apply if_pos hspent
      | false =>
          unfold runWithin
          dsimp only
          rw [if_neg (ne_true_of_eq_false hspent)]
          rcases hstep : p.flush.step with ⟨fault | _, q⟩
          · exact ⟨.error fault, q, rfl⟩
          · obtain ⟨owed, howed, hq⟩ := hp.budget_step hb (hb ▸ hspent) hstep
            apply @ih q (left - owed) _ hq
            · rw [Nat.succ_mul] at hlimit
              omega
            · have hsound := hp.flush.step
              rw [hstep] at hsound
              apply hsound

/-! ### Cutting a run -/

/-- A run that comes to `result` and `q` is cut in two.  Either the first part spends its
budget and the second one comes to the same, or both the first part and the whole run into
the same fault, with the same registers and memory. -/
def Cut [Arithmetic] (p : Processor) (first rest : Nat) (result : Except Fault Unit)
    (q : Processor) : Prop :=
  (∃ mid, Runs (p.grant (.ticks first)) (.ok ()) mid ∧ Runs (mid.grant (.ticks rest)) result q)
    ∨ ∃ fault stop, result = .error fault ∧ Runs (p.grant (.ticks first)) (.error fault) stop
      ∧ stop.core = q.core ∧ stop.bus.memory = q.bus.memory

section

variable {p q late : Processor} {first rest : Nat} {result : Except Fault Unit}

/-- If the first part goes no further than the debt, then the second one takes up the
rest of it. -/
theorem cut_of_le_owed (hfirst : first ≤ p.bus.owed)
    (h : Runs (p.grant (.ticks (first + rest))) result q) :
  Cut p first rest result q
  := by
  have hspent : (p.grant (.ticks first)).flush.bus.budget.isSpent = true := by
    have hbudget : (p.grant (.ticks first)).flush.bus.budget = .ticks (first - p.bus.owed) :=
      Bus.budget_flush (b := p.bus.grant _) rfl
    rw [hbudget, Nat.sub_eq_zero_of_le hfirst]
    rfl
  have hflush : ((p.grant (.ticks first)).flush.grant (.ticks rest)).flush
      = (p.grant (.ticks (first + rest))).flush :=
    congrArg (Processor.mk p.core p.layout) (Bus.flush_grant_flush hfirst (.ticks rest))
  left
  use (p.grant (.ticks first)).flush
  exact ⟨.spent hspent, h.of_flush_eq hflush.symm⟩

/-- If the first part goes beyond the debt, then the parts and the whole pay it and go on
from the same place. -/
theorem flush_grant_of_owed_le {left : Nat} (h : p.bus.owed ≤ left) :
  (p.grant (.ticks left)).flush
    = (p.grant (.ticks p.bus.owed)).flush.grant (.ticks (left - p.bus.owed))
  := congrArg (Processor.mk p.core p.layout) (Bus.flush_grant_of_le h)

/-- If the first part goes beyond the debt, then it begins with the instruction that the
whole run begins with, and both come from one that pays nothing. -/
theorem Sound.step_parts {s : Settings} (hp : p.Sound s) (hfirst : p.bus.owed < first) :
  ∃ late part : Processor, late.Sound s
    ∧ (p.grant (.ticks (first + rest))).flush.bus.budget.isSpent = false
    ∧ (p.grant (.ticks first)).flush.bus.budget.isSpent = false
    ∧ (p.grant (.ticks first)).flush.step
      = ((p.grant (.ticks (first + rest))).flush.step.1, part)
    ∧ PaidAhead (.ticks (first - p.bus.owed + rest)) late
      (p.grant (.ticks (first + rest))).flush.step.2
    ∧ PaidAhead (.ticks (first - p.bus.owed)) late part
  := by
  have howed : (p.grant (.ticks p.bus.owed)).flush.bus.owed = 0 :=
    congrArg Bus.owed (Bus.flush_grant_owed p.bus)
  have hbudget : (p.grant (.ticks p.bus.owed)).flush.bus.budget = .ticks 0 :=
    congrArg Bus.budget (Bus.flush_grant_owed p.bus)
  have hsound := (hp.grant (.ticks p.bus.owed)).flush
  have hstep := step_grant hsound.consistent howed hbudget
  have hsum : first + rest - p.bus.owed = first - p.bus.owed + rest := by omega
  rw [flush_grant_of_owed_le hfirst.le, flush_grant_of_owed_le (by omega), hsum]
  refine ⟨_, _, hsound.step, ?_, ?_, ?_, (hstep _).2, (hstep _).2⟩
  · simp only [Processor.grant, Bus.grant, Budget.isSpent, beq_eq_false_iff_ne]
    omega
  · simp only [Processor.grant, Bus.grant, Budget.isSpent, beq_eq_false_iff_ne]
    omega
  · rw [(hstep (.ticks (first - p.bus.owed + rest))).1, ← (hstep (.ticks (first - p.bus.owed))).1]

/-- A run that begins like the whole one is cut like it: up to the cut both parts do the
same instructions, each on what is left of its own budget. -/
theorem Runs.cut_of_flush_eq {s : Settings} {whole : Processor} (h : Runs whole result q)
    (hp : p.Sound s) (hflush : whole.flush = (p.grant (.ticks (first + rest))).flush) :
  Cut p first rest result q
  := by
  induction h generalizing p first with
  | spent hspent =>
      rcases Nat.lt_or_ge p.bus.owed first with hlt | hle
      · obtain ⟨_, _, -, hwhole, -⟩ := hp.step_parts hlt
        rw [hflush, hwhole] at hspent
        cases hspent
      · apply cut_of_le_owed hle (.of_flush_eq hflush (.spent hspent))
  | failed hleft hstep =>
      rcases Nat.lt_or_ge p.bus.owed first with hlt | hle
      · obtain ⟨late, part, -, -, hpart, hpartStep, hahead, hpartAhead⟩ := hp.step_parts hlt
        rw [← hflush, hstep] at hpartStep hahead
        right
        refine ⟨_, part, rfl, .failed hpart hpartStep, ?_, ?_⟩
        · rw [hpartAhead.core_eq, hahead.core_eq]
        · rw [hpartAhead.bus.memory_eq, hahead.bus.memory_eq]
      · apply cut_of_le_owed hle (.of_flush_eq hflush (.failed hleft hstep))
  | more hleft hstep hrest ih =>
      rcases Nat.lt_or_ge p.bus.owed first with hlt | hle
      · obtain ⟨late, part, hlate, -, hpart, hpartStep, hahead, hpartAhead⟩ := hp.step_parts hlt
        rw [← hflush, hstep] at hpartStep hahead
        have hgo : ∀ {result q}, Runs (late.grant (.ticks (first - p.bus.owed))) result q →
            Runs (p.grant (.ticks first)) result q := fun h =>
          .more hpart hpartStep (.of_flush_eq hpartAhead.flush_eq.symm h)
        rcases ih hlate hahead.flush_eq with
          ⟨mid, hfirst, hsecond⟩ | ⟨fault, stop, hfault, hstop, hcore, hmemory⟩
        · exact .inl ⟨mid, hgo hfirst, hsecond⟩
        · exact .inr ⟨fault, stop, hfault, hgo hstop, hcore, hmemory⟩
      · apply cut_of_le_owed hle (.of_flush_eq hflush (.more hleft hstep hrest))

/-- A run may be cut anywhere. -/
theorem Runs.cut {s : Settings} (hp : p.Sound s)
    (h : Runs (p.grant (.ticks (first + rest))) result q) :
  Cut p first rest result q
  := h.cut_of_flush_eq hp rfl

end

end Processor

end RasterConsole
