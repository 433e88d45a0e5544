import RasterConsole.Proofs.Bus.Invariants

/-!
# Paying ahead

Of two buses with the same behind them, one has no budget and pays nothing, and the other
may have paid for some of it.  They read the same bytes, store the same bytes and see the
beam at the same place, and a budget granted to the first makes up the difference.  All
this holds as long as nothing more is owed behind a write that may wait on the one and be
made already on the other.
-/

namespace RasterConsole

attribute [local instance] Arithmetic.exact

namespace Bus

/-- A flush without a budget does not matter to a flush with one. -/
theorem flush_grant_of_spent {b : Bus} (h : b.budget = .ticks 0) (budget : Budget) :
  (b.flush.grant budget).flush = (b.grant budget).flush
  := by
  have hb : b.grant (.ticks 0) = b := by rw [grant, ← h]
  have hflush := flush_grant_flush (Nat.zero_le b.owed) budget
  rw [hb, Budget.raise_zero] at hflush
  apply hflush

/-- `late` has no budget and pays nothing; `b` has the same behind it, but may have paid
for some of it out of `budget`. -/
structure PaidAhead [Arithmetic] (budget : Budget) (late b : Bus) : Prop where
  late_consistent : late.Consistent
  consistent : b.Consistent
  late_budget : late.budget = .ticks 0
  flush_eq : b.flush = (late.grant budget).flush

/-- A bus that has paid ahead, while no write waits. -/
structure InStep [Arithmetic] (budget : Budget) (late b : Bus) : Prop
    extends PaidAhead budget late b where
  late_waiting : late.waiting = []
  waiting : b.waiting = []

theorem InStep.grant {late : Bus} (h : late.Consistent) (hb : late.budget = .ticks 0)
    (hw : late.waiting = []) (budget : Budget) :
  InStep budget late (late.grant budget)
  := ⟨⟨h, h.grant budget, hb, rfl⟩, hw, hw⟩

section

variable {budget : Budget} {late b : Bus}

theorem PaidAhead.memory_eq (h : PaidAhead budget late b) :
  b.memory = late.memory
  := by
  have hmemory := congrArg memory h.flush_eq
  rw [memory_flush, memory_flush] at hmemory
  apply hmemory

theorem PaidAhead.ticksPerCycle_eq (h : PaidAhead budget late b) :
  b.ticksPerCycle = late.ticksPerCycle
  := by
  have hticks := congrArg ticksPerCycle h.flush_eq
  rw [ticksPerCycle_flush, ticksPerCycle_flush] at hticks
  apply hticks

/-- Both see the beam at the same place. -/
theorem PaidAhead.delay_eq (h : PaidAhead budget late b) (address : UInt16) :
  b.delay address = late.delay address
  := by
  have hstall : b.stall = late.stall := by
    rw [← stall_flush h.consistent.onFrame, h.flush_eq,
      stall_flush (h.late_consistent.grant budget).onFrame]
    rfl
  rw [delay, delay, hstall]

/-- Storing a byte changes nothing that is owed or waits. -/
theorem flush_store (b : Bus) (memory : Memory) :
  { b with memory := memory }.flush = { b.flush with memory := memory }
  := by
  unfold flush
  dsimp only [pay, land]
  split_ifs
  · rfl
  · rfl

theorem PaidAhead.store (h : PaidAhead budget late b) (memory : Memory) :
  PaidAhead budget { late with memory := memory } { b with memory := memory }
  := by
  obtain ⟨⟨hlf, hlw⟩, ⟨hf, hw⟩, hb, hflush⟩ := h
  constructor
  · exact ⟨hlf, hlw⟩
  · exact ⟨hf, hw⟩
  · apply hb
  · rw [flush_store, hflush]
    apply (flush_store (late.grant budget) memory).symm

theorem InStep.store (h : InStep budget late b) (memory : Memory) :
  InStep budget { late with memory := memory } { b with memory := memory }
  := ⟨h.toPaidAhead.store memory, h.late_waiting, h.waiting⟩

/-- As long as no write waits, both may owe more. -/
theorem InStep.owe (h : InStep budget late b) (ticks : Nat) :
  InStep budget (late.owe ticks) (b.owe ticks)
  := by
  constructor
  · constructor
    · apply h.late_consistent.owe
    · apply h.consistent.owe
    · apply h.late_budget
    · have hw : (late.grant budget).waiting = [] := h.late_waiting
      rw [← owe_flush h.waiting, h.flush_eq, owe_flush hw]
      rfl
  · apply h.late_waiting
  · apply h.waiting

theorem InStep.charge (h : InStep budget late b) (cycles : Nat) :
  InStep budget (late.charge cycles) (b.charge cycles)
  := by
  rw [charge_eq, charge_eq, h.ticksPerCycle_eq]
  apply h.owe _

theorem InStep.flush (h : InStep budget late b) :
  InStep budget late.flush b.flush
  := by
  constructor
  · constructor
    · apply h.late_consistent.flush
    · apply h.consistent.flush
    · apply (Unpaid.flush ⟨h.late_consistent, h.late_budget, Nat.zero_le _⟩).budget_eq
    · rw [flush_flush, flush_grant_of_spent h.late_budget, h.flush_eq]
  · apply waiting_flush_of_nil h.late_waiting
  · apply waiting_flush_of_nil h.waiting

theorem InStep.touch (h : InStep budget late b) (address : UInt16) :
  InStep budget (late.touch address) (b.touch address)
  := by
  rw [touch_eq h.consistent h.waiting, touch_eq h.late_consistent h.late_waiting,
    h.delay_eq address]
  apply (h.owe _).flush

/-- A register write may wait on the one and be made at once on the other. -/
theorem InStep.post (h : InStep budget late b) (w : RegisterWrite) :
  PaidAhead budget (late.post w) (b.post w)
  := by
  have hspent : (late.post w).budget = .ticks 0 := by
    unfold Bus.post
    split_ifs
    · apply h.late_budget
    · apply h.late_budget
  constructor
  · apply h.late_consistent.post
  · apply h.consistent.post
  · apply hspent
  · calc (b.post w).flush
        = (b.await w).flush := flush_post h.consistent.waiting_nil w
      _ = ((late.grant budget).flush.await w).flush := by rw [← await_flush, h.flush_eq]
      _ = ((late.await w).grant budget).flush := await_flush _ _
      _ = ((late.await w).flush.grant budget).flush := by
          rw [flush_grant_of_spent (b := late.await w) h.late_budget]
      _ = ((late.post w).flush.grant budget).flush := by
          rw [flush_post h.late_consistent.waiting_nil]
      _ = ((late.post w).grant budget).flush := flush_grant_of_spent hspent budget

/-- A read finds the same byte on both. -/
theorem InStep.read (h : InStep budget late b) (address : UInt16) :
  (b.read address).1 = (late.read address).1
    ∧ InStep budget (late.read address).2 (b.read address).2
  := by
  simp only [Bus.read]
  split_ifs
  · exact ⟨rfl, h.touch address⟩
  · exact ⟨by rw [h.memory_eq], h⟩

/-- A write has the same result on both. -/
theorem InStep.write (h : InStep budget late b) (address : UInt16) (value : UInt8) :
  (b.write address value).1 = (late.write address value).1
    ∧ PaidAhead budget (late.write address value).2 (b.write address value).2
  := by
  simp only [Bus.write, h.memory_eq]
  split_ifs
  · exact ⟨rfl, (h.touch address).toPaidAhead⟩
  · exact ⟨rfl, (h.touch address).post _⟩
  · split
    · exact ⟨rfl, h.toPaidAhead⟩
    · exact ⟨rfl, h.toPaidAhead.store _⟩

/-- A write to memory leaves no write waiting. -/
theorem InStep.write_memory (h : InStep budget late b) {address : UInt16}
    (ha : ¬ address < windowSize) (value : UInt8) :
  InStep budget (late.write address value).2 (b.write address value).2
  := by
  simp only [Bus.write, if_neg ha, h.memory_eq]
  split
  · apply h
  · apply h.store _

end

end Bus

end RasterConsole
