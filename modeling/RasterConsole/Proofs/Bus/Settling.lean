import RasterConsole.Bus
import RasterConsole.Proofs.Video.Clock

/-!
# Settling the debt of the bus

Two buses that agree once they are flushed are interchangeable: it does not matter when
the ticks are paid, as long as nothing more is owed behind a waiting write.

`Bus.owe` and `Bus.await` put ticks and register writes on the books without paying
anything.  Paying before or after them comes to the same (`owe_flush`, `await_flush`), and
so does paying out of one budget or out of two (`flush_grant_flush`).
-/

namespace RasterConsole

attribute [local instance] Arithmetic.exact

namespace Budget

/-- The budget with some ticks added. -/
def raise (b : Budget) (more : Nat) : Budget :=
  match b with
  | ticks left => ticks (more + left)
  | unlimited => unlimited

@[simp]
theorem raise_zero (b : Budget) :
  b.raise 0 = b
  := by
  cases b with
  | ticks left => simp [raise]
  | unlimited => rfl

@[simp]
theorem covers_zero (b : Budget) :
  b.covers 0 = true
  := by
  cases b with
  | ticks left => simp [covers]
  | unlimited => rfl

@[simp]
theorem spend_zero (b : Budget) :
  b.spend 0 = b
  := by
  cases b with
  | ticks left => simp [spend]
  | unlimited => rfl

/-- A raised budget covers a debt when the budget covers what is left of the debt. -/
theorem covers_raise (b : Budget) {more owed : Nat} (h : more ≤ owed) :
  (b.raise more).covers owed = b.covers (owed - more)
  := by
  cases b with
  | ticks left =>
      simp only [raise, covers, decide_eq_decide]
      omega
  | unlimited => rfl

theorem spend_raise (b : Budget) {more owed : Nat} (h : more ≤ owed) :
  (b.raise more).spend owed = b.spend (owed - more)
  := by
  cases b with
  | ticks left =>
      simp only [raise, spend, ticks.injEq]
      omega
  | unlimited => rfl

/-- What is left after a covered debt covers another one when the budget covers both. -/
theorem covers_spend {b : Budget} {owed : Nat} (h : b.covers owed = true) (more : Nat) :
  (b.spend owed).covers more = b.covers (owed + more)
  := by
  cases b with
  | ticks left =>
      simp only [covers, decide_eq_true_eq] at h
      simp only [spend, covers, decide_eq_decide]
      omega
  | unlimited => rfl

theorem spend_spend (b : Budget) (owed more : Nat) :
  (b.spend owed).spend more = b.spend (owed + more)
  := by
  cases b with
  | ticks left =>
      simp only [spend, ticks.injEq]
      omega
  | unlimited => rfl

/-- The budget covers a debt, or it holds fewer ticks. -/
theorem covers_or_short (b : Budget) (owed : Nat) :
  b.covers owed = true ∨ ∃ left, b = .ticks left ∧ left < owed
  := by
  cases b with
  | ticks left =>
      by_cases h : owed ≤ left
      · left
        simpa [covers] using h
      · right
        use left, rfl
        omega
  | unlimited =>
      left
      rfl

theorem share_of_covers {b : Budget} {owed : Nat} (h : b.covers owed = true) :
  b.share owed = owed
  := by
  cases b with
  | ticks left =>
      simp only [covers, decide_eq_true_eq] at h
      simp only [share]
      omega
  | unlimited => rfl

end Budget

namespace Bus

/-! ### Flushing -/

/-- If the budget covers the debt, then a flush pays all of it and makes the waiting
writes. -/
theorem flush_of_covers [Arithmetic] {b : Bus} (h : b.budget.covers b.owed = true) :
  b.flush =
    { b with
      raster := b.waiting.foldl Raster.write (b.raster.advance b.owed)
      owed := 0
      budget := b.budget.spend b.owed
      waiting := [] }
  := by
  simp only [flush, pay, Budget.share_of_covers h, Nat.sub_self, if_true, land]

/-- If the debt exceeds the budget, then a flush spends the budget and makes no write. -/
theorem flush_of_short [Arithmetic] {b : Bus} {left : Nat} (hb : b.budget = .ticks left)
    (h : left < b.owed) :
  b.flush =
    { b with
      raster := b.raster.advance left
      owed := b.owed - left
      budget := .ticks 0 }
  := by
  have hshare : b.budget.share b.owed = left := by
    simp only [hb, Budget.share]
    omega
  have howed : ¬ b.owed - left = 0 := by omega
  simp only [flush, pay, hshare, if_neg howed]
  simp only [hb, Budget.spend, Nat.sub_self]

@[simp]
theorem memory_flush [Arithmetic] (b : Bus) :
  b.flush.memory = b.memory
  := by
  unfold flush
  dsimp only
  split_ifs
  · rfl
  · rfl

@[simp]
theorem ticksPerCycle_flush [Arithmetic] (b : Bus) :
  b.flush.ticksPerCycle = b.ticksPerCycle
  := by
  unfold flush
  dsimp only
  split_ifs
  · rfl
  · rfl

/-- Nothing waits on a flushed bus that owes nothing. -/
theorem waiting_flush [Arithmetic] {b : Bus} (h : b.flush.owed = 0) :
  b.flush.waiting = []
  := by
  rcases b.budget.covers_or_short b.owed with hc | ⟨left, hb, hlt⟩
  · rw [flush_of_covers hc]
  · rw [flush_of_short hb hlt] at h
    dsimp only at h
    omega

/-- A flush does not bring up writes. -/
theorem waiting_flush_of_nil [Arithmetic] {b : Bus} (h : b.waiting = []) :
  b.flush.waiting = []
  := by
  rcases b.budget.covers_or_short b.owed with hc | ⟨left, hb, hlt⟩
  · rw [flush_of_covers hc]
  · rw [flush_of_short hb hlt]
    apply h

/-- Paying out of a budget of `left` ticks that the debt uses up, and then out of another
one, is paying out of both together. -/
theorem flush_grant_flush {b : Bus} {left : Nat} (h : left ≤ b.owed) (budget : Budget) :
  (((b.grant (.ticks left)).flush).grant budget).flush = (b.grant (budget.raise left)).flush
  := by
  rcases Nat.eq_or_lt_of_le h with rfl | hlt
  · have hfirst : (b.grant (.ticks b.owed)).budget.covers b.owed = true := by
      simp [grant, Budget.covers]
    have hboth : (b.grant (budget.raise b.owed)).budget.covers b.owed = true := by
      rw [grant, Budget.covers_raise _ h, Nat.sub_self, Budget.covers_zero]
    rw [flush_of_covers (b := b.grant _) hfirst, flush_of_covers (b := b.grant _) hboth,
      flush_of_covers (budget.covers_zero)]
    simp [grant, Budget.spend_raise]
  · rw [flush_of_short (b := b.grant _) rfl hlt]
    rcases budget.covers_or_short (b.owed - left) with hc | ⟨more, rfl, hmore⟩
    · have hboth : (b.grant (budget.raise left)).budget.covers b.owed = true := by
        rw [grant, Budget.covers_raise _ h, hc]
      rw [flush_of_covers hc, flush_of_covers (b := b.grant _) hboth]
      simp only [grant, ← Raster.advance_add, Budget.spend_raise _ h]
      rw [Nat.add_sub_cancel' h]
    · have hboth : left + more < b.owed := by omega
      rw [Budget.raise, flush_of_short (b := grant _ _) rfl hmore,
        flush_of_short (b := b.grant _) rfl hboth]
      simp only [grant, ← Raster.advance_add, Nat.sub_sub]

/-- What is left of a budget after a flush. -/
theorem budget_flush [Arithmetic] {b : Bus} {left : Nat} (hb : b.budget = .ticks left) :
  b.flush.budget = .ticks (left - b.owed)
  := by
  rcases b.budget.covers_or_short b.owed with hc | ⟨left', hb', hlt⟩
  · rw [flush_of_covers hc, hb, Budget.spend]
  · rw [hb, Budget.ticks.injEq] at hb'
    rw [flush_of_short hb (hb' ▸ hlt), Budget.ticks.injEq]
    omega

/-- If there is budget left after a flush, then nothing is owed. -/
theorem owed_flush [Arithmetic] {b : Bus} (h : b.flush.budget.isSpent = false) :
  b.flush.owed = 0
  := by
  rcases b.budget.covers_or_short b.owed with hc | ⟨left, hb, hlt⟩
  · rw [flush_of_covers hc]
  · rw [flush_of_short hb hlt] at h
    cases h

/-- A budget of just the debt pays it and is spent. -/
theorem flush_grant_owed (b : Bus) :
  (b.grant (.ticks b.owed)).flush =
    { b with
      raster := b.waiting.foldl Raster.write (b.raster.advance b.owed)
      owed := 0
      budget := .ticks 0
      waiting := [] }
  := by
  have hc : (b.grant (.ticks b.owed)).budget.covers b.owed = true := by
    simp [grant, Budget.covers]
  rw [flush_of_covers (b := b.grant _) hc]
  simp [grant, Budget.spend]

/-- A budget that covers the debt pays it and leaves the rest. -/
theorem flush_grant_of_le {b : Bus} {left : Nat} (h : b.owed ≤ left) :
  (b.grant (.ticks left)).flush
    = (b.grant (.ticks b.owed)).flush.grant (.ticks (left - b.owed))
  := by
  have hall : (b.grant (.ticks left)).budget.covers b.owed = true := by
    simpa [grant, Budget.covers] using h
  rw [flush_of_covers (b := b.grant _) hall, flush_grant_owed]
  rfl

/-- There is nothing to flush if nothing is owed and nothing waits. -/
theorem flush_of_settled {b : Bus} (howed : b.owed = 0) (hw : b.waiting = []) :
  b.flush = b
  := by
  have hc : b.budget.covers b.owed = true := by rw [howed, Budget.covers_zero]
  rw [flush_of_covers hc, howed, hw, Budget.spend_zero, Raster.advance_zero, List.foldl_nil,
    ← howed, ← hw]

/-- A second flush does nothing. -/
@[simp]
theorem flush_flush (b : Bus) :
  b.flush.flush = b.flush
  := by
  rcases b.budget.covers_or_short b.owed with hc | ⟨left, hb, hlt⟩
  · rw [flush_of_covers hc, flush_of_covers (Budget.covers_zero _)]
    simp
  · have hrest : 0 < b.owed - left := by omega
    rw [flush_of_short hb hlt, flush_of_short rfl hrest]
    simp

/-! ### Putting things on the books -/

/-- The bus that owes some more ticks. -/
def owe (b : Bus) (ticks : Nat) : Bus := { b with owed := b.owed + ticks }

/-- Cycles are charged by owing their ticks. -/
theorem charge_eq (b : Bus) (cycles : Nat) :
  b.charge cycles = b.owe (cycles * b.ticksPerCycle)
  := rfl

/-- The bus with one more write waiting. -/
def await (b : Bus) (w : RegisterWrite) : Bus := { b with waiting := b.waiting ++ [w] }

/-- If no write waits, then paying before more ticks are owed makes no difference to
paying afterwards. -/
theorem owe_flush {b : Bus} (h : b.waiting = []) (ticks : Nat) :
  (b.flush.owe ticks).flush = (b.owe ticks).flush
  := by
  rcases b.budget.covers_or_short b.owed with hc | ⟨left, hb, hlt⟩
  · rw [flush_of_covers hc]
    rcases b.budget.covers_or_short (b.owed + ticks) with hboth | ⟨left, hb, hlt⟩
    · rw [flush_of_covers (b := b.owe _) hboth, flush_of_covers]
      · simp only [owe, h, List.foldl_nil, Nat.zero_add, Budget.spend_spend, Raster.advance_add]
      · simp only [owe, Nat.zero_add, Budget.covers_spend hc, hboth]
    · simp only [hb, Budget.covers, decide_eq_true_eq] at hc
      rw [flush_of_short (b := b.owe _) hb hlt, @flush_of_short _ _ (left - b.owed) ?_ ?_]
      · simp only [owe, h, List.foldl_nil, ← Raster.advance_add]
        congr 1
        · rw [Nat.add_sub_cancel' hc]
        · omega
      · simp only [owe, hb, Budget.spend]
      · simp only [owe]
        omega
  · have hboth : left < b.owed + ticks := by omega
    have hrest : 0 < b.owed - left + ticks := by omega
    rw [flush_of_short hb hlt, flush_of_short (b := owe _ _) rfl hrest,
      flush_of_short (b := b.owe _) hb hboth]
    simp only [owe, Raster.advance_zero]
    congr 1
    omega

/-- Paying before one more write waits makes no difference to paying afterwards. -/
theorem await_flush (b : Bus) (w : RegisterWrite) :
  (b.flush.await w).flush = (b.await w).flush
  := by
  rcases b.budget.covers_or_short b.owed with hc | ⟨left, hb, hlt⟩
  · rw [flush_of_covers hc, flush_of_covers (b := await _ _) (Budget.covers_zero _),
      flush_of_covers (b := b.await _) hc]
    simp [await]
  · have hrest : 0 < b.owed - left := by omega
    rw [flush_of_short hb hlt, flush_of_short (b := await _ _) rfl hrest,
      flush_of_short (b := b.await _) hb hlt]
    simp [await]

/-- A write to the bus comes to the same as one that waits until the bus is flushed. -/
theorem flush_post {b : Bus} (h : b.owed = 0 → b.waiting = []) (w : RegisterWrite) :
  (b.post w).flush = (b.await w).flush
  := by
  unfold post
  split_ifs with howed
  · have hc : b.budget.covers b.owed = true := by rw [howed, Budget.covers_zero]
    rw [flush_of_covers (b := b.await _) hc, flush_of_covers]
    · simp [await, h howed, howed]
    · apply hc
  · rfl

end Bus

end RasterConsole
