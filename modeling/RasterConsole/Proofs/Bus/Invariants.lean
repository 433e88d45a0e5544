import RasterConsole.Proofs.Bus.Settling

/-!
# Invariants of the bus

A bus is `Consistent` if the beam is on the frame and writes wait only behind owed ticks,
and it `Suits` settings if it is built as they say.  Every operation preserves both, and
without a budget no operation pays anything (`Unpaid`).

On a consistent bus waiting for the end of the line is owing the rest of it
(`waitForLine_eq`), so the way that pays at once is no more than a short cut.
-/

namespace RasterConsole

attribute [local instance] Arithmetic.exact

namespace Settings

theorem geometry_valid {s : Settings} (h : s.validate = .ok ()) :
  s.geometry.Valid
  := by
  apply Geometry.valid_of_validate
  unfold validate at h
  split at h
  · cases h
  · assumption

theorem defect?_eq_none {s : Settings} (h : s.validate = .ok ()) :
  s.defect? = none
  := by
  unfold validate at h
  split at h
  · cases h
  · split at h
    · cases h
    · assumption

theorem ticksPerCycle_pos {s : Settings} (h : s.validate = .ok ()) :
  0 < s.ticksPerCycle
  := by
  have hdefect := defect?_eq_none h
  unfold defect? at hdefect
  split_ifs at hdefect with hzero
  omega

/-- A page of memory and a picture of three short lines. -/
def small : Settings where
  memorySize := 0x100
  geometry := .small
  layout := ⟨0x80, 0xFC, 0xFE⟩

end Settings

namespace Memory

/-! ### The size of the memory -/

@[simp]
theorem capacity_zeroed (capacity : Nat) :
  (zeroed capacity).capacity = capacity
  := Array.size_replicate

@[simp]
theorem capacity_store (m : Memory) (address : Nat) (byte : UInt8) :
  (m.store address byte).capacity = m.capacity
  := Array.size_setIfInBounds

@[simp]
theorem capacity_storeAll (m : Memory) (address : Nat) (bytes : List UInt8) :
  (m.storeAll address bytes).capacity = m.capacity
  := by
  induction bytes generalizing m address with
  | nil => rfl
  | cons byte rest ih => rw [storeAll, ih, capacity_store]

theorem capacity_writeWord {m m' : Memory} {address : Nat} {word : UInt16}
    (h : m.writeWord address word = .ok m') :
  m'.capacity = m.capacity
  := by
  unfold writeWord at h
  split_ifs at h
  cases h
  apply capacity_storeAll

theorem capacity_load {m m' : Memory} {base : Nat} {bytes : List UInt8}
    (h : m.load base bytes = .ok m') :
  m'.capacity = m.capacity
  := by
  unfold load at h
  split_ifs at h
  cases h
  apply capacity_storeAll

end Memory

namespace Bus

/-! ### Consistency -/

/-- The beam is on the frame, and a write waits only behind ticks that are owed. -/
structure Consistent [Arithmetic] (b : Bus) : Prop where
  onFrame : b.raster.OnFrame
  waiting_nil : b.owed = 0 → b.waiting = []

theorem consistent_fresh {s : Settings} (h : s.geometry.Valid) :
  (fresh s).Consistent
  := ⟨Raster.onFrame_fresh h, fun _ => rfl⟩

theorem Consistent.grant {b : Bus} (h : b.Consistent) (budget : Budget) :
  (b.grant budget).Consistent
  := ⟨h.onFrame, h.waiting_nil⟩

theorem Consistent.owe {b : Bus} (h : b.Consistent) (ticks : Nat) :
  (b.owe ticks).Consistent
  := by
  constructor
  · apply h.onFrame
  · intro howed
    apply h.waiting_nil
    simp only [Bus.owe] at howed
    omega

theorem Consistent.charge {b : Bus} (h : b.Consistent) (cycles : Nat) :
  (b.charge cycles).Consistent
  := h.owe _

theorem Consistent.flush {b : Bus} (h : b.Consistent) :
  b.flush.Consistent
  := by
  constructor
  · rcases b.budget.covers_or_short b.owed with hc | ⟨left, hb, hlt⟩
    · rw [flush_of_covers hc, Raster.foldl_write]
      obtain ⟨hcolumn, hscanline⟩ := h.onFrame.advance b.owed
      exact ⟨hcolumn, hscanline⟩
    · rw [flush_of_short hb hlt]
      apply h.onFrame.advance
  · apply waiting_flush

theorem Consistent.post {b : Bus} (h : b.Consistent) (w : RegisterWrite) :
  (b.post w).Consistent
  := by
  obtain ⟨⟨hcolumn, hscanline⟩, hwaiting⟩ := h
  unfold Bus.post
  split_ifs with howed
  · exact ⟨⟨hcolumn, hscanline⟩, hwaiting⟩
  · exact ⟨⟨hcolumn, hscanline⟩, fun h => absurd h howed⟩

/-! ### Waiting for the end of the line -/

/-- Paying does not move the beam as the processor sees it. -/
theorem stall_flush {b : Bus} (h : b.raster.OnFrame) :
  b.flush.stall = b.stall
  := by
  rcases b.budget.covers_or_short b.owed with hc | ⟨left, hb, hlt⟩
  · rw [flush_of_covers hc, Raster.foldl_write]
    simp only [stall, Raster.geometry_advance, Raster.column_advance h, Arithmetic.exact_keep]
    rw [Nat.add_zero, Nat.mod_mod]
  · rw [flush_of_short hb hlt]
    simp only [stall, Raster.geometry_advance, Raster.column_advance h, Arithmetic.exact_keep]
    rw [Nat.mod_add_mod, Nat.add_assoc, Nat.add_sub_cancel' (Nat.le_of_lt hlt)]

/-- If nothing is owed, then the processor sees the beam where it is. -/
theorem stall_of_settled {b : Bus} (h : b.raster.OnFrame) (howed : b.owed = 0) :
  b.stall = b.raster.ticksToLineEnd
  := by
  simp only [stall, Raster.ticksToLineEnd, Arithmetic.exact_keep]
  rw [howed, Nat.add_zero, Nat.mod_eq_of_lt h.column_lt]

/-- Waiting for the end of the line is owing the rest of the line, whether it is paid at
once or not. -/
theorem waitForLine_eq {b : Bus} (h : b.Consistent) :
  b.waitForLine = (b.owe b.stall).flush
  := by
  unfold waitForLine
  split_ifs with hfast
  · simp only [Bool.and_eq_true, decide_eq_true_eq] at hfast
    obtain ⟨howed, hc⟩ := hfast
    rw [stall_of_settled h.onFrame howed, flush_of_covers]
    · simp [owe, howed, h.waiting_nil howed]
    · simpa [owe, howed] using hc
  · rfl

/-- The ticks that an access to an address of the register window costs: the rest of the
line if it is a strobe. -/
def delay [Arithmetic] (b : Bus) (address : UInt16) : Nat :=
  if isStrobeAddress address then b.stall else 0

/-- An access to the register window when no write waits is owing what it costs, and
paying. -/
theorem touch_eq {b : Bus} (h : b.Consistent) (hw : b.waiting = []) (address : UInt16) :
  b.touch address = (b.owe (b.delay address)).flush
  := by
  simp only [touch, delay]
  split_ifs
  · rw [waitForLine_eq h.flush, stall_flush h.onFrame, owe_flush hw]
  · rfl

theorem Consistent.touch {b : Bus} (h : b.Consistent) (address : UInt16) :
  (b.touch address).Consistent
  := by
  unfold Bus.touch
  dsimp only
  split_ifs
  · rw [waitForLine_eq h.flush]
    apply (h.flush.owe _).flush
  · apply h.flush

theorem Consistent.read {b : Bus} (h : b.Consistent) (address : UInt16) :
  (b.read address).2.Consistent
  := by
  simp only [Bus.read]
  split_ifs
  · apply h.touch address
  · apply h

theorem Consistent.write {b : Bus} (h : b.Consistent) (address : UInt16) (value : UInt8) :
  (b.write address value).2.Consistent
  := by
  simp only [Bus.write]
  split_ifs
  · apply h.touch address
  · apply (h.touch address).post _
  · split
    · apply h
    · exact ⟨h.onFrame, h.waiting_nil⟩

/-! ### What stays as it was built -/

/-- The bus has the geometry, the clock rate and the memory size that the settings ask
for. -/
structure Suits (s : Settings) (b : Bus) : Prop where
  geometry_eq : b.raster.geometry = s.geometry
  ticksPerCycle_eq : b.ticksPerCycle = s.ticksPerCycle
  capacity_eq : b.memory.capacity = s.memorySize

section

variable {s : Settings} {b : Bus}

theorem suits_fresh [Arithmetic] (s : Settings) :
  (fresh s).Suits s
  := by
  constructor
  · rfl
  · rfl
  · apply Memory.capacity_zeroed

theorem Suits.grant (h : b.Suits s) (budget : Budget) :
  (b.grant budget).Suits s
  := ⟨h.geometry_eq, h.ticksPerCycle_eq, h.capacity_eq⟩

theorem Suits.charge [Arithmetic] (h : b.Suits s) (cycles : Nat) :
  (b.charge cycles).Suits s
  := ⟨h.geometry_eq, h.ticksPerCycle_eq, h.capacity_eq⟩

theorem Suits.flush [Arithmetic] (h : b.Suits s) :
  b.flush.Suits s
  := by
  constructor
  · rw [← h.geometry_eq]
    rcases b.budget.covers_or_short b.owed with hc | ⟨left, hb, hlt⟩
    · rw [flush_of_covers hc, Raster.foldl_write]
      apply Raster.geometry_advance
    · rw [flush_of_short hb hlt]
      apply Raster.geometry_advance
  · rw [ticksPerCycle_flush, h.ticksPerCycle_eq]
  · rw [memory_flush, h.capacity_eq]

theorem Suits.waitForLine [Arithmetic] (h : b.Suits s) :
  b.waitForLine.Suits s
  := by
  unfold Bus.waitForLine
  split_ifs
  · constructor
    · rw [← h.geometry_eq]
      apply Raster.geometry_advance
    · apply h.ticksPerCycle_eq
    · apply h.capacity_eq
  · apply Suits.flush
    exact ⟨h.geometry_eq, h.ticksPerCycle_eq, h.capacity_eq⟩

theorem Suits.touch [Arithmetic] (h : b.Suits s) (address : UInt16) :
  (b.touch address).Suits s
  := by
  unfold Bus.touch
  dsimp only
  split_ifs
  · apply h.flush.waitForLine
  · apply h.flush

theorem Suits.post (h : b.Suits s) (w : RegisterWrite) :
  (b.post w).Suits s
  := by
  unfold Bus.post
  split_ifs
  · exact ⟨h.geometry_eq, h.ticksPerCycle_eq, h.capacity_eq⟩
  · exact ⟨h.geometry_eq, h.ticksPerCycle_eq, h.capacity_eq⟩

theorem Suits.read [Arithmetic] (h : b.Suits s) (address : UInt16) :
  (b.read address).2.Suits s
  := by
  simp only [Bus.read]
  split_ifs
  · apply h.touch address
  · apply h

theorem Suits.write [Arithmetic] (h : b.Suits s) (address : UInt16) (value : UInt8) :
  (b.write address value).2.Suits s
  := by
  simp only [Bus.write]
  split_ifs
  · apply h.touch address
  · apply (h.touch address).post _
  · split
    · apply h
    · constructor
      · apply h.geometry_eq
      · apply h.ticksPerCycle_eq
      · rw [Memory.capacity_store, h.capacity_eq]

end

/-! ### Without a budget -/

/-- The bus has no budget and owes at least `ticks`. -/
structure Unpaid [Arithmetic] (ticks : Nat) (b : Bus) : Prop where
  consistent : b.Consistent
  budget_eq : b.budget = .ticks 0
  le_owed : ticks ≤ b.owed

/-- A flush without a budget pays nothing. -/
theorem Unpaid.flush {ticks : Nat} {b : Bus} (h : Unpaid ticks b) :
  Unpaid ticks b.flush
  := by
  obtain ⟨hb, hbudget, howed⟩ := h
  constructor
  · apply hb.flush
  · rcases b.budget.covers_or_short b.owed with hc | ⟨left, hleft, hlt⟩
    · rw [flush_of_covers hc]
      simp [hbudget, Budget.spend]
    · rw [flush_of_short hleft hlt]
  · rcases b.budget.covers_or_short b.owed with hc | ⟨left, hleft, hlt⟩
    · rw [flush_of_covers hc]
      simp only [hbudget, Budget.covers, decide_eq_true_eq] at hc
      dsimp only
      omega
    · rw [hbudget, Budget.ticks.injEq] at hleft
      rw [flush_of_short (hleft ▸ hbudget) hlt]
      dsimp only
      omega

theorem Unpaid.owe {ticks : Nat} {b : Bus} (h : Unpaid ticks b) (more : Nat) :
  Unpaid (ticks + more) (b.owe more)
  := ⟨h.consistent.owe more, h.budget_eq, Nat.add_le_add_right h.le_owed more⟩

theorem Unpaid.mono {ticks less : Nat} {b : Bus} (h : Unpaid ticks b) (hle : less ≤ ticks) :
  Unpaid less b
  := ⟨h.consistent, h.budget_eq, hle.trans h.le_owed⟩

theorem Unpaid.charge {ticks : Nat} {b : Bus} (h : Unpaid ticks b) (cycles : Nat) :
  Unpaid ticks (b.charge cycles)
  := (h.owe _).mono (Nat.le_add_right _ _)

theorem Unpaid.touch {ticks : Nat} {b : Bus} (h : Unpaid ticks b) (address : UInt16) :
  Unpaid ticks (b.touch address)
  := by
  unfold Bus.touch
  dsimp only
  split_ifs
  · rw [waitForLine_eq h.flush.consistent]
    apply (h.flush.owe _).flush.mono (Nat.le_add_right _ _)
  · apply h.flush

theorem Unpaid.post {ticks : Nat} {b : Bus} (h : Unpaid ticks b) (w : RegisterWrite) :
  Unpaid ticks (b.post w)
  := by
  obtain ⟨hb, hbudget, howed⟩ := h
  constructor
  · apply hb.post w
  · unfold Bus.post
    split_ifs
    · apply hbudget
    · apply hbudget
  · unfold Bus.post
    split_ifs
    · apply howed
    · apply howed

theorem Unpaid.read {ticks : Nat} {b : Bus} (h : Unpaid ticks b) (address : UInt16) :
  Unpaid ticks (b.read address).2
  := by
  simp only [Bus.read]
  split_ifs
  · apply h.touch address
  · apply h

theorem Unpaid.write {ticks : Nat} {b : Bus} (h : Unpaid ticks b) (address : UInt16)
    (value : UInt8) :
  Unpaid ticks (b.write address value).2
  := by
  simp only [Bus.write]
  split_ifs
  · apply h.touch address
  · apply (h.touch address).post _
  · split
    · apply h
    · exact ⟨⟨h.consistent.onFrame, h.consistent.waiting_nil⟩, h.budget_eq, h.le_owed⟩

end Bus

end RasterConsole
