import RasterConsole.Proofs.Bus.Invariants

/-!
# Old debts

A bus may still owe ticks, with register writes waiting behind them, when more is charged
to it.  `Bus.overdue` puts such an old debt in front of what a bus owes by itself.  The
debt goes unnoticed up to the first access to the register window, which makes the waiting
writes too late.  From there on the two buses are `Twins`: they do the same, but on
engines that may differ in what they have painted and counted.
-/

namespace RasterConsole

attribute [local instance] Arithmetic.exact

namespace Raster

/-- Two engines in time that hold the same registers. -/
structure Alike (r r' : Raster) : Prop extends InTime r r' where
  registers_eq : r'.registers = r.registers

theorem Alike.advance {r r' : Raster} (h : r.Alike r') (n : Nat) :
  (r.advance n).Alike (r'.advance n)
  := ⟨h.toInTime.advance n, by simp [h.registers_eq]⟩

theorem Alike.ticksToLineEnd_eq {r r' : Raster} (h : r.Alike r') :
  r'.ticksToLineEnd = r.ticksToLineEnd
  := by
  rw [ticksToLineEnd, ticksToLineEnd, h.geometry_eq, h.beam_eq]

/-- It makes no difference to beam and registers at which tick writes are made. -/
theorem alike_foldl_write (r : Raster) (ws : List RegisterWrite) (m n : Nat) :
  ((ws.foldl write (r.advance m)).advance n).Alike (ws.foldl write (r.advance (m + n)))
  := by
  have hleft := (inTime_foldl_write (r.advance m) ws).advance n
  rw [← advance_add] at hleft
  constructor
  · apply hleft.symm.trans (inTime_foldl_write _ ws)
  · simp only [foldl_write, registers_advance]

theorem Alike.foldl_write {r r' : Raster} (h : r.Alike r') (ws : List RegisterWrite) :
  (ws.foldl write r).Alike (ws.foldl write r')
  := by
  constructor
  · apply ((inTime_foldl_write r ws).symm.trans h.toInTime).trans (inTime_foldl_write r' ws)
  · simp only [Raster.foldl_write, h.registers_eq]

/-- Writes hide no difference between engines that hold the same registers. -/
theorem Alike.foldl_write_inj {r r' : Raster} (h : r.Alike r') {ws : List RegisterWrite} :
  ws.foldl write r' = ws.foldl write r ↔ r' = r
  := by
  constructor
  · intro hwritten
    rw [Raster.foldl_write, Raster.foldl_write, Raster.mk.injEq] at hwritten
    obtain ⟨hgeometry, -, hbeam, hpicture, hrunning, hpublished, hframes, hready⟩ := hwritten
    have hregisters := h.registers_eq
    cases r
    cases r'
    rw [Raster.mk.injEq]
    exact ⟨hgeometry, hregisters, hbeam, hpicture, hrunning, hpublished, hframes, hready⟩
  · intro heq
    rw [heq]

end Raster

namespace Bus

/-! ### Twins -/

/-- Two buses without a limit on what they pay are the same but for their engines, which
have run the same number of ticks since they were `punctual` and `late`. -/
structure Twins [Arithmetic] (punctual late : Raster) (b b' : Bus) : Prop where
  eq : b' = { b with raster := b'.raster }
  budget_eq : b.budget = .unlimited
  waiting_eq : b.waiting = []
  ran : ∃ ticks, b.raster = punctual.advance ticks ∧ b'.raster = late.advance ticks

/-- Once they are flushed, two buses are the same but for their engines, which have run the
same number of ticks and then made the same writes since they were `punctual` and
`late`. -/
def Twinned [Arithmetic] (punctual late : Raster) (b b' : Bus) : Prop :=
  ∃ (own : List RegisterWrite) (ticks : Nat),
    b.flush.raster = own.foldl Raster.write (punctual.advance ticks)
    ∧ b'.flush = { b.flush with raster := own.foldl Raster.write (late.advance ticks) }

theorem flush_of_unlimited {b : Bus} (h : b.budget = .unlimited) :
  b.flush =
    { b with
      raster := b.waiting.foldl Raster.write (b.raster.advance b.owed)
      owed := 0
      waiting := [] }
  := by
  have hc : b.budget.covers b.owed = true := by rw [h, Budget.covers]
  rw [flush_of_covers hc, h, Budget.spend, ← h]

theorem waitForLine_of_unlimited {b : Bus} (h : b.budget = .unlimited) (howed : b.owed = 0) :
  b.waitForLine = { b with raster := b.raster.advance b.raster.ticksToLineEnd }
  := by
  unfold waitForLine
  rw [howed, h]
  simp only [Budget.covers, Budget.spend, decide_true, Bool.and_self, if_true]

section

variable {punctual late : Raster} {b b' : Bus}

theorem Twins.raster_alike (hr : punctual.Alike late) (h : Twins punctual late b b') :
  b.raster.Alike b'.raster
  := by
  obtain ⟨ticks, hpunctual, hlate⟩ := h.ran
  rw [hpunctual, hlate]
  apply hr.advance ticks

theorem Twins.charge (h : Twins punctual late b b') (cycles : Nat) :
  Twins punctual late (b.charge cycles) (b'.charge cycles)
  := by
  obtain ⟨heq, hbudget, hwaiting, hran⟩ := h
  constructor
  · rw [heq]
    rfl
  · apply hbudget
  · apply hwaiting
  · apply hran

theorem Twins.store (h : Twins punctual late b b') (memory : Memory) :
  Twins punctual late { b with memory := memory } { b' with memory := memory }
  := by
  obtain ⟨heq, hbudget, hwaiting, hran⟩ := h
  constructor
  · rw [heq]
  · apply hbudget
  · apply hwaiting
  · apply hran

theorem Twins.flush (h : Twins punctual late b b') :
  Twins punctual late b.flush b'.flush ∧ b.flush.owed = 0
  := by
  obtain ⟨heq, hbudget, hwaiting, ticks, hpunctual, hlate⟩ := h
  have hbudget' : b'.budget = .unlimited := by rw [heq, hbudget]
  rw [flush_of_unlimited hbudget, flush_of_unlimited hbudget']
  refine ⟨⟨?_, hbudget, rfl, ticks + b.owed, ?_, ?_⟩, rfl⟩
  · rw [heq]
  · rw [hwaiting, hpunctual, Raster.advance_add]
    rfl
  · rw [Raster.advance_add, ← hlate]
    rw [heq, hwaiting]
    rfl

theorem twinned_of_flush (h : Twins punctual late b.flush b'.flush) :
  Twinned punctual late b b'
  := by
  obtain ⟨heq, -, -, ticks, hpunctual, hlate⟩ := h
  refine ⟨[], ticks, hpunctual, ?_⟩
  rw [heq, hlate]
  rfl

theorem Twins.twinned (h : Twins punctual late b b') :
  Twinned punctual late b b'
  := twinned_of_flush h.flush.1

theorem Twins.waitForLine (hr : punctual.Alike late) (h : Twins punctual late b b')
    (howed : b.owed = 0) :
  Twins punctual late b.waitForLine b'.waitForLine ∧ b.waitForLine.owed = 0
  := by
  have hline := (h.raster_alike hr).ticksToLineEnd_eq
  obtain ⟨heq, hbudget, hwaiting, ticks, hpunctual, hlate⟩ := h
  have hbudget' : b'.budget = .unlimited := by rw [heq, hbudget]
  have howed' : b'.owed = 0 := by rw [heq, howed]
  rw [waitForLine_of_unlimited hbudget howed, waitForLine_of_unlimited hbudget' howed', hline]
  refine ⟨⟨?_, hbudget, hwaiting, ticks + b.raster.ticksToLineEnd, ?_, ?_⟩, howed⟩
  · rw [heq]
  · rw [Raster.advance_add, ← hpunctual]
  · rw [Raster.advance_add, ← hlate]

theorem Twins.touch (hr : punctual.Alike late) (h : Twins punctual late b b')
    (address : UInt16) :
  Twins punctual late (b.touch address) (b'.touch address) ∧ (b.touch address).owed = 0
  := by
  obtain ⟨hflush, howed⟩ := h.flush
  unfold Bus.touch
  dsimp only
  split_ifs
  · apply hflush.waitForLine hr howed
  · exact ⟨hflush, howed⟩

/-- Twins that owe nothing make a register write at once. -/
theorem Twins.post (h : Twins punctual late b b') (howed : b.owed = 0) (w : RegisterWrite) :
  Twinned punctual late (b.post w) (b'.post w)
  := by
  obtain ⟨heq, hbudget, hwaiting, ticks, hpunctual, hlate⟩ := h
  have howed' : b'.owed = 0 := by rw [heq, howed]
  have hwaiting' : b'.waiting = [] := by rw [heq, hwaiting]
  refine ⟨[w], ticks, ?_⟩
  unfold Bus.post
  rw [if_pos howed, if_pos howed', ← hpunctual, ← hlate,
    flush_of_settled (b := { b with raster := b.raster.write w }) howed hwaiting,
    flush_of_settled (b := { b' with raster := b'.raster.write w }) howed' hwaiting']
  constructor
  · rfl
  · rw [heq]
    rfl

/-- Twins find the same byte. -/
theorem Twins.read (hr : punctual.Alike late) (h : Twins punctual late b b')
    (address : UInt16) :
  (b'.read address).1 = (b.read address).1
    ∧ Twins punctual late (b.read address).2 (b'.read address).2
  := by
  have hmemory : b'.memory = b.memory := by rw [h.eq]
  simp only [Bus.read]
  split_ifs
  · obtain ⟨htouch, -⟩ := h.touch hr address
    rw [(htouch.raster_alike hr).registers_eq]
    exact ⟨rfl, htouch⟩
  · rw [hmemory]
    exact ⟨rfl, h⟩

/-- A write to memory has the same result on twins. -/
theorem Twins.write_memory (h : Twins punctual late b b') {address : UInt16}
    (ha : ¬ address < windowSize) (value : UInt8) :
  (b'.write address value).1 = (b.write address value).1
    ∧ Twins punctual late (b.write address value).2 (b'.write address value).2
  := by
  have hmemory : b'.memory = b.memory := by rw [h.eq]
  simp only [Bus.write, if_neg ha, hmemory]
  split
  · exact ⟨rfl, h⟩
  · exact ⟨rfl, h.store _⟩

/-- A write has the same result on twins. -/
theorem Twins.write (hr : punctual.Alike late) (h : Twins punctual late b b')
    (address : UInt16) (value : UInt8) :
  (b'.write address value).1 = (b.write address value).1
    ∧ Twinned punctual late (b.write address value).2 (b'.write address value).2
  := by
  by_cases ha : address < windowSize
  · obtain ⟨htouch, howed⟩ := h.touch hr address
    simp only [Bus.write, if_pos ha]
    split_ifs
    · exact ⟨rfl, htouch.twinned⟩
    · exact ⟨rfl, htouch.post howed _⟩
  · obtain ⟨hresult, htwins⟩ := h.write_memory ha value
    exact ⟨hresult, htwins.twinned⟩

end

/-! ### Old debts -/

/-- The bus with its engine still at `r`, with `owed` ticks owed from before, and with
writes that wait behind those. -/
def overdue (b : Bus) (r : Raster) (owed : Nat) (waiting : List RegisterWrite) : Bus :=
  { b with raster := r, owed := owed + b.owed, waiting := waiting }

/-- A flush pays the old debt together with the new one, and makes the waiting writes only
then. -/
theorem twins_flush_overdue {b : Bus} (hb : b.budget = .unlimited) (hw : b.waiting = [])
    (r : Raster) (owed : Nat) (waiting : List RegisterWrite) :
  Twins (b.raster.advance b.owed) (waiting.foldl Raster.write (r.advance (owed + b.owed)))
    b.flush (b.overdue r owed waiting).flush
  := by
  rw [flush_of_unlimited hb, flush_of_unlimited (b := b.overdue _ _ _) hb, hw]
  exact ⟨rfl, hb, rfl, 0, rfl, rfl⟩

theorem twinned_overdue {b : Bus} (hb : b.budget = .unlimited) (hw : b.waiting = [])
    (r : Raster) (owed : Nat) (waiting : List RegisterWrite) :
  Twinned (b.raster.advance b.owed) (waiting.foldl Raster.write (r.advance (owed + b.owed)))
    b (b.overdue r owed waiting)
  := twinned_of_flush (twins_flush_overdue hb hw r owed waiting)

/-- An access to the register window begins with a flush. -/
theorem touch_flush (b : Bus) (address : UInt16) :
  b.flush.touch address = b.touch address
  := by
  rw [touch, touch, flush_flush]

theorem read_flush (b : Bus) {address : UInt16} (ha : address < windowSize) :
  b.flush.read address = b.read address
  := by
  simp only [read, if_pos ha, touch_flush]

theorem write_flush (b : Bus) {address : UInt16} (ha : address < windowSize) (value : UInt8) :
  b.flush.write address value = b.write address value
  := by
  simp only [write, if_pos ha, touch_flush]

end Bus

end RasterConsole
