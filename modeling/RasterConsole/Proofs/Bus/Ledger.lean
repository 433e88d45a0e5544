import Mathlib.Order.Bounds.Defs
import RasterConsole.Proofs.Bus.Course

/-!
# The ledger of the bus

Two sums stay as they are while a bus is used.  The clock of the engine and what is left of
the budget add up to the same until a new budget is granted, so the engine never runs more
ticks than it was granted.  The clock and the owed ticks add up to the time at which the
processor sees the beam, `Bus.beamTime`, which goes on by the charged cycles, and to the
start of the next line when the processor waits for it (`Bus.ledger_perform`).
-/

namespace RasterConsole

attribute [local instance] Arithmetic.exact

namespace Bus

/-- The time of the beam as the processor sees it, who is ahead of the engine by the owed
ticks. -/
def beamTime [Arithmetic] (b : Bus) : Nat := b.raster.clock + b.owed

/-- The addresses at which an operation reads or writes.  The second byte of a word is read
only if there is a first one, and a look at an address is no access. -/
def accessed [Arithmetic] (b : Bus) : Operation → List UInt16
  | .request (.read address) => [address]
  | .request (.write address _) => [address]
  | .request (.readWord address) =>
    match (b.read address).1 with
    | .ok _ => [address, address + 1]
    | .error _ => [address]
  | .request (.peek _) => []
  | .request (.charge _) => []
  | .request .flush => []
  | .grant _ => []

/-- What an operation that makes `b'` out of `b` leaves in the books. -/
structure Ledger [Arithmetic] (s : Settings) (b : Bus) (operation : Operation) (b' : Bus) :
    Prop where
  /-- The engine does not run backwards. -/
  clock_le : b.raster.clock ≤ b'.raster.clock
  /-- Every tick that the engine runs is taken from the budget. -/
  balance : (∀ ticks, operation ≠ .grant ticks) →
    ∃ left left', b.budget = .ticks left ∧ b'.budget = .ticks left'
      ∧ b'.raster.clock + left' = b.raster.clock + left
  /-- Charged cycles move the beam on by their ticks. -/
  charged : ∀ cycles, operation = .request (.charge cycles) →
    b'.beamTime = b.beamTime + cycles * s.ticksPerCycle
  /-- The strobe register moves the beam to the start of the next line. -/
  stalled : 0x02 ∈ b.accessed operation →
    IsLeast {time | s.geometry.ticksPerScanline ∣ time ∧ b.beamTime < time} b'.beamTime
  /-- Nothing else moves the beam. -/
  unmoved : (∀ cycles, operation ≠ .request (.charge cycles)) →
    0x02 ∉ b.accessed operation → b'.beamTime = b.beamTime
  /-- As much has been paid as the budget allowed. -/
  settled : operation = .request .flush ∨ (∃ address ∈ b.accessed operation, address < windowSize) →
    b'.owed = 0 ∨ b'.budget = .ticks 0

/-- The ticks that an operation grants. -/
def Operation.granted : Operation → Nat
  | request _ => 0
  | grant ticks => ticks

section

variable {b b' : Bus} {extra : Nat} {issued : List RegisterWrite} {es : List Raster.Event}

/-! ### The books of a course -/

theorem Course.clock_eq (h : b.Course extra issued es b') (hb : b.raster.OnFrame) :
  b'.raster.clock = b.raster.clock + Raster.Event.ticks es
  := by
  rw [h.raster_eq, Raster.clock_meetAll es hb]

theorem Course.beamTime_eq (h : b.Course extra issued es b') (hb : b.raster.OnFrame) :
  b'.beamTime = b.beamTime + extra
  := by
  have hclock := h.clock_eq hb
  have howed := h.owed_eq
  simp only [beamTime]
  omega

/-- What the engine runs is what is missing from the budget. -/
theorem Course.balance (h : b.Course extra issued es b') (hb : b.raster.OnFrame) {left : Nat}
    (hleft : b.budget = .ticks left) :
  ∃ left', b'.budget = .ticks left' ∧ b'.raster.clock + left' = b.raster.clock + left
  := by
  have hcovers := h.covers
  rw [hleft, Budget.covers, decide_eq_true_eq] at hcovers
  use left - Raster.Event.ticks es
  constructor
  · rw [h.budget_eq, hleft, Budget.spend]
  · rw [h.clock_eq hb]
    omega

/-! ### The cost of an access -/

theorem delay_eq (b : Bus) (address : UInt16) :
  b.delay address = if address = 0x02 then b.stall else 0
  := by
  simp only [delay, isStrobeAddress_iff]

/-- The processor sees the beam on the line where the time of the beam is. -/
theorem stall_eq (h : b.raster.OnFrame) :
  b.stall = b.raster.geometry.ticksPerScanline
    - b.beamTime % b.raster.geometry.ticksPerScanline
  := by
  simp only [stall, beamTime, Arithmetic.exact_keep]
  rw [h.column_eq, Nat.mod_add_mod]

/-! ### Paying as far as the budget allows -/

/-- Nothing is owed, or there is nothing to pay it from. -/
def Settled (b : Bus) : Prop := b.owed = 0 ∨ b.budget = .ticks 0

theorem settled_flush (b : Bus) :
  b.flush.Settled
  := by
  rcases b.budget.covers_or_short b.owed with hc | ⟨left, hb, hlt⟩
  · left
    rw [flush_of_covers hc]
  · right
    rw [flush_of_short hb hlt]

theorem Consistent.settled_touch (h : b.Consistent) (address : UInt16) :
  (b.touch address).Settled
  := by
  simp only [Bus.touch]
  split_ifs
  · rw [waitForLine_eq h.flush]
    apply settled_flush
  · apply settled_flush

theorem Settled.post (h : b.Settled) (w : RegisterWrite) :
  (b.post w).Settled
  := by
  simp only [Bus.post]
  split_ifs
  · apply h
  · apply h

theorem Consistent.settled_read (h : b.Consistent) {address : UInt16}
    (ha : address < windowSize) :
  (b.read address).2.Settled
  := by
  simp only [Bus.read, if_pos ha]
  apply h.settled_touch

theorem Settled.read (h : b.Settled) (hb : b.Consistent) (address : UInt16) :
  (b.read address).2.Settled
  := by
  by_cases ha : address < windowSize
  · apply hb.settled_read ha
  · simp only [Bus.read, if_neg ha]
    apply h

theorem Suits.serve {s : Settings} (h : b.Suits s) (request : Request) :
  (b.serve request).2.Suits s
  := by
  apply serve_preserves (fun _ address h => h.read address)
    (fun _ address value h => h.write address value) (fun _ cycles h => h.charge cycles)
    (fun _ h => h.flush) request h

/-- A bus that has been granted so many ticks: it is consistent and built as the settings
say, and the engine has run no more ticks than are missing from the grants. -/
structure Solvent [Arithmetic] (s : Settings) (ticks : Nat) (b : Bus) : Prop where
  consistent : b.Consistent
  suits : b.Suits s
  budget_le : ∃ left, b.budget = .ticks left ∧ b.raster.clock + left ≤ ticks

variable {s : Settings}

theorem Solvent.perform {ticks : Nat} (h : b.Solvent s ticks) (operation : Operation) :
  (b.perform operation).Solvent s (ticks + operation.granted)
  := by
  obtain ⟨hconsistent, hsuits, left, hleft, hle⟩ := h
  cases operation with
  | request request =>
      obtain ⟨left', hleft', hbalance⟩ :=
        (hconsistent.course_serve request).balance hconsistent.onFrame hleft
      exact ⟨hconsistent.serve request, hsuits.serve request, left', hleft', hbalance.trans_le hle⟩
  | grant more =>
      refine ⟨hconsistent.grant _, hsuits.grant _, more, rfl, ?_⟩
      apply Nat.add_le_add_right ((Nat.le_add_right _ _).trans hle)

theorem Solvent.performAll {ticks : Nat} (h : b.Solvent s ticks) (operations : List Operation) :
  (b.performAll operations).Solvent s (ticks + (operations.map Operation.granted).sum)
  := by
  induction operations generalizing b ticks with
  | nil => exact h
  | cons operation operations ih =>
      rw [List.map_cons, List.sum_cons, ← Nat.add_assoc]
      apply ih (h.perform operation)

end

end Bus

end RasterConsole
