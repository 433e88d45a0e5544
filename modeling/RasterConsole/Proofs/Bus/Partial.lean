import RasterConsole.Proofs.Bus.Course
import RasterConsole.Proofs.Video.Partial

/-!
# The bus in partial arithmetic

The bus on the operations of `Partial`: what is paid is taken from the debt and from the budget
only if it is there, and the rest of a line is a remainder and a difference that have to exist.
A bus is `Intact` if it is consistent and its engine is intact.  No operation stops on an intact
bus, and all of them leave it intact.
-/

namespace RasterConsole

attribute [local instance] Arithmetic.exact

open Partial

/-- The budget after some ticks of it are used, if it has so many. -/
def Budget.spend? (b : Budget) (used : Nat) : Option Budget :=
  match b with
  | ticks left => do return ticks (← minus left used)
  | unlimited => return unlimited

theorem Budget.spend?_eq {b : Budget} {used : Nat} (h : b.covers used = true) :
  b.spend? used = some (b.spend used)
  := by
  cases b with
  | ticks left =>
      rw [spend?, minus_of_le (of_decide_eq_true h)]
      rfl
  | unlimited => rfl

theorem Budget.share_le (b : Budget) (owed : Nat) :
  b.share owed ≤ owed
  := by
  cases b with
  | ticks left => exact Nat.min_le_left _ _
  | unlimited => exact le_rfl

theorem Budget.covers_share (b : Budget) (owed : Nat) :
  b.covers (b.share owed) = true
  := by
  cases b with
  | ticks left => exact decide_eq_true (Nat.min_le_right _ _)
  | unlimited => rfl

namespace Bus

/-- The bus after as many owed ticks as the budget allows. -/
def pay? (b : Bus) : Option Bus := do
  let share := b.budget.share b.owed
  let raster ← b.raster.advance? share
  let owed ← minus b.owed share
  let budget ← b.budget.spend? share
  return { b with raster := raster, owed := owed, budget := budget }

/-- The bus after a flush. -/
def flush? (b : Bus) : Option Bus := do
  let paid ← b.pay?
  return if paid.owed = 0 then paid.land else paid

/-- The ticks from the beam, as the processor sees it, to the start of the next line. -/
def stall? (b : Bus) : Option Nat := do
  let line := b.raster.geometry.ticksPerScanline
  minus line (← remainder (b.raster.beam.column + b.owed) line)

/-- The bus that owes the rest of the line, after a flush. -/
def oweLine? (b : Bus) : Option Bus := do
  let ticks ← b.stall?
  (b.owe ticks).flush?

/-- The bus after the processor has waited for the end of the line. -/
def waitForLine? (b : Bus) : Option Bus := do
  if b.owed = 0 then
    let ticks ← b.raster.ticksToLineEnd?
    if b.budget.covers ticks then
      let raster ← b.raster.advance? ticks
      let budget ← b.budget.spend? ticks
      return { b with raster := raster, budget := budget }
    else b.oweLine?
  else b.oweLine?

/-- The bus after an access to an address of the register window, before a value moves. -/
def touch? (b : Bus) (address : UInt16) : Option Bus := do
  let settled ← b.flush?
  if isStrobeAddress address then settled.waitForLine? else return settled

/-- A read by the processor. -/
def read? (b : Bus) (address : UInt16) : Option (Except Fault UInt8 × Bus) := do
  if address < windowSize then
    let settled ← b.touch? address
    return (.ok (settled.raster.registers.read address), settled)
  else return (b.memory.read address.toNat, b)

/-- A write by the processor. -/
def write? (b : Bus) (address : UInt16) (value : UInt8) : Option (Except Fault Unit × Bus) := do
  if address < windowSize then
    let settled ← b.touch? address
    if isStrobeAddress address then return (.ok (), settled)
    else return (.ok (), settled.post ⟨address, value⟩)
  else return b.write address value

/-- The bus is consistent, and its engine is intact. -/
structure Intact (b : Bus) : Prop where
  consistent : b.Consistent
  raster : b.raster.Intact

section

variable {b : Bus}

/-- Whatever happens to an engine in a course leaves it intact. -/
theorem Intact.of_course {b' : Bus} {extra : Nat} {issued : List RegisterWrite}
    {events : List Raster.Event} (h : b.Intact) (hcourse : b.Course extra issued events b')
    (hb' : b'.Consistent) :
  b'.Intact
  := by
  refine ⟨hb', ?_⟩
  rw [hcourse.raster_eq]
  exact h.raster.meetAll events

theorem Intact.flush (h : b.Intact) :
  b.flush.Intact
  := h.of_course b.course_flush h.consistent.flush

theorem Intact.grant (h : b.Intact) (budget : Budget) :
  (b.grant budget).Intact
  := ⟨h.consistent.grant budget, h.raster⟩

theorem Intact.charge (h : b.Intact) (cycles : Nat) :
  (b.charge cycles).Intact
  := ⟨h.consistent.charge cycles, h.raster⟩

theorem Intact.read (h : b.Intact) (address : UInt16) :
  (b.read address).2.Intact
  := h.of_course (h.consistent.course_read address) (h.consistent.read address)

theorem Intact.write (h : b.Intact) (address : UInt16) (value : UInt8) :
  (b.write address value).2.Intact
  := h.of_course (h.consistent.course_write address value) (h.consistent.write address value)

/-- Only what is owed is paid, and only what the budget has. -/
theorem Intact.pay?_eq (h : b.Intact) :
  b.pay? = some b.pay
  := by
  simp only [pay?, pay, h.raster.advance?_eq, minus_of_le (b.budget.share_le b.owed),
    Budget.spend?_eq (b.budget.covers_share b.owed)]
  rfl

theorem Intact.flush?_eq (h : b.Intact) :
  b.flush? = some b.flush
  := by
  rw [flush?, h.pay?_eq]
  rfl

/-- The rest of a line is counted from a column that is on it. -/
theorem Intact.stall?_eq (h : b.Intact) :
  b.stall? = some b.stall
  := by
  have hline := h.raster.valid.line_pos
  rw [stall?, remainder_of_pos hline]
  exact minus_of_le (Nat.le_of_lt (Nat.mod_lt _ hline))

theorem Intact.oweLine?_eq (h : b.Intact) :
  b.oweLine? = some (b.owe b.stall).flush
  := by
  have howe : (b.owe b.stall).Intact := ⟨h.consistent.owe _, h.raster⟩
  rw [oweLine?, h.stall?_eq]
  exact howe.flush?_eq

/-- The short cut spends no more than the budget has. -/
theorem Intact.waitForLine?_eq (h : b.Intact) :
  b.waitForLine? = some b.waitForLine
  := by
  unfold waitForLine? waitForLine
  by_cases howed : b.owed = 0
  · rw [if_pos howed, h.raster.onFrame.ticksToLineEnd?_eq]
    simp only [Option.bind_eq_bind, Option.bind_some]
    by_cases hcovers : b.budget.covers b.raster.ticksToLineEnd = true
    · rw [if_pos hcovers, if_pos (by simp [howed, hcovers]), h.raster.advance?_eq,
        Budget.spend?_eq hcovers]
      rfl
    · rw [if_neg hcovers, if_neg (by simp [hcovers]), h.oweLine?_eq]
      rfl
  · rw [if_neg howed, if_neg (by simp [howed]), h.oweLine?_eq]
    rfl

theorem Intact.touch?_eq (h : b.Intact) (address : UInt16) :
  b.touch? address = some (b.touch address)
  := by
  unfold touch? Bus.touch
  rw [h.flush?_eq]
  simp only [Option.bind_eq_bind, Option.bind_some]
  rw [h.flush.waitForLine?_eq]
  split_ifs
  · rfl
  · rfl

/-- A read never stops on an intact bus. -/
theorem Intact.read?_eq (h : b.Intact) (address : UInt16) :
  b.read? address = some (b.read address)
  := by
  unfold read? Bus.read
  rw [h.touch?_eq]
  split_ifs
  · rfl
  · rfl

/-- A write never stops on an intact bus. -/
theorem Intact.write?_eq (h : b.Intact) (address : UInt16) (value : UInt8) :
  b.write? address value = some (b.write address value)
  := by
  unfold write?
  rw [h.touch?_eq]
  split_ifs with hwindow hstrobe
  · simp only [Bus.write, if_pos hwindow, if_pos hstrobe]
    rfl
  · simp only [Bus.write, if_pos hwindow, if_neg hstrobe]
    rfl
  · rfl

end

end Bus

end RasterConsole
