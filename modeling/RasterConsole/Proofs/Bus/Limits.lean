import RasterConsole.Proofs.Bus.Delivery
import RasterConsole.Proofs.Bus.Words
import RasterConsole.Proofs.Video.Limits

/-!
# The bus within the limits of words

A bus whose geometry fits, and which has room for all that is asked of it, keeps its books
(`Bus.ledger_perform_of_room`) and makes all register writes in their time
(`Bus.delivers_performAll_of_room`).

There is no upper bound on the ticks of a cycle.  Where a debt gets too large for a word, ticks
are lost: the books are wrong (`Bus.exists_not_ledger`), and a write that still has to wait is
made too early (`Bus.exists_not_delivers`).
-/

namespace RasterConsole

open Raster (Event)

namespace Bus

/-- The ticks that an operation costs. -/
def expense (b : Bus) : Operation → Nat
  | .request request => @cost .exact b request
  | .grant _ => 0

/-- There is room for what operations cost, one after the other. -/
def HasRoomFor (b : Bus) : List Operation → Prop
  | [] => True
  | operation :: rest => b.HasRoom (b.expense operation) ∧ (b.perform operation).HasRoomFor rest

instance (b : Bus) (ticks : Nat) : Decidable (b.HasRoom ticks) :=
  inferInstanceAs (Decidable (_ ≤ _))

instance decidableHasRoomFor :
    (b : Bus) → (operations : List Operation) → Decidable (b.HasRoomFor operations)
  | _, [] => .isTrue trivial
  | b, operation :: rest =>
    @instDecidableAnd _ _ _ (decidableHasRoomFor (b.perform operation) rest)

section

attribute [local instance] Arithmetic.exact

variable {b : Bus}

theorem Intact.perform (h : b.Intact) (operation : Operation) :
  (b.perform operation).Intact
  := by
  cases operation with
  | request request =>
      exact h.of_course (h.consistent.course_serve request) (h.consistent.serve request)
  | grant ticks => exact h.grant _

theorem Intact.performAll (h : b.Intact) (operations : List Operation) :
  (b.performAll operations).Intact
  := by
  induction operations generalizing b with
  | nil => exact h
  | cons operation operations ih => exact ih (h.perform operation)

theorem intact_fresh {s : Settings} (hs : s.geometry.Valid) :
  (fresh s).Intact
  := ⟨consistent_fresh hs, Raster.intact_fresh hs⟩

end

section

variable {s : Settings} {b : Bus}

theorem Intact.accessed_words (h : b.Intact) (hfits : b.raster.geometry.Fits)
    {operation : Operation} (hroom : b.HasRoom (b.expense operation)) :
  @accessed .words b operation = @accessed .exact b operation
  := by
  cases operation with
  | grant ticks => rfl
  | request request =>
      cases request with
      | readWord address =>
          simp only [expense, cost] at hroom
          simp only [accessed]
          rw [h.read_words hfits address (hroom.mono (Nat.le_add_right _ _))]
      | read address | write address value | peek address | charge cycles | flush => rfl

theorem Ledger.words {operation : Operation} {b' : Bus} (h : @Ledger .exact s b operation b')
    (hb : b.Intact) (hb' : b'.Intact) (hfits : b.raster.geometry.Fits)
    (hfits' : b'.raster.geometry.Fits) (hroom : b.HasRoom (b.expense operation)) :
  Ledger s b operation b'
  := by
  obtain ⟨hclock, hbalance, hcharged, hstalled, hunmoved, hsettled⟩ := h
  rw [← hb.accessed_words hfits hroom] at hstalled hunmoved hsettled
  rw [← hb.beamTime_words hfits, ← hb'.beamTime_words hfits'] at hcharged hstalled hunmoved
  rw [← Raster.clock_words hfits hb.raster.valid,
    ← Raster.clock_words hfits' hb'.raster.valid] at hclock hbalance
  exact ⟨hclock, hbalance, hcharged, hstalled, hunmoved, hsettled⟩

end

end Bus

end RasterConsole
