import RasterConsole.Proofs.Bus.Ledger
import RasterConsole.Proofs.Bus.Partial
import RasterConsole.Proofs.Video.Words

/-!
# The bus on words

A bus `HasRoom` for what a request costs if what is owed then, and a line more, is a number
that words hold.  An intact bus that has room for a request does on words what it does in the
arithmetic without a limit (`Bus.Intact.serve_words`).
-/

namespace RasterConsole

open Arithmetic (words_keep)

namespace Bus

/-- What is owed when something has been charged can be counted, with all the ticks of a line. -/
def HasRoom (b : Bus) (cost : Nat) : Prop :=
  b.owed + cost + b.raster.geometry.ticksPerScanline ≤ 2 ^ 64

section

variable {b b' : Bus} {ticks more : Nat}

theorem HasRoom.mono (h : b.HasRoom ticks) (hle : more ≤ ticks) :
  b.HasRoom more
  := by
  unfold HasRoom at h ⊢
  omega

/-! ### Room in a course -/

section

attribute [local instance] Arithmetic.exact

variable {issued : List RegisterWrite} {events : List Raster.Event}

theorem Course.geometry_eq (h : b.Course ticks issued events b') :
  b'.raster.geometry = b.raster.geometry
  := by rw [h.raster_eq, Raster.geometry_meetAll]

/-- What a course costs is owed after it, or has been paid. -/
theorem Course.hasRoom (h : b.Course ticks issued events b') (hroom : b.HasRoom (ticks + more)) :
  b'.HasRoom more
  := by
  have howed := h.owed_eq
  unfold HasRoom at hroom ⊢
  rw [h.geometry_eq]
  omega

theorem Intact.course_read (h : b.Intact) (address : UInt16) :
  b.Course (b.delay address) [] (b.readEvents address) (b.read address).2
  := h.consistent.course_read address

/-- What is paid makes no difference to what is left of the line. -/
theorem Intact.hasRoom_flush (h : b.Intact) (hroom : b.HasRoom b.stall) :
  b.flush.HasRoom b.flush.stall
  := by
  rw [stall_flush h.consistent.onFrame]
  apply b.course_flush.hasRoom
  rwa [Nat.zero_add]

end

/-! ### The start -/

theorem fresh_words {s : Settings} (h : s.geometry.Fits) :
  @fresh .words s = @fresh .exact s
  := by
  unfold fresh
  rw [Raster.fresh_words h]

theorem restart_words (h : b.raster.geometry.Fits) :
  @restart .words b = @restart .exact b
  := by
  unfold restart Raster.reset
  rw [Raster.fresh_words h]

theorem reset_words (h : b.raster.geometry.Fits) :
  @reset .words b = @reset .exact b
  := by
  unfold reset
  rw [restart_words h]

/-! ### Requests -/

theorem Intact.beamTime_words (h : b.Intact) (hfits : b.raster.geometry.Fits) :
  @beamTime .words b = @beamTime .exact b
  := by
  unfold beamTime
  rw [Raster.clock_words hfits h.raster.valid]

theorem Intact.pay_words (h : b.Intact) (hfits : b.raster.geometry.Fits) :
  @pay .words b = @pay .exact b
  := by
  unfold pay
  simp only [h.raster.advance_words hfits]

theorem Intact.flush_words (h : b.Intact) (hfits : b.raster.geometry.Fits) :
  @Bus.flush .words b = @Bus.flush .exact b
  := by
  unfold Bus.flush
  rw [h.pay_words hfits]

theorem Intact.charge_words (h : b.Intact) {cycles : Nat}
    (hroom : b.HasRoom (cycles * b.ticksPerCycle)) :
  @Bus.charge .words b cycles = @Bus.charge .exact b cycles
  := by
  have hline := h.raster.valid.line_pos
  unfold HasRoom at hroom
  unfold Bus.charge
  rw [words_keep (by omega), Arithmetic.exact_keep]

/-- The column of the beam is less than the ticks of a line. -/
theorem Intact.stall_words (h : b.Intact) (hroom : b.HasRoom 0) :
  @stall .words b = @stall .exact b
  := by
  obtain ⟨hcolumn, -⟩ := h.raster.onFrame
  unfold HasRoom at hroom
  unfold stall
  rw [words_keep (by omega), Arithmetic.exact_keep]

theorem Intact.owe_stall_words (h : b.Intact) (hroom : b.HasRoom (@stall .exact b)) :
  Arithmetic.words.keep (b.owed + @stall .words b) = b.owed + @stall .exact b
  := by
  obtain ⟨hcolumn, -⟩ := h.raster.onFrame
  have hstall := h.stall_words (hroom.mono (Nat.zero_le _))
  unfold HasRoom at hroom
  rw [hstall]
  apply words_keep
  omega

theorem Intact.waitForLine_words (h : b.Intact) (hfits : b.raster.geometry.Fits)
    (hroom : b.HasRoom (@stall .exact b)) :
  @waitForLine .words b = @waitForLine .exact b
  := by
  have howe : (b.owe (@stall .exact b)).Intact := ⟨h.consistent.owe _, h.raster⟩
  unfold waitForLine
  rw [h.owe_stall_words hroom, Arithmetic.exact_keep]
  simp only [h.raster.advance_words hfits]
  split_ifs
  · rfl
  · exact howe.flush_words hfits

theorem Intact.touch_words (h : b.Intact) (hfits : b.raster.geometry.Fits) (address : UInt16)
    (hroom : b.HasRoom (@delay .exact b address)) :
  @Bus.touch .words b address = @Bus.touch .exact b address
  := by
  unfold Bus.touch
  simp only [h.flush_words hfits]
  split_ifs with hstrobe
  · unfold delay at hroom
    rw [if_pos hstrobe] at hroom
    apply h.flush.waitForLine_words _ (h.hasRoom_flush hroom)
    rwa [(course_flush b).geometry_eq]
  · rfl

theorem Intact.read_words (h : b.Intact) (hfits : b.raster.geometry.Fits) (address : UInt16)
    (hroom : b.HasRoom (@delay .exact b address)) :
  @Bus.read .words b address = @Bus.read .exact b address
  := by
  unfold Bus.read
  rw [h.touch_words hfits address hroom]

theorem Intact.write_words (h : b.Intact) (hfits : b.raster.geometry.Fits) (address : UInt16)
    (value : UInt8) (hroom : b.HasRoom (@delay .exact b address)) :
  @Bus.write .words b address value = @Bus.write .exact b address value
  := by
  unfold Bus.write
  rw [h.touch_words hfits address hroom]

end

end Bus

end RasterConsole
