import RasterConsole.Proofs.Bus.Words
import RasterConsole.Proofs.Processor.Accesses
import RasterConsole.Proofs.Processor.Partial

/-!
# The processor on words

A time of the beam is in the reach of a bus if the bus has room to owe the ticks up to it.  What
an activity owes on its way it still owes at its end, or has paid.  So if the time at its end is
in reach, an activity goes on words as in the arithmetic without a limit
(`Activity.onBus_accesses_words`), and so does an instruction (`Processor.step_words`).
-/

namespace RasterConsole

namespace Bus

/-- The bus has room to owe the ticks up to a time of the beam. -/
def InReach (b : Bus) (time : Nat) : Prop :=
  time + b.raster.geometry.ticksPerScanline ≤ @Raster.clock .exact b.raster + 2 ^ 64

section

attribute [local instance] Arithmetic.exact

variable {b b' : Bus} {extra time : Nat} {issued : List RegisterWrite}
  {events : List Raster.Event}

/-- If the end of a course is in reach, there is room for what the course costs, and what was in
reach is in reach of the end. -/
theorem Intact.room_of_course (h : b.Intact) (hcourse : b.Course extra issued events b')
    (hreach : b.InReach time) (hle : b'.beamTime ≤ time) :
  b.HasRoom extra ∧ b'.InReach time
  := by
  have hclock := hcourse.clock_eq h.raster.onFrame
  have htime := hcourse.beamTime_eq h.raster.onFrame
  simp only [beamTime] at htime hle
  unfold InReach at hreach ⊢
  unfold HasRoom
  rw [hcourse.geometry_eq]
  omega

theorem Intact.course_write (h : b.Intact) (address : UInt16) (value : UInt8) :
  b.Course (b.delay address) (Request.write address value).issued (b.writeEvents address value)
    (b.write address value).2
  := h.consistent.course_write address value

end

end Bus

namespace Activity

variable {α : Type} {b : Bus}

section

attribute [local instance] Arithmetic.exact

/-- An activity does not move the beam back. -/
theorem beamTime_le_onBus (a : Activity α) (h : b.Intact) :
  b.beamTime ≤ (a.onBus b).2.2.beamTime
  := by
  have hend : (a.onBus b).2.2.Consistent ∧ b.beamTime ≤ (a.onBus b).2.2.beamTime := by
    apply onBus_preserves (P := fun b' => b'.Consistent ∧ b.beamTime ≤ b'.beamTime)
    · rintro b' address ⟨hb', hle⟩
      have htime := (hb'.course_read address).beamTime_eq hb'.onFrame
      exact ⟨hb'.read address, by omega⟩
    · rintro b' address value ⟨hb', hle⟩
      have htime := (hb'.course_write address value).beamTime_eq hb'.onFrame
      exact ⟨hb'.write address value, by omega⟩
    · rintro b' cycles ⟨hb', hle⟩
      have htime := (b'.course_owe (cycles * b'.ticksPerCycle)).beamTime_eq hb'.onFrame
      exact ⟨hb'.charge cycles, hle.trans (htime.symm ▸ Nat.le_add_right _ _)⟩
    · exact ⟨h.consistent, le_rfl⟩
  exact hend.2

/-- What an activity does first brings the beam no further than all of it. -/
theorem beamTime_read_le (core : Core) (address : UInt16) (next : UInt8 → Activity α)
    (h : b.Intact) :
  (b.read address).2.beamTime ≤ ((read core address next).onBus b).2.2.beamTime
  := by
  cases hresult : (b.read address).1 with
  | ok byte =>
      rw [onBus_read_ok hresult]
      exact (next byte).beamTime_le_onBus (h.read address)
  | error fault => rw [onBus_read_error hresult]

theorem beamTime_write_le (core : Core) (address : UInt16) (value : UInt8) (next : Activity α)
    (h : b.Intact) :
  (b.write address value).2.beamTime ≤ ((write core address value next).onBus b).2.2.beamTime
  := by
  cases hresult : (b.write address value).1 with
  | ok _ =>
      rw [onBus_write_ok hresult]
      exact next.beamTime_le_onBus (h.write address value)
  | error fault => rw [onBus_write_error hresult]

end

/-- An activity goes on as if there were no limit, if its end is in reach, and it makes its
accesses at the same times. -/
theorem onBus_accesses_words (a : Activity α) (h : b.Intact) (hfits : b.raster.geometry.Fits)
    (hreach : b.InReach (@Bus.beamTime .exact (@onBus _ .exact a b).2.2)) :
  @onBus _ .words a b = @onBus _ .exact a b ∧ @accesses _ .words a b = @accesses _ .exact a b
  := by
  induction a generalizing b with
  | done _ _ | fail _ _ => exact ⟨rfl, rfl⟩
  | read core address next ih =>
      have hcourse := h.course_read address
      obtain ⟨hroom, hrest⟩ :=
        h.room_of_course hcourse hreach (beamTime_read_le core address next h)
      have hintact := h.read address
      have hgeometry := hcourse.geometry_eq
      simp only [onBus] at hrest
      simp only [onBus, accesses]
      rw [h.beamTime_words hfits, h.read_words hfits address hroom]
      rcases hread : @Bus.read .exact b address with ⟨fault | byte, b'⟩
      · exact ⟨rfl, rfl⟩
      · rw [hread] at hrest hintact hgeometry
        obtain ⟨hgoes, haccesses⟩ := ih byte hintact (by rwa [hgeometry]) hrest
        exact ⟨hgoes, congrArg (List.cons _) haccesses⟩
  | write core address value next ih =>
      have hcourse := h.course_write address value
      obtain ⟨hroom, hrest⟩ :=
        h.room_of_course hcourse hreach (beamTime_write_le core address value next h)
      have hintact := h.write address value
      have hgeometry := hcourse.geometry_eq
      simp only [onBus] at hrest
      simp only [onBus, accesses]
      rw [h.beamTime_words hfits, h.write_words hfits address value hroom]
      rcases hwrite : @Bus.write .exact b address value with ⟨fault | _, b'⟩
      · exact ⟨rfl, rfl⟩
      · rw [hwrite] at hrest hintact hgeometry
        obtain ⟨hgoes, haccesses⟩ := ih hintact (by rwa [hgeometry]) hrest
        exact ⟨hgoes, congrArg (List.cons _) haccesses⟩
  | charge cycles next ih =>
      have hcourse := @Bus.course_owe b (cycles * b.ticksPerCycle)
      have hle := next.beamTime_le_onBus (h.charge cycles)
      obtain ⟨hroom, hrest⟩ := h.room_of_course hcourse hreach hle
      simp only [onBus, accesses]
      rw [h.charge_words hroom]
      exact ih (h.charge cycles) hfits hrest

end Activity

namespace Processor

variable {p : Processor}

theorem flush_words (h : p.bus.Intact) (hfits : p.bus.raster.geometry.Fits) :
  @flush .words p = @flush .exact p
  := by
  unfold flush
  rw [h.flush_words hfits]

/-- An instruction goes on as if there were no limit, if its end is in reach. -/
theorem step_words (h : p.bus.Intact) (hfits : p.bus.raster.geometry.Fits)
    (hreach : p.bus.InReach (@Bus.beamTime .exact (@step .exact p).2.bus)) :
  @step .words p = @step .exact p
  := by
  unfold step
  dsimp only
  rw [((Exec.instruction p.layout.irqVector p.core).onBus_accesses_words h hfits hreach).1]

theorem accesses_words (h : p.bus.Intact) (hfits : p.bus.raster.geometry.Fits)
    (hreach : p.bus.InReach (@Bus.beamTime .exact (@step .exact p).2.bus)) :
  @accesses .words p = @accesses .exact p
  := ((Exec.instruction p.layout.irqVector p.core).onBus_accesses_words h hfits hreach).2

end Processor

end RasterConsole
