import RasterConsole.Proofs.Video.Events
import RasterConsole.Proofs.Video.Exposure

/-!
# What the engine counts

`Raster.tally` counts the ticks of a frame, or of the part of it that has been run, by the
registers in force at each of them.  Whatever happens to an engine, its running counts are
the tally of the current frame and its published counts that of the last complete one
(`Raster.Counted`).

`Raster.HasMet` tells all that has happened to an engine since it was new.  What is taken
from the latch is not part of it, and makes no difference to the counts
(`Raster.HasMet.counted`).
-/

namespace RasterConsole

attribute [local instance] Arithmetic.exact

/-! ### Frames of a timeline -/

namespace Timeline

/-- The timeline after something has happened to an engine. -/
def meet (t : Timeline) : Raster.Event → Timeline
  | .tick => t.run 1
  | .write w => { t with current := t.current.write w }

/-- The timeline of what has happened to a new engine. -/
def ofEvents (events : List Raster.Event) : Timeline := events.foldl meet {}

/-- The registers that were in force at the ticks of a frame, the first of which has number
zero.  A frame has `length` ticks; those not run yet are not on the list. -/
def frame (t : Timeline) (length number : Nat) : List RegisterFile :=
  (t.past.drop (number * length)).take length

section

variable {t : Timeline} {length number : Nat}

theorem length_frame (h : t.past.length ≤ (number + 1) * length) :
  (t.frame length number).length = t.past.length - number * length
  := by
  rw [Nat.succ_mul] at h
  rw [frame, List.length_take, List.length_drop]
  omega

/-- No tick of a frame to come has been run. -/
theorem frame_eq_nil (h : t.past.length ≤ number * length) :
  t.frame length number = []
  := by
  rw [frame, List.drop_eq_nil_of_le h, List.take_nil]

theorem length_frame_of_complete (h : (number + 1) * length ≤ t.past.length) :
  (t.frame length number).length = length
  := by
  rw [Nat.succ_mul] at h
  rw [frame, List.length_take, List.length_drop]
  omega

/-- A tick is the last one of its frame so far. -/
theorem frame_run_current (h : number * length ≤ t.past.length)
    (hlt : t.past.length < (number + 1) * length) :
  (t.run 1).frame length number = t.frame length number ++ [t.current]
  := by
  rw [Nat.succ_mul] at hlt
  rw [run, frame, frame, List.drop_append_of_le_length h, List.take_of_length_le,
    List.take_of_length_le]
  · rfl
  · rw [List.length_drop]
    omega
  · rw [List.length_append, List.length_drop, List.length_replicate]
    omega

/-- A tick is none of those of a frame that is complete. -/
theorem frame_run_complete (h : (number + 1) * length ≤ t.past.length) :
  (t.run 1).frame length number = t.frame length number
  := by
  rw [Nat.succ_mul] at h
  rw [run, frame, frame, List.drop_append_of_le_length (by omega),
    List.take_append_of_le_length]
  rw [List.length_drop]
  omega

end

end Timeline

namespace Raster

/-! ### Tallies -/

/-- The band of a tick, given the registers in force and the place of the tick in its
frame. -/
def bandAt [Arithmetic] (g : Geometry) (tick : RegisterFile × Nat) : Band :=
  bandOf g tick.1 (tick.2 / g.ticksPerScanline)

/-- Whether a tick leaves a pixel. -/
def leavesPixel [Arithmetic] (g : Geometry) (tick : RegisterFile × Nat) : Bool :=
  bandAt g tick == .visible && g.hblankColumns ≤ tick.2 % g.ticksPerScanline

/-- The counts of a frame at whose ticks the given registers were in force. -/
def tally [Arithmetic] (g : Geometry) (files : List RegisterFile) : FrameStats where
  vsyncTicks := files.zipIdx.countP (bandAt g · == .verticalSync)
  blankTicks := files.zipIdx.countP (bandAt g · == .blank)
  visibleTicks := files.zipIdx.countP (bandAt g · == .visible)
  pixels := files.zipIdx.countP (leavesPixel g)

/-- The counts of a frame with one more tick. -/
theorem tally_concat (g : Geometry) (files : List RegisterFile) (file : RegisterFile) :
  tally g (files ++ [file])
    = (tally g files).count (bandAt g (file, files.length))
        (decide (g.hblankColumns ≤ files.length % g.ticksPerScanline))
  := by
  have hticks : (files ++ [file]).zipIdx = files.zipIdx ++ [(file, files.length)] := by
    rw [List.zipIdx_append, List.zipIdx_singleton, Nat.zero_add]
  generalize hband : bandAt g (file, files.length) = band
  cases band with
  | verticalSync | blank => simp [tally, hticks, leavesPixel, hband, FrameStats.count]
  | visible =>
      by_cases hcolumn : g.hblankColumns ≤ files.length % g.ticksPerScanline
      · simp [tally, hticks, leavesPixel, hband, hcolumn, FrameStats.count]
      · simp [tally, hticks, leavesPixel, hband, hcolumn, FrameStats.count]

/-- The next tick is counted under the band of its line, and leaves a pixel there if it
comes after the leading columns. -/
theorem running_expose (r : Raster) :
  r.expose.running = r.running.count (r.classify r.beam.scanline)
    (decide (r.geometry.hblankColumns ≤ r.beam.column))
  := by
  unfold expose spot?
  cases r.classify r.beam.scanline with
  | verticalSync | blank => rfl
  | visible =>
      dsimp only
      split_ifs with hcolumn
      · rw [decide_eq_true hcolumn]
      · rw [decide_eq_false hcolumn]

@[simp]
theorem published_expose (r : Raster) :
  r.expose.published = r.published
  := by
  unfold expose
  split
  · rfl
  · rfl

/-- The beam goes on within its frame, or the counts of the frame are published and start
again. -/
theorem move_cases (r : Raster) :
  r.move.frames = r.frames ∧ r.move.running = r.running ∧ r.move.published = r.published
    ∨ r.move.frames = r.frames + 1 ∧ r.move.beam = ⟨0, 0⟩ ∧ r.move.running = {}
      ∧ r.move.published = some r.running
  := by
  unfold move
  split_ifs
  · exact .inl ⟨rfl, rfl, rfl⟩
  · exact .inl ⟨rfl, rfl, rfl⟩
  · exact .inr ⟨rfl, rfl, rfl, rfl⟩

/-! ### The beam in its frame -/

section

variable {r r' : Raster}

theorem OnFrame.ticksPerFrame_pos (h : r.OnFrame) :
  0 < r.geometry.ticksPerFrame
  := by
  obtain ⟨hcolumn, hline⟩ := h
  apply Nat.mul_pos
  · omega
  · omega

/-- The clock has passed the frames before the current one, and not the current one. -/
theorem OnFrame.clock_bounds (h : r.OnFrame) :
  r.frames * r.geometry.ticksPerFrame ≤ r.clock
    ∧ r.clock < (r.frames + 1) * r.geometry.ticksPerFrame
  := by
  have hlt := Nat.mod_lt r.clock h.ticksPerFrame_pos
  rw [← h.place_eq] at hlt
  rw [Nat.succ_mul, clock]
  omega

theorem OnFrame.frames_eq (h : r.OnFrame) :
  r.frames = r.clock / r.geometry.ticksPerFrame
  := by
  obtain ⟨hle, hlt⟩ := h.clock_bounds
  exact (Nat.div_eq_of_lt_le hle hlt).symm

/-- The beam is where the clock says, counted within the current frame. -/
theorem OnFrame.beam_eq (h : r.OnFrame) :
  r.beam.scanline
      = (r.clock - r.frames * r.geometry.ticksPerFrame) / r.geometry.ticksPerScanline
    ∧ r.beam.column
      = (r.clock - r.frames * r.geometry.ticksPerFrame) % r.geometry.ticksPerScanline
  := by
  have hplace : r.clock - r.frames * r.geometry.ticksPerFrame
      = r.geometry.ticksPerScanline * r.beam.scanline + r.beam.column := by
    rw [clock, Nat.mul_comm r.beam.scanline]
    omega
  have hpos : 0 < r.geometry.ticksPerScanline := Nat.zero_lt_of_lt h.column_lt
  rw [hplace]
  constructor
  · rw [Nat.mul_add_div hpos, Nat.div_eq_of_lt h.column_lt, Nat.add_zero]
  · rw [Nat.mul_add_mod, Nat.mod_eq_of_lt h.column_lt]

end

/-! ### Counts and timelines -/

/-- The counts of the last of a number of frames. -/
def lastTally [Arithmetic] (g : Geometry) (t : Timeline) : Nat → Option FrameStats
  | 0 => none
  | number + 1 => some (tally g (t.frame g.ticksPerFrame number))

/-- The running counts are those of the current frame on the timeline, and the published
ones are those of the last complete frame. -/
structure Counted [Arithmetic] (g : Geometry) (t : Timeline) (r : Raster) : Prop where
  geometry_eq : r.geometry = g
  onFrame : r.OnFrame
  registers_eq : r.registers = t.current
  clock_eq : r.clock = t.past.length
  running_eq : r.running = tally g (t.frame g.ticksPerFrame r.frames)
  published_eq : r.published = lastTally g t r.frames

section

variable {g : Geometry} {t : Timeline} {r : Raster}

/-- The frames before the current one are complete. -/
theorem lastTally_run (h : r.OnFrame) (hclock : r.clock = t.past.length) :
  lastTally r.geometry (t.run 1) r.frames = lastTally r.geometry t r.frames
  := by
  obtain ⟨hle, -⟩ := h.clock_bounds
  rw [hclock] at hle
  cases hframes : r.frames with
  | zero => rfl
  | succ number =>
      rw [hframes] at hle
      rw [lastTally, lastTally, Timeline.frame_run_complete hle]

/-- With the next tick the counts are those of the frame so far with one more tick. -/
theorem Counted.running_expose (h : Counted g t r) :
  r.expose.running = tally g ((t.run 1).frame g.ticksPerFrame r.frames)
  := by
  obtain ⟨rfl, honFrame, hregisters, hclock, hrunning, -⟩ := h
  obtain ⟨hle, hlt⟩ := honFrame.clock_bounds
  obtain ⟨hline, hcolumn⟩ := honFrame.beam_eq
  rw [hclock] at hle hlt hline hcolumn
  rw [Timeline.frame_run_current hle hlt, tally_concat, Timeline.length_frame hlt.le, bandAt,
    ← hline, ← hcolumn, ← hregisters, ← hrunning]
  apply Raster.running_expose

theorem Counted.tick (h : Counted g t r) :
  Counted g (t.run 1) r.tick
  := by
  have hexpose := h.running_expose
  obtain ⟨rfl, honFrame, hregisters, hclock, -, hpublished⟩ := h
  have hnow : r.tick.clock = (t.run 1).past.length := by
    rw [clock_tick honFrame, hclock, Timeline.run, List.length_append, List.length_replicate]
  rcases r.expose.move_cases with
    ⟨hframes, hrunning', hpublished'⟩ | ⟨hframes, hbeam, hrunning', hpublished'⟩
  -- The frame goes on, and the complete ones stay as they are.
  · rw [frames_expose] at hframes
    rw [published_expose] at hpublished'
    constructor
    · apply geometry_tick
    · apply honFrame.tick
    · rw [registers_tick, hregisters]
      rfl
    · apply hnow
    · rw [Raster.tick, hrunning', hframes, hexpose]
    · rw [Raster.tick, hpublished', hframes, lastTally_run honFrame hclock, hpublished]
  -- The tick is the last of its frame, so the timeline ends where the next frame begins.
  · rw [frames_expose] at hframes
    have hend : (t.run 1).past.length = (r.frames + 1) * r.geometry.ticksPerFrame := by
      rw [← hnow, Raster.tick, clock, hframes, hbeam, geometry_move, geometry_expose]
      simp
    constructor
    · apply geometry_tick
    · apply honFrame.tick
    · rw [registers_tick, hregisters]
      rfl
    · apply hnow
    · rw [Raster.tick, hrunning', hframes, Timeline.frame_eq_nil hend.le]
      rfl
    · rw [Raster.tick, hpublished', hframes, hexpose]
      rfl

theorem Counted.write (h : Counted g t r) (w : RegisterWrite) :
  Counted g (t.meet (.write w)) (r.write w)
  := by
  obtain ⟨hgeometry, honFrame, hregisters, hclock, hrunning, hpublished⟩ := h
  refine ⟨hgeometry, honFrame.write w, ?_, hclock, hrunning, hpublished⟩
  rw [Raster.write, hregisters]
  rfl

theorem Counted.meetAll (h : Counted g t r) (events : List Event) :
  Counted g (events.foldl Timeline.meet t) (r.meetAll events)
  := by
  induction events generalizing t r with
  | nil => exact h
  | cons e events ih =>
      cases e with
      | tick => exact ih h.tick
      | write w => exact ih (h.write w)

theorem Counted.takeReady (h : Counted g t r) :
  Counted g t r.takeReady.2
  := by
  obtain ⟨hgeometry, ⟨hcolumn, hscanline⟩, hregisters, hclock, hrunning, hpublished⟩ := h
  exact ⟨hgeometry, ⟨hcolumn, hscanline⟩, hregisters, hclock, hrunning, hpublished⟩

end

/-! ### What has happened to an engine -/

/-- All this has happened to the engine since it was new; but for what has been taken from
the latch, it is as these events leave it. -/
def HasMet [Arithmetic] (r : Raster) (past : List Event) : Prop :=
  r.takeReady.2 = ((fresh r.geometry).meetAll past).takeReady.2

section

variable {r : Raster} {past : List Event}

theorem hasMet_fresh (g : Geometry) :
  (fresh g).HasMet []
  := rfl

theorem takeReady_expose (r : Raster) :
  r.takeReady.2.expose = r.expose.takeReady.2
  := by
  have hspot : r.takeReady.2.spot? = r.spot? := rfl
  unfold expose
  rw [hspot]
  cases r.spot? with
  | none => rfl
  | some spot => rfl

theorem takeReady_move (r : Raster) :
  r.takeReady.2.move.takeReady.2 = r.move.takeReady.2
  := by
  by_cases hcolumn : r.beam.column + 1 < r.geometry.ticksPerScanline
  · simp [move, takeReady, hcolumn]
  · by_cases hline : r.beam.scanline + 1 < r.geometry.totalScanlines
    · simp [move, takeReady, hcolumn, hline]
    · simp [move, takeReady, hcolumn, hline]

/-- What is taken from the latch makes no difference to what happens then. -/
theorem takeReady_meetAll (r : Raster) (es : List Event) :
  (r.takeReady.2.meetAll es).takeReady.2 = (r.meetAll es).takeReady.2
  := by
  induction es generalizing r with
  | nil => rfl
  | cons e es ih =>
      cases e with
      | tick =>
          rw [meetAll_tick_cons, meetAll_tick_cons, ← ih, ← ih r.tick, tick, tick,
            takeReady_expose, takeReady_move]
      | write w => exact ih (r.write w)

theorem HasMet.meetAll (h : r.HasMet past) (es : List Event) :
  (r.meetAll es).HasMet (past ++ es)
  := by
  rw [HasMet, geometry_meetAll, meetAll_append, ← takeReady_meetAll, h, takeReady_meetAll]

theorem HasMet.takeReady (h : r.HasMet past) :
  r.takeReady.2.HasMet past
  := h

end

end Raster

end RasterConsole
